import Mathlib.Data.List.Basic
import Mathlib.Data.List.Induction

/-!
# Where a path leads

A path is a list of moves, up to the parent or down to a child. It leads so many levels
up from where it starts, and from there down by names; following one path behind another
composes where they lead.
-/

namespace Tna.Lib

/-! ## Moves -/

/-- One move along a path. -/
inductive Move (α : Type) where
  | up
  | down (name : α)
deriving DecidableEq

/-- Where a path leads: up, and then down. -/
structure Place (α : Type) where
  ups : Nat
  names : List α
deriving DecidableEq

section
variable {α : Type}

def Place.here : Place α := ⟨0, []⟩

def Place.move (p : Place α) : Move α → Place α
  | .up =>
    match p.names with
    | [] => ⟨p.ups + 1, []⟩
    | name :: rest => ⟨p.ups, (name :: rest).dropLast⟩
  | .down name => ⟨p.ups, p.names ++ [name]⟩

def resolve (moves : List (Move α)) : Place α := moves.foldl Place.move .here

/-- A place, seen from another. -/
def Place.comp (p q : Place α) : Place α :=
  ⟨p.ups + (q.ups - p.names.length), p.names.take (p.names.length - q.ups) ++ q.names⟩

@[simp] theorem Place.comp_here (p : Place α) : p.comp .here = p := by
  simp [Place.comp, Place.here]

@[simp] theorem Place.here_comp (p : Place α) : Place.here.comp p = p := by
  simp [Place.comp, Place.here]

theorem Place.move_up_nil (n : Nat) : (⟨n, []⟩ : Place α).move .up = ⟨n + 1, []⟩ := rfl

theorem Place.move_up_of_ne {p : Place α} (h : p.names ≠ []) : p.move .up = ⟨p.ups, p.names.dropLast⟩ := by
  obtain ⟨ups, names⟩ := p
  cases names with
  | nil => exact absurd rfl h
  | cons name rest => rfl

/-- One more move at the end of the second path is one more at the end of both. -/
theorem Place.comp_move (p q : Place α) (m : Move α) : p.comp (q.move m) = (p.comp q).move m := by
  cases m with
  | down name => simp [Place.comp, Place.move]
  | up =>
    obtain ⟨ups, names⟩ := q
    cases names with
    | cons name rest =>
      rw [Place.move_up_of_ne (by simp), Place.move_up_of_ne (by simp [Place.comp])]
      simp [Place.comp, List.dropLast_append_of_ne_nil]
    | nil =>
      rw [Place.move_up_nil]
      by_cases hleft : p.names.length ≤ ups
      · have htake : p.names.length - ups = 0 := by omega
        have htake' : p.names.length - (ups + 1) = 0 := by omega
        simp only [Place.comp, htake, htake', List.take_zero, List.append_nil, Place.move_up_nil]
        congr 1
        omega
      · have hne : (p.comp ⟨ups, []⟩).names ≠ [] := by
          intro hnil
          have hlength := congrArg List.length hnil
          simp only [Place.comp, List.append_nil, List.length_take, List.length_nil] at hlength
          omega
        rw [Place.move_up_of_ne hne]
        simp only [Place.comp, List.append_nil]
        congr 1
        · omega
        · rw [List.dropLast_eq_take, List.take_take, List.length_take]
          congr 1
          omega

/-- **Following one path behind another.** -/
theorem resolve_append (l l' : List (Move α)) : resolve (l ++ l') = (resolve l).comp (resolve l') := by
  induction l' using List.reverseRecOn with
  | nil => simp [resolve]
  | append_singleton rest m ih =>
    have hsnoc : ∀ moves : List (Move α), resolve (moves ++ [m]) = (resolve moves).move m := fun moves => by
      rw [resolve, List.foldl_append]
      rfl
    rw [← List.append_assoc, hsnoc, hsnoc, ih, Place.comp_move]

/-- **A path leads below a place** when it climbs no further than the names of the place and
comes down by those it climbed. -/
theorem Place.comp_eq_below {p q : Place α} {rest : List α} :
    p.comp q = ⟨p.ups, p.names ++ rest⟩ ↔
      q.ups ≤ p.names.length ∧ q.names = p.names.drop (p.names.length - q.ups) ++ rest := by
  rw [Place.comp, Place.mk.injEq]
  have hsplit : p.names ++ rest = p.names.take (p.names.length - q.ups) ++ (p.names.drop (p.names.length - q.ups) ++ rest) := by
    rw [← List.append_assoc, List.take_append_drop]
  constructor
  · rintro ⟨hups, hnames⟩
    rw [hsplit, List.append_cancel_left_eq] at hnames
    exact ⟨by omega, hnames⟩
  · rintro ⟨hups, hnames⟩
    exact ⟨by omega, by rw [hsplit, hnames]⟩

end

end Tna.Lib
