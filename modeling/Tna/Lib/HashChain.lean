import Mathlib.Data.List.Forall2
import Mathlib.Data.List.Sort

/-!
# Hash chains

A list of records is a chain from a hash and a number when the records are
numbered on from there, and each is bound to the hash of the one before it. A
chain grows at its end, sorting it by number changes nothing, and its last hash binds it.
-/

namespace Tna.Lib

/-- How a record shows its number, the hash it is bound to, and its own hash. -/
structure ChainView (α H : Type) where
  seq : α → Nat
  prev : α → H
  self : α → H

namespace ChainView

section
variable {α H : Type} (v : ChainView α H)

/-- The records are numbered from `n` and chained from the hash `h`. -/
def ChainFrom : H → Nat → List α → Prop
  | _, _, [] => True
  | h, n, a :: rest => v.seq a = n ∧ v.prev a = h ∧ ChainFrom (v.self a) (n + 1) rest

/-- The hash the next record has to be bound to. -/
def lastHash (h : H) : List α → H
  | [] => h
  | a :: rest => lastHash (v.self a) rest

variable {v}

theorem lastHash_snoc (h : H) (rows : List α) (a : α) : v.lastHash h (rows ++ [a]) = v.self a := by
  induction rows generalizing h with
  | nil => rfl
  | cons b rest ih => exact ih _

variable {a : α} {h : H} {n : Nat} {rows : List α}

theorem ChainFrom.snoc (hc : v.ChainFrom h n rows) (hseq : v.seq a = n + rows.length) (hprev : v.prev a = v.lastHash h rows) :
    v.ChainFrom h n (rows ++ [a]) := by
  induction rows generalizing h n with
  | nil => exact ⟨hseq, hprev, trivial⟩
  | cons b rest ih =>
    obtain ⟨hb, hp, hrest⟩ := hc
    refine ⟨hb, hp, ih hrest ?_ hprev⟩
    rw [hseq, List.length_cons]
    omega

theorem ChainFrom.le_seq (hc : v.ChainFrom h n rows) : ∀ a ∈ rows, n ≤ v.seq a := by
  induction rows generalizing h n with
  | nil => simp
  | cons b rest ih =>
    intro a ha
    rcases List.mem_cons.1 ha with rfl | ha
    · exact hc.1.ge
    · exact Nat.le_of_succ_le (ih hc.2.2 a ha)

theorem ChainFrom.pairwise (hc : v.ChainFrom h n rows) : rows.Pairwise fun a b => v.seq a ≤ v.seq b := by
  induction rows generalizing h n with
  | nil => exact List.Pairwise.nil
  | cons b rest ih =>
    refine List.Pairwise.cons ?_ (ih hc.2.2)
    intro a ha
    exact hc.1.le.trans (Nat.le_of_succ_le (hc.2.2.le_seq a ha))

/-- A chain is in order already. -/
theorem ChainFrom.insertionSort_eq (hc : v.ChainFrom h n rows) : rows.insertionSort (fun a b => v.seq a ≤ v.seq b) = rows :=
  hc.pairwise.insertionSort_eq

/-- In a chain the record of the next number is bound to the hash of a record. -/
theorem ChainFrom.prev_of_succ (hc : v.ChainFrom h n rows) {b : α} (ha : a ∈ rows) (hb : b ∈ rows)
    (hnext : v.seq a + 1 = v.seq b) : v.prev b = v.self a := by
  induction rows generalizing h n with
  | nil => cases ha
  | cons c rest ih =>
    obtain ⟨hseq, -, hrest⟩ := hc
    rcases List.mem_cons.1 ha with rfl | hlater
    · rcases List.mem_cons.1 hb with rfl | hafter
      · exact absurd hnext (Nat.succ_ne_self _)
      · cases rest with
        | nil => cases hafter
        | cons d rest =>
          rcases List.mem_cons.1 hafter with rfl | hafter
          · exact hrest.2.1
          · have hbeyond := hrest.2.2.le_seq b hafter
            omega
    · rcases List.mem_cons.1 hb with rfl | hafter
      · have hbeyond := hrest.le_seq a hlater
        omega
      · exact ih hrest hlater hafter

/-- **A chain is bound by its last hash.** Where a hash binds what a record is and the hash it is bound to, two
chains of one length that end with one hash start from one hash and agree record by record. -/
theorem ChainFrom.forall₂_of_lastHash {R : α → α → Prop} {h' : H} {n' : Nat} {rows' : List α} (hc : v.ChainFrom h n rows)
    (hc' : v.ChainFrom h' n' rows') (hlength : rows.length = rows'.length) (hlast : v.lastHash h rows = v.lastHash h' rows')
    (hbound : ∀ a ∈ rows, ∀ b ∈ rows', v.self a = v.self b → R a b ∧ v.prev a = v.prev b) :
    h = h' ∧ List.Forall₂ R rows rows' := by
  induction rows generalizing h h' n n' rows' with
  | nil =>
    obtain rfl := List.length_eq_zero_iff.1 hlength.symm
    exact ⟨hlast, .nil⟩
  | cons a rest ih =>
    cases rows' with
    | nil => cases hlength
    | cons b rest' =>
      obtain ⟨-, hprev, hrest⟩ := hc
      obtain ⟨-, hprev', hrest'⟩ := hc'
      have hrestBound : ∀ x ∈ rest, ∀ y ∈ rest', v.self x = v.self y → R x y ∧ v.prev x = v.prev y :=
        fun x hx y hy => hbound x (List.mem_cons_of_mem _ hx) y (List.mem_cons_of_mem _ hy)
      obtain ⟨hself, hagree⟩ := ih hrest hrest' (Nat.succ.inj hlength) hlast hrestBound
      obtain ⟨hab, hsame⟩ := hbound a (List.mem_cons_self ..) b (List.mem_cons_self ..) hself
      exact ⟨hprev.symm.trans (hsame.trans hprev'), .cons hab hagree⟩

end

end ChainView

end Tna.Lib
