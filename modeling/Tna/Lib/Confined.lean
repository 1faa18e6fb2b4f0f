import Mathlib.Data.List.Basic
import Tna.Lib.Handler
import Tna.Lib.Rows

/-!
# Views of a shared store

Several owners share a store, and each has a view of it. An operation is confined to an owner
when what it answers and what it does to the owner's view depend on that view only, and no other
owner's view changes. Confined operations compose, and runs of them do not interfere: an owner
sees what it would see if nobody else had acted.
-/

namespace Tna.Lib

section
variable {S K α β : Type} {view : K → S → S}

/-- An operation that answers and may change the store. -/
abbrev Operation (S α : Type) : Type := S → α × S

/-- The operation is a function of the owner's view, and leaves the views of all others. -/
structure Confined (view : K → S → S) (k : K) (op : Operation S α) : Prop where
  answer : ∀ s, (op s).1 = (op (view k s)).1
  own : ∀ s, view k (op s).2 = view k (op (view k s)).2
  others : ∀ s j, j ≠ k → view j (op s).2 = view j s

variable {k : K} {op : Operation S α} {s t : S}

/-- **Two runs**: on stores that agree in the owner's view the answers are the same, and so are the views after. -/
theorem Confined.two_runs (h : Confined view k op) (hst : view k s = view k t) :
    (op s).1 = (op t).1 ∧ view k (op s).2 = view k (op t).2 := by
  constructor
  · rw [h.answer s, hst, ← h.answer t]
  · rw [h.own s, hst, ← h.own t]

/-- An operation that reads, and only the view. -/
theorem Confined.read {f : S → α} (hview : ∀ s, view k (view k s) = view k s) (h : ∀ s, f s = f (view k s)) :
    Confined view k fun s => (f s, s) :=
  ⟨h, fun s => (hview s).symm, fun _ _ _ => rfl⟩

/-- One operation after another that depends on its answer. -/
theorem Confined.bind {next : α → Operation S β} (hop : Confined view k op) (hnext : ∀ a, Confined view k (next a)) :
    Confined view k fun s => next (op s).1 (op s).2 := by
  refine ⟨?_, ?_, ?_⟩
  · intro s
    rw [hop.answer s]
    exact ((hnext _).two_runs (hop.own s)).1
  · intro s
    rw [hop.answer s]
    exact ((hnext _).two_runs (hop.own s)).2
  · intro s j hj
    rw [(hnext _).others _ j hj, hop.others s j hj]

/-- Only the answer is changed. -/
theorem Confined.map (hop : Confined view k op) (f : α → β) : Confined view k fun s => (f (op s).1, (op s).2) :=
  ⟨fun s => congrArg f (hop.answer s), hop.own, hop.others⟩

/-! ## Handlers -/

section
variable {ε : Type} {k : K}

/-- A handler, with its error as an answer. -/
def operation (m : EStateM ε S α) : Operation S (Except ε α) := fun s =>
  match m s with
  | .ok a t => (.ok a, t)
  | .error e t => (.error e, t)

theorem confined_pure (hview : ∀ s, view k (view k s) = view k s) (a : α) :
    Confined view k (operation (pure a : EStateM ε S α)) :=
  ⟨fun _ => rfl, fun s => (hview s).symm, fun _ _ _ => rfl⟩

theorem confined_throw (hview : ∀ s, view k (view k s) = view k s) (e : ε) :
    Confined view k (operation (throw e : EStateM ε S α)) :=
  ⟨fun _ => rfl, fun s => (hview s).symm, fun _ _ _ => rfl⟩

variable {m : EStateM ε S α}

/-- A sequence of handlers, the second of which depends on the answer of the first. -/
theorem confined_bind {f : α → EStateM ε S β} (hm : Confined view k (operation m)) (hview : ∀ s, view k (view k s) = view k s)
    (hf : ∀ a, Confined view k (operation (f a))) : Confined view k (operation (m >>= f)) := by
  have hnext : ∀ r : Except ε α, Confined view k fun s =>
      match r with
      | .ok a => operation (f a) s
      | .error e => ((.error e : Except ε β), s) := by
    intro r
    cases r with
    | ok a => exact hf a
    | error e => exact ⟨fun _ => rfl, fun s => (hview s).symm, fun _ _ _ => rfl⟩
  have heq : operation (m >>= f) = fun s =>
      match (operation m s).1 with
      | .ok a => operation (f a) (operation m s).2
      | .error e => ((.error e : Except ε β), (operation m s).2) := by
    funext s
    simp only [operation, bind, EStateM.bind]
    cases m s <;> rfl
  rw [heq]
  exact hm.bind hnext

/-- What is read of the state is read of the view. -/
theorem confined_get {γ : Type} {g : S → γ} {f : γ → EStateM ε S β} (hg : ∀ s, g s = g (view k s))
    (hf : ∀ c, Confined view k (operation (f c))) : Confined view k (operation (do f (g (← get)))) := by
  refine ⟨?_, ?_, ?_⟩
  · intro s
    show (operation (f (g s)) s).1 = (operation (f (g (view k s))) (view k s)).1
    rw [← hg]
    exact (hf _).answer s
  · intro s
    show view k (operation (f (g s)) s).2 = view k (operation (f (g (view k s))) (view k s)).2
    rw [← hg]
    exact (hf _).own s
  · intro s j hj
    exact (hf _).others s j hj

/-- A transaction, which is rolled back where its body throws or it does not commit. -/
theorem confined_tx (hm : Confined view k (operation m)) (hview : ∀ s, view k (view k s) = view k s) (commits : Bool)
    (failure : ε) : Confined view k (operation (tx commits failure m)) := by
  have hrolled : ∀ s, operation (tx commits failure m) s =
      match (operation m s).1 with
      | .ok a => if commits then (.ok a, (operation m s).2) else (.error failure, s)
      | .error e => (.error e, s) := by
    intro s
    simp only [operation, tx]
    cases m s with
    | ok a t => cases commits <;> rfl
    | error e t => rfl
  refine ⟨?_, ?_, ?_⟩
  · intro s
    rw [hrolled, hrolled, ← hm.answer s]
    cases (operation m s).1 <;> cases commits <;> rfl
  · intro s
    rw [hrolled, hrolled, ← hm.answer s]
    cases (operation m s).1 with
    | error e => exact (hview s).symm
    | ok a =>
      cases commits with
      | false => exact (hview s).symm
      | true => exact hm.own s
  · intro s j hj
    rw [hrolled]
    cases (operation m s).1 with
    | error e => rfl
    | ok a =>
      cases commits with
      | false => rfl
      | true => exact hm.others s j hj

end

/-! ## Views that select rows -/

section
variable {ρ : Type} {p q : ρ → Bool}

theorem filter_filter_of_imp (l : List ρ) (h : ∀ r, q r = true → p r = true) : (l.filter p).filter q = l.filter q := by
  rw [List.filter_filter]
  refine List.filter_congr fun r _ => ?_
  cases hq : q r with
  | false => rfl
  | true => rw [h r hq]; rfl

theorem find?_filter_of_imp (l : List ρ) (h : ∀ r, q r = true → p r = true) : (l.filter p).find? q = l.find? q := by
  rw [← List.head?_filter, ← List.head?_filter, filter_filter_of_imp l h]

theorem countP_filter_of_imp (l : List ρ) (h : ∀ r, q r = true → p r = true) : (l.filter p).countP q = l.countP q := by
  rw [List.countP_eq_length_filter, List.countP_eq_length_filter, filter_filter_of_imp l h]

theorem any_filter_of_imp (l : List ρ) (h : ∀ r, q r = true → p r = true) : (l.filter p).any q = l.any q := by
  rw [Bool.eq_iff_iff, List.any_eq_true, List.any_eq_true]
  constructor
  · rintro ⟨r, hr, hq⟩
    exact ⟨r, (List.mem_filter.1 hr).1, hq⟩
  · rintro ⟨r, hr, hq⟩
    exact ⟨r, List.mem_filter.2 ⟨hr, h r hq⟩, hq⟩

/-- An update of no row of a view leaves the view as it was. -/
theorem filter_update_others {f : ρ → ρ} (selected : ρ → Bool) (l : List ρ) (hkeep : ∀ r, p (f r) = p r)
    (hnone : ∀ r, p r = true → selected r = false) : (Rows.update selected f l).filter p = l.filter p := by
  rw [Rows.filter_update fun r _ _ => hkeep r]
  exact Rows.update_eq_self fun r hr => hnone r (List.mem_filter.1 hr).2

end

/-! ## Runs -/

/-- The answers an owner gets in a run of operations, each by its owner. -/
def answers [DecidableEq K] (k : K) : S → List (K × Operation S α) → List α
  | _, [] => []
  | s, (j, op) :: rest => if j = k then (op s).1 :: answers k (op s).2 rest else answers k (op s).2 rest

/-- **Runs do not interfere**: an owner gets the answers it would get from a store that agrees in its view, if it were
alone with it. -/
theorem answers_alone [DecidableEq K] {run : List (K × Operation S α)} (h : ∀ step ∈ run, Confined view step.1 step.2)
    (hst : view k s = view k t) : answers k s run = answers k t (run.filter fun step => step.1 = k) := by
  induction run generalizing s t with
  | nil => rfl
  | cons step rest ih =>
    obtain ⟨j, op⟩ := step
    obtain ⟨hstep, hrest⟩ := List.forall_mem_cons.1 h
    by_cases hj : j = k
    · subst hj
      obtain ⟨hanswer, hview⟩ := hstep.two_runs hst
      rw [List.filter_cons_of_pos (by simp), answers, answers, if_pos rfl, if_pos rfl, hanswer, ih hrest hview]
    · have hview : view k (op s).2 = view k t := (hstep.others s k fun hk => hj hk.symm).trans hst
      rw [List.filter_cons_of_neg (by simp [hj]), answers, if_neg hj, ih hrest hview]

end

end Tna.Lib
