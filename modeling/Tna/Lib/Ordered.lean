import Mathlib.Data.List.Induction
import Mathlib.Data.List.Sort
import Mathlib.Order.Bounds.Basic

/-!
# Lists of ordered elements

Sorting a list with one more element at its end puts this element into what was sorted. What
comes before all that the element is not above stays where it was. A loop that raises a value
to each one it meets ends with the greatest of them all, and so with one that does not depend
on their order.
-/

namespace Tna.Lib

/-! ## One more element -/

section
variable {α : Type} {r : α → α → Prop} [DecidableRel r]

/-- An element that is below none of the first ones is put behind them. -/
theorem take_orderedInsert {x : α} {l : List α} {k : ℕ} (hk : k ≤ l.length) (h : ∀ a ∈ l.take k, ¬ r x a) :
    (l.orderedInsert r x).take k = l.take k := by
  induction l generalizing k with
  | nil =>
    rw [Nat.le_zero.1 hk, List.take_zero, List.take_zero]
  | cons a rest ih =>
    cases k with
    | zero => rw [List.take_zero, List.take_zero]
    | succ k =>
      rw [List.take_succ_cons, List.forall_mem_cons] at h
      rw [List.orderedInsert_of_not_le _ _ h.1, List.take_succ_cons, List.take_succ_cons,
        ih (Nat.le_of_succ_le_succ hk) h.2]

variable [Std.Total r] [IsTrans α r]

/-- **What is sorted with one more element** is what was sorted before with the element put into it. -/
theorem insertionSort_append_singleton {l : List α} {x : α}
    (hantisymm : ∀ a ∈ l ++ [x], ∀ b ∈ l ++ [x], r a b → r b a → a = b) :
    (l ++ [x]).insertionSort r = (l.insertionSort r).orderedInsert r x := by
  have hsorted := List.perm_insertionSort r (l ++ [x])
  have hinserted : ((l.insertionSort r).orderedInsert r x).Perm (l ++ [x]) := by
    refine (List.perm_orderedInsert r x _).trans ?_
    exact ((List.perm_insertionSort r l).cons x).trans (List.perm_append_singleton x l).symm
  refine (hsorted.trans hinserted.symm).eq_of_pairwise ?_ (List.pairwise_insertionSort r _)
    ((List.pairwise_insertionSort r l).orderedInsert x _)
  intro a b ha hb
  exact hantisymm a (hsorted.mem_iff.1 ha) b (hinserted.mem_iff.1 hb)

end

/-! ## The maximum a loop keeps -/

section
variable {α β : Type} [LinearOrder α]

/-- The greater of a value and another, if there is another. -/
def raise (m : α) (x : Option α) : α := x.elim m (max m)

@[simp] theorem raise_none (m : α) : raise m none = m := rfl

@[simp] theorem raise_some (m a : α) : raise m (some a) = max m a := rfl

theorem isGreatest_raise {s : Set α} {m : α} (h : IsGreatest s m) (x : Option α) :
    IsGreatest (s ∪ {a | x = some a}) (raise m x) := by
  cases x with
  | none => simpa using h
  | some a =>
    have hset : {b | some a = some b} = ({a} : Set α) := by
      ext b
      simp [eq_comm]
    rw [hset]
    exact h.union isGreatest_singleton

/-- **A loop that raises a value** ends with the greatest of the one it starts from and those it meets. -/
theorem isGreatest_foldl_raise (f : β → Option α) (l : List β) (m : α) :
    IsGreatest ({m} ∪ {a | ∃ x ∈ l, f x = some a}) (l.foldl (fun m x => raise m (f x)) m) := by
  induction l using List.reverseRecOn with
  | nil => simpa using isGreatest_singleton (a := m)
  | append_singleton l x ih =>
    rw [List.foldl_append, List.foldl_cons, List.foldl_nil]
    have hset : ({m} ∪ {a | ∃ y ∈ l ++ [x], f y = some a} : Set α) =
        {m} ∪ {a | ∃ y ∈ l, f y = some a} ∪ {a | f x = some a} := by
      ext a
      simp only [Set.mem_union, Set.mem_setOf_eq, List.mem_append, List.mem_singleton, or_and_right, exists_or,
        exists_eq_left, or_assoc]
    rw [hset]
    exact isGreatest_raise ih (f x)

end

end Tna.Lib
