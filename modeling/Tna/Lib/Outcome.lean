import Mathlib.Data.List.Forall2

/-!
# Computations that can fail

What is known of the parts of a computation in `Except` that succeeded.
-/

namespace Tna.Lib

variable {α β ε : Type} {a : α} {f : α → Option β} {l : List α} {l' : List β} {b : β} {x : Except ε α}

/-- A sequence that succeeded succeeded in its first part, and then in the rest. -/
theorem bind_ok {f : α → Except ε β} (h : x >>= f = .ok b) : ∃ a, x = .ok a ∧ f a = .ok b := by
  cases x with
  | error e => cases h
  | ok a => exact ⟨a, rfl, h⟩

theorem map_ok {f : α → β} (h : x.map f = .ok b) : ∃ a, x = .ok a ∧ f a = b := by
  cases x with
  | error e => cases h
  | ok a => exact ⟨a, rfl, Except.ok.inj h⟩

theorem ok_of_toOption (h : x.toOption = some a) : x = .ok a := by
  cases x with
  | error e => cases h
  | ok b =>
    cases h
    rfl

/-! ## Going through a list -/

/-- A list is mapped when each of its elements is. -/
theorem mapM_eq_some_iff : l.mapM f = some l' ↔ List.Forall₂ (fun a b => f a = some b) l l' := by
  induction l generalizing l' with
  | nil =>
    rw [List.mapM_nil, List.forall₂_nil_left_iff]
    exact ⟨fun h => (Option.some.inj h).symm, fun h => congrArg some h.symm⟩
  | cons a rest ih =>
    rw [List.mapM_cons, Option.bind_eq_bind, Option.bind_eq_some_iff, List.forall₂_cons_left_iff]
    constructor
    · rintro ⟨b, hb, h⟩
      obtain ⟨bs, hbs, h⟩ := Option.bind_eq_some_iff.1 h
      cases h
      exact ⟨b, bs, hb, ih.1 hbs, rfl⟩
    · rintro ⟨b, bs, hb, hbs, rfl⟩
      exact ⟨b, hb, Option.bind_eq_some_iff.2 ⟨bs, ih.2 hbs, rfl⟩⟩

theorem exists_of_mem_mapM (h : l.mapM f = some l') (ha : a ∈ l) : ∃ b ∈ l', f a = some b := by
  induction mapM_eq_some_iff.1 h with
  | nil => cases ha
  | cons hb hrest ih =>
    rcases List.mem_cons.1 ha with rfl | ha
    · exact ⟨_, List.mem_cons_self .., hb⟩
    · obtain ⟨b, hb, hf⟩ := ih (mapM_eq_some_iff.2 hrest) ha
      exact ⟨b, List.mem_cons_of_mem _ hb, hf⟩

theorem exists_of_mem_mapped (h : l.mapM f = some l') (hb : b ∈ l') : ∃ a ∈ l, f a = some b := by
  induction mapM_eq_some_iff.1 h with
  | nil => cases hb
  | cons ha hrest ih =>
    rcases List.mem_cons.1 hb with rfl | hb
    · exact ⟨_, List.mem_cons_self .., ha⟩
    · obtain ⟨a, ha, hf⟩ := ih (mapM_eq_some_iff.2 hrest) hb
      exact ⟨a, List.mem_cons_of_mem _ ha, hf⟩

/-- The same of a computation that can fail with a reason. -/
theorem exists_of_mem_mapM_ok {f : α → Except ε β} (h : l.mapM f = .ok l') (ha : a ∈ l) : ∃ b ∈ l', f a = .ok b := by
  induction l generalizing l' with
  | nil => cases ha
  | cons head rest ih =>
    rw [List.mapM_cons] at h
    obtain ⟨b, hb, h⟩ := bind_ok h
    obtain ⟨bs, hbs, h⟩ := bind_ok h
    cases h
    rcases List.mem_cons.1 ha with rfl | ha
    · exact ⟨b, List.mem_cons_self .., hb⟩
    · obtain ⟨c, hc, hf⟩ := ih hbs ha
      exact ⟨c, List.mem_cons_of_mem _ hc, hf⟩

theorem mapM_of_forall (h : ∀ a ∈ l, f a ≠ none) : ∃ l', l.mapM f = some l' := by
  induction l with
  | nil => exact ⟨[], rfl⟩
  | cons a rest ih =>
    obtain ⟨ha, hrest⟩ := List.forall_mem_cons.1 h
    obtain ⟨b, hb⟩ := Option.ne_none_iff_exists'.1 ha
    obtain ⟨bs, hbs⟩ := ih hrest
    exact ⟨b :: bs, mapM_eq_some_iff.2 (.cons hb (mapM_eq_some_iff.1 hbs))⟩

/-! ## Filtering by a test that can fail -/

section
variable {α : Type} {p : α → Option Bool}

private theorem filterAuxM_eq_some {l acc found : List α} (h : l.filterAuxM p acc = some found) :
    (∀ a ∈ l, p a ≠ none) ∧ found = (l.filter fun a => p a = some true).reverse ++ acc := by
  induction l generalizing acc with
  | nil =>
    cases h
    exact ⟨List.forall_mem_nil _, rfl⟩
  | cons a rest ih =>
    rw [List.filterAuxM, Option.bind_eq_bind, Option.bind_eq_some_iff] at h
    obtain ⟨b, hb, h⟩ := h
    obtain ⟨hdefined, hfound⟩ := ih h
    refine ⟨List.forall_mem_cons.2 ⟨by simp [hb], hdefined⟩, ?_⟩
    cases b with
    | true =>
      rw [hfound, List.filter_cons_of_pos (by simp [hb])]
      simp
    | false =>
      rw [hfound, List.filter_cons_of_neg (by simp [hb])]
      simp

private theorem filterAuxM_isSome {l : List α} (acc : List α) (h : ∀ a ∈ l, p a ≠ none) :
    (l.filterAuxM p acc).isSome = true := by
  induction l generalizing acc with
  | nil => rfl
  | cons a rest ih =>
    obtain ⟨ha, hrest⟩ := List.forall_mem_cons.1 h
    obtain ⟨b, hb⟩ := Option.ne_none_iff_exists'.1 ha
    rw [List.filterAuxM, hb]
    exact ih _ hrest

variable {l : List α}

/-- A filter succeeds when its test does on every element, and then keeps what passes. -/
theorem filterM_eq_some {found : List α} (h : l.filterM p = some found) :
    (∀ a ∈ l, p a ≠ none) ∧ found = l.filter fun a => p a = some true := by
  rw [List.filterM, Option.bind_eq_bind, Option.bind_eq_some_iff] at h
  obtain ⟨kept, hkept, h⟩ := h
  obtain ⟨hdefined, hfound⟩ := filterAuxM_eq_some hkept
  cases h
  exact ⟨hdefined, by rw [hfound]; simp⟩

theorem filterM_of_forall (h : ∀ a ∈ l, p a ≠ none) : l.filterM p = some (l.filter fun a => p a = some true) := by
  obtain ⟨kept, hkept⟩ := Option.isSome_iff_exists.1 (filterAuxM_isSome [] h)
  obtain ⟨-, hfound⟩ := filterAuxM_eq_some hkept
  rw [List.filterM, hkept, hfound]
  simp

end

end Tna.Lib
