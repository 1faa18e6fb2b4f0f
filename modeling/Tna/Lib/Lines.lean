import Mathlib.Tactic.Common

/-!
# Cut at a separator

A stream is cut at each separator. What stands before one is a line; what stands behind the
last is kept until more of the stream has come. However a stream is dealt out, its lines and
what is kept are those of the whole. The segments of one list begin with those of another
when it goes on behind a separator.
-/

namespace Tna.Lib

section
variable {α : Type} [BEq α]

/-- The lines of what has come of a stream. -/
def framed (separator : α) (stream : List α) : List (List α) := (stream.splitOn separator).dropLast

/-- What stands behind the last separator. -/
def unframed (separator : α) (stream : List α) : List α := (stream.splitOn separator).getLastD []

variable {separator : α}

end

/-! ## Segments -/

section
variable {α : Type} [BEq α] [LawfulBEq α] {separator : α}

theorem splitOn_injective (separator : α) : Function.Injective (List.splitOn separator) := by
  intro xs ys h
  have hxs : [separator].intercalate (xs.splitOn separator) = xs := List.intercalate_splitOn separator
  rw [← hxs, h, List.intercalate_splitOn]

theorem splitOn_cons_self (xs : List α) : (separator :: xs).splitOn separator = [] :: xs.splitOn separator := by
  rw [List.splitOn_cons_eq_if_modifyHead, if_pos BEq.rfl]

/-- The units of a segment are units of the list, and none is the separator. -/
theorem mem_of_mem_splitOn {xs segment : List α} (h : segment ∈ xs.splitOn separator) {x : α} (hx : x ∈ segment) :
    x ∈ xs ∧ x ≠ separator := by
  induction xs generalizing segment with
  | nil =>
    rw [List.splitOn_nil, List.mem_singleton] at h
    rw [h] at hx
    exact absurd hx List.not_mem_nil
  | cons y ys ih =>
    rw [List.splitOn_cons_eq_if_modifyHead] at h
    split at h
    · rcases List.mem_cons.1 h with rfl | h
      · exact absurd hx List.not_mem_nil
      · exact ⟨List.mem_cons_of_mem _ (ih h hx).1, (ih h hx).2⟩
    · next hy =>
      obtain ⟨first, others, hsplit⟩ := List.exists_cons_of_ne_nil (List.splitOn_ne_nil separator ys)
      rw [hsplit] at h ih
      rcases List.mem_cons.1 h with rfl | h
      · rcases List.mem_cons.1 hx with rfl | hx
        · exact ⟨List.mem_cons_self, fun heq => hy (beq_iff_eq.2 heq)⟩
        · have hmem := ih List.mem_cons_self hx
          exact ⟨List.mem_cons_of_mem _ hmem.1, hmem.2⟩
      · have hmem := ih (List.mem_cons_of_mem _ h) hx
        exact ⟨List.mem_cons_of_mem _ hmem.1, hmem.2⟩

omit [BEq α] [LawfulBEq α] in
theorem mem_of_mem_intercalate {segments : List (List α)} {x : α} (h : x ∈ [separator].intercalate segments) :
    x = separator ∨ ∃ segment ∈ segments, x ∈ segment := by
  induction segments with
  | nil => exact absurd h List.not_mem_nil
  | cons first rest ih =>
    rcases rest with _ | ⟨second, rest⟩
    · exact .inr ⟨first, List.mem_cons_self, by simpa using h⟩
    · rw [List.intercalate_cons_cons, List.mem_append, List.mem_append, List.mem_singleton] at h
      rcases h with (h | h) | h
      · exact .inr ⟨first, List.mem_cons_self, h⟩
      · exact .inl h
      · exact (ih h).imp id fun ⟨segment, hmem, hx⟩ => ⟨segment, List.mem_cons_of_mem _ hmem, hx⟩

/-- **Going on behind a separator.** -/
theorem append_separator_prefix_iff {xs ys : List α} :
    xs ++ [separator] <+: ys ↔ xs.splitOn separator <+: ys.splitOn separator ∧ xs ≠ ys := by
  constructor
  · rintro ⟨rest, rfl⟩
    rw [List.append_assoc, List.singleton_append, List.splitOn_append_cons_self]
    refine ⟨List.prefix_append _ _, fun h => ?_⟩
    simp at h
  · rintro ⟨⟨rest, hrest⟩, hne⟩
    rcases rest with _ | ⟨segment, more⟩
    · rw [List.append_nil] at hrest
      exact absurd (splitOn_injective separator hrest) hne
    · refine ⟨[separator].intercalate (segment :: more), splitOn_injective separator ?_⟩
      have hclean : ∀ l ∈ segment :: more, separator ∉ l := by
        intro l hl hmem
        have hin : l ∈ ys.splitOn separator := hrest ▸ List.mem_append_right _ hl
        exact (mem_of_mem_splitOn hin hmem).2 rfl
      rw [List.append_assoc, List.singleton_append, List.splitOn_append_cons_self,
        List.splitOn_intercalate separator hclean (List.cons_ne_nil _ _), hrest]

theorem splitOn_prefix_iff {xs ys : List α} :
    xs.splitOn separator <+: ys.splitOn separator ↔ ys = xs ∨ xs ++ [separator] <+: ys := by
  rw [append_separator_prefix_iff]
  by_cases h : xs = ys
  · exact iff_of_true (h ▸ List.prefix_rfl) (.inl h.symm)
  · exact ⟨fun hstarts => .inr ⟨hstarts, h⟩, fun hor => (hor.resolve_left (Ne.symm h)).1⟩

end

end Tna.Lib
