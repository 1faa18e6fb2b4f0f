import Tna.Gate.Envelope
import Tna.Lib.Lines

/-!
# File scopes

A file scope of an envelope is a canonical absolute path, or one with `/**` behind it. What
is accepted and what is granted are told on the texts; here both are told on the segments
between the slashes.
-/

namespace Tna.Gate

open Tna.Js Tna.Lib

/-! ## Segments -/

theorem splitSlash_eq (t : Text) : splitSlash t = t.splitOn (unit '/') := by
  induction t with
  | nil => rfl
  | cons c rest ih =>
    obtain ⟨first, others, hsplit⟩ := List.exists_cons_of_ne_nil (List.splitOn_ne_nil (unit '/') rest)
    rw [splitSlash, List.splitOn_cons_eq_if_modifyHead, ih, hsplit]
    by_cases hc : c = unit '/'
    · rw [if_pos hc, if_pos (beq_iff_eq.2 hc)]
    · rw [if_neg hc, if_neg (mt beq_iff_eq.1 hc)]
      rfl

theorem splitSlash_append_slash (t u : Text) : splitSlash (t ++ unit '/' :: u) = splitSlash t ++ splitSlash u := by
  simp only [splitSlash_eq, List.splitOn_append_cons_self]

theorem splitSlash_injective : Function.Injective splitSlash := by
  intro t u h
  rw [splitSlash_eq, splitSlash_eq] at h
  exact splitOn_injective _ h

/-- The segments of an absolute path. -/
def segments (path : Text) : List Text := (splitSlash path).tail

theorem splitSlash_slash (rest : Text) : splitSlash (unit '/' :: rest) = [] :: segments (unit '/' :: rest) := by
  rw [segments, splitSlash_eq, splitOn_cons_self, List.tail_cons]

theorem segments_slash_ne_nil (rest : Text) : segments (unit '/' :: rest) ≠ [] := by
  rw [segments, splitSlash_eq, splitOn_cons_self, List.tail_cons]
  exact List.splitOn_ne_nil _ _

/-- A canonical absolute path. -/
structure CanonicalFile (path : Text) : Prop where
  absolute : ∃ rest, path = unit '/' :: rest
  units : ∀ c ∈ path, c ≠ unit '\\' ∧ c ≠ unit '%' ∧ c ≠ unit '*' ∧ 32 ≤ c ∧ c ≠ 127
  segments : ∀ s ∈ segments path, s ≠ [] ∧ s ≠ Text.ofAscii "." ∧ s ≠ Text.ofAscii ".."

theorem badFileUnit_eq_false_iff (c : CodeUnit) :
    badFileUnit c = false ↔ c ≠ unit '\\' ∧ c ≠ unit '%' ∧ c ≠ unit '*' ∧ 32 ≤ c ∧ c ≠ 127 := by
  simp only [badFileUnit, Bool.or_eq_false_iff, beq_eq_false_iff_ne, decide_eq_false_iff_not, UInt16.not_lt, and_assoc]

theorem validFile_iff (path : Text) : validFile path = true ↔ CanonicalFile path := by
  have habsolute : (Text.ofAscii "/").isPrefixOf path = true ↔ ∃ rest, path = unit '/' :: rest := by
    rw [List.isPrefixOf_iff_prefix]
    exact ⟨fun ⟨rest, h⟩ => ⟨rest, h.symm⟩, fun ⟨rest, h⟩ => ⟨rest, h.symm⟩⟩
  have hunits : (!path.any badFileUnit) = true ↔
      ∀ c ∈ path, c ≠ unit '\\' ∧ c ≠ unit '%' ∧ c ≠ unit '*' ∧ 32 ≤ c ∧ c ≠ 127 := by
    rw [Bool.not_eq_true', List.any_eq_false]
    exact forall₂_congr fun c _ => by rw [Bool.not_eq_true, badFileUnit_eq_false_iff]
  rw [validFile, Bool.and_eq_true, Bool.and_eq_true, habsolute, hunits, List.all_eq_true]
  simp only [Bool.and_eq_true, bne_iff_ne, and_assoc]
  exact ⟨fun ⟨ha, hu, hs⟩ => ⟨ha, hu, hs⟩, fun h => ⟨h.absolute, h.units, h.segments⟩⟩

/-! ## What a scope grants -/

/-- The path itself, or with `/**` what properly goes on behind its base. -/
def Grants (pattern resource : Text) : Prop :=
  (¬ Text.ofAscii "/**" <:+ pattern ∧ segments resource = segments pattern) ∨
    ∃ base, pattern = base ++ Text.ofAscii "/**" ∧ segments base <+: segments resource ∧ segments base ≠ segments resource

theorem eq_iff_segments {path other : Text} (hpath : ∃ rest, path = unit '/' :: rest)
    (hother : ∃ rest, other = unit '/' :: rest) : path = other ↔ segments path = segments other := by
  obtain ⟨rest, rfl⟩ := hpath
  obtain ⟨rest', rfl⟩ := hother
  rw [← splitSlash_injective.eq_iff, splitSlash_slash, splitSlash_slash, List.cons_inj_right]

/-- A path goes on behind a slash where its segments go on. -/
theorem append_slash_prefix_iff {base path : Text} (hbase : ∃ rest, base = unit '/' :: rest)
    (hpath : ∃ rest, path = unit '/' :: rest) :
    base ++ [unit '/'] <+: path ↔ segments base <+: segments path ∧ segments base ≠ segments path := by
  rw [append_separator_prefix_iff, ← splitSlash_eq, ← splitSlash_eq, ne_eq, eq_iff_segments hbase hpath]
  obtain ⟨rest, rfl⟩ := hbase
  obtain ⟨rest', rfl⟩ := hpath
  rw [splitSlash_slash, splitSlash_slash, List.cons_prefix_cons, eq_self, true_and]

theorem stripGlob_append (base : Text) : stripGlob (base ++ Text.ofAscii "/**") = base := by
  rw [stripGlob, if_pos (List.isSuffixOf_iff_suffix.2 (List.suffix_append _ _)), List.length_append]
  exact List.take_left

theorem stripGlob_of_not {pattern : Text} (h : ¬ Text.ofAscii "/**" <:+ pattern) : stripGlob pattern = pattern := by
  rw [stripGlob, if_neg (mt List.isSuffixOf_iff_suffix.1 h)]

theorem matchesPattern_append (resource base : Text) :
    matchesPattern resource true (base ++ Text.ofAscii "/**") = true ↔ base ++ [unit '/'] <+: resource := by
  have htake : (base ++ Text.ofAscii "/**").take ((base ++ Text.ofAscii "/**").length - 2) = base ++ [unit '/'] := by
    have hsplit : base ++ Text.ofAscii "/**" = base ++ [unit '/'] ++ Text.ofAscii "**" := by
      rw [List.append_assoc]
      rfl
    rw [hsplit, List.length_append]
    exact List.take_left
  rw [matchesPattern, Bool.true_and, if_pos (List.isSuffixOf_iff_suffix.2 (List.suffix_append _ _)), htake,
    List.isPrefixOf_iff_prefix]

theorem matchesPattern_of_not {pattern : Text} (resource : Text) (h : ¬ Text.ofAscii "/**" <:+ pattern) :
    matchesPattern resource true pattern = true ↔ resource = pattern := by
  rw [matchesPattern, Bool.true_and, if_neg (mt List.isSuffixOf_iff_suffix.1 h), decide_eq_true_eq]

/-- A pattern that is accepted matches a canonical path exactly when it grants it. -/
theorem matchesPattern_iff {pattern resource : Text} (hpattern : CanonicalFile (stripGlob pattern))
    (hresource : CanonicalFile resource) : matchesPattern resource true pattern = true ↔ Grants pattern resource := by
  by_cases hsuffix : Text.ofAscii "/**" <:+ pattern
  · obtain ⟨base, rfl⟩ := hsuffix
    rw [stripGlob_append] at hpattern
    rw [matchesPattern_append, append_slash_prefix_iff hpattern.absolute hresource.absolute]
    constructor
    · exact fun h => .inr ⟨base, rfl, h⟩
    · rintro (⟨hnot, -⟩ | ⟨base', heq, h⟩)
      · exact absurd (List.suffix_append _ _) hnot
      · rw [List.append_cancel_right heq]
        exact h
  · rw [stripGlob_of_not hsuffix] at hpattern
    rw [matchesPattern_of_not resource hsuffix, eq_iff_segments hresource.absolute hpattern.absolute]
    constructor
    · exact fun h => .inl ⟨hsuffix, h⟩
    · rintro (⟨-, h⟩ | ⟨base, rfl, -⟩)
      · exact h
      · exact absurd (List.suffix_append _ _) hsuffix

theorem matchesResource_iff {patterns : List Text} (hpatterns : ∀ pattern ∈ patterns, validFile (stripGlob pattern) = true)
    (resource : Text) :
    matchesResource resource patterns true = true ↔
      CanonicalFile resource ∧ ∃ pattern ∈ patterns, Grants pattern resource := by
  rw [matchesResource, Bool.not_true, Bool.false_or, Bool.and_eq_true, validFile_iff, List.any_eq_true]
  refine and_congr_right fun hresource => exists_congr fun pattern => and_congr_right fun hmem => ?_
  exact matchesPattern_iff ((validFile_iff _).1 (hpatterns pattern hmem)) hresource

/-- The two canonical paths of one segment that no pattern grants both of. -/
def pathA : Text := "/a"

def pathB : Text := "/b"

/-- A pattern grants at most one path of a single segment. -/
theorem not_grants_both {pattern : Text} (hpattern : CanonicalFile (stripGlob pattern)) (hA : Grants pattern pathA) :
    ¬ Grants pattern pathB := by
  have hsegmentsA : segments pathA = [Text.ofAscii "a"] := by decide
  have hsegmentsB : segments pathB = [Text.ofAscii "b"] := by decide
  rcases hA with ⟨hnot, hA⟩ | ⟨base, rfl, hstarts, hne⟩
  · rintro (⟨-, hB⟩ | ⟨base, rfl, -⟩)
    · rw [← hA, hsegmentsA, hsegmentsB] at hB
      exact absurd hB (by decide)
    · exact hnot (List.suffix_append _ _)
  · obtain ⟨rest, hbase⟩ := hpattern.absolute
    rw [stripGlob_append] at hbase
    subst hbase
    rw [hsegmentsA] at hstarts hne
    -- the base has a segment, so what lies below it has two
    rcases List.prefix_cons_iff.1 hstarts with hnil | ⟨t, ht, hstarts⟩
    · exact absurd hnil (segments_slash_ne_nil rest)
    · rw [List.prefix_nil.1 hstarts] at ht
      exact absurd ht hne

/-- **What a file scope grants.** For accepted scopes a resource matches when it is a canonical path whose segments are
those of a pattern or properly go on behind those of a pattern's base. No accepted scope grants every path, and none
grants what goes on behind its base without a slash. -/
theorem matchesResource_grants (patterns : List Text)
    (haccepted : ∀ pattern ∈ patterns, validFile (stripGlob pattern) = true) :
    (∀ resource, matchesResource resource patterns true = true ↔
      CanonicalFile resource ∧ ∃ pattern ∈ patterns, Grants pattern resource) ∧
    (∀ pattern ∈ patterns, ∃ elsewhere, CanonicalFile elsewhere ∧ matchesResource elsewhere [pattern] true = false) ∧
    (∀ pattern ∈ patterns, ∀ c rest, c ≠ unit '/' →
      matchesResource (stripGlob pattern ++ c :: rest) [pattern] true = false) := by
  refine ⟨fun resource => matchesResource_iff haccepted resource, fun pattern hmem => ?_, fun pattern hmem c rest hc => ?_⟩
  · have hvalid := (validFile_iff _).1 (haccepted pattern hmem)
    have hone : ∀ path, CanonicalFile path → (matchesResource path [pattern] true = true ↔ Grants pattern path) := by
      intro path hpath
      rw [matchesResource_iff (List.forall_mem_singleton.2 (haccepted pattern hmem))]
      simp [hpath]
    have hA : CanonicalFile pathA := (validFile_iff _).1 (by decide)
    have hB : CanonicalFile pathB := (validFile_iff _).1 (by decide)
    by_cases hgrants : Grants pattern pathA
    · refine ⟨pathB, hB, Bool.eq_false_iff.2 fun h => ?_⟩
      exact not_grants_both hvalid hgrants ((hone pathB hB).1 h)
    · exact ⟨pathA, hA, Bool.eq_false_iff.2 fun h => hgrants ((hone pathA hA).1 h)⟩
  · rw [Bool.eq_false_iff]
    intro h
    rw [matchesResource, Bool.and_eq_true, List.any_cons, List.any_nil, Bool.or_false] at h
    by_cases hsuffix : Text.ofAscii "/**" <:+ pattern
    · obtain ⟨base, rfl⟩ := hsuffix
      rw [stripGlob_append, matchesPattern_append, List.prefix_append_right_inj, List.cons_prefix_cons] at h
      exact hc h.2.1.symm
    · rw [stripGlob_of_not hsuffix, matchesPattern_of_not _ hsuffix] at h
      simp at h

/-- A directory's scope beside a file's. -/
theorem matchesResource_grants_sample :
    matchesResource "/srv/a/b" ["/srv/a/**", "/etc/hosts"] true = true ↔
      CanonicalFile "/srv/a/b" ∧ ∃ pattern ∈ ([Text.ofAscii "/srv/a/**", Text.ofAscii "/etc/hosts"] : List Text),
        Grants pattern "/srv/a/b" :=
  (matchesResource_grants [Text.ofAscii "/srv/a/**", Text.ofAscii "/etc/hosts"] (by decide)).1 (Text.ofAscii "/srv/a/b")

end Tna.Gate
