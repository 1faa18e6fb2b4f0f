import Tna.Gate.Scopes
import Tna.Js.Number
import Tna.Ledger.Schema

/-!
# Atom specifications

The specification of a unit of work, its hash, and the resources it declares. A file that
was touched has to match a declared pattern once its path is canonical: it is the pattern,
matches it as a glob, or lies under its base.
-/

namespace Tna.Vad

open Tna.Js Tna.Ledger Tna.Lib
open Tna.Gate (splitSlash splitSlash_eq)

inductive RiskLevel where
  | low | medium | high
deriving DecidableEq

def RiskLevel.name : RiskLevel → Text
  | .low => "low"
  | .medium => "medium"
  | .high => "high"

/-- The only mode of validation is `deterministic`. -/
structure SuccessCriterion where
  id : Text
  description : Text

def SuccessCriterion.toValue (c : SuccessCriterion) : Value :=
  .obj [("id", .str c.id), ("description", .str c.description), ("validation", .str "deterministic")]

structure AtomResources where
  read : List Text
  write : List Text
  create : List Text

structure AtomLimits where
  maxAttempts : Number
  maxRuntimeSeconds : Number
  maxCostUsd : Number

structure AtomSpec where
  atomId : Text
  title : Text
  goal : Text
  successCriteria : List SuccessCriterion
  risk : RiskLevel
  resources : AtomResources
  forbidden : List Text
  limits : AtomLimits

def textArray (items : List Text) : Value := .arr (items.map .str)

def AtomSpec.toValue (s : AtomSpec) : Value :=
  .obj [("version", .str "1.0"), ("atom", .obj [("id", .str s.atomId), ("title", .str s.title)]), ("goal", .str s.goal),
    ("success_criteria", .arr (s.successCriteria.map SuccessCriterion.toValue)),
    ("risk", .obj [("level", .str s.risk.name)]),
    ("resources", .obj [("read", textArray s.resources.read), ("write", textArray s.resources.write),
      ("create", textArray s.resources.create)]),
    ("constraints", .obj [("forbidden", textArray s.forbidden)]),
    ("limits", .obj [("max_attempts", .num s.limits.maxAttempts), ("max_runtime_seconds", .num s.limits.maxRuntimeSeconds),
      ("max_cost_usd", .num s.limits.maxCostUsd)])]

/-- `canonicalizeSpec` sorts the keys at every level, so its text is the canonical form. -/
def computeSpecHash (sha256 : Text → Text) (spec : AtomSpec) : Text := hash sha256 spec.toValue

/-! ## Resources -/

/-- What `.` in a regular expression does not match. -/
def isLineTerminator (c : CodeUnit) : Bool := c == 10 || c == 13 || c == 0x2028 || c == 0x2029

/-- `.*` and then what `rest` matches. -/
def anyThen (rest : Text → Bool) : Text → Bool
  | [] => rest []
  | c :: t => rest (c :: t) || (!isLineTerminator c && anyThen rest t)

/-- The regular expression of a pattern: `*` stands for `.*`, any other unit for itself. -/
def starMatches : Text → Text → Bool
  | [], t => t.isEmpty
  | c :: p, t =>
    if c = unit '*' then anyThen (starMatches p) t
    else
      match t with
      | [] => false
      | d :: u => d = c && starMatches p u

def matchesPattern (pattern actual : Text) : Bool :=
  if (Text.ofAscii "/**").isSuffixOf pattern then
    let base := pattern.take (pattern.length - 3)
    actual = base || (base ++ "/").isPrefixOf actual
  else if unit '*' ∈ pattern then starMatches pattern actual
  else pattern = actual

def canonicalizePath (filePath : Text) : Except Text Text :=
  if 0 ∈ filePath then .error "Path contains null byte"
  else
    let normalized := filePath.map fun c => if c = unit '\\' then unit '/' else c
    if (Text.ofAscii "/").isPrefixOf normalized then .error "Absolute path not allowed in relative context"
    else
      let segments := splitSlash normalized
      if Text.ofAscii ".." ∈ segments then .error "Path traversal (..) not allowed"
      else
        let result := segments.filter fun segment => segment != [] && segment != "."
        if result = [] then .error "Empty path after canonicalization"
        else .ok ((Text.ofAscii "/").intercalate result)

/-- A file has no canonical path, or one that no declared pattern matches. -/
def isResourceViolation (spec : AtomSpec) (actualFiles : List Text) : Bool :=
  let allowed := spec.resources.read ++ spec.resources.write ++ spec.resources.create
  actualFiles.any fun file =>
    match canonicalizePath file with
    | .ok canonical => !allowed.any fun pattern => matchesPattern pattern canonical
    | .error _ => true

inductive FileOperation where
  | read | write | create
deriving DecidableEq

/-- `spec.resources[operation]`. -/
def AtomResources.patterns (r : AtomResources) : FileOperation → List Text
  | .read => r.read
  | .write => r.write
  | .create => r.create

/-- A file has no canonical path, or one that no pattern declared for the operation matches. -/
def isOperationViolation (spec : AtomSpec) (file : Text) (operation : FileOperation) : Bool :=
  match canonicalizePath file with
  | .ok canonical => !(spec.resources.patterns operation).any fun pattern => matchesPattern pattern canonical
  | .error _ => true

example : matchesPattern "src/**" "src/a/b.ts" = true ∧ matchesPattern "src/*.ts" "src/a/b.ts" = true ∧
    matchesPattern "src/*.ts" "src/b.js" = false ∧ canonicalizePath "src\\.//a" = .ok "src/a" := by decide

/-! ## Canonical paths -/

/-- No segment is empty or stands for a place of its own. -/
def GoodSegments (segments : List Text) : Prop :=
  ∀ s ∈ segments, s ≠ [] ∧ s ≠ Text.ofAscii "." ∧ s ≠ Text.ofAscii ".."

/-- What a canonical path is made of. -/
structure Canonicalized (segments : List Text) (path : Text) : Prop where
  eq : path = [unit '/'].intercalate segments
  ne_nil : segments ≠ []
  good : GoodSegments segments
  units : ∀ s ∈ segments, ∀ c ∈ s, c ≠ 0 ∧ c ≠ unit '\\' ∧ c ≠ unit '/'

theorem canonicalizePath_ok {file path : Text} (h : canonicalizePath file = .ok path) :
    ∃ segments, Canonicalized segments path := by
  unfold canonicalizePath at h
  split at h
  · cases h
  next hnull =>
  dsimp only at h
  split at h
  · cases h
  split at h
  · cases h
  next hup =>
  split at h
  · cases h
  next hne =>
  cases h
  refine ⟨_, rfl, hne, fun s hs => ?_, fun s hs c hc => ?_⟩
  · obtain ⟨hmem, hs⟩ := List.mem_filter.1 hs
    simp only [Bool.and_eq_true, bne_iff_ne] at hs
    exact ⟨hs.1, hs.2, fun heq => hup (heq ▸ hmem)⟩
  · have hmem := (List.mem_filter.1 hs).1
    rw [splitSlash_eq] at hmem
    obtain ⟨hin, hslash⟩ := mem_of_mem_splitOn hmem hc
    obtain ⟨d, hd, rfl⟩ := List.mem_map.1 hin
    refine ⟨?_, ?_, hslash⟩
    · split
      · decide
      · exact fun hzero => hnull (hzero ▸ hd)
    · split
      · decide
      · next hback => exact hback

namespace Canonicalized

variable {segments : List Text} {path : Text}

theorem splitSlash_eq_segments (h : Canonicalized segments path) : splitSlash path = segments := by
  rw [splitSlash_eq, h.eq]
  exact List.splitOn_intercalate _ (fun s hs hslash => (h.units s hs _ hslash).2.2 rfl) h.ne_nil

theorem mem_units (h : Canonicalized segments path) {c : CodeUnit} (hc : c ∈ path) : c ≠ 0 ∧ c ≠ unit '\\' := by
  rw [h.eq] at hc
  rcases mem_of_mem_intercalate hc with rfl | ⟨s, hs, hc⟩
  · decide
  · exact ⟨(h.units s hs c hc).1, (h.units s hs c hc).2.1⟩

/-- A canonical path does not begin with a slash. -/
theorem not_absolute (h : Canonicalized segments path) : ¬ (Text.ofAscii "/").isPrefixOf path = true := by
  rw [List.isPrefixOf_iff_prefix]
  rintro ⟨rest, hrest⟩
  have hsplit : splitSlash path = [] :: splitSlash rest := by
    rw [← hrest, splitSlash_eq, splitSlash_eq]
    exact splitOn_cons_self rest
  rw [h.splitSlash_eq_segments] at hsplit
  have hmem : [] ∈ segments := hsplit ▸ List.mem_cons_self
  exact (h.good [] hmem).1 rfl

/-- **A canonical path is its own canonical path.** -/
theorem idempotent (h : Canonicalized segments path) : canonicalizePath path = .ok path := by
  have hmap : path.map (fun c => if c = unit '\\' then unit '/' else c) = path := by
    refine (List.map_congr_left fun c hc => ?_).trans (List.map_id' path)
    exact if_neg (h.mem_units hc).2
  have hfilter : segments.filter (fun segment => segment != [] && segment != Text.ofAscii ".") = segments := by
    refine List.filter_eq_self.2 fun s hs => ?_
    rw [Bool.and_eq_true, bne_iff_ne, bne_iff_ne]
    exact ⟨(h.good s hs).1, (h.good s hs).2.1⟩
  rw [canonicalizePath, if_neg fun hnull => (h.mem_units hnull).1 rfl]
  dsimp only
  rw [hmap, if_neg h.not_absolute, h.splitSlash_eq_segments, if_neg fun hup => (h.good _ hup).2.2 rfl, hfilter,
    if_neg h.ne_nil]
  exact congrArg _ h.eq.symm

end Canonicalized

/-! ## What a pattern matches -/

/-- A glob: `*` stands for a run of units of one line, any other unit for itself. -/
inductive Glob : Text → Text → Prop where
  | done : Glob [] []
  | star {pattern actual : Text} (run : Text) (hrun : ∀ c ∈ run, isLineTerminator c = false) :
      Glob pattern actual → Glob (unit '*' :: pattern) (run ++ actual)
  | literal {c : CodeUnit} {pattern actual : Text} : c ≠ unit '*' → Glob pattern actual → Glob (c :: pattern) (c :: actual)

theorem anyThen_iff (rest : Text → Bool) (t : Text) :
    anyThen rest t = true ↔ ∃ run actual, t = run ++ actual ∧ (∀ c ∈ run, isLineTerminator c = false) ∧ rest actual = true := by
  induction t with
  | nil =>
    rw [anyThen]
    constructor
    · exact fun h => ⟨[], [], rfl, List.forall_mem_nil _, h⟩
    · rintro ⟨run, actual, heq, -, h⟩
      rw [(List.append_eq_nil_iff.1 heq.symm).2] at h
      exact h
  | cons c t ih =>
    rw [anyThen, Bool.or_eq_true, Bool.and_eq_true, Bool.not_eq_true', ih]
    constructor
    · rintro (h | ⟨hc, run, actual, rfl, hrun, h⟩)
      · exact ⟨[], c :: t, rfl, List.forall_mem_nil _, h⟩
      · exact ⟨c :: run, actual, rfl, List.forall_mem_cons.2 ⟨hc, hrun⟩, h⟩
    · rintro ⟨run, actual, heq, hrun, h⟩
      cases run with
      | nil => exact .inl (heq ▸ h)
      | cons d run =>
        obtain ⟨rfl, rfl⟩ := List.cons.inj heq
        rw [List.forall_mem_cons] at hrun
        exact .inr ⟨hrun.1, run, actual, rfl, hrun.2, h⟩

theorem Glob.of_unit {c : CodeUnit} {pattern actual : Text} (hc : c ≠ unit '*') (h : Glob (c :: pattern) actual) :
    ∃ rest, actual = c :: rest ∧ Glob pattern rest := by
  cases h with
  | star => exact absurd rfl hc
  | literal _ h => exact ⟨_, rfl, h⟩

theorem starMatches_iff (pattern actual : Text) : starMatches pattern actual = true ↔ Glob pattern actual := by
  induction pattern generalizing actual with
  | nil =>
    rw [starMatches, List.isEmpty_iff]
    exact ⟨fun h => h ▸ .done, fun h => by cases h; rfl⟩
  | cons c pattern ih =>
    by_cases hc : c = unit '*'
    · subst hc
      rw [starMatches.eq_def]
      dsimp only
      rw [if_pos rfl, anyThen_iff]
      constructor
      · rintro ⟨run, rest, rfl, hrun, h⟩
        exact .star run hrun ((ih rest).1 h)
      · intro h
        cases h with
        | star run hrun h => exact ⟨run, _, rfl, hrun, (ih _).2 h⟩
        | literal hne _ => exact absurd rfl hne
    · have hiff : Glob (c :: pattern) actual ↔ ∃ rest, actual = c :: rest ∧ Glob pattern rest :=
        ⟨Glob.of_unit hc, fun ⟨rest, heq, h⟩ => heq ▸ .literal hc h⟩
      rw [hiff, starMatches.eq_def]
      dsimp only
      rw [if_neg hc]
      cases actual with
      | nil => simp
      | cons d actual => simp [ih]

/-- A glob matches its own text. -/
theorem Glob.refl (pattern : Text) : Glob pattern pattern := by
  induction pattern with
  | nil => exact .done
  | cons c pattern ih =>
    by_cases hc : c = unit '*'
    · subst hc
      exact .star [unit '*'] (List.forall_mem_singleton.2 (by decide)) ih
    · exact .literal hc ih

/-- A pattern with `/**` behind it matches what its base's segments begin. -/
theorem matchesPattern_under_iff (base actual : Text) :
    matchesPattern (base ++ Text.ofAscii "/**") actual = true ↔ splitSlash base <+: splitSlash actual := by
  have htake : (base ++ Text.ofAscii "/**").take ((base ++ Text.ofAscii "/**").length - 3) = base := by
    rw [List.length_append]
    exact List.take_left
  rw [matchesPattern, if_pos (List.isSuffixOf_iff_suffix.2 (List.suffix_append _ _)), htake, splitSlash_eq, splitSlash_eq,
    splitOn_prefix_iff, Bool.or_eq_true, decide_eq_true_eq, List.isPrefixOf_iff_prefix]
  rfl

theorem matchesPattern_of_not {pattern : Text} (actual : Text) (h : ¬ Text.ofAscii "/**" <:+ pattern) :
    matchesPattern pattern actual = true ↔ Glob pattern actual := by
  rw [matchesPattern, if_neg (mt List.isSuffixOf_iff_suffix.1 h)]
  split
  · exact starMatches_iff pattern actual
  · next hstar =>
    rw [decide_eq_true_eq]
    constructor
    · exact fun heq => heq ▸ .refl pattern
    · intro hglob
      clear h
      induction pattern generalizing actual with
      | nil => cases hglob; rfl
      | cons c pattern ih =>
        rw [List.mem_cons, not_or] at hstar
        obtain ⟨rest, rfl, hrest⟩ := hglob.of_unit (Ne.symm hstar.1)
        rw [ih rest hstar.2 hrest]

/-- A canonical path is covered by a declared pattern. -/
inductive Covers : Text → Text → Prop where
  | same (path : Text) : Covers path path
  | glob {pattern path : Text} : ¬ Text.ofAscii "/**" <:+ pattern → Glob pattern path → Covers pattern path
  | under {base path : Text} : splitSlash base <+: splitSlash path → Covers (base ++ Text.ofAscii "/**") path

theorem matchesPattern_iff (pattern path : Text) : matchesPattern pattern path = true ↔ Covers pattern path := by
  by_cases hsuffix : Text.ofAscii "/**" <:+ pattern
  · obtain ⟨base, rfl⟩ := hsuffix
    rw [matchesPattern_under_iff]
    constructor
    · exact .under
    · generalize hpattern : base ++ Text.ofAscii "/**" = pattern
      intro h
      cases h with
      | same =>
        subst hpattern
        rw [splitSlash_eq, splitSlash_eq]
        exact splitOn_prefix_iff.2 (.inr ⟨Text.ofAscii "**", by rw [List.append_assoc]; rfl⟩)
      | glob hnot => exact absurd (hpattern ▸ List.suffix_append _ _) hnot
      | under h =>
        rw [List.append_cancel_right hpattern]
        exact h
  · rw [matchesPattern_of_not path hsuffix]
    constructor
    · exact .glob hsuffix
    · intro h
      cases h with
      | same => exact .refl _
      | glob _ h => exact h
      | under => exact absurd (List.suffix_append _ _) hsuffix

/-- **Declared resources.** A canonical path has only good segments and is its own canonical path; a pattern `base/**` matches
what the segments of `base` begin; and an operation on a file is none the spec forbids exactly when the file has a
canonical path that a pattern declared for the operation covers. -/
theorem isOperationViolation_covered :
    (∀ file path, canonicalizePath file = .ok path →
      GoodSegments (splitSlash path) ∧ canonicalizePath path = .ok path) ∧
    (∀ base path, matchesPattern (base ++ Text.ofAscii "/**") path = true ↔ splitSlash base <+: splitSlash path) ∧
    (∀ spec file operation, isOperationViolation spec file operation = false ↔
      ∃ path, canonicalizePath file = .ok path ∧ ∃ pattern ∈ spec.resources.patterns operation, Covers pattern path) := by
  refine ⟨fun file path h => ?_, matchesPattern_under_iff, fun spec file operation => ?_⟩
  · obtain ⟨segments, hsegments⟩ := canonicalizePath_ok h
    rw [hsegments.splitSlash_eq_segments]
    exact ⟨hsegments.good, hsegments.idempotent⟩
  · unfold isOperationViolation
    cases hpath : canonicalizePath file with
    | error e => simp
    | ok path => simp [matchesPattern_iff]

/-- A path written with backslashes, `.` and empty segments. -/
theorem isOperationViolation_covered_sample :
    GoodSegments (splitSlash "src/a") ∧ canonicalizePath (Text.ofAscii "src/a") = .ok (Text.ofAscii "src/a") :=
  isOperationViolation_covered.1 (Text.ofAscii "src\\.//a") (Text.ofAscii "src/a") (by decide)

end Tna.Vad
