import Tna.Lib.Places
import Tna.Sentinel.Signals
import Tna.Sentinel.Statuses

/-!
# Where an observed resource lies

`RESOURCE_NOT_ALLOWED` matches the resource as it was observed. The pattern stands for
a path or for what lies below a directory, and a resource with `..` in it can match the
pattern and lead elsewhere.
-/

namespace Tna.Sentinel

open Tna.Js Tna.Lib
open Tna.Vad (matchesPattern starMatches anyThen)
open Tna.Gate (splitSlash splitSlash_append_slash)

/-! ## Paths -/

/-- A backslash separates as a slash does. -/
def withSlashes (t : Text) : Text := t.map fun c => if c = unit '\\' then unit '/' else c

/-- What a segment of a path does; an empty one and `.` do nothing. -/
def moveOf (segment : Text) : Option (Move Text) :=
  if segment = [] ∨ segment = Text.ofAscii "." then none
  else if segment = Text.ofAscii ".." then some .up
  else some (.down segment)

def moves (t : Text) : List (Move Text) := (splitSlash (withSlashes t)).filterMap moveOf

/-- Where a path leads. -/
def placeOf (t : Text) : Place Text := resolve (moves t)

example : placeOf "src\\.//a/../b" = ⟨0, ["src", "b"]⟩ ∧ placeOf "/etc/passwd" = ⟨0, ["etc", "passwd"]⟩ ∧
    placeOf "src/../../etc" = ⟨1, ["etc"]⟩ := by decide

/-- What stands behind a slash is followed from what stands before it. -/
theorem placeOf_slash (t u : Text) : placeOf (t ++ unit '/' :: u) = (placeOf t).comp (placeOf u) := by
  have hslash : withSlashes (t ++ unit '/' :: u) = withSlashes t ++ unit '/' :: withSlashes u := by
    simp [withSlashes]
  rw [placeOf, moves, hslash, splitSlash_append_slash, List.filterMap_append, resolve_append]
  rfl

@[simp] theorem placeOf_nil : placeOf [] = .here := rfl

/-- A slash at the end of a path does nothing. -/
theorem placeOf_append_slash (t : Text) : placeOf (t ++ [unit '/']) = placeOf t := by
  rw [placeOf_slash, placeOf_nil, Place.comp_here]

/-! ## Patterns -/

/-- The units of a pattern behind its first. -/
def isPatternUnit (c : CodeUnit) : Bool :=
  isAlnum c || c == unit '.' || c == unit '_' || c == unit ':' || c == unit '/' || c == unit '-'

/-- The text a pattern begins with, without the `**` it may end in. -/
def fixedPart (pattern : Text) : Text :=
  if (Text.ofAscii "**").isSuffixOf pattern then pattern.take (pattern.length - 2) else pattern

/-- `safeResourcePattern`. A pattern has no unit that the first two tests of the source refuse. -/
def safeResourcePattern (pattern : Text) : Bool :=
  decide (pattern.length ≤ 400) &&
    match fixedPart pattern with
    | [] => false
    | c :: rest => isAlnum c && rest.all isPatternUnit

/-- The directory a text ends in the middle of, with its slash. -/
def directory (t : Text) : Text := t.take (t.length - (t.rtakeWhile (· ≠ unit '/')).length)

/-- The beginning of a name behind the last slash of a text. -/
def stem (t : Text) : Text := t.rtakeWhile (· ≠ unit '/')

/-- **What a pattern stands for**: its own path; with `**` behind it, what lies below the
directory it begins with, under names that begin as it ends. For a pattern that ends in
`/**` that is the whole of the directory. -/
def Denotes (pattern : Text) (q : Place Text) : Prop :=
  if (Text.ofAscii "**").isSuffixOf pattern then
    let d := placeOf (directory (fixedPart pattern))
    ∃ names, q = ⟨d.ups, d.names ++ names⟩ ∧ stem (fixedPart pattern) <+: names.headD []
  else q = placeOf pattern

/-- What stands in a resource behind the directory of the pattern. -/
def behind (pattern resource : Text) : Text := resource.drop (directory (fixedPart pattern)).length

/-- The rest of the resource climbs no further out of the directory than it has names, comes
down again by those it climbed, and goes on as the pattern does. -/
def Returns (d q : Place Text) (stem : Text) : Prop :=
  q.ups ≤ d.names.length ∧ d.names.drop (d.names.length - q.ups) <+: q.names ∧ stem <+: (q.names.drop q.ups).headD []

instance (d q : Place Text) (stem : Text) : Decidable (Returns d q stem) := by
  unfold Returns
  infer_instance

/-- The resource does not leave the directory of a pattern with `**`, or comes back to it. -/
def Stays (pattern resource : Text) : Prop :=
  (Text.ofAscii "**").isSuffixOf pattern = true →
    Returns (placeOf (directory (fixedPart pattern))) (placeOf (behind pattern resource)) (stem (fixedPart pattern))

/-! ## The beginning of a pattern -/

theorem directory_eq (t : Text) : directory t = t.rdropWhile (· ≠ unit '/') := by
  have hsplit : t.rdropWhile (· ≠ unit '/') ++ t.rtakeWhile (· ≠ unit '/') = t := List.rdropWhile_append_rtakeWhile ..
  have hlength := congrArg List.length hsplit
  rw [List.length_append] at hlength
  have hbefore : t.length - (t.rtakeWhile (· ≠ unit '/')).length = (t.rdropWhile (· ≠ unit '/')).length := by omega
  rw [directory, hbefore]
  exact (List.prefix_iff_eq_take.1 (List.rdropWhile_prefix ..)).symm

theorem directory_append_stem (t : Text) : directory t ++ stem t = t := by
  rw [directory_eq]
  exact List.rdropWhile_append_rtakeWhile ..

/-- A directory is empty, or ends in its slash. -/
theorem directory_slash (t : Text) : directory t = [] ∨ ∃ parent, directory t = parent ++ [unit '/'] := by
  by_cases hnil : t.rdropWhile (· ≠ unit '/') = []
  · exact .inl (by rw [directory_eq, hnil])
  · have hlast : (t.rdropWhile (· ≠ unit '/')).getLast hnil = unit '/' := by
      simpa using List.rdropWhile_last_not (· ≠ unit '/') t hnil
    refine .inr ⟨(t.rdropWhile (· ≠ unit '/')).dropLast, ?_⟩
    rw [directory_eq]
    exact (hlast ▸ List.dropLast_append_getLast hnil).symm

/-- What stands behind a directory is followed from there. -/
theorem placeOf_directory (t u : Text) : placeOf (directory t ++ u) = (placeOf (directory t)).comp (placeOf u) := by
  rcases directory_slash t with hnil | ⟨parent, hparent⟩
  · rw [hnil, List.nil_append, placeOf_nil, Place.here_comp]
  · rw [hparent, List.append_assoc, List.singleton_append, placeOf_slash, placeOf_append_slash]

/-- A text that ends in a slash ends in no name. -/
theorem directory_append_slash (t : Text) : directory (t ++ [unit '/']) = t ++ [unit '/'] := by
  rw [directory_eq, List.rdropWhile_concat_neg _ _ _ (by simp)]

/-! ## What matches -/

variable {pattern resource : Text}

/-- What stands before the first star of a pattern stands in what it matches. -/
theorem fixed_of_starMatches {fixed t : Text} (hfixed : unit '*' ∉ fixed) (h : starMatches (fixed ++ pattern) t = true) :
    fixed <+: t := by
  induction fixed generalizing t with
  | nil => exact List.nil_prefix
  | cons c rest ih =>
    have hc : c ≠ unit '*' := fun heq => hfixed (heq ▸ List.mem_cons_self)
    cases t with
    | nil => simp [starMatches, hc] at h
    | cons d u =>
      rw [List.cons_append, starMatches, if_neg hc] at h
      obtain ⟨hd, hrest⟩ := Bool.and_eq_true_iff.1 h
      rw [of_decide_eq_true hd, List.prefix_cons_inj]
      exact ih (fun hmem => hfixed (List.mem_cons_of_mem c hmem)) hrest

theorem isPatternUnit_ne_star {c : CodeUnit} (h : isPatternUnit c = true) : c ≠ unit '*' := by
  rintro rfl
  revert h
  decide

/-- A pattern has no star in the text it begins with. -/
theorem star_notMem_fixedPart (h : safeResourcePattern pattern = true) : unit '*' ∉ fixedPart pattern := by
  have hunits := (Bool.and_eq_true_iff.1 h).2
  split at hunits
  · cases hunits
  next c rest hfixed =>
    obtain ⟨hc, hrest⟩ := Bool.and_eq_true_iff.1 hunits
    rw [hfixed, List.mem_cons, not_or]
    refine ⟨fun heq => isPatternUnit_ne_star (c := c) ?_ heq.symm, fun hmem => ?_⟩
    · simp [isPatternUnit, hc]
    · exact isPatternUnit_ne_star (List.all_eq_true.1 hrest _ hmem) rfl

theorem fixedPart_append (h : (Text.ofAscii "**").isSuffixOf pattern = true) :
    fixedPart pattern ++ Text.ofAscii "**" = pattern := by
  obtain ⟨fixed, rfl⟩ := List.isSuffixOf_iff_suffix.1 h
  rw [fixedPart, if_pos h, List.length_append]
  have hlength : fixed.length + (Text.ofAscii "**").length - 2 = fixed.length := rfl
  rw [hlength, List.take_left]

/-- A resource that matches a pattern with `**` begins as the pattern does, or is its directory. -/
theorem fixedPart_of_matches (hsafe : safeResourcePattern pattern = true)
    (hstars : (Text.ofAscii "**").isSuffixOf pattern = true) (h : matchesPattern pattern resource = true) :
    fixedPart pattern <+: resource ∨ fixedPart pattern = resource ++ [unit '/'] := by
  have happend := fixedPart_append hstars
  unfold matchesPattern at h
  split at h
  next hslash =>
    obtain ⟨base, hbase⟩ := List.isSuffixOf_iff_suffix.1 hslash
    have hfixed : fixedPart pattern = base ++ [unit '/'] := by
      refine (List.append_left_inj (Text.ofAscii "**")).1 ?_
      rw [happend, List.append_assoc]
      exact hbase.symm
    have htake : pattern.take (pattern.length - 3) = base := by
      rw [← hbase, List.length_append]
      have hlength : base.length + (Text.ofAscii "/**").length - 3 = base.length := rfl
      rw [hlength, List.take_left]
    rw [htake] at h
    rcases Bool.or_eq_true_iff.1 h with hbase | hbelow
    · exact .inr (by rw [hfixed, of_decide_eq_true hbase])
    · exact .inl (by rw [hfixed]; exact List.isPrefixOf_iff_prefix.1 hbelow)
  · split at h
    · rw [← happend] at h
      exact .inl (fixed_of_starMatches (star_notMem_fixedPart hsafe) h)
    next hnone =>
      refine absurd ?_ hnone
      rw [← happend]
      exact List.mem_append_right _ List.mem_cons_self

/-- A resource that matches leads where the rest of it leads from the directory. -/
theorem placeOf_behind (hsafe : safeResourcePattern pattern = true) (hstars : (Text.ofAscii "**").isSuffixOf pattern = true)
    (h : matchesPattern pattern resource = true) :
    placeOf resource = (placeOf (directory (fixedPart pattern))).comp (placeOf (behind pattern resource)) := by
  rcases fixedPart_of_matches hsafe hstars h with ⟨rest, hrest⟩ | hbase
  · have hresource : resource = directory (fixedPart pattern) ++ (stem (fixedPart pattern) ++ rest) := by
      rw [← List.append_assoc, directory_append_stem, hrest]
    have hbehind : behind pattern resource = stem (fixedPart pattern) ++ rest := by
      rw [behind, hresource, List.drop_left]
    rw [hbehind, ← placeOf_directory, ← hresource]
  · have hdirectory : directory (fixedPart pattern) = resource ++ [unit '/'] := by
      rw [hbase, directory_append_slash]
    have hbehind : behind pattern resource = [] := by
      rw [behind, hdirectory]
      exact List.drop_eq_nil_of_le (by simp)
    rw [hbehind, hdirectory, placeOf_append_slash, placeOf_nil, Place.comp_here]

/-- Followed from a directory, a path leads to a name of its own below it exactly when it returns. -/
theorem below_iff_returns (d q : Place Text) (stem : Text) :
    (∃ names, d.comp q = ⟨d.ups, d.names ++ names⟩ ∧ stem <+: names.headD []) ↔ Returns d q stem := by
  have hback (names : List Text) (hnames : q.names = d.names.drop (d.names.length - q.ups) ++ names)
      (hups : q.ups ≤ d.names.length) : q.names.drop q.ups = names := by
    have hlength : (d.names.drop (d.names.length - q.ups)).length = q.ups := by
      rw [List.length_drop]
      omega
    conv_lhs => rw [hnames]
    exact List.drop_left' hlength
  constructor
  · rintro ⟨names, hplace, hstem⟩
    obtain ⟨hups, hnames⟩ := Place.comp_eq_below.1 hplace
    refine ⟨hups, ⟨names, hnames.symm⟩, ?_⟩
    rwa [hback names hnames hups]
  · rintro ⟨hups, ⟨names, hnames⟩, hstem⟩
    refine ⟨names, Place.comp_eq_below.2 ⟨hups, hnames.symm⟩, ?_⟩
    rwa [hback names hnames.symm hups] at hstem

theorem eq_of_matches (hsafe : safeResourcePattern pattern = true) (hstars : ¬ (Text.ofAscii "**").isSuffixOf pattern = true)
    (h : matchesPattern pattern resource = true) : resource = pattern := by
  have hfixed : fixedPart pattern = pattern := if_neg hstars
  have hnone : unit '*' ∉ pattern := hfixed ▸ star_notMem_fixedPart hsafe
  have hslash : ¬ (Text.ofAscii "/**").isSuffixOf pattern = true := fun hsuffix =>
    hnone (List.IsSuffix.subset (List.isSuffixOf_iff_suffix.1 hsuffix) (by decide))
  rw [matchesPattern, if_neg hslash, if_neg hnone] at h
  exact (of_decide_eq_true h).symm

theorem denotes_iff_stays (hsafe : safeResourcePattern pattern = true) (h : matchesPattern pattern resource = true) :
    Denotes pattern (placeOf resource) ↔ Stays pattern resource := by
  by_cases hstars : (Text.ofAscii "**").isSuffixOf pattern = true
  · rw [Denotes, if_pos hstars, placeOf_behind hsafe hstars h, below_iff_returns]
    exact ⟨fun hreturns _ => hreturns, fun hstays => hstays hstars⟩
  · rw [Denotes, if_neg hstars, eq_of_matches hsafe hstars h]
    exact iff_of_true rfl fun hsuffix => absurd hsuffix hstars

/-- **What the rule lets pass lies in what the pattern stands for exactly when it does not leave
the directory of the pattern, or returns to it.** The rule compares the texts of the two and
does not resolve `..`. -/
theorem resource_inside_iff {context : EvaluationContext} {observation : SentinelObservation} {resource : Text}
    (hsafe : safeResourcePattern context.session.expectedResource = true)
    (hobservation : context.observation = some observation) (hresource : str observation.payload "resource" = some resource)
    (h : (resourceNotAllowed context).status = .noMatch) :
    Denotes context.session.expectedResource (placeOf resource) ↔ Stays context.session.expectedResource resource :=
  denotes_iff_stays hsafe (matchesPattern_of_noMatch hobservation hresource h)

/-! ## Runs -/

/-- A file was read in a session for what lies below `src`. -/
def readContext (resource : Text) : EvaluationContext where
  session := { sampleSession with expectedResource := "src/**" }
  now := 0
  observation := some
    { observationId := "o"
      tenantId := "t"
      sentinelSessionId := "s"
      timestamp := 0
      source := .toolAdapter
      observationType := .resourceRead
      payload := some ⟨[("resource", .str resource)], rfl⟩
      sequence := 0
      receivedAt := 0 }
  authorityStatus := none

theorem resource_inside_iff_read :
    Denotes "src/**" (placeOf "src/a/../b.ts") ↔ Stays "src/**" "src/a/../b.ts" :=
  @resource_inside_iff (readContext "src/a/../b.ts") _ _ (by decide) rfl rfl (by decide)

/-- The file leads out of `src`, and the rule reports nothing. -/
theorem outside_noMatch : (resourceNotAllowed (readContext "src/../etc/passwd")).status = .noMatch ∧
    ¬ Denotes "src/**" (placeOf "src/../etc/passwd") := by
  refine ⟨by decide, ?_⟩
  rw [denotes_iff_stays (by decide) (by decide)]
  exact fun hstays => absurd (hstays (by decide)) (by decide)

end Tna.Sentinel
