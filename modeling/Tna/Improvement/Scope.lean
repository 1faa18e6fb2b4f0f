import Tna.Improvement.Evaluator

/-!
# The scope of a promotion

Three tables of prefixes speak about the paths a candidate may change: the default
forbidden ones, those by which a path is assigned to an area, and the spec's own. The
decision looks at the areas alone, and some forbidden prefixes belong to no area of the
control plane.
-/

namespace Tna.Improvement

open Tna.Lib Tna.Js

/-- The default forbidden prefixes that lie in an area of the control plane. -/
def classifiedPrefixes : List Text :=
  ["apps/tna-gate-api/", "packages/shared-schema/", "packages/policy-engine/", "packages/capability-core/",
    "packages/authority-envelope/", "apps/tna-sentinel/", "packages/sentinel-engine/", "packages/sentinel-policy/",
    "packages/sentinel-runtime/", "packages/sentinel-schema/", "packages/sentinel-signals/", "packages/vad-core/",
    "packages/vad-runtime/", "packages/verifier-core/", "packages/validation-gate/", "packages/evidence-core/",
    "packages/ledger-core/", "packages/ledger-integrity/", "packages/ledger-query/", "packages/ledger-schema/",
    "packages/ledger-store/", "apps/tna-auditor/", "packages/auditor-controls/", "packages/auditor-engine/",
    "packages/auditor-evidence/", "packages/auditor-report/", "packages/auditor-risk/", "packages/auditor-schema/"]

/-- The default forbidden prefixes that lie in none. -/
def unclassifiedPrefixes : List Text :=
  ["packages/execution-broker/", "packages/isolation-runner/", "packages/egress-guard/", "packages/deployment-ops/",
    "packages/deployment-health/", "packages/deployment-schema/", "tests/"]

theorem mem_defaultForbidden (q : Text) : q ∈ defaultForbiddenMutationPathPrefixes ↔
    q ∈ classifiedPrefixes ∨ q ∈ unclassifiedPrefixes := by
  have hperm : defaultForbiddenMutationPathPrefixes.Perm (classifiedPrefixes ++ unclassifiedPrefixes) := by decide +kernel
  rw [hperm.mem_iff, List.mem_append]

theorem classifyArea_append (rest : Text) : (classifiedPrefixes.all fun q =>
    decide (classifyArea (q ++ rest) ∈ controlPlaneAreas)) = true := by rfl

theorem startsWithAny_iff {prefixes : List Text} {path : Text} :
    startsWithAny prefixes path = true ↔ ∃ q ∈ prefixes, ∃ rest, path = q ++ rest := by
  simp only [startsWithAny, List.any_eq_true, List.isPrefixOf_iff_prefix]
  constructor
  · rintro ⟨q, hq, rest, rfl⟩
    exact ⟨q, hq, rest, rfl⟩
  · rintro ⟨q, hq, rest, rfl⟩
    exact ⟨q, hq, rest, rfl⟩

section
variable {path : Text}

/-- Outside the control plane, a forbidden path is one of an unclassified prefix. -/
theorem forbidden_iff_of_not_control (h : classifyArea path ∉ controlPlaneAreas) :
    startsWithAny defaultForbiddenMutationPathPrefixes path = startsWithAny unclassifiedPrefixes path := by
  rw [Bool.eq_iff_iff, startsWithAny_iff, startsWithAny_iff]
  constructor
  · rintro ⟨q, hq, rest, rfl⟩
    rcases (mem_defaultForbidden q).1 hq with hq | hq
    · exact absurd (of_decide_eq_true (List.all_eq_true.1 (classifyArea_append rest) q hq)) h
    · exact ⟨q, hq, rest, rfl⟩
  · rintro ⟨q, hq, rest, rfl⟩
    exact ⟨q, (mem_defaultForbidden q).2 (.inr hq), rest, rfl⟩

/-- The evaluator's own path is in the control plane. -/
theorem control_of_evaluator (h : evaluatorPathPrefix.isPrefixOf path = true) : classifyArea path ∈ controlPlaneAreas := by
  obtain ⟨rest, rfl⟩ := List.isPrefixOf_iff_prefix.1 h
  have harea : classifyArea (evaluatorPathPrefix ++ rest) = .evaluation := by rfl
  rw [harea]
  decide

end

/-! ## What a promotion promises, and what it looks at -/

/-- A path a candidate below the control-plane class may change. -/
structure WithinScope (spec : ImprovementSpecInput) (path : Text) : Prop where
  control : startsWithAny defaultForbiddenMutationPathPrefixes path = false
  evaluator : evaluatorPathPrefix.isPrefixOf path = false
  forbidden : startsWithAny spec.forbiddenMutationPaths path = false
  allowed : startsWithAny spec.allowedMutationPaths path = true

/-- What the decision does not look at is in order all the same. -/
structure WithinUnseen (spec : ImprovementSpecInput) (path : Text) : Prop where
  control : startsWithAny unclassifiedPrefixes path = false
  forbidden : startsWithAny spec.forbiddenMutationPaths path = false
  allowed : startsWithAny spec.allowedMutationPaths path = true

/-- No path is in an area of the control plane. -/
def NoControlPath (paths : List Text) : Prop := ∀ p ∈ paths, classifyArea p ∉ controlPlaneAreas

section
variable {spec : ImprovementSpecInput} {paths : List Text}

variable {generationId : Text} {m : PromotionInput}

theorem controlPlaneChanged_eq_false_iff :
    (classifyMutation generationId paths spec).controlPlaneChanged = false ↔ NoControlPath paths := by
  simp [classifyMutation, unique, NoControlPath]

/-- Outside the control plane, a path is in scope when what is not looked at is in order. -/
theorem withinScope_iff_of_not_control {path : Text} (h : classifyArea path ∉ controlPlaneAreas) :
    WithinScope spec path ↔ WithinUnseen spec path := by
  have hevaluator : evaluatorPathPrefix.isPrefixOf path = false :=
    Bool.eq_false_iff.2 fun hleading => h (control_of_evaluator hleading)
  constructor
  · rintro ⟨hcontrol, -, hforbidden, hallowed⟩
    exact ⟨(forbidden_iff_of_not_control h).symm.trans hcontrol, hforbidden, hallowed⟩
  · rintro ⟨hcontrol, hforbidden, hallowed⟩
    exact ⟨(forbidden_iff_of_not_control h).trans hcontrol, hevaluator, hforbidden, hallowed⟩

/-- A candidate below the control-plane class is promoted when everything else passes and no area of the control plane
was touched. -/
theorem promote_iff_of_low_class (hdiff : m.mutationDiff = classifyMutation generationId paths spec)
    (hclass : classAtLeast m.improvementClass .class4ControlPlane = false) :
    (evaluatePromotion m).1 = .promote ↔ m.Passes ∧ NoControlPath paths := by
  have hcontrol : (m.mutationDiff.controlPlaneChanged = true → classAtLeast m.improvementClass .class4ControlPlane = true) ↔
      NoControlPath paths := by
    have hplane : (classifyMutation generationId paths spec).controlPlaneChanged = false ↔ NoControlPath paths :=
      controlPlaneChanged_eq_false_iff
    rw [hclass, hdiff, ← hplane]
    simp
  have hevaluator : NoControlPath paths → m.mutationDiff.evaluatorChanged = false := by
    intro hnone
    rw [hdiff]
    refine Bool.eq_false_iff.2 fun hany => ?_
    obtain ⟨p, hp, hleading⟩ := List.any_eq_true.1 hany
    exact hnone p hp (control_of_evaluator hleading)
  rw [evaluatePromotion_promote_iff, hcontrol]
  exact ⟨fun h => ⟨h.1, h.2.2⟩, fun h => ⟨h.1, hevaluator h.2, h.2⟩⟩

/-- The decision keeps to the scope exactly when nothing it does not look at is out of order. -/
theorem promote_within_iff (hdiff : m.mutationDiff = classifyMutation generationId paths spec)
    (hclass : classAtLeast m.improvementClass .class4ControlPlane = false) :
    ((evaluatePromotion m).1 = .promote → ∀ p ∈ paths, WithinScope spec p) ↔
      (m.Passes → NoControlPath paths → ∀ p ∈ paths, WithinUnseen spec p) := by
  rw [promote_iff_of_low_class hdiff hclass]
  constructor
  · intro h hpasses hnone p hp
    exact (withinScope_iff_of_not_control (hnone p hp)).1 (h ⟨hpasses, hnone⟩ p hp)
  · rintro h ⟨hpasses, hnone⟩ p hp
    exact (withinScope_iff_of_not_control (hnone p hp)).2 (h hpasses hnone p hp)

end

/-- The generation is there, and its parent's tree is the one it was created from. -/
def EvaluationInputs.Fresh (i : EvaluationInputs) (sha256 : Bytes → Digest) (store : ImprovementStore) : Prop :=
  ∃ g, store.getGeneration i.tenantId i.generationId = .ok g ∧ hashDirectoryTree sha256 i.parentWorkspace = g.sourceHashBefore

theorem runPromotionEvaluation_promote_iff {sha256 : Bytes → Digest} {store : ImprovementStore} {i : EvaluationInputs}
    {outcomes : CommandOutcomes} {now : Int} :
    (∃ result store', runPromotionEvaluation sha256 store i outcomes now = .ok (result, store') ∧ result.status = .promote) ↔
      i.Fresh sha256 store ∧ (evaluatePromotion (i.measured sha256 outcomes)).1 = .promote := by
  constructor
  · rintro ⟨result, store', hrun, hstatus⟩
    obtain ⟨⟨g, hget, heq⟩, -, -⟩ := runPromotionEvaluation_ok hrun
    rw [hstatus] at heq
    split at heq
    · next hfresh => exact ⟨⟨g, hget, hfresh⟩, heq.symm⟩
    · cases heq
  · rintro ⟨⟨g, hget, hfresh⟩, hpromote⟩
    cases hrun : runPromotionEvaluation sha256 store i outcomes now with
    | error e =>
      simp [runPromotionEvaluation, hget, hfresh] at hrun
    | ok r =>
      have hpair : runPromotionEvaluation sha256 store i outcomes now = .ok (r.1, r.2) := hrun
      obtain ⟨⟨g', hget', heq⟩, -, -⟩ := runPromotionEvaluation_ok hpair
      rw [hget] at hget'
      cases hget'
      rw [if_pos hfresh, hpromote] at heq
      exact ⟨r.1, r.2, rfl, heq⟩

/-- **The scope of a promotion.** It is kept exactly when what the decision does not look at is in order: the prefixes of
no area, and the spec's own two lists. -/
theorem promotion_within_scope_iff (m : PromotionInput) (generationId : Text) (paths : List Text)
    (spec : ImprovementSpecInput) (sha256 : Bytes → Digest) (store : ImprovementStore) (i : EvaluationInputs)
    (outcomes : CommandOutcomes) (now : Int) :
    (m.mutationDiff = classifyMutation generationId paths spec →
      classAtLeast m.improvementClass .class4ControlPlane = false →
        (((evaluatePromotion m).1 = .promote → ∀ p ∈ paths, WithinScope spec p) ↔
          (m.Passes → NoControlPath paths → ∀ p ∈ paths, WithinUnseen spec p))) ∧
    (classAtLeast i.improvementClass .class4ControlPlane = false →
      let paths := changedPaths sha256 i.parentWorkspace i.candidateWorkspace
      let spec := i.spec.toImprovementSpecInput
      (((∃ result store', runPromotionEvaluation sha256 store i outcomes now = .ok (result, store') ∧
          result.status = .promote) → ∀ p ∈ paths, WithinScope spec p) ↔
        (i.Fresh sha256 store → (i.measured sha256 outcomes).Passes → NoControlPath paths →
          ∀ p ∈ paths, WithinUnseen spec p))) := by
  constructor
  · intro hdiff hclass
    exact promote_within_iff hdiff hclass
  · intro hclass paths spec
    rw [runPromotionEvaluation_promote_iff, and_imp]
    exact imp_congr_right fun _ => promote_within_iff (m := i.measured sha256 outcomes) rfl hclass

/-! ## A promotion out of scope -/

def sampleCeiling : AuthorityCeiling where
  operations := []
  tools := []
  resources := []
  destinations := []
  networkAccess := false
  filesystemScope := []
  credentials := []
  maxBudgetUsd := .finite 0
  maxRuntimeMs := .finite 0
  maxParallelism := .finite 1
  externalSideEffects := false
  requiresApprovalFor := []

def sampleSpec : ImprovementSpec where
  systemId := "sys"
  tenantId := "t"
  parentGenerationId := none
  objective := "o"
  improvementClass := .class1Code
  allowedMutationPaths := ["src/"]
  forbiddenMutationPaths := []
  authorityCeiling := sampleCeiling
  evaluationProfileId := "default"
  requiredBenchmarks := []
  requiredSecurityTests := []
  canaryPolicy := ⟨5, 20, 60000, 1 / 10, true, 1⟩
  rollbackPolicy := ⟨none, []⟩
  maxRuntimeMs := 600000
  maxCostUsd := 5
  createdBy := "u"
  specId := "spec"
  specHash := "h"

def sampleGeneration : ImprovementGeneration where
  generationId := "gen"
  tenantId := "t"
  systemId := "sys"
  parentGenerationId := none
  rootGenerationId := "gen"
  generationNumber := 0
  candidateVersion := "1"
  status := .evaluating
  improvementClass := .class1Code
  specHash := "h"
  sourceHashBefore := hashDirectoryTree sampleSha256 sampleParent
  sourceHashAfter := none
  createdBy := "u"
  stateVersion := 4

def sampleStore : ImprovementStore := { ImprovementStore.empty with generations := Keyed.empty.put sampleGeneration }

/-- The parent's tree with a file of the execution broker. -/
def brokerCandidate : Tree :=
  ⟨.cons ⟨"a.ts", by decide⟩ (.file [1]) (.cons ⟨"packages", by decide⟩
    (.dir (.cons ⟨"execution-broker", by decide⟩ (.dir (.cons ⟨"x.ts", by decide⟩ (.file [2]) .nil)) .nil)) .nil), by decide⟩

def sampleProfile : CapabilityProfile := ⟨[], [], [], [], false, false, [], false, .finite 1, []⟩

def sampleEvaluation (candidate : Tree) : EvaluationInputs where
  tenantId := "t"
  generationId := "gen"
  parentGenerationId := none
  improvementClass := .class1Code
  parentWorkspace := sampleParent
  candidateWorkspace := candidate
  spec := sampleSpec
  parentCapabilityProfile := sampleProfile
  candidateCapabilityProfile := sampleProfile
  allowedCapabilityGrowth := {}
  regressionTestCommand := none
  securityTestCommand := none
  benchmarks := []
  requiredTestManifestBefore := ⟨[]⟩
  requiredTestManifestAfter := ⟨[]⟩
  candidateAuthorityProfile := sampleCeiling
  humanApproved := none
  independentReviewApproved := none
  evaluationProfileHash := "default"
  decidedBy := "governor"

def nothingRun : CommandOutcomes := ⟨⟨true, some 0, []⟩, ⟨true, some 0, []⟩, fun _ => ⟨true, some 0, []⟩⟩

theorem fresh_sample (candidate : Tree) : (sampleEvaluation candidate).Fresh sampleSha256 sampleStore :=
  ⟨sampleGeneration, rfl, rfl⟩

/-- A candidate of a class below the control plane's is promoted with a file of the execution broker, which is forbidden
and outside its spec's paths. -/
theorem not_within_scope_of_broker :
    (∃ result store', runPromotionEvaluation sampleSha256 sampleStore (sampleEvaluation brokerCandidate) nothingRun 0 =
      .ok (result, store') ∧ result.status = .promote) ∧
    classAtLeast (sampleEvaluation brokerCandidate).improvementClass .class4ControlPlane = false ∧
    ∃ p ∈ changedPaths sampleSha256 sampleParent brokerCandidate,
      startsWithAny defaultForbiddenMutationPathPrefixes p = true ∧ startsWithAny sampleSpec.allowedMutationPaths p = false := by
  refine ⟨runPromotionEvaluation_promote_iff.2 ⟨fresh_sample _, by decide +kernel⟩, rfl,
    "packages/execution-broker/x.ts", by decide +kernel, by decide +kernel, by decide +kernel⟩

/-- The same candidate: the decision does not look at the prefix. -/
theorem promotion_within_scope_iff_broker :
    ((∃ result store', runPromotionEvaluation sampleSha256 sampleStore (sampleEvaluation brokerCandidate) nothingRun 0 =
        .ok (result, store') ∧ result.status = .promote) →
      ∀ p ∈ changedPaths sampleSha256 sampleParent brokerCandidate, WithinScope sampleSpec.toImprovementSpecInput p) ↔
    ((sampleEvaluation brokerCandidate).Fresh sampleSha256 sampleStore →
      ((sampleEvaluation brokerCandidate).measured sampleSha256 nothingRun).Passes →
      NoControlPath (changedPaths sampleSha256 sampleParent brokerCandidate) →
      ∀ p ∈ changedPaths sampleSha256 sampleParent brokerCandidate, WithinUnseen sampleSpec.toImprovementSpecInput p) :=
  (promotion_within_scope_iff ((sampleEvaluation brokerCandidate).measured sampleSha256 nothingRun) [] []
    sampleSpec.toImprovementSpecInput sampleSha256 sampleStore (sampleEvaluation brokerCandidate) nothingRun 0).2 rfl

end Tna.Improvement
