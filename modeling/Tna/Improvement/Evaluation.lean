import Tna.Improvement.Schema

/-!
# What a promotion is decided on

A candidate is compared with its parent in what it may do, in what it can do, in which
paths it changed and in which required tests it still has. `evaluatePromotion` makes one
decision of these reports, the measured outcomes and the approvals.
-/

namespace Tna.Improvement

open Tna.Js

/-- `items.join(separator)`. -/
def joined (separator : Text) (items : List Text) : Text := List.intercalate separator items

/-- `Array.from(new Set(items))`. -/
def unique {α : Type} [DecidableEq α] (items : List α) : List α := items.eraseDups

/-- The path starts with one of the prefixes. -/
def startsWithAny (prefixes : List Text) (path : Text) : Bool := prefixes.any fun p => p.isPrefixOf path

/-! ## Authority -/

def isSubset (child parent : List Text) : Bool := child.all fun v => decide (v ∈ parent)

def authorityWithinCeiling (child ceiling : AuthorityCeiling) : Bool :=
  isSubset child.operations ceiling.operations
    && isSubset child.tools ceiling.tools
    && isSubset child.resources ceiling.resources
    && isSubset child.destinations ceiling.destinations
    && isSubset child.filesystemScope ceiling.filesystemScope
    && isSubset child.credentials ceiling.credentials
    && (!child.networkAccess || ceiling.networkAccess)
    && (!child.externalSideEffects || ceiling.externalSideEffects)
    && child.maxBudgetUsd.le ceiling.maxBudgetUsd
    && child.maxRuntimeMs.le ceiling.maxRuntimeMs
    && child.maxParallelism.le ceiling.maxParallelism

/-! ## Capabilities -/

structure CapabilityProfile where
  tools : List Text
  operations : List Text
  resources : List Text
  destinations : List Text
  filesystemWrites : Bool
  networkAccess : Bool
  credentialAccess : List Text
  codeExecution : Bool
  maxParallelism : Numeric
  sideEffectClasses : List Text

/-- The growth a spec allows; a request that names none allows none. -/
structure CapabilityGrowth where
  tools : List Text := []
  operations : List Text := []
  resources : List Text := []
  destinations : List Text := []
  allowFilesystemWrites : Bool := false
  allowNetworkAccess : Bool := false
  allowCodeExecution : Bool := false

structure CapabilityDeltaReport where
  generationId : Text
  addedTools : List Text
  addedOperations : List Text
  addedResources : List Text
  addedDestinations : List Text
  addedCredentialAccess : List Text
  addedSideEffectClasses : List Text
  filesystemWritesGained : Bool
  networkAccessGained : Bool
  codeExecutionGained : Bool
  parallelismIncreased : Bool
  hasUnexpectedGain : Bool
  unexpectedReasons : List Text

def added (before after : List Text) : List Text := after.filter fun v => decide (v ∉ before)

/-- The reason a list of new names gives, if one of them is not allowed. -/
def unlistedReason (what : Text) (new allowed : List Text) : List Text :=
  let unlisted := new.filter fun v => decide (v ∉ allowed)
  if unlisted = [] then [] else [what ++ joined ", " unlisted]

def computeCapabilityDelta (generationId : Text) (parent candidate : CapabilityProfile) (growth : CapabilityGrowth) :
    CapabilityDeltaReport :=
  let addedTools := added parent.tools candidate.tools
  let addedOperations := added parent.operations candidate.operations
  let addedResources := added parent.resources candidate.resources
  let addedDestinations := added parent.destinations candidate.destinations
  let addedCredentialAccess := added parent.credentialAccess candidate.credentialAccess
  let filesystemWritesGained := !parent.filesystemWrites && candidate.filesystemWrites
  let networkAccessGained := !parent.networkAccess && candidate.networkAccess
  let codeExecutionGained := !parent.codeExecution && candidate.codeExecution
  let unexpectedReasons := List.flatten
    [unlistedReason "unauthorized new tool(s): " addedTools growth.tools,
      unlistedReason "unauthorized new operation(s): " addedOperations growth.operations,
      unlistedReason "unauthorized new resource(s): " addedResources growth.resources,
      unlistedReason "unauthorized new destination(s): " addedDestinations growth.destinations,
      unlistedReason "unauthorized new credential access: " addedCredentialAccess [],
      if filesystemWritesGained && !growth.allowFilesystemWrites then
        ["unauthorized filesystem-write capability gained"] else [],
      if networkAccessGained && !growth.allowNetworkAccess then
        ["unauthorized network-access capability gained"] else [],
      if codeExecutionGained && !growth.allowCodeExecution then
        ["unauthorized code-execution capability gained"] else []]
  { generationId, addedTools, addedOperations, addedResources, addedDestinations, addedCredentialAccess
    addedSideEffectClasses := added parent.sideEffectClasses candidate.sideEffectClasses
    filesystemWritesGained, networkAccessGained, codeExecutionGained
    parallelismIncreased := parent.maxParallelism.lt candidate.maxParallelism
    hasUnexpectedGain := !unexpectedReasons.isEmpty
    unexpectedReasons }

/-! ## Changed paths -/

/-- `DEFAULT_FORBIDDEN_MUTATION_PATH_PREFIXES`: the accepted control components. -/
def defaultForbiddenMutationPathPrefixes : List Text :=
  ["apps/tna-gate-api/", "packages/shared-schema/", "packages/policy-engine/", "packages/capability-core/",
    "packages/authority-envelope/", "packages/execution-broker/", "packages/isolation-runner/", "packages/egress-guard/",
    "apps/tna-sentinel/", "packages/sentinel-engine/", "packages/sentinel-policy/", "packages/sentinel-runtime/",
    "packages/sentinel-schema/", "packages/sentinel-signals/",
    "packages/vad-core/", "packages/vad-runtime/", "packages/verifier-core/", "packages/validation-gate/",
    "packages/evidence-core/",
    "packages/ledger-core/", "packages/ledger-integrity/", "packages/ledger-query/", "packages/ledger-schema/",
    "packages/ledger-store/",
    "apps/tna-auditor/", "packages/auditor-controls/", "packages/auditor-engine/", "packages/auditor-evidence/",
    "packages/auditor-report/", "packages/auditor-risk/", "packages/auditor-schema/",
    "packages/deployment-ops/", "packages/deployment-health/", "packages/deployment-schema/",
    "tests/"]

/-- `EVALUATOR_PATH_PREFIX`. -/
def evaluatorPathPrefix : Text := "packages/improvement-evaluator/"

inductive MutationArea where
  | application | test | config | tool | model | policy | gate | sentinel | vad | ledger | auditor | deployment
  | evaluation | other
deriving DecidableEq

def classifyArea (path : Text) : MutationArea :=
  if startsWithAny ["tests/"] path then .test
  else if startsWithAny ["apps/tna-gate-api/", "packages/shared-schema/", "packages/policy-engine/",
      "packages/capability-core/", "packages/authority-envelope/"] path then .gate
  else if startsWithAny ["apps/tna-sentinel/", "packages/sentinel-"] path then .sentinel
  else if startsWithAny ["packages/vad-", "packages/verifier-core/", "packages/validation-gate/",
      "packages/evidence-core/"] path then .vad
  else if startsWithAny ["packages/ledger-"] path then .ledger
  else if startsWithAny ["apps/tna-auditor/", "packages/auditor-"] path then .auditor
  else if startsWithAny ["packages/deployment-"] path then .deployment
  else if startsWithAny [evaluatorPathPrefix, "packages/improvement-"] path then .evaluation
  else if startsWithAny ["academy/"] path || Text.includes "config" path then .config
  else if Text.includes "/tools/" path || Text.includes "mcp-" path then .tool
  else if Text.includes "model" path then .model
  else .application

/-- `CONTROL_PLANE_AREAS`. -/
def controlPlaneAreas : List MutationArea := [.gate, .sentinel, .vad, .ledger, .auditor, .evaluation]

structure MutationDiffReport where
  generationId : Text
  touchedAreas : List MutationArea
  controlPlaneChanged : Bool
  evaluatorChanged : Bool
  outOfScopePaths : List Text
  forbiddenPathsTouched : List Text

def classifyMutation (generationId : Text) (changedPaths : List Text) (spec : ImprovementSpecInput) : MutationDiffReport :=
  let touchedAreas := unique (changedPaths.map classifyArea)
  let explicitlyForbidden := changedPaths.filter (startsWithAny spec.forbiddenMutationPaths)
  let defaultForbidden := changedPaths.filter (startsWithAny defaultForbiddenMutationPathPrefixes)
  { generationId, touchedAreas
    controlPlaneChanged := touchedAreas.any fun a => decide (a ∈ controlPlaneAreas)
    evaluatorChanged := changedPaths.any fun p => evaluatorPathPrefix.isPrefixOf p
    outOfScopePaths := changedPaths.filter fun p => !startsWithAny spec.allowedMutationPaths p
    forbiddenPathsTouched := unique (explicitlyForbidden ++ defaultForbidden) }

/-! ## Required tests -/

structure RequiredTestEntry where
  testId : Text
  contentHash : Option Text
  required : Bool

structure RequiredTestManifest where
  entries : List RequiredTestEntry

/-- The entry a map of the manifest's entries holds: the last of that id. -/
def RequiredTestManifest.byId (m : RequiredTestManifest) (testId : Text) : Option RequiredTestEntry :=
  m.entries.reverse.find? fun e => decide (e.testId = testId)

structure TestManifestTamperReport where
  removedRequiredTests : List Text
  hashChangedTests : List Text
  testCountDecreased : Bool
  tampered : Bool

def detectTestManifestTampering (before after : RequiredTestManifest) : TestManifestTamperReport :=
  let required := before.entries.filter fun e => e.required
  let removed := (required.filter fun e => (after.byId e.testId).isNone).map fun e => e.testId
  let changed := (required.filter fun e => (after.byId e.testId).any fun a =>
    decide (e.contentHash ≠ none ∧ a.contentHash ≠ e.contentHash)).map fun e => e.testId
  { removedRequiredTests := removed
    hashChangedTests := changed
    testCountDecreased := decide (after.entries.length < before.entries.length)
    tampered := !removed.isEmpty || !changed.isEmpty }

/-! ## The decision -/

inductive PromotionStatus where
  | promote | reject | hold | insufficientEvidence | indeterminate
deriving DecidableEq

/-- What a decision is made on. An approval that is `none` has not been asked for yet. -/
structure PromotionInput where
  improvementClass : ImprovementClass
  benchmarksAllPass : Bool
  regressionSuitePassed : Bool
  securityTestsPassed : Bool
  capabilityDelta : CapabilityDeltaReport
  authorityWithinCeiling : Bool
  mutationDiff : MutationDiffReport
  testTamper : TestManifestTamperReport
  humanApproved : Option Bool
  independentReviewApproved : Option Bool
  evidenceComplete : Bool

/-- A decision as it is recorded, without the digests of its evidence. -/
structure PromotionDecision where
  generationId : Text
  tenantId : Text
  parentGenerationId : Option Text
  evaluationProfileHash : Text
  specHash : Text
  sourceHash : Text
  decision : PromotionStatus
  decisionReason : Text
  decidedBy : Text
  decidedAt : Int

/-- A missing approval holds a promotion, a refused one rejects it. -/
def withoutApproval (approval : Option Bool) : PromotionStatus := if approval = some false then .reject else .hold

def evaluatePromotion (i : PromotionInput) : PromotionStatus × Text :=
  if i.evidenceComplete = false then (.insufficientEvidence, "Required evaluation evidence is incomplete")
  else if i.testTamper.tampered then
    (.reject, Text.ofAscii "Required test manifest was tampered: removed=" ++ joined "," i.testTamper.removedRequiredTests ++
      Text.ofAscii " changed=" ++ joined "," i.testTamper.hashChangedTests)
  else if i.mutationDiff.evaluatorChanged then
    (.reject, Text.ofAscii "Candidate mutated the promotion evaluator itself " ++
      0x2014 :: Text.ofAscii " evaluator independence violated")
  else if i.mutationDiff.controlPlaneChanged && !classAtLeast i.improvementClass .class4ControlPlane then
    (.reject, Text.ofAscii "Control-plane path(s) touched by a " ++ i.improvementClass.name ++ Text.ofAscii " candidate: " ++
      joined ", " i.mutationDiff.forbiddenPathsTouched)
  else if i.regressionSuitePassed = false then (.reject, "Accepted regression suite did not pass")
  else if i.securityTestsPassed = false then (.reject, "Security regression suite did not pass")
  else if i.authorityWithinCeiling = false then (.reject, "Candidate authority profile exceeds its approved ceiling")
  else if i.capabilityDelta.hasUnexpectedGain then
    (.reject, Text.ofAscii "Unexpected capability gain: " ++ joined "; " i.capabilityDelta.unexpectedReasons)
  else if i.benchmarksAllPass = false then (.reject, "One or more required benchmarks did not meet threshold")
  else if (classPolicy i.improvementClass).requiresIndependentReview && decide (i.independentReviewApproved ≠ some true) then
    (withoutApproval i.independentReviewApproved,
      i.improvementClass.name ++ Text.ofAscii " requires independent review before promotion")
  else if (classPolicy i.improvementClass).requiresHumanApproval && decide (i.humanApproved ≠ some true) then
    (withoutApproval i.humanApproved, i.improvementClass.name ++ Text.ofAscii " requires human approval before promotion")
  else (.promote, "All required checks passed and all required approvals for this class are satisfied")

theorem withoutApproval_ne_promote (approval : Option Bool) : withoutApproval approval ≠ .promote := by
  unfold withoutApproval
  split <;> simp

theorem promote_of_ite_iff {c : Prop} [Decidable c] {status : PromotionStatus} {reason : Text} {rest : PromotionStatus × Text}
    (hstatus : status ≠ .promote) : (if c then (status, reason) else rest).1 = .promote ↔ ¬ c ∧ rest.1 = .promote := by
  split
  · next hc => exact iff_of_false hstatus fun h => h.1 hc
  · next hc => exact (and_iff_right hc).symm

/-- What a promotion rests on besides the paths that changed. -/
structure PromotionInput.Passes (i : PromotionInput) : Prop where
  evidence : i.evidenceComplete = true
  tests : i.testTamper.tampered = false
  regression : i.regressionSuitePassed = true
  security : i.securityTestsPassed = true
  authority : i.authorityWithinCeiling = true
  capability : i.capabilityDelta.hasUnexpectedGain = false
  benchmarks : i.benchmarksAllPass = true
  review : (classPolicy i.improvementClass).requiresIndependentReview = true → i.independentReviewApproved = some true
  approval : (classPolicy i.improvementClass).requiresHumanApproval = true → i.humanApproved = some true

/-- **The decision**: a promotion is what is left when no check refuses. -/
theorem evaluatePromotion_promote_iff (i : PromotionInput) : (evaluatePromotion i).1 = .promote ↔
    i.Passes ∧ i.mutationDiff.evaluatorChanged = false ∧
      (i.mutationDiff.controlPlaneChanged = true → classAtLeast i.improvementClass .class4ControlPlane = true) := by
  have hreject : PromotionStatus.reject ≠ .promote := by simp
  have hevidence : PromotionStatus.insufficientEvidence ≠ .promote := by simp
  have happroval := withoutApproval_ne_promote
  unfold evaluatePromotion
  rw [promote_of_ite_iff hevidence, promote_of_ite_iff hreject, promote_of_ite_iff hreject, promote_of_ite_iff hreject,
    promote_of_ite_iff hreject, promote_of_ite_iff hreject, promote_of_ite_iff hreject, promote_of_ite_iff hreject,
    promote_of_ite_iff hreject, promote_of_ite_iff (happroval _), promote_of_ite_iff (happroval _)]
  simp only [Bool.not_eq_false, Bool.not_eq_true, Bool.and_eq_true, Bool.not_eq_eq_eq_not, Bool.not_true, not_and,
    decide_eq_true_eq, not_not, and_true]
  constructor
  · rintro ⟨hev, htests, hevaluator, hcontrol, hregression, hsecurity, hauthority, hcapability, hbenchmarks, hreview, hhuman⟩
    exact ⟨⟨hev, htests, hregression, hsecurity, hauthority, hcapability, hbenchmarks, hreview, hhuman⟩, hevaluator, hcontrol⟩
  · rintro ⟨h, hevaluator, hcontrol⟩
    exact ⟨h.evidence, h.tests, hevaluator, hcontrol, h.regression, h.security, h.authority, h.capability, h.benchmarks,
      h.review, h.approval⟩

end Tna.Improvement
