import Tna.Improvement.Snapshot
import Tna.Improvement.Store
import Tna.Js.Number

/-!
# The promotion evaluator

`runPromotionEvaluation` measures a candidate: it compares the trees, runs the candidate's
suites and benchmarks, compares the profiles, and records the decision `evaluatePromotion`
makes of all that. What a command comes to when it is run is given.
-/

namespace Tna.Improvement

open Tna.Js

structure BenchmarkSpec where
  benchmarkId : Text
  command : List Text
  threshold : Rat
  parentScore : Rat

structure BenchmarkResult where
  benchmarkId : Text
  generationId : Text
  parentScore : Rat
  candidateScore : Numeric
  delta : Numeric
  threshold : Rat
  passes : Bool
  evidenceRef : Text

def evaluateBenchmark (benchmarkId generationId : Text) (parentScore : Rat) (candidateScore : Numeric) (threshold : Rat)
    (evidenceRef : Text) : BenchmarkResult :=
  let delta := candidateScore.minus parentScore
  { benchmarkId, generationId, parentScore, candidateScore, delta, threshold
    passes := delta.atLeast threshold, evidenceRef }

structure EvaluationInputs where
  tenantId : Text
  generationId : Text
  parentGenerationId : Option Text
  improvementClass : ImprovementClass
  parentWorkspace : Tree
  candidateWorkspace : Tree
  spec : ImprovementSpec
  parentCapabilityProfile : CapabilityProfile
  candidateCapabilityProfile : CapabilityProfile
  allowedCapabilityGrowth : CapabilityGrowth
  regressionTestCommand : Option (List Text)
  securityTestCommand : Option (List Text)
  benchmarks : List BenchmarkSpec
  requiredTestManifestBefore : RequiredTestManifest
  requiredTestManifestAfter : RequiredTestManifest
  candidateAuthorityProfile : AuthorityCeiling
  humanApproved : Option Bool
  independentReviewApproved : Option Bool
  evaluationProfileHash : Text
  decidedBy : Text

structure EvaluationResult where
  decision : PromotionDecision
  status : PromotionStatus
  reason : Text
  benchmarkResults : List BenchmarkResult
  regressionSuitePassed : Bool
  securityTestsPassed : Bool
  evidenceComplete : Bool
  controlPlaneChanged : Bool
  evaluatorChanged : Bool
  testTampered : Bool
  authorityWithinCeiling : Bool
  hasUnexpectedCapabilityGain : Bool

/-! ## Commands -/

structure CommandOutcome where
  ranSuccessfully : Bool
  exitCode : Option Int
  stdout : Text

/-- What the commands of an evaluation come to. -/
structure CommandOutcomes where
  regression : CommandOutcome
  security : CommandOutcome
  benchmark : Nat → CommandOutcome

/-- An empty command cannot be run. -/
def runCommand (command : List Text) (outcome : CommandOutcome) : CommandOutcome :=
  if command = [] then ⟨false, none, []⟩ else outcome

/-- A suite that is not configured counts as one that ran and passed. -/
def runSuite (command : Option (List Text)) (outcome : CommandOutcome) : CommandOutcome :=
  match command with
  | some command => runCommand command outcome
  | none => ⟨true, some 0, []⟩

def CommandOutcome.passed (o : CommandOutcome) : Bool := o.ranSuccessfully && decide (o.exitCode = some 0)

/-- A benchmark that ran and printed a number, whatever its exit code. -/
def runBenchmark (generationId : Text) (b : BenchmarkSpec) (outcome : CommandOutcome) : Option BenchmarkResult :=
  let run := runCommand b.command outcome
  let score := numberOf run.stdout
  if run.ranSuccessfully = false ∨ score = .nan then none
  else some (evaluateBenchmark b.benchmarkId generationId b.parentScore score b.threshold
    (Text.ofAscii "cmd:" ++ joined " " b.command))

/-! ## The evaluation -/

namespace EvaluationInputs

section
variable (sha256 : Bytes → Digest) (i : EvaluationInputs) (outcomes : CommandOutcomes)

def benchmarkRuns : List (Option BenchmarkResult) :=
  i.benchmarks.zipIdx.map fun b => runBenchmark i.generationId b.1 (outcomes.benchmark b.2)

def mutationDiff : MutationDiffReport :=
  classifyMutation i.generationId (changedPaths sha256 i.parentWorkspace i.candidateWorkspace) i.spec.toImprovementSpecInput

/-- What the decision is made on, as measured. -/
def measured : PromotionInput :=
  let regression := runSuite i.regressionTestCommand outcomes.regression
  let security := runSuite i.securityTestCommand outcomes.security
  let runs := i.benchmarkRuns outcomes
  let results := runs.filterMap id
  let evidenceComplete := regression.ranSuccessfully && security.ranSuccessfully && runs.all Option.isSome
  { improvementClass := i.improvementClass
    benchmarksAllPass :=
      evidenceComplete && decide (results.length = i.benchmarks.length) && results.all BenchmarkResult.passes
    regressionSuitePassed := regression.passed
    securityTestsPassed := security.passed
    capabilityDelta := computeCapabilityDelta i.generationId i.parentCapabilityProfile i.candidateCapabilityProfile
      i.allowedCapabilityGrowth
    authorityWithinCeiling := authorityWithinCeiling i.candidateAuthorityProfile i.spec.authorityCeiling
    mutationDiff := i.mutationDiff sha256
    testTamper := detectTestManifestTampering i.requiredTestManifestBefore i.requiredTestManifestAfter
    humanApproved := i.humanApproved
    independentReviewApproved := i.independentReviewApproved
    evidenceComplete }

/-- The row of a decision made on the inputs. -/
def decided (sourceHash : Text) (status : PromotionStatus) (reason : Text) (now : Int) : PromotionDecision :=
  { generationId := i.generationId, tenantId := i.tenantId, parentGenerationId := i.parentGenerationId
    evaluationProfileHash := i.evaluationProfileHash, specHash := i.spec.specHash, sourceHash
    decision := status, decisionReason := reason, decidedBy := i.decidedBy, decidedAt := now }

end

end EvaluationInputs

def staleParentReason (current recorded : Text) : Text :=
  Text.ofAscii "Stale parent: the parent workspace's current content hash (" ++ current ++
    Text.ofAscii ") no longer matches this generation's recorded source_hash_before (" ++ recorded ++
    Text.ofAscii ") " ++ 0x2014 :: Text.ofAscii " the accepted baseline changed since this generation was created"

/-- Measures a candidate and records the decision. A candidate whose parent's tree has changed is not measured. -/
def runPromotionEvaluation (sha256 : Bytes → Digest) (store : ImprovementStore) (i : EvaluationInputs)
    (outcomes : CommandOutcomes) (now : Int) : ImprovementStore.Result EvaluationResult :=
  match store.getGeneration i.tenantId i.generationId with
  | .error e => .error e
  | .ok generation =>
    let sourceHashBefore := hashDirectoryTree sha256 i.parentWorkspace
    if sourceHashBefore ≠ generation.sourceHashBefore then
      let reason := staleParentReason sourceHashBefore generation.sourceHashBefore
      let decision := i.decided sourceHashBefore .indeterminate reason now
      .ok ({ decision, status := .indeterminate, reason, benchmarkResults := []
             regressionSuitePassed := false, securityTestsPassed := false, evidenceComplete := false
             controlPlaneChanged := false, evaluatorChanged := false, testTampered := false
             authorityWithinCeiling := false, hasUnexpectedCapabilityGain := false },
        store.recordPromotionDecision decision)
    else
      let m := i.measured sha256 outcomes
      let (status, reason) := evaluatePromotion m
      let decision := i.decided (hashDirectoryTree sha256 i.candidateWorkspace) status reason now
      .ok ({ decision, status, reason, benchmarkResults := (i.benchmarkRuns outcomes).filterMap id
             regressionSuitePassed := m.regressionSuitePassed, securityTestsPassed := m.securityTestsPassed
             evidenceComplete := m.evidenceComplete, controlPlaneChanged := m.mutationDiff.controlPlaneChanged
             evaluatorChanged := m.mutationDiff.evaluatorChanged, testTampered := m.testTamper.tampered
             authorityWithinCeiling := m.authorityWithinCeiling
             hasUnexpectedCapabilityGain := m.capabilityDelta.hasUnexpectedGain },
        store.recordPromotionDecision decision)

section
variable {sha256 : Bytes → Digest} {store store' : ImprovementStore} {i : EvaluationInputs} {outcomes : CommandOutcomes}
  {now : Int} {result : EvaluationResult}

/-- What an evaluation records is what it answers, on a generation that is there. -/
theorem runPromotionEvaluation_ok (h : runPromotionEvaluation sha256 store i outcomes now = .ok (result, store')) :
    (∃ g, store.getGeneration i.tenantId i.generationId = .ok g ∧
      result.status = if hashDirectoryTree sha256 i.parentWorkspace = g.sourceHashBefore then
        (evaluatePromotion (i.measured sha256 outcomes)).1 else .indeterminate) ∧
      result.decision.decision = result.status ∧ store' = store.recordPromotionDecision result.decision := by
  unfold runPromotionEvaluation at h
  cases hget : store.getGeneration i.tenantId i.generationId with
  | error e =>
    rw [hget] at h
    cases h
  | ok g =>
    simp only [hget] at h
    split at h
    · next hstale =>
      cases h
      exact ⟨⟨g, rfl, (if_neg hstale).symm⟩, rfl, rfl⟩
    · next hfresh =>
      cases h
      exact ⟨⟨g, rfl, (if_pos (not_not.1 hfresh)).symm⟩, rfl, rfl⟩

/-- A decision is about the generation, and on what its workspace holds if its parent's tree has not changed. -/
theorem decision_of_evaluation {g : ImprovementGeneration} (hget : store.getGeneration i.tenantId i.generationId = .ok g)
    (h : runPromotionEvaluation sha256 store i outcomes now = .ok (result, store')) :
    result.decision.generationId = i.generationId ∧ result.decision.tenantId = i.tenantId ∧
      if hashDirectoryTree sha256 i.parentWorkspace = g.sourceHashBefore then
        result.decision.sourceHash = hashDirectoryTree sha256 i.candidateWorkspace
      else result.status = .indeterminate := by
  unfold runPromotionEvaluation at h
  simp only [hget] at h
  split at h
  · next hstale =>
    cases h
    exact ⟨rfl, rfl, by rw [if_neg hstale]⟩
  · next hfresh =>
    cases h
    exact ⟨rfl, rfl, by rw [if_pos (not_not.1 hfresh)]; rfl⟩

/-- A generation that is there is evaluated. -/
theorem exists_runPromotionEvaluation {g : ImprovementGeneration} (h : store.getGeneration i.tenantId i.generationId = .ok g) :
    ∃ result store', runPromotionEvaluation sha256 store i outcomes now = .ok (result, store') := by
  unfold runPromotionEvaluation
  rw [h]
  by_cases hstale : hashDirectoryTree sha256 i.parentWorkspace ≠ g.sourceHashBefore
  · exact ⟨_, _, if_pos hstale⟩
  · exact ⟨_, _, if_neg hstale⟩

end

end Tna.Improvement
