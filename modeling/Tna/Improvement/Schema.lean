import Tna.Js.Number

/-!
# Generations, specs and budgets

A generation of a system goes through a state machine whose transitions are a table.
Its spec bounds what a candidate may change, and its system's recursion budget bounds
how many generations there are.
-/

namespace Tna.Improvement

open Tna.Js

inductive ImprovementErrorCode where
  | invalidInput | notFound | conflict | specImmutable | budgetExhausted | lineageCycle
deriving DecidableEq

/-- What a call can throw: an error of its own, an answer of the server, a path outside the workspace, or an error
from the database, the file system or foreign code. -/
inductive ImprovementThrown where
  | improvement (code : ImprovementErrorCode) (message : Text)
  | http (status : Nat) (message : Text)
  | workspaceSafety (message : Text)
  | other

/-! ## The state machine -/

inductive GenerationState where
  | proposed | authorized | building | built | evaluating | evaluated | rejected
  | awaitingApproval | canary | promoted | rolledBack | failed | indeterminate
deriving DecidableEq

def generationTransitions : GenerationState → List GenerationState
  | .proposed => [.authorized, .rejected]
  | .authorized => [.building, .rejected]
  | .building => [.built, .failed, .indeterminate]
  | .built => [.evaluating]
  | .evaluating => [.evaluated, .rejected, .indeterminate]
  | .evaluated => [.awaitingApproval, .rejected, .canary]
  | .awaitingApproval => [.canary, .rejected]
  | .canary => [.promoted, .rolledBack, .rejected, .indeterminate]
  | .promoted => [.rolledBack]
  | .rolledBack => []
  | .rejected => []
  | .failed => []
  | .indeterminate => []

def canTransition (source target : GenerationState) : Bool := decide (target ∈ generationTransitions source)

def GenerationState.name : GenerationState → Text
  | .proposed => "PROPOSED"
  | .authorized => "AUTHORIZED"
  | .building => "BUILDING"
  | .built => "BUILT"
  | .evaluating => "EVALUATING"
  | .evaluated => "EVALUATED"
  | .rejected => "REJECTED"
  | .awaitingApproval => "AWAITING_APPROVAL"
  | .canary => "CANARY"
  | .promoted => "PROMOTED"
  | .rolledBack => "ROLLED_BACK"
  | .failed => "FAILED"
  | .indeterminate => "INDETERMINATE"

/-! ## Classes -/

inductive ImprovementClass where
  | class0Config | class1Code | class2Tool | class3Model | class4ControlPlane | class5AuthorityOrEvaluator
deriving DecidableEq

def ImprovementClass.name : ImprovementClass → Text
  | .class0Config => "CLASS_0_CONFIG"
  | .class1Code => "CLASS_1_CODE"
  | .class2Tool => "CLASS_2_TOOL"
  | .class3Model => "CLASS_3_MODEL"
  | .class4ControlPlane => "CLASS_4_CONTROL_PLANE"
  | .class5AuthorityOrEvaluator => "CLASS_5_AUTHORITY_OR_EVALUATOR"

def classRank : ImprovementClass → Nat
  | .class0Config => 0
  | .class1Code => 1
  | .class2Tool => 2
  | .class3Model => 3
  | .class4ControlPlane => 4
  | .class5AuthorityOrEvaluator => 5

def classAtLeast (cls minimum : ImprovementClass) : Bool := classRank minimum ≤ classRank cls

structure ImprovementClassPolicy where
  requiresHumanApproval : Bool
  requiresIndependentReview : Bool

def classPolicy : ImprovementClass → ImprovementClassPolicy
  | .class0Config => ⟨false, false⟩
  | .class1Code => ⟨false, false⟩
  | .class2Tool => ⟨true, false⟩
  | .class3Model => ⟨true, false⟩
  | .class4ControlPlane => ⟨true, false⟩
  | .class5AuthorityOrEvaluator => ⟨true, true⟩

/-! ## Specs -/

structure AuthorityCeiling where
  operations : List Text
  tools : List Text
  resources : List Text
  destinations : List Text
  networkAccess : Bool
  filesystemScope : List Text
  credentials : List Text
  maxBudgetUsd : Numeric
  maxRuntimeMs : Numeric
  maxParallelism : Numeric
  externalSideEffects : Bool
  requiresApprovalFor : List Text

structure CanaryPolicy where
  trafficPercent : Rat
  maxActions : Rat
  maxRuntimeMs : Rat
  failureThreshold : Rat
  sentinelTerminateIsFailure : Bool
  costThresholdUsd : Rat

structure RollbackPolicy where
  rollbackGenerationId : Option Text
  autoRollbackTriggers : List Text

/-- What a spec is built from. The lists a request always leaves empty are left out, and so is what nothing reads. -/
structure ImprovementSpecInput where
  systemId : Text
  tenantId : Text
  parentGenerationId : Option Text
  objective : Text
  improvementClass : ImprovementClass
  allowedMutationPaths : List Text
  forbiddenMutationPaths : List Text
  authorityCeiling : AuthorityCeiling
  evaluationProfileId : Text
  requiredBenchmarks : List Text
  requiredSecurityTests : List Text
  canaryPolicy : CanaryPolicy
  rollbackPolicy : RollbackPolicy
  maxRuntimeMs : Rat
  maxCostUsd : Rat
  createdBy : Text

structure ImprovementSpec extends ImprovementSpecInput where
  specId : Text
  specHash : Text

def isSafeIdUnit (c : CodeUnit) : Bool := isAlnum c || c == unit '.' || c == unit '_' || c == unit ':' || c == unit '-'

def safeId : Text → Bool
  | [] => false
  | c :: rest => decide ((c :: rest).length ≤ 200) && isAlnum c && rest.all isSafeIdUnit

/-- White space, and something after it: what `\s+\S+` needs in front of it. -/
def spaceThenText : Text → Bool
  | [] => false
  | c :: rest => isSpace c && rest.any fun d => !isSpace d

/-- `SECRET_VALUE_PATTERN`: a bearer token anywhere in the text. -/
def matchesSecretValue : Text → Bool
  | [] => false
  | c :: rest =>
    ((c :: rest).take 6).map foldCase == Text.ofAscii "bearer" && spaceThenText ((c :: rest).drop 6)
      || matchesSecretValue rest

/-- Every string in the input of a spec. -/
def ImprovementSpecInput.strings (i : ImprovementSpecInput) : List Text :=
  let a := i.authorityCeiling
  List.flatten [[i.systemId, i.tenantId, i.objective, i.evaluationProfileId, i.createdBy], i.parentGenerationId.toList,
    i.allowedMutationPaths, i.forbiddenMutationPaths, i.requiredBenchmarks, i.requiredSecurityTests, a.operations, a.tools,
    a.resources, a.destinations, a.filesystemScope, a.credentials, a.requiresApprovalFor,
    i.rollbackPolicy.rollbackGenerationId.toList, i.rollbackPolicy.autoRollbackTriggers]

/-- Builds a spec under a minted id, or says why not; `digest` is its content hash. -/
def buildImprovementSpec (digest : ImprovementSpecInput → Text → Text) (input : ImprovementSpecInput) (specId : Text) :
    Except ImprovementThrown ImprovementSpec :=
  if safeId input.systemId = false then .error (.improvement .invalidInput "system_id must be a safe identifier")
  else if safeId input.tenantId = false then .error (.improvement .invalidInput "tenant_id must be a safe identifier")
  else if input.parentGenerationId.any (fun p => !safeId p) then
    .error (.improvement .invalidInput "parent_generation_id must be null or a safe identifier")
  else if input.objective = [] ∨ 4000 < input.objective.length then
    .error (.improvement .invalidInput "objective must be a non-empty bounded string")
  else if input.allowedMutationPaths = [] then
    .error (.improvement .invalidInput <| Text.ofAscii "allowed_mutation_paths must declare at least one path " ++
      0x2014 :: Text.ofAscii " an unbounded mutation scope is never valid")
  else if input.strings.any matchesSecretValue then
    .error (.improvement .invalidInput "Improvement spec input rejected: a field contains a secret-shaped value")
  else .ok { input with specId, specHash := digest input specId }

/-! ## Recursion budgets -/

structure RecursionLimits where
  maxGenerations : Rat
  maxAttemptsPerGeneration : Rat
  maxTotalRuntimeMs : Rat
  maxTotalCostUsd : Rat
  maxToolCalls : Rat

def defaultRecursionLimits : RecursionLimits := ⟨100, 10, 3600000, 100, 1000⟩

structure RecursionBudget where
  systemId : Text
  tenantId : Text
  limits : RecursionLimits
  generationCount : Nat
  attemptCount : Nat
  runtimeUsedMs : Rat
  costUsedUsd : Rat
  toolCallsUsed : Nat
  mutationSizeUsedBytes : Nat
  stateVersion : Nat

/-- Every reason the budget is exhausted. -/
def checkRecursionBudget (b : RecursionBudget) : List Text :=
  List.flatten [if b.limits.maxGenerations ≤ b.generationCount then ["max_generations reached"] else [],
    if b.limits.maxAttemptsPerGeneration ≤ b.attemptCount then ["max_attempts_per_generation reached"] else [],
    if b.limits.maxTotalRuntimeMs ≤ b.runtimeUsedMs then ["max_total_runtime_ms reached"] else [],
    if b.limits.maxTotalCostUsd ≤ b.costUsedUsd then ["max_total_cost_usd reached"] else [],
    if b.limits.maxToolCalls ≤ b.toolCallsUsed then ["max_tool_calls reached"] else []]

/-! ## Records -/

structure ImprovementSystem where
  systemId : Text
  tenantId : Text
  name : Text
  acceptedGenerationId : Option Text
  createdBy : Text
  stateVersion : Nat

structure ImprovementGeneration where
  generationId : Text
  tenantId : Text
  systemId : Text
  parentGenerationId : Option Text
  rootGenerationId : Text
  generationNumber : Nat
  candidateVersion : Text
  status : GenerationState
  improvementClass : ImprovementClass
  specHash : Text
  sourceHashBefore : Text
  sourceHashAfter : Option Text
  createdBy : Text
  stateVersion : Nat

inductive CanaryStatus where
  | running | passed | failed | indeterminate
deriving DecidableEq

structure CanaryRun where
  canaryId : Text
  generationId : Text
  tenantId : Text
  policyHash : Text
  status : CanaryStatus
  actionsExecuted : Rat
  failuresObserved : Rat
  sentinelTerminations : Rat
  costIncurredUsd : Rat
  stateVersion : Nat
deriving DecidableEq

inductive RollbackStatus where
  | rolledBack | indeterminate | failed
deriving DecidableEq

structure RollbackRecord where
  rollbackId : Text
  generationId : Text
  tenantId : Text
  rollbackTargetGenerationId : Text
  trigger : Text
  status : RollbackStatus
  evidenceRef : Option Text
  initiatedBy : Text
deriving DecidableEq

end Tna.Improvement
