import Mathlib.Data.List.Sort
import Tna.Improvement.Evaluation
import Tna.Js.Decimal
import Tna.Lib.Table

/-!
# The improvement store

The tables of the improvement control plane, and the operations on them. Each operation
is one transaction: it answers and has changed the store, or throws and has not. Where
the code mints an id, the operation is given one.
-/

namespace Tna.Improvement

open Tna.Lib Tna.Js

structure SpecRow where
  specId : Text
  generationId : Text
  tenantId : Text
  spec : ImprovementSpec
  specHash : Text

/-! ## Rows that change -/

/-- A system whose accepted generation was set. -/
def ImprovementSystem.accepting (system : ImprovementSystem) (generationId : Text) : ImprovementSystem :=
  { system with acceptedGenerationId := some generationId, stateVersion := system.stateVersion + 1 }

/-- A generation with the row an allowed transition leaves. -/
def ImprovementGeneration.moved (g : ImprovementGeneration) (target : GenerationState) (sourceHashAfter : Option Text) :
    ImprovementGeneration :=
  { g with status := target, sourceHashAfter := sourceHashAfter.or g.sourceHashAfter, stateVersion := g.stateVersion + 1 }

structure BudgetDeltas where
  generations : Nat := 0
  attempts : Nat := 0
  runtimeMs : Rat := 0
  costUsd : Rat := 0
  toolCalls : Nat := 0
  mutationBytes : Nat := 0

def RecursionBudget.plus (b : RecursionBudget) (d : BudgetDeltas) : RecursionBudget :=
  { b with
    generationCount := b.generationCount + d.generations, attemptCount := b.attemptCount + d.attempts
    runtimeUsedMs := b.runtimeUsedMs + d.runtimeMs, costUsedUsd := b.costUsedUsd + d.costUsd
    toolCallsUsed := b.toolCallsUsed + d.toolCalls, mutationSizeUsedBytes := b.mutationSizeUsedBytes + d.mutationBytes
    stateVersion := b.stateVersion + 1 }

structure CanaryDelta where
  actions : Rat := 0
  failures : Rat := 0
  sentinelTerminations : Rat := 0
  costUsd : Rat := 0

def CanaryRun.plus (run : CanaryRun) (d : CanaryDelta) : CanaryRun :=
  { run with
    actionsExecuted := run.actionsExecuted + d.actions, failuresObserved := run.failuresObserved + d.failures
    sentinelTerminations := run.sentinelTerminations + d.sentinelTerminations
    costIncurredUsd := run.costIncurredUsd + d.costUsd, stateVersion := run.stateVersion + 1 }

/-! ## The tables -/

structure ImprovementStore where
  systems : Keyed ImprovementSystem.systemId
  generations : Keyed ImprovementGeneration.generationId
  specs : Keyed SpecRow.specId
  budgets : Keyed RecursionBudget.systemId
  decisions : List PromotionDecision
  canaryRuns : Keyed CanaryRun.canaryId
  rollbacks : Keyed RollbackRecord.rollbackId

namespace ImprovementStore

def empty : ImprovementStore := ⟨.empty, .empty, .empty, .empty, [], .empty, .empty⟩

/-- What an operation answers, and the store it leaves. -/
abbrev Result (α : Type) := Except ImprovementThrown (α × ImprovementStore)

/-! ## Systems -/

def getSystem (s : ImprovementStore) (tenantId systemId : Text) : Except ImprovementThrown ImprovementSystem :=
  match s.systems.get systemId with
  | some system =>
    if system.tenantId = tenantId then .ok system
    else .error (.improvement .notFound (Text.ofAscii "No system " ++ systemId ++ Text.ofAscii " for tenant " ++ tenantId))
  | none => .error (.improvement .notFound (Text.ofAscii "No system " ++ systemId ++ Text.ofAscii " for tenant " ++ tenantId))

/-- A system of the name; there may be several. -/
def findSystemByName (s : ImprovementStore) (tenantId name : Text) : Option ImprovementSystem :=
  s.systems.rows.find? fun system => decide (system.tenantId = tenantId ∧ system.name = name)

def createSystem (s : ImprovementStore) (tenantId name createdBy newId : Text) : Result ImprovementSystem :=
  match s.systems.get newId with
  | some _ => .error .other
  | none =>
    let system : ImprovementSystem := ⟨newId, tenantId, name, none, createdBy, 0⟩
    .ok (system, { s with systems := s.systems.put system })

/-- The store after a system's accepted generation was set. -/
def setAcceptedGeneration (s : ImprovementStore) (tenantId systemId generationId : Text) :
    Except ImprovementThrown ImprovementStore :=
  match s.getSystem tenantId systemId with
  | .error e => .error e
  | .ok system =>
    .ok { s with systems := s.systems.put (system.accepting generationId) }

/-! ## Generations -/

def getGeneration (s : ImprovementStore) (tenantId generationId : Text) : Except ImprovementThrown ImprovementGeneration :=
  let missing := .error (.improvement .notFound
    (Text.ofAscii "No generation " ++ generationId ++ Text.ofAscii " for tenant " ++ tenantId))
  match s.generations.get generationId with
  | some generation => if generation.tenantId = tenantId then .ok generation else missing
  | none => missing

structure CreateGenerationInput where
  tenantId : Text
  systemId : Text
  parentGenerationId : Option Text
  candidateVersion : Text
  improvementClass : ImprovementClass
  specHash : Text
  sourceHashBefore : Text
  createdBy : Text

/-- The root and the number of a new generation, from its parent if it has one. -/
def lineageOf (s : ImprovementStore) (i : CreateGenerationInput) (newId : Text) : Except ImprovementThrown (Text × Nat) :=
  match i.parentGenerationId with
  | none => .ok (newId, 0)
  | some parentId =>
    match s.getGeneration i.tenantId parentId with
    | .error _ =>
      .error (.improvement .notFound
        (Text.ofAscii "Parent generation " ++ parentId ++ Text.ofAscii " not found for tenant " ++ i.tenantId))
    | .ok parent =>
      .ok (if parent.rootGenerationId = [] then newId else parent.rootGenerationId, parent.generationNumber + 1)

def createGeneration (s : ImprovementStore) (i : CreateGenerationInput) (newId : Text) : Result ImprovementGeneration :=
  match s.lineageOf i newId with
  | .error e => .error e
  | .ok (root, number) =>
    if i.parentGenerationId = some newId then .error (.improvement .invalidInput "A generation cannot be its own parent")
    else
      match s.generations.get newId with
      | some _ => .error .other
      | none =>
        let generation : ImprovementGeneration :=
          { generationId := newId, tenantId := i.tenantId, systemId := i.systemId
            parentGenerationId := i.parentGenerationId, rootGenerationId := root, generationNumber := number
            candidateVersion := i.candidateVersion, status := .proposed, improvementClass := i.improvementClass
            specHash := i.specHash, sourceHashBefore := i.sourceHashBefore, sourceHashAfter := none
            createdBy := i.createdBy, stateVersion := 0 }
        .ok (generation, { s with generations := s.generations.put generation })

def transitionGeneration (s : ImprovementStore) (tenantId generationId : Text) (expectedVersion : Nat)
    (target : GenerationState) (sourceHashAfter : Option Text) : Result ImprovementGeneration :=
  match s.getGeneration tenantId generationId with
  | .error e => .error e
  | .ok current =>
    if current.stateVersion ≠ expectedVersion then
      .error (.improvement .conflict <| Text.ofAscii "Generation state has changed " ++
        0x2014 :: Text.ofAscii " retry with the current version")
    else if canTransition current.status target = false then
      .error (.improvement .conflict
        (Text.ofAscii "Illegal transition " ++ current.status.name ++ Text.ofAscii " -> " ++ target.name))
    else
      let moved := current.moved target sourceHashAfter
      let s := { s with generations := s.generations.put moved }
      if target = .promoted then
        match s.setAcceptedGeneration tenantId current.systemId generationId with
        | .error e => .error e
        | .ok s => .ok (moved, s)
      else .ok (moved, s)

/-! ## Specs -/

def saveSpec (s : ImprovementStore) (tenantId generationId : Text) (spec : ImprovementSpec) : Result Unit :=
  match s.specs.get spec.specId with
  | some existing =>
    if existing.specHash ≠ spec.specHash then
      .error (.improvement .specImmutable <| Text.ofAscii "Spec " ++ spec.specId ++
        Text.ofAscii " already exists with a different hash " ++ 0x2014 :: Text.ofAscii " specs are immutable once saved")
    else .ok ((), s)
  | none => .ok ((), { s with specs := s.specs.put ⟨spec.specId, generationId, tenantId, spec, spec.specHash⟩ })

def getSpec (s : ImprovementStore) (tenantId specId : Text) : Except ImprovementThrown ImprovementSpec :=
  let missing := .error (.improvement .notFound (Text.ofAscii "No spec " ++ specId ++ Text.ofAscii " for tenant " ++ tenantId))
  match s.specs.get specId with
  | some row => if row.tenantId = tenantId then .ok row.spec else missing
  | none => missing

/-! ## Recursion budgets -/

def getRecursionBudget (s : ImprovementStore) (tenantId systemId : Text) : Except ImprovementThrown RecursionBudget :=
  let missing := .error (.improvement .notFound (Text.ofAscii "No recursion budget for system " ++ systemId))
  match s.budgets.get systemId with
  | some budget => if budget.tenantId = tenantId then .ok budget else missing
  | none => missing

def newRecursionBudget (tenantId systemId : Text) (limits : RecursionLimits) : RecursionBudget :=
  ⟨systemId, tenantId, limits, 0, 0, 0, 0, 0, 0, 0⟩

/-- The `INSERT` of a budget; there is one row a system. -/
def insertRecursionBudget (s : ImprovementStore) (tenantId systemId : Text) (limits : RecursionLimits) :
    Result RecursionBudget :=
  match s.budgets.get systemId with
  | some _ => .error .other
  | none =>
    let budget := newRecursionBudget tenantId systemId limits
    .ok (budget, { s with budgets := s.budgets.put budget })

def getOrCreateRecursionBudget (s : ImprovementStore) (tenantId systemId : Text) (limits : RecursionLimits) :
    Result RecursionBudget :=
  match s.getRecursionBudget tenantId systemId with
  | .ok budget => .ok (budget, s)
  | .error _ => s.insertRecursionBudget tenantId systemId limits

def consumeRecursionBudget (s : ImprovementStore) (tenantId systemId : Text) (expectedVersion : Nat) (deltas : BudgetDeltas) :
    Result RecursionBudget :=
  let changed := .error (.improvement .conflict "Recursion budget changed concurrently")
  match s.getRecursionBudget tenantId systemId with
  | .error _ => changed
  | .ok budget =>
    if budget.stateVersion ≠ expectedVersion then changed
    else .ok (budget.plus deltas, { s with budgets := s.budgets.put (budget.plus deltas) })

/-! ## Promotion decisions -/

def recordPromotionDecision (s : ImprovementStore) (decision : PromotionDecision) : ImprovementStore :=
  { s with decisions := s.decisions ++ [decision] }

/-- A generation's decisions by the time they were made. -/
def listPromotionDecisions (s : ImprovementStore) (tenantId generationId : Text) : List PromotionDecision :=
  (s.decisions.filter fun d => decide (d.tenantId = tenantId ∧ d.generationId = generationId)).insertionSort
    fun a b => a.decidedAt ≤ b.decidedAt

/-! ## Canary runs -/

def startCanaryRun (s : ImprovementStore) (tenantId generationId policyHash newId : Text) : Result CanaryRun :=
  match s.canaryRuns.get newId with
  | some _ => .error .other
  | none =>
    let run : CanaryRun := ⟨newId, generationId, tenantId, policyHash, .running, 0, 0, 0, 0, 0⟩
    .ok (run, { s with canaryRuns := s.canaryRuns.put run })

/-- A running canary run, changed under its version. -/
def updateCanaryRun (s : ImprovementStore) (tenantId canaryId : Text) (expectedVersion : Nat)
    (change : CanaryRun → CanaryRun) : Result CanaryRun :=
  let ended := .error (.improvement .conflict "Canary run already ended or changed concurrently")
  match s.canaryRuns.get canaryId with
  | none => ended
  | some run =>
    if run.tenantId ≠ tenantId ∨ run.stateVersion ≠ expectedVersion ∨ run.status ≠ .running then ended
    else .ok (change run, { s with canaryRuns := s.canaryRuns.put (change run) })

def recordCanaryObservation (s : ImprovementStore) (tenantId canaryId : Text) (expectedVersion : Nat) (delta : CanaryDelta) :
    Result CanaryRun :=
  s.updateCanaryRun tenantId canaryId expectedVersion fun run => run.plus delta

def endCanaryRun (s : ImprovementStore) (tenantId canaryId : Text) (expectedVersion : Nat) (status : CanaryStatus) :
    Result CanaryRun :=
  s.updateCanaryRun tenantId canaryId expectedVersion fun run =>
    { run with status, stateVersion := run.stateVersion + 1 }

/-! ## Rollbacks -/

def initiateRollback (s : ImprovementStore) (tenantId generationId targetId trigger initiatedBy newId : Text) :
    Result RollbackRecord :=
  match s.getGeneration tenantId generationId, s.getGeneration tenantId targetId with
  | .error e, _ => .error e
  | .ok _, .error e => .error e
  | .ok _, .ok _ =>
    match s.rollbacks.get newId with
    | some _ => .error .other
    | none =>
      let record : RollbackRecord := ⟨newId, generationId, tenantId, targetId, trigger, .indeterminate, none, initiatedBy⟩
      .ok (record, { s with rollbacks := s.rollbacks.put record })

def completeRollback (s : ImprovementStore) (tenantId rollbackId : Text) (status : RollbackStatus) (evidenceRef : Option Text) :
    Result RollbackRecord :=
  let completed := .error (.improvement .conflict "Rollback record already completed or not found")
  match s.rollbacks.get rollbackId with
  | none => completed
  | some record =>
    if record.tenantId ≠ tenantId ∨ record.status ≠ .indeterminate then completed
    else
      let done := { record with status, evidenceRef }
      .ok (done, { s with rollbacks := s.rollbacks.put done })

end ImprovementStore

end Tna.Improvement
