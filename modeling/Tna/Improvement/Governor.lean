import Tna.Improvement.Build
import Tna.Improvement.Create
import Tna.Improvement.Evaluator
import Tna.Lib.Handler

/-!
# The governor

The handlers of the improvement governor. A handler asks the Gate, and then does its work
in several statements of the store, changes on disk and events of the ledger, one after
the other; the first of them that fails ends it. Which workspace and which spec belong to
a generation, and which evaluation profile is active for a system, it keeps in memory.
-/

namespace Tna.Improvement

open Tna.Lib Tna.Js

/-! ## State -/

structure Workspaces where
  parentWorkspacePath : Text
  candidateWorkspacePath : Option Text

structure Governor where
  store : ImprovementStore
  workspaces : Table Text Workspaces
  specIds : Table Text Text
  activeProfiles : Table Text Text
  disk : Text → Option Tree
  /-- The type of each event of the ledger, and the generation it is about. -/
  ledger : List (Text × Text)

inductive ImprovementOperation where
  | authorizeGeneration | build | startCanary | promote | rollback
deriving DecidableEq

structure GateDecision where
  decision : Text
  decisionId : Text
deriving DecidableEq

inductive VadState where
  | accepted | rejected | escalated | failed
deriving DecidableEq

/-- What a governor is started with. -/
structure GovernorDeps where
  tenantId : Text
  governorAgentId : Text
  sha256 : Bytes → Digest
  policyHash : CanaryPolicy → Text
  specDigest : ImprovementSpecInput → Text → Text
  generationWorkspacePath : Text → Text

/-- What a request meets outside: what the Gate decides, which of the statements it makes commit, which of its events the
ledger takes, the ids minted for it, and what else comes of what it does. -/
structure RequestContext where
  authorizes : ImprovementOperation → Text → Option Text → Except ImprovementThrown GateDecision
  commits : Nat → Bool
  takes : Nat → Bool
  newId : Text
  sentinelSession : Option Text
  surroundings : Surroundings
  /-- Whether the parent's tree can be copied, and what is left when it cannot. -/
  copies : Bool
  partialCopy : Tree
  /-- Whether the trees can be read and the measurements end without an error. -/
  measures : Bool
  outcomes : CommandOutcomes
  vad : Option VadState
  now : Int

/-- What a request is answered. -/
inductive GovernorAnswer where
  | notAllowed (decision : GateDecision) (generation : ImprovementGeneration)
  | authorized (decision : GateDecision) (generation : ImprovementGeneration)
  | built (decision : GateDecision) (generation : ImprovementGeneration) (candidateWorkspace : Text)
  | evaluated (vad : VadState) (status : PromotionStatus) (reason : Text) (generation : ImprovementGeneration)
  | canary (decision : GateDecision) (run : CanaryRun) (sentinelSession : Text) (generation : ImprovementGeneration)
  | promoted (decision : GateDecision) (generation : ImprovementGeneration)
  | unverified (decision : GateDecision) (rollback : RollbackRecord) (generation : ImprovementGeneration) (reason : Text)
  | rolledBack (decision : GateDecision) (rollback : RollbackRecord) (generation : ImprovementGeneration)

abbrev Handler (α : Type) := EStateM ImprovementThrown Governor α

/-! ## What handlers are made of -/

section
variable {α : Type}

def reads (f : ImprovementStore → Except ImprovementThrown α) : Handler α := fun x =>
  match f x.store with
  | .ok a => .ok a x
  | .error e => .error e x

/-- A statement of the store, which may not commit. -/
def write (commits : Bool) (operation : ImprovementStore → ImprovementStore.Result α) : Handler α := fun x =>
  if commits then
    match operation x.store with
    | .ok (a, store) => .ok a { x with store }
    | .error e => .error e x
  else .error .other x

def appendImprovementEvent (takes : Bool) (eventType generationId : Text) : Handler Unit := fun x =>
  if takes then .ok () { x with ledger := x.ledger ++ [(eventType, generationId)] } else .error .other x

end

/-- The approval a body names; an empty one is none. -/
def approvalIdOf (raw : JsValue) : Option Text :=
  (raw.asObject?.bind fun o => (o.get "approvalId").asText?).filter fun approvalId => decide (approvalId ≠ [])

/-- The rest of a handler, if the Gate allows the operation. -/
def gated (d : GovernorDeps) (c : RequestContext) (operation : ImprovementOperation) (generationId : Text)
    (approvalId : Option Text) (rest : GateDecision → Handler GovernorAnswer) : Handler GovernorAnswer := do
  let decision ← reads fun _ => c.authorizes operation generationId approvalId
  if decision.decision = "ALLOW" then rest decision
  else
    let generation ← reads fun s => s.getGeneration d.tenantId generationId
    return .notAllowed decision generation

/-! ## Authorizing -/

def handleAuthorize (d : GovernorDeps) (c : RequestContext) (generationId : Text) : Handler GovernorAnswer :=
  gated d c .authorizeGeneration generationId none fun decision => do
    let gen ← reads fun s => s.getGeneration d.tenantId generationId
    let updated ← write (c.commits 0) fun s => s.transitionGeneration d.tenantId generationId gen.stateVersion .authorized none
    appendImprovementEvent (c.takes 0) "IMPROVEMENT_AUTHORIZED" generationId
    return .authorized decision updated

/-! ## Building -/

/-- `Object.entries`. -/
def entries (o : JsObject) : List (Text × JsValue) := o.fields.map fun f => (f.1, o.get f.1)

def candidateFiles (raw : JsValue) : List (Text × JsValue) :=
  (raw.asObject?.bind fun o => (o.get "candidateFiles").asObject?).elim [] entries

def Governor.onDisk (x : Governor) (path : Text) (t : Tree) : Governor :=
  { x with disk := fun p => if p = path then some t else x.disk p }

/-- A copy of the parent's tree at a path where there is nothing. -/
def createIsolatedWorkspace (c : RequestContext) (generationId path parentPath : Text) : Handler Unit := fun x =>
  match x.disk path with
  | some _ =>
    .error (.improvement .conflict
      (Text.ofAscii "Workspace for generation " ++ generationId ++ Text.ofAscii " already exists")) x
  | none =>
    match if c.copies then (x.disk parentPath).bind Tree.copy else none with
    | some t => .ok () (x.onDisk path t)
    | none => .error .other (x.onDisk path c.partialCopy)

/-- The candidate's files, one after the other. -/
def writeCandidateFiles (c : RequestContext) (path : Text) : List (Text × JsValue) → Handler Unit
  | [] => pure ()
  | f :: rest => fun x =>
    match x.disk path with
    | none => .error .other x
    | some t =>
      match c.surroundings.writeCandidateFile t f with
      | .error e => .error e x
      | .ok t => writeCandidateFiles c path rest (x.onDisk path t)

def trackCandidate (generationId : Text) (workspaces : Workspaces) (path : Text) : Handler Unit := fun x =>
  .ok () { x with
    workspaces := x.workspaces.insert generationId { workspaces with candidateWorkspacePath := some path } }

def hashOnDisk (d : GovernorDeps) (c : RequestContext) (path : Text) : Handler Text := fun x =>
  match if c.measures then x.disk path else none with
  | some t => .ok (hashDirectoryTree d.sha256 t) x
  | none => .error .other x

/-- A build after its generation is `BUILDING`. -/
def finishBuild (d : GovernorDeps) (c : RequestContext) (generationId : Text) (raw : JsValue) (decision : GateDecision)
    (workspaces : Workspaces) (gen : ImprovementGeneration) : Handler GovernorAnswer := do
  let path := d.generationWorkspacePath generationId
  appendImprovementEvent (c.takes 0) "IMPROVEMENT_BUILD_STARTED" generationId
  createIsolatedWorkspace c generationId path workspaces.parentWorkspacePath
  writeCandidateFiles c path (candidateFiles raw)
  trackCandidate generationId workspaces path
  let sourceHashAfter ← hashOnDisk d c path
  let built ← write (c.commits 1) fun s =>
    s.transitionGeneration d.tenantId generationId gen.stateVersion .built (some sourceHashAfter)
  appendImprovementEvent (c.takes 1) "IMPROVEMENT_BUILT" generationId
  return .built decision built path

def untrackedWorkspace : ImprovementThrown :=
  .http 404 <| Text.ofAscii "No workspace tracked for this generation " ++
    0x2014 :: Text.ofAscii " was /v1/improvements ever called for it?"

def handleBuild (d : GovernorDeps) (c : RequestContext) (generationId : Text) (raw : JsValue) : Handler GovernorAnswer :=
  gated d c .build generationId none fun decision => do
    let x ← get
    let workspaces ← demandSome (x.workspaces.lookup generationId) untrackedWorkspace
    let gen ← reads fun s => s.getGeneration d.tenantId generationId
    let building ← write (c.commits 0) fun s =>
      s.transitionGeneration d.tenantId generationId gen.stateVersion .building none
    finishBuild d c generationId raw decision workspaces building

/-! ## Evaluating -/

/-- The body of an evaluate request. What may be left out is optional. -/
structure EvaluateBody where
  regressionTestCommand : Option (List Text)
  securityTestCommand : Option (List Text)
  benchmarks : Option (List BenchmarkSpec)
  candidateCapabilityProfile : CapabilityProfile
  candidateAuthorityProfile : AuthorityCeiling
  requiredTestManifestBefore : RequiredTestManifest
  requiredTestManifestAfter : RequiredTestManifest
  parentCapabilityProfile : CapabilityProfile
  humanApproved : Option Bool
  independentReviewApproved : Option Bool
  evaluationProfileHash : Option Text

def EvaluateBody.profileHash (b : EvaluateBody) : Text := b.evaluationProfileHash.getD "default"

def EvaluateBody.inputs (b : EvaluateBody) (d : GovernorDeps) (generationId : Text) (gen : ImprovementGeneration)
    (spec : ImprovementSpec) (parent candidate : Tree) : EvaluationInputs where
  tenantId := d.tenantId
  generationId := generationId
  parentGenerationId := gen.parentGenerationId
  improvementClass := gen.improvementClass
  parentWorkspace := parent
  candidateWorkspace := candidate
  spec := spec
  parentCapabilityProfile := b.parentCapabilityProfile
  candidateCapabilityProfile := b.candidateCapabilityProfile
  allowedCapabilityGrowth := {}
  regressionTestCommand := b.regressionTestCommand
  securityTestCommand := b.securityTestCommand
  benchmarks := b.benchmarks.getD []
  requiredTestManifestBefore := b.requiredTestManifestBefore
  requiredTestManifestAfter := b.requiredTestManifestAfter
  candidateAuthorityProfile := b.candidateAuthorityProfile
  humanApproved := b.humanApproved
  independentReviewApproved := b.independentReviewApproved
  evaluationProfileHash := b.profileHash
  decidedBy := d.governorAgentId

def specIdFor (generationId : Text) : Handler Text := do
  let x ← get
  demandSome (x.specIds.lookup generationId) (.http 404 (Text.ofAscii "No spec tracked for generation " ++ generationId))

/-- The first evaluation of a system makes its profile the active one. -/
def establishProfile (systemId profileHash : Text) : Handler Unit := fun x =>
  .ok () { x with
    activeProfiles := if x.activeProfiles.lookup systemId = none then x.activeProfiles.insert systemId profileHash
      else x.activeProfiles }

def notEvaluable (status : GenerationState) : ImprovementThrown :=
  .http 409 (Text.ofAscii "Generation is not in an evaluable state (currently " ++ status.name ++ Text.ofAscii ")")

/-- A built generation is taken into evaluation; an evaluated one is evaluated again where it is. -/
def enterEvaluation (d : GovernorDeps) (c : RequestContext) (generationId : Text) (gen : ImprovementGeneration) :
    Handler Unit :=
  match gen.status with
  | .built => do
    let _ ← write (c.commits 0) fun s =>
      s.transitionGeneration d.tenantId generationId gen.stateVersion .evaluating none
    return ()
  | .evaluated => return ()
  | status => throw (notEvaluable status)

/-- The measurements of an evaluation, and its decision recorded. -/
def measureCandidate (d : GovernorDeps) (c : RequestContext) (generationId : Text) (body : EvaluateBody)
    (gen : ImprovementGeneration) (parentPath candidatePath : Text) : Handler EvaluationResult := do
  appendImprovementEvent (c.takes 0) "IMPROVEMENT_EVALUATION_STARTED" generationId
  let specId ← specIdFor generationId
  let spec ← reads fun s => s.getSpec d.tenantId specId
  establishProfile gen.systemId body.profileHash
  let x ← get
  let parent ← demandSome (x.disk parentPath) .other
  let candidate ← demandSome (x.disk candidatePath) .other
  demand c.measures .other
  write (c.commits 1) fun s =>
    runPromotionEvaluation d.sha256 s (body.inputs d generationId gen spec parent candidate) c.outcomes c.now

/-- The state an evaluation takes a generation to. -/
def targetOf : PromotionStatus → GenerationState
  | .promote => .evaluated
  | .reject => .rejected
  | .hold => .evaluated
  | .insufficientEvidence => .indeterminate
  | .indeterminate => .indeterminate

def finalStatus (vad : VadState) (status : PromotionStatus) : PromotionStatus := if vad ≠ .accepted then .reject else status

/-- The generation where it is, if that is where it is to go. -/
def resolveGeneration (d : GovernorDeps) (c : RequestContext) (generationId : Text) (gen : ImprovementGeneration)
    (target : GenerationState) : Handler ImprovementGeneration :=
  if gen.status = target then return gen
  else write (c.commits 2) fun s => s.transitionGeneration d.tenantId generationId gen.stateVersion target none

/-- An evaluation after its verdict. -/
def finishEvaluation (d : GovernorDeps) (c : RequestContext) (generationId : Text) (vad : VadState)
    (evaluation : EvaluationResult) : Handler GovernorAnswer := do
  let status := finalStatus vad evaluation.status
  appendImprovementEvent (c.takes 1) "CAPABILITY_DELTA_DETECTED" generationId
  appendImprovementEvent (c.takes 2) "IMPROVEMENT_EVALUATED" generationId
  let genNow ← reads fun s => s.getGeneration d.tenantId generationId
  let resolved ← resolveGeneration d c generationId genNow (targetOf status)
  if targetOf status = .rejected then
    appendImprovementEvent (c.takes 3) "IMPROVEMENT_REJECTED" generationId
    return .evaluated vad status evaluation.reason resolved
  else return .evaluated vad status evaluation.reason resolved

/-- An evaluation up to where it waits for the verdict. -/
def startEvaluation (d : GovernorDeps) (c : RequestContext) (generationId : Text) (body : Option EvaluateBody) :
    Handler EvaluationResult := do
  let body ← demandSome body (.http 400 "Request body must be an object")
  let x ← get
  let workspaces ← demandSome (x.workspaces.lookup generationId) (.http 409 "Generation has not been built yet")
  let candidatePath ← demandSome workspaces.candidateWorkspacePath (.http 409 "Generation has not been built yet")
  let gen ← reads fun s => s.getGeneration d.tenantId generationId
  enterEvaluation d c generationId gen
  measureCandidate d c generationId body gen workspaces.parentWorkspacePath candidatePath

def handleEvaluate (d : GovernorDeps) (c : RequestContext) (generationId : Text) (body : Option EvaluateBody) :
    Handler GovernorAnswer := do
  let evaluation ← startEvaluation d c generationId body
  let vad ← demandSome c.vad .other
  finishEvaluation d c generationId vad evaluation

/-! ## Canaries -/

/-- A canary after its run was started. -/
def finishCanary (d : GovernorDeps) (c : RequestContext) (generationId : Text) (decision : GateDecision)
    (sentinelSession : Text) (canary : CanaryRun) : Handler GovernorAnswer := do
  let gen ← reads fun s => s.getGeneration d.tenantId generationId
  let gen ← write (c.commits 1) fun s => s.transitionGeneration d.tenantId generationId gen.stateVersion .canary none
  appendImprovementEvent (c.takes 0) "IMPROVEMENT_CANARY_STARTED" generationId
  return .canary decision canary sentinelSession gen

def handleCanary (d : GovernorDeps) (c : RequestContext) (generationId : Text) (raw : JsValue) : Handler GovernorAnswer :=
  gated d c .startCanary generationId (approvalIdOf raw) fun decision => do
    let sentinelSession ← demandSome c.sentinelSession .other
    let specId ← specIdFor generationId
    let canarySpec ← reads fun s => s.getSpec d.tenantId specId
    let canary ← write (c.commits 0) fun s =>
      s.startCanaryRun d.tenantId generationId (d.policyHash canarySpec.canaryPolicy) c.newId
    finishCanary d c generationId decision sentinelSession canary

/-! ## Promoting -/

def staleProfileMessage (evaluated active : Text) : Text :=
  Text.ofAscii "Promotion blocked: this generation was evaluated under profile " ++ evaluated ++
    Text.ofAscii ", but the system's active profile is now " ++ active ++ Text.ofAscii " " ++
    0x2014 :: Text.ofAscii " reevaluation is required, never a promotion under stale criteria"

def staleAcceptedMessage (recorded accepted : Text) : Text :=
  Text.ofAscii "Promotion blocked: this candidate's recorded parent (" ++ recorded ++
    Text.ofAscii ") is no longer the system's accepted generation (currently " ++ accepted ++ Text.ofAscii ") " ++
    0x2014 :: Text.ofAscii " reevaluate against the current baseline, never a silent rebase"

/-- Why a promotion is blocked by the profile the generation was last evaluated under, if it is. -/
def staleProfile (d : GovernorDeps) (generationId : Text) (gen : ImprovementGeneration) (x : Governor) : Option Text :=
  match (x.store.listPromotionDecisions d.tenantId generationId).getLast?, x.activeProfiles.lookup gen.systemId with
  | some latest, some active =>
    if latest.evaluationProfileHash ≠ active then some (staleProfileMessage latest.evaluationProfileHash active) else none
  | _, _ => none

/-- Why a promotion is blocked by what the system accepts, if it is. -/
def staleParent (parent : Text) (system : ImprovementSystem) : Option Text :=
  match system.acceptedGenerationId with
  | some accepted => if accepted ≠ parent then some (staleAcceptedMessage parent accepted) else none
  | none => none

def blockPromotion (c : RequestContext) (generationId : Text) : Option Text → Handler Unit
  | none => return ()
  | some message => do
    appendImprovementEvent (c.takes 0) "IMPROVEMENT_INDETERMINATE" generationId
    throw (.http 409 message)

/-- Only a generation with a parent has something to go stale against. -/
def checkParent (d : GovernorDeps) (c : RequestContext) (generationId : Text) (gen : ImprovementGeneration) : Handler Unit :=
  match gen.parentGenerationId with
  | none => return ()
  | some parent => do
    let system ← reads fun s => s.getSystem d.tenantId gen.systemId
    blockPromotion c generationId (staleParent parent system)

def handlePromote (d : GovernorDeps) (c : RequestContext) (generationId : Text) (raw : JsValue) : Handler GovernorAnswer :=
  gated d c .promote generationId (approvalIdOf raw) fun decision => do
    let gen ← reads fun s => s.getGeneration d.tenantId generationId
    let x ← get
    blockPromotion c generationId (staleProfile d generationId gen x)
    checkParent d c generationId gen
    let promoted ← write (c.commits 0) fun s => s.transitionGeneration d.tenantId generationId gen.stateVersion .promoted none
    appendImprovementEvent (c.takes 0) "IMPROVEMENT_PROMOTED" generationId
    return .promoted decision promoted

/-! ## Rolling back -/

structure RollbackBody where
  targetGenerationId : Text
  trigger : Text

def rollbackBody? (raw : JsValue) : Option RollbackBody :=
  raw.asObject?.bind fun o => (o.get "targetGenerationId").asText?.map fun targetGenerationId =>
    { targetGenerationId, trigger := (o.get "trigger").asText?.getD "MANUAL" }

/-- The target's workspace is known and is there. -/
def verifyRollbackTarget (x : Governor) (targetGenerationId : Text) : Bool :=
  match x.workspaces.lookup targetGenerationId with
  | some w =>
    let path := w.candidateWorkspacePath.getD w.parentWorkspacePath
    decide (path ≠ []) && (x.disk path).isSome
  | none => false

def verifiedReason (targetGenerationId : Text) : Text :=
  Text.ofAscii "rollback target " ++ targetGenerationId ++ Text.ofAscii "'s workspace exists and is reachable"

def unverifiedReason (targetGenerationId : Text) : Text :=
  Text.ofAscii "rollback target " ++ targetGenerationId ++
    Text.ofAscii "'s workspace is not trackable or no longer exists on disk " ++
    0x2014 :: Text.ofAscii " cannot confirm restored state"

/-- A rollback after it was initiated. -/
def finishRollback (d : GovernorDeps) (c : RequestContext) (generationId : Text) (body : RollbackBody)
    (decision : GateDecision) (rollback : RollbackRecord) : Handler GovernorAnswer := do
  let x ← get
  let gen ← reads fun s => s.getGeneration d.tenantId generationId
  if verifyRollbackTarget x body.targetGenerationId = false then
    appendImprovementEvent (c.takes 1) "IMPROVEMENT_INDETERMINATE" generationId
    let indeterminate ← write (c.commits 1) fun s =>
      s.transitionGeneration d.tenantId generationId gen.stateVersion .indeterminate none
    return .unverified decision rollback indeterminate (unverifiedReason body.targetGenerationId)
  else
    let completed ← write (c.commits 1) fun s =>
      s.completeRollback d.tenantId rollback.rollbackId .rolledBack (some (verifiedReason body.targetGenerationId))
    let rolledBack ← write (c.commits 2) fun s =>
      s.transitionGeneration d.tenantId generationId gen.stateVersion .rolledBack none
    appendImprovementEvent (c.takes 1) "IMPROVEMENT_ROLLED_BACK" generationId
    return .rolledBack decision completed rolledBack

def handleRollback (d : GovernorDeps) (c : RequestContext) (generationId : Text) (raw : JsValue) : Handler GovernorAnswer := do
  let body ← demandSome (rollbackBody? raw) (.http 400 "targetGenerationId is required")
  gated d c .rollback generationId (approvalIdOf raw) fun decision => do
    appendImprovementEvent (c.takes 0) "IMPROVEMENT_ROLLBACK_STARTED" generationId
    let rollback ← write (c.commits 0) fun s =>
      s.initiateRollback d.tenantId generationId body.targetGenerationId body.trigger d.governorAgentId c.newId
    finishRollback d c generationId body decision rollback

/-! ## Requests -/

/-- The requests that work on a generation. An approval is the Gate's alone. -/
inductive GovernorRequest where
  | authorize (generationId : Text)
  | build (generationId : Text) (raw : JsValue)
  | evaluate (generationId : Text) (body : Option EvaluateBody)
  | canary (generationId : Text) (raw : JsValue)
  | promote (generationId : Text) (raw : JsValue)
  | rollback (generationId : Text) (raw : JsValue)

def handle (d : GovernorDeps) (c : RequestContext) : GovernorRequest → Handler GovernorAnswer
  | .authorize generationId => handleAuthorize d c generationId
  | .build generationId raw => handleBuild d c generationId raw
  | .evaluate generationId body => handleEvaluate d c generationId body
  | .canary generationId raw => handleCanary d c generationId raw
  | .promote generationId raw => handlePromote d c generationId raw
  | .rollback generationId raw => handleRollback d c generationId raw

end Tna.Improvement
