import Tna.Js.Decimal
import Tna.Lib.Handler
import Tna.Lib.Rows
import Tna.Platform.Store

/-!
# The durable store

The tables of the platform store, and the transactions that write them. A change of an
action and the outbox record that is owed for it are one transaction; the record names
the one the action enqueued before it as its cause.
-/

namespace Tna.Platform

open Tna.Js Tna.Gate Tna.Lib

/-! ## Tables -/

/-- A request as it was validated. -/
structure ValidatedRequest extends PlatformActionRequestInput where
  /-- All of it, with the limits and the metadata. -/
  document : JsObject

/-- A Gate decision as it is bound to an action. -/
structure GateDecisionRecord extends GateDecisionEvidence where
  reason : Text
  policyHash : Option Text
  policyVersion : Option Text
  approvalReference : Option Text
  decidedAt : Text

/-- A row of `platform_actions`. -/
structure ActionRow extends PlatformAction where
  requestJson : Text
  canonicalRequest : Text
  lastOutboxId : Option Text

/-- A row of `platform_runs`. -/
structure RunRow where
  executionId : Text
  tenantId : Text
  platformActionId : Text
  status : RunStatus
deriving DecidableEq

inductive OutboxStatus where
  | pending | delivering | delivered | failed | deadLetter
deriving DecidableEq

/-- A row of `platform_outbox`. -/
structure OutboxRecord where
  outboxId : Text
  tenantId : Text
  platformActionId : Text
  eventType : Text
  payload : JsObject
  createdAt : Nat
  attemptCount : Nat
  nextAttemptAt : Nat
  status : OutboxStatus
  ledgerEventId : Text
  lastError : Option Text
  claimOwner : Option Text
  claimToken : Option Text
  claimExpiresAt : Option Nat

/-- The primary key of a record. -/
def OutboxRecord.key (r : OutboxRecord) : Text × Text := (r.tenantId, r.outboxId)

/-- The key of the action a record is about. -/
def OutboxRecord.actionKey (r : OutboxRecord) : Text × Text := (r.tenantId, r.platformActionId)

/-- The tables, with their rows in the order of their row numbers. -/
structure DurableStore where
  actions : List ActionRow
  runs : List RunRow
  outbox : List OutboxRecord

def DurableStore.empty : DurableStore := ⟨[], [], []⟩

/-- The row of an action. -/
def DurableStore.row (s : DurableStore) (key : Text × Text) : Option ActionRow :=
  Rows.row (fun r : ActionRow => r.key) s.actions key

/-- The record with a primary key. -/
def DurableStore.record (s : DurableStore) (key : Text × Text) : Option OutboxRecord :=
  Rows.row OutboxRecord.key s.outbox key

/-! ## Statements -/

/-- Statements of a transaction. -/
abbrev Statement (α : Type) := EStateM PlatformError DurableStore α

/-- What a call takes from outside: its reading of the clock, the random part of an
outbox id, and whether its transaction commits. -/
structure CallContext where
  now : Nat
  uuid : Text
  commits : Bool

/-- `this.tx(…)`. -/
def CallContext.tx {α : Type} (c : CallContext) (body : Statement α) : Statement α := Lib.tx c.commits .storage body

/-- `this.get(…)`. -/
def getAction (tenantId actionId : Text) : Statement ActionRow := do
  match (← get).row (tenantId, actionId) with
  | some row => return row
  | none => throw (.platform .notFound (Text.ofAscii "No platform action " ++ actionId))

/-- `UPDATE platform_actions`, with the number of rows it changed. -/
def updateActions (selected : ActionRow → Bool) (change : ActionRow → ActionRow) : Statement Nat := do
  let s ← get
  set { s with actions := Rows.update selected change s.actions }
  return s.actions.countP selected

/-- `INSERT INTO platform_actions`: one row a primary key, and one a request of a tenant. -/
def insertAction (row : ActionRow) : Statement Unit := do
  let s ← get
  if s.actions.any (fun r => r.key = row.key || (r.tenantId = row.tenantId && r.request.requestId = row.request.requestId)) then
    throw .storage
  else set { s with actions := s.actions ++ [row] }

/-- `INSERT INTO platform_runs`: one row a primary key, and one an action. -/
def insertRun (row : RunRow) : Statement Unit := do
  let s ← get
  if s.runs.any (fun r => r.tenantId = row.tenantId &&
      (r.executionId = row.executionId || r.platformActionId = row.platformActionId)) then
    throw (.platform .conflict "Action already has an execution claim")
  else set { s with runs := s.runs ++ [row] }

/-- `UPDATE platform_runs`, with the number of rows it changed. -/
def updateRuns (selected : RunRow → Bool) (status : RunStatus) : Statement Nat := do
  let s ← get
  set { s with runs := Rows.update selected (fun r => { r with status := status }) s.runs }
  return s.runs.countP selected

/-- `UPDATE platform_outbox`, with the number of rows it changed. -/
def updateOutbox (selected : OutboxRecord → Bool) (change : OutboxRecord → OutboxRecord) : Statement Nat := do
  let s ← get
  set { s with outbox := Rows.update selected change s.outbox }
  return s.outbox.countP selected

/-! ## Evidence -/

/-- The name of the field in which a record names its cause. -/
def causationField : Text := "causation_event_id"

/-- What is owed to the Ledger for a change, before its cause is known. -/
structure Evidence where
  eventType : Text
  fields : JsObject
  uncaused : causationField ∉ fields.fields.map Prod.fst

def outboxLedgerEventId (outboxId : Text) : Text := Text.ofAscii "evt_outbox_" ++ outboxId

def newOutboxRecord (outboxId tenantId platformActionId eventType : Text) (payload : JsObject) (now : Nat) :
    OutboxRecord where
  outboxId := outboxId
  tenantId := tenantId
  platformActionId := platformActionId
  eventType := eventType
  payload := payload
  createdAt := now
  attemptCount := 0
  nextAttemptAt := now
  status := .pending
  ledgerEventId := outboxLedgerEventId outboxId
  lastError := none
  claimOwner := none
  claimToken := none
  claimExpiresAt := none

/-- `INSERT INTO platform_outbox`: one row a primary key. -/
def insertOutbox (record : OutboxRecord) : Statement Unit := do
  let s ← get
  if s.outbox.any (fun r => r.key = record.key) then throw .storage
  else set { s with outbox := s.outbox ++ [record] }

/-- The payload of a record whose action enqueued `prior` before it. -/
def Evidence.payload (e : Evidence) (prior : Option Text) : JsObject :=
  match prior with
  | some prior => e.fields.set causationField (.ofText (outboxLedgerEventId prior))
  | none => e.fields

/-- `enqueue`: the record, and the pointer of its action to it. -/
def enqueue (tenantId actionId : Text) (e : Evidence) (now : Nat) (uuid : Text) : Statement Unit := do
  let outboxId := Text.ofAscii "ob_" ++ uuid
  let prior := ((← get).row (tenantId, actionId)).bind ActionRow.lastOutboxId
  insertOutbox (newOutboxRecord outboxId tenantId actionId e.eventType (e.payload prior) now)
  let _ ← updateActions (fun r => r.key = (tenantId, actionId)) fun r => { r with lastOutboxId := some outboxId }

/-- What the evidence of a change of state has in common. -/
def changeFields (current : ActionRow) (source target : PlatformActionState) (more : List (Text × Value)) :
    List (Text × Value) :=
  ([("platform_action_id", .str current.platformActionId), ("correlation_id", .str current.correlationId),
    ("from_state", .str source.name), ("to_state", .str target.name),
    ("state_version", .ofNat (current.stateVersion + 1))] : List (Text × Value)) ++ more

theorem uncaused_changeFields {current : ActionRow} {source target : PlatformActionState} {more : List (Text × Value)}
    (h : causationField ∉ more.map Prod.fst) : causationField ∉ (changeFields current source target more).map Prod.fst := by
  have hkeys : causationField ∉ (["platform_action_id", "correlation_id", "from_state", "to_state", "state_version"] : List Text) := by
    decide
  rw [changeFields, List.map_append, List.mem_append]
  exact not_or.2 ⟨hkeys, h⟩

/-- The evidence of a change of state. -/
def changeEvidence (current : ActionRow) (source target : PlatformActionState) (eventType : Text) (more : List (Text × Value))
    (hdistinct : (Value.obj (changeFields current source target more)).distinct = true)
    (h : causationField ∉ more.map Prod.fst) : Evidence :=
  ⟨eventType, ⟨changeFields current source target more, hdistinct⟩, uncaused_changeFields h⟩

def nullable : Option Text → Value
  | some t => .str t
  | none => .null

theorem distinct_nullable (t : Option Text) : (nullable t).distinct = true := by
  cases t <;> rfl

/-! ## Creation -/

/-- The random ids of a new action. -/
structure NewActionIds where
  actionUuid : Text
  correlationUuid : Text

def newActionRow (sha256 : Text → Text) (request : ValidatedRequest) (ids : NewActionIds) : ActionRow where
  tenantId := request.tenantId
  platformActionId := Text.ofAscii "pa_" ++ ids.actionUuid
  correlationId := Text.ofAscii "corr_" ++ ids.correlationUuid
  inputHash := computeInputHash sha256 request.toPlatformActionRequestInput
  request := request.toPlatformActionRequestInput
  state := .received
  stateVersion := 0
  gateDecision := none
  capabilityId := none
  sentinelSessionId := none
  executionId := none
  resultHash := none
  vadAtomId := none
  vadFinalState := none
  errorCode := none
  errorMessage := none
  requestJson := request.document.toValue.stringify
  canonicalRequest := request.document.toValue.canonical
  lastOutboxId := none

def receivedEvidence (row : ActionRow) : Evidence where
  eventType := "PLATFORM_ACTION_RECEIVED"
  fields := ⟨[("platform_action_id", .str row.platformActionId), ("correlation_id", .str row.correlationId),
      ("request_id", .str row.request.requestId), ("state", .str "RECEIVED")], rfl⟩
  uncaused := by
    show causationField ∉ (["platform_action_id", "correlation_id", "request_id", "state"] : List Text)
    decide

def createOrReturn (sha256 : Text → Text) (c : CallContext) (request : ValidatedRequest) (ids : NewActionIds) :
    Statement PlatformAction :=
  c.tx do
    let s ← get
    match s.actions.find? (fun r => r.tenantId = request.tenantId && r.request.requestId = request.requestId) with
    | some existing =>
      if existing.canonicalRequest ≠ request.document.toValue.canonical then
        throw (.platform .conflict
          (Text.ofAscii "request_id " ++ request.requestId ++ Text.ofAscii " already exists with different canonical request"))
      else return existing.toPlatformAction
    | none =>
      let row := newActionRow sha256 request ids
      insertAction row
      enqueue row.tenantId row.platformActionId (receivedEvidence row) c.now c.uuid
      return row.toPlatformAction

/-! ## Changes of state -/

/-- The transaction in which an action changes its state: the row is read, guarded,
changed where it is as it was read, and evidence of the change is enqueued. -/
def write (c : CallContext) (tenantId actionId : Text) (guard : PlatformAction → Option PlatformError)
    (selected : PlatformAction → Bool) (change : PlatformAction → PlatformAction) (evidence : ActionRow → Option Evidence) :
    Statement PlatformAction :=
  c.tx do
    let current ← getAction tenantId actionId
    match guard current.toPlatformAction with
    | some e => throw e
    | none =>
      let changed ← updateActions (fun r => r.key = (tenantId, actionId) && selected r.toPlatformAction)
        fun r => { r with toPlatformAction := { change r.toPlatformAction with stateVersion := r.stateVersion + 1 } }
      if changed ≠ 1 then throw (.platform .conflict "Platform action state version changed")
      else
        match evidence current with
        | some e => enqueue tenantId actionId e c.now c.uuid
        | none => pure ()
        return (← getAction tenantId actionId).toPlatformAction

/-- The row is still in a state and at a version: the `WHERE` of most updates. -/
def stillAt (state : PlatformActionState) (version : Nat) (a : PlatformAction) : Bool :=
  a.state = state && a.stateVersion = version

namespace Durable

def transition (c : CallContext) (tenantId actionId : Text) (expectedVersion : Nat) (target : PlatformActionState)
    (eventType : Text) (emit : Bool) : Statement PlatformAction :=
  write c tenantId actionId
    (fun a =>
      if a.stateVersion ≠ expectedVersion then some (.platform .conflict "Platform action state version changed")
      else PlatformStore.allows a.state target)
    (fun a => a.stateVersion = expectedVersion) (fun a => { a with state := target })
    fun current => if emit then some (changeEvidence current current.state target eventType [] rfl (by simp)) else none

def recordCapability (c : CallContext) (tenantId actionId : Text) (expectedVersion : Nat) (capabilityId : Text) :
    Statement PlatformAction :=
  write c tenantId actionId (PlatformStore.expects .authorized expectedVersion "Action is not awaiting capability issuance")
    (stillAt .authorized expectedVersion)
    (fun a => { a with state := .capabilityIssued, capabilityId := some capabilityId }) fun _ => none

def recordSentinelSession (c : CallContext) (tenantId actionId : Text) (expectedVersion : Nat) (sessionId : Text) :
    Statement PlatformAction :=
  write c tenantId actionId
    (PlatformStore.expects .capabilityIssued expectedVersion "Action is not awaiting a Sentinel session")
    (stillAt .capabilityIssued expectedVersion)
    (fun a => { a with state := .monitoring, sentinelSessionId := some sessionId }) fun _ => none

inductive ExecutionTarget where
  | verifying | completed

def ExecutionTarget.state : ExecutionTarget → PlatformActionState
  | .verifying => .verifying
  | .completed => .completed

def recordExecutionResult (c : CallContext) (tenantId actionId : Text) (expectedVersion : Nat)
    (executionId resultHash : Text) (target : ExecutionTarget) (eventType : Text) : Statement PlatformAction :=
  write c tenantId actionId
    (fun a =>
      match PlatformStore.expects .executing expectedVersion "Action is not executing" a with
      | some e => some e
      | none => PlatformStore.allows .executing target.state)
    (stillAt .executing expectedVersion)
    (fun a => { a with state := target.state, executionId := some executionId, resultHash := some resultHash })
    fun current => some (changeEvidence current .executing target.state eventType
      [("execution", .obj [("execution_id", .str executionId), ("result_hash", .str resultHash)])] rfl
      (by show causationField ∉ ([Text.ofAscii "execution"] : List Text); decide))

inductive VerificationTarget where
  | completed | failed | indeterminate

def VerificationTarget.state : VerificationTarget → PlatformActionState
  | .completed => .completed
  | .failed => .failed
  | .indeterminate => .indeterminate

def recordVerificationResult (c : CallContext) (tenantId actionId : Text) (expectedVersion : Nat)
    (atomId finalState : Text) (target : VerificationTarget) (errorCode : Option Text) : Statement PlatformAction :=
  write c tenantId actionId (PlatformStore.expects .verifying expectedVersion "Action is not awaiting verification")
    (stillAt .verifying expectedVersion)
    (fun a => { a with
      state := target.state, vadAtomId := some atomId, vadFinalState := some finalState, errorCode := errorCode })
    fun current => some (changeEvidence current .verifying target.state "PLATFORM_VERIFICATION_COMPLETED"
      [("verification", .obj [("vad_atom_id", .str atomId), ("vad_final_state", .str finalState)])] rfl
      (by show causationField ∉ ([Text.ofAscii "verification"] : List Text); decide))

inductive FailureTarget where
  | failed | terminated | indeterminate

def FailureTarget.state : FailureTarget → PlatformActionState
  | .failed => .failed
  | .terminated => .terminated
  | .indeterminate => .indeterminate

def FailureTarget.eventType : FailureTarget → Text
  | .failed => "PLATFORM_ACTION_FAILED"
  | .terminated => "PLATFORM_ACTION_TERMINATED"
  | .indeterminate => "PLATFORM_ACTION_INDETERMINATE"

def recordFailure (c : CallContext) (tenantId actionId : Text) (expectedVersion : Nat) (source : PlatformActionState)
    (target : FailureTarget) (errorCode errorMessage : Text) : Statement PlatformAction :=
  write c tenantId actionId
    (fun a =>
      match PlatformStore.expects source expectedVersion "Platform action state version changed" a with
      | some e => some e
      | none => PlatformStore.allows source target.state)
    (stillAt source expectedVersion)
    (fun a => { a with state := target.state, errorCode := some errorCode, errorMessage := some errorMessage })
    fun current => some (changeEvidence current source target.state target.eventType
      [("error_code", .str errorCode), ("error_message", .str errorMessage)] rfl
      (by show causationField ∉ ([Text.ofAscii "error_code", Text.ofAscii "error_message"] : List Text); decide))

def decisionTarget : VerdictDecision → PlatformActionState
  | .allow => .authorized
  | .block => .blocked
  | .hold => .held

def decisionEvent : VerdictDecision → Text
  | .allow => "PLATFORM_ACTION_AUTHORIZED"
  | .block => "PLATFORM_ACTION_BLOCKED"
  | .hold => "PLATFORM_ACTION_HELD"

def decisionName : VerdictDecision → Text
  | .allow => "ALLOW"
  | .block => "BLOCK"
  | .hold => "HOLD"

def decisionValue (d : GateDecisionRecord) : Value :=
  .obj [("decision_id", .str d.decisionId), ("decision", .str (decisionName d.decision)), ("reason", .str d.reason),
    ("policy_hash", nullable d.policyHash), ("policy_version", nullable d.policyVersion),
    ("approval_reference", nullable d.approvalReference), ("decided_at", .str d.decidedAt)]

theorem distinct_decisionValue (d : GateDecisionRecord) : (decisionValue d).distinct = true := by
  rw [decisionValue, Value.distinct, Bool.and_eq_true]
  refine ⟨rfl, ?_⟩
  simp only [Value.distinctFields, Value.distinct, distinct_nullable, Bool.and_self]

theorem distinct_decided (current : ActionRow) (target : PlatformActionState) (d : GateDecisionRecord) :
    (Value.obj (changeFields current current.state target [("gate_decision", decisionValue d)])).distinct = true := by
  rw [Value.distinct, Bool.and_eq_true]
  refine ⟨rfl, ?_⟩
  simp only [changeFields, List.cons_append, List.nil_append, Value.distinctFields, Value.distinct, distinct_decisionValue,
    Bool.and_self, Bool.and_true]
  rfl

def recordGateDecision (c : CallContext) (tenantId actionId : Text) (expectedVersion : Nat)
    (decision : GateDecisionRecord) : Statement PlatformAction :=
  write c tenantId actionId
    (PlatformStore.expects .authorizing expectedVersion "Action is not awaiting Gate authorization")
    (stillAt .authorizing expectedVersion)
    (fun a => { a with
      state := decisionTarget decision.decision, gateDecision := some decision.toGateDecisionEvidence })
    fun current => some (changeEvidence current current.state (decisionTarget decision.decision)
      (decisionEvent decision.decision) [("gate_decision", decisionValue decision)]
      (distinct_decided current _ decision)
      (by show causationField ∉ ([Text.ofAscii "gate_decision"] : List Text); decide))

/-! ## Execution claims -/

def claimedEvidence (current : ActionRow) (executionId : Text) : Evidence where
  eventType := "PLATFORM_EXECUTION_CLAIMED"
  fields := ⟨[("platform_action_id", .str current.platformActionId), ("correlation_id", .str current.correlationId),
      ("execution_id", .str executionId), ("state", .str "EXECUTING"),
      ("decision_id", nullable (current.gateDecision.map GateDecisionEvidence.decisionId)),
      ("capability_id", nullable current.capabilityId), ("sentinel_session_id", nullable current.sentinelSessionId)],
    by
      rw [Value.distinct, Bool.and_eq_true]
      refine ⟨rfl, ?_⟩
      simp only [Value.distinctFields, Value.distinct, distinct_nullable, Bool.and_self]⟩
  uncaused := by
    show causationField ∉ (["platform_action_id", "correlation_id", "execution_id", "state", "decision_id", "capability_id",
      "sentinel_session_id"] : List Text)
    decide

def claimExecution (c : CallContext) (tenantId actionId : Text) (expectedVersion : Nat) (executionId : Text) :
    Statement RunRow :=
  c.tx do
    let action ← getAction tenantId actionId
    match PlatformStore.expects .monitoring expectedVersion "Action is not claimable for execution" action.toPlatformAction with
    | some e => throw e
    | none =>
      let changed ← updateActions
        (fun r => r.key = (tenantId, actionId) && stillAt .monitoring expectedVersion r.toPlatformAction)
        fun r => { r with state := .executing, stateVersion := r.stateVersion + 1 }
      if changed ≠ 1 then throw (.platform .conflict "Action execution claim lost")
      else
        let run : RunRow := ⟨executionId, tenantId, actionId, .claimed⟩
        insertRun run
        enqueue tenantId actionId (claimedEvidence action executionId) c.now c.uuid
        return run

/-- `finishRun`: with one of the two statuses a run ends with. -/
def finishRun (c : CallContext) (tenantId executionId : Text) (interrupted : Bool) : Statement Unit :=
  c.tx do
    let changed ← updateRuns
      (fun r => r.tenantId = tenantId && r.executionId = executionId && r.status = .claimed)
      (if interrupted then .indeterminate else .finished)
    if changed ≠ 1 then throw (.platform .conflict "Execution run is not claimable for completion")

/-! ## Recovery -/

def recoveryEvidence (row : ActionRow) : Evidence where
  eventType := "PLATFORM_EXECUTION_INDETERMINATE_RECOVERY"
  fields := ⟨[("platform_action_id", .str row.platformActionId), ("correlation_id", .str row.correlationId),
      ("prior_state", .str "EXECUTING"), ("state", .str "INDETERMINATE")], rfl⟩
  uncaused := by
    show causationField ∉ (["platform_action_id", "correlation_id", "prior_state", "state"] : List Text)
    decide

/-- The recovery of one action that was executing. -/
def recoverAction (now : Nat) (uuids : Text × Text → Text) (row : ActionRow) : Statement Unit := do
  let _ ← updateActions (fun r => r.key = row.key && r.state = .executing)
    fun r => { r with state := .indeterminate, stateVersion := r.stateVersion + 1 }
  let _ ← updateRuns
    (fun r => r.tenantId = row.tenantId && r.platformActionId = row.platformActionId && r.status = .claimed) .indeterminate
  enqueue row.tenantId row.platformActionId (recoveryEvidence row) now (uuids row.key)

/-- The recovery of the actions that were executing, in turn. -/
def recoverActions (now : Nat) (uuids : Text × Text → Text) : List ActionRow → Statement Unit
  | [] => pure ()
  | row :: rows => do
    recoverAction now uuids row
    recoverActions now uuids rows

/-- `recoverInterruptedWork`, at every start of the store. It draws an outbox id for each action. -/
def recoverInterruptedWork (c : CallContext) (uuids : Text × Text → Text) : Statement Unit :=
  c.tx do
    let s ← get
    recoverActions c.now uuids (s.actions.filter fun r => r.state = .executing)
    let _ ← updateOutbox
      (fun r => r.status = .delivering && r.claimExpiresAt.all fun expiry => expiry ≤ c.now)
      fun r => { r with
        status := .failed, nextAttemptAt := c.now
        lastError := some "Recovered after interrupted or expired delivery claim" }

/-! ## Operator control -/

/-- `resume`, given the action as the call has read it. -/
def resume (c : CallContext) (principal : PlatformPrincipal) (seen : PlatformAction) : Statement PlatformAction :=
  if !principal.canControl then
    throw (.platform .forbidden
      (Text.ofAscii "Role " ++ principal.role.name ++ Text.ofAscii " may not resume a held action"))
  else if seen.state ≠ .held then
    throw (.platform .invalidTransition (Text.ofAscii "Action is not HELD (state: " ++ seen.state.name ++ Text.ofAscii ")"))
  else transition c seen.tenantId seen.platformActionId seen.stateVersion .authorizing "PLATFORM_ACTION_STATE_CHANGED" true

/-- `terminate`, given the action as the call has read it. -/
def terminate (c : CallContext) (principal : PlatformPrincipal) (seen : PlatformAction) (reason : Text) :
    Statement PlatformAction :=
  if !principal.canControl then
    throw (.platform .forbidden
      (Text.ofAscii "Role " ++ principal.role.name ++ Text.ofAscii " may not terminate a platform action"))
  else if seen.state = .held then
    transition c seen.tenantId seen.platformActionId seen.stateVersion .terminated "PLATFORM_ACTION_TERMINATED" true
  else if seen.state ≠ .monitoring ∧ seen.state ≠ .executing then
    throw (.platform .invalidTransition (Text.ofAscii "Action cannot be terminated from state " ++ seen.state.name))
  else
    recordFailure c seen.tenantId seen.platformActionId seen.stateVersion seen.state .terminated "SENTINEL_TERMINATED" reason

end Durable

/-! ## Delivery -/

/-- The records `claimNext` may claim. -/
def claimable (now : Nat) (r : OutboxRecord) : Bool :=
  match r.status with
  | .pending => true
  | .failed => r.nextAttemptAt ≤ now
  | .delivering => r.claimExpiresAt.any fun expiry => expiry ≤ now
  | _ => false

/-- A record as a claim leaves it. -/
def OutboxRecord.claimed (r : OutboxRecord) (now : Nat) (ownerId token : Text) (leaseMs : Nat) : OutboxRecord :=
  { r with
    status := .delivering, claimOwner := some ownerId, claimToken := some token, claimExpiresAt := some (now + leaseMs)
    attemptCount := r.attemptCount + 1 }

namespace Durable

/-- `claimNext`, with the token it draws. -/
def claimNext (c : CallContext) (ownerId token : Text) (leaseMs : Nat) : Statement (Option OutboxRecord) :=
  c.tx do
    match (← get).outbox.find? (claimable c.now) with
    | none => return none
    | some row =>
      let changed ← updateOutbox
        (fun r => r.key = row.key && r.status = row.status && r.claimToken = row.claimToken)
        fun r => r.claimed c.now ownerId token leaseMs
      if changed ≠ 1 then return none
      else return some (row.claimed c.now ownerId token leaseMs)

/-- The record a mark is for, while its claim is the one the mark was made under. -/
def fenced (tenantId outboxId token : Text) (r : OutboxRecord) : Bool :=
  r.key = (tenantId, outboxId) && r.status = .delivering && r.claimToken = some token

def markDelivered (c : CallContext) (outboxId tenantId token ledgerEventId : Text) : Statement Unit :=
  if ledgerEventId ≠ outboxLedgerEventId outboxId then throw (.platform .conflict "Non-deterministic ledger event id")
  else
    c.tx do
      let _ ← updateOutbox (fenced tenantId outboxId token) fun r => { r with
        status := .delivered, ledgerEventId := ledgerEventId, lastError := none, claimExpiresAt := none }

def markRetry (c : CallContext) (outboxId tenantId token error : Text) (nextAttemptAt : Nat) : Statement Unit :=
  c.tx do
    let _ ← updateOutbox (fenced tenantId outboxId token) fun r => { r with
      status := .failed, lastError := some error, nextAttemptAt := nextAttemptAt, claimExpiresAt := none }

def markDeadLetter (c : CallContext) (outboxId tenantId token error : Text) : Statement Unit :=
  c.tx do
    let _ ← updateOutbox (fenced tenantId outboxId token) fun r => { r with
      status := .deadLetter, lastError := some error, claimExpiresAt := none }

end Durable

end Tna.Platform
