import Tna.Js.Object
import Tna.Gate.Policy
import Tna.Lib.Outcome
import Tna.Lib.Table

/-!
# Platform actions and their store

An action is one row with a state and a version. Every write is a transaction on
the row it expects: the state, the version, and a transition the table of the
state machine allows. The outbox record written in the same transaction is read by
none of these operations and left out.
-/

namespace Tna.Platform

open Tna.Js Tna.Gate Tna.Lib

/-! ## The state machine -/

inductive PlatformActionState where
  | received | authorizing | blocked | held | authorized | capabilityIssued | monitoring | executing | verifying
  | completed | failed | terminated | indeterminate
deriving DecidableEq

def allowedTransitions : PlatformActionState → List PlatformActionState
  | .received => [.authorizing]
  | .authorizing => [.blocked, .held, .authorized, .indeterminate]
  | .blocked => []
  | .held => [.authorizing, .terminated]
  | .authorized => [.capabilityIssued, .indeterminate, .failed]
  | .capabilityIssued => [.monitoring, .indeterminate, .failed]
  | .monitoring => [.executing, .terminated, .indeterminate, .failed]
  | .executing => [.verifying, .completed, .failed, .terminated, .indeterminate]
  | .verifying => [.completed, .failed, .indeterminate]
  | .completed => []
  | .failed => []
  | .terminated => []
  | .indeterminate => []

def isAllowedTransition (source target : PlatformActionState) : Bool := decide (target ∈ allowedTransitions source)

def PlatformActionState.name : PlatformActionState → Text
  | .received => "RECEIVED"
  | .authorizing => "AUTHORIZING"
  | .blocked => "BLOCKED"
  | .held => "HELD"
  | .authorized => "AUTHORIZED"
  | .capabilityIssued => "CAPABILITY_ISSUED"
  | .monitoring => "MONITORING"
  | .executing => "EXECUTING"
  | .verifying => "VERIFYING"
  | .completed => "COMPLETED"
  | .failed => "FAILED"
  | .terminated => "TERMINATED"
  | .indeterminate => "INDETERMINATE"

def isTerminalState : PlatformActionState → Bool
  | .blocked | .completed | .failed | .terminated | .indeterminate => true
  | _ => false

/-- Nothing leaves a terminal state, and only from one does nothing. -/
theorem allowedTransitions_eq_nil_iff (state : PlatformActionState) :
    allowedTransitions state = [] ↔ isTerminalState state = true := by
  cases state <;> simp [allowedTransitions, isTerminalState]

/-! ## Principals -/

inductive PlatformRole where
  | agent | user | operator | admin | service
deriving DecidableEq

def PlatformRole.name : PlatformRole → Text
  | .agent => "platform-agent"
  | .user => "platform-user"
  | .operator => "platform-operator"
  | .admin => "platform-admin"
  | .service => "platform-service"

structure PlatformPrincipal where
  role : PlatformRole
  tenantId : Text
  agentId : Option Text
deriving DecidableEq

/-- The roles that control actions: `assertCanTerminate`, `assertCanApprove`. -/
def PlatformPrincipal.canControl (p : PlatformPrincipal) : Bool := p.role = .operator || p.role = .admin

/-! ## Actions -/

/-- A request as it was validated. The limits and the metadata go to Sentinel and the
verifier alone and are left out. -/
structure PlatformActionRequestInput where
  requestId : Text
  tenantId : Text
  agentId : Text
  action : Text
  tool : Text
  operation : Text
  resource : Text
  input : JsObject
  requiresVerification : Bool

/-- The binding of tool, operation, resource and input. -/
def computeInputHash (sha256 : Text → Text) (r : PlatformActionRequestInput) : Text :=
  sha256 (Value.canonical (.obj [("tool", .str r.tool), ("operation", .str r.operation), ("resource", .str r.resource),
    ("input", r.input.toValue)]))

structure GateDecisionEvidence where
  decisionId : Text
  decision : VerdictDecision
deriving DecidableEq

structure PlatformAction where
  tenantId : Text
  platformActionId : Text
  correlationId : Text
  inputHash : Text
  request : PlatformActionRequestInput
  state : PlatformActionState
  stateVersion : Nat
  gateDecision : Option GateDecisionEvidence
  capabilityId : Option Text
  sentinelSessionId : Option Text
  executionId : Option Text
  resultHash : Option Text
  vadAtomId : Option Text
  vadFinalState : Option Text
  errorCode : Option Text
  errorMessage : Option Text

/-- The primary key of an action. -/
def PlatformAction.key (a : PlatformAction) : Text × Text := (a.tenantId, a.platformActionId)

/-- What else an action is created with and never written again. -/
def PlatformAction.origin (a : PlatformAction) : Text × Text × PlatformActionRequestInput := (a.correlationId, a.inputHash, a.request)

inductive RunStatus where
  | claimed | finished | indeterminate
deriving DecidableEq

structure PlatformRun where
  platformActionId : Text
  status : RunStatus
deriving DecidableEq

/-- The rows by primary key: tenant and action id, tenant and execution id. -/
structure PlatformStore where
  actions : Table (Text × Text) PlatformAction
  runs : Table (Text × Text) PlatformRun
  /-- The key of an action is two columns of its row. -/
  actions_key : ∀ key a, actions.lookup key = some a → a.key = key

inductive PlatformErrorCode where
  | invalidInput | unsupportedVersion | payloadTooLarge | notFound | forbidden | conflict | invalidTransition
  | capabilityFailure | evidenceDegraded
deriving DecidableEq

inductive PlatformError where
  | platform (code : PlatformErrorCode) (message : Text)
  /-- The store itself failed, and the transaction was rolled back. -/
  | storage
  /-- Any other error that passes through. -/
  | foreign
deriving DecidableEq

/-! ## Writes -/

namespace PlatformStore

/-- The row of an action written over the one with its key. -/
def put (s : PlatformStore) (a : PlatformAction) : PlatformStore where
  actions := s.actions.insert a.key a
  runs := s.runs
  actions_key := by
    intro key a' h
    rcases Table.lookup_insert_cases h with ⟨rfl, rfl⟩ | ⟨-, h⟩
    · rfl
    · exact s.actions_key key a' h

def get (s : PlatformStore) (tenantId actionId : Text) : Except PlatformError PlatformAction :=
  match s.actions.lookup (tenantId, actionId) with
  | some a => .ok a
  | none => .error (.platform .notFound (Text.ofAscii "No platform action " ++ actionId))

/-- The transaction all writes of an action have in common: the row is read, guarded,
changed, and gets its next version. -/
def update (s : PlatformStore) (ok : Bool) (tenantId actionId : Text)
    (guard : PlatformAction → Option PlatformError) (change : PlatformAction → PlatformAction) :
    Except PlatformError (PlatformStore × PlatformAction) :=
  match s.get tenantId actionId with
  | .error e => .error e
  | .ok current =>
    match guard current with
    | some e => .error e
    | none =>
      if ok then
        let next := { change current with stateVersion := current.stateVersion + 1 }
        .ok (s.put next, next)
      else .error .storage

/-- The row is in a state and at a version. -/
def expects (state : PlatformActionState) (version : Nat) (message : Text) (a : PlatformAction) :
    Option PlatformError :=
  if a.state ≠ state ∨ a.stateVersion ≠ version then some (.platform .conflict message) else none

/-- The target may follow the source. -/
def allows (source target : PlatformActionState) : Option PlatformError :=
  if isAllowedTransition source target then none
  else some (.platform .invalidTransition (source.name ++ Text.ofAscii " -> " ++ target.name ++ Text.ofAscii " is not allowed"))

def transition (s : PlatformStore) (ok : Bool) (tenantId actionId : Text) (expectedVersion : Nat)
    (target : PlatformActionState) : Except PlatformError (PlatformStore × PlatformAction) :=
  s.update ok tenantId actionId
    (fun a =>
      if a.stateVersion ≠ expectedVersion then some (.platform .conflict "Platform action state version changed")
      else allows a.state target)
    fun a => { a with state := target }

def recordCapability (s : PlatformStore) (ok : Bool) (tenantId actionId : Text) (expectedVersion : Nat)
    (capabilityId : Text) : Except PlatformError (PlatformStore × PlatformAction) :=
  s.update ok tenantId actionId (expects .authorized expectedVersion "Action is not awaiting capability issuance")
    fun a => { a with state := .capabilityIssued, capabilityId := some capabilityId }

def recordSentinelSession (s : PlatformStore) (ok : Bool) (tenantId actionId : Text) (expectedVersion : Nat)
    (sessionId : Text) : Except PlatformError (PlatformStore × PlatformAction) :=
  s.update ok tenantId actionId (expects .capabilityIssued expectedVersion "Action is not awaiting a Sentinel session")
    fun a => { a with state := .monitoring, sentinelSessionId := some sessionId }

/-- The claim of an execution: the state, and a run, of which an action has one at most. -/
def claimExecution (s : PlatformStore) (ok : Bool) (tenantId actionId : Text) (expectedVersion : Nat)
    (executionId : Text) : Except PlatformError (PlatformStore × PlatformAction) :=
  match s.update ok tenantId actionId (expects .monitoring expectedVersion "Action is not claimable for execution")
      (fun a => { a with state := .executing }) with
  | .error e => .error e
  | .ok (s', a) =>
    if s.runs.entries.any (fun row => row.1.1 = tenantId && (row.1.2 = executionId || row.2.platformActionId = actionId)) then
      .error (.platform .conflict "Action already has an execution claim")
    else .ok ({ s' with runs := s.runs.insert (tenantId, executionId) ⟨actionId, .claimed⟩ }, a)

/-- `recordFailure`: the end of an action, from the state the caller expects. -/
def recordFailure (s : PlatformStore) (ok : Bool) (tenantId actionId : Text) (expectedVersion : Nat)
    (source target : PlatformActionState) (errorCode errorMessage : Text) :
    Except PlatformError (PlatformStore × PlatformAction) :=
  s.update ok tenantId actionId
    (fun a =>
      match expects source expectedVersion "Platform action state version changed" a with
      | some e => some e
      | none => allows source target)
    fun a => { a with state := target, errorCode := some errorCode, errorMessage := some errorMessage }

def recordExecutionResult (s : PlatformStore) (ok : Bool) (tenantId actionId : Text) (expectedVersion : Nat)
    (executionId resultHash : Text) (target : PlatformActionState) :
    Except PlatformError (PlatformStore × PlatformAction) :=
  s.update ok tenantId actionId
    (fun a =>
      match expects .executing expectedVersion "Action is not executing" a with
      | some e => some e
      | none => allows .executing target)
    fun a => { a with state := target, executionId := some executionId, resultHash := some resultHash }

def recordVerificationResult (s : PlatformStore) (ok : Bool) (tenantId actionId : Text) (expectedVersion : Nat)
    (atomId finalState : Text) (target : PlatformActionState) (errorCode : Option Text) :
    Except PlatformError (PlatformStore × PlatformAction) :=
  s.update ok tenantId actionId (expects .verifying expectedVersion "Action is not awaiting verification")
    fun a => { a with state := target, vadAtomId := some atomId, vadFinalState := some finalState, errorCode := errorCode }

def finishRun (s : PlatformStore) (ok : Bool) (tenantId executionId : Text) (status : RunStatus) :
    Except PlatformError PlatformStore :=
  match s.runs.lookup (tenantId, executionId) with
  | some run =>
    if run.status ≠ .claimed then .error (.platform .conflict "Execution run is not claimable for completion")
    else if ok then .ok { s with runs := s.runs.insert (tenantId, executionId) { run with status := status } }
    else .error .storage
  | none => .error (.platform .conflict "Execution run is not claimable for completion")

/-- `finishRunQuietly`. -/
def finishRunQuietly (s : PlatformStore) (ok : Bool) (tenantId executionId : Text) (status : RunStatus) : PlatformStore :=
  match s.finishRun ok tenantId executionId status with
  | .ok s' => s'
  | .error _ => s

/-! ## What a write does -/

section
variable {s s' : PlatformStore} {ok : Bool} {tenantId actionId : Text} {a : PlatformAction}

theorem lookup_put (s : PlatformStore) (a : PlatformAction) : (s.put a).actions.lookup a.key = some a :=
  AList.lookup_insert _

/-- A row read under the key of the row just written is that row. -/
theorem lookup_put_inj {current : PlatformAction} {key : Text × Text} (hkey : a.key = key)
    (h : (s.put a).actions.lookup key = some current) : current = a := by
  rw [← hkey, lookup_put] at h
  exact (Option.some.inj h).symm

theorem get_ok (h : s.get tenantId actionId = .ok a) : s.actions.lookup (tenantId, actionId) = some a := by
  unfold get at h
  split at h
  · next hrow =>
    cases h
    exact hrow
  · cases h

/-- **Inversion of a write**: it found the row, the guard let it through, and it
stored the changed row at the next version. -/
theorem update_ok {guard : PlatformAction → Option PlatformError} {change : PlatformAction → PlatformAction}
    (h : s.update ok tenantId actionId guard change = .ok (s', a)) :
    ∃ current, s.actions.lookup (tenantId, actionId) = some current ∧ guard current = none ∧
      a = { change current with stateVersion := current.stateVersion + 1 } ∧ s' = s.put a := by
  unfold update at h
  split at h
  · cases h
  · next current hget =>
    split at h
    · cases h
    · next hguard =>
      split at h
      · cases h
        exact ⟨current, get_ok hget, hguard, rfl, rfl⟩
      · cases h

theorem expects_none {state : PlatformActionState} {version : Nat} {message : Text}
    (h : expects state version message a = none) : a.state = state ∧ a.stateVersion = version := by
  unfold expects at h
  split_ifs at h with hcond
  push Not at hcond
  exact hcond

/-- Finishing a run leaves the actions as they are. -/
theorem finishRun_actions {executionId : Text} {status : RunStatus} (h : s.finishRun ok tenantId executionId status = .ok s') :
    s'.actions = s.actions := by
  unfold finishRun at h
  split at h
  · split at h
    · cases h
    · split at h
      · cases h
        rfl
      · cases h
  · cases h

theorem finishRunQuietly_actions (s : PlatformStore) (ok : Bool) (tenantId executionId : Text) (status : RunStatus) :
    (s.finishRunQuietly ok tenantId executionId status).actions = s.actions := by
  unfold finishRunQuietly
  split
  · next h => exact finishRun_actions h
  · rfl

end

end PlatformStore

end Tna.Platform
