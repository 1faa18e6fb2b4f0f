import Tna.Platform.LedgerEvents
import Tna.Platform.Records

/-!
# The reconstruction of an action

`reconstructPlatformAction` reads one action from durable state alone: which of its steps were
recorded, how it ended and why, and the chain of its records. It shows an error where the code
and the message are both there, and not every call that ends an action writes both.
-/

namespace Tna.Platform

open Tna.Js Tna.Gate Tna.Lib

/-! ## What is reconstructed -/

structure CausalChainStep where
  eventId : Text
  eventType : Text
  causedBy : Option Text
  decisionId : Option Text
  capabilityId : Option Text
  sentinelSessionId : Option Text
  executionId : Option Text
  vadAtomId : Option Text

/-- `value && …`: a text that is there and not empty. -/
def truthy : Option Text → Option Text
  | some (c :: t) => some (c :: t)
  | _ => none

/-- A text field of an object in a payload. -/
def nestedText (outer inner : Text) (payload : JsObject) : Option Text :=
  match (payload.get outer).val with
  | .obj fields =>
    match Value.get fields inner with
    | .str t => some t
    | _ => none
  | _ => none

/-- The step of what a record says, with the facts of `extractCausalFacts`. -/
def causalChainStep (record : Written) : CausalChainStep where
  eventId := outboxLedgerEventId record.outboxId
  eventType := record.eventType
  causedBy := (record.payload.get causationField).asText?
  decisionId := truthy (capturedDecisionIdFromPayload record.payload)
  capabilityId := (record.payload.get "capability_id").asText?
  sentinelSessionId := (record.payload.get "sentinel_session_id").asText?
  executionId := ((record.payload.get "execution_id").asText?).or (nestedText "execution" "execution_id" record.payload)
  vadAtomId := nestedText "verification" "vad_atom_id" record.payload

structure ReconstructedRequest where
  tool : Text
  action : Text
  operation : Text
  resource : Text
  inputHash : Text
  requiresVerification : Bool

structure ReconstructedEvidence where
  degraded : Bool
  outboxRecords : Nat
  delivered : Nat
  deadLettered : Nat

/-- The reconstruction of an action, its decision without the reason. -/
structure PlatformActionReconstruction where
  platformActionId : Text
  correlationId : Text
  tenantId : Text
  agentId : Text
  request : ReconstructedRequest
  gate : Option GateDecisionEvidence
  capabilityId : Option Text
  sentinelSessionId : Option Text
  /-- The execution id, and the hash of the result. -/
  execution : Option (Text × Text)
  /-- The atom, and its final state. -/
  verification : Option (Text × Text)
  evidence : ReconstructedEvidence
  finalStatus : PlatformActionState
  /-- The code, and the message. -/
  error : Option (Text × Text)
  causalChain : List CausalChainStep

/-- `listOutbox`. An action id that is empty selects the records of the tenant. -/
def listOutbox (s : DurableStore) (tenantId actionId : Text) : List OutboxRecord :=
  s.outbox.filter fun r => r.tenantId = tenantId && (actionId = [] || r.platformActionId = actionId)

/-- `evidenceStatus` is `DEGRADED`. -/
def evidenceDegraded (s : DurableStore) (tenantId actionId : Text) : Bool :=
  s.outbox.any fun r => r.actionKey = (tenantId, actionId) && r.status = .deadLetter

/-- `a && b ? { a, b } : null`. -/
def bothSet (a b : Option Text) : Option (Text × Text) :=
  match truthy a, truthy b with
  | some a, some b => some (a, b)
  | _, _ => none

def reconstructPlatformAction (s : DurableStore) (tenantId actionId : Text) :
    Except PlatformError PlatformActionReconstruction :=
  match s.row (tenantId, actionId) with
  | none => .error (.platform .notFound (Text.ofAscii "No platform action " ++ actionId))
  | some action =>
    let outbox := listOutbox s tenantId actionId
    .ok
      { platformActionId := action.platformActionId, correlationId := action.correlationId, tenantId := action.tenantId
        agentId := action.request.agentId
        request := ⟨action.request.tool, action.request.action, action.request.operation, action.request.resource,
          action.inputHash, action.request.requiresVerification⟩
        gate := action.gateDecision, capabilityId := action.capabilityId, sentinelSessionId := action.sentinelSessionId
        execution := bothSet action.executionId action.resultHash
        verification := bothSet action.vadAtomId action.vadFinalState
        evidence := ⟨evidenceDegraded s tenantId actionId, outbox.length, outbox.countP fun o => o.status = .delivered,
          outbox.countP fun o => o.status = .deadLetter⟩
        finalStatus := action.state
        error := bothSet action.errorCode action.errorMessage
        causalChain := outbox.map fun record => causalChainStep record.written }

/-! ## What was recorded -/

/-- A step that is recorded of an action. -/
inductive RecordedStep where
  | gate | capability | session | execution | verification

/-- The step a call records, and of which action. -/
def StoreCall.records : StoreCall → Option ((Text × Text) × RecordedStep)
  | .recordGateDecision tenantId actionId .. => some ((tenantId, actionId), .gate)
  | .recordCapability tenantId actionId .. => some ((tenantId, actionId), .capability)
  | .recordSentinelSession tenantId actionId .. => some ((tenantId, actionId), .session)
  | .recordExecutionResult tenantId actionId .. => some ((tenantId, actionId), .execution)
  | .recordVerificationResult tenantId actionId .. => some ((tenantId, actionId), .verification)
  | _ => none

/-- A call, and whether it answered or threw. -/
structure CallReport where
  context : CallContext
  call : StoreCall
  answered : Bool

def ReportedStep (sha256 : Text → Text) (s : DurableStore) (report : CallReport) (t : DurableStore) : Prop :=
  if report.answered then report.call.run sha256 report.context s = .ok () t
  else ∃ e, report.call.run sha256 report.context s = .error e t

/-- A call that records the step has answered: its transaction was committed. -/
def Recorded (reports : List CallReport) (key : Text × Text) (step : RecordedStep) : Prop :=
  ∃ report ∈ reports, report.answered = true ∧ report.call.records = some (key, step)

/-- An end that is to be explained. -/
def PlatformActionState.fails : PlatformActionState → Bool
  | .failed | .terminated | .indeterminate => true
  | _ => false

/-- What is claimed of a reconstruction. -/
structure Faithful (reports : List CallReport) (s : DurableStore) (key : Text × Text) (r : PlatformActionReconstruction) :
    Prop where
  gate : r.gate ≠ none ↔ Recorded reports key .gate
  capability : r.capabilityId ≠ none ↔ Recorded reports key .capability
  session : r.sentinelSessionId ≠ none ↔ Recorded reports key .session
  execution : r.execution ≠ none ↔ Recorded reports key .execution
  verification : r.verification ≠ none ↔ Recorded reports key .verification
  error : r.finalStatus.fails = true → r.error ≠ none
  records : r.causalChain = (s.writtenOf key).map causalChainStep
  first : ∀ step, r.causalChain.head? = some step → step.causedBy = none
  linked : r.causalChain.IsChain fun before after => after.causedBy = some before.eventId

/-- **The condition** on a call that answers: it moves no action to a failing end but with a code and a message, and what it
records of an execution or a verification is not empty. -/
def StoreCall.Tells (s : DurableStore) : StoreCall → Prop
  | .transition _ _ _ target _ _ => target.fails = false
  | .recordExecutionResult _ _ _ executionId resultHash _ _ => executionId ≠ [] ∧ resultHash ≠ []
  | .recordVerificationResult _ _ _ atomId finalState target _ =>
    atomId ≠ [] ∧ finalState ≠ [] ∧ target.state.fails = false
  | .recordFailure _ _ _ _ _ errorCode errorMessage => errorCode ≠ [] ∧ errorMessage ≠ []
  | .terminate _ seen reason => seen.state ≠ .held ∧ reason ≠ []
  | .recoverInterruptedWork _ => ∀ row ∈ s.actions, row.state ≠ .executing
  | _ => True

/-! ## Actions -/

/-- The action of a row. -/
def DurableStore.action (s : DurableStore) (key : Text × Text) : Option PlatformAction :=
  (s.row key).map ActionRow.toPlatformAction

/-- The field of a step is set. -/
def PlatformAction.Has (a : PlatformAction) : RecordedStep → Prop
  | .gate => a.gateDecision ≠ none
  | .capability => a.capabilityId ≠ none
  | .session => a.sentinelSessionId ≠ none
  | .execution => bothSet a.executionId a.resultHash ≠ none
  | .verification => bothSet a.vadAtomId a.vadFinalState ≠ none

/-- An action that ended in failure says why. -/
def PlatformAction.Explained (a : PlatformAction) : Prop := a.state.fails = true → bothSet a.errorCode a.errorMessage ≠ none

theorem bothSet_ne_none {a b : Text} (ha : a ≠ []) (hb : b ≠ []) : bothSet (some a) (some b) ≠ none := by
  cases a with
  | nil => exact absurd rfl ha
  | cons => cases b with
    | nil => exact absurd rfl hb
    | cons => exact Option.some_ne_none _

section
variable {s t : DurableStore} {c : CallContext} {tenantId actionId : Text} {guard : PlatformAction → Option PlatformError}
  {selected : PlatformAction → Bool} {change : PlatformAction → PlatformAction} {evidence : ActionRow → Option Evidence}
  {a : PlatformAction}

theorem action_enqueued (s : DurableStore) (tenantId actionId : Text) (e : Evidence) (now : Nat) (uuid : Text) :
    (s.enqueued tenantId actionId e now uuid).action = s.action := by
  funext key
  rw [DurableStore.action, row_enqueued, DurableStore.action, Option.map_map]
  congr 1
  funext r
  simp only [Function.comp_apply]
  split <;> rfl

variable {key : Text × Text} {message : Text} {version expectedVersion : Nat} {source target : PlatformActionState}
  {sha256 : Text → Text} {principal : PlatformPrincipal} {seen : PlatformAction}

/-- An action after a move of the one with a key, which was selected. -/
theorem action_moved (hkey : ∀ a, (change a).key = a.key) {current : ActionRow} (hrow : s.row key = some current)
    (hselected : selected current.toPlatformAction = true) (key' : Text × Text) :
    (s.moved (fun r => r.key = key && selected r.toPlatformAction) change).action key' =
      if key' = key then some { change current.toPlatformAction with stateVersion := current.stateVersion + 1 }
      else s.action key' := by
  rw [DurableStore.action, row_moved hkey]
  by_cases hsame : key' = key
  · subst hsame
    rw [hrow, if_pos rfl, Option.map_some, Option.map_some, if_pos (by simp [key_of_row hrow, hselected])]
  · rw [if_neg hsame, DurableStore.action, Option.map_map]
    refine Option.map_congr fun r hr => ?_
    have hother : r.key ≠ key := by
      rw [key_of_row hr]
      exact hsame
    simp [hother]

/-- **What a change of state does to the actions.** -/
theorem action_of_write (h : write c tenantId actionId guard selected change evidence s = .ok a t)
    (hkey : ∀ a, (change a).key = a.key) (hselected : ∀ a, guard a = none → selected a = true) :
    ∃ current, s.action (tenantId, actionId) = some current ∧ guard current = none ∧ ∀ key, t.action key =
      if key = (tenantId, actionId) then some { change current with stateVersion := current.stateVersion + 1 }
      else s.action key := by
  obtain ⟨current, hrow, hguard, hwritten, -⟩ := write_ok h
  have hmoved := action_moved hkey hrow (hselected _ hguard)
  refine ⟨current.toPlatformAction, by rw [DurableStore.action, hrow, Option.map_some], hguard, fun key => ?_⟩
  rcases hwritten with ⟨rfl, -⟩ | ⟨e, -, -, rfl⟩
  · exact hmoved key
  · rw [action_enqueued]
    exact hmoved key

theorem expects_stillAt {state : PlatformActionState} (h : PlatformStore.expects state version message a = none) :
    stillAt state version a = true := by
  obtain ⟨hstate, hversion⟩ := PlatformStore.expects_none h
  simp [stillAt, hstate, hversion]

theorem guarded_stillAt (h : (match PlatformStore.expects source version message a with
      | some e => some e
      | none => PlatformStore.allows source target) = none) : stillAt source version a = true := by
  split at h
  · cases h
  · next hguard => exact expects_stillAt hguard

/-! ## What a call does to an action -/

/-- What a call that answers under the condition does: nothing to the actions, or a new one, or a change of one in which
the step it records, and no other, is set, and a failing end is explained. -/
inductive ActionEffect (s t : DurableStore) (call : StoreCall) : Prop where
  | same (h : t.action = s.action) (hrecords : call.records = none)
  | created (key : Text × Text) (a : PlatformAction) (hnew : s.action key = none)
    (h : ∀ key', t.action key' = if key' = key then some a else s.action key') (hid : a.platformActionId ≠ [])
    (hkey : a.key = key) (hfields : ∀ step, ¬ a.Has step) (hstate : a.state = .received) (hrecords : call.records = none)
  | changed (key : Text × Text) (a b : PlatformAction) (hold : s.action key = some a)
    (h : ∀ key', t.action key' = if key' = key then some b else s.action key') (hkey : b.key = a.key)
    (hfields : ∀ step, b.Has step ↔ a.Has step ∨ call.records = some (key, step)) (hexplained : b.Explained)
    (hrecords : ∀ key' step, call.records = some (key', step) → key' = key)

variable {call : StoreCall}

/-- A change of state that sets the field of the step it records. -/
theorem changed_of_write (h : write c tenantId actionId guard selected change evidence s = .ok a t)
    (hkey : ∀ a, (change a).key = a.key) (hselected : ∀ a, guard a = none → selected a = true)
    (hfields : ∀ a step, (change a).Has step ↔ a.Has step ∨ call.records = some ((tenantId, actionId), step))
    (hexplained : ∀ a, guard a = none → (change a).Explained)
    (hrecords : ∀ key step, call.records = some (key, step) → key = (tenantId, actionId)) : ActionEffect s t call := by
  obtain ⟨current, hcurrent, hguard, hactions⟩ := action_of_write h hkey hselected
  exact .changed _ current _ hcurrent hactions (hkey current) (hfields current) (hexplained current hguard) hrecords

/-- A change of state that records no step. -/
theorem changed_of_write_of_none (h : write c tenantId actionId guard selected change evidence s = .ok a t)
    (hkey : ∀ a, (change a).key = a.key) (hselected : ∀ a, guard a = none → selected a = true)
    (hfields : ∀ a step, (change a).Has step ↔ a.Has step) (hexplained : ∀ a, guard a = none → (change a).Explained)
    (hrecords : call.records = none) : ActionEffect s t call := by
  refine changed_of_write h hkey hselected (fun a step => ?_) hexplained fun key step hstep => ?_
  · rw [hrecords, hfields a step]
    simp
  · rw [hrecords] at hstep
    cases hstep

theorem explained_of_not_fails (h : a.state.fails = false) : a.Explained := by
  intro hfails
  rw [h] at hfails
  cases hfails

theorem has_of_fields {b : PlatformAction} (hgate : a.gateDecision = b.gateDecision)
    (hcapability : a.capabilityId = b.capabilityId) (hsession : a.sentinelSessionId = b.sentinelSessionId)
    (hexecution : a.executionId = b.executionId) (hresult : a.resultHash = b.resultHash) (hatom : a.vadAtomId = b.vadAtomId)
    (hfinal : a.vadFinalState = b.vadFinalState) (step : RecordedStep) : a.Has step ↔ b.Has step := by
  cases step <;> simp only [PlatformAction.Has, hgate, hcapability, hsession, hexecution, hresult, hatom, hfinal]

theorem transition_action {eventType : Text} {emit : Bool}
    (h : Durable.transition c tenantId actionId expectedVersion target eventType emit s = .ok a t)
    (htarget : target.fails = false) (hrecords : call.records = none) : ActionEffect s t call := by
  refine changed_of_write_of_none h (fun _ => rfl) (fun a hguard => ?_) (fun a => has_of_fields rfl rfl rfl rfl rfl rfl rfl)
    (fun a _ => explained_of_not_fails htarget) hrecords
  split at hguard
  · cases hguard
  · next hversion => exact decide_eq_true (not_not.1 hversion)

theorem recordFailure_action {target : Durable.FailureTarget} {errorCode errorMessage : Text}
    (h : Durable.recordFailure c tenantId actionId expectedVersion source target errorCode errorMessage s = .ok a t)
    (hcode : errorCode ≠ []) (hmessage : errorMessage ≠ []) (hrecords : call.records = none) : ActionEffect s t call :=
  changed_of_write_of_none h (fun _ => rfl) (fun _ => guarded_stillAt) (fun _ => has_of_fields rfl rfl rfl rfl rfl rfl rfl)
    (fun _ _ _ => bothSet_ne_none hcode hmessage) hrecords

theorem createOrReturn_action {request : ValidatedRequest} {ids : NewActionIds}
    (h : createOrReturn sha256 c request ids s = .ok a t) (hrecords : call.records = none) : ActionEffect s t call := by
  rcases createOrReturn_ok h with rfl | ⟨hnew, -, rfl⟩
  · exact .same rfl hrecords
  · refine .created (newActionRow sha256 request ids).key (newActionRow sha256 request ids).toPlatformAction ?_ (fun key' => ?_)
      (List.append_ne_nil_of_left_ne_nil (by decide) _) rfl (fun step => ?_) rfl hrecords
    · rw [DurableStore.action, hnew, Option.map_none]
    · rw [action_enqueued, DurableStore.action, row_inserted]
      by_cases hsame : key' = (newActionRow sha256 request ids).key
      · subst hsame
        rw [hnew, Option.none_or, if_pos rfl, if_pos rfl, Option.map_some]
      · rw [if_neg hsame, if_neg (Ne.symm hsame), Option.or_none, DurableStore.action]
    · cases step <;> exact fun h => h rfl

theorem claimExecution_action {executionId : Text} {run : RunRow}
    (h : Durable.claimExecution c tenantId actionId expectedVersion executionId s = .ok run t) (hrecords : call.records = none) :
    ActionEffect s t call := by
  obtain ⟨current, hrow, hstate, hversion, -, -, -, rfl⟩ := Durable.claimExecution_ok h
  have hselected : stillAt .monitoring expectedVersion current.toPlatformAction = true := by
    simp [stillAt, hstate, hversion]
  have hmoved := @action_moved s _ (fun a => { a with state := .executing }) (tenantId, actionId) (fun _ => rfl) current hrow
    hselected
  refine .changed (tenantId, actionId) current.toPlatformAction
    { current.toPlatformAction with state := .executing, stateVersion := current.stateVersion + 1 } ?_ (fun key' => ?_) rfl
    (fun step => ?_) (explained_of_not_fails rfl) fun key step hstep => ?_
  · rw [DurableStore.action, hrow, Option.map_some]
  · rw [action_enqueued]
    exact hmoved key'
  · rw [hrecords]
    refine (@has_of_fields _ current.toPlatformAction rfl rfl rfl rfl rfl rfl rfl step).trans ?_
    simp
  · rw [hrecords] at hstep
    cases hstep

/-- With nothing executing, a restart leaves the actions alone. -/
theorem recoverInterruptedWork_action {uuids : Text × Text → Text} {u : Unit}
    (h : Durable.recoverInterruptedWork c uuids s = .ok u t) (hidle : ∀ row ∈ s.actions, row.state ≠ .executing)
    (hrecords : call.records = none) : ActionEffect s t call := by
  obtain ⟨v, hactions, -, rfl⟩ := Durable.recoverInterruptedWork_ok h
  have hnone : (s.actions.filter fun r => r.state = .executing) = [] :=
    List.filter_eq_nil_iff.2 fun row hrow => by simpa using hidle row hrow
  rw [hnone] at hactions
  cases hactions
  exact .same rfl hrecords

theorem claimNext_action {ownerId token : Text} {leaseMs : Nat} {claimed : Option OutboxRecord}
    (h : Durable.claimNext c ownerId token leaseMs s = .ok claimed t) (hrecords : call.records = none) :
    ActionEffect s t call := by
  rcases Durable.claimNext_ok h with ⟨-, rfl | ⟨row, -, -, rfl⟩⟩ | ⟨row, -, -, rfl⟩
  · exact .same rfl hrecords
  · exact .same rfl hrecords
  · exact .same rfl hrecords

theorem some_records_inj {key' : Text × Text} {step step' : RecordedStep} (h : some (key, step) = some (key', step')) :
    key' = key := by
  cases h
  rfl

theorem terminate_action {reason : Text} (h : Durable.terminate c principal seen reason s = .ok a t)
    (hheld : seen.state ≠ .held) (hreason : reason ≠ []) (hrecords : call.records = none) : ActionEffect s t call := by
  unfold Durable.terminate at h
  split at h
  · cases h
  · split at h
    · cases h
    · exact recordFailure_action h (by decide) hreason hrecords

theorem resume_action (h : Durable.resume c principal seen s = .ok a t) (hrecords : call.records = none) :
    ActionEffect s t call := by
  unfold Durable.resume at h
  split at h
  · cases h
  split at h
  · cases h
  · exact transition_action h rfl hrecords

/-- **What a call that answers under the condition does to the actions.** -/
theorem action_of_call (h : call.run sha256 c s = .ok () t) (htells : call.Tells s) : ActionEffect s t call := by
  cases call with
  | createOrReturn =>
    obtain ⟨_, h⟩ := answered_of_dropped h
    exact createOrReturn_action h rfl
  | transition =>
    obtain ⟨_, h⟩ := answered_of_dropped h
    exact transition_action h htells rfl
  | recordCapability tenantId actionId version capabilityId =>
    obtain ⟨_, h⟩ := answered_of_dropped h
    refine changed_of_write h (fun _ => rfl) (fun _ => expects_stillAt) (fun a step => ?_)
      (fun _ _ => explained_of_not_fails rfl) fun _ _ => some_records_inj
    cases step <;> simp [PlatformAction.Has, StoreCall.records]
  | recordSentinelSession tenantId actionId version sessionId =>
    obtain ⟨_, h⟩ := answered_of_dropped h
    refine changed_of_write h (fun _ => rfl) (fun _ => expects_stillAt) (fun a step => ?_)
      (fun _ _ => explained_of_not_fails rfl) fun _ _ => some_records_inj
    cases step <;> simp [PlatformAction.Has, StoreCall.records]
  | recordExecutionResult tenantId actionId version executionId resultHash target eventType =>
    obtain ⟨_, h⟩ := answered_of_dropped h
    refine changed_of_write h (fun _ => rfl) (fun _ => guarded_stillAt) (fun a step => ?_)
      (fun _ _ => explained_of_not_fails (by cases target <;> rfl)) fun _ _ => some_records_inj
    have hset := bothSet_ne_none htells.1 htells.2
    cases step <;> simp [PlatformAction.Has, StoreCall.records, hset]
  | recordVerificationResult tenantId actionId version atomId finalState target errorCode =>
    obtain ⟨_, h⟩ := answered_of_dropped h
    refine changed_of_write h (fun _ => rfl) (fun _ => expects_stillAt) (fun a step => ?_)
      (fun _ _ => explained_of_not_fails htells.2.2) fun _ _ => some_records_inj
    have hset := bothSet_ne_none htells.1 htells.2.1
    cases step <;> simp [PlatformAction.Has, StoreCall.records, hset]
  | recordFailure =>
    obtain ⟨_, h⟩ := answered_of_dropped h
    exact recordFailure_action h htells.1 htells.2 rfl
  | recordGateDecision tenantId actionId version decision =>
    obtain ⟨_, h⟩ := answered_of_dropped h
    refine changed_of_write h (fun _ => rfl) (fun _ => expects_stillAt) (fun a step => ?_)
      (fun _ _ => explained_of_not_fails (by cases decision.decision <;> rfl)) fun _ _ => some_records_inj
    cases step <;> simp [PlatformAction.Has, StoreCall.records]
  | claimExecution =>
    obtain ⟨_, h⟩ := answered_of_dropped h
    exact claimExecution_action h rfl
  | finishRun =>
    rw [Durable.finishRun_ok h]
    exact .same rfl rfl
  | recoverInterruptedWork => exact recoverInterruptedWork_action h htells rfl
  | resume =>
    obtain ⟨_, h⟩ := answered_of_dropped h
    exact resume_action h rfl
  | terminate =>
    obtain ⟨_, h⟩ := answered_of_dropped h
    exact terminate_action h htells.1 htells.2 rfl
  | claimNext =>
    obtain ⟨_, h⟩ := answered_of_dropped h
    exact claimNext_action h rfl
  | markDelivered =>
    rw [(markDelivered_ok h).2]
    exact .same rfl rfl
  | markRetry =>
    rw [markRetry_ok h]
    exact .same rfl rfl
  | markDeadLetter =>
    rw [markDeadLetter_ok h]
    exact .same rfl rfl

end

/-! ## Runs -/

section
variable {sha256 : Text → Text} {s t u : DurableStore} {reports : List CallReport} {report : CallReport} {key : Text × Text}
  {step : RecordedStep}

theorem ReportedStep.storeStep (h : ReportedStep sha256 s report t) : StoreStep sha256 s (report.context, report.call) t := by
  unfold ReportedStep at h
  split at h
  · exact .inl h
  · exact .inr h

theorem recorded_append : Recorded (reports ++ [report]) key step ↔
    Recorded reports key step ∨ report.answered = true ∧ report.call.records = some (key, step) := by
  simp only [Recorded, List.mem_append, List.mem_singleton, or_and_right, exists_or, exists_eq_left]

/-- What is known of an action in a run under the condition. -/
structure Reported (reports : List CallReport) (s : DurableStore) : Prop where
  id : ∀ key a, s.action key = some a → a.key = key ∧ a.platformActionId ≠ []
  fields : ∀ key a, s.action key = some a → ∀ step, a.Has step ↔ Recorded reports key step
  unborn : ∀ key, s.action key = none → ∀ step, ¬ Recorded reports key step
  explained : ∀ key a, s.action key = some a → a.Explained

theorem reported_empty : Reported [] .empty where
  id := fun _ _ h => nomatch h
  fields := fun _ _ h => nomatch h
  unborn := by
    rintro key - step ⟨report, hreport, -⟩
    cases hreport
  explained := fun _ _ h => nomatch h

/-- A call that records nothing adds nothing to what is recorded. -/
theorem recorded_append_of_none (h : report.call.records = none) :
    Recorded (reports ++ [report]) key step ↔ Recorded reports key step := by
  rw [recorded_append, h]
  simp

/-- **Step**: a call that meets the condition where it answers keeps the account. -/
theorem reported_step (hstep : ReportedStep sha256 s report t) (htells : report.answered = true → report.call.Tells s)
    (h : Reported reports s) : Reported (reports ++ [report]) t := by
  unfold ReportedStep at hstep
  split at hstep
  case isFalse hthrew =>
    obtain ⟨e, herror⟩ := hstep
    rw [eq_of_call_error herror]
    have hsame (key : Text × Text) (step : RecordedStep) :
        Recorded (reports ++ [report]) key step ↔ Recorded reports key step := by
      rw [recorded_append]
      simp [hthrew]
    exact ⟨h.id, fun key a ha step => (h.fields key a ha step).trans (hsame key step).symm,
      fun key hnone step hrecorded => h.unborn key hnone step ((hsame key step).1 hrecorded), h.explained⟩
  case isTrue hanswered =>
    cases action_of_call hstep (htells hanswered) with
    | same hactions hrecords =>
      constructor
      · rw [hactions]
        exact h.id
      · rw [hactions]
        exact fun key a ha step => (h.fields key a ha step).trans (recorded_append_of_none hrecords).symm
      · rw [hactions]
        exact fun key hnone step hrecorded => h.unborn key hnone step ((recorded_append_of_none hrecords).1 hrecorded)
      · rw [hactions]
        exact h.explained
    | created key a hnew hactions hid hkey hfields hstate hrecords =>
      constructor
      · intro key' a' ha'
        rw [hactions] at ha'
        split at ha'
        · next hsame =>
          cases ha'
          exact ⟨hkey.trans hsame.symm, hid⟩
        · exact h.id key' a' ha'
      · intro key' a' ha' step
        rw [hactions] at ha'
        rw [recorded_append_of_none hrecords]
        split at ha'
        · next hsame =>
          cases ha'
          rw [hsame]
          exact iff_of_false (hfields step) (h.unborn key hnew step)
        · exact h.fields key' a' ha' step
      · intro key' hnone step
        rw [hactions] at hnone
        rw [recorded_append_of_none hrecords]
        split at hnone
        · cases hnone
        · exact h.unborn key' hnone step
      · intro key' a' ha'
        rw [hactions] at ha'
        split at ha'
        · cases ha'
          exact explained_of_not_fails (by rw [hstate]; rfl)
        · exact h.explained key' a' ha'
    | changed key a b hold hactions hkey hfields hexplained hrecords =>
      have hid := h.id key a hold
      constructor
      · intro key' a' ha'
        rw [hactions] at ha'
        split at ha'
        · next hsame =>
          cases ha'
          rw [hsame]
          refine ⟨hkey.trans hid.1, ?_⟩
          have hsecond := congrArg Prod.snd hkey
          exact fun hempty => hid.2 (hsecond.symm.trans hempty)
        · exact h.id key' a' ha'
      · intro key' a' ha' step
        rw [hactions] at ha'
        rw [recorded_append]
        split at ha'
        · next hsame =>
          cases ha'
          rw [hsame, hfields step, h.fields key a hold step]
          simp [hanswered]
        · next hother =>
          rw [h.fields key' a' ha' step]
          exact (or_iff_left fun hnew => hother (hrecords key' step hnew.2)).symm
      · intro key' hnone step
        rw [hactions] at hnone
        rw [recorded_append]
        split at hnone
        · cases hnone
        · next hother => exact not_or.2 ⟨h.unborn key' hnone step, fun hnew => hother (hrecords key' step hnew.2)⟩
      · intro key' a' ha'
        rw [hactions] at ha'
        split at ha'
        · cases ha'
          exact hexplained
        · exact h.explained key' a' ha'

/-! ## Chains -/

variable {w : Written} {actionId tenantId : Text} {r : PlatformActionReconstruction}

theorem causedBy_eq_none (h : w.causationEventId = none) : (causalChainStep w).causedBy = none := by
  have hget : (w.payload.get causationField).val = .undefined := by
    show (w.payload.fields.lookup causationField).getD .undefined = .undefined
    rw [show w.payload.fields.lookup causationField = none from h, Option.getD_none]
  simp only [causalChainStep, JsValue.asText?, hget]

theorem causedBy_of_causes {cause : Written} (h : Causes cause w) :
    (causalChainStep w).causedBy = some (causalChainStep cause).eventId := by
  have hget : (w.payload.get causationField).val = .str (outboxLedgerEventId cause.outboxId) := by
    show (w.payload.fields.lookup causationField).getD .undefined = _
    rw [show w.payload.fields.lookup causationField = some _ from h, Option.getD_some]
  simp only [causalChainStep, JsValue.asText?, hget]

/-- The records of an action that has an id, as they are listed. -/
theorem listOutbox_written (h : actionId ≠ []) :
    (listOutbox s tenantId actionId).map OutboxRecord.written = s.writtenOf (tenantId, actionId) := by
  rw [DurableStore.writtenOf, DurableStore.written, List.filter_map, listOutbox]
  congr 1
  refine List.filter_congr fun r _ => ?_
  rw [Bool.eq_iff_iff, Bool.and_eq_true]
  simp only [Function.comp_apply, Written.actionKey, OutboxRecord.written, h, Prod.mk.injEq, decide_false, Bool.false_or,
    decide_eq_true_eq]
  exact decide_eq_true_iff.symm

/-- What a reconstruction reads. -/
theorem reconstruct_ok (h : reconstructPlatformAction s tenantId actionId = .ok r) :
    ∃ a, s.action (tenantId, actionId) = some a ∧
      r.gate = a.gateDecision ∧ r.capabilityId = a.capabilityId ∧ r.sentinelSessionId = a.sentinelSessionId ∧
      r.execution = bothSet a.executionId a.resultHash ∧ r.verification = bothSet a.vadAtomId a.vadFinalState ∧
      r.finalStatus = a.state ∧ r.error = bothSet a.errorCode a.errorMessage ∧
      (actionId ≠ [] → r.causalChain = (s.writtenOf (tenantId, actionId)).map causalChainStep) := by
  unfold reconstructPlatformAction at h
  split at h
  · cases h
  · next action hrow =>
    cases h
    refine ⟨action.toPlatformAction, by rw [DurableStore.action, hrow, Option.map_some], rfl, rfl, rfl, rfl, rfl, rfl, rfl,
      fun hid => ?_⟩
    rw [← listOutbox_written hid, List.map_map]
    rfl

/-- A reported action whose records are a chain is reconstructed faithfully. -/
theorem faithful_of_reported (hreported : Reported reports s) (hcausal : Causal s)
    (h : reconstructPlatformAction s tenantId actionId = .ok r) : Faithful reports s (tenantId, actionId) r := by
  obtain ⟨a, ha, hgate, hcapability, hsession, hexecution, hverification, hstatus, herror, hchain⟩ := reconstruct_ok h
  have hid : actionId ≠ [] := by
    obtain ⟨hkey, hid⟩ := hreported.id _ a ha
    have hsecond := congrArg Prod.snd hkey
    exact fun hempty => hid (hsecond.trans hempty)
  have hfields := hreported.fields _ a ha
  have hrecords := hchain hid
  constructor
  case gate => rw [hgate]; exact hfields .gate
  case capability => rw [hcapability]; exact hfields .capability
  case session => rw [hsession]; exact hfields .session
  case execution => rw [hexecution]; exact hfields .execution
  case verification => rw [hverification]; exact hfields .verification
  case error => rw [hstatus, herror]; exact hreported.explained _ a ha
  case records => exact hrecords
  case first =>
    intro step hstep
    rw [hrecords, List.head?_map, Option.map_eq_some_iff] at hstep
    obtain ⟨w, hw, rfl⟩ := hstep
    exact causedBy_eq_none (hcausal.first _ w hw)
  case linked =>
    rw [hrecords, List.isChain_map]
    exact (hcausal.linked _).imp fun _ _ => causedBy_of_causes

/-- What is reconstructed of an action in a later store goes on from what is reconstructed in an earlier one. -/
theorem causalChain_prefix (hwritten : s.written <+: t.written) (hid : actionId ≠ []) {r' : PlatformActionReconstruction}
    (h : reconstructPlatformAction s tenantId actionId = .ok r) (h' : reconstructPlatformAction t tenantId actionId = .ok r') :
    r.causalChain <+: r'.causalChain := by
  obtain ⟨_, -, -, -, -, -, -, -, -, hchain⟩ := reconstruct_ok h
  obtain ⟨_, -, -, -, -, -, -, -, -, hchain'⟩ := reconstruct_ok h'
  rw [hchain hid, hchain' hid]
  exact (hwritten.filter _).map _

/-- A run of reported calls that meet the condition where they answer. -/
def TellingStep (sha256 : Text → Text) (s : DurableStore) (report : CallReport) (t : DurableStore) : Prop :=
  ReportedStep sha256 s report t ∧ (report.answered = true → report.call.Tells s)

theorem causal_of_telling (hrun : Run (TellingStep sha256) s reports t) (h : Causal s) :
    Causal t ∧ s.written <+: t.written := by
  have hsteps := hrun.map (fun report => (report.context, report.call)) fun _ _ _ hstep => hstep.1.storeStep
  exact causal_of_steps hsteps h

/-- **Reconstruction**, in every state of a run whose calls tell what they do: what is reconstructed of an action is what was
recorded of it, its end is explained, and its records are one chain in the order they were created. -/
theorem reconstructed_of_run {sha256 : Text → Text} {before after : List CallReport} {s t : DurableStore}
    (hbefore : Run (TellingStep sha256) .empty before s) (hafter : Run (TellingStep sha256) s after t) {tenantId actionId : Text}
    {r : PlatformActionReconstruction} (hr : reconstructPlatformAction t tenantId actionId = .ok r) :
    Faithful (before ++ after) t (tenantId, actionId) r ∧
      ∀ earlier, reconstructPlatformAction s tenantId actionId = .ok earlier → earlier.causalChain <+: r.causalChain := by
  have hrun := hbefore.trans hafter
  have hreported : Reported (before ++ after) t :=
    hrun.trace_invariant (fun _ _ _ _ hstep => reported_step hstep.1 hstep.2) reported_empty
  refine ⟨faithful_of_reported hreported (causal_of_telling hrun causal_empty).1 hr, fun earlier hearlier => ?_⟩
  obtain ⟨a, ha, -⟩ := reconstruct_ok hr
  obtain ⟨hkey, hid⟩ := hreported.id _ a ha
  have hsecond := congrArg Prod.snd hkey
  have hwritten := (causal_of_telling hafter (causal_of_telling hbefore causal_empty).1).2
  exact causalChain_prefix hwritten (fun hempty => hid (hsecond.trans hempty)) hearlier hr

end

/-! ## A held action that is terminated -/

/-- An action is submitted, and held. -/
def heldReports : List CallReport :=
  (sampleLabels ++ [sampleDecisionCall .hold]).map fun label => ⟨label.1, label.2, true⟩

/-- The action as an operator reads it. -/
def heldAction : PlatformAction where
  __ := (newActionRow id sampleValidated ⟨"1", "1"⟩).toPlatformAction
  state := .held
  stateVersion := 2
  gateDecision := some ⟨"dec_1", .hold⟩

def heldTermination : CallReport :=
  ⟨sampleContext 3 "d", .terminate ⟨.operator, "t", none⟩ heldAction "not needed any more", true⟩

/-- The store after a call, if it is as reported whether it answered. -/
def CallReport.next (sha256 : Text → Text) (s : DurableStore) (report : CallReport) : Option DurableStore :=
  match report.call.run sha256 report.context s with
  | .ok () t => if report.answered then some t else none
  | .error _ t => if report.answered then none else some t

theorem reported_of_next {sha256 : Text → Text} {s t : DurableStore} {report : CallReport}
    (h : report.next sha256 s = some t) : ReportedStep sha256 s report t := by
  unfold ReportedStep
  unfold CallReport.next at h
  split at h
  · next u hrun =>
    split at h
    · next hanswered =>
      cases h
      rw [if_pos hanswered]
      exact hrun
    · cases h
  · next e u hrun =>
    split at h
    · cases h
    · next hthrew =>
      cases h
      rw [if_neg hthrew]
      exact ⟨e, hrun⟩

/-- An operator terminates a held action, with a reason, and the reconstruction shows no error. -/
theorem not_faithful_heldTermination : ∃ s r, Run (ReportedStep id) .empty (heldReports ++ [heldTermination]) s ∧
    reconstructPlatformAction s "t" "pa_1" = .ok r ∧ r.finalStatus = .terminated ∧ r.error = none := by
  have hplayed : (replay (CallReport.next id) .empty (heldReports ++ [heldTermination])).any (fun s =>
      match reconstructPlatformAction s "t" "pa_1" with
      | .ok r => decide (r.finalStatus = .terminated) && r.error.isNone
      | .error _ => false) = true := by decide +kernel
  obtain ⟨s, hs, htest⟩ := (Option.any_eq_true ..).1 hplayed
  split at htest
  · next r hr =>
    rw [Bool.and_eq_true, decide_eq_true_eq, Option.isNone_iff_eq_none] at htest
    exact ⟨s, r, (run_of_replay hs).mono fun _ _ _ => reported_of_next, hr, htest.1, htest.2⟩
  · cases htest

theorem tells_of_held : ∀ report ∈ heldReports, ∀ s : DurableStore, report.call.Tells s := by
  rintro report hreport s
  simp only [heldReports, sampleLabels, sampleCreation, sampleDecisionCall, List.map_cons, List.map_nil, List.cons_append,
    List.nil_append, List.mem_cons, List.not_mem_nil, or_false] at hreport
  rcases hreport with rfl | rfl | rfl
  · trivial
  · rfl
  · trivial

/-- Up to its termination the action is reconstructed faithfully. -/
theorem reconstructed_of_run_held : ∃ s r, Run (TellingStep id) .empty heldReports s ∧
    reconstructPlatformAction s "t" "pa_1" = .ok r ∧ Faithful heldReports s ("t", "pa_1") r ∧
    r.causalChain.map CausalChainStep.eventId = ["evt_outbox_ob_a", "evt_outbox_ob_b", "evt_outbox_ob_c"] := by
  have hplayed : (replay (CallReport.next id) .empty heldReports).any (fun s =>
      match reconstructPlatformAction s "t" "pa_1" with
      | .ok r => decide (r.causalChain.map CausalChainStep.eventId =
          ["evt_outbox_ob_a", "evt_outbox_ob_b", "evt_outbox_ob_c"])
      | .error _ => false) = true := by decide +kernel
  obtain ⟨s, hs, htest⟩ := (Option.any_eq_true ..).1 hplayed
  have htelling : Run (TellingStep id) .empty heldReports s :=
    (run_of_replay hs).within.mono fun s report t hstep =>
      ⟨reported_of_next hstep.1, fun _ => tells_of_held report hstep.2 s⟩
  split at htest
  · next r hr =>
    have hfaithful := (reconstructed_of_run htelling (.nil s) hr).1
    rw [List.append_nil] at hfaithful
    exact ⟨s, r, htelling, hr, hfaithful, of_decide_eq_true htest⟩
  · cases htest

end Tna.Platform
