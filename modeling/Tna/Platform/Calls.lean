import Tna.Lib.Transition
import Tna.Platform.Writes

/-!
# Calls of the store

Every call that can be made of the platform store, and what one that answers does to the
tables: nothing but records and runs, or one new action, or one move of one action, or a
recovery of those that were executing.
-/

namespace Tna.Platform

open Tna.Js Tna.Gate Tna.Lib

/-- A call of the store, or of the operator control on it. -/
inductive StoreCall where
  | createOrReturn (request : ValidatedRequest) (ids : NewActionIds)
  | transition (tenantId actionId : Text) (expectedVersion : Nat) (target : PlatformActionState) (eventType : Text) (emit : Bool)
  | recordCapability (tenantId actionId : Text) (expectedVersion : Nat) (capabilityId : Text)
  | recordSentinelSession (tenantId actionId : Text) (expectedVersion : Nat) (sessionId : Text)
  | recordExecutionResult (tenantId actionId : Text) (expectedVersion : Nat) (executionId resultHash : Text)
    (target : Durable.ExecutionTarget) (eventType : Text)
  | recordVerificationResult (tenantId actionId : Text) (expectedVersion : Nat) (atomId finalState : Text)
    (target : Durable.VerificationTarget) (errorCode : Option Text)
  | recordFailure (tenantId actionId : Text) (expectedVersion : Nat) (source : PlatformActionState)
    (target : Durable.FailureTarget) (errorCode errorMessage : Text)
  | recordGateDecision (tenantId actionId : Text) (expectedVersion : Nat) (decision : GateDecisionRecord)
  | claimExecution (tenantId actionId : Text) (expectedVersion : Nat) (executionId : Text)
  | finishRun (tenantId executionId : Text) (interrupted : Bool)
  | recoverInterruptedWork (uuids : Text × Text → Text)
  | resume (principal : PlatformPrincipal) (seen : PlatformAction)
  | terminate (principal : PlatformPrincipal) (seen : PlatformAction) (reason : Text)
  | claimNext (ownerId token : Text) (leaseMs : Nat)
  | markDelivered (outboxId tenantId token ledgerEventId : Text)
  | markRetry (outboxId tenantId token error : Text) (nextAttemptAt : Nat)
  | markDeadLetter (outboxId tenantId token error : Text)

/-- The statements of a call, whose answer is dropped. -/
def StoreCall.run (sha256 : Text → Text) (c : CallContext) : StoreCall → Statement Unit
  | .createOrReturn request ids => do let _ ← Platform.createOrReturn sha256 c request ids
  | .transition tenantId actionId version target eventType emit => do
    let _ ← Durable.transition c tenantId actionId version target eventType emit
  | .recordCapability tenantId actionId version capabilityId => do
    let _ ← Durable.recordCapability c tenantId actionId version capabilityId
  | .recordSentinelSession tenantId actionId version sessionId => do
    let _ ← Durable.recordSentinelSession c tenantId actionId version sessionId
  | .recordExecutionResult tenantId actionId version executionId resultHash target eventType => do
    let _ ← Durable.recordExecutionResult c tenantId actionId version executionId resultHash target eventType
  | .recordVerificationResult tenantId actionId version atomId finalState target errorCode => do
    let _ ← Durable.recordVerificationResult c tenantId actionId version atomId finalState target errorCode
  | .recordFailure tenantId actionId version source target errorCode errorMessage => do
    let _ ← Durable.recordFailure c tenantId actionId version source target errorCode errorMessage
  | .recordGateDecision tenantId actionId version decision => do
    let _ ← Durable.recordGateDecision c tenantId actionId version decision
  | .claimExecution tenantId actionId version executionId => do
    let _ ← Durable.claimExecution c tenantId actionId version executionId
  | .finishRun tenantId executionId interrupted => Durable.finishRun c tenantId executionId interrupted
  | .recoverInterruptedWork uuids => Durable.recoverInterruptedWork c uuids
  | .resume principal seen => do let _ ← Durable.resume c principal seen
  | .terminate principal seen reason => do let _ ← Durable.terminate c principal seen reason
  | .claimNext ownerId token leaseMs => do let _ ← Durable.claimNext c ownerId token leaseMs
  | .markDelivered outboxId tenantId token ledgerEventId => Durable.markDelivered c outboxId tenantId token ledgerEventId
  | .markRetry outboxId tenantId token error nextAttemptAt =>
    Durable.markRetry c outboxId tenantId token error nextAttemptAt
  | .markDeadLetter outboxId tenantId token error => Durable.markDeadLetter c outboxId tenantId token error

/-- The action a call of the store moves. -/
def StoreCall.moves : StoreCall → Option (Text × Text)
  | .transition tenantId actionId .. | .recordCapability tenantId actionId .. | .recordSentinelSession tenantId actionId ..
  | .recordExecutionResult tenantId actionId .. | .recordVerificationResult tenantId actionId ..
  | .recordFailure tenantId actionId .. | .recordGateDecision tenantId actionId .. => some (tenantId, actionId)
  | .resume _ seen | .terminate _ seen _ => some seen.key
  | _ => none

/-- The call is one a dispatcher makes. -/
def StoreCall.ofDispatcher : StoreCall → Bool
  | .claimNext .. | .markDelivered .. | .markRetry .. | .markDeadLetter .. => true
  | _ => false

/-- One call, made of a store as it is: it answers, or it throws. -/
def StoreStep (sha256 : Text → Text) (s : DurableStore) (label : CallContext × StoreCall) (t : DurableStore) : Prop :=
  label.2.run sha256 label.1 s = .ok () t ∨ ∃ e, label.2.run sha256 label.1 s = .error e t

/-! ## Effects -/

/-- What a call that answers does. -/
inductive CallEffect (s t : DurableStore) : Prop where
  | quiet (h : Relation.ReflTransGen Quiet s t)
  | inserted {row : ActionRow} (hnew : s.row row.key = none) (hstate : row.state = .received) (hversion : row.stateVersion = 0)
    (hlast : row.lastOutboxId = none) (h : Relation.ReflTransGen Quiet { s with actions := s.actions ++ [row] } t)
  | moved {selected : ActionRow → Bool} {change : PlatformAction → PlatformAction} (hmovable : Movable s selected change)
    (h : Relation.ReflTransGen Quiet (s.moved selected change) t)
  | recovered (h : Relation.ReflTransGen Interrupts s t)

section
variable {s t : DurableStore}

theorem changes_of_quiets (h : Relation.ReflTransGen Quiet s t) : Relation.ReflTransGen Change s t :=
  Relation.ReflTransGen.mono (fun _ _ => Change.quiet) _ _ h

/-- What a call does it does change by change. -/
theorem CallEffect.changes (h : CallEffect s t) : Relation.ReflTransGen Change s t := by
  cases h with
  | quiet h => exact changes_of_quiets h
  | inserted hnew hstate hversion hlast h => exact (changes_of_quiets h).head (.inserted hnew hstate hversion hlast)
  | moved hmovable h => exact (changes_of_quiets h).head (.moved hmovable)
  | recovered h => exact Relation.ReflTransGen.mono (fun _ _ => Interrupts.change) _ _ h

variable {c : CallContext} {tenantId actionId : Text}

variable {selected : PlatformAction → Bool} {a seen : PlatformAction} {change : PlatformAction → PlatformAction}
  {evidence : ActionRow → Option Evidence} {guard : PlatformAction → Option PlatformError} {source target : PlatformActionState}
  {expectedVersion nextAttemptAt : Nat} {message eventType executionId reason token ledgerEventId outboxId error : Text}
  {principal : PlatformPrincipal} {sha256 : Text → Text} {α : Type} {call : StoreCall} {e : PlatformError} {m : Statement α}

/-- The row a move selects under the key of the row that was read is that row. -/
theorem eq_of_selected {current r : ActionRow} (hrow : s.row (tenantId, actionId) = some current) (hr : s.row r.key = some r)
    (h : (r.key = (tenantId, actionId) && selected r.toPlatformAction) = true) :
    r = current ∧ selected r.toPlatformAction = true := by
  rw [Bool.and_eq_true, decide_eq_true_eq] at h
  rw [h.1, hrow] at hr
  exact ⟨(Option.some.inj hr).symm, h.2⟩

/-- **A change of state is one move**, where the guard lets only moves through that are allowed. -/
theorem write_effect (h : write c tenantId actionId guard selected change evidence s = .ok a t)
    (hkey : ∀ a, (change a).key = a.key) (hallowed : ∀ a, guard a = none → (change a).state ∈ allowedTransitions a.state)
    (hdecision : ∀ a, guard a = none → a.state ≠ .authorizing → (change a).gateDecision = a.gateDecision)
    (hcapability : ∀ a, guard a = none → a.state ≠ .authorized → (change a).capabilityId = a.capabilityId) :
    CallEffect s t := by
  obtain ⟨current, hrow, hguard, hwritten, -⟩ := write_ok h
  have hmovable : Movable s (fun r => r.key = (tenantId, actionId) && selected r.toPlatformAction) change := by
    refine ⟨hkey, ?_, ?_, ?_⟩
    · intro r hr hselected
      obtain ⟨rfl, -⟩ := eq_of_selected hrow hr hselected
      exact hallowed _ hguard
    · intro r hr hselected
      obtain ⟨rfl, -⟩ := eq_of_selected hrow hr hselected
      exact hdecision _ hguard
    · intro r hr hselected
      obtain ⟨rfl, -⟩ := eq_of_selected hrow hr hselected
      exact hcapability _ hguard
  rcases hwritten with ⟨rfl, -⟩ | ⟨e, -, hnew, rfl⟩
  · exact .moved hmovable .refl
  · have hrow' := row_moved hkey (fun r => r.key = (tenantId, actionId) && selected r.toPlatformAction) (tenantId, actionId) (s := s)
    rw [hrow, Option.map_some] at hrow'
    exact .moved hmovable (.single (.enqueued e c.now c.uuid hrow' hnew))

theorem allows_none (h : PlatformStore.allows source target = none) : target ∈ allowedTransitions source := by
  unfold PlatformStore.allows at h
  split at h
  · next hallowed => exact of_decide_eq_true hallowed
  · cases h

/-- A move from a state that is neither due the decision nor the capability, which writes neither. -/
theorem write_effect_of_expects
    (h : write c tenantId actionId (PlatformStore.expects source expectedVersion message) selected change evidence s = .ok a t)
    (hkey : ∀ a, (change a).key = a.key) (hstate : ∀ a, (change a).state = target)
    (hallowed : target ∈ allowedTransitions source)
    (hdecision : source ≠ .authorizing → ∀ a, (change a).gateDecision = a.gateDecision)
    (hcapability : source ≠ .authorized → ∀ a, (change a).capabilityId = a.capabilityId) : CallEffect s t := by
  refine write_effect h hkey ?_ ?_ ?_
  · intro a hguard
    rw [hstate, (PlatformStore.expects_none hguard).1]
    exact hallowed
  · intro a hguard hne
    rw [(PlatformStore.expects_none hguard).1] at hne
    exact hdecision hne a
  · intro a hguard hne
    rw [(PlatformStore.expects_none hguard).1] at hne
    exact hcapability hne a

/-! ## Calls that move an action -/

theorem transition_effect {emit : Bool}
    (h : Durable.transition c tenantId actionId expectedVersion target eventType emit s = .ok a t) : CallEffect s t := by
  refine write_effect h (fun _ => rfl) ?_ (fun _ _ _ => rfl) (fun _ _ _ => rfl)
  intro a hguard
  split at hguard
  · cases hguard
  · exact allows_none hguard

theorem recordCapability_effect {capabilityId : Text}
    (h : Durable.recordCapability c tenantId actionId expectedVersion capabilityId s = .ok a t) : CallEffect s t :=
  write_effect_of_expects h (fun _ => rfl) (fun _ => rfl) (by decide) (fun _ _ => rfl) (fun hne => absurd rfl hne)

theorem recordSentinelSession_effect {sessionId : Text}
    (h : Durable.recordSentinelSession c tenantId actionId expectedVersion sessionId s = .ok a t) : CallEffect s t :=
  write_effect_of_expects h (fun _ => rfl) (fun _ => rfl) (by decide) (fun _ _ => rfl) (fun _ _ => rfl)

theorem recordVerificationResult_effect {atomId finalState : Text} {target : Durable.VerificationTarget}
    {errorCode : Option Text}
    (h : Durable.recordVerificationResult c tenantId actionId expectedVersion atomId finalState target errorCode s = .ok a t) :
    CallEffect s t := by
  refine write_effect_of_expects h (fun _ => rfl) (fun _ => rfl) ?_ (fun _ _ => rfl) (fun _ _ => rfl)
  cases target <;> decide

theorem recordGateDecision_effect {decision : GateDecisionRecord}
    (h : Durable.recordGateDecision c tenantId actionId expectedVersion decision s = .ok a t) : CallEffect s t := by
  refine write_effect_of_expects h (fun _ => rfl) (fun _ => rfl) ?_ (fun hne => absurd rfl hne) (fun _ _ => rfl)
  cases decision.decision <;> decide

/-- A call that expects a state and then asks the table of the state machine. -/
theorem guarded_none (h : (match PlatformStore.expects source expectedVersion message a with
      | some e => some e
      | none => PlatformStore.allows source target) = none) : a.state = source ∧ target ∈ allowedTransitions source := by
  split at h
  · cases h
  · next hguard => exact ⟨(PlatformStore.expects_none hguard).1, allows_none h⟩

theorem recordExecutionResult_effect {resultHash : Text} {target : Durable.ExecutionTarget}
    (h : Durable.recordExecutionResult c tenantId actionId expectedVersion executionId resultHash target eventType s =
      .ok a t) : CallEffect s t := by
  refine write_effect h (fun _ => rfl) ?_ (fun _ _ _ => rfl) (fun _ _ _ => rfl)
  intro a hguard
  obtain ⟨hstate, hallowed⟩ := guarded_none hguard
  rw [hstate]
  exact hallowed

theorem recordFailure_effect {target : Durable.FailureTarget} {errorCode errorMessage : Text}
    (h : Durable.recordFailure c tenantId actionId expectedVersion source target errorCode errorMessage s = .ok a t) :
    CallEffect s t := by
  refine write_effect h (fun _ => rfl) ?_ (fun _ _ _ => rfl) (fun _ _ _ => rfl)
  intro a hguard
  obtain ⟨hstate, hallowed⟩ := guarded_none hguard
  rw [hstate]
  exact hallowed

/-! ## The other calls -/

theorem createOrReturn_effect {request : ValidatedRequest} {ids : NewActionIds}
    (h : createOrReturn sha256 c request ids s = .ok a t) : CallEffect s t := by
  rcases createOrReturn_ok h with rfl | ⟨hnew, hrecord, rfl⟩
  · exact .quiet .refl
  · have hrow : ({ s with actions := s.actions ++ [newActionRow sha256 request ids] } : DurableStore).row
        (newActionRow sha256 request ids).key = some (newActionRow sha256 request ids) := by
      rw [row_inserted, hnew, Option.none_or, if_pos rfl]
    exact .inserted hnew rfl rfl rfl (.single (.enqueued _ c.now c.uuid hrow hrecord))

theorem claimExecution_effect {run : RunRow}
    (h : Durable.claimExecution c tenantId actionId expectedVersion executionId s = .ok run t) : CallEffect s t := by
  obtain ⟨current, hrow, hstate, -, -, -, hrecord, rfl⟩ := Durable.claimExecution_ok h
  have hmovable : Movable s (fun r => r.key = (tenantId, actionId) && stillAt .monitoring expectedVersion r.toPlatformAction)
      fun a => { a with state := .executing } := by
    refine ⟨fun _ => rfl, ?_, fun _ _ _ _ => rfl, fun _ _ _ _ => rfl⟩
    intro r hr hselected
    obtain ⟨rfl, -⟩ := eq_of_selected hrow hr hselected
    rw [hstate]
    show PlatformActionState.executing ∈ allowedTransitions .monitoring
    decide
  have hrow' := row_moved hmovable.key
    (fun r => r.key = (tenantId, actionId) && stillAt .monitoring expectedVersion r.toPlatformAction) (tenantId, actionId) (s := s)
  rw [hrow, Option.map_some] at hrow'
  exact .moved hmovable ((Relation.ReflTransGen.single (.runs _)).tail (.enqueued _ c.now c.uuid hrow' hrecord))

theorem recoverInterruptedWork_effect {uuids : Text × Text → Text} {a : Unit}
    (h : Durable.recoverInterruptedWork c uuids s = .ok a t) : CallEffect s t := by
  obtain ⟨u, -, hinterrupts, rfl⟩ := Durable.recoverInterruptedWork_ok h
  exact .recovered (hinterrupts.tail (.quiet (.records _ _ fun _ _ _ => rfl)))

/-- A sequence that drops the answer of its first part, and answers. -/
theorem answered_of_dropped (h : (do let _ ← m) s = .ok () t) : ∃ a, m s = .ok a t := by
  obtain ⟨a, u, hm, hpure⟩ := bind_answered h
  cases hpure
  exact ⟨a, hm⟩

theorem mark_ok {selected : OutboxRecord → Bool} {change : OutboxRecord → OutboxRecord} {u : Unit}
    (h : c.tx (do let _ ← updateOutbox selected change) s = .ok u t) :
    t = { s with outbox := Rows.update selected change s.outbox } := by
  obtain ⟨n, u, hupdate, hpure⟩ := bind_answered (body_of_tx h)
  obtain ⟨-, rfl⟩ := updateOutbox_ok hupdate
  cases hpure
  rfl

theorem markDelivered_ok {u : Unit} (h : Durable.markDelivered c outboxId tenantId token ledgerEventId s = .ok u t) :
    ledgerEventId = outboxLedgerEventId outboxId ∧
      t = { s with
        outbox := Rows.update (Durable.fenced tenantId outboxId token) (fun r => { r with
          status := .delivered, ledgerEventId := ledgerEventId, lastError := none, claimExpiresAt := none }) s.outbox } := by
  unfold Durable.markDelivered at h
  split at h
  · cases h
  · next hid => exact ⟨not_not.1 hid, mark_ok h⟩

theorem markRetry_ok {u : Unit} (h : Durable.markRetry c outboxId tenantId token error nextAttemptAt s = .ok u t) :
    t = { s with
      outbox := Rows.update (Durable.fenced tenantId outboxId token) (fun r => { r with
        status := .failed, lastError := some error, nextAttemptAt := nextAttemptAt, claimExpiresAt := none }) s.outbox } :=
  mark_ok h

theorem markDeadLetter_ok {u : Unit} (h : Durable.markDeadLetter c outboxId tenantId token error s = .ok u t) :
    t = { s with
      outbox := Rows.update (Durable.fenced tenantId outboxId token) (fun r => { r with
        status := .deadLetter, lastError := some error, claimExpiresAt := none }) s.outbox } :=
  mark_ok h

theorem markDelivered_effect {u : Unit} (h : Durable.markDelivered c outboxId tenantId token ledgerEventId s = .ok u t) :
    CallEffect s t := by
  obtain ⟨rfl, rfl⟩ := markDelivered_ok h
  refine .quiet (.single (.records _ _ fun r hfenced hdeterministic => ?_))
  have hkey : r.key = (tenantId, outboxId) := by
    rw [Durable.fenced, Bool.and_eq_true, Bool.and_eq_true, decide_eq_true_eq] at hfenced
    exact hfenced.1.1
  have hsame : outboxLedgerEventId outboxId = r.ledgerEventId := by
    rw [hdeterministic]
    exact congrArg outboxLedgerEventId (congrArg Prod.snd hkey).symm
  rw [hsame]
  rfl

/-! ## Answers -/

/-- What an answer comes from: a statement that is the call's alone, a change of the state of the action that the call moves,
or changes of records. -/
inductive CallAnswer (sha256 : Text → Text) (c : CallContext) (s t : DurableStore) : StoreCall → Prop where
  | created {request : ValidatedRequest} {ids : NewActionIds} {a : PlatformAction}
    (h : createOrReturn sha256 c request ids s = .ok a t) : CallAnswer sha256 c s t (.createOrReturn request ids)
  | wrote {call : StoreCall} {tenantId actionId : Text} {guard : PlatformAction → Option PlatformError}
    {selected : PlatformAction → Bool} {change : PlatformAction → PlatformAction} {evidence : ActionRow → Option Evidence}
    {a : PlatformAction} (h : write c tenantId actionId guard selected change evidence s = .ok a t)
    (hkey : ∀ a, (change a).key = a.key) (horigin : ∀ a, (change a).origin = a.origin)
    (hmoves : call.moves = some (tenantId, actionId)) (heffect : CallEffect s t) : CallAnswer sha256 c s t call
  | claimed {tenantId actionId executionId : Text} {version : Nat} {run : RunRow}
    (h : Durable.claimExecution c tenantId actionId version executionId s = .ok run t) :
    CallAnswer sha256 c s t (.claimExecution tenantId actionId version executionId)
  | finished {tenantId executionId : Text} {interrupted : Bool}
    (h : Durable.finishRun c tenantId executionId interrupted s = .ok () t) :
    CallAnswer sha256 c s t (.finishRun tenantId executionId interrupted)
  | recovered {uuids : Text × Text → Text} (h : Durable.recoverInterruptedWork c uuids s = .ok () t) :
    CallAnswer sha256 c s t (.recoverInterruptedWork uuids)
  | marked {call : StoreCall} (hcall : call.ofDispatcher = true) (h : t = { s with outbox := t.outbox })
    (heffect : CallEffect s t) : CallAnswer sha256 c s t call

theorem answer_of_resume (h : Durable.resume c principal seen s = .ok a t) :
    CallAnswer sha256 c s t (.resume principal seen) := by
  unfold Durable.resume at h
  split at h
  · cases h
  · split at h
    · cases h
    · exact .wrote h (fun _ => rfl) (fun _ => rfl) rfl (transition_effect h)

theorem answer_of_terminate (h : Durable.terminate c principal seen reason s = .ok a t) :
    CallAnswer sha256 c s t (.terminate principal seen reason) := by
  unfold Durable.terminate at h
  split at h
  · cases h
  · split at h
    · exact .wrote h (fun _ => rfl) (fun _ => rfl) rfl (transition_effect h)
    · split at h
      · cases h
      · exact .wrote h (fun _ => rfl) (fun _ => rfl) rfl (recordFailure_effect h)

theorem answer_of_claimNext {ownerId : Text} {leaseMs : Nat} {claimed : Option OutboxRecord}
    (h : Durable.claimNext c ownerId token leaseMs s = .ok claimed t) :
    CallAnswer sha256 c s t (.claimNext ownerId token leaseMs) := by
  rcases Durable.claimNext_ok h with ⟨-, rfl | ⟨row, -, -, rfl⟩⟩ | ⟨row, -, -, rfl⟩
  · exact .marked rfl rfl (.quiet .refl)
  · exact .marked rfl rfl (.quiet (.single (.records _ _ fun _ _ _ => rfl)))
  · exact .marked rfl rfl (.quiet (.single (.records _ _ fun _ _ _ => rfl)))

/-- **Inversion of a call that answers.** -/
theorem answer_of_call (h : call.run sha256 c s = .ok () t) : CallAnswer sha256 c s t call := by
  cases call with
  | finishRun => exact .finished h
  | recoverInterruptedWork => exact .recovered h
  | markDelivered =>
    have heffect := markDelivered_effect h
    obtain ⟨-, rfl⟩ := markDelivered_ok h
    exact .marked rfl rfl heffect
  | markRetry =>
    rw [markRetry_ok h]
    exact .marked rfl rfl (.quiet (.single (.records _ _ fun _ _ _ => rfl)))
  | markDeadLetter =>
    rw [markDeadLetter_ok h]
    exact .marked rfl rfl (.quiet (.single (.records _ _ fun _ _ _ => rfl)))
  | createOrReturn => exact .created (answered_of_dropped h).choose_spec
  | claimExecution => exact .claimed (answered_of_dropped h).choose_spec
  | resume => exact answer_of_resume (answered_of_dropped h).choose_spec
  | terminate => exact answer_of_terminate (answered_of_dropped h).choose_spec
  | claimNext => exact answer_of_claimNext (answered_of_dropped h).choose_spec
  | transition =>
    obtain ⟨_, h⟩ := answered_of_dropped h
    exact .wrote h (fun _ => rfl) (fun _ => rfl) rfl (transition_effect h)
  | recordCapability =>
    obtain ⟨_, h⟩ := answered_of_dropped h
    exact .wrote h (fun _ => rfl) (fun _ => rfl) rfl (recordCapability_effect h)
  | recordSentinelSession =>
    obtain ⟨_, h⟩ := answered_of_dropped h
    exact .wrote h (fun _ => rfl) (fun _ => rfl) rfl (recordSentinelSession_effect h)
  | recordExecutionResult =>
    obtain ⟨_, h⟩ := answered_of_dropped h
    exact .wrote h (fun _ => rfl) (fun _ => rfl) rfl (recordExecutionResult_effect h)
  | recordVerificationResult =>
    obtain ⟨_, h⟩ := answered_of_dropped h
    exact .wrote h (fun _ => rfl) (fun _ => rfl) rfl (recordVerificationResult_effect h)
  | recordFailure =>
    obtain ⟨_, h⟩ := answered_of_dropped h
    exact .wrote h (fun _ => rfl) (fun _ => rfl) rfl (recordFailure_effect h)
  | recordGateDecision =>
    obtain ⟨_, h⟩ := answered_of_dropped h
    exact .wrote h (fun _ => rfl) (fun _ => rfl) rfl (recordGateDecision_effect h)

/-- **What a call that answers does.** -/
theorem effect_of_call (h : call.run sha256 c s = .ok () t) : CallEffect s t := by
  have hanswer := answer_of_call h
  clear h
  cases hanswer with
  | created h => exact createOrReturn_effect h
  | wrote _ _ _ _ heffect => exact heffect
  | claimed h => exact claimExecution_effect h
  | finished h =>
    rw [Durable.finishRun_ok h]
    exact .quiet (.single (.runs _))
  | recovered h => exact recoverInterruptedWork_effect h
  | marked _ _ heffect => exact heffect

/-! ## Errors -/

/-- A sequence that throws after its first part has answered throws in the rest of it. -/
theorem eq_of_dropped_error (hm : ∀ e t, m s = .error e t → t = s) (h : (do let _ ← m) s = .error e t) : t = s := by
  simp only [bind, EStateM.bind] at h
  split at h
  · cases h
  · next e' u hm' =>
    cases h
    exact hm _ _ hm'

theorem write_error (h : write c tenantId actionId guard selected change evidence s = .error e t) : t = s :=
  eq_of_tx_error h

theorem resume_error (h : Durable.resume c principal seen s = .error e t) : t = s := by
  unfold Durable.resume at h
  split at h
  · cases h
    rfl
  · split at h
    · cases h
      rfl
    · exact write_error h

theorem terminate_error (h : Durable.terminate c principal seen reason s = .error e t) : t = s := by
  unfold Durable.terminate at h
  split at h
  · cases h
    rfl
  · split at h
    · exact write_error h
    · split at h
      · cases h
        rfl
      · exact write_error h

theorem markDelivered_error (h : Durable.markDelivered c outboxId tenantId token ledgerEventId s = .error e t) : t = s := by
  unfold Durable.markDelivered at h
  split at h
  · cases h
    rfl
  · exact eq_of_tx_error h

theorem markRetry_error (h : Durable.markRetry c outboxId tenantId token error nextAttemptAt s = .error e t) : t = s := by
  unfold Durable.markRetry at h
  exact eq_of_tx_error h

theorem markDeadLetter_error (h : Durable.markDeadLetter c outboxId tenantId token error s = .error e t) : t = s := by
  unfold Durable.markDeadLetter at h
  exact eq_of_tx_error h

/-- **A call that throws leaves everything as it was.** -/
theorem eq_of_call_error (h : call.run sha256 c s = .error e t) : t = s := by
  cases call with
  | createOrReturn => exact eq_of_dropped_error (fun _ _ => eq_of_tx_error) h
  | transition => exact eq_of_dropped_error (fun _ _ => write_error) h
  | recordCapability => exact eq_of_dropped_error (fun _ _ => write_error) h
  | recordSentinelSession => exact eq_of_dropped_error (fun _ _ => write_error) h
  | recordExecutionResult => exact eq_of_dropped_error (fun _ _ => write_error) h
  | recordVerificationResult => exact eq_of_dropped_error (fun _ _ => write_error) h
  | recordFailure => exact eq_of_dropped_error (fun _ _ => write_error) h
  | recordGateDecision => exact eq_of_dropped_error (fun _ _ => write_error) h
  | claimExecution => exact eq_of_dropped_error (fun _ _ => eq_of_tx_error) h
  | finishRun => exact eq_of_tx_error h
  | recoverInterruptedWork => exact eq_of_tx_error h
  | resume => exact eq_of_dropped_error (fun _ _ => resume_error) h
  | terminate => exact eq_of_dropped_error (fun _ _ => terminate_error) h
  | claimNext => exact eq_of_dropped_error (fun _ _ => eq_of_tx_error) h
  | markDelivered => exact markDelivered_error h
  | markRetry => exact markRetry_error h
  | markDeadLetter => exact markDeadLetter_error h

/-- A step is a call that answered with its effect, or one that threw and did nothing. -/
theorem effect_of_step {label : CallContext × StoreCall} (h : StoreStep sha256 s label t) : CallEffect s t := by
  rcases h with h | ⟨e, h⟩
  · exact effect_of_call h
  · rw [eq_of_call_error h]
    exact .quiet .refl

/-- The store after a call. -/
def StoreCall.next (sha256 : Text → Text) (c : CallContext) (call : StoreCall) (s : DurableStore) : DurableStore :=
  match call.run sha256 c s with
  | .ok _ t => t
  | .error _ t => t

/-- Every call can be made of every store. -/
theorem storeStep_next (sha256 : Text → Text) (c : CallContext) (call : StoreCall) (s : DurableStore) :
    StoreStep sha256 s (c, call) (call.next sha256 c s) := by
  unfold StoreStep StoreCall.next
  cases h : call.run sha256 c s with
  | ok a t => exact .inl rfl
  | error e t => exact .inr ⟨e, rfl⟩

/-- The calls of a list, made one after another. -/
def storeAfter (sha256 : Text → Text) (labels : List (CallContext × StoreCall)) (s : DurableStore) : DurableStore :=
  labels.foldl (fun s label => label.2.next sha256 label.1 s) s

theorem run_storeAfter (sha256 : Text → Text) (labels : List (CallContext × StoreCall)) (s : DurableStore) :
    Run (StoreStep sha256) s labels (storeAfter sha256 labels s) := by
  induction labels generalizing s with
  | nil => exact .nil s
  | cons label labels ih => exact .cons (storeStep_next sha256 label.1 label.2 s) (ih _)

end

/-! ## Samples -/

/-- A request of a tenant. -/
def sampleValidated : ValidatedRequest where
  requestId := "req_1"
  tenantId := "t"
  agentId := "agent_1"
  action := "database.read"
  tool := "reader"
  operation := "read"
  resource := "/data"
  input := ⟨[], Value.distinct_nil⟩
  requiresVerification := false
  document := ⟨[], Value.distinct_nil⟩

/-- A call at a time, whose transaction commits. -/
def sampleContext (now : Nat) (uuid : Text) : CallContext := ⟨now, uuid, true⟩

def sampleCreation : CallContext × StoreCall := (sampleContext 0 "a", .createOrReturn sampleValidated ⟨"1", "1"⟩)

end Tna.Platform
