import Tna.Ledger.Secrets
import Tna.Platform.LedgerEvents
import Tna.Platform.Orchestration
import Tna.Platform.Request

/-!
# The shape of what is stored

The ids of the store are made of UUIDs, the request of every action was accepted, and every
record is of an event type that the Ledger has a name for. Whatever texts the calls bring
along, every lifecycle of an action keeps it so.
-/

namespace Tna.Platform

open Tna.Js Tna.Gate Tna.Lib Tna.Ledger

/-! ## The invariant -/

/-- What `randomUUID()` returns, as far as it matters here. -/
def IsUuid (t : Text) : Prop := IsSafeId t 36

instance (t : Text) : Decidable (IsUuid t) := inferInstanceAs (Decidable (IsSafeId t 36))

def IsOutboxId (id : Text) : Prop := ∃ uuid, IsUuid uuid ∧ id = Text.ofAscii "ob_" ++ uuid

structure ActionRow.Wellformed (r : ActionRow) : Prop where
  request : r.request.SafeIds
  tenant : r.tenantId = r.request.tenantId
  id : ∃ uuid, IsUuid uuid ∧ r.platformActionId = Text.ofAscii "pa_" ++ uuid
  correlation : ∃ uuid, IsUuid uuid ∧ r.correlationId = Text.ofAscii "corr_" ++ uuid
  last : ∀ id, r.lastOutboxId = some id → IsOutboxId id

structure OutboxRecord.Wellformed (r : OutboxRecord) : Prop where
  id : IsOutboxId r.outboxId
  cause : ∀ cause, (r.payload.get causationField).asText? = some cause →
    ∃ id, IsOutboxId id ∧ cause = outboxLedgerEventId id
  mapped : ∃ type, Platform.eventType r = .ok type

structure DurableStore.Wellformed (s : DurableStore) : Prop where
  rows : ∀ r ∈ s.actions, r.Wellformed
  records : ∀ r ∈ s.outbox, r.Wellformed
  /-- The action of a record is there. -/
  actions : ∀ r ∈ s.outbox, s.row r.actionKey ≠ none

theorem wellformed_empty : DurableStore.empty.Wellformed where
  rows := List.forall_mem_nil _
  records := List.forall_mem_nil _
  actions := List.forall_mem_nil _

/-! ## Evidence -/

/-- The Ledger has an event type for it. -/
def Evidence.Mapped (e : Evidence) : Prop :=
  (directEventTypes.lookup e.eventType).isSome = true ∨
    e.eventType = Text.ofAscii "PLATFORM_ACTION_STATE_CHANGED" ∧
      ∃ target, (e.fields.get "to_state").val = .str target ∧ (changeEventTypes.lookup target).isSome = true

section
variable {s t : DurableStore} {tenantId actionId : Text}

/-- The cause that is written into a payload changes no other field. -/
theorem payload_get (e : Evidence) (prior : Option Text) {k : Text} (h : k ≠ causationField) :
    ((e.payload prior).get k).val = (e.fields.get k).val := by
  cases prior with
  | none => rfl
  | some prior => exact Value.get_setFields_of_ne _ _ h

variable {e : Evidence} {uuid executionId : Text} {change : PlatformAction → PlatformAction} {selected : OutboxRecord → Bool}
  {row : ActionRow} {source target : PlatformActionState} {a seen : PlatformAction} {expectedVersion now : Nat}
  {principal : PlatformPrincipal} {uuids : Text × Text → Text}

theorem eventType_of_mapped (h : e.Mapped) (outboxId : Text) (prior : Option Text) (now : Nat) :
    ∃ type, eventType (newOutboxRecord outboxId tenantId actionId e.eventType (e.payload prior) now) = .ok type := by
  have htarget : ((e.payload prior).get "to_state").val = (e.fields.get "to_state").val := payload_get e prior (by decide)
  unfold eventType
  simp only [newOutboxRecord, htarget]
  cases hdirect : directEventTypes.lookup e.eventType with
  | some type => exact ⟨type, rfl⟩
  | none =>
    rcases h with hmapped | ⟨hchange, target, hval, hmapped⟩
    · rw [hdirect] at hmapped
      cases hmapped
    · obtain ⟨type, htype⟩ := Option.isSome_iff_exists.1 hmapped
      simp only [hchange, hval, htype, if_true]
      exact ⟨type, rfl⟩

/-- The record of an enqueueing is well formed. -/
theorem wellformed_newRecord (h : e.Mapped) (huuid : IsUuid uuid) {prior : Option Text}
    (hprior : ∀ id, prior = some id → IsOutboxId id) (now : Nat) :
    (newOutboxRecord (Text.ofAscii "ob_" ++ uuid) tenantId actionId e.eventType (e.payload prior) now).Wellformed where
  id := ⟨uuid, huuid, rfl⟩
  cause := by
    intro cause hcause
    have hval : ((e.payload prior).get causationField).val = .str cause := JsValue.asText?_eq_some hcause
    simp only [JsObject.get, Value.get, causation_payload] at hval
    cases prior with
    | none => cases hval
    | some id =>
      cases hval
      exact ⟨id, hprior id rfl, rfl⟩
  mapped := eventType_of_mapped h _ prior now

/-! ## Statements -/

theorem DurableStore.Wellformed.enqueued (h : s.Wellformed) (he : e.Mapped) (huuid : IsUuid uuid)
    (hrow : s.row (tenantId, actionId) ≠ none) (now : Nat) : (s.enqueued tenantId actionId e now uuid).Wellformed where
  rows := by
    intro r hr
    obtain ⟨r', hr', rfl⟩ := List.mem_map.1 hr
    split
    · exact { h.rows r' hr' with last := fun id hid => ⟨uuid, huuid, (Option.some.inj hid).symm⟩ }
    · exact h.rows r' hr'
  records := by
    intro r hr
    rcases List.mem_append.1 hr with hr | hr
    · exact h.records r hr
    · rw [List.mem_singleton.1 hr]
      refine wellformed_newRecord he huuid ?_ now
      intro id hid
      obtain ⟨row, hrow', hlast⟩ := Option.bind_eq_some_iff.1 hid
      exact (h.rows row (Rows.mem_of_row hrow')).last id hlast
  actions := by
    intro r hr
    rw [row_enqueued, ne_eq, Option.map_eq_none_iff]
    rcases List.mem_append.1 hr with hr | hr
    · exact h.actions r hr
    · rw [List.mem_singleton.1 hr]
      exact hrow

theorem row_moved_ne_none (change : PlatformAction → PlatformAction) {key : Text × Text} (hkey : ∀ a, (change a).key = a.key)
    (selected : ActionRow → Bool) (h : s.row key ≠ none) : (s.moved selected change).row key ≠ none := by
  rw [row_moved hkey, ne_eq, Option.map_eq_none_iff]
  exact h

/-- A change of actions that is no change of who they are and what was requested. -/
theorem DurableStore.Wellformed.moved (h : s.Wellformed) (selected : ActionRow → Bool) (hkey : ∀ a, (change a).key = a.key)
    (horigin : ∀ a, (change a).origin = a.origin) :
    (s.moved selected change).Wellformed where
  rows := by
    intro r hr
    obtain ⟨r', hr', rfl⟩ := List.mem_map.1 hr
    have hwellformed := h.rows r' hr'
    split
    · have htenant : (change r'.toPlatformAction).tenantId = r'.tenantId := congrArg Prod.fst (hkey _)
      have hid : (change r'.toPlatformAction).platformActionId = r'.platformActionId := congrArg Prod.snd (hkey _)
      have hcorrelation : (change r'.toPlatformAction).correlationId = r'.correlationId := congrArg Prod.fst (horigin _)
      have hrequest : (change r'.toPlatformAction).request = r'.request := congrArg (fun o => o.2.2) (horigin _)
      refine ⟨?_, ?_, ?_, ?_, hwellformed.last⟩
      · show (change r'.toPlatformAction).request.SafeIds
        rw [hrequest]
        exact hwellformed.request
      · show (change r'.toPlatformAction).tenantId = (change r'.toPlatformAction).request.tenantId
        rw [htenant, hrequest]
        exact hwellformed.tenant
      · show ∃ uuid, IsUuid uuid ∧ (change r'.toPlatformAction).platformActionId = _
        rw [hid]
        exact hwellformed.id
      · show ∃ uuid, IsUuid uuid ∧ (change r'.toPlatformAction).correlationId = _
        rw [hcorrelation]
        exact hwellformed.correlation
    · exact hwellformed
  records := h.records
  actions := fun r hr => row_moved_ne_none change hkey selected (h.actions r hr)

/-- A change of records that is no change of what they say. -/
theorem DurableStore.Wellformed.records_update (h : s.Wellformed) {change : OutboxRecord → OutboxRecord}
    (hkey : ∀ r, (change r).actionKey = r.actionKey) (hid : ∀ r, (change r).outboxId = r.outboxId)
    (htype : ∀ r, (change r).eventType = r.eventType) (hpayload : ∀ r, (change r).payload = r.payload) :
    ({ s with outbox := Rows.update selected change s.outbox } : DurableStore).Wellformed where
  rows := h.rows
  records := by
    intro r hr
    obtain ⟨r', hr', rfl⟩ := List.mem_map.1 hr
    have hwellformed := h.records r' hr'
    split
    · refine ⟨?_, ?_, ?_⟩
      · rw [hid]
        exact hwellformed.id
      · rw [hpayload]
        exact hwellformed.cause
      · unfold eventType
        rw [htype, hpayload]
        exact hwellformed.mapped
    · exact hwellformed
  actions := by
    intro r hr
    obtain ⟨r', hr', rfl⟩ := List.mem_map.1 hr
    have hkey' : (if selected r' then change r' else r').actionKey = r'.actionKey := by
      split
      · exact hkey r'
      · rfl
    rw [hkey']
    exact h.actions r' hr'

theorem DurableStore.Wellformed.runs (h : s.Wellformed) (runs : List RunRow) : ({ s with runs := runs } : DurableStore).Wellformed :=
  ⟨h.rows, h.records, h.actions⟩

/-- An action is moved, runs are written, and a record is enqueued. -/
theorem DurableStore.Wellformed.moved_enqueued (h : s.Wellformed) (selected : ActionRow → Bool)
    (change : PlatformAction → PlatformAction) (hkey : ∀ a, (change a).key = a.key)
    (horigin : ∀ a, (change a).origin = a.origin) (runs : List RunRow) (e : Evidence) (he : e.Mapped) (huuid : IsUuid uuid)
    (hrow : s.row (tenantId, actionId) ≠ none) (now : Nat) :
    (({ s.moved selected change with runs := runs } : DurableStore).enqueued tenantId actionId e now uuid).Wellformed :=
  ((h.moved selected hkey horigin).runs runs).enqueued he huuid (row_moved_ne_none change hkey selected hrow) now

theorem DurableStore.Wellformed.inserted (h : s.Wellformed) (hrow : row.Wellformed) :
    ({ s with actions := s.actions ++ [row] } : DurableStore).Wellformed where
  rows := by
    intro r hr
    rcases List.mem_append.1 hr with hr | hr
    · exact h.rows r hr
    · rw [List.mem_singleton.1 hr]
      exact hrow
  records := h.records
  actions := by
    intro r hr
    obtain ⟨r', hr'⟩ := Option.ne_none_iff_exists'.1 (h.actions r hr)
    rw [row_inserted, hr', Option.some_or]
    exact Option.some_ne_none r'

/-! ## Calls -/

variable {c : CallContext}

theorem mapped_change {current : ActionRow} {eventType : Text} {more : List (Text × Value)}
    {hdistinct : (Value.obj (changeFields current source target more)).distinct = true}
    {hmore : causationField ∉ more.map Prod.fst} (h : (directEventTypes.lookup eventType).isSome = true ∨
      eventType = Text.ofAscii "PLATFORM_ACTION_STATE_CHANGED" ∧ (changeEventTypes.lookup target.name).isSome = true) :
    (changeEvidence current source target eventType more hdistinct hmore).Mapped :=
  h.imp_right fun ⟨htype, htarget⟩ => ⟨htype, target.name, rfl, htarget⟩

theorem wellformed_write {guard : PlatformAction → Option PlatformError} {selected : PlatformAction → Bool}
    {evidence : ActionRow → Option Evidence} (h : write c tenantId actionId guard selected change evidence s = .ok a t)
    (hs : s.Wellformed) (huuid : IsUuid c.uuid) (hkey : ∀ a, (change a).key = a.key)
    (horigin : ∀ a, (change a).origin = a.origin) (hmapped : ∀ current e, evidence current = some e → e.Mapped) :
    t.Wellformed := by
  obtain ⟨current, hrow, -, hwritten, -⟩ := write_ok h
  have hmoved := hs.moved (fun r => r.key = (tenantId, actionId) && selected r.toPlatformAction) hkey horigin
  rcases hwritten with ⟨rfl, -⟩ | ⟨e, he, -, rfl⟩
  · exact hmoved
  · refine hmoved.enqueued (hmapped current e he) huuid (row_moved_ne_none change hkey _ ?_) c.now
    rw [hrow]
    exact Option.some_ne_none current

theorem wellformed_transition {eventType : Text} {emit : Bool}
    (h : Durable.transition c tenantId actionId expectedVersion target eventType emit s = .ok a t) (hs : s.Wellformed)
    (huuid : IsUuid c.uuid) (htype : (directEventTypes.lookup eventType).isSome = true ∨
      eventType = Text.ofAscii "PLATFORM_ACTION_STATE_CHANGED" ∧ (changeEventTypes.lookup target.name).isSome = true) :
    t.Wellformed := by
  refine wellformed_write h hs huuid (fun _ => rfl) (fun _ => rfl) ?_
  intro current e he
  split at he
  · cases he
    exact mapped_change htype
  · cases he

theorem wellformed_recordExecutionResult {resultHash : Text} {target : Durable.ExecutionTarget} {eventType : Text}
    (h : Durable.recordExecutionResult c tenantId actionId expectedVersion executionId resultHash target eventType s = .ok a t)
    (hs : s.Wellformed) (huuid : IsUuid c.uuid) (htype : (directEventTypes.lookup eventType).isSome = true) : t.Wellformed := by
  refine wellformed_write h hs huuid (fun _ => rfl) (fun _ => rfl) ?_
  intro current e he
  cases he
  exact mapped_change (.inl htype)

theorem wellformed_recordFailure {target : Durable.FailureTarget} {errorCode errorMessage : Text}
    (h : Durable.recordFailure c tenantId actionId expectedVersion source target errorCode errorMessage s = .ok a t)
    (hs : s.Wellformed) (huuid : IsUuid c.uuid) : t.Wellformed := by
  refine wellformed_write h hs huuid (fun _ => rfl) (fun _ => rfl) ?_
  intro current e he
  cases he
  exact mapped_change (.inl (by cases target <;> decide))

theorem wellformed_recordGateDecision {decision : GateDecisionRecord}
    (h : Durable.recordGateDecision c tenantId actionId expectedVersion decision s = .ok a t) (hs : s.Wellformed)
    (huuid : IsUuid c.uuid) : t.Wellformed := by
  refine wellformed_write h hs huuid (fun _ => rfl) (fun _ => rfl) ?_
  intro current e he
  cases he
  exact mapped_change (.inl (by cases decision.decision <;> decide))

theorem wellformed_recordVerificationResult {atomId finalState : Text} {target : Durable.VerificationTarget}
    {errorCode : Option Text}
    (h : Durable.recordVerificationResult c tenantId actionId expectedVersion atomId finalState target errorCode s = .ok a t)
    (hs : s.Wellformed) (huuid : IsUuid c.uuid) : t.Wellformed := by
  refine wellformed_write h hs huuid (fun _ => rfl) (fun _ => rfl) ?_
  intro current e he
  cases he
  exact mapped_change (.inl (by decide))

theorem wellformed_createOrReturn {sha256 : Text → Text} {request : ValidatedRequest} {ids : NewActionIds}
    (h : createOrReturn sha256 c request ids s = .ok a t) (hs : s.Wellformed) (huuid : IsUuid c.uuid)
    (hrequest : request.SafeIds) (haction : IsUuid ids.actionUuid) (hcorrelation : IsUuid ids.correlationUuid) :
    t.Wellformed := by
  rcases createOrReturn_ok h with rfl | ⟨hnew, -, rfl⟩
  · exact hs
  · have hrow : (newActionRow sha256 request ids).Wellformed :=
      ⟨hrequest, rfl, ⟨_, haction, rfl⟩, ⟨_, hcorrelation, rfl⟩, fun id hid => by cases hid⟩
    refine (hs.inserted hrow).enqueued (.inl rfl) huuid ?_ c.now
    have hthere : ({ s with actions := s.actions ++ [newActionRow sha256 request ids] } : DurableStore).row
        (newActionRow sha256 request ids).key = some (newActionRow sha256 request ids) := by
      rw [row_inserted, hnew, Option.none_or, if_pos rfl]
    exact Option.ne_none_iff_exists'.2 ⟨_, hthere⟩

theorem wellformed_claimExecution {run : RunRow}
    (h : Durable.claimExecution c tenantId actionId expectedVersion executionId s = .ok run t) (hs : s.Wellformed)
    (huuid : IsUuid c.uuid) : t.Wellformed := by
  obtain ⟨current, hrow, -, -, -, -, -, rfl⟩ := Durable.claimExecution_ok h
  refine hs.moved_enqueued _ (fun a => { a with state := .executing }) (fun _ => rfl) (fun _ => rfl) _
    (Durable.claimedEvidence current executionId) (.inl rfl) huuid ?_ c.now
  rw [hrow]
  exact Option.some_ne_none current

theorem wellformed_finishRun {interrupted : Bool} {a : Unit}
    (h : Durable.finishRun c tenantId executionId interrupted s = .ok a t) (hs : s.Wellformed) : t.Wellformed := by
  rw [Durable.finishRun_ok h]
  exact hs.runs _

theorem wellformed_resume (h : Durable.resume c principal seen s = .ok a t) (hs : s.Wellformed) (huuid : IsUuid c.uuid) :
    t.Wellformed := by
  unfold Durable.resume at h
  split at h
  · cases h
  · split at h
    · cases h
    · exact wellformed_transition h hs huuid (.inr ⟨rfl, by decide⟩)

theorem wellformed_terminate {reason : Text} (h : Durable.terminate c principal seen reason s = .ok a t) (hs : s.Wellformed)
    (huuid : IsUuid c.uuid) : t.Wellformed := by
  unfold Durable.terminate at h
  split at h
  · cases h
  · split at h
    · exact wellformed_transition h hs huuid (.inl (by decide))
    · split at h
      · cases h
      · exact wellformed_recordFailure h hs huuid

theorem wellformed_recoverAction {a : Unit} (h : Durable.recoverAction now uuids row s = .ok a t) (hs : s.Wellformed)
    (huuid : ∀ key, IsUuid (uuids key)) (hrow : s.row row.key ≠ none) :
    t.Wellformed ∧ ∀ key, s.row key ≠ none → t.row key ≠ none := by
  obtain ⟨n, u, hupdate, hrest⟩ := bind_answered h
  obtain ⟨-, rfl⟩ := updateActions_ok hupdate
  obtain ⟨m, v, hruns, henqueue⟩ := bind_answered hrest
  obtain ⟨-, rfl⟩ := updateRuns_ok hruns
  obtain ⟨-, rfl⟩ := enqueue_ok henqueue
  refine ⟨hs.moved_enqueued _ (fun a => { a with state := .indeterminate }) (fun _ => rfl) (fun _ => rfl) _
    (Durable.recoveryEvidence row) (.inl rfl) (huuid row.key) hrow now, ?_⟩
  intro key hkey
  rw [row_enqueued, ne_eq, Option.map_eq_none_iff]
  exact row_moved_ne_none (fun a => { a with state := .indeterminate }) (fun _ => rfl) _ hkey

theorem wellformed_recoverActions {rows : List ActionRow} {a : Unit} (h : Durable.recoverActions now uuids rows s = .ok a t)
    (hs : s.Wellformed) (huuid : ∀ key, IsUuid (uuids key)) (hrows : ∀ row ∈ rows, s.row row.key ≠ none) : t.Wellformed := by
  induction rows generalizing s with
  | nil =>
    cases h
    exact hs
  | cons row rows ih =>
    obtain ⟨_, u, hfirst, hrest⟩ := bind_answered h
    obtain ⟨hrow, hrows⟩ := List.forall_mem_cons.1 hrows
    obtain ⟨hu, hkept⟩ := wellformed_recoverAction hfirst hs huuid hrow
    exact ih hrest hu fun row' hrow' => hkept _ (hrows row' hrow')

theorem wellformed_recovery {a : Unit} (h : Durable.recoverInterruptedWork c uuids s = .ok a t) (hs : s.Wellformed)
    (huuid : ∀ key, IsUuid (uuids key)) : t.Wellformed := by
  obtain ⟨u, hactions, -, rfl⟩ := Durable.recoverInterruptedWork_ok h
  have hu := wellformed_recoverActions hactions hs huuid fun row hrow => Rows.row_ne_none_of_mem (List.mem_of_mem_filter hrow)
  exact hu.records_update (fun _ => rfl) (fun _ => rfl) (fun _ => rfl) fun _ => rfl

theorem wellformed_claimNext {ownerId token : Text} {leaseMs : Nat} {claimed : Option OutboxRecord}
    (h : Durable.claimNext c ownerId token leaseMs s = .ok claimed t) (hs : s.Wellformed) : t.Wellformed := by
  rcases Durable.claimNext_ok h with ⟨-, rfl | ⟨row, -, -, rfl⟩⟩ | ⟨row, -, -, rfl⟩
  · exact hs
  · exact hs.records_update (fun _ => rfl) (fun _ => rfl) (fun _ => rfl) fun _ => rfl
  · exact hs.records_update (fun _ => rfl) (fun _ => rfl) (fun _ => rfl) fun _ => rfl

theorem wellformed_mark {change : OutboxRecord → OutboxRecord} {a : Unit}
    (h : c.tx (do let _ ← updateOutbox selected change) s = .ok a t) (hs : s.Wellformed)
    (hkey : ∀ r, (change r).actionKey = r.actionKey) (hid : ∀ r, (change r).outboxId = r.outboxId)
    (htype : ∀ r, (change r).eventType = r.eventType) (hpayload : ∀ r, (change r).payload = r.payload) : t.Wellformed := by
  obtain ⟨n, hupdate⟩ := answered_of_dropped (body_of_tx h)
  obtain ⟨-, rfl⟩ := updateOutbox_ok hupdate
  exact hs.records_update hkey hid htype hpayload

end

/-! ## Lifecycles -/

/-- The calls of operators and dispatchers. -/
def StoreCall.ofOthers : StoreCall → Bool
  | .resume .. | .terminate .. | .claimNext .. | .markDelivered .. | .markRetry .. | .markDeadLetter .. => true
  | _ => false

/-- The ids that are drawn are UUIDs. -/
def OrchestratorAnswer.Uuids : OrchestratorAnswer → Prop
  | .store c | .claim c _ | .decided c _ => IsUuid c.uuid
  | .submit c ids => IsUuid c.uuid ∧ IsUuid ids.actionUuid ∧ IsUuid ids.correlationUuid
  | _ => True

/-- A step as the platform takes it: requests are accepted before they are submitted, ids are UUIDs, and but for the
orchestrators only operators, dispatchers and a restart call the store. -/
def OrchestrationLabel.Lifecycle {P : Type} : OrchestrationLabel P → Prop
  | .begin _ (.submitAndRun _ request) => request.Accepted
  | .begin _ _ => True
  | .own _ a _ => a.Uuids
  | .call c m => m.ofOthers = true ∧ IsUuid c.uuid
  | .restart _ uuids => ∀ key, IsUuid (uuids key)
  | .broker => True

/-- A call that has not yet stored its request has one that was accepted. -/
def OrchestratorPc.Accepted : OrchestratorPc → Prop
  | .submitting _ request => request.Accepted
  | _ => True

/-- What holds after a step of a call. -/
structure OrchestratorEffect.Wellformed (e : OrchestratorEffect) : Prop where
  store : e.store.Wellformed
  pc : e.pc.Accepted

section
variable {s : DurableStore} {k : Broker.Store}

variable {pc : OrchestratorPc}

theorem wellformed_called {α : Type} {result : EStateM.Result PlatformError DurableStore α} {next : α → OrchestratorPc}
    {caught : PlatformError → OrchestratorPc} (hs : s.Wellformed) (herror : ∀ e t, result = .error e t → t = s)
    (hok : ∀ a t, result = .ok a t → t.Wellformed) : (OrchestratorEffect.called k result next caught).store.Wellformed := by
  cases result with
  | ok a t => exact hok a t rfl
  | error e t =>
    have hsame := herror e t rfl
    subst hsame
    exact hs

theorem OrchestratorPc.Onward.accepted (h : pc.Onward) : pc.Accepted := by
  cases pc with
  | submitting => exact h.elim
  | _ => trivial

/-- **A step of a call** keeps the store well formed. -/
theorem wellformed_of_step {o : OrchestratorProcess} {a : OrchestratorAnswer} {e : OrchestratorEffect}
    (h : orchestratorStep s k o pc a = some e) (hs : s.Wellformed) (hpc : pc.Accepted) (ha : a.Uuids) : e.Wellformed := by
  refine ⟨?_, (onward_of_orchestratorStep h).accepted⟩
  unfold orchestratorStep at h
  split at h
  · next principal request c ids =>
    obtain ⟨huuid, haction, hcorrelation⟩ := ha
    obtain ⟨raw, hvalid⟩ := hpc
    split at h
    · cases h
      exact hs
    · cases h
      refine wellformed_called hs (fun _ _ => eq_of_tx_error) fun a t hok => ?_
      exact wellformed_createOrReturn hok hs huuid (validate_ok hvalid) haction hcorrelation
  · cases h
    exact hs
  · cases h
    refine wellformed_called hs (fun _ _ => write_error) fun a t hok => ?_
    exact wellformed_transition hok hs ha (.inr ⟨rfl, by decide⟩)
  · cases h
    exact wellformed_called hs (fun _ _ => write_error) fun a t hok => wellformed_recordGateDecision hok hs ha
  · cases h
    exact hs
  · cases h
    unfold issueFor
    dsimp only
    split
    · exact hs
    · exact hs
  · cases h
    refine wellformed_called hs (fun _ _ => write_error) fun a t hok => ?_
    exact wellformed_write hok hs ha (fun _ => rfl) (fun _ => rfl) fun _ _ he => by cases he
  · cases h
    exact hs
  · cases h
    exact hs
  · cases h
    refine wellformed_called hs (fun _ _ => write_error) fun a t hok => ?_
    exact wellformed_write hok hs ha (fun _ => rfl) (fun _ => rfl) fun _ _ he => by cases he
  · cases h
    exact wellformed_called hs (fun _ _ => eq_of_tx_error) fun a t hok => wellformed_claimExecution hok hs ha
  · cases h
    exact hs
  · cases h
    exact wellformed_called hs (fun _ _ => write_error) fun a t hok => wellformed_recordFailure hok hs ha
  · cases h
    exact hs
  · cases h
    exact hs
  · obtain ⟨e', -, rfl⟩ := Option.map_eq_some_iff.1 h
    exact hs
  · cases h
    exact wellformed_called hs (fun _ _ => write_error) fun a t hok => wellformed_recordFailure hok hs ha
  · cases h
    exact wellformed_called hs (fun _ _ => eq_of_tx_error) fun a t hok => wellformed_finishRun hok hs
  · cases h
    exact hs
  · cases h
    refine wellformed_called hs (fun _ _ => write_error) fun a t hok => ?_
    refine wellformed_recordExecutionResult hok hs ha ?_
    split <;> decide
  · cases h
    exact wellformed_called hs (fun _ _ => eq_of_tx_error) fun a t hok => wellformed_finishRun hok hs
  · cases h
    exact hs
  · cases h
    exact wellformed_called hs (fun _ _ => write_error) fun a t hok => wellformed_recordVerificationResult hok hs ha
  · cases h
    exact hs
  · cases h
    exact hs
  · cases h
    exact hs
  · cases h
    exact hs
  · cases h

/-- A call of an operator or a dispatcher. -/
theorem wellformed_of_others {sha256 : Text → Text} {c : CallContext} {call : StoreCall} {t : DurableStore}
    (hcall : call.ofOthers = true) (h : StoreStep sha256 s (c, call) t) (hs : s.Wellformed) (huuid : IsUuid c.uuid) :
    t.Wellformed := by
  rcases h with h | ⟨e, h⟩
  · cases call with
    | resume =>
      obtain ⟨_, h⟩ := answered_of_dropped h
      exact wellformed_resume h hs huuid
    | terminate =>
      obtain ⟨_, h⟩ := answered_of_dropped h
      exact wellformed_terminate h hs huuid
    | claimNext =>
      obtain ⟨_, h⟩ := answered_of_dropped h
      exact wellformed_claimNext h hs
    | markDelivered =>
      simp only [StoreCall.run, Durable.markDelivered] at h
      split at h
      · cases h
      · exact wellformed_mark h hs (fun _ => rfl) (fun _ => rfl) (fun _ => rfl) fun _ => rfl
    | markRetry => exact wellformed_mark h hs (fun _ => rfl) (fun _ => rfl) (fun _ => rfl) fun _ => rfl
    | markDeadLetter => exact wellformed_mark h hs (fun _ => rfl) (fun _ => rfl) (fun _ => rfl) fun _ => rfl
    | _ => cases hcall
  · rw [eq_of_call_error h]
    exact hs

end

/-! ## Runs -/

section
variable {P : Type} [DecidableEq P] {sha256 : Text → Text} {processes : P → OrchestratorProcess} {w w' : Orchestration P}

/-- The store is well formed, and what is about to be stored was accepted. -/
structure Orchestration.Wellformed (w : Orchestration P) : Prop where
  store : w.store.Wellformed
  pcs : ∀ p, (w.pcs p).Accepted

theorem Orchestration.Wellformed.goto (h : w.Wellformed) (p : P) {pc : OrchestratorPc} (hpc : pc.Accepted) :
    (w.goto p pc).Wellformed where
  store := h.store
  pcs := by
    intro q
    by_cases hq : q = p
    · subst hq
      rw [goto_pcs_self]
      exact hpc
    · rw [goto_pcs_of_ne w hq]
      exact h.pcs q

/-- **Step**: what the platform does keeps everything well formed. -/
theorem wellformed_of_orchestrationStep {label : OrchestrationLabel P} (h : OrchestrationStep sha256 processes w label w')
    (hlabel : label.Lifecycle) (hw : w.Wellformed) : w'.Wellformed := by
  cases h with
  | @begin p call hfree =>
    refine hw.goto p ?_
    cases call with
    | submitAndRun principal request => exact hlabel
    | authorize => trivial
    | run => trivial
  | @own p a e hfresh h =>
    obtain ⟨hstore, hpc⟩ := wellformed_of_step h hw.store (hw.pcs p) hlabel
    have hstored : (⟨e.store, e.broker, w.pcs⟩ : Orchestration P).Wellformed := ⟨hstore, hw.pcs⟩
    exact hstored.goto p hpc
  | call hcall h => exact ⟨wellformed_of_others hlabel.1 h hw.store hlabel.2, hw.pcs⟩
  | restart h =>
    refine ⟨?_, fun _ => trivial⟩
    rcases h with h | ⟨e, h⟩
    · exact wellformed_recovery h hw.store hlabel
    · rw [eq_of_call_error h]
      exact hw.store
  | broker h => exact ⟨hw.store, hw.pcs⟩

/-- **Everything stays well formed**, in every state that a lifecycle leads to. -/
theorem wellformed_of_run {labels : List (OrchestrationLabel P)} {k : Broker.Store}
    (hrun : Run (OrchestrationStep sha256 processes) (.initial P .empty k) labels w)
    (hlabels : ∀ label ∈ labels, label.Lifecycle) : w.Wellformed := by
  have hinitial : (Orchestration.initial P .empty k).Wellformed := ⟨wellformed_empty, fun _ => trivial⟩
  refine hrun.guarded_invariant (C := OrchestrationLabel.Lifecycle) ?_ hinitial hlabels
  intro w label w' hstep hlabel hw
  exact wellformed_of_orchestrationStep hstep hlabel hw

end

end Tna.Platform
