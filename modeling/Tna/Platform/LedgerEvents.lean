import Tna.Ledger.Identity
import Tna.Platform.Causality

/-!
# Outbox records as Ledger events

`toLedgerEvent` of the dispatcher. The ids of the event are those of the record, its cause
and its decision are what the record itself captured, and only what never changes is read
from the action.
-/

namespace Tna.Platform

open Tna.Js Tna.Lib Tna.Ledger

/-! ## The translation -/

/-- A text the payload captured under a name, flat or in its `gate_decision`. -/
def capturedText (name : Text) (payload : JsObject) : Option Text :=
  match (payload.get name).val with
  | .str t => some t
  | _ =>
    match (payload.get "gate_decision").val with
    | .obj fields =>
      match Value.get fields name with
      | .str t => some t
      | _ => none
    | _ => none

def capturedDecisionIdFromPayload (payload : JsObject) : Option Text := capturedText "decision_id" payload

def capturedPolicyHashFromPayload (payload : JsObject) : Option Text := capturedText "policy_hash" payload

/-- `...(value ? { [k]: value } : {})`. -/
def fieldIfSet (k : Text) : Option Text → List (Text × Value)
  | some (c :: t) => [(k, .str (c :: t))]
  | _ => []

/-- The event types that are taken over as they are, or renamed. -/
def directEventTypes : List (Text × EventType) :=
  [("PLATFORM_ACTION_RECEIVED", .platformActionReceived), ("PLATFORM_ACTION_AUTHORIZED", .platformActionAuthorized),
    ("PLATFORM_ACTION_BLOCKED", .platformActionBlocked), ("PLATFORM_ACTION_HELD", .platformActionHeld),
    ("PLATFORM_EXECUTION_CLAIMED", .platformExecutionStarted),
    ("PLATFORM_EXECUTION_INDETERMINATE_RECOVERY", .platformActionIndeterminate),
    ("PLATFORM_EXECUTION_COMPLETED", .platformExecutionCompleted),
    ("PLATFORM_VERIFICATION_STARTED", .platformVerificationStarted),
    ("PLATFORM_VERIFICATION_COMPLETED", .platformVerificationCompleted),
    ("PLATFORM_ACTION_COMPLETED", .platformActionCompleted), ("PLATFORM_ACTION_FAILED", .platformActionFailed),
    ("PLATFORM_ACTION_TERMINATED", .platformActionTerminated), ("PLATFORM_ACTION_INDETERMINATE", .platformActionIndeterminate)]

/-- The event types of a change of state, by the state that was reached. -/
def changeEventTypes : List (Text × EventType) :=
  [("AUTHORIZED", .platformActionAuthorized), ("BLOCKED", .platformActionBlocked), ("HELD", .platformActionHeld),
    ("AUTHORIZING", .platformActionReceived), ("COMPLETED", .platformActionCompleted),
    ("INDETERMINATE", .platformActionIndeterminate)]

def eventType (record : OutboxRecord) : Except PlatformError EventType :=
  let unmapped : PlatformError := .platform .evidenceDegraded (Text.ofAscii "No Ledger mapping for outbox event " ++ record.eventType)
  match directEventTypes.lookup record.eventType with
  | some mapped => .ok mapped
  | none =>
    if record.eventType = Text.ofAscii "PLATFORM_ACTION_STATE_CHANGED" then
      match (record.payload.get "to_state").val with
      | .str target =>
        match changeEventTypes.lookup target with
        | some mapped => .ok mapped
        | none => .error unmapped
      | _ => .error unmapped
    else .error unmapped

/-- The authority the event is under. -/
def eventAuthority (action : ActionRow) (record : OutboxRecord) : List (Text × Value) :=
  ([("agent_id", .str action.request.agentId), ("action", .str action.request.action), ("tool", .str action.request.tool),
    ("resource", .str action.request.resource), ("operation", .str action.request.operation)] : List (Text × Value)) ++
    fieldIfSet "decision_id" (capturedDecisionIdFromPayload record.payload) ++
    fieldIfSet "policy_hash" (capturedPolicyHashFromPayload record.payload)

/-- The fields of the event of a record. -/
def eventFields (action : ActionRow) (record : OutboxRecord) (type : EventType) : List (Text × Value) :=
  ([("version", .str "1.0"), ("event_id", .str (outboxLedgerEventId record.outboxId)), ("event_type", .str type.name),
    ("tenant_id", .str action.tenantId), ("stream_id", .str (Text.ofAscii "platform:" ++ action.platformActionId)),
    ("correlation_id", .str action.correlationId)] : List (Text × Value)) ++
    fieldIfSet "causation_id" (record.payload.get causationField).asText? ++
    ([("actor", .obj [("type", .str "AGENT"), ("id", .str action.request.agentId)]), ("source_component", .str "platform"),
      ("authority_context", .obj (eventAuthority action record)),
      ("payload", (record.payload.set "input_hash" (.ofText action.inputHash)).toValue)] : List (Text × Value))

/-- The field is there with a text, or is not. -/
theorem fieldIfSet_cases (k : Text) (t : Option Text) : fieldIfSet k t = [] ∨ ∃ u : Text, fieldIfSet k t = [(k, .str u)] := by
  match t with
  | none => exact .inl rfl
  | some [] => exact .inl rfl
  | some (c :: t) => exact .inr ⟨c :: t, rfl⟩

theorem distinct_eventAuthority (action : ActionRow) (record : OutboxRecord) :
    (Value.obj (eventAuthority action record)).distinct = true := by
  unfold eventAuthority
  rcases fieldIfSet_cases "decision_id" (capturedDecisionIdFromPayload record.payload) with hd | ⟨d, hd⟩ <;>
    rcases fieldIfSet_cases "policy_hash" (capturedPolicyHashFromPayload record.payload) with hp | ⟨p, hp⟩ <;>
    rw [hd, hp] <;> rfl

theorem distinct_eventFields (action : ActionRow) (record : OutboxRecord) (type : EventType) :
    (Value.obj (eventFields action record type)).distinct = true := by
  have hauthority := distinct_eventAuthority action record
  have hpayload : (record.payload.set "input_hash" (.ofText action.inputHash)).toValue.distinct = true :=
    (record.payload.set "input_hash" (.ofText action.inputHash)).distinct
  unfold eventFields
  generalize Value.obj (eventAuthority action record) = authority at hauthority ⊢
  generalize (record.payload.set "input_hash" (.ofText action.inputHash)).toValue = payload at hpayload ⊢
  rcases fieldIfSet_cases "causation_id" (record.payload.get causationField).asText? with hc | ⟨c, hc⟩ <;>
    rw [hc, Value.distinct, Bool.and_eq_true] <;> refine ⟨rfl, ?_⟩ <;>
    simp only [List.cons_append, List.nil_append, Value.distinctFields, hauthority, hpayload] <;>
    rfl

/-- `toLedgerEvent`, with the action as it is in the store. -/
def toLedgerEvent (s : DurableStore) (record : OutboxRecord) : Except PlatformError JsValue :=
  match s.row record.actionKey with
  | none => .error (.platform .notFound (Text.ofAscii "No platform action " ++ record.platformActionId))
  | some action =>
    match eventType record with
    | .error e => .error e
    | .ok type => .ok ⟨.obj (eventFields action record type), distinct_eventFields action record type⟩

/-- **The event of a record has the record's ids**: its tenant, and the event id that goes with its outbox id. -/
theorem toLedgerEvent_submitted {s : DurableStore} {record : OutboxRecord} {raw : JsValue} {o : JsObject}
    {identity : Text × Text} (h : toLedgerEvent s record = .ok raw) (ho : raw.asObject? = some o)
    (hsubmitted : submitted o identity) : identity = (record.tenantId, outboxLedgerEventId record.outboxId) := by
  unfold toLedgerEvent at h
  split at h
  · cases h
  · next action haction =>
    split at h
    · cases h
    · next type htype =>
      cases h
      cases ho
      obtain ⟨tenantId, eventId⟩ := identity
      obtain ⟨htenant, hevent⟩ := hsubmitted
      have htenant' : Value.str action.tenantId = .str tenantId := htenant
      have hevent' : Value.str (outboxLedgerEventId record.outboxId) = .str eventId := hevent
      have hkey : action.tenantId = record.tenantId := congrArg Prod.fst (key_of_row haction)
      cases htenant'
      cases hevent'
      exact Prod.ext hkey rfl

end Tna.Platform
