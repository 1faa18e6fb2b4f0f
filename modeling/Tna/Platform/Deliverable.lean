import Tna.Platform.Exclusive
import Tna.Platform.Wellformed

/-!
# What the Ledger makes of a record

The dispatcher translates the records of the outbox into events, and the Ledger validates
these on its own. What the platform stores passes every check of the Ledger but three that
the platform does not make: on the size of a payload, on secrets in it, and on a secret in
the resource of the request.
-/

namespace Tna.Platform

open Tna.Js Tna.Gate Tna.Lib Tna.Ledger

/-! ## The conditions -/

/-- The payload of the event of a record. -/
def eventPayload (action : ActionRow) (record : OutboxRecord) : JsObject :=
  record.payload.set "input_hash" (.ofText action.inputHash)

/-- The record is translated, and the Ledger accepts the event. -/
def Accepts (s : DurableStore) (record : OutboxRecord) : Prop :=
  ∃ raw input, toLedgerEvent s record = .ok raw ∧ validateEventInput raw = .ok input

/-- What the Ledger asks for of the texts that callers bring along. -/
structure Clean (action : ActionRow) (record : OutboxRecord) : Prop where
  size : (eventPayload action record).toValue.canonical.byteLength ≤ maxPayloadBytes
  payload : ¬ HasSecret (eventPayload action record).toValue
  resource : secretValue action.request.resource = false

/-! ## Fields -/

variable {v : JsValue} {resource : String} {record : OutboxRecord} {s : DurableStore}

theorem eq_ofText {t : Text} (h : v.val = .str t) : v = .ofText t := by
  cases v
  cases h
  rfl

theorem asObject?_of_val {o : JsObject} (h : v.val = o.toValue) : v.asObject? = some o := by
  cases v
  cases h
  rfl

section
variable {action : ActionRow} {record : OutboxRecord} {type : EventType}

variable {k t : Text}

/-- A field that may be missing is read past. -/
theorem get_fieldIfSet (before after : List (Text × Value)) {key : Text} (t : Option Text) (h : k ≠ key) :
    Value.get (before ++ fieldIfSet key t ++ after) k = Value.get (before ++ after) k := by
  rcases fieldIfSet_cases key t with hnone | ⟨u, hset⟩
  · rw [hnone, List.append_nil]
  · have hne : (k == key) = false := beq_eq_false_iff_ne.2 h
    rw [hset]
    simp only [Value.get, List.lookup_append, List.lookup_cons, hne, List.lookup_nil, Option.or_none]

/-- The event of a record, as the Ledger gets it. -/
def eventObject (action : ActionRow) (record : OutboxRecord) (type : EventType) : JsObject :=
  ⟨eventFields action record type, distinct_eventFields action record type⟩

/-- What `toLedgerEvent` returns. -/
def eventValue (action : ActionRow) (record : OutboxRecord) (type : EventType) : JsValue :=
  ⟨.obj (eventFields action record type), distinct_eventFields action record type⟩

theorem asObject?_eventValue : (eventValue action record type).asObject? = some (eventObject action record type) := rfl

/-- What is read of an event, but for its cause. -/
theorem get_eventObject (h : k ≠ Text.ofAscii "causation_id") :
    ((eventObject action record type).get k).val = Value.get
      ([("version", .str "1.0"), ("event_id", .str (outboxLedgerEventId record.outboxId)), ("event_type", .str type.name),
        ("tenant_id", .str action.tenantId), ("stream_id", .str (Text.ofAscii "platform:" ++ action.platformActionId)),
        ("correlation_id", .str action.correlationId),
        ("actor", .obj [("type", .str "AGENT"), ("id", .str action.request.agentId)]), ("source_component", .str "platform"),
        ("authority_context", .obj (eventAuthority action record)),
        ("payload", (eventPayload action record).toValue)] : List (Text × Value)) k :=
  get_fieldIfSet _ _ _ h

/-- The fields an event of a record can have. -/
def eventKeys : List Text :=
  ["version", "event_id", "event_type", "tenant_id", "stream_id", "correlation_id", "causation_id", "actor",
    "source_component", "authority_context", "payload"]

theorem get_eventObject_undefined (h : k ∉ eventKeys) : ((eventObject action record type).get k).val = .undefined := by
  rw [get_eventObject (fun hk => h (by simp [eventKeys, hk]))]
  refine congrArg (Option.getD · Value.undefined) (Value.lookup_eq_none_of_not_mem fun hmem => h ?_)
  simp only [List.map_cons, List.map_nil, List.mem_cons, List.not_mem_nil, or_false] at hmem
  simp only [eventKeys, List.mem_cons, List.not_mem_nil, or_false]
  tauto

/-- The object of the authority. -/
def authorityObject (action : ActionRow) (record : OutboxRecord) : JsObject :=
  ⟨eventAuthority action record, distinct_eventAuthority action record⟩

theorem outboxLedgerEventId_safe {id : Text} (h : IsOutboxId id) : IsSafeId (outboxLedgerEventId id) 200 := by
  obtain ⟨uuid, huuid, rfl⟩ := h
  have hprefixed : IsSafeId (Text.ofAscii "evt_outbox_") 11 := by decide
  have hob : IsSafeId (Text.ofAscii "ob_") 3 := by decide
  exact (hprefixed.append (hob.append huuid)).mono (by decide)

theorem idField_eventObject (name : String) (message : Text) {n : Nat} (ht : IsSafeId t n)
    (hval : ((eventObject action record type).get name).val = .str t) :
    Ledger.idField (eventObject action record type) name n message = .ok t := by
  unfold Ledger.idField
  rw [ht.accepted hval]

/-- The types of the events of records. -/
def platformEventTypes : List EventType := directEventTypes.map Prod.snd ++ changeEventTypes.map Prod.snd

theorem mem_of_lookup_types {types : List (Text × EventType)} (h : types.lookup k = some type) : type ∈ types.map Prod.snd := by
  induction types with
  | nil => cases h
  | cons f rest ih =>
    rw [List.lookup_cons] at h
    split at h
    · cases h
      exact List.mem_cons_self ..
    · exact List.mem_cons_of_mem _ (ih h)

theorem eventType_mem (h : eventType record = .ok type) : type ∈ platformEventTypes := by
  unfold eventType at h
  dsimp only at h
  split at h
  · next mapped hmapped =>
    cases h
    exact List.mem_append_left _ (mem_of_lookup_types hmapped)
  · split at h
    · split at h
      · split at h
        · next mapped hmapped =>
          cases h
          exact List.mem_append_right _ (mem_of_lookup_types hmapped)
        · cases h
      · cases h
    · cases h

theorem member_platformEventTypes : ∀ type ∈ platformEventTypes,
    member eventTypes EventType.name (.ofText type.name) = some type := by decide +kernel

theorem assertComplete_platform (h : type ∈ platformEventTypes) (ac sc ec art : Option JsObject) :
    assertComplete type ac sc ec art = .ok () := by
  simp only [platformEventTypes, directEventTypes, changeEventTypes, List.map_cons, List.map_nil, List.cons_append,
    List.nil_append, List.mem_cons, List.not_mem_nil, or_false] at h
  rcases h with rfl | rfl | rfl | rfl | rfl | rfl | rfl | rfl | rfl | rfl | rfl | rfl | rfl | rfl | rfl | rfl | rfl | rfl | rfl <;> rfl

/-! ## The checks that pass -/

theorem actorField_eventObject (haction : action.Wellformed) : ∃ actor, actorField (eventObject action record type) = .ok actor := by
  have hval : ((eventObject action record type).get "actor").val =
      .obj [("type", .str "AGENT"), ("id", .str action.request.agentId)] := get_eventObject (by decide)
  have hobject : ((eventObject action record type).get "actor").asObject? =
      some ⟨[("type", .str "AGENT"), ("id", .str action.request.agentId)], rfl⟩ := asObject?_of_val hval
  have htype : member actorTypes ActorType.name
      (JsObject.get ⟨[("type", .str "AGENT"), ("id", .str action.request.agentId)], rfl⟩ "type") = some .agent := rfl
  have hid : safeId (JsObject.get ⟨[("type", .str "AGENT"), ("id", .str action.request.agentId)], rfl⟩ "id") 200 =
      some action.request.agentId := IsSafeId.accepted haction.request.agentId rfl
  unfold actorField
  simp only [hobject]
  split
  · next hnone =>
    rw [htype] at hnone
    cases hnone
  · split
    · next hnone =>
      rw [hid] at hnone
      cases hnone
    · exact ⟨_, rfl⟩

theorem causation_eventObject (hrecord : record.Wellformed) :
    ∃ cause, optionalIdField (eventObject action record type) "causation_id" "causation_id must be a safe identifier" = .ok cause := by
  have hval : ((eventObject action record type).get "causation_id").val =
      Value.get (fieldIfSet "causation_id" (record.payload.get causationField).asText?) "causation_id" := by
    show Value.get (eventFields action record type) "causation_id" = _
    unfold eventFields
    rcases fieldIfSet_cases "causation_id" (record.payload.get causationField).asText? with hnone | ⟨u, hset⟩
    · rw [hnone]
      rfl
    · rw [hset]
      rfl
  unfold optionalIdField
  cases hcause : (record.payload.get causationField).asText? with
  | none =>
    rw [hcause] at hval
    rw [hval]
    exact ⟨_, rfl⟩
  | some cause =>
    obtain ⟨id, hid, rfl⟩ := hrecord.cause cause hcause
    rw [hcause] at hval
    have hstr : ((eventObject action record type).get "causation_id").val = .str (outboxLedgerEventId id) := hval
    simp only [hstr]
    rw [idField_eventObject _ _ (outboxLedgerEventId_safe hid) hstr]
    exact ⟨_, rfl⟩

theorem eventType_eventObject (h : type ∈ platformEventTypes) : eventTypeField (eventObject action record type) = .ok type := by
  unfold eventTypeField
  rw [eq_ofText (t := type.name) (get_eventObject (k := "event_type") (by decide)), member_platformEventTypes type h]

theorem source_eventObject : sourceComponentField (eventObject action record type) = .ok .platform := by
  unfold sourceComponentField
  rw [eq_ofText (t := "platform") (get_eventObject (k := "source_component") (by decide))]
  rfl

theorem authority_eventObject :
    assertContext (eventObject action record type) "authority_context" = .ok (some (authorityObject action record)) := by
  have hval : ((eventObject action record type).get "authority_context").val = (authorityObject action record).toValue :=
    get_eventObject (by decide)
  unfold assertContext
  rw [asObject?_of_val hval]
  simp only [hval, JsObject.toValue]

/-- A context that an event does not have. -/
theorem context_eventObject (name : String) (h : Text.ofAscii name ∉ eventKeys) :
    assertContext (eventObject action record type) name = .ok none := by
  unfold assertContext
  rw [get_eventObject_undefined h]

theorem parent_eventObject :
    optionalIdField (eventObject action record type) "parent_event_id" "parent_event_id must be a safe identifier" = .ok .absent := by
  unfold optionalIdField
  rw [get_eventObject_undefined (by decide)]

theorem occurredAt_eventObject : occurredAtField (eventObject action record type) = .ok none := by
  unfold occurredAtField
  rw [get_eventObject_undefined (by decide)]

theorem classification_eventObject : classificationField (eventObject action record type) = .ok none := by
  unfold classificationField
  rw [get_eventObject_undefined (by decide)]

theorem retention_eventObject : retentionField (eventObject action record type) = .ok none := by
  unfold retentionField
  rw [get_eventObject_undefined (by decide)]

/-! ## The checks that may fail -/

/-- The payload is accepted up to a size. -/
theorem payload_eventObject {payload : Option JsObject} :
    payloadField (eventObject action record type) = .ok payload ↔
      (eventPayload action record).toValue.canonical.byteLength ≤ maxPayloadBytes ∧ payload = some (eventPayload action record) := by
  have hval : ((eventObject action record type).get "payload").val = (eventPayload action record).toValue :=
    get_eventObject (by decide)
  have hfields : ((eventObject action record type).get "payload").val = .obj (eventPayload action record).fields := hval
  unfold payloadField
  rw [asObject?_of_val hval]
  simp only [hfields]
  by_cases hlarge : (eventPayload action record).toValue.canonical.byteLength > maxPayloadBytes
  · rw [if_pos hlarge]
    simp [Nat.not_le.2 hlarge]
  · rw [if_neg hlarge, Except.ok.injEq]
    simp [Nat.not_lt.1 hlarge, eq_comm]


theorem hasSecret_captured {name : Text} (hname : name ≠ Text.ofAscii "input_hash")
    (h : capturedText name record.payload = some t) (hsecret : secretValue t = true) :
    HasSecret (eventPayload action record).toValue := by
  have hfield : ∀ f ∈ record.payload.fields, f.1 ≠ Text.ofAscii "input_hash" → HasSecret f.2 →
      HasSecret (eventPayload action record).toValue := by
    intro f hf hne hin
    exact hasSecret_obj.2 ⟨f, Value.mem_setFields _ hf hne, .inr hin⟩
  unfold capturedText at h
  split at h
  · next u hflat =>
    cases h
    have hmem : (name, Value.str t) ∈ record.payload.fields := mem_of_get hflat rfl
    exact hfield _ hmem hname (hasSecret_str.2 hsecret)
  · split at h
    · next fields hnested =>
      split at h
      · next u hu =>
        cases h
        have hmem : (Text.ofAscii "gate_decision", Value.obj fields) ∈ record.payload.fields := mem_of_get hnested rfl
        have hinner : (name, Value.str t) ∈ fields := by
          rw [← hu]
          refine Value.mem_of_get ?_
          rw [hu]
          rfl
        have hne : Text.ofAscii "gate_decision" ≠ Text.ofAscii "input_hash" := by decide
        exact hfield _ hmem hne (hasSecret_obj.2 ⟨_, hinner, .inr (hasSecret_str.2 hsecret)⟩)
      · cases h
    · cases h

/-- A captured text is written where it is set. -/
theorem mem_fieldIfSet {t : Option Text} {f : Text × Value} (h : f ∈ fieldIfSet k t) :
    f.1 = k ∧ ∃ u, t = some u ∧ f.2 = .str u := by
  unfold fieldIfSet at h
  split at h
  · next c rest =>
    rw [List.mem_singleton.1 h]
    exact ⟨rfl, _, rfl, rfl⟩
  · cases h

/-- Beside the payload, only the resource can bring a secret into the authority. -/
theorem findSecretFields_authority (haction : action.Wellformed) (hpayload : ¬ HasSecret (eventPayload action record).toValue) :
    findSecretFields (eventAuthority action record) = none ↔ secretValue action.request.resource = false := by
  rw [findSecretFields_eq_none]
  constructor
  · intro h
    have hresource := (h (Text.ofAscii "resource", .str action.request.resource) (by simp [eventAuthority])).2
    rw [hasSecret_str, Bool.not_eq_true] at hresource
    exact hresource
  · intro h f hf
    have hcaptured : ∀ name : Text, name ≠ Text.ofAscii "input_hash" → f ∈ fieldIfSet name (capturedText name record.payload) →
        secretKey name = false → secretKey f.1 = false ∧ ¬ HasSecret f.2 := by
      intro name hname hf hkey
      obtain ⟨hk, u, hu, hv⟩ := mem_fieldIfSet hf
      rw [hk, hv, hasSecret_str]
      exact ⟨hkey, fun hsecret => hpayload (hasSecret_captured hname hu hsecret)⟩
    rcases List.mem_append.1 hf with hf | hf
    · rcases List.mem_append.1 hf with hf | hf
      · have hids := haction.request
        have hkeys : ∀ k ∈ (["agent_id", "action", "tool", "resource", "operation"] : List Text), secretKey k = false := by decide
        simp only [List.mem_cons, List.not_mem_nil, or_false] at hf
        rcases hf with rfl | rfl | rfl | rfl | rfl
        · exact ⟨hkeys _ (by simp), by simp [hasSecret_str, secretValue_safeId hids.agentId]⟩
        · exact ⟨hkeys _ (by simp), by simp [hasSecret_str, secretValue_safeId hids.action]⟩
        · exact ⟨hkeys _ (by simp), by simp [hasSecret_str, secretValue_safeId hids.tool]⟩
        · exact ⟨hkeys _ (by simp), by simp [hasSecret_str, h]⟩
        · exact ⟨hkeys _ (by simp), by simp [hasSecret_str, secretValue_safeId hids.operation]⟩
      · exact hcaptured "decision_id" (by decide) hf (by decide)
    · exact hcaptured "policy_hash" (by decide) hf (by decide)

/-! ## The whole -/

/-- **The Ledger's validation of an event** comes down to the size of the payload and the search for secrets. -/
theorem validate_eventObject (haction : action.Wellformed) (hrecord : record.Wellformed) (htype : eventType record = .ok type) :
    (∃ input, validateEventInput (eventValue action record type) = .ok input) ↔
      (eventPayload action record).toValue.canonical.byteLength ≤ maxPayloadBytes ∧
        findSecret (eventPayload action record) (authorityObject action record) none none none = none := by
  obtain ⟨actor, hactor⟩ : ∃ actor, actorField (eventObject action record type) = .ok actor := actorField_eventObject haction
  obtain ⟨cause, hcause⟩ : ∃ cause, optionalIdField (eventObject action record type) "causation_id"
    "causation_id must be a safe identifier" = .ok cause := causation_eventObject hrecord
  obtain ⟨actionUuid, hactionUuid, hactionId⟩ := haction.id
  obtain ⟨correlationUuid, hcorrelationUuid, hcorrelationId⟩ := haction.correlation
  have hmem := eventType_mem htype
  have hstream : IsSafeId (Text.ofAscii "platform:" ++ action.platformActionId) 200 := by
    have hplatform : IsSafeId (Text.ofAscii "platform:") 9 := by decide
    have hpa : IsSafeId (Text.ofAscii "pa_") 3 := by decide
    rw [hactionId]
    exact (hplatform.append (hpa.append hactionUuid)).mono (by decide)
  have hcorrelation : IsSafeId action.correlationId 200 := by
    have hcorr : IsSafeId (Text.ofAscii "corr_") 5 := by decide
    rw [hcorrelationId]
    exact (hcorr.append hcorrelationUuid).mono (by decide)
  have htenant : IsSafeId action.tenantId 100 := by
    rw [haction.tenant]
    exact haction.request.tenantId
  have hversion : versionField (eventObject action record type) = .ok () := rfl
  have hid : ∀ (name : String) (message : Text) (n : Nat) (t : Text), IsSafeId t n →
      ((eventObject action record type).get name).val = .str t →
        Ledger.idField (eventObject action record type) name n message = .ok t :=
    fun name message _ _ => idField_eventObject name message
  simp only [validateEventInput, asObject?_eventValue, hversion,
    hid "event_id" _ 200 _ (outboxLedgerEventId_safe hrecord.id) rfl, eventType_eventObject (eventType_mem htype),
    hid "tenant_id" _ 100 _ htenant rfl, hid "stream_id" _ 200 _ hstream rfl, hactor,
    hid "correlation_id" _ 200 _ hcorrelation rfl, hcause, parent_eventObject, source_eventObject, occurredAt_eventObject,
    authority_eventObject, context_eventObject "spec_context" (by decide),
    context_eventObject "execution_context" (by decide), context_eventObject "artifact_context" (by decide),
    classification_eventObject, retention_eventObject, assertComplete_platform (eventType_mem htype), bind, Except.bind]
  constructor
  · rintro ⟨input, hinput⟩
    split at hinput
    · cases hinput
    · next payload hpayload =>
      obtain ⟨hsize, rfl⟩ := payload_eventObject.1 hpayload
      refine ⟨hsize, ?_⟩
      split at hinput
      · cases hinput
      · next hclean => exact hclean
  · rintro ⟨hsize, hclean⟩
    rw [payload_eventObject.2 ⟨hsize, rfl⟩]
    simp only [hclean]
    exact ⟨_, rfl⟩

variable {s : DurableStore}

/-- **The Ledger accepts the event of a well-formed record** exactly where the texts in it are clean. -/
theorem accepts_iff (hrow : s.row record.actionKey = some action) (haction : action.Wellformed) (hrecord : record.Wellformed) :
    Accepts s record ↔ Clean action record := by
  obtain ⟨type, htype⟩ := hrecord.mapped
  have hevent : toLedgerEvent s record = .ok (eventValue action record type) := by
    simp only [toLedgerEvent, hrow, htype]
    rfl
  have hsecrets : findSecret (eventPayload action record) (authorityObject action record) none none none = none ↔
      findSecretShapedField (eventPayload action record).toValue = none ∧ findSecretFields (eventAuthority action record) = none := by
    show ((findSecretFields (eventPayload action record).fields).orElse fun _ =>
      (findSecretFields (eventAuthority action record)).orElse fun _ => none) = none ↔
        findSecretFields (eventPayload action record).fields = none ∧ _
    simp
  have hvalid := validate_eventObject haction hrecord htype
  rw [hsecrets, findSecretShapedField_eq_none] at hvalid
  constructor
  · rintro ⟨raw, input, hraw, hinput⟩
    rw [hevent] at hraw
    cases hraw
    obtain ⟨hsize, hpayload, hauthority⟩ := hvalid.1 ⟨input, hinput⟩
    exact ⟨hsize, hpayload, (findSecretFields_authority haction hpayload).1 hauthority⟩
  · intro h
    obtain ⟨input, hinput⟩ := hvalid.2 ⟨h.size, h.payload, (findSecretFields_authority haction h.payload).2 h.resource⟩
    exact ⟨_, input, hevent, hinput⟩

/-- **In every lifecycle**, however its steps interleave: the action of every record is there, and the Ledger accepts the
event of the record exactly where the texts in it are clean. -/
theorem accepts_of_run {P : Type} [DecidableEq P] {sha256 : Text → Text} {processes : P → OrchestratorProcess}
    {labels : List (OrchestrationLabel P)} {k : Broker.Store} {w : Orchestration P}
    (hrun : Run (OrchestrationStep sha256 processes) (.initial P .empty k) labels w)
    (hlabels : ∀ label ∈ labels, label.Lifecycle) :
    ∀ record ∈ w.store.outbox, ∃ action, w.store.row record.actionKey = some action ∧
      (Accepts w.store record ↔ Clean action record) := by
  intro record hrecord
  have hstore := (wellformed_of_run hrun hlabels).store
  obtain ⟨action, hrow⟩ := Option.ne_none_iff_exists'.1 (hstore.actions record hrecord)
  exact ⟨action, hrow, accepts_iff hrow (hstore.rows action (Rows.mem_of_row hrow)) (hstore.records record hrecord)⟩

end

/-! ## A bearer token in a resource -/

/-- A request for a resource. -/
def requestFor (resource : String) : JsValue :=
  ⟨.obj [("version", .str "1.0"), ("request_id", .str "r1"), ("tenant_id", .str "t"), ("agent_id", .str "agent_1"),
    ("action", .str "database.read"), ("tool", .str "reader"), ("operation", .str "read"), ("resource", .str resource),
    ("input", .obj []), ("requires_verification", .bool false)], rfl⟩

/-- What is made of it. -/
def requested (resource : String) : ValidatedRequest :=
  match validatePlatformActionRequestInput (requestFor resource) with
  | .ok request => request
  | .error _ => sampleValidated

theorem requested_accepted (h : (validatePlatformActionRequestInput (requestFor resource)).isOk = true) :
    (requested resource).Accepted := by
  refine ⟨requestFor resource, ?_⟩
  unfold requested
  cases hvalid : validatePlatformActionRequestInput (requestFor resource) with
  | ok request => rfl
  | error e =>
    rw [hvalid] at h
    cases h

/-- The store after the request was submitted. -/
def submittedStore (resource : String) : DurableStore :=
  StoreCall.next sampleProcess.broker.sha256 (sampleContext 0 "a") (.createOrReturn (requested resource) ⟨"1", "1"⟩) .empty

theorem run_submitted (h : (requested resource).Accepted) (k : Broker.Store) :
    ∃ labels w, Run (OrchestrationStep id fun _ => sampleProcess) (.initial Bool .empty k) labels w ∧
      (∀ label ∈ labels, label.Lifecycle) ∧ w.store = submittedStore resource := by
  have hbegin : OrchestrationStep id (fun _ => sampleProcess) (.initial Bool .empty k)
      (.begin false (.submitAndRun sampleAgent (requested resource)))
      ((Orchestration.initial Bool .empty k).goto false (.submitting sampleAgent (requested resource))) := .begin _ rfl
  refine ⟨_, _, Run.cons hbegin (.cons (step_of_own (p := false) (a := .submit (sampleContext 0 "a") ⟨"1", "1"⟩) rfl rfl) (.nil _)),
    ?_, rfl⟩
  intro label hlabel
  simp only [List.mem_cons, List.not_mem_nil, or_false] at hlabel
  rcases hlabel with rfl | rfl
  · exact h
  · exact ⟨by decide, by decide, by decide⟩

/-- The conditions, computed. -/
def cleanRecord (s : DurableStore) (record : OutboxRecord) : Bool :=
  (s.row record.actionKey).any fun action =>
    decide ((eventPayload action record).toValue.canonical.byteLength ≤ maxPayloadBytes) &&
      (findSecretShapedField (eventPayload action record).toValue).isNone && !secretValue action.request.resource

theorem clean_of_cleanRecord {action : ActionRow} (hrow : s.row record.actionKey = some action)
    (h : cleanRecord s record = true) : Clean action record := by
  rw [cleanRecord, hrow, Option.any_some, Bool.and_eq_true, Bool.and_eq_true, decide_eq_true_eq, Option.isNone_iff_eq_none,
    findSecretShapedField_eq_none] at h
  obtain ⟨⟨hsize, hpayload⟩, hresource⟩ := h
  refine ⟨hsize, hpayload, ?_⟩
  cases hsecret : secretValue action.request.resource with
  | false => rfl
  | true =>
    rw [hsecret] at hresource
    cases hresource

theorem accepts_of_run_plain :
    ∃ labels w, Run (OrchestrationStep id fun _ => sampleProcess) (.initial Bool .empty Broker.sampleStore) labels w ∧
      ∃ record ∈ w.store.outbox, Accepts w.store record := by
  have hvalid : (validatePlatformActionRequestInput (requestFor "docs")).isOk = true := by decide +kernel
  obtain ⟨labels, w, hrun, hlabels, hstore⟩ := run_submitted (requested_accepted hvalid) Broker.sampleStore
  have hclean : ((submittedStore "docs").outbox.any fun record => cleanRecord (submittedStore "docs") record) = true := by
    decide +kernel
  rw [← hstore] at hclean
  obtain ⟨record, hrecord, hclean⟩ := List.any_eq_true.1 hclean
  obtain ⟨action, hrow, hiff⟩ := accepts_of_run hrun hlabels record hrecord
  exact ⟨labels, w, hrun, record, hrecord, hiff.2 (clean_of_cleanRecord hrow hclean)⟩

/-- The Ledger accepts the event, computed. -/
def accepted (s : DurableStore) (record : OutboxRecord) : Bool :=
  match toLedgerEvent s record with
  | .ok raw => (validateEventInput raw).isOk
  | .error _ => false

theorem accepted_of_accepts (h : Accepts s record) : accepted s record = true := by
  obtain ⟨raw, input, hraw, hinput⟩ := h
  simp only [accepted, hraw, hinput]
  rfl

/-- The resource of an accepted request is a bearer token: the very first record of its action is rejected. -/
theorem accepts_of_run_bearer :
    ¬ ∀ (k : Broker.Store) (labels : List (OrchestrationLabel Bool)) (w : Orchestration Bool),
      Run (OrchestrationStep id fun _ => sampleProcess) (.initial Bool .empty k) labels w →
        (∀ label ∈ labels, label.Lifecycle) → ∀ record ∈ w.store.outbox, Accepts w.store record := by
  intro h
  have hvalid : (validatePlatformActionRequestInput (requestFor "Bearer x")).isOk = true := by decide +kernel
  obtain ⟨labels, w, hrun, hlabels, hstore⟩ := run_submitted (requested_accepted hvalid) Broker.sampleStore
  have hrejected : ((submittedStore "Bearer x").outbox.any fun record => !accepted (submittedStore "Bearer x") record) = true := by
    decide +kernel
  rw [← hstore] at hrejected
  obtain ⟨record, hrecord, hrejected⟩ := List.any_eq_true.1 hrejected
  rw [accepted_of_accepts (h _ labels w hrun hlabels record hrecord)] at hrejected
  cases hrejected

end Tna.Platform
