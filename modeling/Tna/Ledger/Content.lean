import Tna.Js.Parsed
import Tna.Ledger.Stored

/-!
# What the canonical form of an event says

An event as it is read has no repeated key in any part, whatever text is in the columns. So
its canonical form, and the canonical form of what its hash binds, can be taken apart field
by field.
-/

namespace Tna.Ledger

open Tna.Js Value

/-- What is read of a row: the plain columns as they are, the JSON columns parsed. -/
structure ReadsAs (row : RawEventRow) (e : LedgerEvent) : Prop where
  version : e.version = row.version
  eventId : e.eventId = row.eventId
  eventType : e.eventType = row.eventType
  tenantId : e.tenantId = row.tenantId
  streamId : e.streamId = row.streamId
  actor : e.actor = .obj [("type", .str row.actorType), ("id", .str row.actorId)]
  correlationId : e.correlationId = row.correlationId
  sourceComponent : e.sourceComponent = row.sourceComponent
  causationId : e.causationId = optionalId row.causationId
  parentEventId : e.parentEventId = optionalId row.parentEventId
  occurredAt : e.occurredAt = row.occurredAt
  authorityContext : parseColumn row.authorityContext = some e.authorityContext
  specContext : parseColumn row.specContext = some e.specContext
  executionContext : parseColumn row.executionContext = some e.executionContext
  artifactContext : parseColumn row.artifactContext = some e.artifactContext
  retention : parseColumn row.retention = some e.retention
  payload : parseColumn row.payload = some e.payload
  sequence : e.sequence = row.sequence

theorem toLedgerEvent_readsAs {row : RawEventRow} {e : LedgerEvent} (h : toLedgerEvent row = some e) : ReadsAs row e := by
  unfold toLedgerEvent at h
  simp only [Option.bind_eq_bind, Option.bind_eq_some_iff, Option.some.injEq] at h
  obtain ⟨_, hauthority, _, hspec, _, hexecution, _, hartifact, _, hretention, _, hpayload, rfl⟩ := h
  exact ⟨rfl, rfl, rfl, rfl, rfl, rfl, rfl, rfl, rfl, rfl, rfl, hauthority, hspec, hexecution, hartifact, hretention,
    hpayload, rfl⟩

/-- No object in what was supplied has a key twice. -/
def EventContent.Distinct (c : EventContent) : Prop := ∀ v ∈ c.supplied, v.distinct = true

theorem distinct_of_parseColumn {column : Option Text} {v : Value} (h : parseColumn column = some v) :
    v.distinct = true := by
  cases column with
  | none =>
    cases h
    rfl
  | some t => exact distinct_of_parse h

theorem ReadsAs.distinct {row : RawEventRow} {e : LedgerEvent} (h : ReadsAs row e) : e.toEventContent.Distinct := by
  have hactor : e.actor.distinct = true := by
    rw [h.actor]
    rfl
  simp only [EventContent.Distinct, EventContent.supplied, List.forall_mem_cons, List.not_mem_nil, false_imp_iff,
    implies_true, and_true]
  exact ⟨distinct_of_parseColumn h.payload, distinct_of_parseColumn h.authorityContext,
    distinct_of_parseColumn h.specContext, distinct_of_parseColumn h.executionContext,
    distinct_of_parseColumn h.artifactContext, distinct_of_parseColumn h.retention, hactor⟩

theorem distinct_optObject (o : Option JsObject) : (optObject o).distinct = true := by
  cases o with
  | none => rfl
  | some o => exact o.distinct

theorem LedgerEventInput.content_distinct (i : LedgerEventInput) : i.content.Distinct := by
  simp only [EventContent.Distinct, EventContent.supplied, LedgerEventInput.content, List.forall_mem_cons,
    List.not_mem_nil, false_imp_iff, implies_true, and_true, distinct_optObject, true_and]
  exact i.actor.object.distinct

/-! ## The canonical form of an event -/

@[simp] theorem distinct_textOrUndefined (t : Option Text) : (textOrUndefined t).distinct = true := by
  cases t <;> rfl

@[simp] theorem distinct_textOrNull (t : Option Text) : (textOrNull t).distinct = true := by
  cases t <;> rfl

@[simp] theorem distinct_optionalId (i : OptionalId) : i.toValue.distinct = true := by
  cases i <;> rfl

def contentKeys : List Text :=
  ["version", "event_id", "event_type", "tenant_id", "stream_id", "actor", "correlation_id", "source_component",
    "causation_id", "parent_event_id", "occurred_at", "authority_context", "spec_context", "execution_context",
    "artifact_context", "payload", "classification", "retention"]

theorem EventContent.distinct_toValue {c : EventContent} (h : c.Distinct) : c.toValue.distinct = true := by
  simp only [EventContent.Distinct, EventContent.supplied, List.forall_mem_cons, List.not_mem_nil, false_imp_iff,
    implies_true, and_true] at h
  obtain ⟨hpayload, hauthority, hspec, hexecution, hartifact, hretention, hactor⟩ := h
  have hkeys : contentKeys.Nodup := by decide +kernel
  rw [EventContent.toValue, distinct, Bool.and_eq_true, decide_eq_true_eq]
  refine ⟨hkeys, ?_⟩
  simp only [distinctFields, hpayload, hauthority, hspec, hexecution, hartifact, hretention, hactor, distinct_optionalId,
    distinct_textOrUndefined, Bool.and_true]
  rfl

/-- The fields of an event, each of which its canonical form determines. -/
theorem sameData_of_sameCanonicalContent {c d : EventContent} (hc : c.Distinct) (hd : d.Distinct)
    (h : sameCanonicalContent c d = true) :
    SameData c.actor d.actor ∧ SameData c.causationId.toValue d.causationId.toValue ∧
      SameData c.parentEventId.toValue d.parentEventId.toValue := by
  have hfields := sameData_of_canonical (EventContent.distinct_toValue hc) (EventContent.distinct_toValue hd)
    (of_decide_eq_true h)
  exact ⟨hfields "actor", hfields "causation_id", hfields "parent_event_id"⟩

end Tna.Ledger
