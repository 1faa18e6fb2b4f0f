import Tna.Js.Number
import Tna.Ledger.Facade
import Tna.Ledger.Predecessors
import Tna.Ledger.Tamper

/-!
# Bundles as JSON

An exported bundle travels as JSON text. Whoever verifies it has an object whose fields can be
anything, so `verifyExportedBundle` is given here for any object. On the text of a bundle it
answers what it answers on the bundle itself.
-/

namespace Tna.Ledger

open Tna.Js Tna.Lib Value

/-! ## Reading an event -/

def textOf : Value → Option Text
  | .str t => some t
  | _ => none

/-- A text that may be left out. -/
def textIfAny : Value → Option (Option Text)
  | .undefined => some none
  | .str t => some (some t)
  | _ => none

def idIfAny : Value → Option OptionalId
  | .undefined => some .absent
  | .null => some .null
  | .str t => some (.id t)
  | _ => none

/-- A number that counts something. -/
def countOf : Value → Option Nat
  | .num (.finite n) =>
    match numberOf n.text with
    | .finite v => if v.isInt && decide (0 ≤ v) then some v.num.toNat else none
    | _ => none
  | _ => none

/-- The event that a value is, when its fields have the types of one. -/
def eventOf (v : Value) : Option LedgerEvent :=
  match v with
  | .obj fields => do
    let version ← textOf (Value.get fields "version")
    let eventId ← textOf (Value.get fields "event_id")
    let eventType ← textOf (Value.get fields "event_type")
    let tenantId ← textOf (Value.get fields "tenant_id")
    let streamId ← textOf (Value.get fields "stream_id")
    let correlationId ← textOf (Value.get fields "correlation_id")
    let sourceComponent ← textOf (Value.get fields "source_component")
    let causationId ← idIfAny (Value.get fields "causation_id")
    let parentEventId ← idIfAny (Value.get fields "parent_event_id")
    let occurredAt ← textIfAny (Value.get fields "occurred_at")
    let classification ← textIfAny (Value.get fields "classification")
    let sequence ← countOf (Value.get fields "sequence")
    let receivedAt ← textOf (Value.get fields "received_at")
    let persistedAt ← textOf (Value.get fields "persisted_at")
    let payloadHash ← textOf (Value.get fields "payload_hash")
    let previousEventHash ← textOf (Value.get fields "previous_event_hash")
    let eventHash ← textOf (Value.get fields "event_hash")
    some
      { version, eventId, eventType, tenantId, streamId, correlationId, sourceComponent, causationId, parentEventId, occurredAt,
        classification, sequence, receivedAt, persistedAt, payloadHash, previousEventHash, eventHash
        actor := Value.get fields "actor"
        authorityContext := Value.get fields "authority_context"
        specContext := Value.get fields "spec_context"
        executionContext := Value.get fields "execution_context"
        artifactContext := Value.get fields "artifact_context"
        payload := Value.get fields "payload"
        retention := Value.get fields "retention" }
  | _ => none

def eventsOf : Value → Option (List LedgerEvent)
  | .arr items => items.mapM eventOf
  | _ => none

/-! ## Verification -/

/-- `const { exportHash, ...rest } = bundle`. -/
def restOf (bundle : JsObject) : List (Text × Value) := bundle.fields.filter fun f => f.1 ≠ "exportHash"

/-- The text whose hash is the hash of an export. -/
def exportText (bundle : JsObject) : Text := (Value.obj (restOf bundle)).canonical

section
variable (sha256 : Text → Text)

/-- `verifyExportedBundle` of an object. The hash of an object is checked whatever its fields are; `none` where the events then
are not of their type. -/
def verifyBundleObject (bundle : JsObject) : Option (Option ExportFailure) :=
  if (bundle.get "exportHash").asText? ≠ some (sha256 (exportText bundle)) then some (some .exportHashMismatch)
  else (eventsOf (bundle.get "events").val).map fun events => checkExported sha256 [] (events.insertionSort exportLe)

end

/-- The bundle as an object. -/
def EvidenceExportBundle.toValue (b : EvidenceExportBundle) : Value :=
  .obj [("version", .str "1.0"), ("tenantId", .str b.tenantId), ("correlationId", .str b.correlationId),
    ("exportedAt", .str b.exportedAt), ("events", .arr (b.events.map LedgerEvent.toValue)),
    ("streamHeads", .arr (b.streamHeads.map StreamHead.toValue)),
    ("verification", .arr (b.verification.map StreamVerdict.toValue)), ("exportHash", .str b.exportHash)]

/-! ## An event through JSON text -/

/-- A property after the trip through JSON text. -/
def rereadProp (v : Value) : Value := if v.isUndefined then .undefined else v.normal

/-- The event after the trip. -/
def LedgerEvent.reread (e : LedgerEvent) : LedgerEvent :=
  { e with
    actor := rereadProp e.actor
    authorityContext := rereadProp e.authorityContext
    specContext := rereadProp e.specContext
    executionContext := rereadProp e.executionContext
    artifactContext := rereadProp e.artifactContext
    payload := rereadProp e.payload
    retention := rereadProp e.retention }

theorem same_rereadProp (v : Value) : Same (rereadProp v) v := by
  unfold rereadProp
  split
  · next h =>
    cases v with
    | undefined => exact .refl _
    | _ => cases h
  · next h => exact ⟨(normal_isUndefined v).trans (Bool.eq_false_iff.2 h).symm, canonical_normal v⟩

theorem idIfAny_rereadProp (i : OptionalId) : idIfAny (rereadProp i.toValue) = some i := by
  cases i <;> rfl

theorem textIfAny_rereadProp (t : Option Text) : textIfAny (rereadProp (textOrUndefined t)) = some t := by
  cases t <;> rfl

theorem countOf_rereadProp (n : Nat) : countOf (rereadProp (.ofNat n)) = some n := by
  show countOf (.ofNat n) = some n
  simp [countOf, Value.ofNat, numberOf_decimal, Rat.isInt]

/-- The fields of an event. -/
def LedgerEvent.fields (e : LedgerEvent) : List (Text × Value) :=
  [("version", .str e.version), ("event_id", .str e.eventId), ("event_type", .str e.eventType), ("tenant_id", .str e.tenantId),
    ("stream_id", .str e.streamId), ("actor", e.actor), ("correlation_id", .str e.correlationId),
    ("source_component", .str e.sourceComponent), ("causation_id", e.causationId.toValue),
    ("parent_event_id", e.parentEventId.toValue), ("occurred_at", textOrUndefined e.occurredAt),
    ("authority_context", e.authorityContext), ("spec_context", e.specContext), ("execution_context", e.executionContext),
    ("artifact_context", e.artifactContext), ("payload", e.payload), ("classification", textOrUndefined e.classification),
    ("retention", e.retention), ("sequence", .ofNat e.sequence), ("received_at", .str e.receivedAt),
    ("persisted_at", .str e.persistedAt), ("payload_hash", .str e.payloadHash),
    ("previous_event_hash", .str e.previousEventHash), ("event_hash", .str e.eventHash)]

theorem LedgerEvent.toValue_eq (e : LedgerEvent) : e.toValue = .obj e.fields := rfl

def eventKeys : List Text :=
  contentKeys ++
    ([("sequence" : Text), "received_at", "persisted_at", "payload_hash", "previous_event_hash", "event_hash"] : List Text)

theorem eventKeys_nodup : eventKeys.Nodup := by decide +kernel

theorem LedgerEvent.keys_nodup (e : LedgerEvent) : (e.fields.map Prod.fst).Nodup := eventKeys_nodup

/-- **An event is read back from its JSON text.** -/
theorem eventOf_normal (e : LedgerEvent) : eventOf e.toValue.normal = some e.reread := by
  have hget : ∀ k, Value.get (normalFields e.fields) k = rereadProp (Value.get e.fields k) := get_normalFields e.keys_nodup
  rw [e.toValue_eq, normal, eventOf]
  simp only [hget]
  have hcausation : idIfAny (rereadProp (Value.get e.fields "causation_id")) = some e.causationId := idIfAny_rereadProp e.causationId
  have hparent : idIfAny (rereadProp (Value.get e.fields "parent_event_id")) = some e.parentEventId :=
    idIfAny_rereadProp e.parentEventId
  have hoccurred : textIfAny (rereadProp (Value.get e.fields "occurred_at")) = some e.occurredAt := textIfAny_rereadProp e.occurredAt
  have hclassification : textIfAny (rereadProp (Value.get e.fields "classification")) = some e.classification :=
    textIfAny_rereadProp e.classification
  have hsequence : countOf (rereadProp (Value.get e.fields "sequence")) = some e.sequence := countOf_rereadProp e.sequence
  rw [hcausation, hparent, hoccurred, hclassification, hsequence]
  rfl

theorem eventsOf_normal (events : List LedgerEvent) :
    eventsOf (Value.arr (events.map LedgerEvent.toValue)).normal = some (events.map LedgerEvent.reread) := by
  have hitems : ∀ l : List LedgerEvent, (normalItems (l.map LedgerEvent.toValue)).mapM eventOf = some (l.map LedgerEvent.reread) := by
    intro l
    induction l with
    | nil => rfl
    | cons e rest ih =>
      rw [List.map_cons, normalItems, List.mapM_cons, eventOf_normal, ih]
      rfl
  rw [normal, eventsOf, hitems]

/-! ## A bundle through JSON text -/

section
variable {sha256 : Text → Text}

theorem computePayloadHash_reread (e : LedgerEvent) : computePayloadHash sha256 e.reread.payload = computePayloadHash sha256 e.payload := by
  rw [computePayloadHash_eq, computePayloadHash_eq]
  exact congrArg sha256 (same_rereadProp e.payload).canonical

theorem recomputeEventHash_reread (e : LedgerEvent) : recomputeEventHash sha256 e.reread = recomputeEventHash sha256 e := by
  refine congrArg sha256 (Same.canonical (Same.obj ?_))
  simp only [List.forall₂_cons, List.forall₂_nil_left_iff, true_and, and_true, Same.refl, EventContent.hashCore, LedgerEvent.reread,
    same_rereadProp]

theorem lookup_reread (seen : List (Text × LedgerEvent)) (streamId : Text) :
    (seen.map fun p => (p.1, p.2.reread)).lookup streamId = (seen.lookup streamId).map LedgerEvent.reread := by
  induction seen with
  | nil => rfl
  | cons p rest ih =>
    rw [List.map_cons, List.lookup_cons, List.lookup_cons]
    split
    · rfl
    · exact ih

theorem checkExported_reread (seen : List (Text × LedgerEvent)) (events : List LedgerEvent) :
    checkExported sha256 (seen.map fun p => (p.1, p.2.reread)) (events.map LedgerEvent.reread) = checkExported sha256 seen events := by
  induction events generalizing seen with
  | nil => rfl
  | cons e rest ih =>
    have hnext := ih ((e.streamId, e) :: seen)
    rw [List.map_cons] at hnext
    rw [List.map_cons, checkExported, checkExported]
    simp only [computePayloadHash_reread, recomputeEventHash_reread]
    rw [show e.reread.streamId = e.streamId from rfl, lookup_reread, Option.any_map, hnext]
    rfl

theorem sorted_reread (events : List LedgerEvent) :
    (events.map LedgerEvent.reread).insertionSort exportLe = (events.insertionSort exportLe).map LedgerEvent.reread :=
  (List.map_insertionSort exportLe exportLe LedgerEvent.reread events fun _ _ _ _ => Iff.rfl).symm

/-- The object that the text of a bundle is parsed to. -/
theorem exportText_normal (b : EvidenceExportBundle) (o : JsObject) (ho : o.toValue = b.toValue.normal) :
    exportText o = b.withoutHash.canonical ∧ (o.get "exportHash").asText? = some b.exportHash ∧
      eventsOf (o.get "events").val = some (b.events.map LedgerEvent.reread) := by
  obtain ⟨fields, hdistinct⟩ := o
  obtain rfl : fields = _ := Value.obj.inj ho
  refine ⟨?_, rfl, eventsOf_normal b.events⟩
  exact canonical_normal b.withoutHash

/-- **On the text of a bundle, verification answers what it answers on the bundle.** -/
theorem verifyBundleObject_parsed {b : EvidenceExportBundle} (hdistinct : b.toValue.distinct = true) :
    ∃ o : JsObject, parse b.toValue.stringify = some o.toValue ∧
      verifyBundleObject sha256 o = some (verifyExportedBundle sha256 b) := by
  have hparse := parse_stringify hdistinct
  obtain ⟨o, ho⟩ : ∃ o : JsObject, o.toValue = b.toValue.normal := ⟨⟨_, distinct_of_parse hparse⟩, rfl⟩
  obtain ⟨htext, hhash, hevents⟩ := exportText_normal b o ho
  refine ⟨o, by rw [hparse, ho], ?_⟩
  rw [verifyBundleObject, verifyExportedBundle, htext, hhash, hevents, Option.map_some, sorted_reread]
  have hchecked : checkExported sha256 [] ((b.events.insertionSort exportLe).map LedgerEvent.reread) =
      checkExported sha256 [] (b.events.insertionSort exportLe) := checkExported_reread [] _
  rw [hchecked]
  by_cases hsame : hash sha256 b.withoutHash = b.exportHash
  · have heq : some b.exportHash = some (sha256 b.withoutHash.canonical) := congrArg some hsame.symm
    rw [if_neg (not_not.2 heq), if_neg (not_not.2 hsame)]
  · have hne : some b.exportHash ≠ some (sha256 b.withoutHash.canonical) := fun h => hsame (Option.some.inj h).symm
    rw [if_pos hne, if_pos hsame]

end

end Tna.Ledger
