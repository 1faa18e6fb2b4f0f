import Tna.Ledger.Chain
import Tna.Ledger.Content

/-!
# Tamper evidence

Two stores with the same head for a stream, both of which verify, hold the same events of it,
as far as the hashes bind an event, unless two of the texts that verification hashes collide.
The last hash is the head's, and each hash binds its event and the hash before it.
-/

namespace Tna.Ledger

open Tna.Js Tna.Lib Value

/-! ## What an event hash binds -/

/-- Two events that one event hash cannot tell apart. The contexts hold the same data, as JSON keeps it and up to
the order of properties, and one is there when the other is; the payloads have one canonical form. -/
structure Agree (e e' : LedgerEvent) : Prop where
  sequence : e.sequence = e'.sequence
  version : e.version = e'.version
  tenantId : e.tenantId = e'.tenantId
  streamId : e.streamId = e'.streamId
  eventId : e.eventId = e'.eventId
  eventType : e.eventType = e'.eventType
  actor : e.actor = e'.actor
  correlationId : e.correlationId = e'.correlationId
  causationId : e.causationId = e'.causationId
  parentEventId : e.parentEventId = e'.parentEventId
  sourceComponent : e.sourceComponent = e'.sourceComponent
  occurredAt : e.occurredAt = e'.occurredAt
  authorityContext : SameData e.authorityContext e'.authorityContext
  specContext : SameData e.specContext e'.specContext
  executionContext : SameData e.executionContext e'.executionContext
  artifactContext : SameData e.artifactContext e'.artifactContext
  payload : e.payload.canonical = e'.payload.canonical
  previousEventHash : e.previousEventHash = e'.previousEventHash

/-- The text whose hash is the event hash. -/
def LedgerEvent.coreText (e : LedgerEvent) : Text :=
  (e.toEventContent.hashCore e.sequence e.payloadHash e.previousEventHash).toValue.canonical

/-- The texts that verification of a stream hashes: the payload and the core of each event. -/
def LedgerStore.hashedTexts (s : LedgerStore) (tenantId streamId : Text) : List Text :=
  match s.listStream tenantId streamId with
  | none => []
  | some events => events.flatMap fun e => [e.payload.canonical, e.coreText]

/-- No text of the one list has the hash of another text of the other. -/
def CollisionFree (sha256 : Text → Text) (xs ys : List Text) : Prop :=
  ∀ x ∈ xs, ∀ y ∈ ys, sha256 x = sha256 y → x = y

def coreKeys : List Text :=
  ["version", "tenant_id", "stream_id", "sequence", "event_id", "event_type", "occurred_at", "actor", "correlation_id",
    "causation_id", "parent_event_id", "source_component", "authority_context", "spec_context", "execution_context",
    "artifact_context", "payload_hash", "previous_event_hash"]

theorem EventContent.distinct_hashCore {c : EventContent} (h : c.Distinct) (n : Nat) (payloadHash prev : Text) :
    (c.hashCore n payloadHash prev).toValue.distinct = true := by
  simp only [EventContent.Distinct, EventContent.supplied, List.forall_mem_cons, List.not_mem_nil, false_imp_iff,
    implies_true, and_true] at h
  obtain ⟨-, hauthority, hspec, hexecution, hartifact, -, hactor⟩ := h
  have hkeys : coreKeys.Nodup := by decide +kernel
  rw [EventHashCore.toValue, distinct, Bool.and_eq_true, decide_eq_true_eq]
  refine ⟨hkeys, ?_⟩
  simp only [distinctFields, EventContent.hashCore, hauthority, hspec, hexecution, hartifact, hactor,
    distinct_textOrNull, Bool.and_true]
  rfl

theorem textOrNull_eq_of_sameData {t u : Option Text} (h : SameData (textOrNull t) (textOrNull u)) : t = u := by
  cases t with
  | none =>
    cases u with
    | none => rfl
    | some u => cases h.data
  | some t =>
    cases u with
    | none => cases h.data
    | some u => rw [h.str_eq]

/-- An actor as it is read. -/
def actorValue (type id : Text) : Value := .obj [("type", .str type), ("id", .str id)]

theorem actorValue_eq_of_sameData {type id type' id' : Text}
    (h : SameData (actorValue type id) (actorValue type' id')) : actorValue type id = actorValue type' id' := by
  have hdata : (Value.obj [("type", .str type), ("id", .str id)]).data =
      (Value.obj [("type", .str type'), ("id", .str id')]).data := h.data
  obtain ⟨v, hv, -, htype⟩ := mem_of_data_eq hdata (List.mem_cons_self ..) rfl
  obtain ⟨w, hw, -, hid⟩ := mem_of_data_eq hdata (List.mem_cons_of_mem _ (List.mem_cons_self ..)) rfl
  simp only [List.mem_cons, Prod.mk.injEq, Text.ofAscii_inj, List.not_mem_nil, or_false, true_and,
    String.reduceEq, false_and, false_or] at hv hw
  subst hv hw
  rw [data_str, data_str] at htype hid
  rw [Value.str.inj htype, Value.str.inj hid]

/-- The properties that the event hash binds. -/
def LedgerEvent.coreFields (e : LedgerEvent) : List (Text × Value) :=
  match (e.toEventContent.hashCore e.sequence e.payloadHash e.previousEventHash).toValue with
  | .obj fields => fields
  | _ => []

variable {e e' : LedgerEvent} {row row' : RawEventRow}

/-- Cores of one text have the same properties. -/
theorem sameData_of_coreText (hr : ReadsAs row e) (hr' : ReadsAs row' e') (hcore : e.coreText = e'.coreText) (k : Text) :
    SameData (Value.get e.coreFields k) (Value.get e'.coreFields k) :=
  sameData_of_canonical (EventContent.distinct_hashCore hr.distinct ..) (EventContent.distinct_hashCore hr'.distinct ..)
    hcore k

theorem payloadHash_of_coreText (hr : ReadsAs row e) (hr' : ReadsAs row' e') (hcore : e.coreText = e'.coreText) :
    e.payloadHash = e'.payloadHash := by
  have hfield := sameData_of_coreText hr hr' hcore "payload_hash"
  exact hfield.str_eq

/-- Events as they are read agree when their cores have one text and their payloads another. -/
theorem agree_of_coreText (hr : ReadsAs row e) (hr' : ReadsAs row' e') (hcore : e.coreText = e'.coreText)
    (hpayload : e.payload.canonical = e'.payload.canonical) : Agree e e' := by
  have hfields := sameData_of_coreText hr hr' hcore
  have hcausation : row.causationId = row'.causationId := by
    have h : e.causationId.orNull = e'.causationId.orNull := textOrNull_eq_of_sameData (hfields "causation_id")
    rwa [hr.causationId, hr'.causationId, orNull_optionalId, orNull_optionalId] at h
  have hparent : row.parentEventId = row'.parentEventId := by
    have h : e.parentEventId.orNull = e'.parentEventId.orNull := textOrNull_eq_of_sameData (hfields "parent_event_id")
    rwa [hr.parentEventId, hr'.parentEventId, orNull_optionalId, orNull_optionalId] at h
  have hactor : SameData e.actor e'.actor := hfields "actor"
  rw [hr.actor, hr'.actor] at hactor
  exact
    { sequence := decimal_injective (congrArg Numeral.text (SameData.finite_eq (hfields "sequence")))
      version := (hfields "version").str_eq
      tenantId := (hfields "tenant_id").str_eq
      streamId := (hfields "stream_id").str_eq
      eventId := (hfields "event_id").str_eq
      eventType := (hfields "event_type").str_eq
      actor := by rw [hr.actor, hr'.actor]; exact actorValue_eq_of_sameData hactor
      correlationId := (hfields "correlation_id").str_eq
      causationId := by rw [hr.causationId, hr'.causationId, hcausation]
      parentEventId := by rw [hr.parentEventId, hr'.parentEventId, hparent]
      sourceComponent := (hfields "source_component").str_eq
      occurredAt := textOrNull_eq_of_sameData (hfields "occurred_at")
      authorityContext := hfields "authority_context"
      specContext := hfields "spec_context"
      executionContext := hfields "execution_context"
      artifactContext := hfields "artifact_context"
      payload := hpayload
      previousEventHash := (hfields "previous_event_hash").str_eq }

/-! ## The chain of a stream that verifies -/

/-- How an event shows its place in the chain. -/
def eventChain : ChainView LedgerEvent Text :=
  ⟨LedgerEvent.sequence, LedgerEvent.previousEventHash, LedgerEvent.eventHash⟩

section
variable {sha256 : Text → Text}

theorem computePayloadHash_eq (payload : Value) : computePayloadHash sha256 payload = sha256 payload.canonical := by
  cases payload <;> rfl

variable {e : LedgerEvent} {n : Nat} {prev streamId tenantId : Text} {events : List LedgerEvent} {s : LedgerStore}

/-- An event in which nothing is wrong is in its place, and its hashes are those of its texts. -/
theorem eventFailure_eq_none (h : eventFailure sha256 prev n e = none) :
    e.sequence = n ∧ e.previousEventHash = prev ∧ e.payloadHash = sha256 e.payload.canonical ∧
      e.eventHash = sha256 e.coreText := by
  unfold eventFailure at h
  split at h
  · cases h
  · next hsequence =>
    split at h
    · cases h
    · next hprev =>
      split at h
      · cases h
      · next hpayload =>
        split at h
        · cases h
        · next hevent =>
          rw [computePayloadHash_eq] at hpayload
          exact ⟨not_not.1 hsequence, not_not.1 hprev, (not_not.1 hpayload).symm, (not_not.1 hevent).symm⟩

/-- The walk along the events succeeds on a chain in which nothing is wrong. -/
theorem checkChain_eq_ok {last : Text} (h : checkChain sha256 prev n events = .ok last) :
    eventChain.ChainFrom prev n events ∧ eventChain.lastHash prev events = last ∧
      ∀ e ∈ events, e.payloadHash = sha256 e.payload.canonical ∧ e.eventHash = sha256 e.coreText := by
  induction events generalizing prev n with
  | nil =>
    cases h
    exact ⟨trivial, rfl, List.forall_mem_nil _⟩
  | cons e rest ih =>
    rw [checkChain] at h
    split at h
    · cases h
    · next hnone =>
      obtain ⟨hsequence, hprev, hpayload, hevent⟩ := eventFailure_eq_none hnone
      obtain ⟨hchain, hlast, hhashes⟩ := ih h
      exact ⟨⟨hsequence, hprev, hchain⟩, hlast, List.forall_mem_cons.2 ⟨⟨hpayload, hevent⟩, hhashes⟩⟩

/-- What a verification that reports a stream valid has found. -/
theorem verifyStream_valid {now : Text} {persist : Bool} {head : StreamHead}
    (hhead : s.streamHead tenantId streamId = some head)
    (h : (verifyStream sha256 now s tenantId streamId persist).map (fun r => r.1.valid) = some true) :
    ∃ events, s.listStream tenantId streamId = some events ∧
      checkChain sha256 genesisHash 1 events = .ok head.latestEventHash ∧ head.latestSequence = events.length := by
  unfold verifyStream at h
  split at h
  · cases h
  · next events hevents =>
    refine ⟨events, hevents, ?_⟩
    simp only at h
    split at h
    · cases h
    · next last hcheck =>
      split at h
      · cases h
      · next hnone =>
        rw [hhead] at hnone
        simp only [headFailure] at hnone
        split at hnone
        · cases hnone
        · split at hnone
          · cases hnone
          · next hcount =>
            split at hnone
            · cases hnone
            · next hhash => exact ⟨by rw [hcheck, not_not.1 hhash], not_not.1 hcount⟩

theorem readsAs_of_listStream (h : s.listStream tenantId streamId = some events) (he : e ∈ events) : ∃ row, ReadsAs row e := by
  obtain ⟨row, -, hread⟩ := exists_of_mem_mapped h he
  exact ⟨row, toLedgerEvent_readsAs hread⟩

theorem mem_hashedTexts (h : s.listStream tenantId streamId = some events) (he : e ∈ events) :
    e.payload.canonical ∈ s.hashedTexts tenantId streamId ∧ e.coreText ∈ s.hashedTexts tenantId streamId := by
  rw [LedgerStore.hashedTexts, h]
  constructor
  · exact List.mem_flatMap.2 ⟨e, he, List.mem_cons_self ..⟩
  · exact List.mem_flatMap.2 ⟨e, he, List.mem_cons_of_mem _ (List.mem_cons_self ..)⟩

/-- **Tamper evidence.** Two stores have the same head for a stream and the stream verifies in both. Unless a text
hashed for the one collides with a text hashed for the other, the stream has as many events in both, and at each
position they agree in everything the hashes bind. -/
theorem agree_of_verified {now now' tenantId streamId : Text} {s s' : LedgerStore} {persist persist' : Bool}
    {head : StreamHead} (hhead : s.streamHead tenantId streamId = some head)
    (hhead' : s'.streamHead tenantId streamId = some head)
    (hvalid : (verifyStream sha256 now s tenantId streamId persist).map (fun r => r.1.valid) = some true)
    (hvalid' : (verifyStream sha256 now' s' tenantId streamId persist').map (fun r => r.1.valid) = some true)
    (hfree : CollisionFree sha256 (s.hashedTexts tenantId streamId) (s'.hashedTexts tenantId streamId)) :
    ∃ events events', s.listStream tenantId streamId = some events ∧ s'.listStream tenantId streamId = some events' ∧
      events.length = events'.length ∧ List.Forall₂ Agree events events' := by
  obtain ⟨events, hevents, hcheck, hcount⟩ := verifyStream_valid hhead hvalid
  obtain ⟨events', hevents', hcheck', hcount'⟩ := verifyStream_valid hhead' hvalid'
  obtain ⟨hchain, hlast, hhashes⟩ := checkChain_eq_ok hcheck
  obtain ⟨hchain', hlast', hhashes'⟩ := checkChain_eq_ok hcheck'
  have hlength : events.length = events'.length := hcount.symm.trans hcount'
  refine ⟨events, events', hevents, hevents', hlength, ?_⟩
  refine (hchain.forall₂_of_lastHash hchain' hlength (hlast.trans hlast'.symm) ?_).2
  intro e he e' he' hself
  obtain ⟨row, hr⟩ := readsAs_of_listStream hevents he
  obtain ⟨row', hr'⟩ := readsAs_of_listStream hevents' he'
  obtain ⟨hpayloadMem, hcoreMem⟩ := mem_hashedTexts hevents he
  obtain ⟨hpayloadMem', hcoreMem'⟩ := mem_hashedTexts hevents' he'
  have hself : e.eventHash = e'.eventHash := hself
  rw [(hhashes e he).2, (hhashes' e' he').2] at hself
  have hcore := hfree _ hcoreMem _ hcoreMem' hself
  have hpayload := payloadHash_of_coreText hr hr' hcore
  rw [(hhashes e he).1, (hhashes' e' he').1] at hpayload
  have hagree := agree_of_coreText hr hr' hcore (hfree _ hpayloadMem _ hpayloadMem' hpayload)
  exact ⟨hagree, hagree.previousEventHash⟩

end

/-! ## A payload whose properties are in another order -/

/-- An event with a payload. -/
def payloadEvent : Value :=
  .obj [("version", .str "1.0"), ("event_id", .str "e"), ("event_type", .str "AGENT_REGISTERED"),
    ("tenant_id", .str "t"), ("stream_id", .str "s"), ("actor", .obj [("type", .str "SYSTEM"), ("id", .str "a")]),
    ("correlation_id", .str "c"), ("source_component", .str "ledger"),
    ("payload", .obj [("a", .str "x"), ("b", .str "y")])]

def payloadStore : LedgerStore :=
  runAppends id [⟨sampleWriter, ⟨payloadEvent, by decide⟩, "2026-01-01T00:00:00.000Z"⟩]

/-- The store with the payload written in another order. -/
def reorderedStore : LedgerStore :=
  { payloadStore with
    events := payloadStore.events.map fun r =>
      { r with payload := some (Text.ofAscii "\x7b\"b\":\"y\",\"a\":\"x\"\x7d") } }

theorem agree_of_verified_reordered :
    ∃ events events', payloadStore.listStream "t" "s" = some events ∧ reorderedStore.listStream "t" "s" = some events' ∧
      events.length = events'.length ∧ List.Forall₂ Agree events events' := by
  have hhead : payloadStore.streamHead "t" "s" = some ((payloadStore.streamHead "t" "s").get (by decide +kernel)) :=
    (Option.some_get _).symm
  exact @agree_of_verified id "now" "now" "t" "s" payloadStore reorderedStore true true _ hhead hhead
    (by decide +kernel) (by decide +kernel) fun _ _ _ _ h => h

end Tna.Ledger
