import Tna.Ledger.Core

/-!
# Stream verification

`verifyStream` recomputes the hash chain of a stream from its stored rows. `append` hashes the
caller's objects and stores columns; verification hashes what the columns give back. The two
agree on every part of an event but one: the columns keep only the type and the id of the actor.
-/

namespace Tna.Ledger

open Tna.Js

inductive IntegrityFailureReason where
  | sequenceGapOrDuplicate
  | previousHashMismatch
  | payloadHashMismatch
  | eventHashMismatch
  | streamHeadMismatch
  | streamHeadSequenceMismatch
  | emptyStreamWithHead
deriving DecidableEq

def IntegrityFailureReason.name : IntegrityFailureReason → Text
  | .sequenceGapOrDuplicate => "SEQUENCE_GAP_OR_DUPLICATE"
  | .previousHashMismatch => "PREVIOUS_HASH_MISMATCH"
  | .payloadHashMismatch => "PAYLOAD_HASH_MISMATCH"
  | .eventHashMismatch => "EVENT_HASH_MISMATCH"
  | .streamHeadMismatch => "STREAM_HEAD_MISMATCH"
  | .streamHeadSequenceMismatch => "STREAM_HEAD_SEQUENCE_MISMATCH"
  | .emptyStreamWithHead => "EMPTY_STREAM_WITH_HEAD"

structure StreamVerificationResult where
  valid : Bool
  tenantId : Text
  streamId : Text
  eventsChecked : Nat
  firstInvalidSequence : Option Nat
  reason : Option IntegrityFailureReason

section
variable (sha256 : Text → Text)

def recomputeEventHash (event : LedgerEvent) : Text :=
  computeEventHash sha256 (event.hashCore event.sequence event.payloadHash event.previousEventHash)

/-- What is wrong with an event at its place in the chain, if anything. -/
def eventFailure (previousHash : Text) (expectedSequence : Nat) (event : LedgerEvent) : Option IntegrityFailureReason :=
  if event.sequence ≠ expectedSequence then some .sequenceGapOrDuplicate
  else if event.previousEventHash ≠ previousHash then some .previousHashMismatch
  else if computePayloadHash sha256 event.payload ≠ event.payloadHash then some .payloadHashMismatch
  else if recomputeEventHash sha256 event ≠ event.eventHash then some .eventHashMismatch
  else none

/-- The walk along the chain: the first failure with its sequence, or the hash the chain ends with. -/
def checkChain (previousHash : Text) (expectedSequence : Nat) :
    List LedgerEvent → Except (Nat × IntegrityFailureReason) Text
  | [] => .ok previousHash
  | event :: rest =>
    match eventFailure sha256 previousHash expectedSequence event with
    | some reason => .error (event.sequence, reason)
    | none => checkChain event.eventHash (expectedSequence + 1) rest

/-- What is wrong with the head of a stream whose chain has `count` events and ends with `lastHash`. -/
def headFailure (head : Option StreamHead) (count : Nat) (lastHash : Text) :
    Option (IntegrityFailureReason × Text) :=
  match head with
  | none => none
  | some h =>
    if count = 0 ∧ h.latestSequence ≠ 0 then
      some (.emptyStreamWithHead, "Stream head references events that do not exist")
    else if h.latestSequence ≠ count then
      some (.streamHeadSequenceMismatch, "Stream head sequence does not match persisted event count")
    else if h.latestEventHash ≠ lastHash then
      some (.streamHeadMismatch, "Stream head hash does not match last persisted event")
    else none

/-- Recomputes a stream's hash chain and compares it with what is stored. On
failure the stream is marked `INVALID`, unless `persist` is off. `none` stands
for a column that cannot be parsed. -/
def verifyStream (now : Text) (store : LedgerStore) (tenantId streamId : Text) (persist : Bool) :
    Option (StreamVerificationResult × LedgerStore) :=
  match store.listStream tenantId streamId with
  | none => none
  | some events =>
    let mark := fun detail => if persist then store.markStreamInvalid tenantId streamId detail now else store
    match checkChain sha256 genesisHash 1 events with
    | .error (sequence, reason) =>
      some (⟨false, tenantId, streamId, events.length, some sequence, some reason⟩,
        mark (reason.name ++ Text.ofAscii " at sequence " ++ decimal sequence))
    | .ok lastHash =>
      match headFailure (store.streamHead tenantId streamId) events.length lastHash with
      | some (reason, detail) => some (⟨false, tenantId, streamId, events.length, none, some reason⟩, mark detail)
      | none => some (⟨true, tenantId, streamId, events.length, none, none⟩, store)

/-! ## Every stream -/

structure FullVerificationResult where
  streamsChecked : Nat
  eventsChecked : Nat
  validStreams : Nat
  invalidStreams : Nat
  firstFailure : Option StreamVerificationResult
  durationMs : Int

/-- The counters after one more stream. -/
def FullVerificationResult.count (f : FullVerificationResult) (r : StreamVerificationResult) : FullVerificationResult :=
  { f with
    eventsChecked := f.eventsChecked + r.eventsChecked
    validStreams := if r.valid then f.validStreams + 1 else f.validStreams
    invalidStreams := if r.valid then f.invalidStreams else f.invalidStreams + 1
    firstFailure := if r.valid then f.firstFailure else f.firstFailure.or (some r) }

/-- The loop of `verifyAll`. Where a column cannot be parsed it stops; streams marked before stay marked. -/
def verifyStreams (now : Text) (persist : Bool) (counted : FullVerificationResult) (store : LedgerStore) :
    List StreamHead → Option FullVerificationResult × LedgerStore
  | [] => (some counted, store)
  | stream :: rest =>
    match verifyStream sha256 now store stream.tenantId stream.streamId persist with
    | none => (none, store)
    | some (result, store) => verifyStreams now persist (counted.count result) store rest

/-- Full-ledger verification, of one tenant where one is given; it takes from `start` to `finish`. -/
def verifyAll (now : Text) (start finish : Int) (store : LedgerStore) (tenantId : Option Text) (persist : Bool) :
    Option FullVerificationResult × LedgerStore :=
  let streams := store.streams.filter fun stream => tenantId.all fun t => stream.tenantId = t
  verifyStreams sha256 now persist ⟨streams.length, 0, 0, 0, none, finish - start⟩ store streams

end

open Value

/-- The actor of the input has no property besides its type and its id. -/
def actorExact (raw : JsValue) : Bool :=
  match raw.asObject? with
  | none => true
  | some input =>
    match (input.get "actor").asObject? with
    | none => true
    | some actor => actor.fields.all fun f => f.2.isUndefined || f.1 = "type" || f.1 = "id"

/-- The two fields of an actor that are stored. -/
def Actor.stored (a : Actor) : Value := .obj [("type", .str a.type.name), ("id", .str a.id)]

/-- The actor is no more than what is stored of it. -/
def Actor.Exact (a : Actor) : Prop := ∀ f ∈ a.object.fields, f.2.isUndefined = false → f.1 = "type" ∨ f.1 = "id"

theorem mem_of_get {o : JsObject} {k : Text} {v : Value} (h : (o.get k).val = v) (hv : v.isUndefined = false) :
    (k, v) ∈ o.fields := by
  subst h
  exact Value.mem_of_get hv

/-- An exact actor has the canonical form of what is stored of it. -/
theorem Actor.same_stored {a : Actor} (h : a.Exact) : Same a.object.toValue a.stored := by
  refine ⟨rfl, canonical_obj_perm a.object.keys_nodup ?_⟩
  have htype : (Text.ofAscii "type", Value.str a.type.name) ∈ a.object.fields := mem_of_get a.type_eq rfl
  have hid : (Text.ofAscii "id", Value.str a.id) ∈ a.object.fields := mem_of_get a.id_eq rfl
  have hnodup : (definedFields a.object.fields).Nodup := (List.Nodup.of_map _ a.object.keys_nodup).filter _
  have hstored : (definedFields [(Text.ofAscii "type", Value.str a.type.name), (Text.ofAscii "id", Value.str a.id)]) =
      [(Text.ofAscii "type", Value.str a.type.name), (Text.ofAscii "id", Value.str a.id)] := rfl
  rw [hstored]
  refine (List.perm_ext_iff_of_nodup hnodup (by simp)).2 fun f => ?_
  simp only [definedFields, List.mem_filter, Bool.not_eq_true', List.mem_cons, List.not_mem_nil, or_false]
  constructor
  · rintro ⟨hf, hdef⟩
    obtain ⟨k, v⟩ := f
    have hv := get_of_mem a.object.keys_nodup hf
    rcases h _ hf hdef with hk | hk
    · cases hk
      exact .inl (congrArg _ (hv.symm.trans a.type_eq))
    · cases hk
      exact .inr (congrArg _ (hv.symm.trans a.id_eq))
  · rintro (rfl | rfl)
    · exact ⟨htype, rfl⟩
    · exact ⟨hid, rfl⟩

/-! ## Contexts -/

/-- What a column gives back for the value that was written to it. -/
def readBack : Option JsObject → Value
  | some o => o.toValue.normal
  | none => .undefined

theorem parseColumn_stringifyColumn (o : Option JsObject) : parseColumn (stringifyColumn o) = some (readBack o) := by
  cases o with
  | none => rfl
  | some o => exact parse_stringify o.distinct

theorem same_readBack (o : Option JsObject) : Same (optObject o) (readBack o) := by
  cases o with
  | none => exact .refl _
  | some o => exact ⟨rfl, (canonical_normal _).symm⟩

theorem orNull_optionalId (t : Option Text) : (optionalId t).orNull = t := by
  cases t <;> rfl

/-! ## Events -/

/-- The event that reading a stored row gives. -/
theorem toLedgerEvent_toRow (i : LedgerEventInput) (n : Nat) (now payloadHash prev eventHash : Text) :
    ∃ e, toLedgerEvent (i.toRow n now payloadHash prev eventHash) = some e ∧ e.sequence = n ∧
      e.previousEventHash = prev ∧ e.payloadHash = payloadHash ∧ e.eventHash = eventHash ∧
      e.payload = readBack i.payload ∧
      e.toEventContent.hashCore n payloadHash prev =
        { i.content.hashCore n payloadHash prev with
          actor := i.actor.stored
          authorityContext := readBack i.authorityContext
          specContext := readBack i.specContext
          executionContext := readBack i.executionContext
          artifactContext := readBack i.artifactContext } := by
  simp only [toLedgerEvent, LedgerEventInput.toRow, parseColumn_stringifyColumn, Option.bind_eq_bind, Option.bind_some]
  refine ⟨_, rfl, rfl, rfl, rfl, rfl, rfl, ?_⟩
  simp only [EventContent.hashCore, LedgerEventInput.content, orNull_optionalId]
  rfl

/-- Payload hashing does not see the trip through the column. -/
theorem computePayloadHash_readBack (sha256 : Text → Text) (o : Option JsObject) :
    computePayloadHash sha256 (readBack o) = computePayloadHash sha256 (optObject o) := by
  cases o with
  | none => rfl
  | some o => exact congrArg sha256 (canonical_normal o.toValue)

/-- **Verification of a stored row**: the hashes recomputed from the columns are the ones
`append` computed from the caller's objects, when the actor is exact. -/
theorem eventFailure_toRow (sha256 : Text → Text) {i : LedgerEventInput} (hactor : i.actor.Exact) (n : Nat)
    (now prev : Text) :
    let payloadHash := computePayloadHash sha256 i.content.payload
    let eventHash := computeEventHash sha256 (i.content.hashCore n payloadHash prev)
    ∃ e, toLedgerEvent (i.toRow n now payloadHash prev eventHash) = some e ∧ e.sequence = n ∧
      e.eventHash = eventHash ∧ eventFailure sha256 prev n e = none := by
  intro payloadHash eventHash
  obtain ⟨e, he, hn, hprev, hpayload, hevent, hp, hcore⟩ := toLedgerEvent_toRow i n now payloadHash prev eventHash
  refine ⟨e, he, hn, hevent, ?_⟩
  have hph : computePayloadHash sha256 e.payload = e.payloadHash := by
    rw [hp, hpayload, computePayloadHash_readBack]
    rfl
  have heh : recomputeEventHash sha256 e = e.eventHash := by
    rw [recomputeEventHash, hn, hprev, hpayload, hcore, hevent]
    refine congrArg sha256 (Eq.symm (Same.canonical (Same.obj ?_)))
    simp only [List.forall₂_cons, List.forall₂_nil_left_iff, true_and, and_true, Same.refl, EventContent.hashCore,
      LedgerEventInput.content]
    exact ⟨Actor.same_stored hactor, same_readBack _, same_readBack _, same_readBack _, same_readBack _⟩
  rw [eventFailure, if_neg (not_not_intro hn), if_neg (not_not_intro hprev), if_neg (not_not_intro hph),
    if_neg (not_not_intro heh)]

end Tna.Ledger
