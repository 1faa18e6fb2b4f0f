import Tna.Ledger.Bundle
import Tna.Ledger.Pages

/-!
# What an export is good for

A bundle that was exported from a reached store verifies from its own text, and its hash binds all
that it says: a bundle that verifies under this hash is the same in every field.
-/

namespace Tna.Ledger

open Tna.Js Tna.Lib Value

/-! ## The events of an export -/

section
variable {sha256 : Text → Text}

/-- Events are in order where the hashes of each are its own, and each is chained to the one before it that is among them. -/
theorem checkExported_eq_none {seen : List (Text × LedgerEvent)} {events all : List LedgerEvent}
    (hhashes : ∀ e ∈ all, computePayloadHash sha256 e.payload = e.payloadHash ∧ recomputeEventHash sha256 e = e.eventHash)
    (hchained : ∀ p ∈ all, ∀ e ∈ all, p.streamId = e.streamId → p.sequence + 1 = e.sequence → e.previousEventHash = p.eventHash)
    (hseen : ∀ p ∈ seen, p.1 = p.2.streamId ∧ p.2 ∈ all) (hevents : events ⊆ all) : checkExported sha256 seen events = none := by
  induction events generalizing seen with
  | nil => rfl
  | cons e rest ih =>
    obtain ⟨he, hrest⟩ := List.cons_subset.1 hevents
    obtain ⟨hpayload, hevent⟩ := hhashes e he
    have hprevious : ¬ ((seen.lookup e.streamId).any fun p => p.sequence + 1 = e.sequence ∧ e.previousEventHash ≠ p.eventHash) = true := by
      intro hbroken
      obtain ⟨p, hp, hbroken⟩ := (Option.any_eq_true ..).1 hbroken
      obtain ⟨hnext, hne⟩ := of_decide_eq_true hbroken
      obtain ⟨before, after, hsplit, -⟩ := List.lookup_eq_some_iff.1 hp
      obtain ⟨hstream, hmem⟩ := hseen (e.streamId, p) (by rw [hsplit]; exact List.mem_append_right _ (List.mem_cons_self ..))
      exact hne (hchained p hmem e he hstream.symm hnext)
    rw [checkExported, if_neg hprevious, if_neg (not_not.2 hpayload), if_neg (not_not.2 hevent)]
    exact ih (List.forall_mem_cons.2 ⟨⟨rfl, he⟩, hseen⟩) hrest

/-- The hashes of a sound row are those of the event that is read of it. -/
theorem hashes_of_rowSound {row : RawEventRow} {e : LedgerEvent} (h : RowSound sha256 row) (hread : ReadAs row e) :
    e.eventHash = row.eventHash ∧ e.previousEventHash = row.previousEventHash ∧
      computePayloadHash sha256 e.payload = e.payloadHash ∧ recomputeEventHash sha256 e = e.eventHash := by
  obtain ⟨e', hread', hhash, hfailure⟩ := h
  obtain rfl : e' = e := Option.mem_unique hread' hread
  obtain ⟨-, hprev, hpayload, hevent⟩ := eventFailure_eq_none hfailure
  rw [computePayloadHash_eq]
  exact ⟨hhash, hprev, hpayload.symm, hevent.symm⟩

/-- Where every stream of a store is sound, what is queried of it has its hashes, and is chained to what comes before it. -/
theorem checkExported_of_sound {s : LedgerStore} {tenantId : Text} {filters : Filters}
    (hsound : ∀ t st, StreamSound sha256 s t st) {rows : List RawEventRow} {events : List LedgerEvent}
    (hrows : rows ⊆ queried s tenantId filters) (hread : List.Forall₂ ReadAs rows events) {ordered : List LedgerEvent}
    (hordered : ordered ⊆ events) : checkExported sha256 [] ordered = none := by
  have hrow : ∀ e ∈ events, ∃ row ∈ s.rowsOf tenantId e.streamId, ReadAs row e := by
    intro e he
    obtain ⟨row, hmem, hevent⟩ := exists_of_mem_mapped (mapM_eq_some_iff.2 hread) he
    obtain ⟨hstored, htenant, -⟩ := mem_queried.1 (hrows hmem)
    exact ⟨row, List.mem_filter.2 ⟨hstored, decide_eq_true ⟨htenant, (toLedgerEvent_readsAs hevent).streamId.symm⟩⟩, hevent⟩
  refine @checkExported_eq_none sha256 [] ordered events ?_ ?_ (List.forall_mem_nil _) hordered
  · intro e he
    obtain ⟨row, hmem, hevent⟩ := hrow e he
    exact (hashes_of_rowSound ((hsound _ _).rows row hmem) hevent).2.2
  · intro p hp e he hstream hnext
    obtain ⟨row, hmem, hevent⟩ := hrow p hp
    obtain ⟨row', hmem', hevent'⟩ := hrow e he
    obtain ⟨hhash, -⟩ := hashes_of_rowSound ((hsound _ _).rows row hmem) hevent
    obtain ⟨-, hprev, -⟩ := hashes_of_rowSound ((hsound _ _).rows row' hmem') hevent'
    rw [hstream] at hmem
    rw [(toLedgerEvent_readsAs hevent).sequence, (toLedgerEvent_readsAs hevent').sequence] at hnext
    rw [hprev, hhash]
    exact (hsound _ _).chain.prev_of_succ hmem hmem' hnext

end

/-! ## The bundle -/

section
variable {sha256 : Text → Text} {now exportedAt tenantId correlationId : Text} {s : LedgerStore} {bundle : EvidenceExportBundle}

theorem mapM_probeStream (hsound : ∀ t st, StreamSound sha256 s t st) (now tenantId : Text) (streamIds : List Text) :
    ∃ verification, streamIds.mapM (probeStream sha256 now s tenantId) = some verification := by
  refine mapM_of_forall fun streamId _ => ?_
  rw [probeStream, verifyStream_sound (hsound tenantId streamId) now false]
  exact Option.some_ne_none _

/-- What is exported: events of the store, under the hash of the rest. -/
theorem exportEvidence_ok (h : exportEvidence sha256 now exportedAt s tenantId correlationId = .ok bundle) :
    (∃ rows, rows ⊆ queried s tenantId { Filters.none with correlationId := some correlationId } ∧
      List.Forall₂ ReadAs rows bundle.events) ∧ bundle.exportHash = hash sha256 bundle.withoutHash := by
  obtain ⟨events, hevents, h⟩ := bind_ok h
  simp only at h
  split at h
  · cases h
  · cases h
    exact ⟨⟨_, fun row hrow => List.mem_of_mem_drop (List.mem_of_mem_take hrow), query_ok hevents⟩, rfl⟩

theorem exportEvidence_of_sound (hsound : ∀ t st, StreamSound sha256 s t st) (hreadable : Readable s)
    (now exportedAt tenantId correlationId : Text) :
    ∃ bundle, exportEvidence sha256 now exportedAt s tenantId correlationId = .ok bundle := by
  obtain ⟨events, hevents⟩ : ∃ events,
      s.query tenantId { Filters.none with correlationId := some correlationId } maxExportEvents 0 = .ok events :=
    query_of_readable hreadable maxExportEvents 0
  obtain ⟨verification, hverification⟩ := mapM_probeStream hsound now tenantId
    ((events.map fun e => e.streamId).dedup.insertionSort (· ≤ ·))
  unfold exportEvidence
  rw [hevents]
  simp only [bind, Except.bind, hverification]
  exact ⟨_, rfl⟩

theorem LedgerEvent.distinct_toValue {e : LedgerEvent} (h : e.toEventContent.Distinct) : e.toValue.distinct = true := by
  simp only [EventContent.Distinct, EventContent.supplied, List.forall_mem_cons, List.not_mem_nil, false_imp_iff,
    implies_true, and_true] at h
  obtain ⟨hpayload, hauthority, hspec, hexecution, hartifact, hretention, hactor⟩ := h
  rw [e.toValue_eq, distinct, Bool.and_eq_true, decide_eq_true_eq]
  refine ⟨e.keys_nodup, ?_⟩
  simp only [LedgerEvent.fields, distinctFields, hpayload, hauthority, hspec, hexecution, hartifact, hretention, hactor,
    distinct_optionalId, distinct_textOrUndefined, Bool.and_true]
  rfl

def headKeys : List Text :=
  ["tenant_id", "stream_id", "latest_sequence", "latest_event_hash", "updated_at", "integrity_status"]

theorem StreamHead.distinct_toValue (h : StreamHead) : h.toValue.distinct = true := by
  have hkeys : headKeys.Nodup := by decide +kernel
  rw [StreamHead.toValue, distinct, Bool.and_eq_true, decide_eq_true_eq]
  exact ⟨hkeys, rfl⟩

theorem StreamVerdict.distinct_toValue (v : StreamVerdict) : v.toValue.distinct = true := by
  have hkeys : ([("streamId" : Text), "valid"] : List Text).Nodup := by decide
  rw [StreamVerdict.toValue, distinct, Bool.and_eq_true, decide_eq_true_eq]
  exact ⟨hkeys, rfl⟩

def bundleKeys : List Text :=
  ["version", "tenantId", "correlationId", "exportedAt", "events", "streamHeads", "verification", "exportHash"]

/-- No object in a bundle has a key twice. -/
theorem distinct_bundle (hread : ∀ e ∈ bundle.events, e.toEventContent.Distinct) : bundle.toValue.distinct = true := by
  have hkeys : bundleKeys.Nodup := by decide +kernel
  have hevents : distinctItems (bundle.events.map LedgerEvent.toValue) = true :=
    distinctItems_iff.2 (List.forall_mem_map.2 fun e he => LedgerEvent.distinct_toValue (hread e he))
  have hheads : distinctItems (bundle.streamHeads.map StreamHead.toValue) = true :=
    distinctItems_iff.2 (List.forall_mem_map.2 fun h _ => h.distinct_toValue)
  have hverdicts : distinctItems (bundle.verification.map StreamVerdict.toValue) = true :=
    distinctItems_iff.2 (List.forall_mem_map.2 fun v _ => v.distinct_toValue)
  rw [EvidenceExportBundle.toValue, distinct, Bool.and_eq_true, decide_eq_true_eq]
  refine ⟨hkeys, ?_⟩
  simp only [distinctFields, distinct, hevents, hheads, hverdicts, Bool.and_true]

theorem distinct_exported (h : exportEvidence sha256 now exportedAt s tenantId correlationId = .ok bundle) :
    bundle.toValue.distinct = true := by
  obtain ⟨⟨rows, -, hread⟩, -⟩ := exportEvidence_ok h
  refine distinct_bundle fun e he => ?_
  obtain ⟨row, -, hevent⟩ := exists_of_mem_mapped (mapM_eq_some_iff.2 hread) he
  exact (toLedgerEvent_readsAs hevent).distinct

/-- **An export verifies** from its own text. -/
theorem verified_of_exported (hsound : ∀ t st, StreamSound sha256 s t st)
    (h : exportEvidence sha256 now exportedAt s tenantId correlationId = .ok bundle) :
    ∃ o : JsObject, parse bundle.toValue.stringify = some o.toValue ∧ verifyBundleObject sha256 o = some none := by
  obtain ⟨⟨rows, hrows, hread⟩, hhash⟩ := exportEvidence_ok h
  obtain ⟨o, hparse, hverified⟩ := @verifyBundleObject_parsed sha256 bundle (distinct_exported h)
  refine ⟨o, hparse, ?_⟩
  rw [hverified, verifyExportedBundle, if_neg (not_not.2 hhash.symm)]
  exact congrArg some (checkExported_of_sound hsound hrows hread fun e he => (List.mem_insertionSort _).1 he)

/-! ## What the hash binds -/

theorem lookup_filter_of_ne {fields : List (Text × Value)} {name k : Text} (h : k ≠ name) :
    (fields.filter fun f => f.1 ≠ name).lookup k = fields.lookup k := by
  induction fields with
  | nil => rfl
  | cons f rest ih =>
    obtain ⟨k', v⟩ := f
    rw [List.filter_cons]
    split
    · rw [List.lookup_cons, List.lookup_cons, ih]
    · next hname =>
      have hsame : k' = name := by simpa using hname
      rw [List.lookup_cons, beq_eq_false_iff_ne.2 fun heq => h (heq.trans hsame), ih]

theorem get_restOf {o : JsObject} {k : Text} (h : k ≠ "exportHash") : Value.get (restOf o) k = Value.get o.fields k := by
  rw [Value.get, restOf, lookup_filter_of_ne h, Value.get]

theorem distinct_restOf (o : JsObject) : (Value.obj (restOf o)).distinct = true := by
  rw [distinct, Bool.and_eq_true, decide_eq_true_eq]
  refine ⟨o.keys_nodup.sublist (List.filter_sublist.map Prod.fst), distinctFields_iff.2 fun f hf => ?_⟩
  exact distinctFields_iff.1 o.distinctFields f (List.mem_filter.1 hf).1

/-- The bundle as an object. -/
def EvidenceExportBundle.object (b : EvidenceExportBundle) (h : b.toValue.distinct = true) : JsObject := ⟨_, h⟩

/-- **What verifies under the hash of an export is the same in every field.** -/
theorem same_of_verified {o : JsObject} (hdistinct : bundle.toValue.distinct = true)
    (hexport : bundle.exportHash = hash sha256 bundle.withoutHash) (hhash : (o.get "exportHash").val = .str bundle.exportHash)
    (hverified : verifyBundleObject sha256 o = some none)
    (hfree : CollisionFree sha256 [exportText o] [bundle.withoutHash.canonical]) (k : Text) :
    Same (o.get k).val ((bundle.object hdistinct).get k).val := by
  by_cases hk : k = "exportHash"
  · subst hk
    rw [hhash]
    exact .refl _
  have htext : exportText o = bundle.withoutHash.canonical := by
    refine hfree _ (List.mem_singleton_self _) _ (List.mem_singleton_self _) ?_
    unfold verifyBundleObject at hverified
    split at hverified
    · cases hverified
    · next hsame =>
      rw [JsValue.asText?, hhash] at hsame
      exact (Option.some.inj (not_not.1 hsame)).symm.trans hexport
  have hsame := (sameData_of_canonical (distinct_restOf o) (distinct_restOf (bundle.object hdistinct)) htext k).same
  rwa [get_restOf hk, get_restOf hk] at hsame

end

/-- **Exports verify, and are bound by their hash.** -/
theorem export_verified_and_bound (sha256 : Text → Text) {calls : List AppendCall} (hexact : ∀ c ∈ calls, actorExact c.raw = true)
    (now exportedAt tenantId correlationId : Text) :
    ∃ bundle, exportEvidence sha256 now exportedAt (runAppends sha256 calls) tenantId correlationId = .ok bundle ∧
      (∃ o : JsObject, parse bundle.toValue.stringify = some o.toValue ∧ verifyBundleObject sha256 o = some none) ∧
      ∃ hdistinct : bundle.toValue.distinct = true, ∀ o : JsObject, (o.get "exportHash").val = .str bundle.exportHash →
        verifyBundleObject sha256 o = some none → CollisionFree sha256 [exportText o] [bundle.withoutHash.canonical] →
        ∀ k, Same (o.get k).val ((bundle.object hdistinct).get k).val := by
  have hsound : ∀ t st, StreamSound sha256 (runAppends sha256 calls) t st := foldl_run_sound hexact streamSound_empty
  obtain ⟨bundle, hbundle⟩ := exportEvidence_of_sound hsound (readable_run calls) now exportedAt tenantId correlationId
  have hdistinct := distinct_exported hbundle
  exact ⟨bundle, hbundle, verified_of_exported hsound hbundle, hdistinct, fun o hhash hverified hfree =>
    same_of_verified hdistinct (exportEvidence_ok hbundle).2 hhash hverified hfree⟩

theorem export_verified_and_bound_one :
    ∃ bundle, exportEvidence id "now" "now" (runAppends id [sampleCall [("type", .str "SYSTEM"), ("id", .str "a")] (by decide)]) "t" "c" =
        .ok bundle ∧
      (∃ o : JsObject, parse bundle.toValue.stringify = some o.toValue ∧ verifyBundleObject id o = some none) ∧
      ∃ hdistinct : bundle.toValue.distinct = true, ∀ o : JsObject, (o.get "exportHash").val = .str bundle.exportHash →
        verifyBundleObject id o = some none → CollisionFree id [exportText o] [bundle.withoutHash.canonical] →
        ∀ k, Same (o.get k).val ((bundle.object hdistinct).get k).val :=
  @export_verified_and_bound id [sampleCall [("type", .str "SYSTEM"), ("id", .str "a")] (by decide)] (by decide) "now" "now" "t" "c"

end Tna.Ledger
