import Tna.Js.Sorted
import Tna.Sentinel.Answered

/-!
# An observation submitted again

The runtime takes a second submission under one identifier for a retry when its JSON text
is the stored one's. The text depends on the order in which an object lists its
properties, so a client that writes the same payload in another order meets a conflict.
-/

namespace Tna.Sentinel

open Tna.Js

/-- Two observations are equal as JSON values, objects compared up to the order of their properties. -/
structure SameContent (a b : SentinelObservationInput) : Prop where
  observationId : a.observationId = b.observationId
  tenantId : a.tenantId = b.tenantId
  sentinelSessionId : a.sentinelSessionId = b.sentinelSessionId
  timestamp : a.timestamp = b.timestamp
  source : a.source = b.source
  observationType : a.observationType = b.observationType
  payload : a.payload.map (fun p => p.toValue.data) = b.payload.map fun p => p.toValue.data

/-- Objects of one text hold the same data. -/
theorem data_eq_of_stringify {p q : JsObject} (h : p.toValue.stringify = q.toValue.stringify) :
    p.toValue.data = q.toValue.data := by
  have hnormal : p.toValue.normal = q.toValue.normal := by
    have hp := parse_stringify p.distinct
    rw [show Value.stringify (.obj p.fields) = q.toValue.stringify from h] at hp
    exact Option.some.inj (hp.symm.trans (parse_stringify q.distinct))
  refine Value.data_eq_of_canonical p.distinct q.distinct ?_
  rw [← Value.canonical_normal p.toValue, ← Value.canonical_normal q.toValue, hnormal]

/-- Observations of one text are equal. -/
theorem sameContent_of_sameText {a b : SentinelObservationInput} (h : a.sameText b = true) : SameContent a b := by
  obtain ⟨hid, htenant, hsession, htimestamp, hsource, htype, hpayload⟩ := of_decide_eq_true h
  refine ⟨hid, htenant, hsession, htimestamp, hsource, htype, ?_⟩
  cases ha : a.payload with
  | none =>
    rw [ha] at hpayload
    rw [Option.map_none, Option.map_eq_none_iff.1 hpayload.symm]
    rfl
  | some p =>
    rw [ha] at hpayload
    obtain ⟨q, hq, htext⟩ := Option.map_eq_some_iff.1 hpayload.symm
    rw [hq, Option.map_some, Option.map_some, data_eq_of_stringify htext]

/-! ## The retry -/

section
variable {rt : SentinelRuntime} {s : SentinelStore} {principal : SentinelPrincipal} {sessionId : Text}
  {input : SentinelObservationInput} {a : PieceAnswer} {existing : SentinelObservation}

/-- What a retry is promised: the stored sequence and time for an equal observation, a refusal
for any other, and in both cases the store as it was. -/
structure AnsweredAgain (rt : SentinelRuntime) (s : SentinelStore) (principal : SentinelPrincipal) (sessionId : Text)
    (input : SentinelObservationInput) (a : PieceAnswer) (existing : SentinelObservation) : Prop where
  same : SameContent existing.toSentinelObservationInput input → submitObservation rt s principal sessionId input a =
    .quiet s (.done (.submitted { input with sequence := existing.sequence, receivedAt := existing.receivedAt } none))
  different : ¬ SameContent existing.toSentinelObservationInput input →
    ∃ e, submitObservation rt s principal sessionId input a = throws s e

/-- A submission of an observation that is on file is answered from there, or refused. -/
theorem submitObservation_existing (rt : SentinelRuntime) (principal : SentinelPrincipal) (sessionId : Text) (a : PieceAnswer)
    (hexisting : s.observations.find? input.names = some existing) :
    (Resubmits s principal sessionId input ∧ submitObservation rt s principal sessionId input a =
      .quiet s (.done (.submitted { input with sequence := existing.sequence, receivedAt := existing.receivedAt } none))) ∨
    ¬ Resubmits s principal sessionId input ∧ ∃ e, submitObservation rt s principal sessionId input a = throws s e := by
  by_cases hretry : Resubmits s principal sessionId input
  · refine .inl ⟨hretry, ?_⟩
    obtain ⟨o, ho, hanswer⟩ := submitObservation_of_resubmits rt a hretry
    generalize he : submitObservation rt s principal sessionId input a = effect at hanswer ⊢
    have hsubmitted : Submitted rt s principal sessionId input a effect := he ▸ submitted_submitObservation
    cases hsubmitted with
    | threw e => cases hanswer
    | repeated _ hexisting' =>
      obtain rfl := Option.mem_unique hexisting hexisting'
      rfl
    | saved hsaved hkey hmem =>
      cases hsaved with
      | new _ _ hnew => exact nomatch hnew.symm.trans hexisting
  · refine .inr ⟨hretry, ?_⟩
    generalize he : submitObservation rt s principal sessionId input a = effect
    have hsubmitted : Submitted rt s principal sessionId input a effect := he ▸ submitted_submitObservation
    cases hsubmitted with
    | threw e => exact ⟨e, rfl⟩
    | repeated h => exact absurd h hretry
    | saved hsaved hkey hmem =>
      cases hsaved with
      | new _ _ hnew => exact nomatch hnew.symm.trans hexisting

end

/-- **A retry is answered as promised exactly when equal observations have the same text and the
session has not ended**, for any store that has the observation on file and any caller who may submit it. -/
theorem answeredAgain_iff (rt : SentinelRuntime) (s : SentinelStore) (principal : SentinelPrincipal) (sessionId : Text)
    (input : SentinelObservationInput) (a : PieceAnswer) (existing : SentinelObservation)
    (hexisting : s.observations.find? input.names = some existing)
    (hobserve : assertCanObserve principal input.observationType = .ok ())
    (htenant : assertTenant principal input.tenantId = .ok ()) (hid : input.sentinelSessionId = sessionId) :
    AnsweredAgain rt s principal sessionId input a existing ↔
      (SameContent existing.toSentinelObservationInput input →
        s.IsOpen input.sessionKey ∧ existing.toSentinelObservationInput.sameText input = true) := by
  have hresubmits : Resubmits s principal sessionId input ↔
      s.IsOpen input.sessionKey ∧ existing.toSentinelObservationInput.sameText input = true := by
    constructor
    · rintro ⟨-, -, -, hopen, existing', hexisting', hsame⟩
      obtain rfl := Option.mem_unique hexisting hexisting'
      exact ⟨hopen, hsame⟩
    · rintro ⟨hopen, hsame⟩
      exact ⟨hobserve, htenant, hid, hopen, existing, hexisting, hsame⟩
  rcases submitObservation_existing rt principal sessionId a hexisting with
    ⟨hretry, hanswer⟩ | ⟨hretry, e, hanswer⟩
  · rw [hresubmits] at hretry
    refine iff_of_true ⟨fun _ => hanswer, fun hdifferent => ?_⟩ fun _ => hretry
    exact absurd (sameContent_of_sameText hretry.2) hdifferent
  · rw [hresubmits] at hretry
    constructor
    · intro h hsame
      have hdone := h.same hsame
      rw [hanswer] at hdone
      cases hdone
    · intro h
      refine ⟨fun hsame => absurd (h hsame) hretry, fun _ => ⟨e, hanswer⟩⟩

/-- A tool call with two properties, in one order or the other. -/
def orderedInput (first second : Text) (h : (Value.obj [(first, .null), (second, .null)]).distinct = true) :
    SentinelObservationInput :=
  { sampleInput with payload := some ⟨[(first, .null), (second, .null)], h⟩ }

def firstInput : SentinelObservationInput := orderedInput "tool" "path" (by decide)

def retriedInput : SentinelObservationInput := orderedInput "path" "tool" (by decide)

/-- The store once the first input was submitted. -/
def firstStored : SentinelStore := (submitObservation warningRuntime sampleSystem.store sampleObserver "s" firstInput sampleAnswer).store

theorem sameContent_retriedInput : SameContent firstInput retriedInput :=
  ⟨rfl, rfl, rfl, rfl, rfl, rfl, congrArg some (Value.data_eq_of_canonical (by decide) (by decide) (by decide +kernel))⟩

theorem firstStored_observations : firstStored.observations = [{ firstInput with sequence := 1, receivedAt := 0 }] := by
  rfl

theorem answeredAgain_iff_same :
    AnsweredAgain warningRuntime firstStored sampleObserver "s" firstInput sampleAnswer
        { firstInput with sequence := 1, receivedAt := 0 } ↔
      (SameContent firstInput firstInput → firstStored.IsOpen firstInput.sessionKey ∧ firstInput.sameText firstInput = true) :=
  answeredAgain_iff warningRuntime firstStored sampleObserver "s" firstInput sampleAnswer _
    (by rw [firstStored_observations]; rfl) rfl rfl rfl

/-- The same payload, its properties in another order, is refused. -/
theorem not_answeredAgain_reordered :
    ¬ ∀ (rt : SentinelRuntime) (s : SentinelStore) (principal : SentinelPrincipal) (sessionId : Text)
      (first second : SentinelObservationInput) (a b : PieceAnswer) (existing : SentinelObservation),
      assertCanObserve principal second.observationType = .ok () → assertTenant principal second.tenantId = .ok () →
      second.sentinelSessionId = sessionId → existing.toSentinelObservationInput = first →
      (submitObservation rt s principal sessionId first a).store.observations.find? second.names = some existing →
      AnsweredAgain rt (submitObservation rt s principal sessionId first a).store principal sessionId second b existing := by
  intro h
  have hstored : firstStored.observations.find? retriedInput.names =
      some { firstInput with sequence := 1, receivedAt := 0 } := by
    rw [firstStored_observations]
    rfl
  have hagain := h warningRuntime sampleSystem.store sampleObserver "s" firstInput retriedInput sampleAnswer sampleAnswer
    { firstInput with sequence := 1, receivedAt := 0 } rfl rfl rfl rfl hstored
  have hanswer := hagain.same sameContent_retriedInput
  rcases submitObservation_existing warningRuntime sampleObserver "s" sampleAnswer hstored with ⟨hretry, -⟩ | ⟨-, e, hthrows⟩
  · obtain ⟨-, -, -, -, existing, hexisting, hsame⟩ := hretry
    obtain rfl := Option.mem_unique hstored hexisting
    exact absurd hsame (by decide +kernel)
  · exact nomatch hanswer.symm.trans hthrows

end Tna.Sentinel
