import Tna.Auditor.Collected
import Tna.Auditor.Revocation

/-!
# The failures that show in a last event

Three evaluators keep one event of each capability or atom: `new Map(events.map(..))` holds
the last of a key. What an earlier event of the key shows is only seen if the last one shows
it too.
-/

namespace Tna.Auditor

open Tna.Js Tna.Ledger Tna.Lib

variable {context : EvaluationContext} {b : EvidenceBundle} {sha256 : Text → Text}

/-! ## The last event of a key -/

/-- The event is the last of its key among the events. -/
def LastOf (key : LedgerEvent → Option Text) (k : Text) (events : List LedgerEvent) (e : LedgerEvent) : Prop :=
  ∃ before after, events = before ++ e :: after ∧ key e = some k ∧ ∀ later ∈ after, key later ≠ some k

variable {key : LedgerEvent → Option Text} {control : Control}

theorem lastWith_eq_some_iff {k : Text} {events : List LedgerEvent} {e : LedgerEvent} :
    lastWith key (some k) events = some e ↔ LastOf key k events e := by
  simp only [lastWith, List.find?_eq_some_iff_append, decide_eq_true_eq, Bool.not_eq_true', decide_eq_false_iff_not]
  constructor
  · rintro ⟨hkey, before, after, heq, hnone⟩
    refine ⟨after.reverse, before.reverse, ?_, hkey, fun later h => hnone later (List.mem_reverse.1 h)⟩
    rw [← List.reverse_reverse events, heq]
    simp
  · rintro ⟨before, after, rfl, hkey, hnone⟩
    exact ⟨hkey, after.reverse, before.reverse, by simp, fun later h => hnone later (List.mem_reverse.1 h)⟩

/-- Of two events with a key in common, one of each list, the second speaks against the first. -/
def Shown (key : LedgerEvent → Option Text) (against : LedgerEvent → LedgerEvent → Prop) (xs ys : List LedgerEvent) : Prop :=
  ∃ x ∈ xs, ∃ k, key x = some k ∧ ∃ y ∈ ys, key y = some k ∧ against x y

/-- The second of them is the last of its key. -/
def ShownByLast (key : LedgerEvent → Option Text) (against : LedgerEvent → LedgerEvent → Prop) (xs ys : List LedgerEvent) :
    Prop :=
  ∃ x ∈ xs, ∃ k, key x = some k ∧ ∃ y, LastOf key k ys y ∧ against x y

/-- What a map of the last events finds is what the last events show. -/
theorem exists_lastWith_iff {against : LedgerEvent → LedgerEvent → Prop} {xs ys : List LedgerEvent} :
    (∃ x ∈ xs, ∃ k, key x = some k ∧ ∃ y, lastWith key (some k) ys = some y ∧ against x y) ↔ ShownByLast key against xs ys := by
  simp only [lastWith_eq_some_iff, ShownByLast]

/-! ## The three conditions -/

/-- The second event was received after the authority's expiry in the first. -/
def AfterExpiry (issued redeemed : LedgerEvent) : Prop :=
  ∃ expiry, authority "authority_expiry" issued = some expiry ∧ isAfter redeemed.receivedAt expiry = true

def SameActor (verification attempt : LedgerEvent) : Prop := actorId attempt = actorId verification

def OtherSpec (created final : LedgerEvent) : Prop := spec "spec_hash" final ≠ spec "spec_hash" created

/-- A capability was issued without an expiry. -/
def Unbounded (b : EvidenceBundle) : Prop :=
  ∃ e ∈ eventsOfType b [.capabilityIssued], authority "authority_expiry" e = none

/-- A verification of an atom without attempts names no actor. -/
def Unattributed (b : EvidenceBundle) : Prop :=
  ∃ e ∈ eventsOfType b [.atomVerificationAccepted, .atomVerificationRejected], ∃ atomId, spec "atom_id" e = some atomId ∧
    lastWith (spec "atom_id") (some atomId) (eventsOfType b [.atomAttemptStarted]) = none ∧ actorId e = none

theorem evaluateCap001_fail : (evaluateCap001 control context b).status = .fail ↔
    Unbounded b ∨ ShownByLast (authority "capability_id") AfterExpiry (eventsOfType b [.capabilityIssued])
      (eventsOfType b [.capabilityRedeemed]) := by
  have hunbounded : (!((eventsOfType b [.capabilityIssued]).filter fun e =>
      (authority "authority_expiry" e).isNone).isEmpty) = true ↔ Unbounded b := by
    simp only [Bool.not_eq_true', List.isEmpty_eq_false_iff_exists_mem, List.mem_filter, Option.isNone_iff_eq_none, Unbounded]
  have hlate : (!((eventsOfType b [.capabilityIssued]).filter
      (lateRedemption (eventsOfType b [.capabilityRedeemed]))).isEmpty) = true ↔
      ShownByLast (authority "capability_id") AfterExpiry (eventsOfType b [.capabilityIssued])
        (eventsOfType b [.capabilityRedeemed]) := by
    rw [← exists_lastWith_iff]
    simp only [Bool.not_eq_true', List.isEmpty_eq_false_iff_exists_mem, List.mem_filter]
    refine exists_congr fun e => and_congr_right fun _ => ?_
    unfold lateRedemption AfterExpiry
    cases authority "capability_id" e <;> cases authority "authority_expiry" e <;> simp
    generalize lastWith _ _ _ = found
    cases found <;> simp
  unfold evaluateCap001
  dsimp only
  split
  · next h =>
    rw [List.isEmpty_iff] at h
    simp [Unbounded, ShownByLast, h, finish]
  split
  · next h => exact iff_of_true rfl (.inl (hunbounded.1 h))
  · next h =>
    split
    · next hlast => exact iff_of_true rfl (.inr (hlate.1 hlast))
    · next hlast =>
      exact iff_of_false ControlResultStatus.noConfusion (not_or.2 ⟨h ∘ hunbounded.2, hlast ∘ hlate.2⟩)

theorem evaluateVer001_fail : (evaluateVer001 control context b).status = .fail ↔
    Unattributed b ∨ ShownByLast (spec "atom_id") SameActor
      (eventsOfType b [.atomVerificationAccepted, .atomVerificationRejected]) (eventsOfType b [.atomAttemptStarted]) := by
  have hsame : (!((eventsOfType b [.atomVerificationAccepted, .atomVerificationRejected]).filter
      (sameIdentity (eventsOfType b [.atomAttemptStarted]))).isEmpty) = true ↔
      Unattributed b ∨ ShownByLast (spec "atom_id") SameActor
        (eventsOfType b [.atomVerificationAccepted, .atomVerificationRejected]) (eventsOfType b [.atomAttemptStarted]) := by
    rw [← exists_lastWith_iff, Unattributed, ← exists_or]
    simp only [Bool.not_eq_true', List.isEmpty_eq_false_iff_exists_mem, List.mem_filter, ← and_or_left]
    refine exists_congr fun e => and_congr_right fun _ => ?_
    unfold sameIdentity SameActor
    cases spec "atom_id" e with
    | none => simp
    | some atomId =>
      simp only [Option.some.injEq, exists_eq_left']
      generalize lastWith _ _ _ = found
      cases found <;> simp
  unfold evaluateVer001
  dsimp only
  split
  · next h =>
    rw [List.isEmpty_iff] at h
    simp [Unattributed, ShownByLast, h, finish]
  · next h =>
    split
    · next hlast => exact iff_of_true rfl (hsame.1 hlast)
    · next hlast => exact iff_of_false ControlResultStatus.noConfusion (hlast ∘ hsame.2)

theorem evaluateVer002_fail : (evaluateVer002 control context b).status = .fail ↔
    ShownByLast (spec "atom_id") OtherSpec (eventsOfType b [.atomCreated]) (eventsOfType b [.atomAccepted, .atomRejected]) := by
  have hother : (!((eventsOfType b [.atomCreated]).filter
      (mismatchedSpec (eventsOfType b [.atomAccepted, .atomRejected]))).isEmpty) = true ↔
      ShownByLast (spec "atom_id") OtherSpec (eventsOfType b [.atomCreated])
        (eventsOfType b [.atomAccepted, .atomRejected]) := by
    rw [← exists_lastWith_iff]
    simp only [Bool.not_eq_true', List.isEmpty_eq_false_iff_exists_mem, List.mem_filter]
    refine exists_congr fun e => and_congr_right fun _ => ?_
    unfold mismatchedSpec OtherSpec
    cases spec "atom_id" e with
    | none => simp
    | some atomId =>
      simp only [Option.some.injEq, exists_eq_left']
      generalize lastWith _ _ _ = found
      cases found <;> simp
  unfold evaluateVer002
  dsimp only
  split
  · next h =>
    rw [List.isEmpty_iff] at h
    simp [ShownByLast, h, finish]
  split
  · next hlast => exact iff_of_true rfl (hother.1 hlast)
  · next hlast =>
    refine iff_of_false ?_ (hlast ∘ hother.2)
    split <;> exact ControlResultStatus.noConfusion

/-! ## What the evaluation says -/

/-- The control is evaluated, and fails. -/
def Fails (sha256 : Text → Text) (control : Control) (context : EvaluationContext) (b : EvidenceBundle) : Prop :=
  ∃ r, evaluateControl sha256 control context b = .ok r ∧ r.status = .fail

/-- The gate changes no failure, so a control fails where its evaluator does. -/
theorem fails_iff {evaluator : ControlEvaluator} (h : evaluateControl sha256 control context b =
      .ok (qualifyEvidenceIntegrity control (evaluator control context b) context)) :
    Fails sha256 control context b ↔ (evaluator control context b).status = .fail := by
  rw [Fails, h]
  simp only [Except.ok.injEq, exists_eq_left']
  exact qualifyEvidenceIntegrity_fail

/-- A redemption after an expiry the capability was issued with. -/
def RedeemedLate (b : EvidenceBundle) : Prop :=
  Shown (authority "capability_id") AfterExpiry (eventsOfType b [.capabilityIssued]) (eventsOfType b [.capabilityRedeemed])

/-- A verification by the actor of an attempt of the atom. -/
def SelfVerified (b : EvidenceBundle) : Prop :=
  Shown (spec "atom_id") SameActor (eventsOfType b [.atomVerificationAccepted, .atomVerificationRejected])
    (eventsOfType b [.atomAttemptStarted])

/-- A final event of an atom with another specification than a creation of it. -/
def Respecified (b : EvidenceBundle) : Prop :=
  Shown (spec "atom_id") OtherSpec (eventsOfType b [.atomCreated]) (eventsOfType b [.atomAccepted, .atomRejected])

/-- What is claimed: none of the three conditions is missed. -/
structure NeverMissed (sha256 : Text → Text) (context : EvaluationContext) (b : EvidenceBundle) : Prop where
  cap001 : RedeemedLate b → Fails sha256 cap001 context b
  ver001 : SelfVerified b → Fails sha256 ver001 context b
  ver002 : Respecified b → Fails sha256 ver002 context b

/-- **The last events tell**: where a condition is met, an event that is the last of its capability or atom meets it, or the
control fails for another reason. -/
structure LastTells (b : EvidenceBundle) : Prop where
  cap001 : RedeemedLate b → Unbounded b ∨
    ShownByLast (authority "capability_id") AfterExpiry (eventsOfType b [.capabilityIssued])
      (eventsOfType b [.capabilityRedeemed])
  ver001 : SelfVerified b → Unattributed b ∨
    ShownByLast (spec "atom_id") SameActor (eventsOfType b [.atomVerificationAccepted, .atomVerificationRejected])
      (eventsOfType b [.atomAttemptStarted])
  ver002 : Respecified b →
    ShownByLast (spec "atom_id") OtherSpec (eventsOfType b [.atomCreated]) (eventsOfType b [.atomAccepted, .atomRejected])

/-- **A failure is never missed** exactly when the last events tell. -/
theorem neverMissed_iff_lastTells (sha256 : Text → Text) (context : EvaluationContext) (b : EvidenceBundle) :
    NeverMissed sha256 context b ↔ LastTells b := by
  have hcap001 : Fails sha256 cap001 context b ↔ _ := (fails_iff rfl).trans evaluateCap001_fail
  have hver001 : Fails sha256 ver001 context b ↔ _ := (fails_iff rfl).trans evaluateVer001_fail
  have hver002 : Fails sha256 ver002 context b ↔ _ := (fails_iff rfl).trans evaluateVer002_fail
  constructor
  · intro h
    exact ⟨fun hshown => hcap001.1 (h.cap001 hshown), fun hshown => hver001.1 (h.ver001 hshown),
      fun hshown => hver002.1 (h.ver002 hshown)⟩
  · intro h
    exact ⟨fun hshown => hcap001.2 (h.cap001 hshown), fun hshown => hver001.2 (h.ver001 hshown),
      fun hshown => hver002.2 (h.ver002 hshown)⟩

/-! ## A producer that verifies its atom -/

/-- An event of an atom, by an actor. -/
def atomEvent (eventId eventType actor : Text) : Value :=
  .obj [("version", .str "1.0"), ("event_id", .str eventId), ("event_type", .str eventType), ("tenant_id", .str "t"),
    ("stream_id", .str "s"), ("actor", .obj [("type", .str "AGENT"), ("id", .str actor)]), ("correlation_id", .str "c"),
    ("source_component", .str "vad-engine"), ("occurred_at", .str "2026-01-01T12:00:00.000Z"),
    ("spec_context", .obj [("atom_id", .str "a")])]

def atomCall (eventId eventType actor : Text) (h : (atomEvent eventId eventType actor).distinct = true) : AppendCall :=
  ⟨⟨"w", .writer, "t", [.vadEngine]⟩, ⟨atomEvent eventId eventType actor, h⟩, "2026-01-01T13:00:00.000Z"⟩

/-- Two attempts of an atom by two producers, and a verification by the first of them. -/
def retriedAtom : List AppendCall :=
  [atomCall "e1" "ATOM_ATTEMPT_STARTED" "p1" (by decide), atomCall "e2" "ATOM_ATTEMPT_STARTED" "p2" (by decide),
   atomCall "e3" "ATOM_VERIFICATION_ACCEPTED" "p1" (by decide)]

/-- The events of a bundle meet the condition of `TNA-VER-001`. -/
def selfVerified (b : EvidenceBundle) : Bool :=
  (eventsOfType b [.atomVerificationAccepted, .atomVerificationRejected]).any fun v =>
    decide (spec "atom_id" v = some (Text.ofAscii "a")) && (eventsOfType b [.atomAttemptStarted]).any fun e =>
      decide (spec "atom_id" e = some (Text.ofAscii "a")) && decide (actorId e = actorId v)

theorem selfVerified_of (h : selfVerified b = true) : SelfVerified b := by
  obtain ⟨v, hv, htest⟩ := List.any_eq_true.1 h
  rw [Bool.and_eq_true, decide_eq_true_eq] at htest
  obtain ⟨e, he, hsame⟩ := List.any_eq_true.1 htest.2
  rw [Bool.and_eq_true, decide_eq_true_eq, decide_eq_true_eq] at hsame
  exact ⟨v, hv, _, htest.1, e, he, hsame.1, hsame.2⟩

/-- The verification is by the producer of the first attempt, and the control passes: the second attempt replaced it. -/
theorem missed_selfVerification : ∃ bundle t,
    collect sampleCollection (runAppends id retriedAtom) firstOfJanuary = .ok (bundle, t) ∧ SelfVerified bundle ∧
      passed (evaluateControl id ver001 sampleEvaluation bundle) = true ∧ ¬ NeverMissed id sampleEvaluation bundle := by
  have hcollected : (collect sampleCollection (runAppends id retriedAtom) firstOfJanuary).toOption.any
      (fun r => selfVerified r.1 && passed (evaluateControl id ver001 sampleEvaluation r.1)) = true := by decide +kernel
  obtain ⟨⟨bundle, t⟩, hcollect, htest⟩ := (Option.any_eq_true ..).1 hcollected
  rw [Bool.and_eq_true] at htest
  have hshown := selfVerified_of htest.1
  refine ⟨bundle, t, ok_of_toOption hcollect, hshown, htest.2, fun hmissed => ?_⟩
  obtain ⟨r, hr, hfail⟩ := hmissed.ver001 hshown
  have hpassed := htest.2
  rw [hr] at hpassed
  simp [passed, hfail] at hpassed

end Tna.Auditor
