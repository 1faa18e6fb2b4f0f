import Tna.Auditor.Passing

/-!
# Passing on verified evidence alone

Dropping the events of streams that did not verify can take a `PASS` away: the gate looks
at the cited events only, and some evaluators decide from others too. `SupportedByValid`
says for each control when the verified events carry its `PASS` by themselves.
-/

namespace Tna.Auditor

open Tna.Js Tna.Ledger

variable {control : Control} {context : EvaluationContext} {b : EvidenceBundle} {sha256 : Text → Text}

/-- The bundle without the events of streams whose qualification is not `VALID`. -/
def EvidenceBundle.validOnly (b : EvidenceBundle) : EvidenceBundle :=
  { b with events := b.events.filter fun e => decide (b.Valid e) }

theorem eventsOfType_validOnly (types : List EventType) :
    eventsOfType b.validOnly types = (eventsOfType b types).filter fun e => decide (b.Valid e) := by
  simp only [eventsOfType, EvidenceBundle.validOnly, List.filter_filter, Bool.and_comm]

variable {e : LedgerEvent} {types : List EventType} {cited : EvidenceBundle → List LedgerEvent}
  {criterion : EvidenceBundle → Prop} {evaluator : ControlEvaluator} {support manifest : Prop}

theorem mem_validOnly : e ∈ eventsOfType b.validOnly types ↔ e ∈ eventsOfType b types ∧ b.Valid e := by
  simp [eventsOfType_validOnly]

theorem mem_events_of_type (h : e ∈ eventsOfType b types) : e ∈ b.events :=
  List.mem_of_mem_filter h

theorem mem_of_append_types {types' : List EventType} (e : LedgerEvent) (h : e ∈ eventsOfType b types ++ eventsOfType b types') :
    e ∈ b.events :=
  (List.mem_append.1 h).elim mem_events_of_type mem_events_of_type

/-- What is left in the bundle comes from streams that verified. -/
theorem valid_of_mem_validOnly (h : e ∈ b.validOnly.events) : b.validOnly.Valid e :=
  of_decide_eq_true (List.mem_filter.1 h).2

/-! ## Two runs of one control -/

/-- How a control's criterion fares when the bundle loses what did not verify. -/
structure Carried (criterion : EvidenceBundle → Prop) (cited : EvidenceBundle → List LedgerEvent)
    (b : EvidenceBundle) (support : Prop) : Prop where
  within : ∀ e ∈ cited b.validOnly, e ∈ b.validOnly.events
  iff : criterion b → (∀ e ∈ (cited b).take maxRefs, b.Valid e) → (criterion b.validOnly ↔ support)

/-- **Past the gate, both runs of the control pass exactly when the verified events support it.** -/
theorem Carried.gate (hcarried : Carried criterion cited b support)
    (hpasses : ∀ b, Passes (evaluator control context b) b (cited b) (criterion b)) (hid : control.controlId ≠ Text.ofAscii "TNA-INTEG-001")
    (h : (qualifyEvidenceIntegrity control (evaluator control context b) context).status = .pass) :
    (qualifyEvidenceIntegrity control (evaluator control context b.validOnly) context).status = .pass ↔ support := by
  obtain ⟨hc, hvalid⟩ := ((hpasses b).gate hid).1 h
  rw [(hpasses b.validOnly).gate hid, and_iff_left, hcarried.iff hc hvalid]
  intro e he
  exact valid_of_mem_validOnly (hcarried.within e (List.mem_of_mem_take he))

/-- The first of the cited events is cited, so some of them are left. -/
theorem filter_ne_nil_of_cited {events cited : List LedgerEvent} (hne : events ≠ []) (hleading : events <+: cited)
    (h : ∀ e ∈ cited.take maxRefs, b.Valid e) : (events.filter fun e => decide (b.Valid e)) ≠ [] := by
  obtain ⟨rest, rfl⟩ := hleading
  cases events with
  | nil => exact absurd rfl hne
  | cons e events =>
    have hv : b.Valid e := h e (List.mem_cons_self ..)
    simp [hv]

/-- A control that wants faultless events: the verified ones remain, and must be faultless among themselves. -/
theorem carried_noneFaulty {fault : EvidenceBundle → LedgerEvent → Bool}
    (hwithin : ∀ e ∈ cited b.validOnly, e ∈ b.validOnly.events) (hleading : eventsOfType b types <+: cited b) :
    Carried (fun b => NoneFaulty (eventsOfType b types) (fault b)) cited b
      (∀ e ∈ eventsOfType b.validOnly types, fault b.validOnly e = false) where
  within := hwithin
  iff hc hvalid := by
    refine ⟨NoneFaulty.faultless, fun h => ⟨?_, h⟩⟩
    rw [eventsOfType_validOnly]
    exact filter_ne_nil_of_cited hc.some_event hleading hvalid

/-- Nothing to support where the fault is the event's own. -/
theorem carried_noneFaulty_self {fault : LedgerEvent → Bool} :
    Carried (fun b => NoneFaulty (eventsOfType b types) fault) (fun b => eventsOfType b types) b True where
  within _ he := mem_events_of_type he
  iff hc hvalid := by
    have hcarried : Carried (fun b => NoneFaulty (eventsOfType b types) fault) (fun b => eventsOfType b types) b _ :=
      carried_noneFaulty (fun _ he => mem_events_of_type he) (List.prefix_refl _)
    rw [hcarried.iff hc hvalid]
    exact iff_true_intro fun e he => hc.faultless e (mem_validOnly.1 he).1

/-- A criterion that any smaller bundle meets, with nothing of the bundle cited. -/
theorem carried_of_stays (h : criterion b → criterion b.validOnly) :
    Carried criterion (fun _ => []) b True where
  within _ he := nomatch he
  iff hc _ := iff_true_intro (h hc)

/-- A control that observed events or the manifest satisfy. -/
theorem carried_or_manifest {holds : EvidenceBundle → Prop} (hsupport : holds b → (holds b.validOnly ↔ support)) :
    Carried (fun b => holds b ∧ (eventsOfType b types = [] → manifest)) (fun b => eventsOfType b types) b
      support where
  within _ he := mem_events_of_type he
  iff hc hvalid := by
    rw [← hsupport hc.1]
    refine and_iff_left fun hnil => hc.2 ?_
    by_contra hne
    rw [eventsOfType_validOnly] at hnil
    exact filter_ne_nil_of_cited hne (List.prefix_refl _) hvalid hnil

/-! ## The controls -/

/-- **When the verified events of a bundle carry the `PASS` of a control by themselves.** -/
def SupportedByValid (sha256 : Text → Text) (context : EvaluationContext) (b : EvidenceBundle)
    (controlId : Text) : Prop :=
  let v := b.validOnly
  if controlId = Text.ofAscii "TNA-IDENT-001" then
    ∀ e ∈ eventsOfType v [.authorizationAllowed, .authorizationBlocked, .authorizationHeld],
      ∀ agentId, authority "agent_id" e = some agentId →
        ∃ r ∈ eventsOfType v [.agentRegistered], authority "agent_id" r = some agentId
  else if controlId = Text.ofAscii "TNA-APPR-001" then
    ∀ e ∈ eventsOfType v [.authorizationHeld],
      ∃ a ∈ eventsOfType v [.approvalGranted, .approvalRejected], a.correlationId = e.correlationId
  else if controlId = Text.ofAscii "TNA-CAP-001" then
    ∀ e ∈ eventsOfType v [.capabilityIssued], lateRedemption (eventsOfType v [.capabilityRedeemed]) e = false
  else if controlId = Text.ofAscii "TNA-CAP-003" then
    ∀ r ∈ eventsOfType v [.agentRevoked], ∃ proof,
      proofOf (eventsOfType v [.authorizationBlocked, .capabilityRejected]) r = some proof ∧
        isFresh proof context maxRevocationProofAgeSeconds = true
  else if controlId = Text.ofAscii "TNA-EXEC-001" then
    ∀ e ∈ eventsOfType v [.executionStarted],
      ∃ r ∈ eventsOfType v [.capabilityRedeemed], r.correlationId = e.correlationId
  else if controlId = Text.ofAscii "TNA-EXEC-002" then AttemptsBounded v
  else if controlId = Text.ofAscii "TNA-VER-001" then
    ∀ e ∈ eventsOfType v [.atomVerificationAccepted, .atomVerificationRejected],
      sameIdentity (eventsOfType v [.atomAttemptStarted]) e = false
  else if controlId = Text.ofAscii "TNA-VER-002" then
    (∀ e ∈ eventsOfType v [.atomCreated],
        mismatchedSpec (eventsOfType v [.atomAccepted, .atomRejected]) e = false) ∧
      (eventsOfType v [.atomCreated]).length ≤
        (resolvedAtoms (eventsOfType v [.atomCreated]) (eventsOfType v [.atomAccepted, .atomRejected])).length
  else if controlId = Text.ofAscii "TNA-RUNTIME-001" then
    ∀ e ∈ eventsOfType v [.authorizationAllowed], unmonitoredBy (eventsOfType v [.sentinelSessionStarted]) e = false
  else if controlId = Text.ofAscii "TNA-RUNTIME-005" then
    TerminationObserved v ∨ ManifestSatisfies sha256 context controlId
  else if controlId = Text.ofAscii "TNA-REVOKE-001" then ∀ c ∈ midSessions v, c.termination.isSome = true
  else True

theorem carried_ident001 :
    Carried IdentityBound
      (fun b => eventsOfType b [.authorizationAllowed, .authorizationBlocked, .authorizationHeld]) b
      (∀ e ∈ eventsOfType b.validOnly [.authorizationAllowed, .authorizationBlocked, .authorizationHeld],
        ∀ agentId, authority "agent_id" e = some agentId →
          ∃ r ∈ eventsOfType b.validOnly [.agentRegistered], authority "agent_id" r = some agentId) where
  within _ he := mem_events_of_type he
  iff hc hvalid := by
    refine ⟨IdentityBound.registered, fun h => ⟨?_, fun e he => hc.bound e (mem_validOnly.1 he).1, h⟩⟩
    rw [eventsOfType_validOnly]
    exact filter_ne_nil_of_cited hc.some_event (List.prefix_refl _) hvalid

theorem carried_auth001 :
    Carried AuthorityBound (fun b => eventsOfType b [.authorizationAllowed, .authorizationBlocked]) b True where
  within _ he := mem_events_of_type he
  iff hc hvalid := by
    refine iff_true_intro ⟨?_, fun e he => hc.bound e (mem_validOnly.1 he).1⟩
    rw [eventsOfType_validOnly]
    exact filter_ne_nil_of_cited hc.some_event (List.prefix_refl _) hvalid

theorem carried_cap001 :
    Carried CapabilitiesBounded (fun b => eventsOfType b [.capabilityIssued] ++ eventsOfType b [.capabilityRedeemed]) b
      (∀ e ∈ eventsOfType b.validOnly [.capabilityIssued],
        lateRedemption (eventsOfType b.validOnly [.capabilityRedeemed]) e = false) where
  within := mem_of_append_types
  iff hc hvalid := by
    refine ⟨CapabilitiesBounded.timely, fun h => ⟨?_, fun e he => hc.bounded e (mem_validOnly.1 he).1, h⟩⟩
    rw [eventsOfType_validOnly]
    exact filter_ne_nil_of_cited hc.some_event (List.prefix_append ..) hvalid

theorem singleUse_validOnly (h : SingleUse b) : SingleUse b.validOnly := by
  intro id
  rw [eventsOfType_validOnly, List.filter_comm]
  exact (List.length_filter_le ..).trans (h id)

/-- The loop over the revocations cites events of the bundle. -/
theorem mem_of_citedOfRevocations (h : e ∈ citedOfRevocations context b) : e ∈ b.events := by
  obtain ⟨r, hr, he⟩ := List.mem_flatMap.1 h
  rcases List.mem_cons.1 he with rfl | he
  · exact mem_events_of_type hr
  · unfold enforcementOf violationOf proofOf at he
    split at he
    · next hfound =>
      obtain rfl := List.mem_singleton.1 he
      exact mem_events_of_type (List.mem_of_find?_eq_some hfound)
    · cases he
    · next hfound =>
      split at he <;>
      · obtain rfl := List.mem_singleton.1 he
        exact mem_events_of_type (List.mem_of_find?_eq_some hfound)

theorem carried_cap003 :
    Carried (RevocationsEnforced context) (citedOfRevocations context) b
      (∀ r ∈ eventsOfType b.validOnly [.agentRevoked], ∃ proof,
        proofOf (eventsOfType b.validOnly [.authorizationBlocked, .capabilityRejected]) r = some proof ∧
          isFresh proof context maxRevocationProofAgeSeconds = true) where
  within _ he := mem_of_citedOfRevocations he
  iff hc hvalid := by
    have hviolation : ∀ r ∈ eventsOfType b.validOnly [.agentRevoked],
        violationOf (eventsOfType b.validOnly [.authorizationAllowed, .capabilityRedeemed]) r = none := by
      intro r hr
      obtain ⟨proof, hproof⟩ := hc.enforced r (mem_validOnly.1 hr).1
      refine List.find?_eq_none.2 fun e he => ?_
      exact List.find?_eq_none.1 (enforcementOf_eq_enforced.1 hproof).1 e (mem_validOnly.1 he).1
    constructor
    · intro h r hr
      obtain ⟨proof, hproof⟩ := h.enforced r hr
      exact ⟨proof, (enforcementOf_eq_enforced.1 hproof).2⟩
    · intro h
      refine ⟨?_, fun r hr => ?_⟩
      · rw [eventsOfType_validOnly]
        obtain ⟨r, rest, hrs⟩ := List.exists_cons_of_ne_nil hc.some_event
        have hfirst : [r] <+: citedOfRevocations context b := by
          rw [citedOfRevocations, hrs]
          exact ⟨_, rfl⟩
        have hr := filter_ne_nil_of_cited (List.cons_ne_nil r []) hfirst hvalid
        rw [hrs, ← List.singleton_append, List.filter_append]
        exact fun hnil => hr (List.append_eq_nil_iff.1 hnil).1
      · obtain ⟨proof, hproof⟩ := h r hr
        exact ⟨proof, enforcementOf_eq_enforced.2 ⟨hviolation r hr, hproof⟩⟩

theorem carried_ver002 :
    Carried SpecsKept (fun b => eventsOfType b [.atomCreated] ++ eventsOfType b [.atomAccepted, .atomRejected]) b
      ((∀ e ∈ eventsOfType b.validOnly [.atomCreated],
          mismatchedSpec (eventsOfType b.validOnly [.atomAccepted, .atomRejected]) e = false) ∧
        (eventsOfType b.validOnly [.atomCreated]).length ≤
          (resolvedAtoms (eventsOfType b.validOnly [.atomCreated])
            (eventsOfType b.validOnly [.atomAccepted, .atomRejected])).length) where
  within := mem_of_append_types
  iff hc hvalid := by
    refine ⟨fun h => ⟨h.kept, h.resolved⟩, fun h => ⟨?_, h.1, h.2⟩⟩
    rw [eventsOfType_validOnly]
    exact filter_ne_nil_of_cited hc.some_event (List.prefix_append ..) hvalid

theorem carried_runtime001 :
    Carried Monitored (fun b => eventsOfType b [.authorizationAllowed] ++ eventsOfType b [.sentinelSessionStarted]) b
      (∀ e ∈ eventsOfType b.validOnly [.authorizationAllowed],
        unmonitoredBy (eventsOfType b.validOnly [.sentinelSessionStarted]) e = false) where
  within := mem_of_append_types
  iff hc hvalid := by
    refine ⟨Monitored.monitored, fun h => ⟨?_, h⟩⟩
    rw [eventsOfType_validOnly, eventsOfType_validOnly, ← List.filter_append]
    exact filter_ne_nil_of_cited hc.some_event (List.prefix_refl _) hvalid

theorem carried_runtime005 :
    Carried (fun b => ¬ TerminationObserved b → manifest) citedOfTerminations b
      (TerminationObserved b.validOnly ∨ manifest) where
  within e he := by
    unfold citedOfTerminations at he
    split at he
    · exact mem_of_append_types e he
    · cases he
  iff _ _ := or_iff_not_imp_left.symm

/-- A revocation that is left, with its session, is still during a session. -/
theorem midSessions_validOnly_ne_nil (hc : midSessions b ≠ [])
    (hvalid : ∀ e ∈ (citedOfMidSessions b).take maxRefs, b.Valid e) : midSessions b.validOnly ≠ [] := by
  obtain ⟨c, rest, hcs⟩ := List.exists_cons_of_ne_nil hc
  have hcited : citedOfMidSessions b = c.revocation :: c.activeSession :: (c.termination.toList ++
      rest.flatMap fun c => c.revocation :: c.activeSession :: c.termination.toList) := by
    rw [citedOfMidSessions, hcs]
    rfl
  rw [hcited] at hvalid
  have hrevocation : b.Valid c.revocation := hvalid _ (List.mem_cons_self ..)
  have hsession : b.Valid c.activeSession := hvalid _ (List.mem_cons_of_mem _ (List.mem_cons_self ..))
  obtain ⟨r, hr, hmid⟩ := List.mem_filterMap.1 (hcs ▸ List.mem_cons_self .. : c ∈ midSessions b)
  obtain ⟨s, hs, rfl⟩ := Option.map_eq_some_iff.1 hmid
  have hfound : ((eventsOfType b.validOnly [.sentinelSessionStarted]).find? fun s =>
      decide (authority "agent_id" s = actorId r) && isAtOrAfter r.receivedAt s.receivedAt).isSome = true := by
    have hmatches := List.find?_some hs
    exact List.find?_isSome.2 ⟨s, mem_validOnly.2 ⟨List.mem_of_find?_eq_some hs, hsession⟩, hmatches⟩
  obtain ⟨s', hs'⟩ := Option.isSome_iff_exists.1 hfound
  have hkept : (midSessionOf (eventsOfType b.validOnly [.sentinelSessionStarted])
      (eventsOfType b.validOnly [.sentinelTerminated, .sentinelTerminationRequested]) r).isSome = true := by
    rw [midSessionOf, hs']
    rfl
  obtain ⟨c', hc'⟩ := Option.isSome_iff_exists.1 hkept
  exact List.ne_nil_of_mem (List.mem_filterMap.2 ⟨r, mem_validOnly.2 ⟨hr, hrevocation⟩, hc'⟩)

theorem carried_revoke001 :
    Carried MidSessionEnforced citedOfMidSessions b
      (∀ c ∈ midSessions b.validOnly, c.termination.isSome = true) where
  within e he := by
    obtain ⟨c, hc, he⟩ := List.mem_flatMap.1 he
    obtain ⟨r, hr, hmid⟩ := List.mem_filterMap.1 hc
    obtain ⟨s, hs, rfl⟩ := Option.map_eq_some_iff.1 hmid
    rcases List.mem_cons.1 he with rfl | he
    · exact mem_events_of_type hr
    rcases List.mem_cons.1 he with rfl | he
    · exact mem_events_of_type (List.mem_of_find?_eq_some hs)
    · exact mem_events_of_type (List.mem_of_find?_eq_some (Option.mem_toList.1 he))
  iff hc hvalid :=
    ⟨MidSessionEnforced.enforced, fun h => ⟨midSessions_validOnly_ne_nil hc.some_session hvalid, h⟩⟩

theorem carried_observed :
    Carried (fun b => eventsOfType b types = [] → manifest) (fun b => eventsOfType b types) b True where
  within _ he := mem_events_of_type he
  iff hc hvalid := by
    refine iff_true_intro fun hnil => hc ?_
    by_contra hne
    rw [eventsOfType_validOnly] at hnil
    exact filter_ne_nil_of_cited hne (List.prefix_refl _) hvalid hnil

theorem carried_contain001 :
    Carried (fun b => ContainmentTruthful b ∧ manifest) (fun b => eventsOfType b [.sentinelTerminated]) b True where
  within _ he := mem_events_of_type he
  iff hc _ := iff_true_intro ⟨fun e he => hc.1 e (mem_validOnly.1 he).1, hc.2⟩

theorem carried_recov001 :
    Carried (fun b => (∀ e ∈ eventsOfType b [.sentinelContainmentFailed],
        containmentStatus e ≠ some (Text.ofAscii "CONTAINMENT_CONFIRMED")) ∧
        (eventsOfType b [.sentinelContainmentFailed] = [] → manifest))
      (fun b => eventsOfType b [.sentinelContainmentFailed]) b True :=
  carried_or_manifest fun h => iff_true_intro fun e he => h e (mem_validOnly.1 he).1

/-! ## Every control -/

/-- A control is evaluated by the evaluator it was registered with. -/
theorem registered_of_evaluatorOf {controlId : Text} (h : evaluatorOf sha256 controlId = some evaluator) :
    ∃ registration ∈ registrations sha256, registration.1.controlId = controlId ∧ registration.2 = evaluator := by
  obtain ⟨registration, hfound, heq⟩ := Option.map_eq_some_iff.1 h
  have hid := List.find?_some hfound
  exact ⟨registration, List.mem_of_find?_eq_some hfound, by simpa using hid, heq⟩

/-- The gate's two answers for the evaluator of a registered control. -/
theorem gate_iff_supported {registration : Control × ControlEvaluator} (h : registration ∈ registrations sha256)
    (hid : registration.1.controlId = control.controlId) (hne : control.controlId ≠ Text.ofAscii "TNA-INTEG-001")
    (hpass : (qualifyEvidenceIntegrity control (registration.2 control context b) context).status = .pass) :
    (qualifyEvidenceIntegrity control (registration.2 control context b.validOnly) context).status = .pass ↔
      SupportedByValid sha256 context b control.controlId := by
  have hgate {criterion cited support} (hpasses : ∀ b, Passes (registration.2 control context b) b (cited b) (criterion b))
      (hcarried : Carried criterion cited b support) := (hcarried.gate hpasses hne hpass).trans
        (c := SupportedByValid sha256 context b registration.1.controlId)
  rw [← hid]
  simp only [registrations, List.mem_cons, List.not_mem_nil, or_false] at h
  rcases h with rfl | rfl | rfl | rfl | rfl | rfl | rfl | rfl | rfl | rfl | rfl | rfl | rfl | rfl | rfl | rfl | rfl |
    rfl | rfl | rfl | rfl | rfl | rfl | rfl | rfl | rfl | rfl
  · refine hgate (fun _ => passes_ident001) carried_ident001 ?_
    simp [SupportedByValid, ident001]
  · refine hgate (fun _ => passes_auth001) carried_auth001 ?_
    simp [SupportedByValid, auth001]
  · refine hgate (fun _ => passes_auth002) carried_noneFaulty_self ?_
    simp [SupportedByValid, auth002]
  · refine hgate (fun _ => passes_appr001) (carried_noneFaulty mem_of_append_types (List.prefix_append ..)) ?_
    simp [SupportedByValid, appr001]
  · refine hgate (fun _ => passes_cap001) carried_cap001 ?_
    simp [SupportedByValid, cap001]
  · refine hgate (fun _ => passes_cap002) (carried_of_stays (And.imp_left singleUse_validOnly)) ?_
    simp [SupportedByValid, cap002]
  · refine hgate (fun _ => passes_cap003) carried_cap003 ?_
    simp [SupportedByValid, cap003]
  · refine hgate (fun _ => passes_exec001) (carried_noneFaulty mem_of_append_types (List.prefix_append ..)) ?_
    simp [SupportedByValid, exec001]
  · refine hgate (fun _ => passes_exec002) (carried_or_manifest fun _ => Iff.rfl) ?_
    simp [SupportedByValid, exec002]
  · refine hgate (fun _ => passes_manifestOnly) (carried_of_stays (b := b) fun h => h) ?_
    simp [SupportedByValid, iso001]
  · refine hgate (fun _ => passes_sec001) (carried_of_stays (And.imp_left fun h e he => h e (List.mem_of_mem_filter he))) ?_
    simp [SupportedByValid, sec001]
  · refine hgate (fun _ => passes_manifestOnly) (carried_of_stays (b := b) fun h => h) ?_
    simp [SupportedByValid, egr001]
  · refine hgate (fun _ => passes_ver001) (carried_noneFaulty (fun _ he => mem_events_of_type he) (List.prefix_refl _)) ?_
    simp [SupportedByValid, ver001]
  · refine hgate (fun _ => passes_ver002) carried_ver002 ?_
    simp [SupportedByValid, ver002]
  · refine hgate (fun _ => passes_manifestOnly) (carried_of_stays (b := b) fun h => h) ?_
    simp [SupportedByValid, evid001]
  · refine hgate (fun _ => passes_human001) carried_noneFaulty_self ?_
    simp [SupportedByValid, human001]
  · exact absurd hid.symm hne
  · refine hgate (fun _ => passes_ten001) (carried_of_stays (And.imp_left fun h e he => h e (List.mem_of_mem_filter he))) ?_
    simp [SupportedByValid, ten001]
  · refine hgate (fun _ => passes_runtime001) carried_runtime001 ?_
    simp [SupportedByValid, runtime001]
  · refine hgate (fun _ => passes_observed) carried_observed ?_
    simp [SupportedByValid, runtime002]
  · refine hgate (fun _ => passes_observed) carried_observed ?_
    simp [SupportedByValid, runtime003]
  · refine hgate (fun _ => passes_observed) carried_observed ?_
    simp [SupportedByValid, runtime004]
  · refine hgate (fun _ => passes_runtime005) carried_runtime005 ?_
    simp [SupportedByValid, ← hid, runtime005]
  · refine hgate (fun _ => passes_contain001) carried_contain001 ?_
    simp [SupportedByValid, contain001]
  · refine hgate (fun _ => passes_observed) carried_observed ?_
    simp [SupportedByValid, contain002]
  · refine hgate (fun _ => passes_revoke001) carried_revoke001 ?_
    simp [SupportedByValid, revoke001]
  · refine hgate (fun _ => passes_recov001) carried_recov001 ?_
    simp [SupportedByValid, recov001]

/-- The evaluation came to `PASS`. -/
def passed : Except AuditorError ControlResult → Bool
  | .ok r => r.status == .pass
  | .error _ => false

/-- **A control that passes on a bundle passes on its verified events alone exactly when they support it.** -/
theorem passed_validOnly_iff (hid : control.controlId ≠ Text.ofAscii "TNA-INTEG-001")
    (h : passed (evaluateControl sha256 control context b) = true) :
    passed (evaluateControl sha256 control context b.validOnly) = true ↔
      SupportedByValid sha256 context b control.controlId := by
  unfold evaluateControl at h ⊢
  cases hevaluator : evaluatorOf sha256 control.controlId with
  | none =>
    rw [hevaluator] at h
    cases h
  | some evaluator =>
    obtain ⟨registration, hmem, hregistered, rfl⟩ := registered_of_evaluatorOf hevaluator
    rw [hevaluator] at h
    simp only [passed, beq_iff_eq] at h ⊢
    exact gate_iff_supported hmem hregistered hid h

/-! ## A registration from a stream that did not verify -/

def auditedEvent (eventId streamId receivedAt actor : Text) (eventType : EventType)
    (authorityContext : List (Text × Value)) : LedgerEvent where
  version := "1.0"
  eventId := eventId
  eventType := eventType.name
  tenantId := "t1"
  streamId := streamId
  actor := .obj [("type", .str "SYSTEM"), ("id", .str actor)]
  correlationId := "c1"
  sourceComponent := "tna-gate"
  causationId := .absent
  parentEventId := .absent
  occurredAt := none
  authorityContext := .obj authorityContext
  specContext := .undefined
  executionContext := .undefined
  artifactContext := .undefined
  payload := .undefined
  classification := none
  retention := .undefined
  sequence := 1
  receivedAt := receivedAt
  persistedAt := receivedAt
  payloadHash := "p"
  previousEventHash := "GENESIS"
  eventHash := "h"

def sampleEvaluation : EvaluationContext where
  assessmentId := "as1"
  tenantId := "t1"
  now := 1735689600000
  profileId := .tnaBaselineV01
  manifest := none

/-- The decision is in a stream that verified, the agent's registration in another stream. -/
def registeredElsewhere (registry : EvidenceQualification) : EvidenceBundle where
  tenantId := "t1"
  evidenceCutoffAt := "2025-01-01T00:00:00.000Z"
  collectedAt := "2025-01-01T00:00:00.000Z"
  events :=
    [auditedEvent "e1" "decisions" "2024-12-31T10:00:00.000Z" "tna-gate" .authorizationAllowed
      [("agent_id", .str "a1")],
     auditedEvent "e2" "registry" "2024-12-31T09:00:00.000Z" "tna-gate" .agentRegistered [("agent_id", .str "a1")]]
  streamIntegrity :=
    [("decisions", ⟨.valid, none, "2025-01-01T00:00:00.000Z"⟩),
     ("registry", ⟨registry, none, "2025-01-01T00:00:00.000Z"⟩)]
  conflicts := []
  truncated := false

theorem passed_validOnly_iff_registered :
    passed (evaluateControl id ident001 sampleEvaluation (registeredElsewhere .valid).validOnly) = true ↔
      SupportedByValid id sampleEvaluation (registeredElsewhere .valid) ident001.controlId :=
  passed_validOnly_iff (by decide) (by decide +kernel)

/-- The registration is not cited, so the gate does not see where it comes from. -/
theorem not_passed_validOnly :
    ¬ ∀ (sha256 : Text → Text) (control : Control) (context : EvaluationContext) (b : EvidenceBundle),
      control.controlId ≠ Text.ofAscii "TNA-INTEG-001" →
        passed (evaluateControl sha256 control context b) = true →
        passed (evaluateControl sha256 control context b.validOnly) = true := by
  intro h
  have hpassed := h id ident001 sampleEvaluation (registeredElsewhere .invalid) (by decide) (by decide +kernel)
  exact absurd hpassed (by decide +kernel)

end Tna.Auditor
