import Tna.Auditor.Catalog

/-!
# When a control passes

For each evaluator: the criterion its `PASS` stands for, and the events it cites then. The
gate lets a `PASS` stand when the first `maxRefs` of the cited events come from streams
that verified.
-/

namespace Tna.Auditor

open Tna.Js Tna.Ledger

variable {control : Control} {context : EvaluationContext} {b : EvidenceBundle} {sha256 : Text → Text}

/-- The event's stream verified. -/
def EvidenceBundle.Valid (b : EvidenceBundle) (e : LedgerEvent) : Prop := b.qualificationOf e.streamId = some .valid

instance (b : EvidenceBundle) (e : LedgerEvent) : Decidable (b.Valid e) := inferInstanceAs (Decidable (_ = _))

/-- The result passes under a criterion, and cites these events and the manifest at most. -/
structure Passes (r : ControlResult) (b : EvidenceBundle) (events : List LedgerEvent) (criterion : Prop) : Prop where
  status : r.status = .pass ↔ criterion
  cites : criterion → ∃ rest : List EvidenceRef, (∀ ref ∈ rest, ref.sourceType = .implementationManifest) ∧
    r.evidenceRefs = (cite b events ++ rest).take maxRefs

@[simp] theorem finish_status (status : ControlResultStatus) (reasonCodes : List ReasonCode)
    (observations limitations : List Text) (refs : List EvidenceRef) (remediation : Option (List Text)) :
    (finish control context status reasonCodes observations limitations refs remediation).status = status := rfl

@[simp] theorem finish_evidenceRefs (status : ControlResultStatus) (reasonCodes : List ReasonCode)
    (observations limitations : List Text) (refs : List EvidenceRef) (remediation : Option (List Text)) :
    (finish control context status reasonCodes observations limitations refs remediation).evidenceRefs =
      refs.take maxRefs := rfl

variable {criterion : Prop} {events : List LedgerEvent} {r : ControlResult} {limitations observations : List Text}
  {reasonCodes : List ReasonCode} {remediation : Option (List Text)} {controlId : Text} {α : Type} {l : List α} {p : α → Bool}

/-- A result that is no `PASS` passes under no criterion. -/
theorem Passes.never (h : r.status ≠ .pass) (hc : ¬ criterion) : Passes r b events criterion :=
  ⟨⟨fun hp => absurd hp h, fun hp => absurd hp hc⟩, fun hp => absurd hp hc⟩

/-- A `PASS` with its events cited. -/
theorem Passes.cited (hc : criterion) :
    Passes (finish control context .pass reasonCodes observations limitations (cite b events) remediation) b events
      criterion :=
  ⟨⟨fun _ => hc, fun _ => rfl⟩, fun _ => ⟨[], by simp, by simp⟩⟩

theorem mem_manifestRef {ref : EvidenceRef} (h : ref ∈ manifestRef context) :
    ref.sourceType = .implementationManifest := by
  obtain ⟨m, -, rfl⟩ := List.mem_map.1 h
  rfl

/-- A `PASS` that cites the manifest too. -/
theorem Passes.withManifest (hc : criterion) :
    Passes (finish control context .pass reasonCodes observations limitations
      (cite b events ++ manifestRef context) remediation) b events criterion :=
  ⟨⟨fun _ => hc, fun _ => rfl⟩, fun _ => ⟨manifestRef context, fun _ h => mem_manifestRef h, rfl⟩⟩

/-! ## The gate -/

/-- A `PASS` that cites the manifest alone. -/
theorem Passes.attested (hc : criterion) :
    Passes (finish control context .pass reasonCodes observations limitations (manifestRef context) remediation) b []
      criterion :=
  have h : Passes (finish control context .pass reasonCodes observations limitations (cite b [] ++ manifestRef context)
      remediation) b [] criterion := Passes.withManifest hc
  h

/-- A reference to an event whose stream did not verify. -/
def EvidenceRef.Disqualified (ref : EvidenceRef) : Prop :=
  ref.sourceType = .ledgerEvent ∧ (ref.integrityQualification = some .invalid ∨
    ref.integrityQualification = some .unverified ∨ ref.integrityQualification = some .unavailable)

/-- A result that passes the gate as `PASS` cites nothing disqualified. -/
theorem qualifyEvidenceIntegrity_pass (hid : control.controlId ≠ Text.ofAscii "TNA-INTEG-001") :
    (qualifyEvidenceIntegrity control r context).status = .pass ↔
      r.status = .pass ∧ ∀ ref ∈ r.evidenceRefs, ¬ ref.Disqualified := by
  unfold qualifyEvidenceIntegrity
  rw [if_neg hid]
  split
  · next h => simp [h.1]
  · next h =>
    simp only
    split
    · next hclean =>
      simp only [Bool.and_eq_true, List.isEmpty_iff, List.filter_eq_nil_iff, List.mem_filter, beq_iff_eq,
        Bool.or_eq_true] at hclean
      refine ⟨fun hp => ⟨hp, ?_⟩, And.left⟩
      rintro ref hmem ⟨htype, hq | hq | hq⟩
      · exact hclean.1 ref ⟨hmem, htype⟩ hq
      · exact hclean.2 ref ⟨hmem, htype⟩ (.inl hq)
      · exact hclean.2 ref ⟨hmem, htype⟩ (.inr hq)
    · next hdirty =>
      refine ⟨fun hp => (nomatch hp), fun hp => absurd ?_ hdirty⟩
      simp only [Bool.and_eq_true, List.isEmpty_iff, List.filter_eq_nil_iff, List.mem_filter, beq_iff_eq,
        Bool.or_eq_true]
      constructor
      · rintro ref ⟨hmem, htype⟩ hq
        exact hp.2 ref hmem ⟨htype, .inl hq⟩
      · rintro ref ⟨hmem, htype⟩ (hq | hq)
        · exact hp.2 ref hmem ⟨htype, .inr (.inl hq)⟩
        · exact hp.2 ref hmem ⟨htype, .inr (.inr hq)⟩

/-- The reference to an event is disqualified unless the event's stream verified. -/
theorem disqualified_eventRef {e : LedgerEvent} : (eventRef e b).Disqualified ↔ ¬ b.Valid e := by
  simp only [EvidenceRef.Disqualified, eventRef, EvidenceBundle.Valid, true_and, Option.some.injEq]
  cases b.qualificationOf e.streamId with
  | none => simp
  | some q => cases q <;> simp

/-- **What the gate lets stand**: a `PASS` whose first cited events are all from streams that verified. -/
theorem Passes.gate (h : Passes r b events criterion) (hid : control.controlId ≠ Text.ofAscii "TNA-INTEG-001") :
    (qualifyEvidenceIntegrity control r context).status = .pass ↔
      criterion ∧ ∀ e ∈ events.take maxRefs, b.Valid e := by
  rw [qualifyEvidenceIntegrity_pass hid, h.status]
  refine and_congr_right fun hc => ?_
  obtain ⟨rest, hrest, hrefs⟩ := h.cites hc
  have hall : (cite b events ++ rest).take maxRefs = cite b events ++ rest.take (maxRefs - (cite b events).length) := by
    rw [List.take_append, List.take_of_length_le (by simp [cite])]
  rw [hrefs, hall]
  constructor
  · intro hclean e he
    have hmem : eventRef e b ∈ cite b events := List.mem_map_of_mem he
    exact not_not.1 fun hv => hclean _ (List.mem_append_left _ hmem) (disqualified_eventRef.2 hv)
  · intro hvalid ref hmem hdis
    rcases List.mem_append.1 hmem with hmem | hmem
    · obtain ⟨e, he, rfl⟩ := List.mem_map.1 hmem
      exact disqualified_eventRef.1 hdis (hvalid e he)
    · cases (hrest ref (List.mem_of_mem_take hmem)).symm.trans hdis.1

/-! ## The manifest -/

/-- What a claim of the implementation manifest needs to count. -/
def ManifestSatisfies (sha256 : Text → Text) (context : EvaluationContext) (controlId : Text) : Prop :=
  ∃ m, context.manifest = some m ∧ verifyManifestIntegrity sha256 m = true ∧
    m.trustClass = .builtInAcceptedBaseline ∧ findClaimsForControl m controlId ≠ []

/-- The four facts `manifestClaims` finds, together. -/
theorem manifestSatisfies_iff :
    ManifestSatisfies sha256 context controlId ↔
      (manifestClaims sha256 context controlId).manifestPresent = true ∧
      (manifestClaims sha256 context controlId).manifestValid = true ∧
      (manifestClaims sha256 context controlId).claims ≠ [] := by
  unfold ManifestSatisfies manifestClaims
  cases context.manifest with
  | none => simp
  | some m =>
    simp only [Option.some.injEq, exists_eq_left', true_and]
    by_cases hv : verifyManifestIntegrity sha256 m = true
    · by_cases ht : m.trustClass = .builtInAcceptedBaseline
      · simp [hv, ht]
      · simp [hv, ht]
    · simp [hv]

/-- Claims are only found in a manifest that is authentic. -/
theorem manifestAuthentic_of_claims (h : (manifestClaims sha256 context controlId).claims ≠ []) :
    (manifestClaims sha256 context controlId).manifestAuthentic = true := by
  unfold manifestClaims at h ⊢
  cases hm : context.manifest with
  | none => simp [hm] at h
  | some m =>
    simp only [hm, ne_eq, ite_eq_right_iff, Bool.and_eq_true, not_forall] at h ⊢
    exact h.1.2

theorem passes_manifestOnly :
    Passes (evaluateManifestOnly sha256 control context b) b []
      (ManifestSatisfies sha256 context control.controlId) := by
  rw [manifestSatisfies_iff]
  unfold evaluateManifestOnly
  simp only
  split
  · next h => exact .never (by simp) (by simp_all)
  split
  · next h => exact .never (by simp) (by simp_all)
  split
  · next h => exact .never (by simp) fun hc => by simp [manifestAuthentic_of_claims hc.2.2] at h
  split
  · next h => exact .never (by simp) (by simp_all)
  · next hpresent hvalid _ hclaims =>
    have hc : (manifestClaims sha256 context control.controlId).manifestPresent = true ∧
        (manifestClaims sha256 context control.controlId).manifestValid = true ∧
        (manifestClaims sha256 context control.controlId).claims ≠ [] := by
      simp_all
    exact .attested hc

/-! ## The evaluators -/

/-- A filter that leaves something found a member. -/
theorem not_isEmpty_filter : (!(l.filter p).isEmpty) = true ↔ ∃ e ∈ l, p e = true := by
  simp

/-- An agent is bound by every authorization event and registered. -/
structure IdentityBound (b : EvidenceBundle) : Prop where
  some_event : eventsOfType b [.authorizationAllowed, .authorizationBlocked, .authorizationHeld] ≠ []
  bound : ∀ e ∈ eventsOfType b [.authorizationAllowed, .authorizationBlocked, .authorizationHeld],
    authority "agent_id" e ≠ none
  registered : ∀ e ∈ eventsOfType b [.authorizationAllowed, .authorizationBlocked, .authorizationHeld],
    ∀ agentId, authority "agent_id" e = some agentId →
      ∃ r ∈ eventsOfType b [.agentRegistered], authority "agent_id" r = some agentId

theorem passes_ident001 :
    Passes (evaluateIdent001 control context b) b
      (eventsOfType b [.authorizationAllowed, .authorizationBlocked, .authorizationHeld]) (IdentityBound b) := by
  unfold evaluateIdent001
  simp only [not_isEmpty_filter]
  split
  · next h => exact .never (by simp) fun hc => hc.some_event (List.isEmpty_iff.1 h)
  split
  · next h =>
    obtain ⟨e, he, hnone⟩ := h
    exact .never (by simp) fun hc => hc.bound e he (by simpa using hnone)
  split
  · next h =>
    obtain ⟨agentId, ha, hnot⟩ := h
    obtain ⟨e, he, hea⟩ := List.mem_filterMap.1 (List.mem_eraseDups.1 ha)
    refine .never (by simp) fun hc => ?_
    obtain ⟨r, hr, hra⟩ := hc.registered e he agentId hea
    have hmem := List.mem_filterMap.2 ⟨r, hr, hra⟩
    simp [hmem] at hnot
  · next hempty hbound hregistered =>
    refine .cited
      ⟨fun h => hempty (List.isEmpty_iff.2 h), fun e he hnone => hbound ⟨e, he, by simp [hnone]⟩, ?_⟩
    intro e he agentId hea
    by_contra hnot
    refine hregistered ⟨agentId, List.mem_eraseDups.2 (List.mem_filterMap.2 ⟨e, he, hea⟩), ?_⟩
    simp only [Bool.not_eq_true', List.contains_eq_mem, decide_eq_false_iff_not, List.mem_filterMap]
    exact hnot

/-- Every decision binds all the required fields. -/
structure AuthorityBound (b : EvidenceBundle) : Prop where
  some_event : eventsOfType b [.authorizationAllowed, .authorizationBlocked] ≠ []
  bound : ∀ e ∈ eventsOfType b [.authorizationAllowed, .authorizationBlocked], ∀ field ∈ requiredFields,
    authority field e ≠ none

theorem passes_auth001 :
    Passes (evaluateAuth001 control context b) b (eventsOfType b [.authorizationAllowed, .authorizationBlocked])
      (AuthorityBound b) := by
  unfold evaluateAuth001
  simp only [not_isEmpty_filter]
  have hincomplete : AuthorityBound b → ∀ e ∈ eventsOfType b [.authorizationAllowed, .authorizationBlocked],
      (requiredFields.any fun field => (authority field e).isNone) = false := by
    intro hc e he
    rw [List.any_eq_false]
    intro field hf
    simpa using hc.bound e he field hf
  split
  · next h => exact .never (by simp) fun hc => hc.some_event (List.isEmpty_iff.1 h)
  split
  · next hempty h =>
    refine .never (by simp) fun hc => hempty ?_
    have hnil := List.filter_eq_nil_iff.2 fun e he => ne_true_of_eq_false (hincomplete hc e he)
    rw [hnil] at h
    exact List.isEmpty_iff.2 (List.eq_nil_of_length_eq_zero h.symm)
  split
  · next h =>
    obtain ⟨e, he, hmissing⟩ := h
    exact .never (by simp) fun hc => by simp [hincomplete hc e he] at hmissing
  · next hempty _ hcomplete =>
    refine .cited ⟨fun h => hempty (List.isEmpty_iff.2 h), fun e he field hf hnone => hcomplete ⟨e, he, ?_⟩⟩
    exact List.any_eq_true.2 ⟨field, hf, by simp [hnone]⟩

/-- The criterion of a control that wants some events and a fault in none of them. -/
structure NoneFaulty (events : List LedgerEvent) (fault : LedgerEvent → Bool) : Prop where
  some_event : events ≠ []
  faultless : ∀ e ∈ events, fault e = false

/-- Such a control, whatever else it cites. -/
theorem passes_noneFaulty {cited : List LedgerEvent} {fault : LedgerEvent → Bool} {absent faulty : ControlResult}
    (habsent : absent.status ≠ .pass) (hfaulty : faulty.status ≠ .pass) :
    Passes (if events.isEmpty then absent else if !(events.filter fault).isEmpty then faulty else
      finish control context .pass reasonCodes observations limitations (cite b cited) remediation) b cited
      (NoneFaulty events fault) := by
  simp only [not_isEmpty_filter]
  split
  · next h => exact .never habsent fun hc => hc.some_event (List.isEmpty_iff.1 h)
  split
  · next h =>
    obtain ⟨e, he, hf⟩ := h
    exact .never hfaulty fun hc => by simp [hc.faultless e he] at hf
  · next hempty hnone =>
    exact .cited
      ⟨fun h => hempty (List.isEmpty_iff.2 h), fun e he => eq_false_of_ne_true fun hf => hnone ⟨e, he, hf⟩⟩

theorem passes_auth002 :
    Passes (evaluateAuth002 control context b) b (eventsOfType b [.authorizationAllowed])
      (NoneFaulty (eventsOfType b [.authorizationAllowed]) fun e =>
        tooGeneric (authority "resource" e) || tooGeneric (authority "tool" e)) :=
  passes_noneFaulty (by simp) (by simp)

theorem passes_appr001 :
    Passes (evaluateAppr001 control context b) b
      (eventsOfType b [.authorizationHeld] ++ eventsOfType b [.approvalGranted, .approvalRejected])
      (NoneFaulty (eventsOfType b [.authorizationHeld]) fun e =>
        !(eventsOfType b [.approvalGranted, .approvalRejected]).any fun a => a.correlationId = e.correlationId) :=
  passes_noneFaulty (by simp) (by simp)

/-- Every issued capability is bounded, and none was redeemed late. -/
structure CapabilitiesBounded (b : EvidenceBundle) : Prop where
  some_event : eventsOfType b [.capabilityIssued] ≠ []
  bounded : ∀ e ∈ eventsOfType b [.capabilityIssued], authority "authority_expiry" e ≠ none
  timely : ∀ e ∈ eventsOfType b [.capabilityIssued],
    lateRedemption (eventsOfType b [.capabilityRedeemed]) e = false

theorem passes_cap001 :
    Passes (evaluateCap001 control context b) b
      (eventsOfType b [.capabilityIssued] ++ eventsOfType b [.capabilityRedeemed]) (CapabilitiesBounded b) := by
  unfold evaluateCap001
  simp only [not_isEmpty_filter]
  split
  · next h => exact .never (by simp) fun hc => hc.some_event (List.isEmpty_iff.1 h)
  split
  · next h =>
    obtain ⟨e, he, hnone⟩ := h
    exact .never (by simp) fun hc => hc.bounded e he (by simpa using hnone)
  split
  · next h =>
    obtain ⟨e, he, hlate⟩ := h
    exact .never (by simp) fun hc => by simp [hc.timely e he] at hlate
  · next hempty hbounded htimely =>
    exact .cited ⟨fun h => hempty (List.isEmpty_iff.2 h), fun e he hnone => hbounded ⟨e, he, by simp [hnone]⟩,
      fun e he => eq_false_of_ne_true fun hlate => htimely ⟨e, he, hlate⟩⟩

/-- No capability was redeemed twice. -/
def SingleUse (b : EvidenceBundle) : Prop :=
  ∀ id, ((eventsOfType b [.capabilityRedeemed]).filter fun e => authority "capability_id" e = some id).length ≤ 1

theorem passes_cap002 :
    Passes (evaluateCap002 sha256 control context b) b []
      (SingleUse b ∧ ManifestSatisfies sha256 context control.controlId) := by
  unfold evaluateCap002
  simp only [not_isEmpty_filter]
  split
  · next h =>
    obtain ⟨list, hlist, hlong⟩ := h
    obtain ⟨id, -, rfl⟩ := List.mem_map.1 hlist
    refine .never (by simp) fun hc => ?_
    have hshort := hc.1 id
    simp only [decide_eq_true_eq] at hlong
    omega
  · next hreused =>
    have hsingle : SingleUse b := by
      intro id
      by_contra hlong
      rw [not_le] at hlong
      have hpos := List.length_pos_iff_exists_mem.1 (Nat.zero_lt_of_lt hlong)
      obtain ⟨e, he⟩ := hpos
      rw [List.mem_filter, decide_eq_true_eq] at he
      refine hreused ⟨_, List.mem_map.2 ⟨id, ?_, rfl⟩, decide_eq_true hlong⟩
      exact List.mem_eraseDups.2 (List.mem_filterMap.2 ⟨e, he.1, he.2⟩)
    have h : Passes (evaluateManifestOnly sha256 control context b) b [] _ := passes_manifestOnly
    exact ⟨h.status.trans (and_iff_right hsingle).symm, fun hc => h.cites hc.2⟩

theorem passes_exec001 :
    Passes (evaluateExec001 control context b) b
      (eventsOfType b [.executionStarted] ++ eventsOfType b [.capabilityRedeemed])
      (NoneFaulty (eventsOfType b [.executionStarted]) fun e =>
        !(eventsOfType b [.capabilityRedeemed]).any fun r => r.correlationId = e.correlationId) :=
  passes_noneFaulty (by simp) (by simp)

/-- Every revocation is followed by a fresh block of the agent, and by no grant to it. -/
structure RevocationsEnforced (context : EvaluationContext) (b : EvidenceBundle) : Prop where
  some_event : eventsOfType b [.agentRevoked] ≠ []
  enforced : ∀ r ∈ eventsOfType b [.agentRevoked], ∃ proof,
    enforcementOf context (eventsOfType b [.authorizationBlocked, .capabilityRejected])
      (eventsOfType b [.authorizationAllowed, .capabilityRedeemed]) r = .enforced proof

/-- An outcome is a proof when the first block is fresh and there is no grant. -/
theorem enforcementOf_eq_enforced {blocked allowedAfter : List LedgerEvent} {revocation proof : LedgerEvent} :
    enforcementOf context blocked allowedAfter revocation = .enforced proof ↔
      violationOf allowedAfter revocation = none ∧ proofOf blocked revocation = some proof ∧
        isFresh proof context maxRevocationProofAgeSeconds = true := by
  unfold enforcementOf
  cases violationOf allowedAfter revocation with
  | some violation => simp
  | none =>
    cases proofOf blocked revocation with
    | none => simp
    | some first =>
      simp only [true_and, Option.some.injEq]
      split
      · next h => exact ⟨fun heq => by cases heq; exact ⟨rfl, h⟩, fun heq => by rw [heq.1]⟩
      · next h => exact ⟨fun heq => (nomatch heq), fun heq => absurd (heq.1 ▸ heq.2) h⟩

/-- What the loop over the revocations cites. -/
def citedOfRevocations (context : EvaluationContext) (b : EvidenceBundle) : List LedgerEvent :=
  (eventsOfType b [.agentRevoked]).flatMap fun r => r ::
    (enforcementOf context (eventsOfType b [.authorizationBlocked, .capabilityRejected])
      (eventsOfType b [.authorizationAllowed, .capabilityRedeemed]) r).cited.toList

/-- An outcome is a proof exactly when it is counted nowhere. -/
theorem Enforcement.enforced_iff {o : Enforcement} :
    (∃ proof, o = .enforced proof) ↔ o.isViolated = false ∧ o.isUnenforced = false ∧ o.isStale = false := by
  cases o <;> simp [isViolated, isUnenforced, isStale]

/-- Nothing is counted exactly when the counted property holds nowhere. -/
theorem not_length_filter_pos : ¬ 0 < (l.filter p).length ↔ ∀ e ∈ l, p e = false := by
  simp [List.length_pos_iff]

theorem passes_cap003 :
    Passes (evaluateCap003 control context b) b (citedOfRevocations context b) (RevocationsEnforced context b) := by
  have hcited : citedOfRevocations context b =
      ((eventsOfType b [.agentRevoked]).map fun r => (r, enforcementOf context
        (eventsOfType b [.authorizationBlocked, .capabilityRejected])
        (eventsOfType b [.authorizationAllowed, .capabilityRedeemed]) r)).flatMap fun o => o.1 :: o.2.cited.toList := by
    rw [List.flatMap_map]
    rfl
  unfold evaluateCap003
  rw [hcited]
  simp only
  generalize hblocked : eventsOfType b [.authorizationBlocked, .capabilityRejected] = blocked
  generalize hallowed : eventsOfType b [.authorizationAllowed, .capabilityRedeemed] = allowedAfter
  have hfaultless : RevocationsEnforced context b → ∀ o ∈ (eventsOfType b [.agentRevoked]).map fun r =>
      (r, enforcementOf context blocked allowedAfter r),
      o.2.isViolated = false ∧ o.2.isUnenforced = false ∧ o.2.isStale = false := by
    intro hc o ho
    obtain ⟨r, hr, rfl⟩ := List.mem_map.1 ho
    subst hblocked hallowed
    exact Enforcement.enforced_iff.1 (hc.enforced r hr)
  split
  · next h => exact .never (by simp) fun hc => hc.some_event (List.isEmpty_iff.1 h)
  split
  · next h => exact .never (by simp) fun hc => not_length_filter_pos.2 (fun o ho => (hfaultless hc o ho).1) h
  split
  · next h => exact .never (by simp) fun hc => not_length_filter_pos.2 (fun o ho => (hfaultless hc o ho).2.1) h
  split
  · next h => exact .never (by simp) fun hc => not_length_filter_pos.2 (fun o ho => (hfaultless hc o ho).2.2) h
  · next hempty hviolated hunenforced hstale =>
    refine .cited ⟨fun h => hempty (List.isEmpty_iff.2 h), fun r hr => Enforcement.enforced_iff.2 ?_⟩
    have hmem := List.mem_map_of_mem (f := fun r => (r, enforcementOf context blocked allowedAfter r)) hr
    subst hblocked hallowed
    exact ⟨not_length_filter_pos.1 hviolated _ hmem, not_length_filter_pos.1 hunenforced _ hmem,
      not_length_filter_pos.1 hstale _ hmem⟩

/-- No atom shows more attempts than the threshold. -/
def AttemptsBounded (b : EvidenceBundle) : Prop :=
  ∀ atom ∈ (eventsOfType b [.atomAttemptStarted]).filterMap (spec "atom_id"),
    exceedsThreshold (((eventsOfType b [.atomAttemptStarted]).filter fun e => spec "atom_id" e = some atom).filterMap
      attemptNumber) = false

theorem passes_exec002 :
    Passes (evaluateExec002 sha256 control context b) b (eventsOfType b [.atomAttemptStarted])
      (AttemptsBounded b ∧ (eventsOfType b [.atomAttemptStarted] = [] →
        ManifestSatisfies sha256 context control.controlId)) := by
  unfold evaluateExec002
  simp only [not_isEmpty_filter]
  split
  · next h =>
    rw [List.isEmpty_iff] at h
    have hm : Passes (evaluateManifestOnly sha256 control context b) b [] _ := passes_manifestOnly
    have hbounded : AttemptsBounded b := by
      intro atom hatom
      simp [h] at hatom
    rw [h]
    exact ⟨hm.status.trans ⟨fun hc => ⟨hbounded, fun _ => hc⟩, fun hc => hc.2 rfl⟩,
      fun hc => hm.cites (hc.2 rfl)⟩
  split
  · next h =>
    obtain ⟨atom, hatom, hexceeds⟩ := h
    exact .never (by simp) fun hc => by simp [hc.1 atom (List.mem_eraseDups.1 hatom)] at hexceeds
  · next hempty hbounded =>
    exact .cited ⟨fun atom hatom => eq_false_of_ne_true fun h => hbounded ⟨atom, List.mem_eraseDups.2 hatom, h⟩,
      fun h => absurd (List.isEmpty_iff.2 h) hempty⟩

/-- The manifest is checked without its trust class here; only an authentic one has claims. -/
theorem manifestSatisfies_of_not (hpresent : ¬ (!(manifestClaims sha256 context controlId).manifestPresent) = true)
    (hrest : ¬ (!(manifestClaims sha256 context controlId).manifestValid ||
      (manifestClaims sha256 context controlId).claims.isEmpty) = true) : ManifestSatisfies sha256 context controlId := by
  rw [manifestSatisfies_iff]
  simp only [Bool.not_eq_true, Bool.not_eq_false', Bool.or_eq_false_iff, List.isEmpty_eq_false_iff] at hpresent hrest
  exact ⟨hpresent, hrest⟩

theorem passes_sec001 :
    Passes (evaluateSec001 sha256 control context b) b []
      ((∀ e ∈ b.events, secretShapeInEvent e = false) ∧ ManifestSatisfies sha256 context control.controlId) := by
  unfold evaluateSec001
  simp only [not_isEmpty_filter]
  split
  · next h =>
    obtain ⟨e, he, hs⟩ := h
    exact .never (by simp) fun hc => by simp [hc.1 e he] at hs
  · next hclean =>
    split
    · next h => exact .never (by simp) fun hc => by simp [(manifestSatisfies_iff.1 hc.2).1] at h
    · next hpresent =>
      split
      · next h =>
        refine .never (by simp) fun hc => ?_
        obtain ⟨-, hvalid, hclaims⟩ := manifestSatisfies_iff.1 hc.2
        simp [hvalid, hclaims] at h
      · next hrest =>
        exact .attested ⟨fun e he => eq_false_of_ne_true fun hs => hclean ⟨e, he, hs⟩,
          manifestSatisfies_of_not hpresent hrest⟩

theorem passes_ver001 :
    Passes (evaluateVer001 control context b) b (eventsOfType b [.atomVerificationAccepted, .atomVerificationRejected])
      (NoneFaulty (eventsOfType b [.atomVerificationAccepted, .atomVerificationRejected])
        (sameIdentity (eventsOfType b [.atomAttemptStarted]))) :=
  passes_noneFaulty (by simp) (by simp)

/-- Every atom that was created was finalised with its own specification. -/
structure SpecsKept (b : EvidenceBundle) : Prop where
  some_event : eventsOfType b [.atomCreated] ≠ []
  kept : ∀ e ∈ eventsOfType b [.atomCreated],
    mismatchedSpec (eventsOfType b [.atomAccepted, .atomRejected]) e = false
  resolved : (eventsOfType b [.atomCreated]).length ≤
    (resolvedAtoms (eventsOfType b [.atomCreated]) (eventsOfType b [.atomAccepted, .atomRejected])).length

theorem passes_ver002 :
    Passes (evaluateVer002 control context b) b
      (eventsOfType b [.atomCreated] ++ eventsOfType b [.atomAccepted, .atomRejected]) (SpecsKept b) := by
  unfold evaluateVer002
  simp only [not_isEmpty_filter]
  split
  · next h => exact .never (by simp) fun hc => hc.some_event (List.isEmpty_iff.1 h)
  split
  · next h =>
    obtain ⟨e, he, hm⟩ := h
    exact .never (by simp) fun hc => by simp [hc.kept e he] at hm
  split
  · next h =>
    refine .never (by simp) fun hc => ?_
    have hresolved := hc.resolved
    omega
  · next hempty hkept hresolved =>
    exact .cited ⟨fun h => hempty (List.isEmpty_iff.2 h),
      fun e he => eq_false_of_ne_true fun hm => hkept ⟨e, he, hm⟩, by omega⟩

/-- An override that misses its actor, its decision or its specification. -/
def overrideIncomplete (e : LedgerEvent) : Bool :=
  decide (actorId e = some []) || (spec "spec_hash" e).isNone || (spec "human_decision" e).isNone

theorem passes_human001 :
    Passes (evaluateHuman001 control context b) b (eventsOfType b [.atomHumanDecision])
      (NoneFaulty (eventsOfType b [.atomHumanDecision]) overrideIncomplete) :=
  passes_noneFaulty (by simp) (by simp)

theorem passes_ten001 :
    Passes (evaluateTen001 sha256 control context b) b []
      ((∀ e ∈ b.events, e.tenantId = context.tenantId) ∧ ManifestSatisfies sha256 context control.controlId) := by
  unfold evaluateTen001
  simp only [not_isEmpty_filter, decide_eq_true_eq]
  split
  · next h =>
    obtain ⟨e, he, hne⟩ := h
    exact .never (by simp) fun hc => hne (hc.1 e he)
  · next hforeign =>
    split
    · next h =>
      refine .never (by simp) fun hc => ?_
      obtain ⟨hpresent, hvalid, hclaims⟩ := manifestSatisfies_iff.1 hc.2
      simp [hpresent, hvalid, hclaims] at h
    · next h =>
      rw [Bool.or_assoc, Bool.or_eq_true, not_or] at h
      exact .attested ⟨fun e he => by_contra fun hne => hforeign ⟨e, he, hne⟩, manifestSatisfies_of_not h.1 h.2⟩

/-- Every allowed decision has a session, and something was observed. -/
structure Monitored (b : EvidenceBundle) : Prop where
  some_event : eventsOfType b [.authorizationAllowed] ++ eventsOfType b [.sentinelSessionStarted] ≠ []
  monitored : ∀ e ∈ eventsOfType b [.authorizationAllowed],
    unmonitoredBy (eventsOfType b [.sentinelSessionStarted]) e = false

theorem passes_runtime001 :
    Passes (evaluateRuntime001 control context b) b
      (eventsOfType b [.authorizationAllowed] ++ eventsOfType b [.sentinelSessionStarted]) (Monitored b) := by
  unfold evaluateRuntime001
  simp only [not_isEmpty_filter]
  split
  · next h =>
    rw [Bool.and_eq_true, List.isEmpty_iff, List.isEmpty_iff] at h
    exact .never (by simp) fun hc => hc.some_event (by rw [h.1, h.2]; rfl)
  split
  · next h =>
    refine .never (by simp) fun hc => ?_
    rw [List.filter_eq_nil_iff.2 fun e he => ne_true_of_eq_false (hc.monitored e he)] at h
    exact absurd h.2 (by simpa using h.1.ne)
  split
  · next h =>
    obtain ⟨e, he, hu⟩ := h
    exact .never (by simp) fun hc => by simp [hc.monitored e he] at hu
  · next hempty _ hmonitored =>
    refine .cited ⟨fun h => hempty ?_, fun e he => eq_false_of_ne_true fun hu => hmonitored ⟨e, he, hu⟩⟩
    rw [List.append_eq_nil_iff] at h
    simp [h.1, h.2]

theorem passes_observed {type : EventType} {note : Text} :
    Passes (evaluateObserved sha256 type note control context b) b (eventsOfType b [type])
      (eventsOfType b [type] = [] → ManifestSatisfies sha256 context control.controlId) := by
  unfold evaluateObserved
  simp only
  split
  · next h => exact .cited fun hnil => by simp [hnil] at h
  · next h =>
    have hnil : eventsOfType b [type] = [] := by simpa using h
    have hm : Passes (evaluateManifestOnly sha256 control context b) b [] _ := passes_manifestOnly
    rw [hnil]
    exact ⟨hm.status.trans ⟨fun hc _ => hc, fun hc => hc rfl⟩, fun hc => hm.cites (hc rfl)⟩

/-- A termination is observed at or after a revocation. -/
def TerminationObserved (b : EvidenceBundle) : Prop :=
  ∃ r ∈ eventsOfType b [.agentRevoked], ∃ t ∈ eventsOfType b [.sentinelTerminated],
    isAtOrAfter t.receivedAt r.receivedAt = true

instance (b : EvidenceBundle) : Decidable (TerminationObserved b) := by
  unfold TerminationObserved
  infer_instance

/-- What the control cites: nothing of the bundle when it falls back to the manifest. -/
def citedOfTerminations (b : EvidenceBundle) : List LedgerEvent :=
  if TerminationObserved b then eventsOfType b [.agentRevoked] ++ eventsOfType b [.sentinelTerminated] else []

theorem passes_runtime005 :
    Passes (evaluateRuntime005 sha256 control context b) b (citedOfTerminations b)
      (¬ TerminationObserved b → ManifestSatisfies sha256 context control.controlId) := by
  unfold evaluateRuntime005 citedOfTerminations
  simp only [List.any_eq_true]
  by_cases h : TerminationObserved b
  · have hobserved := h
    unfold TerminationObserved at hobserved
    rw [if_pos h, if_pos hobserved]
    exact .cited fun hnot => absurd h hnot
  · have hobserved := h
    unfold TerminationObserved at hobserved
    rw [if_neg h, if_neg hobserved]
    have hm : Passes (evaluateManifestOnly sha256 control context b) b [] _ := passes_manifestOnly
    exact ⟨hm.status.trans ⟨fun hc _ => hc, fun hc => hc h⟩, fun hc => hm.cites (hc h)⟩

/-- Every termination in the bundle was confirmed. -/
def ContainmentTruthful (b : EvidenceBundle) : Prop :=
  ∀ e ∈ eventsOfType b [.sentinelTerminated], containmentStatus e = some (Text.ofAscii "CONTAINMENT_CONFIRMED")

theorem passes_contain001 :
    Passes (evaluateContain001 sha256 control context b) b (eventsOfType b [.sentinelTerminated])
      (ContainmentTruthful b ∧ ManifestSatisfies sha256 context control.controlId) := by
  unfold evaluateContain001
  simp only [not_isEmpty_filter, decide_eq_true_eq]
  split
  · next h =>
    obtain ⟨e, he, hne⟩ := h
    exact .never (by simp) fun hc => hne (hc.1 e he)
  · next htruthful =>
    split
    · next h => exact .never (by simp) fun hc => by simp [(manifestSatisfies_iff.1 hc.2).1] at h
    · next hpresent =>
      split
      · next h =>
        refine .never (by simp) fun hc => ?_
        obtain ⟨-, hvalid, hclaims⟩ := manifestSatisfies_iff.1 hc.2
        simp [hvalid, hclaims] at h
      · next hrest =>
        exact .withManifest ⟨fun e he => by_contra fun hne => htruthful ⟨e, he, hne⟩,
          manifestSatisfies_of_not hpresent hrest⟩

/-- The revocations during a session, with what followed them. -/
def midSessions (b : EvidenceBundle) : List MidSession :=
  (eventsOfType b [.agentRevoked]).filterMap
    (midSessionOf (eventsOfType b [.sentinelSessionStarted])
      (eventsOfType b [.sentinelTerminated, .sentinelTerminationRequested]))

/-- Some revocation was during a session, and each of them was followed by a termination. -/
structure MidSessionEnforced (b : EvidenceBundle) : Prop where
  some_session : midSessions b ≠ []
  enforced : ∀ c ∈ midSessions b, c.termination.isSome = true

/-- What the loop over the revocations cites. -/
def citedOfMidSessions (b : EvidenceBundle) : List LedgerEvent :=
  (midSessions b).flatMap fun c => c.revocation :: c.activeSession :: c.termination.toList

/-- A revocation during a session needs a revocation and a session. -/
theorem midSessions_eq_nil (h : eventsOfType b [.agentRevoked] = [] ∨ eventsOfType b [.sentinelSessionStarted] = []) :
    midSessions b = [] := by
  rw [midSessions, List.filterMap_eq_nil_iff]
  intro r hr
  rcases h with h | h
  · rw [h] at hr
    cases hr
  · rw [h]
    rfl

theorem passes_revoke001 :
    Passes (evaluateRevoke001 control context b) b (citedOfMidSessions b) (MidSessionEnforced b) := by
  unfold evaluateRevoke001
  simp only
  rw [show (eventsOfType b [.agentRevoked]).filterMap (midSessionOf (eventsOfType b [.sentinelSessionStarted])
    (eventsOfType b [.sentinelTerminated, .sentinelTerminationRequested])) = midSessions b from rfl]
  split
  · next h =>
    rw [Bool.or_eq_true, List.isEmpty_iff, List.isEmpty_iff] at h
    exact .never (by simp) fun hc => hc.some_session (midSessions_eq_nil h)
  split
  · next h => exact .never (by simp) fun hc => hc.some_session (List.isEmpty_iff.1 h)
  split
  · next h =>
    refine .never (by simp) fun hc => ?_
    rw [List.filter_eq_self.2 hc.enforced] at h
    exact lt_irrefl _ h
  · next hempty hall =>
    refine .cited ⟨fun h => hempty (List.isEmpty_iff.2 h), ?_⟩
    have hlength := le_antisymm (List.length_filter_le ..) (not_lt.1 hall)
    exact List.filter_eq_self.1 (List.filter_sublist.eq_of_length hlength)

theorem passes_recov001 :
    Passes (evaluateRecov001 sha256 control context b) b (eventsOfType b [.sentinelContainmentFailed])
      ((∀ e ∈ eventsOfType b [.sentinelContainmentFailed],
          containmentStatus e ≠ some (Text.ofAscii "CONTAINMENT_CONFIRMED")) ∧
        (eventsOfType b [.sentinelContainmentFailed] = [] →
          ManifestSatisfies sha256 context control.controlId)) := by
  unfold evaluateRecov001
  simp only [not_isEmpty_filter, decide_eq_true_eq]
  split
  · next h =>
    rw [List.isEmpty_iff] at h
    have hm : Passes (evaluateManifestOnly sha256 control context b) b [] _ := passes_manifestOnly
    rw [h]
    exact ⟨hm.status.trans ⟨fun hc => ⟨by simp, fun _ => hc⟩, fun hc => hc.2 rfl⟩,
      fun hc => hm.cites (hc.2 rfl)⟩
  split
  · next h =>
    obtain ⟨e, he, hq⟩ := h
    exact .never (by simp) fun hc => hc.1 e he hq
  · next hempty hnone =>
    exact .cited ⟨fun e he hq => hnone ⟨e, he, hq⟩, fun h => absurd (List.isEmpty_iff.2 h) hempty⟩

end Tna.Auditor
