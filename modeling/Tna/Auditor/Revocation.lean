import Tna.Auditor.Qualified
import Tna.Ledger.GateAdapter

/-!
# Revocations as Gate reports them

`TNA-CAP-003` looks for the grants and blocks of a revocation's actor. The adapter that
reports Gate's revocations names the administrator there, and the agent in the authority
context, so the control follows the agent only where the two coincide.
-/

namespace Tna.Auditor

open Tna.Js Tna.Ledger

variable {context : EvaluationContext} {b : EvidenceBundle} {sha256 : Text → Text}

/-! ## What the adapter wrote -/

/-- The agent a call revokes. -/
def revokes : GateCall → Option Text
  | .agentRevoked agentId _ _ => some agentId
  | _ => none

/-- The agent a call reports an authorization or a redemption of. -/
def grants : GateCall → Option Text
  | .authorizationAllowed agentId .. => some agentId
  | .capabilityRedeemed agentId .. => some agentId
  | _ => none

/-- Events the adapter reported, in the order they were appended, as a bundle holds them. -/
structure GateTrail (b : EvidenceBundle) where
  tenantId : Text
  entries : List (GateCall × LedgerEvent)
  recorded : ∀ c ∈ entries, ∃ sequence now payloadHash previousEventHash eventHash,
    toLedgerEvent ((c.1.input tenantId).toRow sequence now payloadHash previousEventHash eventHash) = some c.2
  ordered : entries.Pairwise fun c d => isAtOrAfter d.2.receivedAt c.2.receivedAt = true
  collected : ∀ c ∈ entries, c.2 ∈ b.events

/-- A grant of an agent is received after a revocation of the agent. -/
def GateTrail.Violated (trail : GateTrail b) : Prop :=
  ∃ agentId, ∃ r ∈ trail.entries, revokes r.1 = some agentId ∧
    ∃ g ∈ trail.entries, grants g.1 = some agentId ∧ isAfter g.2.receivedAt r.2.receivedAt = true

/-- Every revocation of an agent is followed by a block or a rejection of the agent. -/
def GateTrail.Enforced (trail : GateTrail b) : Prop :=
  ∀ agentId, ∀ r ∈ trail.entries, revokes r.1 = some agentId →
    ∃ e ∈ eventsOfType b [.authorizationBlocked, .capabilityRejected], authority "agent_id" e = some agentId ∧
      isAtOrAfter e.receivedAt r.2.receivedAt = true

/-- What the control is to say of the trail. -/
structure GateTrail.Judged (trail : GateTrail b) (status : ControlResultStatus) : Prop where
  violated : trail.Violated → status = .fail
  enforced : status = .pass → trail.Enforced

/-- **The actors of the revocations stand for the agents.** A grant after the revocation of
some agent shows as a grant to the actor of some revocation, and blocks of the actors, fresh
and from streams that verified, are only there when the agents were blocked. -/
structure GateTrail.ActorsStand (trail : GateTrail b) (context : EvaluationContext) : Prop where
  violated : trail.Violated → ∃ r ∈ eventsOfType b [.agentRevoked],
    ∃ g ∈ eventsOfType b [.authorizationAllowed, .capabilityRedeemed], authority "agent_id" g = actorId r ∧
      isAfter g.receivedAt r.receivedAt = true
  enforced : RevocationsEnforced context b → (∀ e ∈ (citedOfRevocations context b).take maxRefs, b.Valid e) →
    trail.Enforced

/-! ## The two answers -/

/-- A revocation counts as violated when its actor is granted something after it. -/
theorem isViolated_enforcementOf {blocked allowedAfter : List LedgerEvent} {r : LedgerEvent} :
    (enforcementOf context blocked allowedAfter r).isViolated = true ↔
      ∃ g ∈ allowedAfter, authority "agent_id" g = actorId r ∧ isAfter g.receivedAt r.receivedAt = true := by
  have hfound : (violationOf allowedAfter r).isSome = true ↔
      ∃ g ∈ allowedAfter, authority "agent_id" g = actorId r ∧ isAfter g.receivedAt r.receivedAt = true := by
    simp only [violationOf, List.find?_isSome, Bool.and_eq_true, decide_eq_true_eq]
  rw [← hfound]
  unfold enforcementOf
  split
  · next h => simp [h, Enforcement.isViolated]
  · next h _ => simp [h, Enforcement.isViolated]
  · next h _ =>
    rw [h]
    split <;> simp [Enforcement.isViolated]

/-- The control fails exactly when the actor of a revocation is granted something after it. -/
theorem evaluateCap003_fail {control : Control} :
    (evaluateCap003 control context b).status = .fail ↔ ∃ r ∈ eventsOfType b [.agentRevoked],
      ∃ g ∈ eventsOfType b [.authorizationAllowed, .capabilityRedeemed], authority "agent_id" g = actorId r ∧
        isAfter g.receivedAt r.receivedAt = true := by
  have hcount : ∀ blocked allowedAfter : List LedgerEvent,
      0 < (((eventsOfType b [.agentRevoked]).map fun r => (r, enforcementOf context blocked allowedAfter r)).filter
        fun o => o.2.isViolated).length ↔ ∃ r ∈ eventsOfType b [.agentRevoked], ∃ g ∈ allowedAfter,
          authority "agent_id" g = actorId r ∧ isAfter g.receivedAt r.receivedAt = true := by
    intro blocked allowedAfter
    simp only [List.length_pos_iff_exists_mem, List.mem_filter, List.mem_map, Prod.exists, Prod.mk.injEq]
    constructor
    · rintro ⟨_, _, ⟨r, hr, rfl, rfl⟩, hv⟩
      exact ⟨r, hr, isViolated_enforcementOf.1 hv⟩
    · rintro ⟨r, hr, hg⟩
      exact ⟨r, _, ⟨r, hr, rfl, rfl⟩, isViolated_enforcementOf.2 hg⟩
  unfold evaluateCap003
  simp only [hcount]
  split
  · next h =>
    rw [List.isEmpty_iff] at h
    simp [h]
  split
  · next h => simp [h]
  · next h =>
    simp only [h, iff_false]
    split
    · simp
    split <;> simp

/-- The gate neither makes nor takes back a `FAIL`. -/
theorem qualifyEvidenceIntegrity_fail {control : Control} {r : ControlResult} :
    (qualifyEvidenceIntegrity control r context).status = .fail ↔ r.status = .fail := by
  unfold qualifyEvidenceIntegrity
  split
  · rfl
  split
  · rfl
  · next h =>
    have hne : r.status ≠ .fail := by
      intro hf
      simp [hf] at h
    simp only
    split
    · rfl
    · exact ⟨fun hf => (nomatch hf), fun hf => absurd hf hne⟩

theorem evaluateControl_cap003 :
    evaluateControl sha256 cap003 context b =
      .ok (qualifyEvidenceIntegrity cap003 (evaluateCap003 cap003 context b) context) := rfl

/-- **`TNA-CAP-003` judges what the adapter reported exactly when the actors stand for the agents.** -/
theorem judged_iff_actorsStand (sha256 : Text → Text) (context : EvaluationContext) (b : EvidenceBundle)
    (trail : GateTrail b) :
    (∃ r, evaluateControl sha256 cap003 context b = .ok r ∧ trail.Judged r.status) ↔
      trail.ActorsStand context := by
  have hfail : (qualifyEvidenceIntegrity cap003 (evaluateCap003 cap003 context b) context).status = .fail ↔ _ :=
    qualifyEvidenceIntegrity_fail.trans evaluateCap003_fail
  have hpass : (qualifyEvidenceIntegrity cap003 (evaluateCap003 cap003 context b) context).status = .pass ↔
      RevocationsEnforced context b ∧ ∀ e ∈ (citedOfRevocations context b).take maxRefs, b.Valid e :=
    passes_cap003.gate (by decide)
  simp only [evaluateControl_cap003, Except.ok.injEq, exists_eq_left']
  constructor
  · intro h
    exact ⟨fun hv => hfail.1 (h.violated hv), fun hc hvalid => h.enforced (hpass.2 ⟨hc, hvalid⟩)⟩
  · intro h
    exact ⟨fun hv => hfail.2 (h.violated hv), fun hp => h.enforced (hpass.1 hp).1 (hpass.1 hp).2⟩

/-! ## A grant to a revoked agent -/

def sampleRevocation : List (GateCall × LedgerEvent) :=
  let registered := GateCall.agentRegistered "a1"
  let revoked := GateCall.agentRevoked "a1" "compromised" 1735603200000
  let allowed := GateCall.authorizationAllowed "a1" "d1" "p1" "read" none none
  [(registered, (registered.input "t1").readBackAs 1 "2024-12-31T00:00:00.000Z" "p" "GENESIS" "h1"),
   (revoked, (revoked.input "t1").readBackAs 2 "2024-12-31T01:00:00.000Z" "p" "h1" "h2"),
   (allowed, (allowed.input "t1").readBackAs 3 "2024-12-31T02:00:00.000Z" "p" "h2" "h3")]

def revokedBundle : EvidenceBundle where
  tenantId := "t1"
  evidenceCutoffAt := "2025-01-01T00:00:00.000Z"
  collectedAt := "2025-01-01T00:00:00.000Z"
  events := sampleRevocation.map Prod.snd
  streamIntegrity := [("agent:a1", ⟨.valid, none, "2025-01-01T00:00:00.000Z"⟩)]
  conflicts := []
  truncated := false

def revokedTrail : GateTrail revokedBundle where
  tenantId := "t1"
  entries := sampleRevocation
  recorded := by
    simp only [sampleRevocation, List.mem_cons, List.not_mem_nil, or_false]
    rintro c (rfl | rfl | rfl) <;> exact ⟨_, _, _, _, _, toLedgerEvent_eq_readBackAs ..⟩
  ordered := by decide +kernel
  collected c hc := List.mem_map_of_mem hc

/-- The agent is authorized after its revocation, and the control only misses a block of the administrator. -/
theorem not_judged :
    ¬ ∀ (sha256 : Text → Text) (context : EvaluationContext) (b : EvidenceBundle) (trail : GateTrail b),
      ∃ r, evaluateControl sha256 cap003 context b = .ok r ∧ trail.Judged r.status := by
  intro h
  obtain ⟨r, hr, hjudged⟩ := h id sampleEvaluation revokedBundle revokedTrail
  have hviolated : revokedTrail.Violated :=
    ⟨Text.ofAscii "a1", sampleRevocation[1], by simp [revokedTrail], rfl, sampleRevocation[2], by simp [revokedTrail],
      rfl, by decide +kernel⟩
  have hfail := hjudged.violated hviolated
  have hstatus : (evaluateControl id cap003 sampleEvaluation revokedBundle).toOption.map ControlResult.status =
      some .insufficientEvidence := by decide +kernel
  rw [hr] at hstatus
  cases (Option.some.inj hstatus).symm.trans hfail

end Tna.Auditor
