import Tna.Gate.Operations

/-!
# Accounting

The usage of an agent is the tally of the calls the Gate allowed it, in every state the
Gate reaches. Only a decision touches it, in the transaction that stores the decision,
so the limits of the envelope in force are limits on the tally.
-/

namespace Tna.Gate

open Tna.Js Tna.Lib Tna.Broker

/-! ## Tallies -/

/-- The counters are those of the requests. -/
structure Tallies (u : Usage) (requests : List AuthorizationRequest) : Prop where
  calls : u.calls = requests.length
  /-- The attempts sum to the calls. -/
  total : (u.attempts.map Prod.snd).sum = u.calls
  attempts : ∀ action, attemptsFor u action = requests.countP fun r => r.action = action
  external : u.external = requests.countP fun r => r.destination.isSome
  costMicros : u.costMicros = (requests.map AuthorizationRequest.estimatedCost).sum

theorem tallies_emptyUsage : Tallies emptyUsage [] where
  calls := rfl
  total := rfl
  attempts _ := rfl
  external := rfl
  costMicros := rfl

section
variable {u : Usage} {action : Text} {attempts : List (Text × Nat)} {n : Nat}

theorem lookup_setAttempts (other : Text) :
    (setAttempts action n attempts).lookup other = if other = action then some n else attempts.lookup other := by
  induction attempts with
  | nil =>
    rw [setAttempts, List.lookup_cons, List.lookup_nil]
    by_cases h : other = action
    · simp [h]
    · rw [beq_false_of_ne h, if_neg h]
  | cons f rest ih =>
    obtain ⟨a, m⟩ := f
    rw [setAttempts]
    by_cases ha : a = action
    · subst ha
      rw [if_pos rfl, List.lookup_cons, List.lookup_cons]
      by_cases h : other = a
      · simp [h]
      · rw [beq_false_of_ne h, if_neg h]
    · rw [if_neg ha, List.lookup_cons, List.lookup_cons, ih]
      by_cases h : other = a
      · subst h
        simp [ha]
      · rw [beq_false_of_ne h]

/-- One more attempt is one more in the sum. -/
theorem sum_setAttempts : ((setAttempts action ((attempts.lookup action).getD 0 + 1) attempts).map Prod.snd).sum =
    (attempts.map Prod.snd).sum + 1 := by
  induction attempts with
  | nil => rfl
  | cons f rest ih =>
    obtain ⟨a, m⟩ := f
    rw [setAttempts, List.lookup_cons]
    by_cases h : a = action
    · subst h
      simp
      omega
    · have hne : (action == a) = false := by simp [Ne.symm h]
      rw [if_neg h, hne]
      simp only [List.map_cons, List.sum_cons]
      rw [ih]
      omega

theorem attemptsFor_count (now : Nat) (r : AuthorizationRequest) (other : Text) :
    attemptsFor (u.count now r) other = attemptsFor u other + if r.action = other then 1 else 0 := by
  rw [attemptsFor, Usage.count, lookup_setAttempts]
  by_cases h : other = r.action
  · subst h
    simp
  · rw [if_neg h, if_neg (Ne.symm h)]
    rfl

/-- **One more call** tallies with one more request. -/
theorem Tallies.count {requests : List AuthorizationRequest} (h : Tallies u requests) (now : Nat) (r : AuthorizationRequest) :
    Tallies (u.count now r) (r :: requests) where
  calls := by rw [Usage.count, h.calls, List.length_cons]
  total := by
    have hsum : ((setAttempts r.action ((u.attempts.lookup r.action).getD 0 + 1) u.attempts).map Prod.snd).sum =
        (u.attempts.map Prod.snd).sum + 1 := sum_setAttempts
    rw [h.total] at hsum
    exact hsum
  attempts other := by
    rw [attemptsFor_count, h.attempts, List.countP_cons]
    simp
  external := by
    rw [Usage.count, h.external, List.countP_cons]
  costMicros := by
    rw [List.map_cons, List.sum_cons, ← h.costMicros]
    exact Nat.add_comm ..

end

/-! ## Limits -/

/-- Counters that include the request are within the limits. External requests are
limited where the request is one. -/
structure Within (limits : Limits) (u : Usage) (r : AuthorizationRequest) : Prop where
  calls : u.calls ≤ limits.maxToolCalls
  external : r.destination.isSome = true → u.external ≤ limits.maxExternalRequests
  costMicros : u.costMicros ≤ limits.maxCost
  attempts : attemptsFor u r.action ≤ 1 + limits.maxRetriesPerAction

theorem within_of_limitsVerdict {request : AuthorizationRequest} {envelope : Envelope} {context : PolicyContext}
    (h : (limitsVerdict request envelope context).decision = .allow) (now : Nat) :
    Within envelope.limits (context.usage.count now request) request := by
  unfold limitsVerdict at h
  simp only at h
  split at h
  · cases h
  split at h
  · cases h
  next hcalls =>
  split at h
  · cases h
  next hexternal =>
  split at h
  · cases h
  next hcost =>
  split at h
  · cases h
  next hattempts =>
  constructor
  · exact Nat.lt_of_not_le hcalls
  · intro hdest
    have hlt : context.usage.external < envelope.limits.maxExternalRequests := by
      by_contra hle
      exact hexternal ⟨hdest, Nat.le_of_not_lt hle⟩
    rw [Usage.count, if_pos hdest]
    exact hlt
  · exact Nat.le_of_not_lt hcost
  · rw [attemptsFor_count, if_pos rfl]
    exact Nat.lt_of_not_le hattempts

/-- What an `ALLOW` of the Gate rests on. -/
theorem allow_of_decide {sha256 : Text → Text} {g : GateStore} {agent : Agent} {request : StoredRequest} {decisionId : Text}
    (h : (g.decide sha256 agent request decisionId).decision = .allow) :
    ∃ policy, g.policies.get agent.id = some policy ∧
      (limitsVerdict request.toAuthorizationRequest policy.envelope.toEnvelope
        (g.context agent (g.validApproval sha256 agent request).isSome)).decision = .allow := by
  simp only [GateStore.decide] at h
  cases hpolicy : g.policies.get agent.id with
  | none =>
    rw [hpolicy, Option.map_none, evaluate] at h
    split at h
    · cases h
    · cases h
  | some policy =>
    rw [hpolicy, Option.map_some] at h
    obtain ⟨binding, -, -, -, hlimits⟩ := evaluate_allow h
    exact ⟨policy, rfl, by rw [hlimits]⟩

/-! ## The tally of an agent -/

/-- The stored decisions that allow an agent something. -/
def GateStore.allows (g : GateStore) (agentId : Text) : List StoredDecision :=
  g.decisions.rows.filter fun d => d.decision = .allow ∧ d.agentId = agentId

/-- The requests an agent was allowed. -/
def GateStore.allowed (g : GateStore) (agentId : Text) : List AuthorizationRequest :=
  (g.allows agentId).map fun d => d.request.toAuthorizationRequest

section
variable {sha256 : Text → Text} {g g' : GateStore} {l : GateLabel} {agentId : Text}

theorem allows_keep {d : StoredDecision} (hfresh : g.decisions.get d.decisionId = none) (approval : Option Approval) :
    (g.keep d approval).allows agentId =
      if d.decision = .allow ∧ d.agentId = agentId then d :: g.allows agentId else g.allows agentId := by
  have hrows : (g.keep d approval).decisions.rows = d :: g.decisions.rows := Keyed.rows_put hfresh
  rw [GateStore.allows, hrows, List.filter_cons]
  simp only [decide_eq_true_eq]
  rfl

theorem usageOf_keep (d : StoredDecision) (approval : Option Approval) :
    (g.keep d approval).usageOf agentId =
      if d.decision = .allow ∧ d.agentId = agentId then
        (g.usageOf agentId).count g.now d.request.toAuthorizationRequest
      else g.usageOf agentId := by
  by_cases hallow : d.decision = .allow
  · by_cases hid : d.agentId = agentId
    · subst hid
      simp [GateStore.usageOf, GateStore.keep, hallow]
    · have hne : agentId ≠ d.agentId := Ne.symm hid
      simp [GateStore.usageOf, GateStore.keep, hallow, hid, AList.lookup_insert_ne hne]
  · simp [GateStore.usageOf, GateStore.keep, hallow]

/-- Usage and decisions only move together, in a decision. -/
theorem tallies_step (h : GateEffect sha256 g l g') (ht : Tallies (g.usageOf agentId) (g.allowed agentId)) :
    Tallies (g'.usageOf agentId) (g'.allowed agentId) := by
  cases h with
  | decided hrequest hauthorized =>
    rw [GateStore.allowed, allows_keep hauthorized.fresh, usageOf_keep]
    split
    · exact ht.count _ _
    · exact ht
  | refused => exact ht
  | ticked => exact ht
  | registered => exact ht
  | issued => exact ht
  | approved => exact ht
  | revoked => exact ht

/-- A decision was taken with these counters, within the limits of the policy in force. -/
def TakenWithin (d : StoredDecision) (_before : List GateLabel) (g : GateStore) (l : GateLabel) (g' : GateStore) : Prop :=
  ∃ c policy, l = .call c (.ok (.decided d)) ∧ g.policies.get d.agentId = some policy ∧
    Within policy.envelope.limits (g'.usageOf d.agentId) d.request.toAuthorizationRequest

theorem allows_step (h : GateEffect sha256 g l g') {d : StoredDecision} (hd : d ∈ g'.allows agentId) :
    d ∈ g.allows agentId ∨ ∀ before, TakenWithin d before g l g' := by
  cases h with
  | decided hrequest hauthorized =>
    next agent request d' _ =>
    rw [allows_keep hauthorized.fresh] at hd
    split at hd
    · next hallow =>
      rcases List.mem_cons.1 hd with rfl | hd
      · refine .inr fun before => ?_
        have hid : d.agentId = agent.id := by rw [hauthorized.decided]; rfl
        have hrequest' : d.request = request := by rw [hauthorized.decided]; rfl
        have hdecided := hallow.1
        rw [hauthorized.decided] at hdecided
        obtain ⟨policy, hpolicy, hlimits⟩ := allow_of_decide hdecided
        refine ⟨_, policy, rfl, by rw [hid, hpolicy], ?_⟩
        rw [usageOf_keep, if_pos ⟨hallow.1, rfl⟩, hrequest', hid]
        exact within_of_limitsVerdict hlimits g.now
      · exact .inl hd
    · exact .inl hd
  | refused => exact .inl hd
  | ticked => exact .inl hd
  | registered => exact .inl hd
  | issued => exact .inl hd
  | approved => exact .inl hd
  | revoked => exact .inl hd

/-- **The accounts of an agent are right in every state**, and each decision in them was
taken within the limits of the envelope in force. -/
theorem usage_of_run {now : Nat} {labels : List GateLabel} (hrun : Run (GateStep sha256) (GateStore.init now) labels g)
    (agentId : Text) :
    Tallies (g.usageOf agentId) (g.allowed agentId) ∧
      ∀ d ∈ g.allows agentId, Took (GateStep sha256) (TakenWithin d) (GateStore.init now) labels g := by
  constructor
  · have hstep : ∀ g l g', GateStep sha256 g l g' → Tallies (g.usageOf agentId) (g.allowed agentId) →
        Tallies (g'.usageOf agentId) (g'.allowed agentId) := by
      intro g l g' hl ht
      exact tallies_step (gateEffect_of_step hl) ht
    exact hrun.invariant hstep tallies_emptyUsage
  · induction hrun with
    | nil =>
      intro d hd
      cases hd
    | snoc hfirst hlast ih =>
      intro d hd
      rcases allows_step (gateEffect_of_step hlast) hd with hd | htaken
      · exact (ih d hd).snoc hlast
      · exact hfirst.took hlast (htaken _)

end

/-! ## Examples -/

/-- One external request is allowed, and then one without a destination after an envelope
that allows no external request. -/
def sampleCalls : List GateCall :=
  [sampleRegistration, .setEnvelope .admin (some (sampleEnvelopeBody 1 [])) "pol_1",
    .authorize (.agent "agent_1") (sampleRequest (some "reports.example") none) "dec_1",
    .setEnvelope .admin (some (sampleEnvelopeBody 0 [])) "pol_2"]

theorem usage_of_run_sampleCalls :
    ∃ labels g, Run (GateStep id) (GateStore.init 10) labels g ∧ (g.usageOf "agent_1").calls = 1 ∧
      Tallies (g.usageOf "agent_1") (g.allowed "agent_1") ∧
      ∀ d ∈ g.allows "agent_1", Took (GateStep id) (TakenWithin d) (GateStore.init 10) labels g := by
  have hreplay : (replay (GateStore.next id) (GateStore.init 10) sampleCalls).any (fun g =>
      (g.usageOf "agent_1").calls = 1) = true := by decide +kernel
  obtain ⟨labels, g, hrun, htest⟩ := gateRun_of_test hreplay
  exact ⟨labels, g, hrun, of_decide_eq_true htest, usage_of_run hrun "agent_1"⟩

/-- The counter of external requests is not a limit on other requests. -/
theorem external_over_limit :
    ¬ ∀ labels g, Run (GateStep id) (GateStore.init 10) labels g → ∀ c d g', GateStep id g (.call c (.ok (.decided d))) g' →
      d.decision = .allow → ∀ policy, g.policies.get d.agentId = some policy →
        (g'.usageOf d.agentId).external ≤ policy.envelope.limits.maxExternalRequests := by
  intro h
  have hreplay : (replay (GateStore.next id) (GateStore.init 10) sampleCalls).any (fun g =>
      match g.authorize id (.agent "agent_1") (sampleRequest none none) "dec_2" with
      | .ok (g', d) => decide (d.decision = .allow) && (g.decisions.get "dec_2").isNone &&
          (g.policies.get d.agentId).any fun policy =>
            decide (policy.envelope.limits.maxExternalRequests < (g'.usageOf d.agentId).external)
      | .error _ => false) = true := by decide +kernel
  obtain ⟨labels, g, hrun, htest⟩ := gateRun_of_test hreplay
  split at htest
  · next g' d hauthorize =>
    simp only [Bool.and_eq_true, decide_eq_true_eq, Option.isNone_iff_eq_none] at htest
    obtain ⟨⟨hallow, hfresh⟩, hpolicy⟩ := htest
    obtain ⟨policy, hpolicy, hover⟩ := (Option.any_eq_true ..).1 hpolicy
    have hstep : GateStep id g _ _ := .call (.authorize (.agent "agent_1") (sampleRequest none none) "dec_2") true hfresh
    have hserve : g.serve id (.authorize (.agent "agent_1") (sampleRequest none none) "dec_2") = .ok (g', .decided d) := by
      rw [GateStore.serve, hauthorize]
      rfl
    rw [hserve] at hstep
    have hle := h labels g hrun _ d g' hstep hallow policy hpolicy
    exact absurd (of_decide_eq_true hover) (Nat.not_lt.2 hle)
  · cases htest

end Tna.Gate
