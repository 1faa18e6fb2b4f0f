import Tna.Sentinel.Verdicts

/-!
# Counting on

When counters, the cost or the clock go up and nothing is observed, every rule but the
three that count finds what it found before. Those three have a softer stage below their
maximum, `WARN` and `LOW`. Above it the configured action and severity apply, and these may
be weaker still: `OBSERVE` or `INFO`.
-/

namespace Tna.Sentinel

open Tna.Js Tna.Lib
open Tna.Egress (Platform)

/-- Counters, cost and clock go up or stay, the rest stays, and nothing is observed. -/
structure Advanced (c c' : EvaluationContext) : Prop where
  session : c'.session = { c.session with
    toolCallCount := c'.session.toolCallCount
    networkRequestCount := c'.session.networkRequestCount
    processSpawnCount := c'.session.processSpawnCount
    sessionCost := c'.session.sessionCost }
  before : c.observation = none
  after : c'.observation = none
  authorityStatus : c'.authorityStatus = c.authorityStatus
  now : c.now ≤ c'.now
  toolCallCount : c.session.toolCallCount ≤ c'.session.toolCallCount
  networkRequestCount : c.session.networkRequestCount ≤ c'.session.networkRequestCount
  processSpawnCount : c.session.processSpawnCount ≤ c'.session.processSpawnCount
  sessionCost : c.session.sessionCost ≤ c'.session.sessionCost

/-- The count and the maximum of a rule that counts. -/
def counter (rule : SentinelRuleInput) (session : SentinelSession) : Option (ℕ × Option ℕ) :=
  match rule.ruleType with
  | .tooManyToolCalls => some (session.toolCallCount, rule.params.bind RuleParams.maxToolCalls)
  | .tooManyNetworkRequests => some (session.networkRequestCount, rule.params.bind RuleParams.maxNetworkRequests)
  | .tooManyProcessSpawns => some (session.processSpawnCount, rule.params.bind RuleParams.maxProcessSpawns)
  | _ => none

/-- A rule approaches its maximum in the first session and has passed it in the second. -/
def Passed (rule : SentinelRuleInput) (session session' : SentinelSession) : Prop :=
  ∃ count count' max warn, counter rule session = some (count, some max) ∧ counter rule session' = some (count', some max) ∧
    rule.params.bind RuleParams.warningThreshold = some warn ∧ warn ≤ count ∧ count ≤ max ∧ max < count'

/-- What the rules about limits and about the policy read of a session. -/
structure Steady (s s' : SentinelSession) : Prop where
  policySnapshotHash : s'.policySnapshotHash = s.policySnapshotHash
  authorityExpiry : s'.authorityExpiry = s.authorityExpiry
  startedAt : s'.startedAt = s.startedAt
  runtimeLimits : s'.runtimeLimits = s.runtimeLimits
  maxCost : s'.maxCost = s.maxCost
  lastHeartbeatAt : s'.lastHeartbeatAt = s.lastHeartbeatAt
  status : s'.status = s.status

section
variable {api : Platform} {rule : SentinelRuleInput} {c c' : EvaluationContext} {v : SentinelDecisionType × Severity}

theorem Advanced.steady (h : Advanced c c') : Steady c.session c'.session := by
  rw [h.session]
  exact ⟨rfl, rfl, rfl, rfl, rfl, rfl, rfl⟩

/-! ## The rules that do not count -/

/-- What a verdict is read off. -/
theorem verdict_congr (hstatus : (evaluateRule api rule c').status = (evaluateRule api rule c).status)
    (haction : (evaluateRule api rule c').overrideAction = (evaluateRule api rule c).overrideAction)
    (hseverity : (evaluateRule api rule c').overrideSeverity = (evaluateRule api rule c).overrideSeverity) :
    verdict (evaluateRule api) c' rule = verdict (evaluateRule api) c rule := by
  simp only [verdict, hstatus, haction, hseverity]

theorem verdict_of_notApplicable (h : (evaluateRule api rule c).status = .notApplicable) :
    verdict (evaluateRule api) c rule = none := by
  simp only [verdict, h]
  split <;> rfl

/-- The rule matches, as it was configured, exactly when the condition holds. -/
structure Plain (result : RuleResult) (p : Prop) : Prop where
  matched : p → result.status = .matched
  noMatch : ¬ p → result.status = .noMatch
  overrideAction : result.overrideAction = none
  overrideSeverity : result.overrideSeverity = none

variable {p : Prop}

theorem plain_ite [Decidable p] {ruleType : RuleType} {message : Text} {evidence : JsObject} :
    Plain (if p then found ruleType message evidence none else noMatch ruleType) p := by
  split
  · next hp => exact ⟨fun _ => rfl, fun hnot => absurd hp hnot, rfl, rfl⟩
  · next hp => exact ⟨fun h => absurd h hp, fun _ => rfl, rfl, rfl⟩

/-- A rule that matches when a time or an amount has passed a limit matches on, when it grows. -/
theorem verdict_of_limit {q : Prop} (hpq : p → q) (hc : Plain (evaluateRule api rule c) p)
    (hc' : Plain (evaluateRule api rule c') q) (h : verdict (evaluateRule api) c rule = some v) :
    verdict (evaluateRule api) c' rule = some v := by
  by_cases hp : p
  · rw [← h]
    refine verdict_congr ?_ ?_ ?_
    · rw [hc.matched hp, hc'.matched (hpq hp)]
    · rw [hc.overrideAction, hc'.overrideAction]
    · rw [hc.overrideSeverity, hc'.overrideSeverity]
  · simp only [verdict, hc.noMatch hp] at h
    split at h <;> cases h

/-- **A rule that does not count** finds on what it found. -/
theorem verdict_advanced (h : Advanced c c') (hcounter : counter rule c.session = none)
    (hv : verdict (evaluateRule api) c rule = some v) : verdict (evaluateRule api) c' rule = some v := by
  have hnothing : (evaluateRule api rule c).status = .notApplicable → verdict (evaluateRule api) c' rule = some v := by
    intro hstatus
    rw [verdict_of_notApplicable hstatus] at hv
    cases hv
  cases htype : rule.ruleType with
  | tooManyToolCalls | tooManyNetworkRequests | tooManyProcessSpawns => simp [counter, htype] at hcounter
  | toolNotAllowed | operationNotAllowed | resourceNotAllowed | destinationNotAllowed | privateNetworkDestination
  | redirectNotAllowed | unexpectedProcess | secretLeaseNotAllowed | toolInputHashMismatch | capabilityContextMismatch =>
    -- these look at an observation, and there is none
    refine hnothing ?_
    simp only [evaluateRule, htype, toolNotAllowed, operationNotAllowed, resourceNotAllowed, destinationNotAllowed,
      privateNetworkDestination, redirectNotAllowed, unexpectedProcess, secretLeaseNotAllowed, notListed,
      toolInputHashMismatch, capabilityContextMismatch, h.before, Option.filter_none, Option.bind_none, notApplicable]
  | approvalRevoked | agentRevoked =>
    rw [← hv]
    apply verdict_congr <;> simp only [evaluateRule, htype, scopeRevoked, h.authorityStatus]
  | policyChanged =>
    rw [← hv]
    apply verdict_congr <;> simp only [evaluateRule, htype, policyChanged, h.authorityStatus, h.steady.policySnapshotHash]
  | authorityExpired =>
    have hlater : c.session.authorityExpiry < c.now → c'.session.authorityExpiry < c'.now := by
      rw [h.steady.authorityExpiry]
      exact fun hlt => hlt.trans_le h.now
    refine verdict_of_limit hlater ?_ ?_ hv <;> simp only [evaluateRule, htype, authorityExpired] <;> exact plain_ite
  | runtimeExceeded =>
    have hlater : (c.session.runtimeLimits.maxRuntimeSeconds : ℤ) * 1000 < c.now - c.session.startedAt →
        (c'.session.runtimeLimits.maxRuntimeSeconds : ℤ) * 1000 < c'.now - c'.session.startedAt := by
      rw [h.steady.runtimeLimits, h.steady.startedAt]
      exact fun hlt => hlt.trans_le (sub_le_sub_right h.now _)
    refine verdict_of_limit hlater ?_ ?_ hv <;> simp only [evaluateRule, htype, runtimeExceeded] <;> exact plain_ite
  | costExceeded =>
    have hmore : c.session.maxCost < c.session.sessionCost → c'.session.maxCost < c'.session.sessionCost := by
      rw [h.steady.maxCost]
      exact fun hlt => hlt.trans_le h.sessionCost
    refine verdict_of_limit hmore ?_ ?_ hv <;> simp only [evaluateRule, htype, costExceeded] <;> exact plain_ite
  | missingHeartbeat =>
    cases hinterval : c.session.runtimeLimits.heartbeatIntervalSeconds with
    | none =>
      refine hnothing ?_
      simp only [evaluateRule, htype, missingHeartbeat, hinterval, notApplicable]
    | some interval =>
      cases hgrace : c.session.runtimeLimits.heartbeatGraceSeconds with
      | none =>
        refine hnothing ?_
        simp only [evaluateRule, htype, missingHeartbeat, hinterval, hgrace, notApplicable]
      | some grace =>
        have hlater : c.session.lastHeartbeatAt.getD c.session.startedAt + (interval + grace : ℕ) * 1000 < c.now →
            c'.session.lastHeartbeatAt.getD c'.session.startedAt + (interval + grace : ℕ) * 1000 < c'.now := by
          rw [h.steady.lastHeartbeatAt, h.steady.startedAt]
          exact fun hlt => hlt.trans_le h.now
        refine verdict_of_limit hlater ?_ ?_ hv <;>
          simp only [evaluateRule, htype, missingHeartbeat, h.steady.runtimeLimits, hinterval, hgrace] <;> exact plain_ite

/-! ## The rules that count -/

section
variable {count max : ℕ} {limit : Option ℕ}

theorem evaluateRule_counter (h : counter rule c.session = some (count, limit)) :
    evaluateRule api rule c = volumetric rule count limit := by
  unfold counter at h
  split at h
  case h_4 => cases h
  all_goals
    next htype =>
    cases h
    simp only [evaluateRule, htype]

theorem counter_advanced (h : Advanced c c') (hcounter : counter rule c.session = some (count, limit)) :
    ∃ count', counter rule c'.session = some (count', limit) ∧ count ≤ count' := by
  unfold counter at hcounter ⊢
  split at hcounter
  · cases hcounter
    exact ⟨_, rfl, h.toolCallCount⟩
  · cases hcounter
    exact ⟨_, rfl, h.networkRequestCount⟩
  · cases hcounter
    exact ⟨_, rfl, h.processSpawnCount⟩
  · cases hcounter

/-- Past its maximum a rule asks for what is configured. -/
theorem verdict_of_exceeded (henabled : rule.enabled = true) (h : counter rule c.session = some (count, some max))
    (hlt : max < count) : verdict (evaluateRule api) c rule = some (asDecisionType rule.action, rule.severity) := by
  simp only [verdict, henabled, evaluateRule_counter h, volumetric, if_pos hlt]
  rfl

/-- From the warning threshold to the maximum it asks for less. -/
theorem verdict_of_approaching (henabled : rule.enabled = true) (h : counter rule c.session = some (count, some max))
    {warn : ℕ} (hwarn : rule.params.bind RuleParams.warningThreshold = some warn) (hle : warn ≤ count) (hmax : count ≤ max) :
    verdict (evaluateRule api) c rule = some (.warn, .low) := by
  simp only [verdict, henabled, evaluateRule_counter h, volumetric, if_neg (not_lt.2 hmax), hwarn, if_pos hle]
  rfl

theorem verdict_counter_cases (h : counter rule c.session = some (count, limit))
    (hv : verdict (evaluateRule api) c rule = some v) :
    ∃ max, limit = some max ∧ (max < count ∧ v = (asDecisionType rule.action, rule.severity) ∨
      ∃ warn, rule.params.bind RuleParams.warningThreshold = some warn ∧ warn ≤ count ∧ count ≤ max ∧ v = (.warn, .low)) := by
  have henabled := enabled_of_verdict hv
  have hresult : evaluateRule api rule c = volumetric rule count limit := evaluateRule_counter h
  cases limit with
  | none =>
    rw [verdict_of_notApplicable (by rw [hresult]; rfl)] at hv
    cases hv
  | some max =>
    refine ⟨max, rfl, ?_⟩
    by_cases hlt : max < count
    · rw [verdict_of_exceeded henabled h hlt] at hv
      exact .inl ⟨hlt, (Option.some.inj hv).symm⟩
    refine .inr ?_
    have hnothing : (volumetric rule count (some max)).status = .noMatch → False := by
      intro hstatus
      simp only [verdict, hresult, hstatus] at hv
      split at hv <;> cases hv
    cases hwarn : rule.params.bind RuleParams.warningThreshold with
    | none => exact (hnothing (by simp only [volumetric, if_neg hlt, hwarn, noMatch])).elim
    | some warn =>
      by_cases hle : warn ≤ count
      · rw [verdict_of_approaching henabled h hwarn hle (not_lt.1 hlt)] at hv
        exact ⟨warn, rfl, hle, not_lt.1 hlt, (Option.some.inj hv).symm⟩
      · exact (hnothing (by simp only [volumetric, if_neg hlt, hwarn, if_neg hle, noMatch])).elim

end

/-- **One rule**: what it finds is no weaker later, unless it has passed its maximum on the way. -/
theorem verdict_step (h : Advanced c c') (hv : verdict (evaluateRule api) c rule = some v) :
    (∃ v', verdict (evaluateRule api) c' rule = some v' ∧ v.1 ≤ v'.1 ∧ v.2.score ≤ v'.2.score) ∨
      Passed rule c.session c'.session ∧ v = (.warn, .low) ∧
        verdict (evaluateRule api) c' rule = some (asDecisionType rule.action, rule.severity) := by
  cases hcounter : counter rule c.session with
  | none => exact .inl ⟨v, verdict_advanced h hcounter hv, le_rfl, le_rfl⟩
  | some counted =>
    obtain ⟨count, limit⟩ := counted
    have henabled := enabled_of_verdict hv
    obtain ⟨count', hcounter', hmore⟩ := counter_advanced h hcounter
    obtain ⟨max, rfl, ⟨hlt, rfl⟩ | ⟨warn, hwarn, hle, hmax, rfl⟩⟩ := verdict_counter_cases hcounter hv
    · exact .inl ⟨_, verdict_of_exceeded henabled hcounter' (hlt.trans_le hmore), le_rfl, le_rfl⟩
    by_cases hlt : max < count'
    · exact .inr ⟨⟨count, count', max, warn, hcounter, hcounter', hwarn, hle, hmax, hlt⟩, rfl,
        verdict_of_exceeded henabled hcounter' hlt⟩
    · exact .inl ⟨_, verdict_of_approaching henabled hcounter' hwarn (hle.trans hmore) (not_lt.1 hlt), le_rfl, le_rfl⟩

end

/-! ## All rules together -/

/-- Where a rule with a weak configuration passes its maximum, some rule still finds as much:
something of a severity other than `INFO`, and a decision other than `CONTINUE`, unless a
threshold asks for one. -/
structure Covered (evaluateRule : SentinelRuleInput → EvaluationContext → RuleResult) (policy : SentinelPolicy)
    (c c' : EvaluationContext) : Prop where
  severity : ∀ rule ∈ policy.rules, rule.enabled = true → Passed rule c.session c'.session → rule.severity = .info →
    ∃ n ∈ scores evaluateRule c' policy.rules, n ≠ 0
  action : ∀ rule ∈ policy.rules, rule.enabled = true → Passed rule c.session c'.session → rule.action = .observe →
    (∃ d ∈ requested evaluateRule c' policy.rules, d ≠ .continue) ∨
      ∃ n ∈ scores evaluateRule c' policy.rules, ∃ d, Reached policy n d

/-- The evaluation of the second context decides no less than the one of the first. -/
def NoWeaker (evaluateRule : SentinelRuleInput → EvaluationContext → RuleResult) (newId : ℕ → Text)
    (policy : SentinelPolicy) (stopped : Bool) (c c' : EvaluationContext) : Prop :=
  ∀ d, evaluateSession evaluateRule newId policy c stopped = .ok d →
    ∃ d', evaluateSession evaluateRule newId policy c' stopped = .ok d' ∧ d.decision ≤ d'.decision ∧
      d.riskScore ≤ d'.riskScore

section
variable {api : Platform} {policy : SentinelPolicy} {c c' : EvaluationContext}

theorem low_le_score {severity : Severity} (h : severity ≠ .info) : Severity.low.score ≤ severity.score := by
  cases severity with
  | info => exact absurd rfl h
  | low | medium | high | critical => decide

variable {d : SentinelDecisionType} {n n' : ℕ}

theorem warn_le (h : d ≠ .continue) : SentinelDecisionType.warn ≤ d := by
  cases d with
  | «continue» => exact absurd rfl h
  | warn | hold | terminate => decide

theorem warn_le_asDecisionType {action : RuleAction} (h : action ≠ .observe) : .warn ≤ asDecisionType action := by
  cases action with
  | observe => exact absurd rfl h
  | warn | hold | terminate => decide

/-- A score is one of a severity, and so it is at least that of `LOW` or it is zero. -/
theorem low_le_of_mem_scores (hn : n ∈ scores (evaluateRule api) c policy.rules) (h0 : n ≠ 0) : Severity.low.score ≤ n := by
  rcases hn with hn | ⟨rule, -, hn⟩
  · exact absurd hn h0
  · obtain ⟨v, -, rfl⟩ := Option.map_eq_some_iff.1 hn
    refine low_le_score ?_
    intro hinfo
    rw [hinfo] at h0
    exact h0 rfl

theorem Reached.ne_continue (h : Reached policy n d) : d ≠ .continue := by
  cases h <;> decide

theorem Reached.mono (h : Reached policy n d) (hn : n ≤ n') : Reached policy n' d := by
  have hle : (n : ℚ) ≤ n' := by exact_mod_cast hn
  cases h with
  | warn ht hat hscore => exact .warn ht hat (hscore.trans hle)
  | hold ht hat hscore => exact .hold ht hat (hscore.trans hle)
  | terminate ht hat hscore => exact .terminate ht hat (hscore.trans hle)

theorem scores_covered (h : Advanced c c') (hcovered : Covered (evaluateRule api) policy c c')
    (hn : n ∈ scores (evaluateRule api) c policy.rules) : ∃ n' ∈ scores (evaluateRule api) c' policy.rules, n ≤ n' := by
  rcases hn with hn | ⟨rule, hrule, hn⟩
  · exact ⟨0, .inl rfl, le_of_eq hn⟩
  obtain ⟨v, hv, rfl⟩ := Option.map_eq_some_iff.1 hn
  rcases verdict_step h hv with ⟨v', hv', -, hle⟩ | ⟨hpassed, rfl, hv'⟩
  · exact ⟨_, .inr ⟨rule, hrule, by rw [hv']; rfl⟩, hle⟩
  by_cases hinfo : rule.severity = .info
  · obtain ⟨n', hn', h0⟩ := hcovered.severity rule hrule (enabled_of_verdict hv) hpassed hinfo
    exact ⟨n', hn', low_le_of_mem_scores hn' h0⟩
  · exact ⟨_, .inr ⟨rule, hrule, by rw [hv']; rfl⟩, low_le_score hinfo⟩

theorem asked_covered (h : Advanced c c') (hcovered : Covered (evaluateRule api) policy c c') (hn : n ≤ n')
    (hgreatest : IsGreatest (scores (evaluateRule api) c' policy.rules) n') (hd : d ∈ asked (evaluateRule api) policy c n) :
    ∃ d' ∈ asked (evaluateRule api) policy c' n', d ≤ d' := by
  rcases hd with (hd | ⟨rule, hrule, hd⟩) | hreached
  · exact ⟨.continue, .inl (.inl rfl), le_of_eq hd⟩
  · obtain ⟨v, hv, rfl⟩ := Option.map_eq_some_iff.1 hd
    rcases verdict_step h hv with ⟨v', hv', hle, -⟩ | ⟨hpassed, rfl, hv'⟩
    · exact ⟨_, .inl (.inr ⟨rule, hrule, by rw [hv']; rfl⟩), hle⟩
    by_cases hobserve : rule.action = .observe
    · rcases hcovered.action rule hrule (enabled_of_verdict hv) hpassed hobserve with ⟨d', hd', hne⟩ | ⟨m, hm, d', hreached⟩
      · exact ⟨d', .inl (.inr hd'), warn_le hne⟩
      · exact ⟨d', .inr (hreached.mono (hgreatest.2 hm)), warn_le hreached.ne_continue⟩
    · exact ⟨_, .inl (.inr ⟨rule, hrule, by rw [hv']; rfl⟩), warn_le_asDecisionType hobserve⟩
  · exact ⟨d, .inr (Reached.mono hreached hn), le_rfl⟩

/-- A rule that approaches its maximum asks for a warning. -/
theorem verdict_of_passed {rule : SentinelRuleInput} (henabled : rule.enabled = true)
    (h : Passed rule c.session c'.session) : verdict (evaluateRule api) c rule = some (.warn, .low) := by
  obtain ⟨count, count', max, warn, hcounter, -, hwarn, hle, hmax, -⟩ := h
  exact verdict_of_approaching henabled hcounter hwarn hle hmax

end

/-- **Counting on makes no decision and no score weaker, exactly where every rule that passes its
maximum with an action or a severity below the softer stage's is covered**, or the session has
ended or is under an emergency stop. -/
theorem noWeaker_iff (api : Platform) (newId : ℕ → Text) (policy : SentinelPolicy) (stopped : Bool)
    (c c' : EvaluationContext) (h : Advanced c c') :
    NoWeaker (evaluateRule api) newId policy stopped c c' ↔
      isTerminalStatus c.session.status = true ∨ stopped = true ∨ Covered (evaluateRule api) policy c c' := by
  by_cases hended : isTerminalStatus c.session.status = true
  · refine iff_of_true (fun d hd => ?_) (.inl hended)
    rw [evaluateSession, if_pos hended] at hd
    cases hd
  have hopen : isTerminalStatus c.session.status = false := Bool.not_eq_true _ ▸ hended
  have hopen' : isTerminalStatus c'.session.status = false := by rw [h.steady.status, hopen]
  cases stopped with
  | true =>
    refine iff_of_true (fun d hd => ?_) (.inr (.inl rfl))
    obtain ⟨d₁, heval, hdecision, hscore⟩ := evaluateSession_stopped (evaluateRule api) newId policy hopen
    obtain ⟨d', heval', hdecision', hscore'⟩ := evaluateSession_stopped (evaluateRule api) newId policy hopen'
    obtain rfl := Except.ok.inj (heval.symm.trans hd)
    exact ⟨d', heval', le_of_eq (hdecision.trans hdecision'.symm), hscore'.2 hscore.1⟩
  | false =>
    obtain ⟨d, heval, hscore, hdecision⟩ := evaluateSession_ok (evaluateRule api) newId policy hopen
    obtain ⟨d', heval', hscore', hdecision'⟩ := evaluateSession_ok (evaluateRule api) newId policy hopen'
    constructor
    · intro hweaker
      obtain ⟨d₂, heval₂, hle, hrisk⟩ := hweaker d heval
      obtain rfl := Except.ok.inj (heval'.symm.trans heval₂)
      refine .inr (.inr ⟨?_, ?_⟩)
      · intro rule hrule henabled hpassed _
        have hlow : Severity.low.score ≤ d.riskScore :=
          hscore.2 (.inr ⟨rule, hrule, by rw [verdict_of_passed henabled hpassed]; rfl⟩)
        refine ⟨d'.riskScore, hscore'.1, ?_⟩
        exact (lt_of_lt_of_le (by decide) (hlow.trans hrisk)).ne'
      · intro rule hrule henabled hpassed _
        have hwarn : .warn ≤ d.decision :=
          hdecision.2 (.inl (.inr ⟨rule, hrule, by rw [verdict_of_passed henabled hpassed]; rfl⟩))
        have hne : d'.decision ≠ .continue := by
          intro hcontinue
          have hbad := hwarn.trans hle
          rw [hcontinue] at hbad
          exact absurd hbad (by decide)
        rcases hdecision'.1 with (hd | hd) | hreached
        · exact absurd hd hne
        · exact .inl ⟨_, hd, hne⟩
        · exact .inr ⟨_, hscore'.1, _, hreached⟩
    · rintro (hstatus | hstopped | hcovered)
      · exact absurd hstatus hended
      · cases hstopped
      intro d₁ heval₁
      obtain rfl := Except.ok.inj (heval.symm.trans heval₁)
      obtain ⟨n', hn', hle⟩ := scores_covered h hcovered hscore.1
      have hrisk := hle.trans (hscore'.2 hn')
      obtain ⟨a, ha, hda⟩ := asked_covered h hcovered hrisk hscore' hdecision.1
      exact ⟨d', heval', hda.trans (hdecision'.2 ha), hrisk⟩

/-- A policy whose one rule counts tool calls up to ten, and warns from eight on. -/
def countingPolicy (severity action : Text) : Value :=
  .obj [("version", .str "1.0"), ("policy_id", .str "p"), ("tenant_id", .str "t"), ("name", .str "counting"),
    ("enabled", .bool true), ("default_behavior", .str "OBSERVE"),
    ("rules", .arr [.obj [("rule_id", .str "calls"), ("rule_type", .str "TOO_MANY_TOOL_CALLS"), ("severity", .str severity),
      ("enabled", .bool true), ("action", .str action),
      ("params", .obj [("max_tool_calls", .ofNat 10), ("warning_threshold", .ofNat 8)])]])]

/-- The sample session after some tool calls. -/
def calledContext (calls : Nat) : EvaluationContext := ⟨{ sampleSession with toolCallCount := calls }, 0, none, none⟩

theorem advanced_calledContext {n n' : ℕ} (h : n ≤ n') : Advanced (calledContext n) (calledContext n') :=
  ⟨rfl, rfl, rfl, rfl, le_rfl, h, le_rfl, le_rfl, le_rfl⟩

theorem noWeaker_iff_uncovered :
    ¬ NoWeaker (evaluateRule Tna.Egress.samplePlatform) (fun _ => [])
      ⟨"p", "t", [⟨"calls", .tooManyToolCalls, .info, true, .observe, some ⟨some 10, some 8, none, none⟩⟩], none, "h"⟩ false
      (calledContext 9) (calledContext 11) := by
  rw [noWeaker_iff _ _ _ _ _ _ (advanced_calledContext (by decide))]
  rintro (hstatus | hstopped | hcovered)
  · cases hstatus
  · cases hstopped
  · obtain ⟨n, hn, h0⟩ := hcovered.severity _ (List.mem_singleton_self _) rfl
      ⟨9, 11, 10, 8, rfl, rfl, rfl, by decide, by decide, by decide⟩ rfl
    rcases hn with hn | ⟨rule, hrule, hn⟩
    · exact h0 hn
    · rw [List.mem_singleton.1 hrule] at hn
      exact h0 (Option.some.inj hn).symm

theorem distinct_countingPolicy : (countingPolicy "INFO" "OBSERVE").distinct = true := by decide +kernel

/-- The ninth call is warned of, and the eleventh goes on. -/
def softensBeyond : Bool :=
  match validatePolicyInput ⟨countingPolicy "INFO" "OBSERVE", distinct_countingPolicy⟩ with
  | .ok accepted =>
    match evaluateSession (evaluateRule Tna.Egress.samplePlatform) (fun _ => []) (finalizePolicy accepted "h")
        (calledContext 9) false,
      evaluateSession (evaluateRule Tna.Egress.samplePlatform) (fun _ => []) (finalizePolicy accepted "h")
        (calledContext 11) false with
    | .ok d, .ok d' => decide (d.decision = .warn ∧ d'.decision = .continue)
    | _, _ => false
  | .error _ => false

/-- From the ninth to the eleventh call the decision of an accepted policy falls from `WARN` to `CONTINUE`. -/
theorem weaker_beyond_maximum :
    ¬ ∀ (input : JsValue) (accepted : SentinelPolicyInput) (policyHash : Text) (api : Platform) (newId : ℕ → Text)
      (c c' : EvaluationContext), validatePolicyInput input = .ok accepted → Advanced c c' →
      NoWeaker (evaluateRule api) newId (finalizePolicy accepted policyHash) false c c' := by
  intro h
  have htest : softensBeyond = true := by decide +kernel
  unfold softensBeyond at htest
  split at htest
  next accepted haccepted =>
    split at htest
    next d d' hd hd' =>
      obtain ⟨hwarn, hcontinue⟩ := of_decide_eq_true htest
      obtain ⟨d₂, heval, hle, -⟩ := h _ accepted "h" Tna.Egress.samplePlatform (fun _ => []) _ _ haccepted
        (advanced_calledContext (by decide : 9 ≤ 11)) d hd
      obtain rfl := Except.ok.inj (hd'.symm.trans heval)
      rw [hwarn, hcontinue] at hle
      exact absurd hle (by decide)
    next => cases htest
  next => cases htest

end Tna.Sentinel
