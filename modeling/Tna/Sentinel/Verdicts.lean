import Mathlib.Order.Lattice
import Tna.Lib.Ordered
import Tna.Egress.Guarded
import Tna.Sentinel.Policy
import Tna.Sentinel.Statuses

/-!
# What an evaluation comes to

The loop over the rules keeps two maxima: of the decisions the rules ask for, and of the
scores of their severities. Thresholds on the second raise the first. So the order of the
rules does not matter, and a policy that asks for more never decides less.
-/

namespace Tna.Sentinel

open Tna.Js Tna.Lib
open Tna.Egress (Platform)

theorem precedence_injective : Function.Injective SentinelDecisionType.precedence := by
  intro a b h
  cases a <;> cases b <;> first | rfl | cases h

/-- `CONTINUE`, `WARN`, `HOLD`, `TERMINATE`. -/
instance : LinearOrder SentinelDecisionType := .lift' SentinelDecisionType.precedence precedence_injective

theorem decisionByPrecedence_precedence (d : SentinelDecisionType) : decisionByPrecedence d.precedence = d := by
  cases d <;> rfl

theorem precedence_mono : Monotone SentinelDecisionType.precedence := fun _ _ h => h

theorem precedence_raise (d : SentinelDecisionType) (x : Option SentinelDecisionType) :
    (raise d x).precedence = raise d.precedence (x.map SentinelDecisionType.precedence) := by
  cases x with
  | none => rfl
  | some a => exact precedence_mono.map_max

/-! ## What is asked for -/

section
variable (evaluateRule : SentinelRuleInput → EvaluationContext → RuleResult)

/-- The decision a rule asks for and how severe it is, when it is enabled and finds something. -/
def verdict (context : EvaluationContext) (rule : SentinelRuleInput) : Option (SentinelDecisionType × Severity) :=
  if !rule.enabled then none
  else
    let outcome := evaluateRule rule context
    match outcome.status with
    | .matched => some (asDecisionType (outcome.overrideAction.getD rule.action), outcome.overrideSeverity.getD rule.severity)
    | .error => some (.hold, .high)
    | _ => none

/-- The decisions the rules ask for. -/
def requested (context : EvaluationContext) (rules : List SentinelRuleInput) : Set SentinelDecisionType :=
  {d | ∃ rule ∈ rules, (verdict evaluateRule context rule).map Prod.fst = some d}

/-- The scores of what the rules find, and of nothing found. -/
def scores (context : EvaluationContext) (rules : List SentinelRuleInput) : Set ℕ :=
  {0} ∪ {n | ∃ rule ∈ rules, (verdict evaluateRule context rule).map (fun v => v.2.score) = some n}

/-- A threshold that a score has reached, with what it escalates to. -/
inductive Reached (policy : SentinelPolicy) (n : ℕ) : SentinelDecisionType → Prop where
  | warn {t : RiskThresholds} {score : ℚ} (ht : policy.riskThresholds = some t) (h : t.warnAt = some score) (hle : score ≤ n) :
    Reached policy n .warn
  | hold {t : RiskThresholds} {score : ℚ} (ht : policy.riskThresholds = some t) (h : t.holdAt = some score) (hle : score ≤ n) :
    Reached policy n .hold
  | terminate {t : RiskThresholds} {score : ℚ} (ht : policy.riskThresholds = some t) (h : t.terminateAt = some score)
    (hle : score ≤ n) : Reached policy n .terminate

/-- All that asks for a decision in a context, where the score is `n`. -/
def asked (policy : SentinelPolicy) (context : EvaluationContext) (n : ℕ) : Set SentinelDecisionType :=
  {.continue} ∪ requested evaluateRule context policy.rules ∪ {d | Reached policy n d}

/-! ## The loop -/

variable {evaluateRule} {newId : ℕ → Text} {context : EvaluationContext}

theorem evaluateNext_best (e : Evaluation) (rule : SentinelRuleInput) :
    (evaluateNext evaluateRule newId context e rule).best =
      raise e.best ((verdict evaluateRule context rule).map fun v => v.1.precedence) := by
  unfold evaluateNext verdict
  cases rule.enabled with
  | false => rfl
  | true => cases hstatus : (evaluateRule rule context).status <;> simp only [hstatus] <;> rfl

theorem evaluateNext_riskScore (e : Evaluation) (rule : SentinelRuleInput) :
    (evaluateNext evaluateRule newId context e rule).riskScore =
      raise e.riskScore ((verdict evaluateRule context rule).map fun v => v.2.score) := by
  unfold evaluateNext verdict
  cases rule.enabled with
  | false => rfl
  | true => cases hstatus : (evaluateRule rule context).status <;> simp only [hstatus] <;> rfl

/-- **The score of an evaluation** is the greatest of what its rules find. -/
theorem riskScore_foldl (rules : List SentinelRuleInput) :
    IsGreatest (scores evaluateRule context rules)
      (rules.foldl (evaluateNext evaluateRule newId context) .empty).riskScore := by
  have hfold : rules.foldl (fun n rule => raise n ((verdict evaluateRule context rule).map fun v => v.2.score))
      Evaluation.empty.riskScore =
      (rules.foldl (evaluateNext evaluateRule newId context) .empty).riskScore :=
    List.foldl_hom Evaluation.riskScore fun e rule => (evaluateNext_riskScore e rule).symm
  rw [← hfold]
  exact isGreatest_foldl_raise _ rules 0

/-- The precedence the loop keeps is the one of the greatest decision that the rules ask for. -/
theorem best_foldl (rules : List SentinelRuleInput) :
    ∃ d, (rules.foldl (evaluateNext evaluateRule newId context) .empty).best = d.precedence ∧
      IsGreatest ({.continue} ∪ requested evaluateRule context rules) d := by
  let ask := fun rule => (verdict evaluateRule context rule).map Prod.fst
  have hbest : rules.foldl (fun n rule => raise n ((ask rule).map SentinelDecisionType.precedence)) Evaluation.empty.best =
      (rules.foldl (evaluateNext evaluateRule newId context) .empty).best :=
    List.foldl_hom Evaluation.best fun e rule => by rw [evaluateNext_best, Option.map_map]; rfl
  have hprecedence : rules.foldl (fun n rule => raise n ((ask rule).map SentinelDecisionType.precedence))
      SentinelDecisionType.continue.precedence = (rules.foldl (fun d rule => raise d (ask rule)) .continue).precedence :=
    List.foldl_hom SentinelDecisionType.precedence fun d rule => (precedence_raise d (ask rule)).symm
  exact ⟨_, hbest.symm.trans hprecedence, isGreatest_foldl_raise ask rules .continue⟩

/-! ## The thresholds -/

/-- What one threshold asks for. -/
def escalation (n : ℕ) (at? : Option ℚ) (candidate : SentinelDecisionType) : Option SentinelDecisionType :=
  if at?.any fun score => score ≤ (n : ℚ) then some candidate else none

variable {d : SentinelDecisionType} {n : ℕ} {e : Evaluation} {policy policy' : SentinelPolicy}

theorem escalation_eq_some {at? : Option ℚ} {candidate : SentinelDecisionType} :
    escalation n at? candidate = some d ↔ d = candidate ∧ ∃ score, at? = some score ∧ score ≤ n := by
  unfold escalation
  cases at? with
  | none => simp
  | some score =>
    by_cases h : score ≤ (n : ℚ)
    · simp [h, eq_comm (a := candidate)]
    · simp [h]

theorem threshold_best (h : e.best = d.precedence) (at? : Option ℚ) (candidate : SentinelDecisionType) :
    (e.threshold at? candidate).best = (raise d (escalation e.riskScore at? candidate)).precedence := by
  rw [precedence_raise, ← h]
  unfold Evaluation.threshold escalation
  cases at? with
  | none => rfl
  | some score => by_cases hle : score ≤ e.riskScore <;> simp [hle, Evaluation.escalate]

theorem threshold_riskScore (e : Evaluation) (at? : Option ℚ) (candidate : SentinelDecisionType) :
    (e.threshold at? candidate).riskScore = e.riskScore := by
  unfold Evaluation.threshold
  split
  · split <;> rfl
  · rfl

theorem thresholds_riskScore (e : Evaluation) (t : Option RiskThresholds) : (e.thresholds t).riskScore = e.riskScore := by
  cases t with
  | none => rfl
  | some t => simp only [Evaluation.thresholds, threshold_riskScore]

/-- **The thresholds** make the decision the greatest of the one there was and those they ask for. -/
theorem thresholds_best (policy : SentinelPolicy) {s : Set SentinelDecisionType} (he : e.best = d.precedence)
    (hd : IsGreatest s d) :
    ∃ d', (e.thresholds policy.riskThresholds).best = d'.precedence ∧
      IsGreatest (s ∪ {a | Reached policy e.riskScore a}) d' := by
  cases ht : policy.riskThresholds with
  | none =>
    refine ⟨d, he, ?_⟩
    have hnone : {a | Reached policy e.riskScore a} = (∅ : Set SentinelDecisionType) := by
      ext a
      simp only [Set.mem_ofPred_eq, Set.mem_empty_iff_false, iff_false]
      intro hreached
      cases hreached with
      | warn ht' | hold ht' | terminate ht' => exact nomatch ht.symm.trans ht'
    rwa [hnone, Set.union_empty]
  | some t =>
    have hterminate := threshold_best he t.terminateAt .terminate
    have hhold := threshold_best hterminate t.holdAt .hold
    have hwarn := threshold_best hhold t.warnAt .warn
    refine ⟨_, hwarn, ?_⟩
    simp only [threshold_riskScore]
    have hgreatest := isGreatest_raise (isGreatest_raise (isGreatest_raise hd (escalation e.riskScore t.terminateAt .terminate))
      (escalation e.riskScore t.holdAt .hold)) (escalation e.riskScore t.warnAt .warn)
    convert hgreatest using 1
    rw [Set.union_assoc, Set.union_assoc]
    congr 1
    ext a
    simp only [Set.mem_union, Set.mem_ofPred_eq, escalation_eq_some]
    constructor
    · intro hreached
      cases hreached with
      | terminate ht' h hle => 
        obtain rfl := Option.mem_unique ht ht'
        exact .inl ⟨rfl, _, h, hle⟩
      | hold ht' h hle =>
        obtain rfl := Option.mem_unique ht ht'
        exact .inr (.inl ⟨rfl, _, h, hle⟩)
      | warn ht' h hle =>
        obtain rfl := Option.mem_unique ht ht'
        exact .inr (.inr ⟨rfl, _, h, hle⟩)
    · rintro (⟨rfl, score, h, hle⟩ | ⟨rfl, score, h, hle⟩ | ⟨rfl, score, h, hle⟩)
      · exact .terminate ht h hle
      · exact .hold ht h hle
      · exact .warn ht h hle

/-! ## The whole -/

/-- An evaluation of a session that has not ended, under no emergency stop. -/
theorem evaluateSession_ok (evaluateRule : SentinelRuleInput → EvaluationContext → RuleResult) (newId : ℕ → Text)
    (policy : SentinelPolicy) (hopen : isTerminalStatus context.session.status = false) :
    ∃ d, evaluateSession evaluateRule newId policy context false = .ok d ∧
      IsGreatest (scores evaluateRule context policy.rules) d.riskScore ∧
      IsGreatest (asked evaluateRule policy context d.riskScore) d.decision := by
  have hscore : IsGreatest (scores evaluateRule context policy.rules)
      (policy.rules.foldl (evaluateNext evaluateRule newId context) .empty).riskScore := riskScore_foldl policy.rules
  obtain ⟨best, hbest, hgreatest⟩ : ∃ d, (policy.rules.foldl (evaluateNext evaluateRule newId context) .empty).best = d.precedence ∧
      IsGreatest ({.continue} ∪ requested evaluateRule context policy.rules) d := best_foldl policy.rules
  obtain ⟨d, hd, hasked⟩ := thresholds_best policy hbest hgreatest
  unfold evaluateSession
  rw [hopen, if_neg Bool.false_ne_true]
  refine ⟨_, rfl, ?_, ?_⟩
  · rw [if_neg Bool.false_ne_true, thresholds_riskScore]
    exact hscore
  · simp only [if_neg Bool.false_ne_true, thresholds_riskScore, hd, decisionByPrecedence_precedence]
    exact hasked

/-- An active emergency stop terminates, with the greatest score there is. -/
theorem evaluateSession_stopped (evaluateRule : SentinelRuleInput → EvaluationContext → RuleResult) (newId : ℕ → Text)
    (policy : SentinelPolicy) (hopen : isTerminalStatus context.session.status = false) :
    ∃ d, evaluateSession evaluateRule newId policy context true = .ok d ∧ d.decision = .terminate ∧
      IsGreatest (Set.range Severity.score) d.riskScore := by
  unfold evaluateSession
  rw [hopen, if_neg Bool.false_ne_true]
  refine ⟨_, rfl, rfl, ⟨.critical, rfl⟩, ?_⟩
  rintro n ⟨severity, rfl⟩
  change severity.score ≤ 100
  cases severity <;> decide

/-! ## Policies that ask for more -/

/-- A threshold is there as well, and no higher. -/
def Lowered (old new : Option ℚ) : Prop := ∀ score, old = some score → ∃ score' ≤ score, new = some score'

/-- Every enabled rule is still there and enabled, among those that were enabled or added, and
every threshold is there and no higher, among those that were added. -/
structure Tightened (policy policy' : SentinelPolicy) : Prop where
  rules : ∀ rule ∈ policy.rules, rule.enabled = true → rule ∈ policy'.rules
  thresholds : ∀ t, policy.riskThresholds = some t → ∃ t', policy'.riskThresholds = some t' ∧
    Lowered t.warnAt t'.warnAt ∧ Lowered t.holdAt t'.holdAt ∧ Lowered t.terminateAt t'.terminateAt

theorem enabled_of_verdict {rule : SentinelRuleInput} {v : SentinelDecisionType × Severity}
    (h : verdict evaluateRule context rule = some v) : rule.enabled = true := by
  unfold verdict at h
  cases henabled : rule.enabled with
  | false => rw [henabled] at h; cases h
  | true => rfl

end

end Tna.Sentinel
