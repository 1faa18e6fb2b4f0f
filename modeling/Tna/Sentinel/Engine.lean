import Tna.Sentinel.Schema

/-!
# Sentinel's engine

The lifecycle of a session, and the evaluation that folds the results of the rules
into one decision. The evaluation is a pure function; what it decides is applied by
the runtime, against the status the session has by then.
-/

namespace Tna.Sentinel

open Tna.Js

/-! ## The lifecycle -/

/-- `TRANSITIONS`. -/
def transitions : SessionStatus → List SessionStatus
  | .created => [.monitoring]
  | .monitoring => [.monitoring, .warned, .held, .terminating, .completed, .indeterminate]
  | .warned => [.warned, .monitoring, .held, .terminating]
  | .held => [.held, .monitoring, .terminating]
  | .terminating => [.terminated, .indeterminate]
  | .terminated => []
  | .completed => []
  | .indeterminate => []

def isTerminalStatus : SessionStatus → Bool
  | .terminated | .completed | .indeterminate => true
  | _ => false

/-- A decision's next status. From a terminal status the source throws; both callers
have excluded one. `HELD` gives way to `TERMINATE` alone. -/
def nextStatusForDecision (current : SessionStatus) (decision : SentinelDecisionType) : SessionStatus :=
  if decision = .terminate then .terminating
  else if current = .held then .held
  else if decision = .hold then .held
  else if decision = .warn then .warned
  else .monitoring

/-- The statuses in which nothing privileged may go on. -/
def SessionStatus.stops : SessionStatus → Bool
  | .held | .terminating | .terminated | .indeterminate => true
  | _ => false

/-- Only `HOLD` and `TERMINATE` lead from a status that lets things go on to one that does not. -/
theorem stops_nextStatusForDecision {current : SessionStatus} {decision : SentinelDecisionType} (hcurrent : current.stops = false)
    (h : (nextStatusForDecision current decision).stops = true) : decision = .hold ∨ decision = .terminate := by
  have hnot : current ≠ .held := by
    rintro rfl
    cases hcurrent
  cases decision with
  | hold => exact .inl rfl
  | terminate => exact .inr rfl
  | «continue» => simp [nextStatusForDecision, hnot, SessionStatus.stops] at h
  | warn => simp [nextStatusForDecision, hnot, SessionStatus.stops] at h

/-! ## Decisions -/

inductive PreventionStatus where
  | prevented | detectedAfterEffect
deriving DecidableEq

structure Violation where
  violationId : Text
  ruleId : Text
  ruleType : ViolationRuleType
  severity : Severity
  observedAt : Int
  observationId : Option Text
  sentinelSessionId : Text
  messageCode : Text
  message : Text
  evidence : JsObject
  preventionStatus : PreventionStatus

inductive ContainmentStatus where
  | notRequired | containmentRequested | containmentConfirmed | containmentUnconfirmed
deriving DecidableEq

inductive TransitionResult where
  | applied | escalated | noOpAlreadyStronger | stale
deriving DecidableEq

structure SentinelDecision where
  decisionId : Text
  sentinelSessionId : Text
  timestamp : Int
  decision : SentinelDecisionType
  triggeredRules : List Text
  violations : List Violation
  riskScore : Nat
  policyHash : Text
  authoritySnapshotHash : Text
  containmentStatus : ContainmentStatus
  transitionResult : TransitionResult

def decidePreventionStatus (observation : Option SentinelObservation) (action : RuleAction) : PreventionStatus :=
  match observation with
  | none => .detectedAfterEffect
  | some o =>
    if (action = .hold ∨ action = .terminate) ∧ isPreAction o.observationType = true then .prevented
    else .detectedAfterEffect

def asDecisionType : RuleAction → SentinelDecisionType
  | .observe => .continue
  | .warn => .warn
  | .hold => .hold
  | .terminate => .terminate

/-- `DECISION_BY_PRECEDENCE`, and `CONTINUE` for what it does not list. -/
def decisionByPrecedence : Nat → SentinelDecisionType
  | 1 => .warn
  | 2 => .hold
  | 3 => .terminate
  | _ => .continue

/-! ## The evaluation -/

inductive RuleResultStatus where
  | matched | noMatch | notApplicable | error
deriving DecidableEq

structure RuleResult where
  status : RuleResultStatus
  messageCode : Text
  message : Text
  evidence : JsObject
  observationId : Option Text
  overrideAction : Option RuleAction
  overrideSeverity : Option Severity

structure EvaluationContext where
  session : SentinelSession
  now : Int
  observation : Option SentinelObservation
  authorityStatus : Option AuthorityStatus

def emptyObject : JsObject := ⟨[], Value.distinct_nil⟩

/-- What the loop over the rules has gathered. `best` is a precedence. -/
structure Evaluation where
  violations : List Violation
  triggeredRuleIds : List Text
  riskScore : Nat
  best : Nat

def Evaluation.empty : Evaluation := ⟨[], [], 0, SentinelDecisionType.continue.precedence⟩

def Evaluation.escalate (e : Evaluation) (candidate : SentinelDecisionType) : Evaluation :=
  { e with best := max e.best candidate.precedence }

/-- A violation, the rule it triggers, the decision it asks for and the score it gives. -/
def Evaluation.record (e : Evaluation) (violation : Violation) (decision : SentinelDecisionType) : Evaluation :=
  { e with
    violations := e.violations ++ [violation]
    triggeredRuleIds := e.triggeredRuleIds ++ [violation.ruleId]
    riskScore := max e.riskScore violation.severity.score }.escalate decision

section
variable (evaluateRule : SentinelRuleInput → EvaluationContext → RuleResult) (newId : ℕ → Text)

/-- The loop's body. The identifiers are drawn in turn, one a violation. -/
def evaluateNext (context : EvaluationContext) (e : Evaluation) (rule : SentinelRuleInput) : Evaluation :=
  if !rule.enabled then e
  else
    let outcome := evaluateRule rule context
    match outcome.status with
    | .matched =>
      let action := outcome.overrideAction.getD rule.action
      e.record
        { violationId := newId e.violations.length
          ruleId := rule.ruleId
          ruleType := .rule rule.ruleType
          severity := outcome.overrideSeverity.getD rule.severity
          observedAt := context.now
          observationId := outcome.observationId
          sentinelSessionId := context.session.sentinelSessionId
          messageCode := outcome.messageCode
          message := outcome.message
          evidence := outcome.evidence
          preventionStatus := decidePreventionStatus context.observation action }
        (asDecisionType action)
    | .error =>
      e.record
        { violationId := newId e.violations.length
          ruleId := rule.ruleId
          ruleType := .rule rule.ruleType
          severity := .high
          observedAt := context.now
          observationId := context.observation.map fun o => o.observationId
          sentinelSessionId := context.session.sentinelSessionId
          messageCode := outcome.messageCode ++ Text.ofAscii "_EVALUATION_ERROR"
          message := outcome.message
          evidence := outcome.evidence
          preventionStatus := decidePreventionStatus context.observation .hold }
        .hold
    | _ => e

/-- One threshold: it can raise the decision and never lower it. -/
def Evaluation.threshold (e : Evaluation) (at? : Option Rat) (candidate : SentinelDecisionType) : Evaluation :=
  match at? with
  | some score => if score ≤ e.riskScore then e.escalate candidate else e
  | none => e

def Evaluation.thresholds (e : Evaluation) : Option RiskThresholds → Evaluation
  | some t => ((e.threshold t.terminateAt .terminate).threshold t.holdAt .hold).threshold t.warnAt .warn
  | none => e

/-- The evaluation under an emergency stop: the rules are not looked at. -/
def emergencyEvaluation (context : EvaluationContext) : Evaluation :=
  Evaluation.empty.record
    { violationId := newId 0
      ruleId := "emergency-stop"
      ruleType := .emergencyStop
      severity := .critical
      observedAt := context.now
      observationId := context.observation.map fun o => o.observationId
      sentinelSessionId := context.session.sentinelSessionId
      messageCode := "SENTINEL_EMERGENCY_STOP_ACTIVE"
      message := "An active emergency stop scope covers this session"
      evidence := emptyObject
      preventionStatus := decidePreventionStatus context.observation .terminate }
    .terminate

/-- The decision and the violations; `nextStatus` is read by no caller. -/
def evaluateSession (policy : SentinelPolicy) (context : EvaluationContext) (emergencyStopActive : Bool) :
    Except SentinelThrown SentinelDecision :=
  if isTerminalStatus context.session.status then
    .error (.sentinel .sessionTerminal
      (Text.ofAscii "Session " ++ context.session.sentinelSessionId ++ Text.ofAscii " is in a terminal state (" ++
        context.session.status.name ++ Text.ofAscii ") and cannot be evaluated further"))
  else
    let e :=
      if emergencyStopActive then emergencyEvaluation newId context
      else (policy.rules.foldl (evaluateNext evaluateRule newId context) .empty).thresholds policy.riskThresholds
    let decision := decisionByPrecedence e.best
    .ok
      { decisionId := newId e.violations.length
        sentinelSessionId := context.session.sentinelSessionId
        timestamp := context.now
        decision
        triggeredRules := e.triggeredRuleIds
        violations := e.violations
        riskScore := e.riskScore
        policyHash := policy.policyHash
        authoritySnapshotHash := context.session.authoritySnapshotHash
        containmentStatus :=
          if decision = .hold ∨ decision = .terminate then .containmentRequested else .notRequired
        transitionResult := .applied }

end

end Tna.Sentinel
