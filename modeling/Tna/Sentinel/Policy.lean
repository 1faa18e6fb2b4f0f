import Tna.Js.Number
import Tna.Ledger.Validate
import Tna.Sentinel.Rules

/-!
# Accepting a policy

`validatePolicyInput` takes a policy as a whole or not at all. What it lets through has
rules of known types, each with a name of its own, and thresholds from 0 to 100 that do
not decrease. Every error is `POLICY_INVALID` and is kept as its message.
-/

namespace Tna.Sentinel

open Tna.Js
open Tna.Ledger (safeId isIsoTimestamp)

def sentinelPolicyVersion : Text := "1.0"

/-- `MAX_RULES_PER_POLICY`. -/
def maxRulesPerPolicy : Nat := 100

structure SentinelPolicyInput where
  policyId : Text
  tenantId : Text
  name : Text
  enabled : Bool
  rules : List SentinelRuleInput
  defaultBehavior : RuleAction
  riskThresholds : Option RiskThresholds
  effectiveAt : Option Text
  expiresAt : Option Text

/-! ## Vocabularies -/

def ruleTypes : List RuleType :=
  [.authorityExpired, .approvalRevoked, .agentRevoked, .policyChanged, .toolNotAllowed, .operationNotAllowed,
    .resourceNotAllowed, .destinationNotAllowed, .privateNetworkDestination, .redirectNotAllowed, .runtimeExceeded,
    .costExceeded, .tooManyToolCalls, .tooManyNetworkRequests, .tooManyProcessSpawns, .unexpectedProcess,
    .secretLeaseNotAllowed, .toolInputHashMismatch, .capabilityContextMismatch, .missingHeartbeat]

def severities : List Severity := [.info, .low, .medium, .high, .critical]

def Severity.name : Severity → Text
  | .info => "INFO"
  | .low => "LOW"
  | .medium => "MEDIUM"
  | .high => "HIGH"
  | .critical => "CRITICAL"

def ruleActions : List RuleAction := [.observe, .warn, .hold, .terminate]

def RuleAction.name : RuleAction → Text
  | .observe => "OBSERVE"
  | .warn => "WARN"
  | .hold => "HOLD"
  | .terminate => "TERMINATE"

/-- The member of a vocabulary that a value names. -/
def named {α : Type} (all : List α) (name : α → Text) (v : JsValue) : Option α :=
  v.asText?.bind fun t => all.find? fun a => name a = t

/-! ## Numbers and fields -/

/-- `positiveInt`, with the number. -/
def positiveInt (v : JsValue) : Option Nat :=
  (finiteNumber v.val).bind fun n => if n.2.den = 1 ∧ 0 < n.2 ∧ n.2 ≤ 1000000 then some n.2.num.toNat else none

/-- `score`, with the number. -/
def score (v : JsValue) : Option ℚ :=
  (finiteNumber v.val).bind fun n => if 0 ≤ n.2 ∧ n.2 ≤ 100 then some n.2 else none

/-- What a check finds, or the message it throws. -/
def orThrow {α : Type} (message : Text) : Option α → Except Text α
  | some a => .ok a
  | none => .error message

def asBool? (v : JsValue) : Option Bool :=
  match v.val with
  | .bool b => some b
  | _ => none

/-! ## Rules -/

/-- `RULE_TYPES_REQUIRING_PARAMS`. -/
def requiredParam : RuleType → Option Text
  | .tooManyToolCalls => some "max_tool_calls"
  | .tooManyNetworkRequests => some "max_network_requests"
  | .tooManyProcessSpawns => some "max_process_spawns"
  | _ => none

/-- The parameters as the rules read them. One that no rule of the type reads may be anything. -/
def ruleParams (params : JsObject) : RuleParams where
  maxToolCalls := positiveInt (params.get "max_tool_calls")
  warningThreshold := positiveInt (params.get "warning_threshold")
  maxNetworkRequests := positiveInt (params.get "max_network_requests")
  maxProcessSpawns := positiveInt (params.get "max_process_spawns")

/-- The maximum of a volumetric rule, and the warning threshold strictly below it. -/
def checkParams (ruleId : Text) (ruleType : RuleType) (params : JsValue) : Except Text Unit :=
  match requiredParam ruleType with
  | none => .ok ()
  | some required => do
    let (params, max) ← orThrow
      (Text.ofAscii "rule " ++ ruleId ++ Text.ofAscii " (" ++ ruleType.name ++ Text.ofAscii ") requires params." ++ required)
      (params.asObject?.bind fun params => (positiveInt (params.get required)).map fun max => (params, max))
    if (params.get "warning_threshold").val.isUndefined then .ok ()
    else
      let _ ← orThrow
        (Text.ofAscii "rule " ++ ruleId ++ Text.ofAscii " warning_threshold must be a positive integer below " ++ required)
        ((positiveInt (params.get "warning_threshold")).filter (· < max))

def validateRule (input : JsValue) : Except Text SentinelRuleInput := do
  let input ← orThrow "Each rule must be an object" input.asObject?
  let ruleId ← orThrow "rule.rule_id is required" (safeId (input.get "rule_id") 200)
  let ruleType ← orThrow (Text.ofAscii "Unknown rule_type: " ++ (input.get "rule_type").val.toText)
    (named ruleTypes RuleType.name (input.get "rule_type"))
  let severity ← orThrow "rule.severity must be a controlled severity" (named severities Severity.name (input.get "severity"))
  let enabled ← orThrow "rule.enabled must be a boolean" (asBool? (input.get "enabled"))
  let action ← orThrow "rule.action must be a controlled action" (named ruleActions RuleAction.name (input.get "action"))
  checkParams ruleId ruleType (input.get "params")
  return { ruleId, ruleType, severity, enabled, action, params := (input.get "params").asObject?.map ruleParams }

/-! ## The whole -/

/-- `Array.isArray(value)`, with the items. -/
def asItems? : JsValue → Option (List JsValue)
  | ⟨.arr items, h⟩ => some (items.attach.map fun v => ⟨v.1, Value.distinctItems_iff.1 h v.1 v.2⟩)
  | _ => none

/-- The identifier of the first rule that has the one of an earlier rule. -/
def duplicateRule : List Text → List SentinelRuleInput → Option Text
  | _, [] => none
  | seen, rule :: rest => if rule.ruleId ∈ seen then some rule.ruleId else duplicateRule (rule.ruleId :: seen) rest

/-- One threshold of `risk_thresholds`. -/
def thresholdField (thresholds : JsObject) (key : String) : Except Text (Option ℚ) :=
  if (thresholds.get key).val.isUndefined then .ok none
  else some <$> orThrow (Text.ofAscii "risk_thresholds." ++ Text.ofAscii key ++ Text.ofAscii " must be a number from 0 to 100")
    (score (thresholds.get key))

/-- The thresholds, in their order where two neighbours are there. -/
def validateThresholds (input : JsValue) : Except Text (Option RiskThresholds) := do
  if input.val.isUndefined then return none
  let input ← orThrow "risk_thresholds must be an object" input.asObject?
  let warnAt ← thresholdField input "warn_at"
  let holdAt ← thresholdField input "hold_at"
  let terminateAt ← thresholdField input "terminate_at"
  let decreasing : Text := "risk_thresholds must be non-decreasing: warn_at <= hold_at <= terminate_at"
  if warnAt.any fun warn => holdAt.any fun hold => hold < warn then throw decreasing
  if holdAt.any fun hold => terminateAt.any fun terminate => terminate < hold then throw decreasing
  return some ⟨warnAt, holdAt, terminateAt⟩

/-- `effective_at` and `expires_at`. -/
def timestampField (input : JsObject) (key : String) : Except Text (Option Text) :=
  if (input.get key).val.isUndefined then .ok none
  else some <$> orThrow (Text.ofAscii key ++ Text.ofAscii " must be a valid ISO-8601 UTC timestamp")
    ((input.get key).asText?.filter fun t => isIsoTimestamp t)

def validatePolicyInput (input : JsValue) : Except Text SentinelPolicyInput := do
  let input ← orThrow "Policy must be an object" input.asObject?
  let _ ← orThrow (Text.ofAscii "Unsupported policy version: " ++ (input.get "version").val.toText)
    ((input.get "version").asText?.filter (· = sentinelPolicyVersion))
  let policyId ← orThrow "policy_id is required" (safeId (input.get "policy_id") 200)
  let tenantId ← orThrow "tenant_id is required" (safeId (input.get "tenant_id") 100)
  let name ← orThrow "name is required" ((input.get "name").asText?.filter fun t => t.length ≠ 0 ∧ t.length ≤ 200)
  let enabled ← orThrow "enabled must be a boolean" (asBool? (input.get "enabled"))
  let items ← orThrow (Text.ofAscii "rules must be an array of at most " ++ decimal maxRulesPerPolicy ++ Text.ofAscii " entries")
    ((asItems? (input.get "rules")).filter fun items => items.length ≤ maxRulesPerPolicy)
  let rules ← items.mapM validateRule
  if let some ruleId := duplicateRule [] rules then throw (Text.ofAscii "Duplicate rule_id: " ++ ruleId)
  let defaultBehavior ← orThrow "default_behavior must be a controlled action"
    (named ruleActions RuleAction.name (input.get "default_behavior"))
  let riskThresholds ← validateThresholds (input.get "risk_thresholds")
  let effectiveAt ← timestampField input "effective_at"
  let expiresAt ← timestampField input "expires_at"
  return { policyId, tenantId, name, enabled, rules, defaultBehavior, riskThresholds, effectiveAt, expiresAt }

/-- `finalizePolicy`, with the hash of the input. -/
def finalizePolicy (input : SentinelPolicyInput) (policyHash : Text) : SentinelPolicy where
  policyId := input.policyId
  tenantId := input.tenantId
  rules := input.rules
  riskThresholds := input.riskThresholds
  policyHash := policyHash

end Tna.Sentinel
