import Tna.Auditor.Schema
import Tna.Sentinel.Signals

/-!
# The rules

`evaluateRule` for every type of rule. A rule classifies what one context shows; what
follows from it is the engine's business. The three volumetric rules have a second,
softer stage: from the warning threshold on they match as `WARN` and `LOW`, whatever
action and severity the policy gives them.
-/

namespace Tna.Sentinel

open Tna.Js
open Tna.Auditor (toIsoString)
open Tna.Egress (lowerCase isPrivateAddress Platform)

/-! ## Values of evidence -/

theorem isNumeral_negative {n : Nat} (h : n ≠ 0) :
    isNumeral (unit '-' :: decimal n) = true ∧ unit '-' :: decimal n ≠ "-0" := by
  obtain ⟨c, t, ht, h0, hd⟩ := decimal_cons h
  have hminus : c ≠ unit '-' := by
    rintro rfl
    exact absurd (hd _ (List.mem_cons_self ..)) (by decide)
  have hnumeral := (isNumeral_decimal n).1
  rw [ht] at hnumeral ⊢
  simp only [isNumeral, beq_eq_false_iff_ne.2 hminus, Bool.and_eq_true] at hnumeral
  constructor
  · simp only [isNumeral, List.all_cons, hnumeral.1, beq_self_eq_true, if_true, Bool.and_eq_true]
    exact ⟨⟨by decide, by simpa using hnumeral.1⟩, by simpa using hnumeral.2⟩
  · rw [show Text.ofAscii "-0" = [unit '-', unit '0'] by decide]
    intro heq
    exact h0 (List.cons.inj (List.cons.inj heq).2).1

/-- A whole number. -/
def intValue : Int → Value
  | .ofNat n => .ofNat n
  | .negSucc n =>
    .num (.finite ⟨unit '-' :: decimal (n + 1), (isNumeral_negative n.succ_ne_zero).1, (isNumeral_negative n.succ_ne_zero).2⟩)

def AuthorityStatusKind.name : AuthorityStatusKind → Text
  | .valid => "VALID"
  | .expired => "EXPIRED"
  | .revoked => "REVOKED"
  | .policyChanged => "POLICY_CHANGED"
  | .unknown => "UNKNOWN"

def RevokedScope.name : RevokedScope → Text
  | .agent => "agent"
  | .approval => "approval"

def Operation.name : Operation → Text
  | .read => "read"
  | .write => "write"
  | .create => "create"
  | .delete => "delete"

/-- A field that is left out when there is nothing to put there. -/
def optionalField (name : Text) : Option Text → List (Text × Value)
  | some t => [(name, .str t)]
  | none => []

def AuthorityStatus.fields (a : AuthorityStatus) : List (Text × Value) :=
  (Text.ofAscii "status", Value.str a.status.name) :: optionalField "revokedScope" (a.revokedScope.map RevokedScope.name) ++
    optionalField "currentPolicyHash" a.currentPolicyHash ++ optionalField "detail" a.detail

/-- `{ authorityStatus }`. -/
def authorityEvidence (a : AuthorityStatus) : JsObject := ⟨[("authorityStatus", .obj a.fields)], by
  obtain ⟨status, scope, hash, detail⟩ := a
  cases scope <;> cases hash <;> cases detail <;> rfl⟩

def CapabilityContext.fields (c : CapabilityContext) : List (Text × Value) :=
  [("capability_id", .str c.capabilityId), ("decision_id", .str c.decisionId), ("agent_id", .str c.agentId),
    ("tool", .str c.tool), ("operation", .str c.operation.name), ("resource", .str c.resource),
    ("expiry", .str (toIsoString c.expiry)), ("input_hash", .str c.inputHash)]

/-- `"`…`"`, in the middle of a sentence. -/
def sentence (before observed between expected after : Text) : Text :=
  before ++ quoted observed ++ between ++ quoted expected ++ after

/-! ## What a rule finds -/

/-- `result('MATCH', …)`. -/
def found (ruleType : RuleType) (message : Text) (evidence : JsObject) (observationId : Option Text) : RuleResult :=
  ⟨.matched, messageCode ruleType, message, evidence, observationId, none, none⟩

/-- `result('ERROR', …)`: the status is not known. -/
def undetermined (ruleType : RuleType) (a : AuthorityStatus) : RuleResult :=
  ⟨.error, messageCode ruleType, "Authority status could not be established", authorityEvidence a, none, none, none⟩

def toolCallTypes : List ObservationType := [.toolCallRequested, .toolCallStarted, .toolCallCompleted, .toolCallFailed]

/-- `RESOURCE_OP`. -/
def resourceOp : ObservationType → Option Operation
  | .resourceRead => some .read
  | .resourceWrite => some .write
  | .resourceCreate => some .create
  | .resourceDelete => some .delete
  | _ => none

/-- `normalizeProcessName`. -/
def normalizeProcessName (name : Text) : Text :=
  let lower := lowerCase name.trim
  let suffixes : List Text := [".exe", ".cmd", ".bat", ".com"]
  if suffixes.any (·.isSuffixOf lower) then lower.take (lower.length - 4) else lower

/-! ## The rules about the authority -/

/-- `AUTHORITY_EXPIRED`. -/
def authorityExpired (context : EvaluationContext) : RuleResult :=
  let expiry := context.session.authorityExpiry
  if expiry < context.now then
    found .authorityExpired (Text.ofAscii "Authority expired at " ++ toIsoString expiry)
      ⟨[("authority_expiry", .str (toIsoString expiry)), ("now", intValue context.now)], by
        have h : (intValue context.now).distinct = true := by cases context.now <;> rfl
        simp [Value.distinct, Value.distinctFields, h]⟩ none
  else noMatch .authorityExpired

/-- `APPROVAL_REVOKED` and `AGENT_REVOKED`. A revocation that names no scope is of the agent. -/
def scopeRevoked (ruleType : RuleType) (wantScope : RevokedScope) (message : Text) (context : EvaluationContext) :
    RuleResult :=
  match context.authorityStatus with
  | none => notApplicable ruleType "No authority recheck is available yet"
  | some a =>
    if a.status = .unknown then undetermined ruleType a
    else if a.status = .revoked ∧ a.revokedScope.getD .agent = wantScope then found ruleType message (authorityEvidence a) none
    else noMatch ruleType

/-- `POLICY_CHANGED`. -/
def policyChanged (context : EvaluationContext) : RuleResult :=
  match context.authorityStatus with
  | none => notApplicable .policyChanged "No policy recheck is available yet"
  | some a =>
    if a.status = .unknown then undetermined .policyChanged a
    else if a.status = .policyChanged then
      found .policyChanged "Active policy hash no longer matches the session-bound snapshot"
        ⟨[("session_policy_hash", .str context.session.policySnapshotHash),
          ("current_policy_hash", (a.currentPolicyHash.map Value.str).getD .null)], by cases a.currentPolicyHash <;> rfl⟩ none
    else noMatch .policyChanged

/-! ## The rules about what is done -/

/-- `TOOL_NOT_ALLOWED`. -/
def toolNotAllowed (context : EvaluationContext) : RuleResult :=
  match context.observation.filter fun o => o.observationType ∈ toolCallTypes with
  | none => notApplicable .toolNotAllowed "No tool-call observation to evaluate"
  | some observation =>
    match str observation.payload "tool" with
    | none => notApplicable .toolNotAllowed "Observation carried no tool field"
    | some tool =>
      let expected := context.session.expectedTool
      if tool ≠ expected then
        found .toolNotAllowed (sentence "Observed tool " tool " does not match authorized tool " expected "")
          (expectedEvidence tool expected) (some observation.observationId)
      else noMatch .toolNotAllowed

/-- `OPERATION_NOT_ALLOWED`. -/
def operationNotAllowed (context : EvaluationContext) : RuleResult :=
  match context.observation.bind fun o => (resourceOp o.observationType).map fun operation => (o, operation) with
  | none => notApplicable .operationNotAllowed "No resource-operation observation to evaluate"
  | some (observation, operation) =>
    let allowed := context.session.allowedOperations
    if operation ∉ allowed then
      found .operationNotAllowed
        (Text.ofAscii "Observed operation " ++ quoted operation.name ++ Text.ofAscii " is not in the authorized operation set")
        (allowedEvidence operation.name (allowed.map Operation.name)) (some observation.observationId)
    else noMatch .operationNotAllowed

/-- `PRIVATE_NETWORK_DESTINATION`. The address a name resolved to goes before the name. -/
def privateNetworkDestination (api : Platform) (context : EvaluationContext) : RuleResult :=
  match context.observation.filter fun o => o.observationType = .networkRequest ∨ o.observationType = .networkRedirect with
  | none => notApplicable .privateNetworkDestination "No network observation to evaluate"
  | some observation =>
    let destination := str observation.payload (if observation.observationType = .networkRedirect then "to" else "destination")
    match (str observation.payload "resolved_address").or destination with
    | none => notApplicable .privateNetworkDestination "Observation carried no destination field"
    | some host =>
      let hostname := normalizeHostname host
      if hostname = "localhost" ∨ (Text.ofAscii ".localhost").isSuffixOf hostname ∨ isPrivateAddress api hostname then
        found .privateNetworkDestination
          (Text.ofAscii "Destination " ++ quoted host ++ Text.ofAscii " resolves to a non-public address range")
          ⟨[("observed", .str host)], rfl⟩ (some observation.observationId)
      else noMatch .privateNetworkDestination

/-- `UNEXPECTED_PROCESS` and `SECRET_LEASE_NOT_ALLOWED`: a list that the session may not have,
and a field of one type of observation that should be on it. -/
def notListed (ruleType : RuleType) (observationType : ObservationType) (field : Text) (list : Option (List Text))
    (same : Text → Text → Bool) (noObservation noList noField before after : Text) (context : EvaluationContext) :
    RuleResult :=
  match context.observation.filter fun o => o.observationType = observationType with
  | none => notApplicable ruleType noObservation
  | some observation =>
    match list with
    | none => notApplicable ruleType noList
    | some allowed =>
      match str observation.payload field with
      | none => notApplicable ruleType noField
      | some observed =>
        if !allowed.any (same observed) then
          found ruleType (before ++ quoted observed ++ after) (allowedEvidence observed allowed)
            (some observation.observationId)
        else noMatch ruleType

def unexpectedProcess (context : EvaluationContext) : RuleResult :=
  notListed .unexpectedProcess .processStarted "executable" context.session.allowedProcesses
    (fun executable allowed => normalizeProcessName allowed == normalizeProcessName executable)
    "No process-start observation to evaluate" "Session declared no process allowlist"
    "Observation carried no executable field" "Process " " is not in the authorized process allowlist" context

def secretLeaseNotAllowed (context : EvaluationContext) : RuleResult :=
  notListed .secretLeaseNotAllowed .secretLeaseRequested "name" context.session.allowedSecrets (fun name allowed => allowed == name)
    "No secret-lease observation to evaluate" "Session declared no secret allowlist"
    "Observation carried no secret name field" "Secret lease " " is not in the authorized secret allowlist" context

/-- `TOOL_INPUT_HASH_MISMATCH`. -/
def toolInputHashMismatch (context : EvaluationContext) : RuleResult :=
  match context.observation.filter fun o => o.observationType ∈ toolCallTypes with
  | none => notApplicable .toolInputHashMismatch "No tool-call observation to evaluate"
  | some observation =>
    match context.session.capabilityContext with
    | none => notApplicable .toolInputHashMismatch "Session declared no capability context"
    | some bound =>
      match str observation.payload "input_hash" with
      | none => notApplicable .toolInputHashMismatch "Observation carried no input_hash field"
      | some inputHash =>
        if inputHash ≠ bound.inputHash then
          found .toolInputHashMismatch "Observed tool input_hash does not match the bound capability context"
            (expectedEvidence inputHash bound.inputHash) (some observation.observationId)
        else noMatch .toolInputHashMismatch

/-- The fields of a bound context that an observed one gives otherwise. What it leaves out is not compared. -/
def mismatchedFields (bound : CapabilityContext) (observed : List (Text × Value)) : List Text :=
  (bound.fields.filter fun field =>
    match Value.get observed field.1, field.2 with
    | .undefined, _ => false
    | .str seen, .str expected => seen ≠ expected
    | _, _ => true).map Prod.fst

def mismatchEvidence (mismatched : List Text) (observed : JsObject) (bound : CapabilityContext) : JsObject :=
  ⟨[("mismatched", .arr (mismatched.map .str)), ("observed", observed.toValue), ("bound", .obj bound.fields)], by
    have hfields : ∀ a b c : Value, a.distinct = true → b.distinct = true → c.distinct = true →
        (Value.obj [("mismatched", a), ("observed", b), ("bound", c)]).distinct = true := by
      intro a b c ha hb hc
      simp [Value.distinct, Value.distinctFields, ha, hb, hc]
    exact hfields _ _ _ (distinct_texts mismatched) observed.distinct rfl⟩

/-- `CAPABILITY_CONTEXT_MISMATCH`. An array has none of the fields. -/
def capabilityContextMismatch (context : EvaluationContext) : RuleResult :=
  match context.observation with
  | none => notApplicable .capabilityContextMismatch "No observation to evaluate"
  | some observation =>
    match context.session.capabilityContext with
    | none => notApplicable .capabilityContextMismatch "No capability context to compare"
    | some bound =>
      match (observation.payload.getD emptyObject).get "capability_context" with
      | ⟨.obj observed, hobserved⟩ =>
        let mismatched := mismatchedFields bound observed
        if mismatched ≠ [] then
          found .capabilityContextMismatch
            (Text.ofAscii "Observed capability context disagrees with the bound context on: " ++
              (Text.ofAscii ", ").intercalate mismatched)
            (mismatchEvidence mismatched ⟨observed, hobserved⟩ bound) (some observation.observationId)
        else noMatch .capabilityContextMismatch
      | ⟨.arr _, _⟩ => noMatch .capabilityContextMismatch
      | _ => notApplicable .capabilityContextMismatch "No capability context to compare"

/-! ## The rules about limits -/

/-- `Math.round(millis / 1000)`, of a time that is not negative. -/
def wholeSeconds (millis : Int) : Nat := ((millis + 500) / 1000).toNat

/-- `RUNTIME_EXCEEDED`. -/
def runtimeExceeded (context : EvaluationContext) : RuleResult :=
  let elapsed := context.now - context.session.startedAt
  let limit := context.session.runtimeLimits.maxRuntimeSeconds
  if limit * 1000 < elapsed then
    found .runtimeExceeded
      (Text.ofAscii "Elapsed runtime " ++ decimal (wholeSeconds elapsed) ++ Text.ofAscii "s exceeds the " ++ decimal limit ++
        Text.ofAscii "s limit")
      ⟨[("elapsed_seconds", .ofNat (wholeSeconds elapsed)), ("max_runtime_seconds", .ofNat limit)], rfl⟩ none
  else noMatch .runtimeExceeded

/-- `COST_EXCEEDED`. -/
def costExceeded (context : EvaluationContext) : RuleResult :=
  let cost := context.session.sessionCost
  let limit := context.session.maxCost
  if limit < cost then
    found .costExceeded
      (Text.ofAscii "Accumulated cost " ++ microsText cost ++ Text.ofAscii " exceeds the " ++ microsText limit ++
        Text.ofAscii " limit")
      ⟨[("session_cost", .ofMicros cost), ("max_cost_usd", .ofMicros limit)], rfl⟩ none
  else noMatch .costExceeded

/-- `volumetric`: the three rules that count. -/
def volumetric (rule : SentinelRuleInput) (count : Nat) (max : Option Nat) : RuleResult :=
  match max with
  | none => notApplicable rule.ruleType "Policy did not configure a threshold for this rule"
  | some max =>
    if max < count then
      found rule.ruleType
        (Text.ofAscii "Observed count " ++ decimal count ++ Text.ofAscii " exceeds configured maximum " ++ decimal max)
        ⟨[("count", .ofNat count), ("max", .ofNat max)], rfl⟩ none
    else
      match rule.params.bind RuleParams.warningThreshold with
      | some warn =>
        if warn ≤ count then
          -- the match is real, but what the policy configured does not apply yet
          ⟨.matched, messageCode rule.ruleType,
            Text.ofAscii "Observed count " ++ decimal count ++ Text.ofAscii " is approaching configured maximum " ++ decimal max,
            ⟨[("count", .ofNat count), ("max", .ofNat max), ("warning_threshold", .ofNat warn), ("approaching", .bool true)], rfl⟩,
            none, some .warn, some .low⟩
        else noMatch rule.ruleType
      | none => noMatch rule.ruleType

/-- `MISSING_HEARTBEAT`. Before the first heartbeat the start of the session stands for it. -/
def missingHeartbeat (context : EvaluationContext) : RuleResult :=
  match context.session.runtimeLimits.heartbeatIntervalSeconds, context.session.runtimeLimits.heartbeatGraceSeconds with
  | some interval, some grace =>
    let lastBeat := context.session.lastHeartbeatAt.getD context.session.startedAt
    let deadline := lastBeat + (interval + grace : Nat) * 1000
    if deadline < context.now then
      found .missingHeartbeat (Text.ofAscii "No heartbeat observed within " ++ decimal (interval + grace) ++ Text.ofAscii "s")
        ⟨[("last_heartbeat_at", .str (toIsoString lastBeat)), ("deadline", .str (toIsoString deadline)),
          ("now", .str (toIsoString context.now))], rfl⟩ none
    else noMatch .missingHeartbeat
  | _, _ => notApplicable .missingHeartbeat "Session declared no heartbeat configuration"

/-! ## All of them -/

def evaluateRule (api : Platform) (rule : SentinelRuleInput) (context : EvaluationContext) : RuleResult :=
  match rule.ruleType with
  | .authorityExpired => authorityExpired context
  | .approvalRevoked => scopeRevoked .approvalRevoked .approval "Approval was revoked during execution" context
  | .agentRevoked => scopeRevoked .agentRevoked .agent "Agent was revoked during execution" context
  | .policyChanged => policyChanged context
  | .toolNotAllowed => toolNotAllowed context
  | .operationNotAllowed => operationNotAllowed context
  | .resourceNotAllowed => resourceNotAllowed context
  | .destinationNotAllowed => destinationNotAllowed context
  | .privateNetworkDestination => privateNetworkDestination api context
  | .redirectNotAllowed => redirectNotAllowed context
  | .runtimeExceeded => runtimeExceeded context
  | .costExceeded => costExceeded context
  | .tooManyToolCalls => volumetric rule context.session.toolCallCount (rule.params.bind RuleParams.maxToolCalls)
  | .tooManyNetworkRequests =>
    volumetric rule context.session.networkRequestCount (rule.params.bind RuleParams.maxNetworkRequests)
  | .tooManyProcessSpawns => volumetric rule context.session.processSpawnCount (rule.params.bind RuleParams.maxProcessSpawns)
  | .unexpectedProcess => unexpectedProcess context
  | .secretLeaseNotAllowed => secretLeaseNotAllowed context
  | .toolInputHashMismatch => toolInputHashMismatch context
  | .capabilityContextMismatch => capabilityContextMismatch context
  | .missingHeartbeat => missingHeartbeat context

end Tna.Sentinel
