import Tna.Js.Object

/-!
# Sentinel's sessions, observations and policies

The records the runtime stores and the rules read. An ISO timestamp is kept as its
instant in milliseconds and an amount of money in millionths of a dollar.
-/

namespace Tna.Sentinel

open Tna.Js

/-! ## Sessions -/

inductive SessionStatus where
  | created | monitoring | warned | held | terminating | terminated | completed | indeterminate
deriving DecidableEq

def SessionStatus.name : SessionStatus → Text
  | .created => "CREATED"
  | .monitoring => "MONITORING"
  | .warned => "WARNED"
  | .held => "HELD"
  | .terminating => "TERMINATING"
  | .terminated => "TERMINATED"
  | .completed => "COMPLETED"
  | .indeterminate => "INDETERMINATE"

inductive Operation where
  | read | write | create | delete
deriving DecidableEq

structure RuntimeLimits where
  maxRuntimeSeconds : Nat
  heartbeatIntervalSeconds : Option Nat
  heartbeatGraceSeconds : Option Nat

structure CapabilityContext where
  capabilityId : Text
  decisionId : Text
  agentId : Text
  tool : Text
  operation : Operation
  resource : Text
  expiry : Int
  inputHash : Text

/-- What the caller gives for a session. -/
structure SentinelSessionInput where
  tenantId : Text
  agentId : Text
  executionId : Text
  decisionId : Option Text
  capabilityId : Option Text
  correlationId : Text
  authoritySnapshotHash : Text
  policySnapshotHash : Text
  expectedAction : Text
  expectedTool : Text
  expectedResource : Text
  allowedDestinations : List Text
  allowedOperations : List Operation
  allowedProcesses : Option (List Text)
  allowedSecrets : Option (List Text)
  authorityExpiry : Int
  runtimeLimits : RuntimeLimits
  maxCost : Nat
  capabilityContext : Option CapabilityContext

/-- A session as it is stored. The runtime owns what the input does not have. -/
structure SentinelSession extends SentinelSessionInput where
  sentinelSessionId : Text
  startedAt : Int
  updatedAt : Int
  status : SessionStatus
  observationSequence : Nat
  toolCallCount : Nat
  networkRequestCount : Nat
  processSpawnCount : Nat
  sessionCost : Nat
  lastHeartbeatAt : Option Int

/-- The primary key of a session's row. -/
def SentinelSession.key (s : SentinelSession) : Text × Text := (s.tenantId, s.sentinelSessionId)

/-! ## Observations -/

inductive ObservationSource where
  | tnaGate | executionBroker | isolationRunner | egressGuard | secretBroker | toolAdapter | vadRuntime | sentinel
  | system
deriving DecidableEq

inductive ObservationType where
  | executionStarted
  | toolCallRequested | toolCallStarted | toolCallCompleted | toolCallFailed
  | resourceRead | resourceWrite | resourceCreate | resourceDelete
  | networkRequest | networkRedirect
  | processStarted | processExited
  | secretLeaseRequested | secretLeaseGranted | secretLeaseReleased
  | costReported
  | authorityRecheck | policyRecheck | revocationRecheck
  | executionHeartbeat | executionCompleted | executionFailed
deriving DecidableEq

def ObservationType.name : ObservationType → Text
  | .executionStarted => "EXECUTION_STARTED"
  | .toolCallRequested => "TOOL_CALL_REQUESTED"
  | .toolCallStarted => "TOOL_CALL_STARTED"
  | .toolCallCompleted => "TOOL_CALL_COMPLETED"
  | .toolCallFailed => "TOOL_CALL_FAILED"
  | .resourceRead => "RESOURCE_READ"
  | .resourceWrite => "RESOURCE_WRITE"
  | .resourceCreate => "RESOURCE_CREATE"
  | .resourceDelete => "RESOURCE_DELETE"
  | .networkRequest => "NETWORK_REQUEST"
  | .networkRedirect => "NETWORK_REDIRECT"
  | .processStarted => "PROCESS_STARTED"
  | .processExited => "PROCESS_EXITED"
  | .secretLeaseRequested => "SECRET_LEASE_REQUESTED"
  | .secretLeaseGranted => "SECRET_LEASE_GRANTED"
  | .secretLeaseReleased => "SECRET_LEASE_RELEASED"
  | .costReported => "COST_REPORTED"
  | .authorityRecheck => "AUTHORITY_RECHECK"
  | .policyRecheck => "POLICY_RECHECK"
  | .revocationRecheck => "REVOCATION_RECHECK"
  | .executionHeartbeat => "EXECUTION_HEARTBEAT"
  | .executionCompleted => "EXECUTION_COMPLETED"
  | .executionFailed => "EXECUTION_FAILED"

/-- `SOURCE_ALLOWED_OBSERVATION_TYPES`. -/
def sourceAllowedObservationTypes : ObservationSource → List ObservationType
  | .tnaGate => [.authorityRecheck, .policyRecheck, .revocationRecheck]
  | .executionBroker =>
    [.executionStarted, .toolCallRequested, .toolCallStarted, .toolCallCompleted, .toolCallFailed, .executionCompleted,
      .executionFailed, .executionHeartbeat, .costReported]
  | .isolationRunner =>
    [.processStarted, .processExited, .resourceRead, .resourceWrite, .resourceCreate, .resourceDelete]
  | .egressGuard => [.networkRequest, .networkRedirect]
  | .secretBroker => [.secretLeaseRequested, .secretLeaseGranted, .secretLeaseReleased]
  | .toolAdapter =>
    [.toolCallRequested, .toolCallStarted, .toolCallCompleted, .toolCallFailed, .resourceRead, .resourceWrite,
      .resourceCreate, .resourceDelete]
  | .vadRuntime => [.executionStarted, .executionCompleted, .executionFailed, .executionHeartbeat]
  | .sentinel => [.authorityRecheck, .policyRecheck, .revocationRecheck]
  | .system => [.costReported, .executionHeartbeat]

/-- The observation is of something not done yet: `observationPhase` is `PRE_ACTION`. -/
def isPreAction : ObservationType → Bool
  | .toolCallRequested | .networkRequest | .processStarted | .resourceWrite | .resourceCreate | .resourceDelete
  | .secretLeaseRequested => true
  | _ => false

/-- An observation as it was validated. -/
structure SentinelObservationInput where
  observationId : Text
  tenantId : Text
  sentinelSessionId : Text
  timestamp : Int
  source : ObservationSource
  observationType : ObservationType
  payload : Option JsObject

/-- The text of two inputs is the same. -/
def SentinelObservationInput.sameText (a b : SentinelObservationInput) : Bool :=
  decide (a.observationId = b.observationId ∧ a.tenantId = b.tenantId ∧ a.sentinelSessionId = b.sentinelSessionId ∧
    a.timestamp = b.timestamp ∧ a.source = b.source ∧ a.observationType = b.observationType ∧
    a.payload.map (fun p => p.toValue.stringify) = b.payload.map fun p => p.toValue.stringify)

structure SentinelObservation extends SentinelObservationInput where
  sequence : Nat
  receivedAt : Int

/-! ## Rules and decisions -/

inductive RuleAction where
  | observe | warn | hold | terminate
deriving DecidableEq

inductive Severity where
  | info | low | medium | high | critical
deriving DecidableEq

/-- `SEVERITY_SCORE`. -/
def Severity.score : Severity → Nat
  | .info => 0
  | .low => 10
  | .medium => 30
  | .high => 60
  | .critical => 100

inductive SentinelDecisionType where
  | continue | warn | hold | terminate
deriving DecidableEq

/-- `DECISION_PRECEDENCE`. -/
def SentinelDecisionType.precedence : SentinelDecisionType → Nat
  | .continue => 0
  | .warn => 1
  | .hold => 2
  | .terminate => 3

inductive RuleType where
  | authorityExpired | approvalRevoked | agentRevoked | policyChanged
  | toolNotAllowed | operationNotAllowed | resourceNotAllowed
  | destinationNotAllowed | privateNetworkDestination | redirectNotAllowed
  | runtimeExceeded | costExceeded
  | tooManyToolCalls | tooManyNetworkRequests | tooManyProcessSpawns | unexpectedProcess
  | secretLeaseNotAllowed | toolInputHashMismatch | capabilityContextMismatch | missingHeartbeat
deriving DecidableEq

def RuleType.name : RuleType → Text
  | .authorityExpired => "AUTHORITY_EXPIRED"
  | .approvalRevoked => "APPROVAL_REVOKED"
  | .agentRevoked => "AGENT_REVOKED"
  | .policyChanged => "POLICY_CHANGED"
  | .toolNotAllowed => "TOOL_NOT_ALLOWED"
  | .operationNotAllowed => "OPERATION_NOT_ALLOWED"
  | .resourceNotAllowed => "RESOURCE_NOT_ALLOWED"
  | .destinationNotAllowed => "DESTINATION_NOT_ALLOWED"
  | .privateNetworkDestination => "PRIVATE_NETWORK_DESTINATION"
  | .redirectNotAllowed => "REDIRECT_NOT_ALLOWED"
  | .runtimeExceeded => "RUNTIME_EXCEEDED"
  | .costExceeded => "COST_EXCEEDED"
  | .tooManyToolCalls => "TOO_MANY_TOOL_CALLS"
  | .tooManyNetworkRequests => "TOO_MANY_NETWORK_REQUESTS"
  | .tooManyProcessSpawns => "TOO_MANY_PROCESS_SPAWNS"
  | .unexpectedProcess => "UNEXPECTED_PROCESS"
  | .secretLeaseNotAllowed => "SECRET_LEASE_NOT_ALLOWED"
  | .toolInputHashMismatch => "TOOL_INPUT_HASH_MISMATCH"
  | .capabilityContextMismatch => "CAPABILITY_CONTEXT_MISMATCH"
  | .missingHeartbeat => "MISSING_HEARTBEAT"

/-- What a violation is of: a rule, an emergency stop, or a controller's own decision. -/
inductive ViolationRuleType where
  | rule (t : RuleType)
  | emergencyStop
  | manualControl
deriving DecidableEq

def ViolationRuleType.name : ViolationRuleType → Text
  | .rule t => t.name
  | .emergencyStop => "EMERGENCY_STOP"
  | .manualControl => "MANUAL_CONTROL"

inductive AuthorityStatusKind where
  | valid | expired | revoked | policyChanged | unknown
deriving DecidableEq

inductive RevokedScope where
  | agent | approval
deriving DecidableEq

structure AuthorityStatus where
  status : AuthorityStatusKind
  revokedScope : Option RevokedScope
  currentPolicyHash : Option Text
  detail : Option Text
deriving DecidableEq

/-! ## Policies -/

structure RuleParams where
  maxToolCalls : Option Nat
  warningThreshold : Option Nat
  maxNetworkRequests : Option Nat
  maxProcessSpawns : Option Nat

structure SentinelRuleInput where
  ruleId : Text
  ruleType : RuleType
  severity : Severity
  enabled : Bool
  action : RuleAction
  params : Option RuleParams

/-- Scores from 0 to 100. -/
structure RiskThresholds where
  warnAt : Option Rat
  holdAt : Option Rat
  terminateAt : Option Rat

/-- An accepted policy: what an evaluation reads of it. -/
structure SentinelPolicy where
  policyId : Text
  tenantId : Text
  rules : List SentinelRuleInput
  riskThresholds : Option RiskThresholds
  policyHash : Text

/-! ## Errors -/

inductive SentinelCode where
  | observationConflict | notFound | forbidden | invalidInput | invalidTransition | sessionTerminal
deriving DecidableEq

/-- What a call can throw: an error of Sentinel's own, or one from the database or from foreign code. -/
inductive SentinelThrown where
  | sentinel (code : SentinelCode) (message : Text)
  | other

end Tna.Sentinel
