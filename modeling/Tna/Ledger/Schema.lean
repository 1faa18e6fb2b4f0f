import Tna.Js.Object

/-!
# Ledger events: what a caller may submit

`validateEventInput` takes arbitrary input apart and keeps the fields the Ledger
knows. The object given as `actor` and the four contexts are kept whole, so an
input carries everything a caller put in them.
-/

namespace Tna.Ledger

open Tna.Js

/-- The hash every record is bound with: a digest of the canonical form. -/
def hash (sha256 : Text → Text) (v : Value) : Text := sha256 v.canonical

def ledgerEventVersion : Text := "1.0"

def maxPayloadBytes : Nat := 8192

inductive LedgerErrorCode where
  | invalidEvent
  | unknownEventType
  | eventConflict
  | streamConflict
  | integrityFailure
  | notFound
  | forbidden
  | payloadTooLarge
  | orphanEvent
  | unsupportedVersion
deriving DecidableEq

structure LedgerError where
  code : LedgerErrorCode
  message : Text
deriving DecidableEq

inductive ActorType where
  | agent | human | system | service | verifier | producer | admin | approver
deriving DecidableEq

def ActorType.name : ActorType → Text
  | .agent => "AGENT"
  | .human => "HUMAN"
  | .system => "SYSTEM"
  | .service => "SERVICE"
  | .verifier => "VERIFIER"
  | .producer => "PRODUCER"
  | .admin => "ADMIN"
  | .approver => "APPROVER"

/-- `ACTOR_TYPES`. -/
def actorTypes : List ActorType := [.agent, .human, .system, .service, .verifier, .producer, .admin, .approver]

inductive SourceComponent where
  | tnaGate | executionBroker | isolationRunner | vadEngine | humanDecisionService | ledger | sentinel | auditor
  | platform | improvementGovernance
deriving DecidableEq

def SourceComponent.name : SourceComponent → Text
  | .tnaGate => "tna-gate"
  | .executionBroker => "execution-broker"
  | .isolationRunner => "isolation-runner"
  | .vadEngine => "vad-engine"
  | .humanDecisionService => "human-decision-service"
  | .ledger => "ledger"
  | .sentinel => "sentinel"
  | .auditor => "auditor"
  | .platform => "platform"
  | .improvementGovernance => "improvement-governance"

/-- `SOURCE_COMPONENTS`. -/
def sourceComponents : List SourceComponent :=
  [.tnaGate, .executionBroker, .isolationRunner, .vadEngine, .humanDecisionService, .ledger, .sentinel, .auditor,
   .platform, .improvementGovernance]

inductive EventType where
  | agentRegistered | authorizationRequested | authorizationAllowed | authorizationBlocked | authorizationHeld
  | approvalGranted | approvalRejected | approvalExpired | capabilityIssued | capabilityRedeemed
  | capabilityRejected | executionStarted | executionSucceeded | executionFailed | executionTerminated
  | executionIndeterminate | atomCreated | atomStarted | atomAttemptStarted | atomAttemptFailed
  | atomValidationPassed | atomValidationFailed | atomVerificationAccepted | atomVerificationRejected
  | atomHumanDecision | atomAccepted | atomRejected | atomEscalated | policyIssued | policyReplaced
  | agentRevoked | integrityCheckPassed | integrityCheckFailed | sentinelSessionStarted
  | sentinelViolationDetected | sentinelWarning | sentinelHold | sentinelTerminationRequested
  | sentinelTerminated | sentinelContainmentFailed | sentinelEmergencyStopActivated
  | sentinelEmergencyStopReleased | sentinelSessionCompleted | auditAssessmentCreated | auditAssessmentStarted
  | auditFindingCreated | auditAssessmentCompleted | auditAssessmentFailed | platformActionReceived
  | platformActionBlocked | platformActionHeld | platformActionAuthorized | platformExecutionStarted
  | platformExecutionCompleted | platformVerificationStarted | platformVerificationCompleted
  | platformActionTerminated | platformActionIndeterminate | platformActionCompleted | platformActionFailed
  | improvementProposed | improvementAuthorized | improvementBuildStarted | improvementBuilt
  | improvementEvaluationStarted | improvementEvaluated | capabilityDeltaDetected | authorityExpansionRequested
  | authorityExpansionApproved | authorityExpansionRejected | improvementRejected | improvementApprovalRequired
  | improvementCanaryStarted | improvementCanaryFailed | improvementPromoted | improvementRollbackStarted
  | improvementRolledBack | improvementIndeterminate | recursionBudgetExhausted
deriving DecidableEq

/-- The event type as it is written in an event. -/
def EventType.name : EventType → Text
  | .agentRegistered => "AGENT_REGISTERED"
  | .authorizationRequested => "AUTHORIZATION_REQUESTED"
  | .authorizationAllowed => "AUTHORIZATION_ALLOWED"
  | .authorizationBlocked => "AUTHORIZATION_BLOCKED"
  | .authorizationHeld => "AUTHORIZATION_HELD"
  | .approvalGranted => "APPROVAL_GRANTED"
  | .approvalRejected => "APPROVAL_REJECTED"
  | .approvalExpired => "APPROVAL_EXPIRED"
  | .capabilityIssued => "CAPABILITY_ISSUED"
  | .capabilityRedeemed => "CAPABILITY_REDEEMED"
  | .capabilityRejected => "CAPABILITY_REJECTED"
  | .executionStarted => "EXECUTION_STARTED"
  | .executionSucceeded => "EXECUTION_SUCCEEDED"
  | .executionFailed => "EXECUTION_FAILED"
  | .executionTerminated => "EXECUTION_TERMINATED"
  | .executionIndeterminate => "EXECUTION_INDETERMINATE"
  | .atomCreated => "ATOM_CREATED"
  | .atomStarted => "ATOM_STARTED"
  | .atomAttemptStarted => "ATOM_ATTEMPT_STARTED"
  | .atomAttemptFailed => "ATOM_ATTEMPT_FAILED"
  | .atomValidationPassed => "ATOM_VALIDATION_PASSED"
  | .atomValidationFailed => "ATOM_VALIDATION_FAILED"
  | .atomVerificationAccepted => "ATOM_VERIFICATION_ACCEPTED"
  | .atomVerificationRejected => "ATOM_VERIFICATION_REJECTED"
  | .atomHumanDecision => "ATOM_HUMAN_DECISION"
  | .atomAccepted => "ATOM_ACCEPTED"
  | .atomRejected => "ATOM_REJECTED"
  | .atomEscalated => "ATOM_ESCALATED"
  | .policyIssued => "POLICY_ISSUED"
  | .policyReplaced => "POLICY_REPLACED"
  | .agentRevoked => "AGENT_REVOKED"
  | .integrityCheckPassed => "INTEGRITY_CHECK_PASSED"
  | .integrityCheckFailed => "INTEGRITY_CHECK_FAILED"
  | .sentinelSessionStarted => "SENTINEL_SESSION_STARTED"
  | .sentinelViolationDetected => "SENTINEL_VIOLATION_DETECTED"
  | .sentinelWarning => "SENTINEL_WARNING"
  | .sentinelHold => "SENTINEL_HOLD"
  | .sentinelTerminationRequested => "SENTINEL_TERMINATION_REQUESTED"
  | .sentinelTerminated => "SENTINEL_TERMINATED"
  | .sentinelContainmentFailed => "SENTINEL_CONTAINMENT_FAILED"
  | .sentinelEmergencyStopActivated => "SENTINEL_EMERGENCY_STOP_ACTIVATED"
  | .sentinelEmergencyStopReleased => "SENTINEL_EMERGENCY_STOP_RELEASED"
  | .sentinelSessionCompleted => "SENTINEL_SESSION_COMPLETED"
  | .auditAssessmentCreated => "AUDIT_ASSESSMENT_CREATED"
  | .auditAssessmentStarted => "AUDIT_ASSESSMENT_STARTED"
  | .auditFindingCreated => "AUDIT_FINDING_CREATED"
  | .auditAssessmentCompleted => "AUDIT_ASSESSMENT_COMPLETED"
  | .auditAssessmentFailed => "AUDIT_ASSESSMENT_FAILED"
  | .platformActionReceived => "PLATFORM_ACTION_RECEIVED"
  | .platformActionBlocked => "PLATFORM_ACTION_BLOCKED"
  | .platformActionHeld => "PLATFORM_ACTION_HELD"
  | .platformActionAuthorized => "PLATFORM_ACTION_AUTHORIZED"
  | .platformExecutionStarted => "PLATFORM_EXECUTION_STARTED"
  | .platformExecutionCompleted => "PLATFORM_EXECUTION_COMPLETED"
  | .platformVerificationStarted => "PLATFORM_VERIFICATION_STARTED"
  | .platformVerificationCompleted => "PLATFORM_VERIFICATION_COMPLETED"
  | .platformActionTerminated => "PLATFORM_ACTION_TERMINATED"
  | .platformActionIndeterminate => "PLATFORM_ACTION_INDETERMINATE"
  | .platformActionCompleted => "PLATFORM_ACTION_COMPLETED"
  | .platformActionFailed => "PLATFORM_ACTION_FAILED"
  | .improvementProposed => "IMPROVEMENT_PROPOSED"
  | .improvementAuthorized => "IMPROVEMENT_AUTHORIZED"
  | .improvementBuildStarted => "IMPROVEMENT_BUILD_STARTED"
  | .improvementBuilt => "IMPROVEMENT_BUILT"
  | .improvementEvaluationStarted => "IMPROVEMENT_EVALUATION_STARTED"
  | .improvementEvaluated => "IMPROVEMENT_EVALUATED"
  | .capabilityDeltaDetected => "CAPABILITY_DELTA_DETECTED"
  | .authorityExpansionRequested => "AUTHORITY_EXPANSION_REQUESTED"
  | .authorityExpansionApproved => "AUTHORITY_EXPANSION_APPROVED"
  | .authorityExpansionRejected => "AUTHORITY_EXPANSION_REJECTED"
  | .improvementRejected => "IMPROVEMENT_REJECTED"
  | .improvementApprovalRequired => "IMPROVEMENT_APPROVAL_REQUIRED"
  | .improvementCanaryStarted => "IMPROVEMENT_CANARY_STARTED"
  | .improvementCanaryFailed => "IMPROVEMENT_CANARY_FAILED"
  | .improvementPromoted => "IMPROVEMENT_PROMOTED"
  | .improvementRollbackStarted => "IMPROVEMENT_ROLLBACK_STARTED"
  | .improvementRolledBack => "IMPROVEMENT_ROLLED_BACK"
  | .improvementIndeterminate => "IMPROVEMENT_INDETERMINATE"
  | .recursionBudgetExhausted => "RECURSION_BUDGET_EXHAUSTED"

/-- `EVENT_TYPES`. -/
def eventTypes : List EventType :=
  [.agentRegistered, .authorizationRequested, .authorizationAllowed, .authorizationBlocked, .authorizationHeld,
   .approvalGranted, .approvalRejected, .approvalExpired, .capabilityIssued, .capabilityRedeemed,
   .capabilityRejected, .executionStarted, .executionSucceeded, .executionFailed, .executionTerminated,
   .executionIndeterminate, .atomCreated, .atomStarted, .atomAttemptStarted, .atomAttemptFailed,
   .atomValidationPassed, .atomValidationFailed, .atomVerificationAccepted, .atomVerificationRejected,
   .atomHumanDecision, .atomAccepted, .atomRejected, .atomEscalated, .policyIssued, .policyReplaced,
   .agentRevoked, .integrityCheckPassed, .integrityCheckFailed, .sentinelSessionStarted,
   .sentinelViolationDetected, .sentinelWarning, .sentinelHold, .sentinelTerminationRequested,
   .sentinelTerminated, .sentinelContainmentFailed, .sentinelEmergencyStopActivated,
   .sentinelEmergencyStopReleased, .sentinelSessionCompleted, .auditAssessmentCreated, .auditAssessmentStarted,
   .auditFindingCreated, .auditAssessmentCompleted, .auditAssessmentFailed, .platformActionReceived,
   .platformActionBlocked, .platformActionHeld, .platformActionAuthorized, .platformExecutionStarted,
   .platformExecutionCompleted, .platformVerificationStarted, .platformVerificationCompleted,
   .platformActionTerminated, .platformActionIndeterminate, .platformActionCompleted, .platformActionFailed,
   .improvementProposed, .improvementAuthorized, .improvementBuildStarted, .improvementBuilt,
   .improvementEvaluationStarted, .improvementEvaluated, .capabilityDeltaDetected,
   .authorityExpansionRequested, .authorityExpansionApproved, .authorityExpansionRejected,
   .improvementRejected, .improvementApprovalRequired, .improvementCanaryStarted, .improvementCanaryFailed,
   .improvementPromoted, .improvementRollbackStarted, .improvementRolledBack, .improvementIndeterminate,
   .recursionBudgetExhausted]

inductive Classification where
  | publicClass | internal | confidential | restricted | secretReference
deriving DecidableEq

def Classification.name : Classification → Text
  | .publicClass => "PUBLIC"
  | .internal => "INTERNAL"
  | .confidential => "CONFIDENTIAL"
  | .restricted => "RESTRICTED"
  | .secretReference => "SECRET_REFERENCE"

/-- `CLASSIFICATIONS`. -/
def classifications : List Classification := [.publicClass, .internal, .confidential, .restricted, .secretReference]

/-- An identifier field that may be left out or be `null`. -/
inductive OptionalId where
  | absent
  | null
  | id (text : Text)
deriving DecidableEq

/-- `field ?? null`. -/
def OptionalId.orNull : OptionalId → Option Text
  | .id t => some t
  | _ => none

/-- The object a caller gave as `actor`, kept as it is: its type is in the registry
and its id is safe, and nothing is known of its other fields. -/
structure Actor where
  object : JsObject
  type : ActorType
  id : Text
  type_eq : (object.get "type").val = .str type.name
  id_eq : (object.get "id").val = .str id

/-- What a caller submits, after `validateEventInput`. -/
structure LedgerEventInput where
  eventId : Text
  eventType : EventType
  tenantId : Text
  streamId : Text
  actor : Actor
  correlationId : Text
  sourceComponent : SourceComponent
  causationId : OptionalId
  parentEventId : OptionalId
  occurredAt : Option Text
  authorityContext : Option JsObject
  specContext : Option JsObject
  executionContext : Option JsObject
  artifactContext : Option JsObject
  payload : Option JsObject
  classification : Option Classification
  retention : Option JsObject

end Tna.Ledger
