import Tna.Ledger.Integrity
import Tna.Js.Decimal

/-!
# `GateLedgerAdapter`

The translation of Gate's evidence into Ledger events. The agent an event is about is in
its authority context; the actor is the component that acted, or an administrator, and
only for a redemption the agent itself.
-/

namespace Tna.Ledger

open Tna.Js Value

/-- What the adapter is told, one constructor for each of its methods. -/
inductive GateCall where
  | agentRegistered (agentId : Text)
  | authorizationAllowed (agentId decisionId policyHash action : Text) (tool resource : Option Text)
  | capabilityIssued (agentId decisionId capabilityId expiresAt : Text) (tool resource : Option Text)
  | capabilityRedeemed (agentId decisionId capabilityId executionId : Text)
  | executionStarted (agentId decisionId executionId tool resource : Text)
  | executionSucceeded (agentId decisionId executionId resultHash : Text)
  | executionFailed (agentId decisionId executionId terminationReason : Text)
  /-- With the clock reading that goes into the event id. -/
  | agentRevoked (agentId reason : Text) (millis : Nat)

/-- `...(value !== undefined ? { [k]: value } : {})`. -/
def fieldIfDefined (k : Text) (t : Option Text) : List (Text × Value) := t.toList.map fun t => (k, .str t)

def decisionFields (agentId decisionId policyHash action : Text) (tool resource : Option Text) : List (Text × Value) :=
  ([("agent_id", .str agentId), ("decision_id", .str decisionId), ("policy_hash", .str policyHash),
    ("action", .str action)] : List (Text × Value)) ++ fieldIfDefined "tool" tool ++ fieldIfDefined "resource" resource

theorem distinct_decisionFields (agentId decisionId policyHash action : Text) (tool resource : Option Text) :
    (Value.obj (decisionFields agentId decisionId policyHash action tool resource)).distinct = true := by
  cases tool <;> cases resource <;> rfl

def capabilityFields (agentId decisionId capabilityId expiresAt : Text) (tool resource : Option Text) :
    List (Text × Value) :=
  ([("agent_id", .str agentId), ("decision_id", .str decisionId), ("capability_id", .str capabilityId),
    ("authority_expiry", .str expiresAt)] : List (Text × Value)) ++ fieldIfDefined "tool" tool ++
    fieldIfDefined "resource" resource

theorem distinct_capabilityFields (agentId decisionId capabilityId expiresAt : Text) (tool resource : Option Text) :
    (Value.obj (capabilityFields agentId decisionId capabilityId expiresAt tool resource)).distinct = true := by
  cases tool <;> cases resource <;> rfl

/-- An actor of the adapter: a type and an id, nothing more. -/
def adapterActor (type : ActorType) (id : Text) : Actor where
  object := ⟨[("type", .str type.name), ("id", .str id)], rfl⟩
  type := type
  id := id
  type_eq := rfl
  id_eq := rfl

/-- The fields the methods differ in; the others are the same in all of them. -/
def gateEvent (tenantId agentId eventId correlationId : Text) (eventType : EventType) (actor : Actor)
    (sourceComponent : SourceComponent) (causationId : OptionalId)
    (authorityContext executionContext payload : Option JsObject) : LedgerEventInput where
  eventId
  eventType
  tenantId
  -- `streamOf(agentId)`: one stream for each agent.
  streamId := Text.ofAscii "agent:" ++ agentId
  actor
  correlationId
  sourceComponent
  causationId
  parentEventId := .absent
  occurredAt := none
  authorityContext
  specContext := none
  executionContext
  artifactContext := none
  payload
  classification := none
  retention := none

/-- The event a call is translated to. -/
def GateCall.input (tenantId : Text) : GateCall → LedgerEventInput
  | .agentRegistered agentId =>
    gateEvent tenantId agentId (Text.ofAscii "agent." ++ agentId ++ ".AGENT_REGISTERED")
      (Text.ofAscii "agent:" ++ agentId) .agentRegistered (adapterActor .system "tna-gate") .tnaGate .absent
      (some ⟨[("agent_id", .str agentId)], rfl⟩) none none
  | .authorizationAllowed agentId decisionId policyHash action tool resource =>
    gateEvent tenantId agentId (decisionId ++ ".AUTHORIZATION_ALLOWED") decisionId .authorizationAllowed
      (adapterActor .system "tna-gate") .tnaGate .absent
      (some ⟨decisionFields agentId decisionId policyHash action tool resource, distinct_decisionFields ..⟩) none
      none
  | .capabilityIssued agentId decisionId capabilityId expiresAt tool resource =>
    gateEvent tenantId agentId (decisionId ++ ".CAPABILITY_ISSUED." ++ capabilityId) decisionId .capabilityIssued
      (adapterActor .system "execution-broker") .executionBroker (.id (decisionId ++ ".AUTHORIZATION_ALLOWED"))
      (some ⟨capabilityFields agentId decisionId capabilityId expiresAt tool resource, distinct_capabilityFields ..⟩)
      none none
  | .capabilityRedeemed agentId decisionId capabilityId executionId =>
    gateEvent tenantId agentId (decisionId ++ ".CAPABILITY_REDEEMED." ++ capabilityId) decisionId .capabilityRedeemed
      (adapterActor .agent agentId) .executionBroker (.id (decisionId ++ ".CAPABILITY_ISSUED." ++ capabilityId))
      (some ⟨[("agent_id", .str agentId), ("decision_id", .str decisionId), ("capability_id", .str capabilityId)],
        rfl⟩)
      (some ⟨[("execution_id", .str executionId)], rfl⟩) none
  | .executionStarted agentId decisionId executionId tool resource =>
    gateEvent tenantId agentId (decisionId ++ ".EXECUTION_STARTED." ++ executionId) decisionId .executionStarted
      (adapterActor .system "execution-broker") .executionBroker
      (.id (decisionId ++ ".CAPABILITY_REDEEMED." ++ executionId)) none
      (some ⟨[("execution_id", .str executionId), ("tool", .str tool), ("resource", .str resource)], rfl⟩) none
  | .executionSucceeded agentId decisionId executionId resultHash =>
    gateEvent tenantId agentId (decisionId ++ ".EXECUTION_SUCCEEDED." ++ executionId) decisionId .executionSucceeded
      (adapterActor .system "execution-broker") .executionBroker
      (.id (decisionId ++ ".EXECUTION_STARTED." ++ executionId)) none
      (some ⟨[("execution_id", .str executionId), ("result_hash", .str resultHash)], rfl⟩) none
  | .executionFailed agentId decisionId executionId terminationReason =>
    gateEvent tenantId agentId (decisionId ++ ".EXECUTION_FAILED." ++ executionId) decisionId .executionFailed
      (adapterActor .system "execution-broker") .executionBroker
      (.id (decisionId ++ ".EXECUTION_STARTED." ++ executionId)) none
      (some ⟨[("execution_id", .str executionId), ("termination_reason", .str terminationReason)], rfl⟩) none
  | .agentRevoked agentId reason millis =>
    gateEvent tenantId agentId (Text.ofAscii "agent." ++ agentId ++ ".AGENT_REVOKED." ++ decimal millis)
      (Text.ofAscii "agent:" ++ agentId) .agentRevoked (adapterActor .admin "ledger-admin") .tnaGate .absent
      (some ⟨[("agent_id", .str agentId)], rfl⟩) none (some ⟨[("reason", .str reason)], rfl⟩)

/-- The event as it is read back from the store. -/
def LedgerEventInput.readBackAs (i : LedgerEventInput) (sequence : Nat)
    (now payloadHash previousEventHash eventHash : Text) : LedgerEvent where
  version := ledgerEventVersion
  eventId := i.eventId
  eventType := i.eventType.name
  tenantId := i.tenantId
  streamId := i.streamId
  actor := .obj [("type", .str i.actor.type.name), ("id", .str i.actor.id)]
  correlationId := i.correlationId
  sourceComponent := i.sourceComponent.name
  causationId := optionalId i.causationId.orNull
  parentEventId := optionalId i.parentEventId.orNull
  occurredAt := i.occurredAt
  authorityContext := readBack i.authorityContext
  specContext := readBack i.specContext
  executionContext := readBack i.executionContext
  artifactContext := readBack i.artifactContext
  payload := readBack i.payload
  classification := i.classification.map Classification.name
  retention := readBack i.retention
  sequence
  receivedAt := now
  persistedAt := now
  payloadHash
  previousEventHash
  eventHash

theorem toLedgerEvent_eq_readBackAs (i : LedgerEventInput) (sequence : Nat)
    (now payloadHash previousEventHash eventHash : Text) :
    toLedgerEvent (i.toRow sequence now payloadHash previousEventHash eventHash) =
      some (i.readBackAs sequence now payloadHash previousEventHash eventHash) := by
  simp only [toLedgerEvent, LedgerEventInput.toRow, parseColumn_stringifyColumn, Option.bind_eq_bind, Option.bind_some]
  rfl

end Tna.Ledger
