import Tna.Gate.Policy
import Tna.Js.Canonical
import Tna.Js.Object
import Tna.Lib.Table

/-!
# The Gate's store as the broker sees it

Decisions, policies, agents, capabilities, executions and the evidence log live
in one store. A transaction is one change of it, or none when it fails. `ToolInputRegistry`
knows one tool, the demo deployment: its input is checked against a strict schema and bound
by the hash of its canonical form.
-/

namespace Tna.Broker

open Tna.Js Tna.Gate Tna.Lib

/-! ## Registered tool inputs -/

def maxInputBytes : Nat := 256

def demoTool : Text := "demo.deploy.execute"

/-- `[a-z0-9]+`. -/
def isSlug (t : Text) : Bool := t != [] && t.all fun c => isLower c || isDigit c

/-- The pieces of a text between full stops. -/
def splitDot : Text → List Text
  | [] => [[]]
  | c :: rest =>
    if c = unit '.' then [] :: splitDot rest
    else
      match splitDot rest with
      | [] => [[c]]
      | piece :: more => (c :: piece) :: more

def dropPrefix? (first t : Text) : Option Text := if first.isPrefixOf t then some (t.drop first.length) else none

/-- `^(?:release-[a-z0-9]+(?:\.[a-z0-9]+)*|prod\.deploy\.[a-z0-9]+)$`, at most 64 units. -/
def isRelease (t : Text) : Bool :=
  decide (t.length ≤ 64) &&
    ((dropPrefix? "release-" t).any (fun rest => (splitDot rest).all isSlug) ||
      (dropPrefix? "prod.deploy." t).any isSlug)

example : isRelease "release-2.1" = true ∧ isRelease "prod.deploy.web" = true ∧ isRelease "release-" = false := by
  decide

structure ParsedToolInput where
  input : JsObject
  release : Text
  inputHash : Text

/-- `demoDeployInput`: exactly a release and the demo environment. -/
def parseDemoInput (v : JsValue) : Option (JsObject × Text) :=
  match v.asObject? with
  | none => none
  | some o =>
    match (o.get "release").asText? with
    | none => none
    | some release =>
      if isRelease release = true ∧ (o.get "environment").asText? = some (Text.ofAscii "demo-production") ∧
          o.fields.all (fun f => f.1 = "release" || f.1 = "environment") = true then some (o, release)
      else none

/-- `parseAndHash` of the demo tool; `none` is a `ToolInputError`. The two keys are
the same in locale order as in code-unit order. -/
def parseAndHash (sha256 : Text → Text) (v : JsValue) : Option ParsedToolInput :=
  if v.val.isUndefined ∨ v.val.stringify.byteLength > maxInputBytes then none
  else
    match parseDemoInput v with
    | some (o, release) => some ⟨o, release, sha256 o.toValue.canonical⟩
    | none => none

/-! ## Records -/

inductive Principal where
  | admin
  | approver (role : Text)
  | agent (agentId : Text)
deriving DecidableEq

/-- A request as the Gate stores it: with the input of a tool that has a registered schema. -/
structure StoredRequest extends AuthorizationRequest where
  input : Option JsValue
  inputHash : Option Text

structure Decision where
  decisionId : Text
  agentId : Text
  decision : VerdictDecision
  policyHash : Option Text
  request : StoredRequest

structure DecisionPolicy where
  policyHash : Text
  policyRevision : Text
deriving DecidableEq

/-- What a capability is issued for. -/
structure CapabilityInput where
  capabilityId : Text
  executionId : Text
  agentId : Text
  decisionId : Text
  action : Text
  tool : Text
  resource : Text
  operation : Text
  inputHash : Text
  destination : Option Text
  policyHash : Text
  policyIssuanceId : Text
deriving DecidableEq

/-- A capability. The version and the single-use mark are constants and left out; times
are in milliseconds. -/
structure CapabilityPayload extends CapabilityInput where
  issuedAt : Nat
  expiresAt : Nat
  nonce : Text
deriving DecidableEq

structure CapabilityRecord where
  capability : CapabilityPayload
  token : Text
  consumed : Bool
deriving DecidableEq

inductive ExecutionState where
  | requested | authorized | capabilityIssued | started | succeeded | failed | terminated | blocked | indeterminate
deriving DecidableEq

/-- What an isolated run leaves in the evidence. -/
structure IsolationEvidence where
  runnerType : Text
  runnerVersion : Text
  workspaceId : Text
  exitCode : Option Int
  terminationReason : Option Text
  stdoutBytes : Nat
  stdoutSha256 : Text
  stderrBytes : Nat
  stderrSha256 : Text
  inputHash : Text
deriving DecidableEq

/-- An `execution.transition` event. -/
structure Transition where
  executionId : Text
  timestamp : Nat
  agentId : Text
  decisionId : Text
  capabilityId : Text
  state : ExecutionState
  reason : Text
  isolation : Option IsolationEvidence
deriving DecidableEq

structure ExecutionSummary extends Transition where
  resultHash : Option Text
  inputHash : Text
deriving DecidableEq

/-! ## The store -/

/-- The tables only the Gate writes, and the time its clock shows. -/
structure GateState where
  now : Nat
  /-- Whether a registered agent is revoked. -/
  agents : Text → Option Bool
  /-- The policy of an agent: what it hashes to, its revision, and when its envelope expires. -/
  policies : Text → Option (DecisionPolicy × Nat)
  decisions : Text → Option Decision
  decisionPolicies : Text → Option DecisionPolicy
  /-- A decision is stored under its own id. -/
  decisions_id : ∀ decisionId d, decisions decisionId = some d → d.decisionId = decisionId

/-- The whole store: the Gate's part and the broker's. -/
structure Store where
  gate : GateState
  capabilities : Table Text CapabilityRecord
  executions : Table Text ExecutionSummary
  evidence : List Transition

/-- `isAgentRevoked` of the Gate. -/
def GateState.isAgentRevoked (g : GateState) (agentId : Text) : Bool := (g.agents agentId).getD true

/-- `isPolicyCurrent` of the Gate. -/
def GateState.isPolicyCurrent (g : GateState) (d : Decision) : Bool :=
  match g.policies d.agentId, g.decisionPolicies d.decisionId with
  | some (policy, expiresAt), some issued =>
    decide (expiresAt > g.now ∧ d.policyHash = some policy.policyHash ∧ issued.policyHash = policy.policyHash ∧
      issued.policyRevision = policy.policyRevision)
  | _, _ => false

/-- `revoke` of the Gate, for an agent it knows. -/
def GateState.revoke (g : GateState) (agentId : Text) : GateState :=
  { g with agents := fun a => if a = agentId then (g.agents a).map fun _ => true else g.agents a }

/-- `setEnvelope` of the Gate, for an agent that is not revoked. -/
def GateState.setEnvelope (g : GateState) (agentId : Text) (policy : DecisionPolicy) (expiresAt : Nat) : GateState :=
  { g with policies := fun a => if a = agentId then some (policy, expiresAt) else g.policies a }

/-- What the Gate does to the store beside deciding requests, and its clock. -/
inductive GateStep : Store → Store → Prop where
  | revoke (s : Store) (agentId : Text) : GateStep s { s with gate := s.gate.revoke agentId }
  | setEnvelope (s : Store) (agentId : Text) (policy : DecisionPolicy) (expiresAt : Nat)
    (hactive : s.gate.agents agentId = some false) (hfuture : s.gate.now < expiresAt) :
    GateStep s { s with gate := s.gate.setEnvelope agentId policy expiresAt }
  | tick (s : Store) (now : Nat) (h : s.gate.now ≤ now) : GateStep s { s with gate := { s.gate with now := now } }

/-- `store.append` of a transition. -/
def Store.append (s : Store) (t : Transition) : Store := { s with evidence := s.evidence ++ [t] }

/-! ## Tools and options -/

structure IsolatedToolAdapter where
  runnerType : Text
  runnerVersion : Text
deriving DecidableEq

/-- A registered tool. Its handler and its request builder are foreign code: a call
of one is answered by the environment. -/
structure ToolDefinition where
  name : Text
  action : Text
  resourceType : Text
  allowedOperations : List Text
  networkRequired : Bool
  credentialsRequired : List Text
  handler : Bool
  isolated : Option IsolatedToolAdapter
deriving DecidableEq

/-- The checks a broker is composed with. A check that is not configured is `none`. -/
structure BrokerOptions where
  secretBroker : Bool
  isolationRunner : Bool
  isAgentRevoked : Option (GateState → Text → Bool)
  isPolicyCurrent : Option (GateState → Decision → Bool)
  isDecisionCurrent : Option (GateState → Decision → Bool)
  isToolCompatible : Option (Decision → ToolDefinition → Bool)
  isAuthorityValid : Option (GateState → Decision → Bool)
  earliestAuthorityExpiry : Option (GateState → Decision → Option Nat)

/-- What a codec makes of a payload, and the payload of a token whose MAC and
canonical form it accepts: that of a token it signed is the payload signed. -/
structure CapabilityCodec where
  sign : CapabilityPayload → Text
  openToken : Text → Option CapabilityPayload
  ttlSeconds : Nat
  open_sign : ∀ p q, openToken (sign p) = some q → q = p

/-- A broker instance. -/
structure ExecutionBroker where
  registry : Text → Option ToolDefinition
  options : BrokerOptions
  codec : CapabilityCodec
  sha256 : Text → Text

/-- An error as the `catch` block of `redeem` tells errors apart. -/
inductive Thrown where
  | broker (status : Nat) (message : Text)
  /-- Any other error, with the result hash it may carry. -/
  | other (resultHash : Option Text)
deriving DecidableEq

end Tna.Broker
