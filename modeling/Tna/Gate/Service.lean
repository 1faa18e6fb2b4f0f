import Tna.Broker.State
import Tna.Js.Decimal

/-!
# The Gate

Agents, policies, approvals, usage and decisions live in one store. An operation
of the Gate checks who asks and what, and then runs one transaction, which
commits as a whole or leaves the store as it was. The clock is read once a call.
-/

namespace Tna.Gate

open Tna.Js Tna.Lib Tna.Broker

/-! ## Records -/

structure Agent where
  id : Text
  name : Text
  tokenHash : Text
  revoked : Bool

/-- An envelope as `envelopeSchema` lets it through. -/
structure CheckedEnvelope extends Envelope where
  /-- All of it, as it is hashed: with the sections no decision reads. -/
  document : JsObject
  valid : validEnvelope toEnvelope = true

structure Policy where
  envelope : CheckedEnvelope
  hash : Text
  revision : Text

structure Approval where
  id : Text
  agentId : Text
  policyHash : Text
  policyRevision : Text
  requestHash : Text
  role : Text
  expiresAt : Nat
  used : Bool

inductive Severity where
  | info | high
deriving DecidableEq

/-- A decision as the Gate keeps it. The mark that it needs evidence is a constant and left out. -/
structure StoredDecision extends Broker.Decision where
  reason : Text
  severity : Severity
  policyVersion : Option Text
  timestamp : Nat
  approvalReference : Option Text

/-- What the Gate keeps, and the time its clock shows. -/
structure GateStore where
  now : Nat
  agents : Keyed Agent.id
  /-- The policy of an agent, under the agent its envelope is for. -/
  policies : Keyed fun p : Policy => p.envelope.agent.id
  approvals : Keyed Approval.id
  usage : Table Text Usage
  decisions : Keyed fun d : StoredDecision => d.decisionId
  decisionPolicies : Table Text DecisionPolicy

def GateStore.init (now : Nat) : GateStore := ⟨now, .empty, .empty, .empty, ∅, .empty, ∅⟩

/-- What an operation can throw. -/
inductive GateError where
  | http (status : Nat) (message : Text)
  /-- A `ZodError`. -/
  | schema
  /-- The transaction did not commit. -/
  | store

/-! ## Requests -/

/-- The body of a request: what the schema makes of the fields it knows, and the two
fields that only the request of a registered tool has, `undefined` when left out. -/
structure RequestBody where
  fields : Option AuthorizationRequest
  input : JsValue
  inputHash : JsValue

/-- The message of the `ToolInputError` that `parseAndHash` throws. -/
def toolInputMessage (input : JsValue) : Text :=
  if input.val.isUndefined ∨ input.val.stringify.byteLength > maxInputBytes then "Tool input is oversized"
  else "Invalid tool input"

def parseAuthorizationRequest (sha256 : Text → Text) (body : RequestBody) : Except GateError StoredRequest :=
  match body.fields with
  | none => .error .schema
  | some request =>
    if request.tool ≠ demoTool then
      if body.input.val.isUndefined ∧ body.inputHash.val.isUndefined then
        .ok { request with input := none, inputHash := none }
      else .error .schema
    else
      match parseAndHash sha256 body.input with
      | none => .error (.http 400 (toolInputMessage body.input))
      | some parsed =>
        if body.inputHash.val.isUndefined ∨ body.inputHash.asText? = some parsed.inputHash then
          .ok { request with
            input := some ⟨parsed.input.toValue, parsed.input.distinct⟩, inputHash := some parsed.inputHash }
        else .error (.http 400 "Input hash mismatch")

/-- The value of a field that may be left out. -/
def optional {α : Type} (f : α → Value) : Option α → Value
  | some a => f a
  | none => .undefined

/-- What an approval is bound to: the request without its `approvalId`. -/
def boundFields (r : StoredRequest) : List (Text × Value) :=
  [("agentId", .str r.agentId), ("action", .str r.action), ("tool", .str r.tool), ("resource", .str r.resource),
    ("destination", optional .str r.destination), ("estimatedCostUsd", .ofMicros r.estimatedCost),
    ("input", optional JsValue.val r.input), ("input_hash", optional .str r.inputHash)]

def boundText (r : StoredRequest) : Text := (Value.obj (boundFields r)).canonical

def requestHash (sha256 : Text → Text) (r : StoredRequest) : Text := sha256 (boundText r)

/-! ## Agents and policies -/

structure Registration where
  id : Text
  name : Text
  id_id : isId id = true
  name_label : isLabel name = true

/-- `register`, with the token it draws. -/
def GateStore.register (sha256 : Text → Text) (g : GateStore) (principal : Principal) (input : Option Registration)
    (token : Text) : Except GateError GateStore :=
  if principal ≠ .admin then .error (.http 403 "Administrator credential required")
  else
    match input with
    | none => .error .schema
    | some data =>
      if (g.agents.get data.id).isSome then .error (.http 409 "Agent already registered")
      else .ok { g with agents := g.agents.put ⟨data.id, data.name, sha256 token, false⟩ }

/-- An envelope whose fields have their shape. -/
structure EnvelopeBody where
  envelope : Envelope
  document : JsObject

/-- The policy an envelope is put into force as. -/
def policyOf (sha256 : Text → Text) (envelope : CheckedEnvelope) (revision : Text) : Policy :=
  ⟨envelope, sha256 envelope.document.toValue.canonical, revision⟩

/-- `setEnvelope`, with the revision it draws. Usage survives the replacement of a policy. -/
def GateStore.setEnvelope (sha256 : Text → Text) (g : GateStore) (principal : Principal) (input : Option EnvelopeBody)
    (revision : Text) : Except GateError (GateStore × Policy) :=
  if principal ≠ .admin then .error (.http 403 "Administrator credential required")
  else
    match input with
    | none => .error .schema
    | some body =>
      if hvalid : validEnvelope body.envelope = true then
        if body.envelope.agent.expiresAt ≤ g.now then .error (.http 400 "Cannot issue an expired envelope")
        else
          match g.agents.get body.envelope.agent.id with
          | none => .error (.http 409 "Agent missing or revoked")
          | some agent =>
            if agent.revoked then .error (.http 409 "Agent missing or revoked")
            else
              let policy := policyOf sha256 ⟨body.envelope, body.document, hvalid⟩ revision
              .ok ({ g with policies := g.policies.put policy }, policy)
      else .error .schema

structure Revocation where
  agentId : Text
  reason : Text

def GateStore.revoke (g : GateStore) (principal : Principal) (input : Option Revocation) : Except GateError GateStore :=
  if principal ≠ .admin then .error (.http 403 "Administrator credential required")
  else
    match input with
    | none => .error .schema
    | some data =>
      match g.agents.get data.agentId with
      | none => .error (.http 404 "Agent not found")
      | some agent => .ok { g with agents := g.agents.put { agent with revoked := true } }

/-! ## Approvals -/

def GateStore.usageOf (g : GateStore) (agentId : Text) : Usage := (g.usage.lookup agentId).getD emptyUsage

/-- `context`. -/
def GateStore.context (g : GateStore) (agent : Agent) (approvalValid : Bool) : PolicyContext where
  now := g.now
  revoked := agent.revoked
  usage := g.usageOf agent.id
  approvalValid := approvalValid
  knownAgents := (g.agents.rows.filter fun a => !a.revoked).map Agent.id

/-- The rule of a policy for an action. -/
def Policy.rule (policy : Policy) (action : Text) : Option ApprovalRule :=
  policy.envelope.approvalsRequiredFor.find? fun r => r.action = action

structure ApprovalBody where
  request : RequestBody
  /-- `none` when the schema lets it not through, or when there are fields beside the two. -/
  expiresAt : Option Nat

/-- The transaction of `approve`. -/
def GateStore.grant (sha256 : Text → Text) (g : GateStore) (role : Text) (request : StoredRequest) (expiresAt : Nat)
    (approvalId : Text) : Except GateError (GateStore × Approval) :=
  match g.policies.get request.agentId, g.agents.get request.agentId with
  | some policy, some agent =>
    match policy.rule request.action with
    | none => .error (.http 403 "Approver role or agent policy is invalid")
    | some rule =>
      if agent.revoked ∨ rule.approverRole ≠ role then .error (.http 403 "Approver role or agent policy is invalid")
      else if expiresAt ≤ g.now ∨ expiresAt > policy.envelope.agent.expiresAt then
        .error (.http 400 "Approval expiry must be in the future and within envelope expiry")
      else
        let verdict := evaluate request.toAuthorizationRequest (some policy.envelope.toEnvelope) (g.context agent true)
        if verdict.decision ≠ .allow then .error (.http 409 verdict.reason)
        else
          let approval : Approval :=
            ⟨approvalId, agent.id, policy.hash, policy.revision, requestHash sha256 request, role, expiresAt, false⟩
          .ok ({ g with approvals := g.approvals.put approval }, approval)
  | _, _ => .error (.http 403 "Approver role or agent policy is invalid")

/-- `approve`, with the id it draws. A request for approval names no approval. -/
def GateStore.approve (sha256 : Text → Text) (g : GateStore) (principal : Principal) (input : Option ApprovalBody)
    (approvalId : Text) : Except GateError (GateStore × Approval) :=
  match principal with
  | .approver role =>
    match input with
    | none => .error (.http 400 "Schema validation failed")
    | some body =>
      match parseAuthorizationRequest sha256 body.request with
      | .error e => .error e
      | .ok request =>
        match body.expiresAt with
        | none => .error .schema
        | some expiresAt =>
          if request.approvalId.isSome then .error .schema
          else g.grant sha256 role request expiresAt approvalId
  | _ => .error (.http 403 "Independent approver credential required")

/-! ## Decisions -/

/-- `attempts[action] = n`. -/
def setAttempts (action : Text) (n : Nat) : List (Text × Nat) → List (Text × Nat)
  | [] => [(action, n)]
  | (a, m) :: rest => if a = action then (a, n) :: rest else (a, m) :: setAttempts action n rest

/-- The usage with one more call. -/
def Usage.count (u : Usage) (now : Nat) (r : AuthorizationRequest) : Usage where
  startedAt := some (u.startedAt.getD now)
  calls := u.calls + 1
  external := u.external + if r.destination.isSome then 1 else 0
  costMicros := u.costMicros + r.estimatedCost
  attempts := setAttempts r.action (attemptsFor u r.action + 1) u.attempts

/-- `valid`, for the approval a request names. -/
def Approval.usable (sha256 : Text → Text) (approval : Approval) (now : Nat) (agent : Agent) (policy : Option Policy)
    (request : StoredRequest) : Bool :=
  match policy with
  | none => false
  | some policy =>
    decide (approval.used = false ∧ approval.agentId = agent.id ∧ approval.policyHash = policy.hash ∧
      approval.policyRevision = policy.revision ∧ approval.requestHash = Gate.requestHash sha256 request ∧
      (policy.rule request.action).map ApprovalRule.approverRole = some approval.role ∧ approval.expiresAt > now)

/-- The approval a request names, when it is valid. -/
def GateStore.validApproval (sha256 : Text → Text) (g : GateStore) (agent : Agent) (request : StoredRequest) :
    Option Approval :=
  match request.approvalId with
  | none => none
  | some approvalId => (g.approvals.get approvalId).filter fun a => a.usable sha256 g.now agent (g.policies.get agent.id) request

/-- The decision on a request of a registered agent. -/
def GateStore.decide (sha256 : Text → Text) (g : GateStore) (agent : Agent) (request : StoredRequest)
    (decisionId : Text) : StoredDecision :=
  let policy := g.policies.get agent.id
  let approval := g.validApproval sha256 agent request
  let verdict := evaluate request.toAuthorizationRequest (policy.map fun p => p.envelope.toEnvelope)
    (g.context agent approval.isSome)
  { decisionId := decisionId
    agentId := agent.id
    decision := verdict.decision
    policyHash := policy.map Policy.hash
    request := request
    reason := verdict.reason
    severity := if verdict.decision = .allow then .info else .high
    policyVersion := policy.map fun _ => "1.0"
    timestamp := g.now
    approvalReference := approval.map Approval.id }

/-- The records of a decision. -/
def GateStore.keep (g : GateStore) (d : StoredDecision) (approval : Option Approval) : GateStore :=
  { g with
    usage :=
      if d.decision = .allow then
        g.usage.insert d.agentId ((g.usageOf d.agentId).count g.now d.request.toAuthorizationRequest)
      else g.usage
    approvals :=
      match approval with
      | some approval => if d.decision = .allow then g.approvals.put { approval with used := true } else g.approvals
      | none => g.approvals
    decisions := g.decisions.put d
    decisionPolicies :=
      match g.policies.get d.agentId with
      | some policy => g.decisionPolicies.insert d.decisionId ⟨policy.hash, policy.revision⟩
      | none => g.decisionPolicies }

/-- `authorize`, with the id it draws. -/
def GateStore.authorize (sha256 : Text → Text) (g : GateStore) (principal : Principal) (body : RequestBody)
    (decisionId : Text) : Except GateError (GateStore × StoredDecision) :=
  match parseAuthorizationRequest sha256 body with
  | .error e => .error e
  | .ok request =>
    if principal ≠ .agent request.agentId then .error (.http 403 "Agent credential must match agentId")
    else
      match g.agents.get request.agentId with
      | none => .error (.http 401 "Unknown agent")
      | some agent =>
        let d := g.decide sha256 agent request decisionId
        .ok (g.keep d (g.validApproval sha256 agent request), d)

/-! ## The store as a broker reads it -/

def GateStore.view (g : GateStore) : GateState where
  now := g.now
  agents := fun agentId => (g.agents.get agentId).map Agent.revoked
  policies := fun agentId => (g.policies.get agentId).map fun p => (⟨p.hash, p.revision⟩, p.envelope.agent.expiresAt)
  decisions := fun decisionId => (g.decisions.get decisionId).map StoredDecision.toDecision
  decisionPolicies := g.decisionPolicies.lookup
  decisions_id := by
    intro decisionId d h
    obtain ⟨stored, hstored, rfl⟩ := Option.map_eq_some_iff.1 h
    have hkey := Keyed.key_of_get hstored
    exact hkey

end Tna.Gate
