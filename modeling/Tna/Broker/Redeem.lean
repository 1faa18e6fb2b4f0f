import Tna.Broker.State
import Tna.Js.Decimal

/-!
# Redeeming a capability

`redeem` is a procedure with awaits, and it is modelled as one: a program counter
with the call's local variables, and a step function that runs it on by one
piece, given what the environment answers. `isAwait` marks the counters at which
the procedure has yielded; between two of them nothing else runs in the process.
A store step may fail at each point where the source makes one.
-/

namespace Tna.Broker

open Tna.Js Tna.Gate Tna.Lib

/-! ## Checks without effects -/

def isControl (c : CodeUnit) : Bool := c < 32 || c == 127

def validText (t : Text) : Bool := t != [] && !t.any isControl

/-- `^[a-f0-9]{64}$`. -/
def isHash (t : Text) : Bool := decide (t.length = 64) && t.all fun c => isDigit c || (unit 'a' ≤ c && c ≤ unit 'f')

structure RedeemInput where
  token : Text
  tool : Text
  resource : Text
  operation : Text
  destination : Option Text
  input : JsValue
  inputHash : Text

/-- What `validateInput` asks of an input whose fields have their types. -/
def validateInput (i : RedeemInput) : Bool :=
  validText i.token && validText i.tool && validText i.resource && validText i.operation && isHash i.inputHash &&
    i.destination.all validText

/-- `requireOwner`. -/
def isOwner (p : Principal) (agentId : Text) : Bool :=
  match p with
  | .admin => true
  | .agent a => a = agentId
  | .approver _ => false

def maxTtlMillis : Nat := 60000

/-- `codec.verify` at the time of the clock; `none` is a `CapabilityError`. -/
def CapabilityCodec.verify (codec : CapabilityCodec) (now : Nat) (token : Text) : Option CapabilityPayload :=
  match codec.openToken token with
  | some p =>
    if p.issuedAt ≤ now ∧ p.expiresAt - p.issuedAt ≤ maxTtlMillis ∧ now < p.expiresAt then some p else none
  | none => none

/-- The broker's own notion of the operation of a request. -/
def brokerOperation (request : AuthorizationRequest) : Text :=
  if request.action = Text.ofAscii "production.deploy" then "write" else "read"

def binds (p : CapabilityPayload) (i : RedeemInput) (tool : ToolDefinition) : Bool :=
  p.tool = tool.name ∧ p.tool = i.tool ∧ p.resource = i.resource ∧ p.operation = i.operation ∧
    p.destination = i.destination ∧ p.action = tool.action ∧ p.operation ∈ tool.allowedOperations

/-- `parseRedeemInput`: `none` is a binding mismatch, `some none` a tool without a registered input. -/
def parseRedeemInput (sha256 : Text → Text) (i : RedeemInput) (tool : ToolDefinition) (expectedHash : Text) :
    Option (Option ParsedToolInput) :=
  if tool.name = demoTool then
    match parseAndHash sha256 i.input with
    | some parsed =>
      if parsed.inputHash = i.inputHash ∧ parsed.inputHash = expectedHash ∧ parsed.release = i.resource then
        some (some parsed)
      else none
    | none => none
  else some none

/-- What a verified call carries. -/
structure RedeemCall where
  payload : CapabilityPayload
  tool : ToolDefinition
  parsedInput : Option ParsedToolInput
  decision : Decision
  inputHash : Text

/-- A configured check; one that is not configured passes. -/
def passes {α : Type} (check : Option (GateState → α → Bool)) (g : GateState) (a : α) : Bool := check.all fun f => f g a

/-- The agent is not revoked, as far as that is checked. -/
def notRevoked (o : BrokerOptions) (g : GateState) (agentId : Text) : Bool := o.isAgentRevoked.all fun f => !f g agentId

/-- The reason for which a verified call is blocked before its capability is consumed. -/
def redeemBlock (o : BrokerOptions) (g : GateState) (c : RedeemCall) : Option Text :=
  if !notRevoked o g c.payload.agentId then some "Agent is revoked"
  else if !passes o.isDecisionCurrent g c.decision then some "Decision is stale"
  else if !passes o.isPolicyCurrent g c.decision then some "Policy is stale"
  else if !passes o.isAuthorityValid g c.decision then some "Authority is no longer valid"
  else if c.tool.credentialsRequired ≠ [] ∧ o.secretBroker = false then some "Required secret broker is unavailable"
  else none

/-- The result of the checks that come before consumption. -/
inductive Precheck where
  | throw (e : Thrown)
  | block (p : CapabilityPayload) (reason : Text)
  | pass (c : RedeemCall)

/-- The synchronous beginning of `redeem`, up to its transaction. -/
def redeemPrecheck (b : ExecutionBroker) (g : GateState) (principal : Principal) (i : RedeemInput) : Precheck :=
  if !validateInput i then .throw (.broker 400 "Invalid redeem input")
  else
    match b.codec.verify g.now i.token with
    | none => .throw (.broker 401 "Invalid capability")
    | some p =>
      if !isOwner principal p.agentId then .throw (.broker 403 "Access denied")
      else
        match b.registry i.tool with
        | none => .throw (.broker 403 "Capability binding mismatch")
        | some tool =>
          if !binds p i tool then .throw (.broker 403 "Capability binding mismatch")
          else
            match parseRedeemInput b.sha256 i tool p.inputHash with
            | none => .throw (.broker 403 "Tool input binding mismatch")
            | some parsed =>
              match g.decisions p.decisionId with
              | none => .throw (.broker 404 "Decision not found")
              | some d =>
                let c : RedeemCall := ⟨p, tool, parsed, d, i.inputHash⟩
                match redeemBlock b.options g c with
                | some reason => .block p reason
                | none =>
                  if tool.isolated.isSome ∧ b.options.isolationRunner = false then
                    .throw (.broker 503 "Isolation runner unavailable")
                  else .pass c

/-! ## Writes -/

def transition (now : Nat) (p : CapabilityPayload) (state : ExecutionState) (reason : Text)
    (isolation : Option IsolationEvidence) : Transition :=
  ⟨p.executionId, now, p.agentId, p.decisionId, p.capabilityId, state, reason, isolation⟩

/-- `this.summary(…)`. -/
def summary (now : Nat) (p : CapabilityPayload) (state : ExecutionState) (reason : Text) (resultHash : Option Text)
    (isolation : Option IsolationEvidence) : ExecutionSummary :=
  { transition now p state reason isolation with resultHash := resultHash, inputHash := p.inputHash }

/-- The event and the summary of a state, written together. -/
def Store.record (s : Store) (p : CapabilityPayload) (state : ExecutionState) (reason : Text)
    (resultHash : Option Text) (isolation : Option IsolationEvidence) : Store :=
  { s.append (transition s.gate.now p state reason isolation) with
    executions := s.executions.insert p.executionId (summary s.gate.now p state reason resultHash isolation) }

/-- `finish`, with whether its transaction went through; `none` when it did not. -/
def Store.finish (s : Store) (ok : Bool) (p : CapabilityPayload) (state : ExecutionState) (reason : Text)
    (resultHash : Option Text) (isolation : Option IsolationEvidence) : Option Store :=
  if ok then some (s.record p state reason resultHash isolation) else none

/-- `this.block(…)`: the event, if it can be written, and the error thrown. -/
def Store.block (s : Store) (ok : Bool) (p : CapabilityPayload) (reason : Text) : Store × Thrown :=
  if ok then (s.append (transition s.gate.now p .blocked reason none), .broker 403 reason) else (s, .other none)

/-- The transaction that consumes a capability. -/
def Store.consume (s : Store) (ok : Bool) (p : CapabilityPayload) : Except Thrown Store :=
  match s.capabilities.lookup p.capabilityId with
  | some record =>
    if record.consumed then .error (.broker 409 "Capability already consumed or unknown")
    else if ok then
      .ok ({ s with capabilities := s.capabilities.insert p.capabilityId { record with consumed := true } }.record p
        .started "Capability consumed; handler invocation authorized" none none)
    else .error (.other none)
  | none => .error (.broker 409 "Capability already consumed or unknown")

/-! ## The procedure -/

inductive IsolationState where
  | succeeded | failed | terminated
deriving DecidableEq

structure OutputDigest where
  bytes : Nat
  sha256 : Text
deriving DecidableEq

structure IsolatedExecutionResult where
  state : IsolationState
  reason : Text
  exitCode : Option Nat
  stdout : OutputDigest
  stderr : OutputDigest
deriving DecidableEq

def IsolationState.name : IsolationState → Text
  | .succeeded => "SUCCEEDED"
  | .failed => "FAILED"
  | .terminated => "TERMINATED"

def IsolationState.execution : IsolationState → ExecutionState
  | .succeeded => .succeeded
  | .failed => .failed
  | .terminated => .terminated

/-- The hash of what an isolated run reports. -/
def isolatedResultHash (sha256 : Text → Text) (r : IsolatedExecutionResult) : Text :=
  sha256 (Value.canonical (.obj [("state", .str r.state.name), ("reason", .str r.reason),
    ("exit_code", match r.exitCode with
      | some n => .ofNat n
      | none => .null),
    ("stdout", .str r.stdout.sha256), ("stderr", .str r.stderr.sha256)]))

def isolationEvidence (a : IsolatedToolAdapter) (workspaceId : Text) (r : IsolatedExecutionResult) (inputHash : Text) :
    IsolationEvidence where
  runnerType := a.runnerType
  runnerVersion := a.runnerVersion
  workspaceId := workspaceId
  exitCode := r.exitCode
  terminationReason := if r.state = .terminated then some r.reason else none
  stdoutBytes := r.stdout.bytes
  stdoutSha256 := r.stdout.sha256
  stderrBytes := r.stderr.bytes
  stderrSha256 := r.stderr.sha256
  inputHash := inputHash

/-- How a call ends for its caller. -/
inductive Outcome where
  | returned (executionId resultHash : Text)
  | threw (e : Thrown)
deriving DecidableEq

/-- A call of the handler or of the runner, with the context it is given. -/
structure Invocation where
  capabilityId : Text
  executionId : Text
  agentId : Text
  decisionId : Text
  tool : Text
  resource : Text
  operation : Text
  destination : Option Text
  input : Value

/-- What a finished write is followed by. -/
inductive AfterFinish where
  | return
  | throw (message : Text)
deriving DecidableEq

/-- A `finish` in the `try` block. -/
structure Finish where
  state : ExecutionState
  reason : Text
  resultHash : Text
  isolation : Option IsolationEvidence
  handlerCompleted : Bool
  next : AfterFinish
deriving DecidableEq

/-- The write the `catch` block makes. -/
inductive Settlement where
  | indeterminate
  | failed (resultHash : Option Text)
deriving DecidableEq

/-- Where a call of `redeem` stands, with its local variables. -/
inductive Pc where
  | start (principal : Principal) (input : RedeemInput)
  /-- Before the transaction that consumes the capability. -/
  | consuming (c : RedeemCall)
  /-- Awaiting the secret leases. -/
  | leasing (c : RedeemCall)
  /-- Before the handler is called, or the request for the runner is built. -/
  | preparing (c : RedeemCall) (leases : List Text)
  /-- Awaiting the workspace directory. -/
  | makingWorkspace (c : RedeemCall) (leases : List Text) (adapter : IsolatedToolAdapter) (workspaceId : Text)
  /-- Awaiting the runner. -/
  | running (c : RedeemCall) (leases : List Text) (adapter : IsolatedToolAdapter) (workspaceId : Text)
  /-- Awaiting the handler. -/
  | handling (c : RedeemCall) (leases : List Text)
  | finishing (c : RedeemCall) (leases : List Text) (f : Finish)
  | settling (c : RedeemCall) (leases : List Text) (w : Settlement)
  | releasing (leases : List Text) (o : Outcome)
  | done (o : Outcome)

/-- The call has yielded, or has not begun, or is over. -/
def Pc.isAwait : Pc → Bool
  | .start .. | .leasing .. | .makingWorkspace .. | .running .. | .handling .. | .done .. => true
  | _ => false

/-- What the environment answers to a piece of the procedure. -/
inductive Answer where
  /-- Go on; whether the store step of the piece goes through. -/
  | go (storeOk : Bool)
  /-- The leases by name; whether a block that follows can be recorded. -/
  | leased (names : List Text) (storeOk : Bool)
  /-- The request that was built runs in this workspace. -/
  | request (workspaceId : Text)
  | workspaceMade
  | ran (r : IsolatedExecutionResult)
  /-- The hash of the handler's result; `none` when it cannot be hashed. -/
  | returned (resultHash : Option Text)
  /-- What was awaited or called failed. -/
  | failed (e : Thrown)
  /-- Whether every lease could be released. -/
  | released (ok : Bool)

/-- The `finally` block. -/
def finallyPc (leases : List Text) (o : Outcome) : Pc := if leases = [] then .done o else .releasing leases o

/-- `handlerResultHash`. -/
def Thrown.resultHash : Thrown → Option Text
  | .broker .. => none
  | .other h => h

/-- The error passes the `catch` block as it is. -/
def Thrown.rethrown : Thrown → Bool
  | .broker status message =>
    message = Text.ofAscii "Isolated execution failed" || message = Text.ofAscii "Isolated execution terminated" ||
      status == 403
  | .other _ => false

/-- The `catch` block, up to its write. -/
def catchPc (c : RedeemCall) (leases : List Text) (handlerCompleted : Bool) (e : Thrown) : Pc :=
  if e.rethrown then finallyPc leases (.threw e)
  else if handlerCompleted then .settling c leases .indeterminate
  else .settling c leases (.failed e.resultHash)

/-- The reason for which a call with its leases is blocked: a missing lease, or a check made again. -/
def leaseBlock (o : BrokerOptions) (g : GateState) (c : RedeemCall) (leases : List Text) : Option Text :=
  match c.tool.credentialsRequired.find? fun name => name ∉ leases with
  | some name => some (Text.ofAscii "Missing credential lease: " ++ name)
  | none =>
    if !notRevoked o g c.payload.agentId then some "Agent revoked during pre-invocation recheck"
    else if !passes o.isPolicyCurrent g c.decision then some "Policy stale during pre-invocation recheck"
    else if !passes o.isAuthorityValid g c.decision then some "Authority invalid during pre-invocation recheck"
    else if c.payload.expiresAt ≤ g.now then some "Capability expired during pre-invocation recheck"
    else none

def RedeemCall.invocation (c : RedeemCall) : Invocation where
  capabilityId := c.payload.capabilityId
  executionId := c.payload.executionId
  agentId := c.payload.agentId
  decisionId := c.payload.decisionId
  tool := c.tool.name
  resource := c.payload.resource
  operation := c.payload.operation
  destination := c.payload.destination
  input := match c.parsedInput with
    | some parsed => parsed.input.toValue
    | none => .obj []

/-- What a piece of the procedure does: the store and the counter after it, and the
call of the handler or runner it makes, if any. -/
structure Effect where
  store : Store
  pc : Pc
  invoked : Option Invocation

/-- A piece that calls neither the handler nor the runner. -/
def Effect.quiet (s : Store) (pc : Pc) : Effect := ⟨s, pc, none⟩

/-- The message thrown after an isolated run that did not succeed. -/
def isolatedMessage (state : IsolationState) : Text :=
  if state = .terminated then "Isolated execution terminated" else "Isolated execution failed"

/-- The write that follows a report of the runner. -/
def isolatedFinish (sha256 : Text → Text) (c : RedeemCall) (adapter : IsolatedToolAdapter) (workspaceId : Text)
    (r : IsolatedExecutionResult) : Finish where
  state := r.state.execution
  reason :=
    if r.state = .succeeded then "Isolated child completed" else Text.ofAscii "Isolated child " ++ r.reason
  resultHash := isolatedResultHash sha256 r
  isolation := some (isolationEvidence adapter workspaceId r c.inputHash)
  handlerCompleted := false
  next := if r.state = .succeeded then .return else .throw (isolatedMessage r.state)

/-- The write that follows a handler that returned. -/
def handlerFinish (resultHash : Text) : Finish := ⟨.succeeded, "Handler completed", resultHash, none, true, .return⟩

/-- The end of the `try` block after a `finish` that went through. -/
def afterFinish (c : RedeemCall) (leases : List Text) (f : Finish) : Pc :=
  match f.next with
  | .return => finallyPc leases (.returned c.payload.executionId f.resultHash)
  | .throw message => catchPc c leases f.handlerCompleted (.broker 500 message)

/-- One piece of `redeem`; `none` when the answer is not to what the call asked. -/
def redeemStep (b : ExecutionBroker) (s : Store) : Pc → Answer → Option Effect
  | .start principal input, .go storeOk =>
    match redeemPrecheck b s.gate principal input with
    | .throw e => some (.quiet s (.done (.threw e)))
    | .block p reason =>
      let blocked := s.block storeOk p reason
      some (.quiet blocked.1 (.done (.threw blocked.2)))
    | .pass c => some (.quiet s (.consuming c))
  | .consuming c, .go storeOk =>
    match s.consume storeOk c.payload with
    | .error e => some (.quiet s (.done (.threw e)))
    | .ok s' => some (.quiet s' (if c.tool.credentialsRequired = [] then .preparing c [] else .leasing c))
  | .leasing c, .leased names storeOk =>
    match leaseBlock b.options s.gate c names with
    | some reason =>
      let blocked := s.block storeOk c.payload reason
      some (.quiet blocked.1 (catchPc c names false blocked.2))
    | none => some (.quiet s (.preparing c names))
  | .leasing c, .failed e => some (.quiet s (catchPc c [] false e))
  | .preparing c leases, .request workspaceId =>
    match c.tool.isolated with
    | some adapter => some (.quiet s (.makingWorkspace c leases adapter workspaceId))
    | none => none
  | .preparing c leases, .failed e =>
    match c.tool.isolated with
    | some _ => some (.quiet s (catchPc c leases false e))
    | none => none
  | .preparing c leases, .go _ =>
    match c.tool.isolated with
    | some _ => none
    | none =>
      if c.tool.handler then some ⟨s, .handling c leases, some c.invocation⟩
      else some (.quiet s (catchPc c leases false (.broker 503 "Tool handler unavailable")))
  | .makingWorkspace c leases adapter workspaceId, .workspaceMade =>
    some ⟨s, .running c leases adapter workspaceId, some c.invocation⟩
  | .makingWorkspace c leases _ _, .failed e => some (.quiet s (catchPc c leases false e))
  | .running c leases adapter workspaceId, .ran r =>
    some (.quiet s (.finishing c leases (isolatedFinish b.sha256 c adapter workspaceId r)))
  | .running c leases _ _, .failed e => some (.quiet s (catchPc c leases false e))
  | .handling c leases, .returned (some h) => some (.quiet s (.finishing c leases (handlerFinish h)))
  | .handling c leases, .returned none => some (.quiet s (catchPc c leases true (.other none)))
  | .handling c leases, .failed e => some (.quiet s (catchPc c leases false e))
  | .finishing c leases f, .go storeOk =>
    match s.finish storeOk c.payload f.state f.reason (some f.resultHash) f.isolation with
    | some s' => some (.quiet s' (afterFinish c leases f))
    | none => some (.quiet s (catchPc c leases f.handlerCompleted (.other none)))
  | .settling c leases .indeterminate, .go storeOk =>
    let s' := (s.finish storeOk c.payload .indeterminate "Handler completed; evidence persistence failed" none none).getD s
    some (.quiet s' (finallyPc leases
      (.threw (.broker 503 "Evidence persistence failed after successful handler execution"))))
  | .settling c leases (.failed h), .go storeOk =>
    match s.finish storeOk c.payload .failed "Protected handler failed" h none with
    | some s' => some (.quiet s' (finallyPc leases (.threw (.broker 500 "Handler failed"))))
    | none => some (.quiet s (finallyPc leases
        (.threw (.broker 503 "Execution outcome is indeterminate; capability remains consumed"))))
  | .releasing _ o, .released ok => some (.quiet s (.done (if ok then o else .threw (.other none))))
  | _, _ => none

end Tna.Broker
