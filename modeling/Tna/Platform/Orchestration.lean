import Mathlib.Logic.Function.Basic
import Tna.Platform.Calls
import Tna.Platform.Run

/-!
# Calls of the orchestrators, side by side

Any number of calls of `submitAndRun`, `authorize` and `run` on one durable store. Each
call of the store is a step, and so is each answer of the broker, of Sentinel and of the
verifier; between any two of them the other calls go on, operators and dispatchers call
the store, the broker is called for other decisions, and the platform may be restarted.
-/

namespace Tna.Platform

open Tna.Js Tna.Gate Tna.Lib Tna.Broker

/-! ## Where a call stands -/

/-- The local variables of a `run` that has been issued a capability. -/
structure Grant where
  agentId : Text
  actionId : Text
  token : Text
  capability : CapabilityPayload

inductive OrchestratorPc where
  | idle
  /-- `submitAndRun`, before the request is stored. -/
  | submitting (principal : PlatformPrincipal) (request : ValidatedRequest)
  /-- `authorize`, before it reads the action. `submitAndRun` goes on with `run` after it. -/
  | authorizing (principal : PlatformPrincipal) (actionId : Text) (facade : Bool)
  /-- The action was just received. -/
  | received (principal : PlatformPrincipal) (action : PlatformAction) (facade : Bool)
  /-- Before the Gate decides. -/
  | deciding (principal : PlatformPrincipal) (action : PlatformAction) (facade : Bool)
  /-- `run`, before it reads the action. -/
  | starting (principal : PlatformPrincipal) (actionId : Text)
  /-- Before the broker issues. -/
  | issuing (agentId actionId : Text) (action : PlatformAction) (decisionId : Text)
  | capable (g : Grant) (action : PlatformAction)
  /-- Before the Sentinel session is created. -/
  | unmonitored (g : Grant) (action : PlatformAction)
  | sessioned (g : Grant) (action : PlatformAction) (sessionId : Text)
  | monitored (g : Grant) (action : PlatformAction) (sessionId : Text)
  /-- The execution was claimed, and the action is to be read again. -/
  | claimed (g : Grant) (action : PlatformAction) (sessionId executionId : Text)
  /-- In `failAt`. -/
  | refusing (action : PlatformAction) (source : PlatformActionState) (target : Durable.FailureTarget) (code message : Text)
  /-- Awaiting the check of the pre-action observation. -/
  | preChecking (r : RunContext)
  /-- In the call of the broker. -/
  | redeeming (r : RunContext) (pc : Broker.Pc)
  /-- A failure of the execution is to be recorded, and then its run finished if there is a status for it. -/
  | failing (r : RunContext) (target : Durable.FailureTarget) (code message : Text) (interrupted : Option Bool)
  /-- In `finishRunQuietly`. -/
  | failed (r : RunContext) (action : PlatformAction) (interrupted : Bool)
  /-- Awaiting the observation after the execution. -/
  | postChecking (r : RunContext) (executionId resultHash : Text)
  | recording (r : RunContext) (executionId resultHash : Text)
  | finishing (r : RunContext) (action : PlatformAction)
  /-- Awaiting the verifier. -/
  | verifying (action : PlatformAction)
  | concluding (action : PlatformAction) (atomId finalState : Text) (target : Durable.VerificationTarget) (code : Option Text)
  /-- What the call returned or threw. Of what `run` returns the facade returns the action, as `authorize` does. -/
  | over (o : RunOutcome)

def OrchestratorPc.threw (e : PlatformError) : OrchestratorPc := .over (.threw e)

/-- No call is running. -/
def OrchestratorPc.isFree : OrchestratorPc → Bool
  | .idle | .over _ => true
  | _ => false

inductive OrchestratorCall where
  | submitAndRun (principal : PlatformPrincipal) (request : ValidatedRequest)
  | authorize (principal : PlatformPrincipal) (actionId : Text)
  | run (principal : PlatformPrincipal) (actionId : Text)

def OrchestratorCall.pc : OrchestratorCall → OrchestratorPc
  | .submitAndRun principal request => .submitting principal request
  | .authorize principal actionId => .authorizing principal actionId false
  | .run principal actionId => .starting principal actionId

/-! ## What the components answer -/

inductive OrchestratorAnswer where
  /-- The store is called. -/
  | store (c : CallContext)
  /-- The store is called with the ids of a new action. -/
  | submit (c : CallContext) (ids : NewActionIds)
  /-- The store is called with the id of a new execution. -/
  | claim (c : CallContext) (executionId : Text)
  /-- The action is read. -/
  | read
  /-- The Gate has decided, and the store is called. -/
  | decided (c : CallContext) (decision : GateDecisionRecord)
  | issued (random : IssueRandom) (writes : IssueWrites)
  /-- The Sentinel session, or why it could not be created. -/
  | session (result : Except Text Text)
  /-- The decision on the observation, and whether the session is then `TERMINATED` with the rules it violated. -/
  | checked (decision : Option Sentinel.SentinelDecisionType) (confirmed : Bool) (violations : Text)
  | redeem (a : Broker.Answer)
  /-- The call of the broker is over. -/
  | redeemed
  /-- The observation after the execution was submitted, or rejected. -/
  | posted
  | verified (atomId : Text) (finalState : VadFinalState)
  /-- The component that was called threw. -/
  | threw

/-- A process, with the parts its orchestrators are composed of. -/
structure OrchestratorProcess where
  broker : ExecutionBroker
  vad : Bool

/-- A call of `ExecutionBroker.redeem`, and the action it is made for. -/
structure Redemption where
  key : Text × Text
  principal : Principal
  input : RedeemInput

/-- A step of a call: the stores and the counter after it, and the call of `redeem` it makes. -/
structure OrchestratorEffect where
  store : DurableStore
  broker : Broker.Store
  pc : OrchestratorPc
  redemption : Option Redemption

/-! ## Steps -/

/-- `assertCanSubmit`. -/
def PlatformPrincipal.canSubmit (p : PlatformPrincipal) : Bool := p.role = .agent || p.role = .service || p.role = .user

/-- The agent a principal is bound to, if it is an agent. -/
def PlatformPrincipal.boundAgent (p : PlatformPrincipal) : Option Text :=
  if p.role = .agent then p.agentId.filter (· ≠ []) else none

/-- What `authorize` does with the action it reads. -/
def afterAuthorizeRead (principal : PlatformPrincipal) (actionId : Text) (facade : Bool) (row : Option ActionRow) : OrchestratorPc :=
  match principal.boundAgent with
  | none => .threw (.platform .forbidden "Only a tenant-bound platform agent may request Gate authorization")
  | some agentId =>
    match row with
    | none => .threw (.platform .notFound (Text.ofAscii "No platform action " ++ actionId))
    | some row =>
      if row.request.agentId ≠ agentId then .threw (.platform .forbidden "Platform agent is not bound to this action")
      else if row.state = .received then .received principal row.toPlatformAction facade
      else if row.state ≠ .authorizing then .threw (.platform .conflict "Action is not awaiting Gate authorization")
      else .deciding principal row.toPlatformAction facade

/-- What `run` does with the action it reads. -/
def afterRunRead (principal : PlatformPrincipal) (actionId : Text) (row : Option ActionRow) : OrchestratorPc :=
  match principal.boundAgent with
  | none => .threw (.platform .forbidden "Only a tenant-bound platform agent may drive execution")
  | some agentId =>
    match row with
    | none => .threw (.platform .notFound (Text.ofAscii "No platform action " ++ actionId))
    | some row =>
      if row.request.agentId ≠ agentId then .threw (.platform .forbidden "Platform agent is not bound to this action")
      else if row.state ≠ .authorized then
        .threw (.platform .conflict (Text.ofAscii "Action is not AUTHORIZED (state: " ++ row.state.name ++ Text.ofAscii ")"))
      else
        match row.gateDecision with
        | some ⟨decisionId, .allow⟩ => .issuing agentId actionId row.toPlatformAction decisionId
        | _ => .threw (.platform .conflict "Action has no ALLOW decision to execute against")

/-- What `authorize` ends with, and `submitAndRun` goes on with. -/
def afterDecision (principal : PlatformPrincipal) (facade : Bool) (action : PlatformAction) : OrchestratorPc :=
  if facade && action.state = .authorized then .starting principal action.platformActionId else .over (.returned action false)

/-- What `submitAndRun` does with the action it has created or found. -/
def afterSubmit (principal : PlatformPrincipal) (action : PlatformAction) : OrchestratorPc :=
  if action.state = .received then .authorizing principal action.platformActionId true else .over (.returned action false)

/-- What follows the pre-action check. The connector is not called but in the last case. -/
def afterPreCheck (sha256 : Text → Text) (r : RunContext) (decision : Option Sentinel.SentinelDecisionType) (confirmed : Bool)
    (violations : Text) : OrchestratorPc × Option Redemption :=
  match decision with
  | some .terminate =>
    (.failing r (if confirmed then .terminated else .indeterminate) "SENTINEL_TERMINATED"
      (if violations = [] then "Sentinel terminated the session before execution" else violations) (some !confirmed), none)
  | some .hold =>
    (.failing r .indeterminate "SENTINEL_HOLD" "Sentinel held the session before execution; connector was never invoked" none,
      none)
  | _ =>
    if computeInputHash sha256 r.action.request ≠ r.action.inputHash then
      (.failing r .terminated "EXECUTION_FAILED"
        (Text.ofAscii "Input binding drift detected between authorization and execution " ++ [0x2014] ++
          Text.ofAscii " connector never invoked") none, none)
    else
      (.redeeming r (.start (.agent r.agentId) (r.redeemInput sha256)),
        some ⟨r.action.key, .agent r.agentId, r.redeemInput sha256⟩)

/-- What follows the call of the broker. -/
def afterRedeemed (r : RunContext) : Outcome → OrchestratorPc
  | .returned executionId resultHash => .postChecking r executionId resultHash
  | .threw e =>
    if degraded e then .failing r .indeterminate "EVIDENCE_DEGRADED" (thrownMessage e) (some true)
    else .failing r .failed "EXECUTION_FAILED" (thrownMessage e) (some false)

/-- What follows the end of a run. -/
def afterFinished (vad : Bool) (r : RunContext) (action : PlatformAction) : OrchestratorPc :=
  if !r.action.request.requiresVerification then .over (.returned action true)
  else if vad then .verifying action
  else .concluding action "none" "UNAVAILABLE" .indeterminate (some "COMPONENT_UNAVAILABLE")

/-- What follows the verdict. -/
def afterVerdict (action : PlatformAction) (atomId : Text) : VadFinalState → OrchestratorPc
  | .accepted => .concluding action atomId VadFinalState.accepted.name .completed none
  | .rejected => .concluding action atomId VadFinalState.rejected.name .failed (some "VERIFICATION_REJECTED")
  | final => .concluding action atomId final.name .indeterminate (some "VERIFICATION_ESCALATED")

section
variable (s : DurableStore) (k : Broker.Store)

/-- A step that calls neither store. -/
def OrchestratorEffect.quiet (pc : OrchestratorPc) : OrchestratorEffect := ⟨s, k, pc, none⟩

/-- A call of the store, which is gone on from with its answer or with its error. -/
def OrchestratorEffect.called {α : Type} (result : EStateM.Result PlatformError DurableStore α) (next : α → OrchestratorPc)
    (caught : PlatformError → OrchestratorPc) : OrchestratorEffect :=
  match result with
  | .ok a t => ⟨t, k, next a, none⟩
  | .error e t => ⟨t, k, caught e, none⟩

/-- A call of the broker for a capability. -/
def issueFor (b : ExecutionBroker) (agentId actionId : Text) (action : PlatformAction) (decisionId : Text)
    (random : IssueRandom) (writes : IssueWrites) : OrchestratorEffect :=
  let issued := issue b random writes k (.agent agentId) decisionId
  match issued.result with
  | .ok (token, capability) => ⟨s, issued.store, .capable ⟨agentId, actionId, token, capability⟩ action, none⟩
  | .error e => ⟨s, issued.store, .refusing action .authorized .failed "CAPABILITY_FAILURE" (thrownMessage e), none⟩

/-- One step of a call; `none` when the answer is not to what the call asked. -/
def orchestratorStep (o : OrchestratorProcess) : OrchestratorPc → OrchestratorAnswer → Option OrchestratorEffect
  | .submitting principal request, .submit c ids =>
    if !principal.canSubmit then
      some (.quiet s k (.threw (.platform .forbidden
        (Text.ofAscii "Role " ++ principal.role.name ++ Text.ofAscii " may not submit a platform action"))))
    else some (.called k (createOrReturn o.broker.sha256 c request ids s) (afterSubmit principal) .threw)
  | .authorizing principal actionId facade, .read =>
    some (.quiet s k (afterAuthorizeRead principal actionId facade (s.row (principal.tenantId, actionId))))
  | .received principal action facade, .store c =>
    some (.called k
      (Durable.transition c action.tenantId action.platformActionId action.stateVersion .authorizing
        "PLATFORM_ACTION_STATE_CHANGED" true s)
      (fun action =>
        if action.state ≠ .authorizing then .threw (.platform .conflict "Action is not awaiting Gate authorization")
        else .deciding principal action facade) .threw)
  | .deciding principal action facade, .decided c decision =>
    some (.called k
      (Durable.recordGateDecision c action.tenantId action.platformActionId action.stateVersion decision s)
      (afterDecision principal facade) .threw)
  | .starting principal actionId, .read =>
    some (.quiet s k (afterRunRead principal actionId (s.row (principal.tenantId, actionId))))
  | .issuing agentId actionId action decisionId, .issued random writes =>
    some (issueFor s k o.broker agentId actionId action decisionId random writes)
  | .capable g action, .store c =>
    some (.called k
      (Durable.recordCapability c action.tenantId g.actionId action.stateVersion g.capability.capabilityId s)
      (.unmonitored g) .threw)
  | .unmonitored g action, .session (.ok sessionId) => some (.quiet s k (.sessioned g action sessionId))
  | .unmonitored _ action, .session (.error message) =>
    some (.quiet s k (.refusing action .capabilityIssued .indeterminate "SENTINEL_UNAVAILABLE" message))
  | .sessioned g action sessionId, .store c =>
    some (.called k (Durable.recordSentinelSession c action.tenantId g.actionId action.stateVersion sessionId s)
      (.monitored g · sessionId) .threw)
  | .monitored g action sessionId, .claim c executionId =>
    some (.called k (Durable.claimExecution c action.tenantId g.actionId action.stateVersion executionId s)
      (fun run => .claimed g action sessionId run.executionId) .threw)
  | .claimed g action sessionId executionId, .read =>
    some (.quiet s k (match s.row (action.tenantId, g.actionId) with
      | none => .threw (.platform .notFound (Text.ofAscii "No platform action " ++ g.actionId))
      | some row => .preChecking ⟨row.toPlatformAction, g.agentId, g.token, g.capability, sessionId, executionId⟩))
  | .refusing action source target code message, .store c =>
    some (.called k
      (Durable.recordFailure c action.tenantId action.platformActionId action.stateVersion source target code message s)
      (fun _ => .threw (.platform .capabilityFailure message)) .threw)
  | .preChecking r, .checked decision confirmed violations =>
    let after := afterPreCheck o.broker.sha256 r decision confirmed violations
    some ⟨s, k, after.1, after.2⟩
  | .redeeming r (.done outcome), .redeemed => some (.quiet s k (afterRedeemed r outcome))
  | .redeeming r pc, .redeem a => (redeemStep o.broker k pc a).map fun e => ⟨s, e.store, .redeeming r e.pc, none⟩
  | .failing r target code message interrupted, .store c =>
    some (.called k
      (Durable.recordFailure c r.action.tenantId r.action.platformActionId r.action.stateVersion .executing target code message s)
      (fun action =>
        match interrupted with
        | some interrupted => .failed r action interrupted
        | none => .over (.returned action false)) .threw)
  | .failed r action interrupted, .store c =>
    some (.called k (Durable.finishRun c r.action.tenantId r.executionId interrupted s)
      (fun _ => .over (.returned action false)) fun _ => .over (.returned action false))
  | .postChecking r executionId resultHash, .posted => some (.quiet s k (.recording r executionId resultHash))
  | .recording r executionId resultHash, .store c =>
    let verified := r.action.request.requiresVerification
    some (.called k
      (Durable.recordExecutionResult c r.action.tenantId r.action.platformActionId r.action.stateVersion executionId resultHash
        (if verified then .verifying else .completed)
        (if verified then "PLATFORM_VERIFICATION_STARTED" else "PLATFORM_ACTION_COMPLETED") s)
      (.finishing r) .threw)
  | .finishing r action, .store c =>
    some (.called k (Durable.finishRun c r.action.tenantId r.executionId false s) (fun _ => afterFinished o.vad r action) .threw)
  | .verifying action, .verified atomId finalState => some (.quiet s k (afterVerdict action atomId finalState))
  | .concluding action atomId finalState target code, .store c =>
    some (.called k
      (Durable.recordVerificationResult c action.tenantId action.platformActionId action.stateVersion atomId finalState target
        code s)
      (fun action => .over (.returned action true)) .threw)
  | .deciding .., .threw => some (.quiet s k (.threw .foreign))
  | .preChecking _, .threw => some (.quiet s k (.threw .foreign))
  | .postChecking .., .threw => some (.quiet s k (.threw .foreign))
  | .verifying _, .threw => some (.quiet s k (.threw .foreign))
  | _, _ => none

end

/-! ## Where a step leads -/

/-- Where a call can stand after a step of it: its request was stored, and what it refuses was not executing. -/
def OrchestratorPc.Onward : OrchestratorPc → Prop
  | .submitting .. => False
  | .refusing _ source .. => source ≠ .executing
  | _ => True

section
variable {s : DurableStore} {k : Broker.Store} {pc : OrchestratorPc} {o : OrchestratorProcess} {a : OrchestratorAnswer}
  {e : OrchestratorEffect} {α : Type} {result : EStateM.Result PlatformError DurableStore α} {next : α → OrchestratorPc}
  {caught : PlatformError → OrchestratorPc}

theorem onward_called {next : α → OrchestratorPc} (hnext : ∀ a, (next a).Onward) (hcaught : ∀ e, (caught e).Onward) :
    (OrchestratorEffect.called k result next caught).pc.Onward := by
  cases result with
  | ok a => exact hnext a
  | error e => exact hcaught e

theorem onward_of_orchestratorStep (h : orchestratorStep s k o pc a = some e) : e.pc.Onward := by
  unfold orchestratorStep at h
  split at h
  · split at h
    · cases h
      trivial
    · cases h
      refine onward_called (fun action => ?_) fun _ => trivial
      unfold afterSubmit
      split <;> trivial
  · cases h
    show (afterAuthorizeRead ..).Onward
    unfold afterAuthorizeRead
    split
    · trivial
    · split
      · trivial
      · split_ifs <;> trivial
  · cases h
    refine onward_called (fun action => ?_) fun _ => trivial
    split <;> trivial
  · cases h
    refine onward_called (fun action => ?_) fun _ => trivial
    unfold afterDecision
    split <;> trivial
  · cases h
    show (afterRunRead ..).Onward
    unfold afterRunRead
    split
    · trivial
    · split
      · trivial
      · split_ifs
        · trivial
        · trivial
        · split <;> trivial
  · cases h
    unfold issueFor
    simp only
    split
    · trivial
    · intro hsource
      cases hsource
  · cases h
    exact onward_called (fun _ => trivial) fun _ => trivial
  · cases h
    trivial
  · cases h
    intro hsource
    cases hsource
  · cases h
    exact onward_called (fun _ => trivial) fun _ => trivial
  · cases h
    exact onward_called (fun _ => trivial) fun _ => trivial
  · cases h
    unfold OrchestratorEffect.quiet
    split <;> trivial
  · cases h
    exact onward_called (fun _ => trivial) fun _ => trivial
  · cases h
    show (afterPreCheck ..).1.Onward
    unfold afterPreCheck
    split
    · trivial
    · trivial
    · split <;> trivial
  · cases h
    show (afterRedeemed ..).Onward
    unfold afterRedeemed
    split
    · trivial
    · split <;> trivial
  · obtain ⟨e', -, rfl⟩ := Option.map_eq_some_iff.1 h
    trivial
  · cases h
    refine onward_called (fun action => ?_) fun _ => trivial
    split <;> trivial
  · cases h
    exact onward_called (fun _ => trivial) fun _ => trivial
  · cases h
    trivial
  · cases h
    exact onward_called (fun _ => trivial) fun _ => trivial
  · cases h
    refine onward_called (fun _ => ?_) fun _ => trivial
    unfold afterFinished
    split_ifs <;> trivial
  · cases h
    show (afterVerdict ..).Onward
    unfold afterVerdict
    split <;> trivial
  · cases h
    exact onward_called (fun _ => trivial) fun _ => trivial
  · cases h
    trivial
  · cases h
    trivial
  · cases h
    trivial
  · cases h
    trivial
  · cases h

end

/-! ## The system -/

/-- The stores, and the calls by the process each runs in. -/
structure Orchestration (P : Type) where
  store : DurableStore
  broker : Broker.Store
  pcs : P → OrchestratorPc

/-- No call yet, and no capability. -/
def Orchestration.initial (P : Type) (s : DurableStore) (k : Broker.Store) : Orchestration P :=
  ⟨s, { k with capabilities := ∅ }, fun _ => .idle⟩

/-- The calls of the store that are made by `run` alone, and the one of a start. -/
def StoreCall.ofRun : StoreCall → Bool
  | .claimExecution .. | .finishRun .. | .recoverInterruptedWork .. => true
  | _ => false

/-- What else is done to the store of the broker. -/
inductive Elsewhere (k : Broker.Store) : Broker.Store → Prop where
  | issue (b : ExecutionBroker) (random : IssueRandom) (writes : IssueWrites) (principal : Principal) (decisionId : Text)
    (hfresh : k.capabilities.lookup random.capabilityId = none) :
    Elsewhere k (issue b random writes k principal decisionId).store
  | redeem (b : ExecutionBroker) {pc : Broker.Pc} {a : Broker.Answer} {e : Effect} (h : redeemStep b k pc a = some e) :
    Elsewhere k e.store
  | process (k' : Broker.Store) (hcapabilities : k'.capabilities = k.capabilities) : Elsewhere k k'

inductive OrchestrationLabel (P : Type) where
  | begin (p : P) (call : OrchestratorCall)
  | own (p : P) (a : OrchestratorAnswer) (redemption : Option Redemption)
  | call (c : CallContext) (call : StoreCall)
  | restart (c : CallContext) (uuids : Text × Text → Text)
  | broker

/-- The calls of `redeem` in a sequence of steps. -/
def redemptions {P : Type} (labels : List (OrchestrationLabel P)) : List Redemption :=
  labels.flatMap fun
    | .own _ _ redemption => redemption.toList
    | _ => []

section
variable {P : Type} [DecidableEq P]

/-- A call goes on. -/
def Orchestration.goto (w : Orchestration P) (p : P) (pc : OrchestratorPc) : Orchestration P :=
  { w with pcs := Function.update w.pcs p pc }

@[simp] theorem goto_pcs_self (w : Orchestration P) (p : P) (pc : OrchestratorPc) : (w.goto p pc).pcs p = pc :=
  Function.update_self ..

@[simp] theorem goto_pcs_of_ne (w : Orchestration P) {p q : P} (h : q ≠ p) (pc : OrchestratorPc) : (w.goto p pc).pcs q = w.pcs q :=
  Function.update_of_ne h ..

/-- The state after a step of a call. -/
def Orchestration.after (w : Orchestration P) (p : P) (e : OrchestratorEffect) : Orchestration P :=
  (⟨e.store, e.broker, w.pcs⟩ : Orchestration P).goto p e.pc

/-- One step. The id of a capability that is issued was never drawn before. -/
inductive OrchestrationStep (sha256 : Text → Text) (processes : P → OrchestratorProcess) (w : Orchestration P) :
    OrchestrationLabel P → Orchestration P → Prop where
  | begin {p : P} (call : OrchestratorCall) (hfree : (w.pcs p).isFree = true) :
    OrchestrationStep sha256 processes w (.begin p call) (w.goto p call.pc)
  | own {p : P} {a : OrchestratorAnswer} {e : OrchestratorEffect}
    (hfresh : ∀ random writes, a = .issued random writes → w.broker.capabilities.lookup random.capabilityId = none)
    (h : orchestratorStep w.store w.broker (processes p) (w.pcs p) a = some e) :
    OrchestrationStep sha256 processes w (.own p a e.redemption) (w.after p e)
  /-- A call of the store by anything but an orchestrator. -/
  | call {c : CallContext} {call : StoreCall} {t : DurableStore} (hcall : call.ofRun = false)
    (h : StoreStep sha256 w.store (c, call) t) : OrchestrationStep sha256 processes w (.call c call) { w with store := t }
  /-- The platform is started again, on what is stored. -/
  | restart {c : CallContext} {uuids : Text × Text → Text} {t : DurableStore}
    (h : StoreStep sha256 w.store (c, .recoverInterruptedWork uuids) t) :
    OrchestrationStep sha256 processes w (.restart c uuids) { w with store := t, pcs := fun _ => .idle }
  | broker {k : Broker.Store} (h : Elsewhere w.broker k) :
    OrchestrationStep sha256 processes w .broker { w with broker := k }

end

end Tna.Platform
