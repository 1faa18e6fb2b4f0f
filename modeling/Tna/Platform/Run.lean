import Tna.Broker.Call
import Tna.Broker.Issue
import Tna.Platform.Store
import Tna.Sentinel.Schema

/-!
# Running an authorized action

`PlatformExecutionOrchestrator.run` issues the capability, opens a Sentinel session,
claims the execution, and then awaits the check of its own observation. What
follows that await goes on from the copy of the action read before it. The call of
the broker is a procedure of its own and runs inside this one.
-/

namespace Tna.Platform

open Tna.Js Tna.Gate Tna.Lib Tna.Broker

/-! ## Connectors -/

/-- A registered connector. Its `execute` is foreign code. -/
structure ToolConnector where
  tenantId : Option Text
  tool : Text
  action : Text
  allowedOperations : List Text
  networkRequired : Bool
deriving DecidableEq

/-- The operation the platform redeems an action with. -/
def brokerOperation (action : Text) : Text := if action = Text.ofAscii "production.deploy" then "write" else "read"

def brokerAllowedOperations (action : Text) : List Text :=
  if action = Text.ofAscii "production.deploy" then ["write"] else ["read"]

/-- A connector as the broker's registry knows it. -/
def ToolConnector.definition (c : ToolConnector) : ToolDefinition where
  name := c.tool
  action := c.action
  resourceType := "platform-connector"
  allowedOperations := brokerAllowedOperations c.action
  networkRequired := c.networkRequired
  credentialsRequired := []
  handler := true
  isolated := none

/-- `buildToolRegistry`: the connectors of the tenant by their tool. -/
def buildToolRegistry (connectors : List ToolConnector) (tenantId : Text) (tool : Text) : Option ToolDefinition :=
  ((connectors.filter fun c => c.tenantId = some tenantId).find? fun c => c.tool = tool).map ToolConnector.definition

/-- What is registered is the definition of a connector. -/
theorem buildToolRegistry_some {connectors : List ToolConnector} {tenantId tool : Text} {definition : ToolDefinition}
    (h : buildToolRegistry connectors tenantId tool = some definition) :
    ∃ c ∈ connectors, c.tool = tool ∧ definition = c.definition := by
  obtain ⟨c, hc, rfl⟩ := Option.map_eq_some_iff.1 h
  exact ⟨c, (List.mem_filter.1 (List.mem_of_find?_eq_some hc)).1, by simpa using List.find?_some hc, rfl⟩

/-! ## The procedure -/

/-- The two stores a run works on. -/
structure World where
  broker : Broker.Store
  platform : PlatformStore

/-- The local variables of a run that has claimed its execution. -/
structure RunContext where
  /-- The copy of the action read after the claim. -/
  action : PlatformAction
  agentId : Text
  token : Text
  capability : CapabilityPayload
  sessionId : Text
  executionId : Text

/-- How a run ends for its caller. -/
inductive RunOutcome where
  | returned (action : PlatformAction) (executed : Bool)
  | threw (e : PlatformError)

inductive VadFinalState where
  | accepted | rejected | escalated | failed
deriving DecidableEq

def VadFinalState.name : VadFinalState → Text
  | .accepted => "ACCEPTED"
  | .rejected => "REJECTED"
  | .escalated => "ESCALATED"
  | .failed => "FAILED"

/-- Where a run stands. -/
inductive RunPc where
  | start (principal : PlatformPrincipal) (actionId : Text)
  /-- Awaiting the check of the pre-action observation. -/
  | preChecking (r : RunContext)
  /-- In the call of the broker. -/
  | redeeming (r : RunContext) (pc : Broker.Pc)
  /-- Awaiting the observation after the execution. -/
  | postChecking (r : RunContext) (executionId resultHash : Text)
  /-- Awaiting the verifier, with the action as it is then. -/
  | verifying (action : PlatformAction)
  | done (o : RunOutcome)

/-- The run has yielded, or has not begun, or is over. The broker's `redeem` is called
and begins in one piece. -/
def RunPc.isAwait : RunPc → Bool
  | .start .. | .preChecking _ | .postChecking .. | .verifying _ | .done _ => true
  | .redeeming _ (.start ..) => false
  | .redeeming _ pc => pc.isAwait

/-- What the environment answers to the beginning of a run. -/
structure RunBegin where
  random : IssueRandom
  issueWrites : IssueWrites
  /-- The transaction of `recordFailure` goes through. -/
  failOk : Bool
  capabilityOk : Bool
  /-- The Sentinel session, or why it could not be created. -/
  session : Except Text Text
  sessionOk : Bool
  claimOk : Bool
  executionId : Text

inductive RunAnswer where
  | begin (a : RunBegin)
  /-- The decision on the observation, whether the session is then `TERMINATED` with the rules
  it violated, and which writes go through. -/
  | checked (decision : Option Sentinel.SentinelDecisionType) (confirmed : Bool) (violations : Text) (failOk finishOk : Bool)
  /-- The observation was not taken, or the session could not be read after a `TERMINATE`. -/
  | checkFailed
  | redeem (a : Broker.Answer)
  /-- The call of the broker is over; which writes go through. -/
  | redeemed (failOk finishOk : Bool)
  /-- The observation was submitted or rejected; which writes go through. -/
  | posted (vad resultOk finishOk verdictOk : Bool)
  /-- The call that submits the observation threw, and gave no promise to catch from. -/
  | postFailed
  | verified (atomId : Text) (finalState : VadFinalState) (verdictOk : Bool)
  | verifyFailed

/-- A piece of a run: the stores and the counter after it, and the call of a connector it makes. -/
structure RunEffect where
  world : World
  pc : RunPc
  invoked : Option Invocation

def RunEffect.quiet (w : World) (pc : RunPc) : RunEffect := ⟨w, pc, none⟩

/-- The write that ends a run, and the action it returns. -/
def endWith (w : World) (result : Except PlatformError (PlatformStore × PlatformAction)) (executed : Bool)
    (after : PlatformStore → PlatformStore) : RunEffect :=
  match result with
  | .ok (p, action) => .quiet { w with platform := after p } (.done (.returned action executed))
  | .error e => .quiet w (.done (.threw e))

/-- `failAt`: a failure before the claim is recorded and thrown on. -/
def failAt (w : World) (ok : Bool) (a : PlatformAction) (source target : PlatformActionState) (code message : Text) :
    RunEffect :=
  match w.platform.recordFailure ok a.tenantId a.platformActionId a.stateVersion source target code message with
  | .ok (p, _) => .quiet { w with platform := p } (.done (.threw (.platform .capabilityFailure message)))
  | .error e => .quiet w (.done (.threw e))

/-- The message of an error of the broker. Errors from elsewhere have messages of their own. -/
def thrownMessage : Thrown → Text
  | .broker _ message => message
  | .other _ => "Connector execution failed"

/-- The beginning of a run, up to its first await. -/
def runBegin (b : ExecutionBroker) (w : World) (principal : PlatformPrincipal) (actionId : Text) (a : RunBegin) :
    RunEffect :=
  match principal.agentId with
  | none => .quiet w (.done (.threw (.platform .forbidden "Only a tenant-bound platform agent may drive execution")))
  | some agentId =>
    if principal.role ≠ .agent then
      .quiet w (.done (.threw (.platform .forbidden "Only a tenant-bound platform agent may drive execution")))
    else
      match w.platform.get principal.tenantId actionId with
      | .error e => .quiet w (.done (.threw e))
      | .ok action =>
        if action.request.agentId ≠ agentId then
          .quiet w (.done (.threw (.platform .forbidden "Platform agent is not bound to this action")))
        else if action.state ≠ .authorized then
          .quiet w (.done (.threw (.platform .conflict
            (Text.ofAscii "Action is not AUTHORIZED (state: " ++ action.state.name ++ Text.ofAscii ")"))))
        else
          match action.gateDecision with
          | some ⟨decisionId, .allow⟩ =>
            let issued := issue b a.random a.issueWrites w.broker (.agent agentId) decisionId
            let w₁ : World := { w with broker := issued.store }
            match issued.result with
            | .error e => failAt w₁ a.failOk action .authorized .failed "CAPABILITY_FAILURE" (thrownMessage e)
            | .ok (token, capability) =>
              match w₁.platform.recordCapability a.capabilityOk action.tenantId actionId action.stateVersion
                  capability.capabilityId with
              | .error e => .quiet w₁ (.done (.threw e))
              | .ok (p₂, action₂) =>
                let w₂ : World := { w₁ with platform := p₂ }
                match a.session with
                | .error message =>
                  failAt w₂ a.failOk action₂ .capabilityIssued .indeterminate "SENTINEL_UNAVAILABLE" message
                | .ok sessionId =>
                  match p₂.recordSentinelSession a.sessionOk action₂.tenantId actionId action₂.stateVersion sessionId with
                  | .error e => .quiet w₂ (.done (.threw e))
                  | .ok (p₃, action₃) =>
                    let w₃ : World := { w₂ with platform := p₃ }
                    match p₃.claimExecution a.claimOk action₃.tenantId actionId action₃.stateVersion a.executionId with
                    | .error e => .quiet w₃ (.done (.threw e))
                    | .ok (p₄, action₄) =>
                      .quiet { w₃ with platform := p₄ }
                        (.preChecking ⟨action₄, agentId, token, capability, sessionId, a.executionId⟩)
          | _ => .quiet w (.done (.threw (.platform .conflict "Action has no ALLOW decision to execute against")))

/-- What `redeem` is called with. -/
def RunContext.redeemInput (sha256 : Text → Text) (r : RunContext) : RedeemInput where
  token := r.token
  tool := r.action.request.tool
  resource := r.action.request.resource
  operation := brokerOperation r.action.request.action
  destination := none
  input := ⟨r.action.request.input.toValue, r.action.request.input.distinct⟩
  inputHash := sha256 r.action.request.input.toValue.canonical

/-- What follows the pre-action check. -/
def afterCheck (b : ExecutionBroker) (w : World) (r : RunContext) (decision : Option Sentinel.SentinelDecisionType)
    (confirmed : Bool) (violations : Text) (failOk finishOk : Bool) : RunEffect :=
  let a := r.action
  let fail := fun target code message =>
    w.platform.recordFailure failOk a.tenantId a.platformActionId a.stateVersion .executing target code message
  match decision with
  | some .terminate =>
    endWith w (fail (if confirmed then .terminated else .indeterminate) "SENTINEL_TERMINATED"
        (if violations = [] then "Sentinel terminated the session before execution" else violations)) false
      fun p => p.finishRunQuietly finishOk a.tenantId r.executionId (if confirmed then .finished else .indeterminate)
  | some .hold =>
    endWith w (fail .indeterminate "SENTINEL_HOLD"
      "Sentinel held the session before execution; connector was never invoked") false id
  | _ =>
    if computeInputHash b.sha256 a.request ≠ a.inputHash then
      endWith w (fail .terminated "EXECUTION_FAILED"
        (Text.ofAscii "Input binding drift detected between authorization and execution " ++ [0x2014] ++
          Text.ofAscii " connector never invoked")) false id
    else .quiet w (.redeeming r (.start (.agent r.agentId) (r.redeemInput b.sha256)))

/-- The error says that a handler completed and its evidence was lost. -/
def degraded : Thrown → Bool
  | .broker _ message => Text.includes "Evidence persistence failed after successful handler execution" message
  | .other _ => false

/-- What follows the call of the broker. -/
def afterRedeem (w : World) (r : RunContext) (failOk finishOk : Bool) : Outcome → RunEffect
  | .returned executionId resultHash => .quiet w (.postChecking r executionId resultHash)
  | .threw e =>
    let a := r.action
    endWith w (w.platform.recordFailure failOk a.tenantId a.platformActionId a.stateVersion .executing
        (if degraded e then .indeterminate else .failed) (if degraded e then "EVIDENCE_DEGRADED" else "EXECUTION_FAILED")
        (thrownMessage e)) false
      fun p => p.finishRunQuietly finishOk a.tenantId r.executionId (if degraded e then .indeterminate else .finished)

/-- `finishRun`, whose failure is thrown. -/
def thenFinish (w : World) (ok : Bool) (r : RunContext) (next : World → RunEffect) : RunEffect :=
  match w.platform.finishRun ok r.action.tenantId r.executionId .finished with
  | .ok p => next { w with platform := p }
  | .error e => .quiet w (.done (.threw e))

/-- What follows the observation after the execution. -/
def afterPost (w : World) (r : RunContext) (executionId resultHash : Text) (vad resultOk finishOk verdictOk : Bool) :
    RunEffect :=
  let a := r.action
  let target := if a.request.requiresVerification then PlatformActionState.verifying else .completed
  match w.platform.recordExecutionResult resultOk a.tenantId a.platformActionId a.stateVersion executionId resultHash
      target with
  | .error e => .quiet w (.done (.threw e))
  | .ok (p, action) =>
    thenFinish { w with platform := p } finishOk r fun w =>
      if a.request.requiresVerification then
        if vad then .quiet w (.verifying action)
        else
          endWith w (w.platform.recordVerificationResult verdictOk action.tenantId action.platformActionId
            action.stateVersion "none" "UNAVAILABLE" .indeterminate (some "COMPONENT_UNAVAILABLE")) true id
      else .quiet w (.done (.returned action true))

/-- What follows the verdict. -/
def afterVerify (w : World) (action : PlatformAction) (atomId : Text) (finalState : VadFinalState) (ok : Bool) :
    RunEffect :=
  let record := fun target code =>
    w.platform.recordVerificationResult ok action.tenantId action.platformActionId action.stateVersion atomId
      finalState.name target code
  match finalState with
  | .accepted => endWith w (record .completed none) true id
  | .rejected => endWith w (record .failed (some "VERIFICATION_REJECTED")) true id
  | _ => endWith w (record .indeterminate (some "VERIFICATION_ESCALATED")) true id

/-- One piece of `run`; `none` when the answer is not to what the run asked. -/
def runStep (b : ExecutionBroker) (w : World) : RunPc → RunAnswer → Option RunEffect
  | .start principal actionId, .begin a => some (runBegin b w principal actionId a)
  | .preChecking r, .checked decision confirmed violations failOk finishOk =>
    some (afterCheck b w r decision confirmed violations failOk finishOk)
  | .preChecking _, .checkFailed => some (.quiet w (.done (.threw .foreign)))
  | .redeeming r (.done o), .redeemed failOk finishOk => some (afterRedeem w r failOk finishOk o)
  | .redeeming r pc, .redeem a =>
    (redeemStep b w.broker pc a).map fun e => ⟨{ w with broker := e.store }, .redeeming r e.pc, e.invoked⟩
  | .postChecking r executionId resultHash, .posted vad resultOk finishOk verdictOk =>
    some (afterPost w r executionId resultHash vad resultOk finishOk verdictOk)
  | .postChecking .., .postFailed => some (.quiet w (.done (.threw .foreign)))
  | .verifying action, .verified atomId finalState ok => some (afterVerify w action atomId finalState ok)
  | .verifying _, .verifyFailed => some (.quiet w (.done (.threw .foreign)))
  | _, _ => none

/-! ## What a piece can do -/

/-- The run is past the broker, or will never call it. -/
def RunPc.past : RunPc → Bool
  | .postChecking .. | .verifying _ | .done _ => true
  | _ => false

/-- The capability of a run was issued by its broker for the `ALLOW` of its action. -/
def IssuedFor (b : ExecutionBroker) (r : RunContext) : Prop :=
  ∃ decisionId random writes s, r.action.gateDecision = some ⟨decisionId, .allow⟩ ∧
    (issue b random writes s (.agent r.agentId) decisionId).result = .ok (r.token, r.capability)

/-- What a run that has claimed its execution knows: the row it holds a copy of is the
stored one and executing. -/
structure Claimed (b : ExecutionBroker) (w : World) (r : RunContext) : Prop where
  row : w.platform.actions.lookup r.action.key = some r.action
  executing : r.action.state = .executing
  issued : IssuedFor b r
  agent : r.action.request.agentId = r.agentId

/-- The kinds of pieces of a run. -/
inductive RunPiece (b : ExecutionBroker) (w : World) : RunPc → RunEffect → Prop where
  | claimed {principal : PlatformPrincipal} {actionId : Text} {w' : World} {r : RunContext} (h : Claimed b w' r) :
    RunPiece b w (.start principal actionId) (.quiet w' (.preChecking r))
  /-- The check came back with neither `TERMINATE` nor `HOLD`. -/
  | checked {r : RunContext} (hbound : computeInputHash b.sha256 r.action.request = r.action.inputHash) :
    RunPiece b w (.preChecking r) (.quiet w (.redeeming r (.start (.agent r.agentId) (r.redeemInput b.sha256))))
  | redeem {r : RunContext} {pc : Broker.Pc} {a : Broker.Answer} {e : Effect}
    (h : redeemStep b w.broker pc a = some e) :
    RunPiece b w (.redeeming r pc) ⟨{ w with broker := e.store }, .redeeming r e.pc, e.invoked⟩
  | past {pc pc' : RunPc} {w' : World} (h : pc'.past = true) : RunPiece b w pc (.quiet w' pc')

section
variable {b : ExecutionBroker} {w : World}

theorem RunPiece.endWith (pc : RunPc) (w' : World) (result : Except PlatformError (PlatformStore × PlatformAction)) (executed : Bool)
    (after : PlatformStore → PlatformStore) : RunPiece b w pc (endWith w' result executed after) := by
  unfold Platform.endWith
  split <;> exact .past rfl

theorem RunPiece.failAt (pc : RunPc) (w' : World) (ok : Bool) (a : PlatformAction) (source target : PlatformActionState)
    (code message : Text) : RunPiece b w pc (failAt w' ok a source target code message) := by
  unfold Platform.failAt
  split <;> exact .past rfl

theorem claimExecution_ok {s s' : PlatformStore} {ok : Bool} {tenantId actionId executionId : Text} {version : Nat}
    {a : PlatformAction} (h : s.claimExecution ok tenantId actionId version executionId = .ok (s', a)) :
    ∃ current, s.actions.lookup (tenantId, actionId) = some current ∧
      a = { current with state := .executing, stateVersion := current.stateVersion + 1 } ∧
      s'.actions.lookup a.key = some a := by
  unfold PlatformStore.claimExecution at h
  split at h
  · cases h
  · next p a' hupdate =>
    split at h
    · cases h
    · cases h
      obtain ⟨current, hcurrent, -, ha, rfl⟩ := PlatformStore.update_ok hupdate
      exact ⟨current, hcurrent, ha, PlatformStore.lookup_put _ _⟩

theorem runPiece_begin (principal : PlatformPrincipal) (actionId : Text) (a : RunBegin) :
    RunPiece b w (.start principal actionId) (runBegin b w principal actionId a) := by
  unfold runBegin
  split
  · exact .past rfl
  next agentId _ =>
  split
  · exact .past rfl
  split
  · exact .past rfl
  next action haction =>
  split
  · exact .past rfl
  next hagent =>
  split
  · exact .past rfl
  split
  · next decisionId hgate =>
    simp only
    split
    · exact .failAt ..
    next token capability hissued =>
    split
    · exact .past rfl
    next p₂ action₂ hcapability =>
    split
    · exact .failAt ..
    next sessionId _ =>
    split
    · exact .past rfl
    next p₃ action₃ hsession =>
    split
    · exact .past rfl
    next p₄ action₄ hclaim =>
    -- each write found the row the one before it had stored
    have hrow₁ := PlatformStore.get_ok haction
    have hkey : action.key = (principal.tenantId, actionId) := w.platform.actions_key _ _ hrow₁
    obtain ⟨current₂, hrow₂, -, rfl, rfl⟩ := PlatformStore.update_ok hcapability
    have htenant : action.tenantId = principal.tenantId := congrArg Prod.fst hkey
    have h₂ : current₂ = action := by
      rw [htenant] at hrow₂
      exact Option.mem_unique hrow₂ hrow₁
    subst h₂
    have hid : current₂.platformActionId = actionId := congrArg Prod.snd hkey
    obtain ⟨current₃, hrow₃, -, rfl, rfl⟩ := PlatformStore.update_ok hsession
    have h₃ := PlatformStore.lookup_put_inj (by rw [← hid]; rfl) hrow₃
    subst h₃
    obtain ⟨current₄, hrow₄, rfl, hrow⟩ := claimExecution_ok hclaim
    have h₄ := PlatformStore.lookup_put_inj (by rw [← hid]; rfl) hrow₄
    subst h₄
    exact .claimed ⟨hrow, rfl, ⟨decisionId, _, _, _, hgate, hissued⟩, not_not.1 hagent⟩
  · exact .past rfl

theorem runPiece_check (r : RunContext) (decision : Option Sentinel.SentinelDecisionType) (confirmed : Bool) (violations : Text)
    (failOk finishOk : Bool) :
    RunPiece b w (.preChecking r) (afterCheck b w r decision confirmed violations failOk finishOk) := by
  unfold afterCheck
  simp only
  split
  · exact .endWith ..
  · exact .endWith ..
  · split
    · exact .endWith ..
    · next hbound => exact .checked (not_not.1 hbound)

/-- The broker is called only when the check came back with neither `TERMINATE` nor `HOLD`. -/
theorem afterCheck_stops {r : RunContext} {decision : Option Sentinel.SentinelDecisionType} {confirmed : Bool} {violations : Text}
    {failOk finishOk : Bool} (h : decision = some .terminate ∨ decision = some .hold) :
    (afterCheck b w r decision confirmed violations failOk finishOk).pc.past = true := by
  rcases h with rfl | rfl
  · simp only [afterCheck, endWith]
    split <;> rfl
  · simp only [afterCheck, endWith]
    split <;> rfl

theorem runPiece_redeemed (r : RunContext) (failOk finishOk : Bool) (o : Outcome) :
    RunPiece b w (.redeeming r (.done o)) (afterRedeem w r failOk finishOk o) := by
  cases o with
  | returned executionId resultHash => exact .past rfl
  | threw e => exact .endWith ..

theorem runPiece_post (r : RunContext) (executionId resultHash : Text) (vad resultOk finishOk verdictOk : Bool) :
    RunPiece b w (.postChecking r executionId resultHash)
      (afterPost w r executionId resultHash vad resultOk finishOk verdictOk) := by
  simp only [afterPost, thenFinish]
  split
  · exact .past rfl
  · split
    · split
      · split
        · exact .past rfl
        · exact .endWith ..
      · exact .past rfl
    · exact .past rfl

theorem runPiece_verify (action : PlatformAction) (atomId : Text) (finalState : VadFinalState) (ok : Bool) :
    RunPiece b w (.verifying action) (afterVerify w action atomId finalState ok) := by
  cases finalState <;> exact .endWith ..

/-- **Inversion of a piece of `run`.** -/
theorem runPiece_of_step {pc : RunPc} {a : RunAnswer} {e : RunEffect} (h : runStep b w pc a = some e) :
    RunPiece b w pc e := by
  unfold runStep at h
  split at h
  · cases h
    exact runPiece_begin ..
  · cases h
    exact runPiece_check ..
  · cases h
    exact .past rfl
  · cases h
    exact runPiece_redeemed ..
  · obtain ⟨e', he', rfl⟩ := Option.map_eq_some_iff.1 h
    exact .redeem he'
  · cases h
    exact runPiece_post ..
  · cases h
    exact .past rfl
  · cases h
    exact runPiece_verify ..
  · cases h
    exact .past rfl
  · cases h

end

/-! ## One run among others -/

inductive RunLabel where
  | own (a : RunAnswer)
  | env

/-- A step of the run, or one of the rest of the system. -/
inductive RunStep (b : ExecutionBroker) (env : RunPc → World → World → Prop) :
    World × RunPc → RunLabel → World × RunPc → Prop where
  | own {w : World} {pc : RunPc} {a : RunAnswer} {e : RunEffect} (h : runStep b w pc a = some e) :
    RunStep b env (w, pc) (.own a) (e.world, e.pc)
  | env {w w' : World} {pc : RunPc} (henv : env pc w w') : RunStep b env (w, pc) .env (w', pc)

/-- A run that has the process to itself, given the answers it gets. -/
def replayRun (b : ExecutionBroker) : World × RunPc → List RunAnswer → Option (World × RunPc) :=
  replay fun x a => (runStep b x.1 x.2 a).map fun e => (e.world, e.pc)

/-- What a test says of a replayed run it says of the end of a run among others. -/
theorem runRun_of_test (b : ExecutionBroker) (env : RunPc → World → World → Prop) (x : World × RunPc)
    (as : List RunAnswer) (test : World × RunPc → Bool) (h : (replayRun b x as).any test = true) :
    ∃ labels y, Run (RunStep b env) x labels y ∧ test y = true := by
  obtain ⟨y, hrun, htest⟩ := run_of_test h
  obtain ⟨labels, hrun⟩ := hrun.relabel (RunStep b env) fun x a y hxy => by
    obtain ⟨e, he, rfl⟩ := Option.map_eq_some_iff.1 hxy
    exact ⟨_, .own he⟩
  exact ⟨labels, y, hrun, htest⟩

/-! ## An action for examples -/

def readerConnector : ToolConnector := ⟨some "t", "reader", "report.read", ["execute"], false⟩

/-- The broker of the examples, with the registry of one connector. -/
def readerBroker : ExecutionBroker := { sampleBroker handlerTool with registry := buildToolRegistry [readerConnector] "t" }

def sampleRequest : PlatformActionRequestInput where
  requestId := "r1"
  tenantId := "t"
  agentId := "agent_1"
  action := "report.read"
  tool := "reader"
  operation := "execute"
  resource := "/report"
  input := ⟨[("page", .str "1")], by decide⟩
  requiresVerification := false

/-- An action the Gate allowed. -/
def sampleAction : PlatformAction where
  tenantId := "t"
  platformActionId := "pa1"
  correlationId := "corr1"
  inputHash := computeInputHash readerBroker.sha256 sampleRequest
  request := sampleRequest
  state := .authorized
  stateVersion := 2
  gateDecision := some ⟨"dec_1", .allow⟩
  capabilityId := none
  sentinelSessionId := none
  executionId := none
  resultHash := none
  vadAtomId := none
  vadFinalState := none
  errorCode := none
  errorMessage := none

def sampleWorld : World where
  broker := { sampleStore with capabilities := ∅ }
  platform := PlatformStore.put ⟨∅, ∅, by simp⟩ sampleAction

def sampleAgent : PlatformPrincipal := ⟨.agent, "t", some "agent_1"⟩

/-- A beginning in which everything goes well. -/
def sampleRunBegin : RunBegin :=
  ⟨⟨"b1", "b2", "e1", "c1", "n"⟩, ⟨true, true, true⟩, true, true, .ok "s1", true, true, "x1"⟩

def sampleBegin : RunAnswer := .begin sampleRunBegin

/-- A check that came back with `CONTINUE`, and the call of the broker up to the connector. -/
def sampleCheck : RunAnswer := .checked (some .continue) false [] true true

/-- The tool is invoked next, with another input than the action's. -/
def invokesOther (x : World × RunPc) : Bool :=
  match x.2 with
  | .redeeming r (.preparing _ []) =>
    (runStep readerBroker x.1 x.2 (.redeem (.go true))).any fun e =>
      e.invoked.any fun inv => inv.input.stringify ≠ r.action.request.input.toValue.stringify
  | _ => false

/-- The run of the sample action reaches its connector, which does not get the input of the request. -/
theorem readerRun_invokes (env : RunPc → World → World → Prop) :
    ∃ labels w r c, Run (RunStep readerBroker env) (sampleWorld, .start sampleAgent "pa1") labels
        (w, .redeeming r (.preparing c [])) ∧
      ∃ e inv, runStep readerBroker w (.redeeming r (.preparing c [])) (.redeem (.go true)) = some e ∧
        e.invoked = some inv ∧ inv.input ≠ r.action.request.input.toValue := by
  obtain ⟨labels, ⟨w, pc⟩, hrun, htest⟩ := runRun_of_test readerBroker env
    (sampleWorld, .start sampleAgent "pa1") [sampleBegin, sampleCheck, .redeem (.go true), .redeem (.go true)]
    invokesOther (by decide +kernel)
  simp only [invokesOther] at htest
  split at htest
  · next r c =>
    obtain ⟨e, he, htest⟩ := (Option.any_eq_true ..).1 htest
    obtain ⟨inv, hinv, htest⟩ := (Option.any_eq_true ..).1 htest
    refine ⟨labels, w, r, c, hrun, e, inv, he, hinv, fun heq => ?_⟩
    rw [heq] at htest
    exact of_decide_eq_true htest rfl
  · cases htest

end Tna.Platform
