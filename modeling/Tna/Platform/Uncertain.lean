import Tna.Client.Stdio
import Tna.Platform.Classified

/-!
# Tool calls of unknown outcome

The handler of a governed tool is its MCP connector. A call that was settled without a
response is an `McpError` for the connector, an error like any other for the broker, and
`FAILED` for the platform, whatever the code of the error was.
-/

namespace Tna.Platform

open Tna.Js Tna.Lib Tna.Broker Tna.Client

/-! ## The handler of a governed tool -/

/-- The end of `execute` of `buildMcpConnector`: the output of a tool call. -/
def connectorOutput (s : Client.Settlement) : Except McpError Value :=
  match callTool s with
  | .error e => .error e
  | .ok result =>
    if result.isError then
      .error ⟨.protocolError, Text.ofAscii "MCP tool returned an error: " ++ result.content.stringify.take 500⟩
    else .ok result.content

/-- What the broker gets from the handler. An `McpError` carries no result hash. -/
def handlerAnswer (sha256 : Text → Text) (s : Client.Settlement) : Broker.Answer :=
  match connectorOutput s with
  | .ok output => .returned (some (sha256 output.canonical))
  | .error _ => .failed (.other none)

/-- The step in which the broker gets the answer of a call that was settled without a response. -/
def AnswersLost (b : ExecutionBroker) (step : Traced) : Prop :=
  ∃ r c leases call failure, ToolCall.settlement call = some (.lost failure) ∧
    step = ⟨.redeeming r (.handling c leases), .own (.redeem (handlerAnswer b.sha256 (.lost failure)))⟩

/-- The tool was called, and the effect of the call is not known. -/
def Uncertain (b : ExecutionBroker) (trace : List Traced) : Prop := ∃ step ∈ trace, AnswersLost b step

/-- The state an action is recorded in. -/
def PlatformStore.recorded (s : PlatformStore) (key : Text × Text) : Option PlatformActionState :=
  (s.actions.lookup key).map PlatformAction.state

/-! ## How the error travels -/

/-- The broker ends with an error that does not say that evidence was lost. -/
def Plain : Outcome → Prop
  | .returned .. => False
  | .threw e => degraded e = false

/-- The broker is past the call of its handler, and has only plain errors to report. -/
def BrokerFails : Broker.Pc → Prop
  | .settling _ _ (.failed _) => True
  | .releasing _ o | .done o => Plain o
  | _ => False

/-- The run is past the call of the handler, and was not told that its outcome is unknown. -/
def Fails : RunPc → Prop
  | .redeeming _ pc => BrokerFails pc
  | .done _ => True
  | _ => False

section
variable {b : ExecutionBroker} {env : RunPc → World → World → Prop} {w : World} {trace : List Traced}

theorem handlerAnswer_lost (sha256 : Text → Text) (failure : TransportFailure) :
    handlerAnswer sha256 (.lost failure) = .failed (.other none) := by
  unfold handlerAnswer connectorOutput callTool
  by_cases hexit : failure.reason = .exit
  · simp only [if_pos hexit]
  · simp only [if_neg hexit]

theorem brokerFails_finally {leases : List Text} {o : Outcome} (h : Plain o) : BrokerFails (finallyPc leases o) := by
  unfold finallyPc
  split
  · exact h
  · exact h

theorem brokerFails_redeemStep {s : Store} {pc : Broker.Pc} {a : Broker.Answer} {e : Effect} (h : redeemStep b s pc a = some e)
    (hpc : BrokerFails pc) : BrokerFails e.pc := by
  cases pc with
  | settling c leases settlement =>
    cases settlement with
    | indeterminate => cases hpc
    | failed resultHash =>
      cases a with
      | go storeOk =>
        simp only [redeemStep] at h
        split at h
        · cases h
          exact brokerFails_finally (show degraded _ = false by decide)
        · cases h
          exact brokerFails_finally (show degraded _ = false by decide)
      | _ => cases h
  | releasing leases o =>
    cases a with
    | released ok =>
      cases h
      cases ok with
      | true => exact hpc
      | false => exact rfl
    | _ => cases h
  | done o => cases a <;> cases h
  | _ => cases hpc

theorem afterRedeem_threw (w : World) (r : RunContext) (failOk finishOk : Bool) (e : Thrown) :
    ∃ o, (afterRedeem w r failOk finishOk (.threw e)).pc = .done o := by
  simp only [afterRedeem, endWith]
  split
  · exact ⟨_, rfl⟩
  · exact ⟨_, rfl⟩

theorem fails_own {pc : RunPc} {a : RunAnswer} {e : RunEffect} (h : runStep b w pc a = some e) (hpc : Fails pc) : Fails e.pc := by
  cases pc with
  | redeeming r bpc =>
    cases a with
    | redeemed failOk finishOk =>
      cases bpc with
      | done o =>
        cases h
        cases o with
        | returned => cases hpc
        | threw thrown =>
          obtain ⟨o, ho⟩ := afterRedeem_threw w r failOk finishOk thrown
          rw [ho]
          trivial
      | _ => cases h
    | redeem a =>
      have h : (redeemStep b w.broker bpc a).map
          (fun e => (⟨{ w with broker := e.store }, .redeeming r e.pc, e.invoked⟩ : RunEffect)) = some e := by
        cases bpc <;> exact h
      obtain ⟨e', he', rfl⟩ := Option.map_eq_some_iff.1 h
      exact brokerFails_redeemStep he' hpc
    | _ => cases bpc <;> cases h
  | done o => cases a <;> cases h
  | _ => cases hpc

/-- The step that answers such a call. -/
theorem fails_of_lost {x y : World × RunPc} {step : Traced} (h : TracedStep b env x step y) (hlost : AnswersLost b step) :
    Fails y.2 := by
  obtain ⟨r, c, leases, call, failure, -, rfl⟩ := hlost
  obtain ⟨w, pc⟩ := x
  obtain ⟨hpc, hstep⟩ := h
  obtain rfl : _ = pc := hpc
  cases hstep with
  | own hown =>
    rw [handlerAnswer_lost] at hown
    cases hown
    trivial

/-- **After a call of unknown outcome a run fails**, whatever else happens. -/
theorem fails_of_run {x₀ x : World × RunPc} (hrun : Run (TracedStep b env) x₀ trace x) (huncertain : Uncertain b trace) :
    Fails x.2 := by
  refine hrun.trace_invariant (I := fun trace x => Uncertain b trace → Fails x.2) ?_ ?_ huncertain
  · rintro trace x step y hstep ih ⟨lost, hmem, hlost⟩
    rcases List.mem_append.1 hmem with hmem | hmem
    · have hx : Fails x.2 := ih ⟨lost, hmem, hlost⟩
      obtain ⟨pc, label⟩ := step
      obtain ⟨rfl, hstep⟩ := hstep
      cases hstep with
      | own hown => exact fails_own hown hx
      | env _ => exact hx
    · rw [List.mem_singleton.1 hmem] at hlost
      exact fails_of_lost hstep hlost
  · rintro ⟨_, hmem, -⟩
    exact absurd hmem List.not_mem_nil

end

/-! ## What is recorded -/

section
variable {b : ExecutionBroker} {env : RunPc → World → World → Prop} {w₀ w : World} {principal : PlatformPrincipal}
  {actionId : Text} {trace : List Traced} {r : RunContext} {o : Outcome} {failOk finishOk : Bool} {effect : RunEffect}

theorem recordFailure_recorded {s s' : PlatformStore} {ok : Bool} {a action : PlatformAction} {target : PlatformActionState}
    {code message : Text}
    (h : s.recordFailure ok a.tenantId a.platformActionId a.stateVersion .executing target code message = .ok (s', action)) :
    s.recorded a.key = some .executing ∧ s'.recorded a.key = some target ∧ action.state = target := by
  obtain ⟨current, hrow, hguard, rfl, rfl⟩ := PlatformStore.update_ok h
  have hkey : current.key = a.key := s.actions_key _ _ hrow
  refine ⟨?_, ?_, rfl⟩
  · split at hguard
    · cases hguard
    · next hexpects =>
      rw [PlatformStore.recorded, show a.key = (a.tenantId, a.platformActionId) from rfl, hrow, Option.map_some,
        (PlatformStore.expects_none hexpects).1]
  · rw [PlatformStore.recorded, ← hkey]
    exact congrArg (Option.map PlatformAction.state) (PlatformStore.lookup_put s _)

/-- **A call of unknown outcome is recorded `FAILED`**, if it is recorded at all; otherwise the row stays as it is. -/
theorem failed_of_uncertain
    (hrun : Run (TracedStep b env) (w₀, .start principal actionId) trace (w, .redeeming r (.done o)))
    (huncertain : Uncertain b trace)
    (hstep : runStep b w (.redeeming r (.done o)) (.redeemed failOk finishOk) = some effect) :
    (w.platform.recorded r.action.key = some .executing ∧ effect.world.platform.recorded r.action.key = some .failed ∧
      ∃ action, effect.pc = .done (.returned action false) ∧ action.state = .failed) ∨
    effect.world.platform.recorded r.action.key = w.platform.recorded r.action.key := by
  have hfails : Plain o := fails_of_run hrun huncertain
  cases hstep
  cases o with
  | returned => cases hfails
  | threw e =>
    have hplain : degraded e = false := hfails
    simp only [afterRedeem, endWith, hplain]
    split
    · next p action hrecord =>
      obtain ⟨hbefore, hafter, hstate⟩ := recordFailure_recorded hrecord
      refine .inl ⟨hbefore, ?_, action, rfl, hstate⟩
      simp only [PlatformStore.recorded, RunEffect.quiet]
      rw [PlatformStore.finishRunQuietly_actions]
      exact hafter
    · exact .inr rfl

/-- **Tool calls of unknown outcome.** Where a call of a governed tool was settled without a response, the run never records its
action `INDETERMINATE`: it is so only when it was before. -/
theorem uncertain_indeterminate_iff
    (hrun : Run (TracedStep b env) (w₀, .start principal actionId) trace (w, .redeeming r (.done o)))
    (huncertain : Uncertain b trace)
    (hstep : runStep b w (.redeeming r (.done o)) (.redeemed failOk finishOk) = some effect) :
    effect.world.platform.recorded r.action.key = some .indeterminate ↔
      w.platform.recorded r.action.key = some .indeterminate := by
  rcases failed_of_uncertain hrun huncertain hstep with ⟨hbefore, hafter, -⟩ | hsame
  · rw [hbefore, hafter]
    simp
  · rw [hsame]

end

/-! ## A child that dies in a call -/

def childExit : TransportFailure := ⟨.exit, "MCP server process exited (code 1)"⟩

/-- A call that is written, and whose child then exits. -/
def callOfDyingChild : ToolCall := ⟨.spawned, [.gone childExit]⟩

/-- The run awaits its handler, without leases, and its action is executing. -/
def awaitsHandler (x : World × RunPc) : Bool :=
  match x.2 with
  | .redeeming r (.handling _ []) => x.1.platform.recorded r.action.key = some .executing
  | _ => false

theorem run_of_dying_child : ∃ trace w r o effect,
    Run (TracedStep readerBroker fun _ _ _ => False) (sampleWorld, .start sampleAgent "pa1") trace (w, .redeeming r (.done o)) ∧
    Uncertain readerBroker trace ∧ runStep readerBroker w (.redeeming r (.done o)) (.redeemed true true) = some effect ∧
    w.platform.recorded r.action.key = some .executing := by
  obtain ⟨labels, ⟨w, pc⟩, hrun, htest⟩ := runRun_of_test readerBroker (fun _ _ _ => False)
    (sampleWorld, .start sampleAgent "pa1") answersToHandler awaitsHandler (by decide +kernel)
  unfold awaitsHandler at htest
  split at htest
  swap
  · cases htest
  next r c hpc =>
  obtain rfl : pc = _ := hpc
  obtain ⟨trace, hrun⟩ := hrun.relabel (TracedStep readerBroker fun _ _ _ => False) fun x l y h => ⟨⟨x.2, l⟩, rfl, h⟩
  let answer : RunAnswer := .redeem (handlerAnswer readerBroker.sha256 (.lost childExit))
  let lost : Traced := ⟨.redeeming r (.handling c []), .own answer⟩
  have hanswer : runStep readerBroker w (.redeeming r (.handling c [])) answer =
      some (.quiet w (.redeeming r (.settling c [] (.failed none)))) := rfl
  have hlost : TracedStep readerBroker (fun _ _ _ => False) (w, .redeeming r (.handling c [])) lost
      (w, .redeeming r (.settling c [] (.failed none))) := ⟨rfl, .own hanswer⟩
  let finished : World := { w with broker := w.broker.record c.payload .failed "Protected handler failed" none none }
  have hsettled : runStep readerBroker w (.redeeming r (.settling c [] (.failed none))) (.redeem (.go true)) =
      some (.quiet finished (.redeeming r (.done (.threw (.broker 500 "Handler failed"))))) := rfl
  have hfinish : TracedStep readerBroker (fun _ _ _ => False) (w, .redeeming r (.settling c [] (.failed none)))
      ⟨.redeeming r (.settling c [] (.failed none)), .own (.redeem (.go true))⟩
      (finished, .redeeming r (.done (.threw (.broker 500 "Handler failed")))) := ⟨rfl, .own hsettled⟩
  refine ⟨_, _, r, _, _, (hrun.snoc hlost).snoc hfinish, ?_, rfl, of_decide_eq_true htest⟩
  refine ⟨lost, List.mem_append_left _ (List.mem_append_right _ (List.mem_singleton_self _)), ?_⟩
  exact ⟨r, c, [], callOfDyingChild, childExit, rfl, rfl⟩

theorem uncertain_indeterminate_iff_exit : ∃ trace w r o effect,
    Run (TracedStep readerBroker fun _ _ _ => False) (sampleWorld, .start sampleAgent "pa1") trace (w, .redeeming r (.done o)) ∧
    Uncertain readerBroker trace ∧ runStep readerBroker w (.redeeming r (.done o)) (.redeemed true true) = some effect ∧
    effect.world.platform.recorded r.action.key ≠ some .indeterminate := by
  obtain ⟨trace, w, r, o, effect, hrun, huncertain, hstep, hbefore⟩ := run_of_dying_child
  refine ⟨trace, w, r, o, effect, hrun, huncertain, hstep, ?_⟩
  rw [Ne, uncertain_indeterminate_iff hrun huncertain hstep, hbefore]
  decide

/-- The child exits after the call was written, and the action is not recorded `INDETERMINATE`. -/
theorem uncertain_not_indeterminate :
    ¬ ∀ (b : ExecutionBroker) (env : RunPc → World → World → Prop) (w₀ w : World) (principal : PlatformPrincipal)
      (actionId : Text) (trace : List Traced) (r : RunContext) (o : Outcome) (failOk finishOk : Bool) (effect : RunEffect),
      Run (TracedStep b env) (w₀, .start principal actionId) trace (w, .redeeming r (.done o)) → Uncertain b trace →
      runStep b w (.redeeming r (.done o)) (.redeemed failOk finishOk) = some effect →
      effect.world.platform.recorded r.action.key = some .indeterminate := by
  intro h
  obtain ⟨trace, w, r, o, effect, hrun, huncertain, hstep, hbefore⟩ := run_of_dying_child
  have hafter := h _ _ _ _ _ _ trace r o true true effect hrun huncertain hstep
  rcases failed_of_uncertain hrun huncertain hstep with ⟨-, hfailed, -⟩ | hsame
  · rw [hfailed] at hafter
    cases hafter
  · rw [hsame, hbefore] at hafter
    cases hafter

end Tna.Platform
