import Tna.Platform.Run

/-!
# What a connector receives

Between the stored request and the connector lie the Gate's request, the capability,
the input of `redeem` and the context of the tool handler. The broker parses the
input of a tool only when it has registered metadata for it; every other tool,
that is every connector but the demo deployment, is handed an empty object.
-/

namespace Tna.Platform

open Tna.Js Tna.Gate Tna.Lib Tna.Broker

/-- What `execute` is called with. -/
structure ToolConnectorContext where
  platformActionId : Text
  executionId : Text
  agentId : Text
  decisionId : Text
  tenantId : Text
  operation : Text
  resource : Text
  destination : Option Text
  input : Value

/-- The handler `buildToolRegistry` registers. It passes the decision's id for the action's. -/
def connectorContext (tenantId : Text) (inv : Invocation) : ToolConnectorContext where
  platformActionId := inv.decisionId
  executionId := inv.executionId
  agentId := inv.agentId
  decisionId := inv.decisionId
  tenantId := tenantId
  operation := inv.operation
  resource := inv.resource
  destination := inv.destination
  input := inv.input

/-- No operation of the platform store changes the request of an action, nor its hash. -/
def KeepsRequests (w w' : World) : Prop :=
  ∀ key a, w.platform.actions.lookup key = some a →
    ∃ a', w'.platform.actions.lookup key = some a' ∧ a'.request = a.request ∧ a'.inputHash = a.inputHash

/-- The stored row still has the request the run goes by. -/
def Stored (w : World) (a : PlatformAction) : Prop :=
  ∃ row, w.platform.actions.lookup a.key = some row ∧ row.request = a.request ∧ row.inputHash = a.inputHash

theorem Stored.keep {w w' : World} {a : PlatformAction} (h : Stored w a) (hkeep : KeepsRequests w w') : Stored w' a := by
  obtain ⟨row, hrow, hrequest, hhash⟩ := h
  obtain ⟨row', hrow', hrequest', hhash'⟩ := hkeep _ _ hrow
  exact ⟨row', hrow', hrequest'.trans hrequest, hhash'.trans hhash⟩

/-- What is known of the binding at each counter. -/
def BoundAt (b : ExecutionBroker) (x : World × RunPc) : Prop :=
  match x.2 with
  | .preChecking r => Stored x.1 r.action ∧ IssuedFor b r
  | .redeeming r pc =>
    (Stored x.1 r.action ∧ IssuedFor b r) ∧ computeInputHash b.sha256 r.action.request = r.action.inputHash ∧
      (∀ agent input, pc = .start agent input → input = r.redeemInput b.sha256) ∧
      ∀ c, pc.call? = some c → ∃ g agent, Passed b g agent (r.redeemInput b.sha256) c
  | _ => True

section
variable {b : ExecutionBroker} {connectors : List ToolConnector} {tenantId : Text}

variable {pc : RunPc} {w : World} {sha256 : Text → Text} {expected : Text} {i : RedeemInput} {parsed : Option ParsedToolInput}
  {tool : ToolDefinition} {agent : Principal} {c : RedeemCall} {g : GateState} {r : RunContext}

theorem boundAt_of_past (h : pc.past = true) : BoundAt b (w, pc) := by
  cases pc <;> trivial

/-- A piece of the run keeps it. -/
theorem boundAt_runStep {a : RunAnswer} {e : RunEffect} (h : runStep b w pc a = some e) (hw : BoundAt b (w, pc)) :
    BoundAt b (e.world, e.pc) := by
  cases runPiece_of_step h with
  | claimed hclaimed => exact ⟨⟨_, hclaimed.row, rfl, rfl⟩, hclaimed.issued⟩
  | checked hbound =>
    refine ⟨hw, hbound, ?_, ?_⟩
    · intro agent input hstart
      cases hstart
      rfl
    · intro c hc
      cases hc
  | past hpast => exact boundAt_of_past hpast
  | @redeem r pc a e hredeem =>
    obtain ⟨hknown, hbound, hstart, hcall⟩ := hw
    refine ⟨hknown, hbound, ?_, ?_⟩
    · intro agent input hpc
      cases piece_of_step hredeem with
      | ends hends _ _ =>
        rw [show (Effect.quiet _ _).pc = _ from rfl] at hpc
        subst hpc
        cases hends
      | advance hadv =>
        have := hadv.call?
        rw [hpc] at this
        cases this
    · intro c hc
      cases advance_of_step hredeem hc with
      | checked hp => exact ⟨_, _, hstart _ _ rfl ▸ hp⟩
      | consumed _ => exact hcall c rfl
      | leased _ => exact hcall c rfl
      | requested _ => exact hcall c rfl
      | handled _ => exact hcall c rfl
      | ran => exact hcall c rfl

theorem boundAt_step (x : World × RunPc) (l : RunLabel) (y : World × RunPc)
    (h : RunStep b (fun _ => KeepsRequests) x l y) (hx : BoundAt b x) : BoundAt b y := by
  cases h with
  | own h => exact boundAt_runStep h hx
  | @env w w' pc henv =>
    cases pc with
    | preChecking r => exact ⟨hx.1.keep henv, hx.2⟩
    | redeeming r pc => exact ⟨⟨hx.1.1.keep henv, hx.1.2⟩, hx.2⟩
    | _ => trivial

/-! ## The two kinds of tools -/

/-- What the connector receives, given what the run knows. The demo deployment gets the
stored input, and its hash is the one its capability binds; any other tool gets an
empty object, under a capability for the hash of `null`. -/
structure Delivered (b : ExecutionBroker) (connectors : List ToolConnector) (r : RunContext)
    (ctx : ToolConnectorContext) : Prop where
  connector : ∃ c ∈ connectors, c.tool = r.action.request.tool ∧ ctx.operation ∈ brokerAllowedOperations c.action
  resource : ctx.resource = r.action.request.resource
  operation : ctx.operation = brokerOperation r.action.request.action
  bound : computeInputHash b.sha256 r.action.request = r.action.inputHash
  demo : r.action.request.tool = demoTool → ctx.input = r.action.request.input.toValue ∧
    r.capability.inputHash = b.sha256 r.action.request.input.toValue.canonical
  other : r.action.request.tool ≠ demoTool → ctx.input = .obj [] ∧ r.capability.inputHash = nullHash b.sha256

/-- What is parsed of an input is the input. -/
theorem parseAndHash_some {v : JsValue} {parsed : ParsedToolInput} (h : parseAndHash sha256 v = some parsed) :
    parsed.input.toValue = v.val ∧ parsed.inputHash = sha256 v.val.canonical := by
  unfold parseAndHash at h
  split at h
  · cases h
  split at h
  · next o release hparse =>
    cases h
    have hobject : v.asObject? = some o := by
      unfold parseDemoInput at hparse
      split at hparse
      · cases hparse
      next o' ho' =>
      split at hparse
      · cases hparse
      · split at hparse
        · cases hparse
          exact ho'
        · cases hparse
    have hval : o.toValue = v.val := by
      unfold JsValue.asObject? at hobject
      split at hobject
      · cases hobject
        rfl
      · cases hobject
    exact ⟨hval, by rw [hval]⟩
  · cases h

theorem parseRedeemInput_demo (htool : tool.name = demoTool) (h : parseRedeemInput sha256 i tool expected = some parsed) :
    ∃ p, parsed = some p ∧ p.input.toValue = i.input.val ∧ expected = sha256 i.input.val.canonical := by
  unfold parseRedeemInput at h
  rw [if_pos htool] at h
  split at h
  · next p hp =>
    split at h
    · next hhash =>
      cases h
      obtain ⟨hinput, hcanonical⟩ := parseAndHash_some hp
      exact ⟨p, rfl, hinput, hhash.2.1.symm.trans hcanonical⟩
    · cases h
  · cases h

theorem parseRedeemInput_other (htool : tool.name ≠ demoTool) (h : parseRedeemInput sha256 i tool expected = some parsed) :
    parsed = none := by
  unfold parseRedeemInput at h
  rw [if_neg htool] at h
  exact (Option.some.inj h).symm

theorem parseDecisionInput_other {d : Decision} (htool : tool.name ≠ demoTool)
    (h : parseDecisionInput sha256 d tool = .ok parsed) : parsed = none := by
  unfold parseDecisionInput at h
  rw [if_neg htool] at h
  cases h
  rfl

/-- A call under the token of a run is under its capability. -/
theorem payload_of_passed (hissued : IssuedFor b r) (hp : Passed b g agent (r.redeemInput b.sha256) c) :
    c.payload = r.capability := by
  obtain ⟨decisionId, random, writes, s, -, hresult⟩ := hissued
  obtain ⟨-, -, -, -, -, -, htoken, -⟩ := issue_ok hresult
  refine b.codec.open_sign _ _ ?_
  rw [← htoken]
  exact openToken_of_verify hp.verified

theorem delivered_of_passed (hb : b.registry = buildToolRegistry connectors tenantId) (hissued : IssuedFor b r)
    (hbound : computeInputHash b.sha256 r.action.request = r.action.inputHash)
    (hp : Passed b g agent (r.redeemInput b.sha256) c) : Delivered b connectors r (connectorContext tenantId c.invocation) := by
  have hpayload := payload_of_passed hissued hp
  have hbinds := hp.bound
  simp only [binds, Bool.decide_and, Bool.and_eq_true, decide_eq_true_eq] at hbinds
  obtain ⟨hname, htool, hresource, hoperation, -, -, hallowed⟩ := hbinds
  obtain ⟨connector, hmem, hconnector, hdefinition⟩ := buildToolRegistry_some (hb ▸ hp.registered)
  have hrequest : c.tool.name = r.action.request.tool := hname.symm.trans htool
  refine ⟨⟨connector, hmem, hconnector, ?_⟩, hresource, hoperation, hbound, fun hdemo => ?_, fun hother => ?_⟩
  · rw [hdefinition] at hallowed
    exact hallowed
  · obtain ⟨parsed, hparsed, hinput, hhash⟩ := parseRedeemInput_demo (hrequest.trans hdemo) hp.parsed
    refine ⟨?_, ?_⟩
    · simp only [connectorContext, RedeemCall.invocation, hparsed]
      exact hinput
    · rw [← hpayload, hhash]
      rfl
  · have hparsed := parseRedeemInput_other (fun h => hother (hrequest.symm.trans h)) hp.parsed
    refine ⟨?_, ?_⟩
    · simp only [connectorContext, RedeemCall.invocation, hparsed]
    · obtain ⟨decisionId, random, writes, s, -, hresult⟩ := hissued
      obtain ⟨d, tool, parsed, -, hregistered, hparse, -, hinput⟩ := issue_ok hresult
      have hdecided : d.request.tool = r.action.request.tool := by
        have := congrArg CapabilityInput.tool hinput
        rw [← hpayload] at this
        exact this.symm.trans htool
      obtain ⟨connector', -, hconnector', hdefinition'⟩ := buildToolRegistry_some (hb ▸ hregistered)
      have hname' : tool.name ≠ demoTool := by
        rw [hdefinition']
        exact fun h => hother (hdecided.symm.trans (hconnector'.symm.trans h))
      have hnone := parseDecisionInput_other hname' hparse
      subst hnone
      exact congrArg CapabilityInput.inputHash hinput

/-- **What a connector receives.** Whenever a run invokes a connector it does so with the
stored resource, the broker's operation of the stored action, and the input its kind
of tool is handed, and the hash bound when the action was received is still that of
the stored request. -/
theorem connector_receives (hb : b.registry = buildToolRegistry connectors tenantId) {w₀ w : World} {pc : RunPc}
    {principal : PlatformPrincipal} {actionId : Text} {labels : List RunLabel} {a : RunAnswer} {e : RunEffect}
    {inv : Invocation} (hrun : Run (RunStep b fun _ => KeepsRequests) (w₀, .start principal actionId) labels (w, pc))
    (h : runStep b w pc a = some e) (hinv : e.invoked = some inv) :
    ∃ r bpc, pc = .redeeming r bpc ∧ Stored w r.action ∧
      Delivered b connectors r (connectorContext tenantId inv) := by
  have hx : BoundAt b (w, pc) := hrun.invariant boundAt_step trivial
  cases runPiece_of_step h with
  | claimed _ => cases hinv
  | checked _ => cases hinv
  | past _ => cases hinv
  | @redeem r bpc a e hredeem =>
    obtain ⟨⟨hstored, hissued⟩, hbound, -, hcall⟩ := hx
    obtain ⟨c, hc, rfl⟩ := invoked_call? hredeem hinv
    refine ⟨r, bpc, rfl, hstored, ?_⟩
    have hcarried : bpc.call? = some c := by
      cases advance_of_step hredeem hc with
      | handled _ => rfl
      | ran => rfl
      | _ => cases hinv
    obtain ⟨g, agent, hp⟩ := hcall c hcarried
    exact delivered_of_passed hb hissued hbound hp

end

/-! ## A request with an input -/

theorem connector_receives_reader :
    ∃ labels w r c, Run (RunStep readerBroker fun _ => KeepsRequests) (sampleWorld, .start sampleAgent "pa1") labels
        (w, .redeeming r (.preparing c [])) ∧
      ∃ e inv, runStep readerBroker w (.redeeming r (.preparing c [])) (.redeem (.go true)) = some e ∧
        e.invoked = some inv ∧
        ∃ r' bpc, RunPc.redeeming r (.preparing c []) = .redeeming r' bpc ∧ Stored w r'.action ∧
          Delivered readerBroker [readerConnector] r' (connectorContext "t" inv) := by
  obtain ⟨labels, w, r, c, hrun, e, inv, he, hinv, -⟩ := readerRun_invokes fun _ => KeepsRequests
  exact ⟨labels, w, r, c, hrun, e, inv, he, hinv, connector_receives rfl hrun he hinv⟩

/-- A connector is handed an empty object for a request that has an input. -/
theorem connector_receives_empty :
    ¬ ∀ (b : ExecutionBroker) (connectors : List ToolConnector) (tenantId : Text) (w₀ w : World) (pc : RunPc)
      (principal : PlatformPrincipal) (actionId : Text) (labels : List RunLabel) (a : RunAnswer) (e : RunEffect)
      (inv : Invocation), b.registry = buildToolRegistry connectors tenantId →
      Run (RunStep b fun _ => KeepsRequests) (w₀, .start principal actionId) labels (w, pc) →
      runStep b w pc a = some e → e.invoked = some inv →
      ∃ r bpc, pc = .redeeming r bpc ∧ (connectorContext tenantId inv).resource = r.action.request.resource ∧
        (connectorContext tenantId inv).operation = r.action.request.operation ∧
        (connectorContext tenantId inv).input = r.action.request.input.toValue ∧
        (∃ c ∈ connectors, c.tool = r.action.request.tool ∧ r.action.request.operation ∈ c.allowedOperations) ∧
        r.capability.inputHash = b.sha256 r.action.request.input.toValue.canonical := by
  intro h
  obtain ⟨labels, w, r, c, hrun, e, inv, he, hinv, hne⟩ := readerRun_invokes fun _ => KeepsRequests
  obtain ⟨r', bpc, hpc, -, -, hinput, -⟩ := h _ [readerConnector] "t" _ _ _ _ _ _ _ _ _ rfl hrun he hinv
  cases hpc
  exact hne hinput

end Tna.Platform
