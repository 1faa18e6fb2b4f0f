import Tna.Broker.Call

/-!
# The checks at the moment of invocation

The checks are made before the capability is consumed. After a secret lease all
but one of them are made again; after the workspace of an isolated run has been
made none is. What the process does at those two awaits decides whether the
checks still hold when the handler or the runner is called.
-/

namespace Tna.Broker

open Tna.Js Tna.Gate Tna.Lib

/-- Every configured check of a call holds. -/
structure ChecksHold (o : BrokerOptions) (g : GateState) (c : RedeemCall) : Prop where
  notRevoked : notRevoked o g c.payload.agentId = true
  decisionCurrent : passes o.isDecisionCurrent g c.decision = true
  policyCurrent : passes o.isPolicyCurrent g c.decision = true
  authorityValid : passes o.isAuthorityValid g c.decision = true
  notExpired : g.now < c.payload.expiresAt

variable {c : RedeemCall} {g : GateState} {o : BrokerOptions}

theorem redeemBlock_none (h : redeemBlock o g c = none) :
    notRevoked o g c.payload.agentId = true ∧ passes o.isDecisionCurrent g c.decision = true ∧
      passes o.isPolicyCurrent g c.decision = true ∧ passes o.isAuthorityValid g c.decision = true := by
  unfold redeemBlock at h
  split_ifs at h with h₁ h₂ h₃ h₄ h₅
  simp only [Bool.not_eq_true', Bool.not_eq_false] at h₁ h₂ h₃ h₄
  exact ⟨h₁, h₂, h₃, h₄⟩

theorem leaseBlock_none {leases : List Text} (h : leaseBlock o g c leases = none) :
    notRevoked o g c.payload.agentId = true ∧ passes o.isPolicyCurrent g c.decision = true ∧
      passes o.isAuthorityValid g c.decision = true ∧ g.now < c.payload.expiresAt := by
  unfold leaseBlock at h
  split at h
  · cases h
  · split_ifs at h with h₁ h₂ h₃ h₄
    simp only [Bool.not_eq_true', Bool.not_eq_false] at h₁ h₂ h₃
    exact ⟨h₁, h₂, h₃, Nat.not_le.1 h₄⟩

/-- A call that passes the synchronous beginning passes every check then. -/
theorem checksHold_of_passed {b : ExecutionBroker} {principal : Principal} {input : RedeemInput}
    (hp : Passed b g principal input c) : ChecksHold b.options g c := by
  obtain ⟨hrev, hdec, hpol, hauth⟩ := redeemBlock_none hp.unblocked
  refine ⟨hrev, hdec, hpol, hauth, ?_⟩
  have hv := hp.verified
  unfold CapabilityCodec.verify at hv
  split at hv
  · split_ifs at hv with ht
    cases hv
    exact ht.2.2
  · cases hv

theorem consume_gate {s s' : Store} {ok : Bool} {p : CapabilityPayload} (h : s.consume ok p = .ok s') :
    s'.gate = s.gate := by
  obtain ⟨record, -, -, rfl⟩ := consume_ok h
  rfl

/-- What the rest of the process must leave alone: while a workspace is being made,
every check that holds; while leases are awaited, that the decision is current. -/
def KeepsChecks (o : BrokerOptions) (pc : Pc) (s s' : Store) : Prop :=
  match pc with
  | .makingWorkspace c .. => ChecksHold o s.gate c → ChecksHold o s'.gate c
  | .leasing c => passes o.isDecisionCurrent s.gate c.decision = true → passes o.isDecisionCurrent s'.gate c.decision = true
  | _ => True

/-- What is known of the checks at each counter up to the invocation. -/
def ChecksAt (o : BrokerOptions) (x : Store × Pc) : Prop :=
  match x.2 with
  | .consuming c => ChecksHold o x.1.gate c
  | .leasing c => passes o.isDecisionCurrent x.1.gate c.decision = true
  | .preparing c _ => ChecksHold o x.1.gate c
  | .makingWorkspace c .. => ChecksHold o x.1.gate c
  | _ => True

section
variable {b : ExecutionBroker}

variable {pc : Pc} {s : Store}

theorem checksAt_of_ends {o : BrokerOptions} (h : pc.ends = true) : ChecksAt o (s, pc) := by
  cases pc <;> trivial

/-- A piece of the call keeps what is known of the checks. -/
theorem checksAt_redeemStep {a : Answer} {e : Effect} (h : redeemStep b s pc a = some e) (hs : ChecksAt b.options (s, pc)) :
    ChecksAt b.options (e.store, e.pc) := by
  cases piece_of_step h with
  | ends hpc _ _ => exact checksAt_of_ends hpc
  | @advance c e hadv =>
    cases hadv with
    | checked hp => exact checksHold_of_passed hp
    | @consumed _ s' hcons =>
      have hg := consume_gate hcons
      have hold : ChecksHold b.options s.gate c := hs
      rw [← hg] at hold
      simp only [Effect.quiet]
      split
      · exact hold
      · exact hold.decisionCurrent
    | leased hb =>
      obtain ⟨hrev, hpol, hauth, hexp⟩ := leaseBlock_none hb
      exact ⟨hrev, hs, hpol, hauth, hexp⟩
    | requested _ => exact hs
    | handled _ => trivial
    | ran => trivial

/-- A step of the process that leaves the checks alone keeps what is known of them. -/
theorem checksAt_env {s' : Store} (hawait : pc.isAwait = true) (h : KeepsChecks b.options pc s s')
    (hs : ChecksAt b.options (s, pc)) : ChecksAt b.options (s', pc) := by
  cases pc with
  | leasing c => exact h hs
  | makingWorkspace c leases adapter w => exact h hs
  | consuming c => cases hawait
  | preparing c leases => cases hawait
  | _ => trivial

theorem checksAt_step (x : Store × Pc) (l : CallLabel) (y : Store × Pc)
    (h : CallStep b (WhileAwaiting (KeepsChecks b.options)) x l y) (hx : ChecksAt b.options x) : ChecksAt b.options y := by
  cases h with
  | own h => exact checksAt_redeemStep h hx
  | env henv => exact checksAt_env henv.1 henv.2 hx

/-- **The checks hold at the invocation.** In a run of a call in which the process
breaks no check while the workspace is made, nor the currency of the decision while
leases are awaited, the handler or the runner is called only when every configured
check of the call holds. -/
theorem invoked_checksHold {s₀ s : Store} {principal : Principal} {input : RedeemInput} {pc : Pc}
    {labels : List CallLabel} {a : Answer} {e : Effect} {inv : Invocation}
    (hrun : Run (CallStep b (WhileAwaiting (KeepsChecks b.options))) (s₀, .start principal input) labels (s, pc))
    (h : redeemStep b s pc a = some e) (hinv : e.invoked = some inv) :
    ∃ c, e.pc.call? = some c ∧ inv = c.invocation ∧ ChecksHold b.options s.gate c := by
  have hs : ChecksAt b.options (s, pc) := hrun.invariant checksAt_step trivial
  obtain ⟨c, hc, hinvc⟩ := invoked_call? h hinv
  refine ⟨c, hc, hinvc, ?_⟩
  cases advance_of_step h hc with
  | handled _ => exact hs
  | ran => exact hs
  | _ => cases hinv

end

/-! ## A revocation while the workspace is made -/

/-- A call is about to make its workspace, and its agent is enabled. -/
def makesEnabled (x : Store × Pc) : Bool :=
  match x.2 with
  | .makingWorkspace c [] _ _ => decide (x.1.gate.agents c.payload.agentId = some false)
  | _ => false

/-- The call of `isolatedTool` up to the workspace, with nothing in between. -/
theorem isolatedTool_makingWorkspace (env : Pc → Store → Store → Prop) :
    ∃ labels s c adapter w, Run (CallStep (sampleBroker isolatedTool) env) (sampleStore, .start .admin sampleInput)
        labels (s, .makingWorkspace c [] adapter w) ∧
      s.gate.agents c.payload.agentId = some false := by
  obtain ⟨labels, ⟨s, pc⟩, hrun, htest⟩ := callRun_of_test (sampleBroker isolatedTool) env
    (sampleStore, .start .admin sampleInput) [.go true, .go true, .request "w"]
    makesEnabled (by decide +kernel)
  simp only [makesEnabled] at htest
  split at htest
  · next c adapter w => exact ⟨labels, s, c, adapter, w, hrun, of_decide_eq_true htest⟩
  · cases htest

theorem invoked_checksHold_isolatedTool :
    ∃ labels s c adapter w, Run (CallStep (sampleBroker isolatedTool)
          (WhileAwaiting (KeepsChecks (sampleBroker isolatedTool).options)))
        (sampleStore, .start .admin sampleInput) labels (s, .makingWorkspace c [] adapter w) ∧
      ∃ c', Pc.call? (.running c [] adapter w) = some c' ∧ c.invocation = c'.invocation ∧
        ChecksHold (sampleBroker isolatedTool).options s.gate c' := by
  obtain ⟨labels, s, c, adapter, w, hrun, -⟩ :=
    isolatedTool_makingWorkspace (WhileAwaiting (KeepsChecks (sampleBroker isolatedTool).options))
  exact ⟨labels, s, c, adapter, w, hrun, invoked_checksHold hrun (a := .workspaceMade) rfl rfl⟩

/-- An agent revoked while the workspace is made still has its tool run. -/
theorem invoked_agent_revoked :
    ¬ ∀ (b : ExecutionBroker) (s₀ s : Store) (principal : Principal) (input : RedeemInput) (pc : Pc)
      (labels : List CallLabel) (a : Answer) (e : Effect) (inv : Invocation),
      Run (CallStep b (WhileAwaiting fun _ => GateStep)) (s₀, .start principal input) labels (s, pc) →
      redeemStep b s pc a = some e → e.invoked = some inv →
      ∃ c, e.pc.call? = some c ∧ inv = c.invocation ∧ ChecksHold b.options s.gate c := by
  intro h
  obtain ⟨labels, s, c, adapter, w, hrun, hagent⟩ := isolatedTool_makingWorkspace (WhileAwaiting fun _ => GateStep)
  have hrevoked := Run.snoc hrun (.env ⟨rfl, .revoke s c.payload.agentId⟩)
  obtain ⟨c', hc', -, hold⟩ := h _ _ _ _ _ _ _ .workspaceMade _ _ hrevoked rfl rfl
  cases hc'
  have hnot := hold.notRevoked
  simp [notRevoked, sampleBroker, GateState.isAgentRevoked, GateState.revoke, hagent] at hnot

end Tna.Broker
