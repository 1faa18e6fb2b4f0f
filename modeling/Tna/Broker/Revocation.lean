import Tna.Broker.Checks
import Tna.Broker.Interleaving
import Tna.Gate.Operations

/-!
# Revocation

The Gate and any number of brokers over its store, in any order of their steps. An agent
that is revoked stays so, and the brokers ask the Gate about it in the one place that
signs a capability and in the one place that accepts a token.
-/

namespace Tna.Broker

open Tna.Js Tna.Gate Tna.Lib

/-! ## The Gate with its brokers -/

/-- The Gate's store, and the calls of the brokers that read it. -/
structure Deployment (ι : Type) where
  gate : GateStore
  system : System ι
  /-- The brokers read the Gate's store. -/
  reads : system.store.gate = gate.view

inductive DeploymentLabel where
  | gate (l : GateLabel)
  | broker (l : SystemLabel)

/-- Nothing is stored yet, and no call has begun. -/
def Deployment.init (ι : Type) (now : Nat) : Deployment ι where
  gate := .init now
  system := System.init ⟨(GateStore.init now).view, ∅, ∅, []⟩
  reads := rfl

section
variable {ι : Type}

/-- The Gate's store after a step of the Gate. -/
def Deployment.setGate (x : Deployment ι) (g : GateStore) : Deployment ι where
  gate := g
  system := { x.system with store := { x.system.store with gate := g.view } }
  reads := rfl

/-- A step of the Gate, or of a broker: an `issue`, the beginning of a `redeem`, or a piece of one. -/
inductive DeploymentStep (sha256 : Text → Text) (brokers : ι → ExecutionBroker) :
    Deployment ι → DeploymentLabel → Deployment ι → Prop where
  | gate {x : Deployment ι} {l : GateLabel} {g : GateStore} (h : Gate.GateStep sha256 x.gate l g) :
    DeploymentStep sha256 brokers x (.gate l) (x.setGate g)
  | broker {x : Deployment ι} {l : SystemLabel} {system : System ι} (h : SystemStep brokers x.system l system)
    (hl : l ≠ .process) (reads : system.store.gate = x.gate.view) :
    DeploymentStep sha256 brokers x (.broker l) ⟨x.gate, system, reads⟩

end

/-! ## The Gate's part -/

section
variable {sha256 : Text → Text} {g g' : GateStore} {l : GateLabel} {agentId : Text}

/-- The agent is registered and revoked. -/
def IsRevoked (g : GateStore) (agentId : Text) : Prop := ∃ agent, g.agents.get agentId = some agent ∧ agent.revoked = true

/-- No operation clears the flag. -/
theorem isRevoked_step (h : GateEffect sha256 g l g') (hrevoked : IsRevoked g agentId) : IsRevoked g' agentId := by
  obtain ⟨agent, hagent, hflag⟩ := hrevoked
  cases h with
  | @registered _ new _ hnew _ =>
    have hne : agentId ≠ new.id := by
      rintro rfl
      cases hnew.symm.trans hagent
    exact ⟨agent, (Keyed.get_put_of_ne hne).trans hagent, hflag⟩
  | @revoked _ other hother =>
    by_cases hid : agentId = other.id
    · subst hid
      exact ⟨{ other with revoked := true }, Keyed.get_put_self, rfl⟩
    · exact ⟨agent, (Keyed.get_put_of_ne (v := { other with revoked := true }) hid).trans hagent, hflag⟩
  | refused => exact ⟨agent, hagent, hflag⟩
  | ticked => exact ⟨agent, hagent, hflag⟩
  | issued => exact ⟨agent, hagent, hflag⟩
  | approved => exact ⟨agent, hagent, hflag⟩
  | decided => exact ⟨agent, hagent, hflag⟩

variable {c : GateCall}

/-- `revoke` sets it. -/
theorem isRevoked_of_revoked (h : GateEffect sha256 g (.call c (.ok (.revoked agentId))) g') : IsRevoked g' agentId := by
  cases h with
  | @revoked _ agent _ => exact ⟨{ agent with revoked := true }, Keyed.get_put_self, rfl⟩

/-- A revoked agent is allowed nothing. -/
theorem not_allow_of_isRevoked {d : StoredDecision} (h : GateEffect sha256 g (.call c (.ok (.decided d))) g')
    (hrevoked : IsRevoked g d.agentId) : d.decision ≠ .allow := by
  cases h with
  | @decided _ _ agent request _ _ _ hauthorized =>
    have hid : d.agentId = agent.id := by rw [hauthorized.decided]; rfl
    have hkey := Keyed.key_of_get hauthorized.known
    obtain ⟨other, hother, hflag⟩ := hrevoked
    have hknown := hauthorized.known
    rw [← hkey, ← hid, hother] at hknown
    cases hknown
    rw [hauthorized.decided]
    simp only [GateStore.decide, evaluate, GateStore.context, hflag, if_true, block]
    simp

theorem isAgentRevoked_view (h : IsRevoked g agentId) : g.view.isAgentRevoked agentId = true := by
  obtain ⟨agent, hagent, hflag⟩ := h
  simp [GateState.isAgentRevoked, GateStore.view, hagent, hflag]

end

/-! ## The brokers' part -/

section
variable {b : ExecutionBroker} {s : Store}

/-- The agent the broker signs for is one the Gate says is not revoked. -/
theorem notRevoked_of_issue {r : IssueRandom} {w : IssueWrites} {principal : Principal} {decisionId : Text}
    {p : CapabilityPayload} (h : (issue b r w s principal decisionId).signed = some p) :
    notRevoked b.options s.gate p.agentId = true := by
  unfold issue at h
  split at h
  · cases h
  next d _ =>
  split at h
  · cases h
  split at h
  · cases h
  next parsed hchecks =>
  have hactive : notRevoked b.options s.gate d.agentId = true := by
    unfold issueChecks at hchecks
    split at hchecks
    · cases hchecks
    split at hchecks
    · cases hchecks
    next hnot => simpa using hnot
  unfold issueTransaction at h
  split at h
  · cases h
  split at h
  · cases h
  next token payload hcodec =>
  have hinput := (codec_issue_ok hcodec).2
  have hp : payload = p := by
    split at h
    · exact Option.some.inj h
    · exact Option.some.inj h
  subst hp
  have hagent : payload.agentId = d.agentId := by
    have hfield := congrArg CapabilityInput.agentId hinput
    exact hfield
  rw [hagent]
  exact hactive

theorem ne_of_notRevoked {g : GateState} {agentId other : Text} (hwired : b.options.isAgentRevoked = some GateState.isAgentRevoked)
    (hrevoked : g.isAgentRevoked agentId = true) (h : notRevoked b.options g other = true) : other ≠ agentId := by
  rintro rfl
  simp [notRevoked, hwired, hrevoked] at h

end

/-! ## After a revocation -/

/-- What a capability record says of its capability. -/
def Store.Holds (s : Store) (p : CapabilityPayload) : Prop :=
  ∃ id record, s.capabilities.lookup id = some record ∧ record.capability = p

section
variable {ι : Type} {sha256 : Text → Text} {brokers : ι → ExecutionBroker} {x y z : Deployment ι} {agentId : Text}

/-- **What holds since an agent was revoked** at `x`. -/
structure SinceRevoked (agentId : Text) (x y : Deployment ι) : Prop where
  revoked : IsRevoked y.gate agentId
  /-- Nothing was signed for the agent since. -/
  signed : ∀ p ∈ y.system.signed, p.agentId = agentId → p ∈ x.system.signed
  /-- No capability was stored for the agent since. -/
  stored : ∀ p, y.system.store.Holds p → p.agentId = agentId → x.system.store.Holds p
  /-- A call that has begun since carries no capability of the agent. -/
  carried : ∀ i c, x.system.calls i = none → y.system.at Pc.carried? i = some c → c.payload.agentId ≠ agentId

/-- A step does nothing for the agent. -/
def DeploymentLabel.Spares (agentId : Text) (x : Deployment ι) : DeploymentLabel → Prop
  | .gate (.call _ (.ok (.decided d))) => d.agentId = agentId → d.decision ≠ .allow
  | .broker (.call i _ (some invoked)) => x.system.calls i = none → invoked.agentId ≠ agentId
  | _ => True

variable {p : CapabilityPayload} {s : Store} {b : ExecutionBroker}

theorem holds_consume {s' : Store} {ok : Bool} {q : CapabilityPayload} (h : s.consume ok p = .ok s') (hq : s'.Holds q) :
    s.Holds q := by
  obtain ⟨record, hrecord, -, rfl⟩ := consume_ok h
  obtain ⟨id, other, hother, rfl⟩ := hq
  rcases Table.lookup_insert_cases hother with ⟨rfl, rfl⟩ | ⟨-, hother⟩
  · exact ⟨_, record, hrecord, rfl⟩
  · exact ⟨id, other, hother, rfl⟩

/-- A piece of a call stores no capability. -/
theorem holds_of_redeemStep {pc : Pc} {a : Answer} {e : Effect} (h : redeemStep b s pc a = some e) (hp : e.store.Holds p) :
    s.Holds p := by
  cases piece_of_step h with
  | ends _ _ hs =>
    obtain ⟨id, record, hrecord, heq⟩ := hp
    simp only [Effect.quiet, endWrite_capabilities hs] at hrecord
    exact ⟨id, record, hrecord, heq⟩
  | advance hadv =>
    cases hadv with
    | consumed hs => exact holds_consume hs hp
    | checked _ => exact hp
    | leased _ => exact hp
    | requested _ => exact hp
    | handled _ => exact hp
    | ran => exact hp

/-- What a broker signs and stores for an agent is signed and stored in one call. -/
theorem holds_of_issue {r : IssueRandom} {w : IssueWrites} {principal : Principal} {decisionId : Text}
    (hp : (issue b r w s principal decisionId).store.Holds p) :
    s.Holds p ∨ (issue b r w s principal decisionId).signed = some p := by
  generalize he : issue b r w s principal decisionId = e at hp ⊢
  have heffect := issued_of_issue b r w s principal decisionId
  rw [he] at heffect
  cases heffect with
  | refused hs =>
    obtain ⟨events, rfl⟩ := hs
    exact .inl hp
  | rolledBack => exact .inl hp
  | stored hsigned hnew =>
    obtain ⟨id, record, hrecord, rfl⟩ := hp
    rcases Table.lookup_insert_cases hrecord with ⟨-, rfl⟩ | ⟨-, hrecord⟩
    · exact .inr rfl
    · exact .inl ⟨id, record, hrecord, rfl⟩

variable (hwired : ∀ k, (brokers k).options.isAgentRevoked = some GateState.isAgentRevoked)
include hwired

/-- A broker does nothing for a revoked agent, but for a call that had begun. -/
theorem sinceRevoked_broker (h : SinceRevoked agentId x y) {l : SystemLabel} {system : System ι}
    (hstep : SystemStep brokers y.system l system) (hl : l ≠ .process) (reads : system.store.gate = y.gate.view) :
    SinceRevoked agentId x ⟨y.gate, system, reads⟩ ∧ (DeploymentLabel.broker l).Spares agentId x := by
  have hrevoked : y.system.store.gate.isAgentRevoked agentId = true := by
    rw [y.reads]
    exact isAgentRevoked_view h.revoked
  cases hstep with
  | issue k r w principal decisionId _ _ =>
    have hother : ∀ p, (issue (brokers k) r w y.system.store principal decisionId).signed = some p → p.agentId ≠ agentId :=
      fun p hp => ne_of_notRevoked (hwired k) hrevoked (notRevoked_of_issue hp)
    refine ⟨⟨h.revoked, ?_, ?_, h.carried⟩, trivial⟩
    · intro p hp hagent
      rcases List.mem_append.1 hp with hp | hp
      · exact h.signed p hp hagent
      · exact absurd hagent (hother p (Option.mem_toList.1 hp))
    · intro p hp hagent
      rcases holds_of_issue hp with hp | hp
      · exact h.stored p hp hagent
      · exact absurd hagent (hother p hp)
  | @begin i k principal input hfree =>
    refine ⟨⟨h.revoked, h.signed, h.stored, ?_⟩, trivial⟩
    intro j c hj hc
    rw [at_setCall] at hc
    split at hc
    · cases hc
    · exact h.carried j c hj hc
  | @call i k pc a e hi hsigned hcall =>
    have hcarried : ∀ c, x.system.calls i = none → e.pc.carried? = some c → c.payload.agentId ≠ agentId := by
      intro c hfree hc
      rcases carried_or_passed hcall hc with hc | ⟨principal, input, -, hp⟩
      · exact h.carried i c hfree (by rw [at_of_calls hi, hc])
      · exact ne_of_notRevoked (hwired k) hrevoked (checksHold_of_passed hp).notRevoked
    refine ⟨⟨h.revoked, h.signed, fun p hp => h.stored p (holds_of_redeemStep hcall hp), ?_⟩, ?_⟩
    · intro j c hj hc
      rw [at_setCall] at hc
      split at hc
      · next heq =>
        subst heq
        exact hcarried c hj hc
      · exact h.carried j c hj hc
    · cases hinvoked : e.invoked with
      | none => trivial
      | some invoked =>
        intro hfree
        obtain ⟨c, hc, rfl⟩ := invoked_call? hcall hinvoked
        exact hcarried c hfree (carried?_of_call? hc)
  | process => exact absurd rfl hl

/-- **One step keeps it, and does nothing for the agent.** -/
theorem sinceRevoked_step (h : SinceRevoked agentId x y) {l : DeploymentLabel} (hstep : DeploymentStep sha256 brokers y l z) :
    SinceRevoked agentId x z ∧ l.Spares agentId x := by
  cases hstep with
  | broker hsystem hl reads => exact sinceRevoked_broker hwired h hsystem hl reads
  | @gate l g hgate =>
    have heffect := gateEffect_of_step hgate
    refine ⟨⟨isRevoked_step heffect h.revoked, h.signed, h.stored, h.carried⟩, ?_⟩
    cases l with
    | tick => trivial
    | call c reply =>
      cases reply with
      | error e => trivial
      | ok reply =>
        cases reply with
        | decided d =>
          intro hid
          exact not_allow_of_isRevoked heffect (hid ▸ h.revoked)
        | _ => trivial

/-- **A revoked agent is done.** Whatever the Gate and its brokers do after a revocation, in whatever
state it was made, the agent is allowed nothing, no capability is signed or stored for it, and no call
that begins afterwards invokes a handler or a runner for it. -/
theorem revoked_of_run {after : List DeploymentLabel} {c : GateCall}
    (hrevoke : DeploymentStep sha256 brokers x (.gate (.call c (.ok (.revoked agentId)))) y)
    (hafter : Run (DeploymentStep sha256 brokers) y after z) :
    (∀ c d, .gate (.call c (.ok (.decided d))) ∈ after → d.agentId = agentId → d.decision ≠ .allow) ∧
      (∀ p ∈ z.system.signed, p.agentId = agentId → p ∈ y.system.signed) ∧
      (∀ p, z.system.store.Holds p → p.agentId = agentId → y.system.store.Holds p) ∧
      ∀ i written invoked, .broker (.call i written (some invoked)) ∈ after → y.system.calls i = none →
        invoked.agentId ≠ agentId := by
  have hstart : SinceRevoked agentId y y := by
    refine ⟨?_, fun p hp _ => hp, fun p hp _ => hp, ?_⟩
    · cases hrevoke with
      | gate hgate => exact isRevoked_of_revoked (gateEffect_of_step hgate)
    · intro i c hfree hc
      simp [System.at, hfree] at hc
  have hboth : SinceRevoked agentId y z ∧ ∀ l ∈ after, l.Spares agentId y := by
    induction hafter with
    | nil => exact ⟨hstart, List.forall_mem_nil _⟩
    | snoc _ hlast ih =>
      obtain ⟨hsince, hspared⟩ := ih
      obtain ⟨hsince, hspares⟩ := sinceRevoked_step hwired hsince hlast
      refine ⟨hsince, fun l hl => ?_⟩
      rcases List.mem_append.1 hl with hl | hl
      · exact hspared l hl
      · rw [List.mem_singleton.1 hl]
        exact hspares
  obtain ⟨hsince, hspared⟩ := hboth
  refine ⟨?_, hsince.signed, hsince.stored, ?_⟩
  · intro c d hmem
    exact hspared _ hmem
  · intro i written invoked hmem
    exact hspared _ hmem

end

/-! ## Example -/

/-- Calls of the Gate that commit, in a deployment. -/
theorem deploymentRun_of_gateRun {ι : Type} {sha256 : Text → Text} {brokers : ι → ExecutionBroker} {x : Deployment ι}
    {g : GateStore} {labels : List GateLabel} (h : Run (Gate.GateStep sha256) x.gate labels g) :
    ∃ labels' y, Run (DeploymentStep sha256 brokers) x labels' y ∧ y.gate = g := by
  generalize hstart : x.gate = start at h
  induction h with
  | nil => exact ⟨[], x, .nil x, hstart⟩
  | snoc _ hlast ih =>
    obtain ⟨labels', y, hrun, rfl⟩ := ih
    exact ⟨_, _, hrun.snoc (.gate hlast), rfl⟩

def sampleBrokers : Unit → ExecutionBroker := fun _ => sampleBroker handlerTool

/-- An agent is registered and given an envelope, revoked, and asks for what the envelope allows. -/
theorem revoked_of_run_sample :
    ∃ x y z c d before after, Run (DeploymentStep id sampleBrokers) (Deployment.init Unit 10) before x ∧
      DeploymentStep id sampleBrokers x (.gate (.call (.revoke .admin (some ⟨"agent_1", "leak"⟩)) (.ok (.revoked "agent_1")))) y ∧
      Run (DeploymentStep id sampleBrokers) y after z ∧ .gate (.call c (.ok (.decided d))) ∈ after ∧
      d.agentId = Text.ofAscii "agent_1" ∧ d.decision ≠ .allow := by
  let request : GateCall := .authorize (.agent "agent_1") (sampleRequest none none) "dec_1"
  have hreplay : (replay (GateStore.next id) (GateStore.init 10)
      [sampleRegistration, .setEnvelope .admin (some (sampleEnvelopeBody 1 [])) "pol_1"]).any (fun g =>
      match g.revoke .admin (some ⟨"agent_1", "leak"⟩) with
      | .ok g' =>
        match g'.authorize id (.agent "agent_1") (sampleRequest none none) "dec_1" with
        | .ok (_, d) => decide (d.agentId = "agent_1") && (g'.decisions.get "dec_1").isNone
        | .error _ => false
      | .error _ => false) = true := by decide +kernel
  obtain ⟨labels, g, hgate, htest⟩ := gateRun_of_test hreplay
  have hdeployed : ∃ before x, Run (DeploymentStep id sampleBrokers) (Deployment.init Unit 10) before x ∧ x.gate = g :=
    deploymentRun_of_gateRun (x := Deployment.init Unit 10) hgate
  obtain ⟨before, x, hbefore, rfl⟩ := hdeployed
  split at htest
  · next g' hg' =>
    split at htest
    · next g'' d hd =>
      rw [Bool.and_eq_true, Option.isNone_iff_eq_none, decide_eq_true_eq] at htest
      have hrevoke : Gate.GateStep id x.gate _ _ := .call (.revoke .admin (some ⟨"agent_1", "leak"⟩)) true trivial
      have hserve : x.gate.serve id (.revoke .admin (some ⟨"agent_1", "leak"⟩)) = .ok (g', .revoked "agent_1") := by
        rw [GateStore.serve, hg']
        rfl
      rw [hserve] at hrevoke
      have hask : Gate.GateStep id g' _ _ := .call request true htest.2
      have hserve' : g'.serve id request = .ok (g'', .decided d) := by
        simp only [request, GateStore.serve, hd]
        rfl
      rw [hserve'] at hask
      have hstep : DeploymentStep id sampleBrokers x _ _ := .gate hrevoke
      have hstep' : DeploymentStep id sampleBrokers (x.setGate g') (.gate (.call request (.ok (.decided d)))) _ := .gate hask
      have hafter := (Run.nil (x.setGate g')).snoc hstep'
      have hmem : DeploymentLabel.gate (.call request (.ok (.decided d))) ∈
          ([] ++ [.gate (.call request (.ok (.decided d)))] : List DeploymentLabel) := List.mem_singleton.2 rfl
      have hmain := revoked_of_run (fun _ => rfl) hstep hafter
      exact ⟨x, _, _, request, d, before, _, hbefore, hstep, hafter, hmem, htest.1, hmain.1 request d hmem htest.1⟩
    · cases htest
  · cases htest

end Tna.Broker
