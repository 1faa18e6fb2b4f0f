import Tna.Gate.Service
import Tna.Lib.Outcome
import Tna.Lib.Transition

/-!
# The Gate at work

A run of the Gate is any sequence of calls of its five operations, each of which may
fail to commit, with the clock moving in between. What an effective call does is said
once, by `GateEffect`; the properties of runs are read off it.
-/

namespace Tna.Gate

open Tna.Js Tna.Lib Tna.Broker

/-! ## Calls -/

/-- A call with its arguments and the random value it draws. -/
inductive GateCall where
  | register (principal : Principal) (input : Option Registration) (token : Text)
  | setEnvelope (principal : Principal) (input : Option EnvelopeBody) (revision : Text)
  | approve (principal : Principal) (input : Option ApprovalBody) (approvalId : Text)
  | authorize (principal : Principal) (body : RequestBody) (decisionId : Text)
  | revoke (principal : Principal) (input : Option Revocation)

inductive GateReply where
  | registered (agentId token : Text)
  | issued (policy : Policy)
  | approved (approval : Approval)
  | decided (decision : StoredDecision)
  | revoked (agentId : Text)

def GateStore.serve (sha256 : Text → Text) (g : GateStore) : GateCall → Except GateError (GateStore × GateReply)
  | .register principal input token => do
    let g' ← g.register sha256 principal input token
    return (g', .registered ((input.map Registration.id).getD []) token)
  | .setEnvelope principal input revision => do
    let (g', policy) ← g.setEnvelope sha256 principal input revision
    return (g', .issued policy)
  | .approve principal input approvalId => do
    let (g', approval) ← g.approve sha256 principal input approvalId
    return (g', .approved approval)
  | .authorize principal body decisionId => do
    let (g', decision) ← g.authorize sha256 principal body decisionId
    return (g', .decided decision)
  | .revoke principal input => do
    let g' ← g.revoke principal input
    return (g', .revoked ((input.map Revocation.agentId).getD []))

/-- The end of a transaction: it commits, or the store is as it was. -/
def GateStore.commit (g : GateStore) (ok : Bool) : Except GateError (GateStore × GateReply) → GateStore × Except GateError GateReply
  | .ok (g', reply) => if ok then (g', .ok reply) else (g, .error .store)
  | .error e => (g, .error e)

/-- The random id of a call is in no record. -/
def GateCall.Fresh (g : GateStore) : GateCall → Prop
  | .setEnvelope _ _ revision => ∀ a ∈ g.approvals.rows, a.policyRevision ≠ revision
  | .approve _ _ approvalId => g.approvals.get approvalId = none
  | .authorize _ _ decisionId => g.decisions.get decisionId = none
  | _ => True

inductive GateLabel where
  | call (c : GateCall) (reply : Except GateError GateReply)
  | tick

inductive GateStep (sha256 : Text → Text) : GateStore → GateLabel → GateStore → Prop where
  | call {g : GateStore} (c : GateCall) (ok : Bool) (hfresh : c.Fresh g) :
    GateStep sha256 g (.call c (g.commit ok (g.serve sha256 c)).2) (g.commit ok (g.serve sha256 c)).1
  | tick {g : GateStore} (now : Nat) : GateStep sha256 g .tick { g with now := now }

/-! ## What a call does -/

/-- Who decides what: the agent of a decision and its request. -/
structure Authorized (sha256 : Text → Text) (g : GateStore) (agent : Agent) (request : StoredRequest) (d : StoredDecision) :
    Prop where
  known : g.agents.get request.agentId = some agent
  decided : d = g.decide sha256 agent request d.decisionId
  fresh : g.decisions.get d.decisionId = none

/-- What an approval was granted on. -/
structure Granted (sha256 : Text → Text) (g : GateStore) (role : Text) (request : StoredRequest) (approval : Approval)
    (policy : Policy) : Prop where
  inForce : g.policies.get request.agentId = some policy
  rule : (policy.rule request.action).map ApprovalRule.approverRole = some role
  expiresAt : g.now < approval.expiresAt
  bound : approval =
    ⟨approval.id, request.agentId, policy.hash, policy.revision, requestHash sha256 request, role, approval.expiresAt, false⟩
  fresh : g.approvals.get approval.id = none

/-- **What a step does.** -/
inductive GateEffect (sha256 : Text → Text) (g : GateStore) : GateLabel → GateStore → Prop where
  | refused {c : GateCall} {e : GateError} : GateEffect sha256 g (.call c (.error e)) g
  | ticked {now : Nat} : GateEffect sha256 g .tick { g with now := now }
  | registered {c : GateCall} {agent : Agent} {token : Text} (hnew : g.agents.get agent.id = none)
    (hactive : agent.revoked = false) :
    GateEffect sha256 g (.call c (.ok (.registered agent.id token))) { g with agents := g.agents.put agent }
  | issued {c : GateCall} {agent : Agent} {envelope : CheckedEnvelope} {revision : Text}
    (hagent : g.agents.get envelope.agent.id = some agent) (hactive : agent.revoked = false)
    (hfresh : ∀ a ∈ g.approvals.rows, a.policyRevision ≠ revision) :
    GateEffect sha256 g (.call c (.ok (.issued (policyOf sha256 envelope revision))))
      { g with policies := g.policies.put (policyOf sha256 envelope revision) }
  | approved {role : Text} {body : ApprovalBody} {request : StoredRequest} {approval : Approval} {policy : Policy}
    {approvalId : Text} (hrequest : parseAuthorizationRequest sha256 body.request = .ok request)
    (h : Granted sha256 g role request approval policy) :
    GateEffect sha256 g (.call (.approve (.approver role) (some body) approvalId) (.ok (.approved approval)))
      { g with approvals := g.approvals.put approval }
  | decided {principal : Principal} {body : RequestBody} {agent : Agent} {request : StoredRequest} {d : StoredDecision}
    {decisionId : Text} (hrequest : parseAuthorizationRequest sha256 body = .ok request)
    (h : Authorized sha256 g agent request d) :
    GateEffect sha256 g (.call (.authorize principal body decisionId) (.ok (.decided d)))
      (g.keep d (g.validApproval sha256 agent request))
  | revoked {c : GateCall} {agent : Agent} (hagent : g.agents.get agent.id = some agent) :
    GateEffect sha256 g (.call c (.ok (.revoked agent.id))) { g with agents := g.agents.put { agent with revoked := true } }

section
variable {sha256 : Text → Text} {g g' : GateStore}

variable {principal : Principal} {approval : Approval} {approvalId : Text}

theorem register_ok {input : Option Registration} {token : Text} (h : g.register sha256 principal input token = .ok g') :
    ∃ data agent, input = some data ∧ agent.id = data.id ∧ agent.revoked = false ∧ g.agents.get agent.id = none ∧
      g' = { g with agents := g.agents.put agent } := by
  unfold GateStore.register at h
  split at h
  · cases h
  split at h
  · cases h
  next data =>
  split at h
  · cases h
  next hnone =>
  cases h
  exact ⟨data, ⟨data.id, data.name, sha256 token, false⟩, rfl, rfl, rfl, by simpa using hnone, rfl⟩

theorem setEnvelope_ok {input : Option EnvelopeBody} {revision : Text} {policy : Policy}
    (h : g.setEnvelope sha256 principal input revision = .ok (g', policy)) :
    ∃ envelope agent, policy = policyOf sha256 envelope revision ∧ g.agents.get envelope.agent.id = some agent ∧
      agent.revoked = false ∧ g' = { g with policies := g.policies.put policy } := by
  unfold GateStore.setEnvelope at h
  split at h
  · cases h
  split at h
  · cases h
  split at h
  · next hvalid =>
    split at h
    · cases h
    split at h
    · cases h
    next agent hagent =>
    split at h
    · cases h
    next hactive =>
    cases h
    exact ⟨_, agent, rfl, hagent, by simpa using hactive, rfl⟩
  · cases h

theorem revoke_ok {input : Option Revocation} (h : g.revoke principal input = .ok g') :
    ∃ data agent, input = some data ∧ agent.id = data.agentId ∧ g.agents.get agent.id = some agent ∧
      g' = { g with agents := g.agents.put { agent with revoked := true } } := by
  unfold GateStore.revoke at h
  split at h
  · cases h
  split at h
  · cases h
  next data =>
  split at h
  · cases h
  next agent hagent =>
  cases h
  have hkey := Keyed.key_of_get hagent
  exact ⟨data, agent, rfl, hkey, hkey ▸ hagent, rfl⟩

theorem grant_ok {role : Text} {request : StoredRequest} {expiresAt : Nat}
    (h : g.grant sha256 role request expiresAt approvalId = .ok (g', approval)) (hfresh : g.approvals.get approvalId = none) :
    (∃ policy, Granted sha256 g role request approval policy) ∧ g' = { g with approvals := g.approvals.put approval } := by
  unfold GateStore.grant at h
  split at h
  · next policy agent hpolicy hagent =>
    split at h
    · cases h
    next rule hrule =>
    split at h
    · cases h
    next hrole =>
    split at h
    · cases h
    next hexpiry =>
    simp only at h
    split at h
    · cases h
    cases h
    have hid : agent.id = request.agentId := Keyed.key_of_get hagent
    refine ⟨⟨policy, ⟨hpolicy, ?_, ?_, ?_, hfresh⟩⟩, rfl⟩
    · have hrole : rule.approverRole = role := not_not.1 (not_or.1 hrole).2
      rw [hrule, ← hrole]
      rfl
    · exact Nat.not_le.1 (not_or.1 hexpiry).1
    · rw [← hid]
  · cases h

theorem approve_ok {input : Option ApprovalBody} (h : g.approve sha256 principal input approvalId = .ok (g', approval))
    (hfresh : g.approvals.get approvalId = none) :
    ∃ role body request policy, principal = .approver role ∧ input = some body ∧
      parseAuthorizationRequest sha256 body.request = .ok request ∧ Granted sha256 g role request approval policy ∧
      g' = { g with approvals := g.approvals.put approval } := by
  unfold GateStore.approve at h
  split at h
  · next role =>
    split at h
    · cases h
    next body =>
    split at h
    · cases h
    next request hrequest =>
    split at h
    · cases h
    split at h
    · cases h
    obtain ⟨⟨policy, hgranted⟩, rfl⟩ := grant_ok h hfresh
    exact ⟨role, body, request, policy, rfl, rfl, hrequest, hgranted, rfl⟩
  · cases h

theorem authorize_ok {body : RequestBody} {decisionId : Text} {d : StoredDecision}
    (h : g.authorize sha256 principal body decisionId = .ok (g', d)) (hfresh : g.decisions.get decisionId = none) :
    ∃ agent request, parseAuthorizationRequest sha256 body = .ok request ∧ Authorized sha256 g agent request d ∧
      g' = g.keep d (g.validApproval sha256 agent request) := by
  unfold GateStore.authorize at h
  split at h
  · cases h
  next request hrequest =>
  split at h
  · cases h
  split at h
  · cases h
  next agent hagent =>
  cases h
  exact ⟨agent, request, hrequest, ⟨hagent, rfl, hfresh⟩, rfl⟩

theorem serve_effect {c : GateCall} {reply : GateReply} (h : g.serve sha256 c = .ok (g', reply)) (hfresh : c.Fresh g) :
    GateEffect sha256 g (.call c (.ok reply)) g' := by
  cases c with
  | register principal input token =>
    obtain ⟨_, hg, heq⟩ := bind_ok h
    obtain ⟨data, agent, rfl, hid, hactive, hnew, rfl⟩ := register_ok hg
    cases heq
    rw [Option.map_some, Option.getD_some, ← hid]
    exact .registered hnew hactive
  | setEnvelope principal input revision =>
    obtain ⟨⟨_, policy⟩, hg, heq⟩ := bind_ok h
    obtain ⟨envelope, agent, rfl, hagent, hactive, rfl⟩ := setEnvelope_ok hg
    cases heq
    exact .issued hagent hactive hfresh
  | approve principal input approvalId =>
    obtain ⟨⟨_, approval⟩, hg, heq⟩ := bind_ok h
    obtain ⟨role, body, request, policy, rfl, rfl, hrequest, hgranted, rfl⟩ := approve_ok hg hfresh
    cases heq
    exact .approved hrequest hgranted
  | authorize principal body decisionId =>
    obtain ⟨⟨_, d⟩, hg, heq⟩ := bind_ok h
    obtain ⟨agent, request, hrequest, hauthorized, rfl⟩ := authorize_ok hg hfresh
    cases heq
    exact .decided hrequest hauthorized
  | revoke principal input =>
    obtain ⟨_, hg, heq⟩ := bind_ok h
    obtain ⟨data, agent, rfl, hid, hagent, rfl⟩ := revoke_ok hg
    cases heq
    rw [Option.map_some, Option.getD_some, ← hid]
    exact .revoked hagent

theorem gateEffect_of_step {l : GateLabel} (h : GateStep sha256 g l g') : GateEffect sha256 g l g' := by
  cases h with
  | tick now => exact .ticked
  | call c ok hfresh =>
    cases hserve : g.serve sha256 c with
    | error e => exact .refused
    | ok result =>
      cases ok with
      | false => exact .refused
      | true => exact serve_effect hserve hfresh

end

/-! ## A Gate for examples -/

instance (g : GateStore) : (c : GateCall) → Decidable (c.Fresh g)
  | .register .. => inferInstanceAs (Decidable True)
  | .setEnvelope _ _ revision => inferInstanceAs (Decidable (∀ a ∈ g.approvals.rows, a.policyRevision ≠ revision))
  | .approve _ _ approvalId => decidable_of_iff ((g.approvals.get approvalId).isNone = true) Option.isNone_iff_eq_none
  | .authorize _ _ decisionId => decidable_of_iff ((g.decisions.get decisionId).isNone = true) Option.isNone_iff_eq_none
  | .revoke .. => inferInstanceAs (Decidable True)

/-- A call that commits. -/
def GateStore.next (sha256 : Text → Text) (g : GateStore) (c : GateCall) : Option GateStore :=
  if c.Fresh g then some (g.commit true (g.serve sha256 c)).1 else none

variable {sha256 : Text → Text}

theorem gateStep_of_next (g : GateStore) (c : GateCall) (g' : GateStore) (h : g.next sha256 c = some g') :
    ∃ l, GateStep sha256 g l g' := by
  rw [GateStore.next] at h
  split at h
  · next hfresh =>
    cases h
    exact ⟨_, .call c true hfresh⟩
  · cases h

/-- What a test says of the store after calls it says of a store the Gate reaches. -/
theorem gateRun_of_test {g : GateStore} {calls : List GateCall} {test : GateStore → Bool}
    (h : (replay (GateStore.next sha256) g calls).any test = true) :
    ∃ labels g', Run (GateStep sha256) g labels g' ∧ test g' = true := by
  obtain ⟨g', hrun, htest⟩ := run_of_test h
  obtain ⟨labels, hrun⟩ := hrun.relabel (GateStep sha256) gateStep_of_next
  exact ⟨labels, g', hrun, htest⟩

/-- An agent that reads reports, from a host or without one. -/
def sampleEnvelope (maxExternalRequests : Nat) (rules : List ApprovalRule) : Envelope where
  agent := ⟨"agent_1", "Reader", "reader", "team", "test", 1000⟩
  objective := ⟨"task_1", "read", ["report read"], []⟩
  resources := ⟨.none, ⟨["/reports/**"], []⟩, .none, .none⟩
  tools := ⟨["reader"], []⟩
  network := ⟨["reports.example"], []⟩
  communicateWith := []
  limits := ⟨60, 5, maxExternalRequests, 1000000, 5⟩
  approvalsRequiredFor := rules
  actionBindings := [⟨"report.read", "report read", "reader", .files, .read, false⟩]

def sampleEnvelopeBody (maxExternalRequests : Nat) (rules : List ApprovalRule) : EnvelopeBody :=
  ⟨sampleEnvelope maxExternalRequests rules, ⟨[], Value.distinct_nil⟩⟩

def sampleRequest (destination approvalId : Option Text) : RequestBody where
  fields := some
    { agentId := "agent_1"
      action := "report.read"
      tool := "reader"
      resource := "/reports/1"
      destination := destination
      estimatedCost := 250000
      approvalId := approvalId
      agentId_id := by decide
      action_id := by decide
      tool_id := by decide
      resource_label := by decide }
  input := ⟨.undefined, rfl⟩
  inputHash := ⟨.undefined, rfl⟩

def sampleRegistration : GateCall :=
  .register .admin (some ⟨"agent_1", "Reader", by decide, by decide⟩) "secret"

end Tna.Gate
