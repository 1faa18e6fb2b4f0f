import Tna.Gate.Operations
import Tna.Sentinel.Statuses

/-!
# Revalidation against the Gate

Before an evaluation the Sentinel asks the Gate whether the authority a session
runs under still stands. The adapter reads the agent and its envelope, and
compares hashes. It never looks at the expiry of the envelope: under an envelope
that has run out, and that nobody replaced, the authority is still `VALID`.
-/

namespace Tna.Gate

open Tna.Js Tna.Lib Tna.Broker

/-- `requireReader`. -/
def requireReader (principal : Principal) (agentId : Text) : Except GateError Unit :=
  if principal ≠ .admin ∧ principal ≠ .agent agentId then .error (.http 403 "Access denied") else .ok ()

def GateStore.getEnvelope (g : GateStore) (principal : Principal) (agentId : Text) : Except GateError Policy := do
  requireReader principal agentId
  match g.policies.get agentId with
  | none => .error (.http 404 "Envelope not found")
  | some policy => .ok policy

/-- An administrator is shown what is on file. -/
theorem GateStore.getEnvelope_admin {g : GateStore} {agentId : Text} {policy : Policy}
    (h : g.policies.get agentId = some policy) : g.getEnvelope .admin agentId = .ok policy := by
  simp [getEnvelope, requireReader, h, bind, Except.bind]

/-- An agent the Gate does not know counts as revoked. -/
def GateStore.isAgentRevoked (g : GateStore) (agentId : Text) : Bool := ((g.agents.get agentId).map Agent.revoked).getD true

end Tna.Gate

namespace Tna.Sentinel

open Tna.Js Tna.Lib Tna.Broker Tna.Gate

/-! ## The adapter -/

/-- The calls of `validate` that may throw. A Gate whose store cannot be read is `none`. -/
def readAuthority (gate : Option GateStore) (principal : Principal) (session : SentinelSession) :
    Except GateError AuthorityStatus := do
  let some g := gate | .error .store
  if g.isAgentRevoked session.agentId then return ⟨.revoked, some .agent, none, none⟩
  let envelope ← g.getEnvelope principal session.agentId
  if envelope.hash ≠ session.policySnapshotHash then return ⟨.policyChanged, none, some envelope.hash, none⟩
  return ⟨.valid, none, some envelope.hash, none⟩

/-- `GateAuthorityRevalidator.validate`. -/
def validate (gate : Option GateStore) (principal : Principal) (session : SentinelSession) : AuthorityStatus :=
  match readAuthority gate principal session with
  | .ok status => status
  | .error _ => ⟨.unknown, none, none, some "Gate authority state could not be established"⟩

/-! ## What there is to find out -/

/-- The envelope the Gate shows for the agent of a session, when it is not revoked. -/
def Shows (gate : Option GateStore) (principal : Principal) (session : SentinelSession) (g : GateStore)
    (policy : Policy) : Prop :=
  gate = some g ∧ g.isAgentRevoked session.agentId = false ∧ g.getEnvelope principal session.agentId = .ok policy

/-- At the time the Gate's clock shows. -/
def Expired (g : GateStore) (policy : Policy) : Prop := policy.envelope.agent.expiresAt ≤ g.now

/-- The status is the one of the facts. Where an envelope has both expired and been replaced
by one of another hash, either status says so. -/
structure Faithful (gate : Option GateStore) (principal : Principal) (session : SentinelSession)
    (status : AuthorityStatusKind) : Prop where
  valid : status = .valid → ∃ g policy, Shows gate principal session g policy ∧
    policy.hash = session.policySnapshotHash ∧ ¬ Expired g policy
  revoked : ∀ g, gate = some g → g.isAgentRevoked session.agentId = true → status = .revoked
  expired : ∀ g policy, Shows gate principal session g policy → Expired g policy →
    status = .expired ∨ status = .policyChanged ∧ policy.hash ≠ session.policySnapshotHash
  changed : ∀ g policy, Shows gate principal session g policy → policy.hash ≠ session.policySnapshotHash →
    status = .policyChanged ∨ status = .expired ∧ Expired g policy
  unknown : (∀ g, gate = some g → g.isAgentRevoked session.agentId = false) →
    (∀ g policy, ¬ Shows gate principal session g policy) → status = .unknown

section
variable {gate : Option GateStore} {principal : Principal} {session : SentinelSession} {g g' : GateStore}
  {policy policy' : Policy}

/-- The ways through `validate`. -/
inductive Finds (gate : Option GateStore) (principal : Principal) (session : SentinelSession) :
    AuthorityStatusKind → Prop where
  | unreadable (h : gate = none) : Finds gate principal session .unknown
  | revoked (g : GateStore) (hgate : gate = some g) (h : g.isAgentRevoked session.agentId = true) :
    Finds gate principal session .revoked
  | refused (g : GateStore) (e : GateError) (hgate : gate = some g) (hagent : g.isAgentRevoked session.agentId = false)
    (h : g.getEnvelope principal session.agentId = .error e) : Finds gate principal session .unknown
  | changed (g : GateStore) (policy : Policy) (hshows : Shows gate principal session g policy)
    (h : policy.hash ≠ session.policySnapshotHash) : Finds gate principal session .policyChanged
  | same (g : GateStore) (policy : Policy) (hshows : Shows gate principal session g policy)
    (h : policy.hash = session.policySnapshotHash) : Finds gate principal session .valid

theorem finds_validate (gate : Option GateStore) (principal : Principal) (session : SentinelSession) :
    Finds gate principal session (validate gate principal session).status := by
  cases gate with
  | none => exact .unreadable rfl
  | some g =>
    unfold validate readAuthority
    by_cases hagent : g.isAgentRevoked session.agentId = true
    · simp only [hagent, if_true]
      exact .revoked g rfl hagent
    rw [Bool.not_eq_true] at hagent
    cases henvelope : g.getEnvelope principal session.agentId with
    | error e =>
      simp only [hagent, henvelope]
      exact .refused g e rfl hagent henvelope
    | ok policy =>
      by_cases hhash : policy.hash = session.policySnapshotHash
      · simp only [hagent, henvelope, hhash, bind, Except.bind, Bool.false_eq_true, if_false, ne_eq, not_true_eq_false]
        exact .same g policy ⟨rfl, hagent, henvelope⟩ hhash
      · simp only [hagent, henvelope, hhash, bind, Except.bind, Bool.false_eq_true, if_false, ne_eq, not_false_eq_true,
          if_true]
        exact .changed g policy ⟨rfl, hagent, henvelope⟩ hhash

theorem Shows.unique (h : Shows gate principal session g policy) (h' : Shows gate principal session g' policy') :
    g = g' ∧ policy = policy' := by
  obtain ⟨hgate, -, henvelope⟩ := h
  obtain ⟨hgate', -, henvelope'⟩ := h'
  obtain rfl := Option.mem_unique hgate hgate'
  exact ⟨rfl, Except.ok.inj (henvelope.symm.trans henvelope')⟩

/-- **The adapter's status is the one of the facts unless the envelope of the snapshot has expired.** -/
theorem validate_faithful_iff (gate : Option GateStore) (principal : Principal) (session : SentinelSession) :
    Faithful gate principal session (validate gate principal session).status ↔
      ∀ g policy, Shows gate principal session g policy → policy.hash = session.policySnapshotHash → ¬ Expired g policy := by
  generalize hstatus : (validate gate principal session).status = status
  have hfinds : Finds gate principal session status := hstatus ▸ finds_validate gate principal session
  constructor
  · intro h g policy hshows hhash hexpired
    rcases h.expired g policy hshows hexpired with rfl | ⟨-, hne⟩
    · cases hfinds
    · exact hne hhash
  intro h
  cases hfinds with
  | unreadable hnone =>
    refine ⟨fun hvalid => (nomatch hvalid), ?_, ?_, ?_, fun _ _ => rfl⟩
    all_goals subst hnone
    · exact fun g hg => (nomatch hg)
    · exact fun g policy hshows => (nomatch hshows.1)
    · exact fun g policy hshows => (nomatch hshows.1)
  | revoked g hgate hagent =>
    have hhidden : ∀ g' policy, ¬ Shows gate principal session g' policy := by
      intro g' policy hshows
      obtain rfl := Option.mem_unique hgate hshows.1
      exact Bool.false_ne_true (hshows.2.1.symm.trans hagent)
    refine ⟨fun hvalid => (nomatch hvalid), fun _ _ _ => rfl, ?_, ?_, ?_⟩
    · exact fun g' policy hshows => absurd hshows (hhidden g' policy)
    · exact fun g' policy hshows => absurd hshows (hhidden g' policy)
    · exact fun hagents => absurd ((hagents g hgate).symm.trans hagent) Bool.false_ne_true
  | refused g e hgate hagent henvelope =>
    have hhidden : ∀ g' policy, ¬ Shows gate principal session g' policy := by
      intro g' policy hshows
      obtain rfl := Option.mem_unique hgate hshows.1
      exact nomatch henvelope.symm.trans hshows.2.2
    refine ⟨fun hvalid => (nomatch hvalid), ?_, ?_, ?_, fun _ _ => rfl⟩
    · intro g' hgate' hagent'
      obtain rfl := Option.mem_unique hgate hgate'
      exact absurd (hagent.symm.trans hagent') Bool.false_ne_true
    · exact fun g' policy hshows => absurd hshows (hhidden g' policy)
    · exact fun g' policy hshows => absurd hshows (hhidden g' policy)
  | changed g policy hshows hhash =>
    refine ⟨fun hvalid => (nomatch hvalid), ?_, ?_, fun _ _ _ _ => .inl rfl, ?_⟩
    · intro g' hgate' hagent'
      obtain rfl := Option.mem_unique hshows.1 hgate'
      exact absurd (hshows.2.1.symm.trans hagent') Bool.false_ne_true
    · intro g' policy' hshows' _
      obtain ⟨rfl, rfl⟩ := hshows.unique hshows'
      exact .inr ⟨rfl, hhash⟩
    · exact fun _ hhidden => absurd hshows (hhidden g policy)
  | same g policy hshows hhash =>
    refine ⟨fun _ => ⟨g, policy, hshows, hhash, h g policy hshows hhash⟩, ?_, ?_, ?_, ?_⟩
    · intro g' hgate' hagent'
      obtain rfl := Option.mem_unique hshows.1 hgate'
      exact absurd (hshows.2.1.symm.trans hagent') Bool.false_ne_true
    · intro g' policy' hshows' hexpired
      obtain ⟨rfl, rfl⟩ := hshows.unique hshows'
      exact absurd hexpired (h g policy hshows hhash)
    · intro g' policy' hshows' hne
      obtain ⟨rfl, rfl⟩ := hshows.unique hshows'
      exact absurd hhash hne
    · exact fun _ hhidden => absurd hshows (hhidden g policy)

end

/-- Once the clock has passed the expiry of the envelope the session runs under, the adapter still finds it `VALID`. -/
theorem not_faithful_expired :
    ¬ ∀ labels g principal session, Run (GateStep id) (GateStore.init 10) labels g →
      Faithful (some g) principal session (validate (some g) principal session).status := by
  intro h
  have hreplay : (replay (GateStore.next id) (GateStore.init 10)
      [sampleRegistration, .setEnvelope .admin (some (sampleEnvelopeBody 1 [])) "pol_1"]).any (fun g =>
        !g.isAgentRevoked "agent_1" && (g.policies.get "agent_1").any fun policy =>
          policy.hash = (Value.obj []).canonical && policy.envelope.agent.expiresAt = 1000) = true := by decide +kernel
  obtain ⟨labels, g, hrun, htest⟩ := gateRun_of_test hreplay
  simp only [Bool.and_eq_true, Bool.not_eq_true'] at htest
  obtain ⟨hagent, hpolicy⟩ := htest
  obtain ⟨policy, hpolicy, hfound⟩ := (Option.any_eq_true ..).1 hpolicy
  simp only [Bool.and_eq_true, decide_eq_true_eq] at hfound
  let session : SentinelSession :=
    { sampleSession with agentId := "agent_1", policySnapshotHash := (Value.obj []).canonical }
  have hlate : Run (GateStep id) (GateStore.init 10) (labels ++ [.tick]) { g with now := 2000 } := hrun.snoc (.tick 2000)
  have hshows : Shows (some { g with now := 2000 }) .admin session { g with now := 2000 } policy :=
    ⟨rfl, hagent, GateStore.getEnvelope_admin hpolicy⟩
  have hfaithful := h _ _ .admin session hlate
  rcases hfaithful.expired _ policy hshows (hfound.2.trans_le (show 1000 ≤ 2000 by decide)) with hstatus | ⟨-, hne⟩
  · have hfinds := finds_validate (some { g with now := 2000 }) .admin session
    rw [hstatus] at hfinds
    cases hfinds
  · exact hne hfound.1

end Tna.Sentinel
