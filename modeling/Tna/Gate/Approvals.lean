import Tna.Gate.Accounting
import Tna.Js.Sorted

/-!
# Approvals

An approval is used up in the transaction of the first decision that allows something
under it, and it is valid only under the policy it was issued under: each time an
envelope is put into force the policy draws a new revision. What it was issued for is
bound by the hash of the request without its `approvalId`.
-/

namespace Tna.Gate

open Tna.Js Tna.Lib Tna.Broker

/-! ## The request an approval is bound to -/

/-- The same request but for the approval it names. -/
structure SameRequest (r r' : StoredRequest) : Prop where
  agentId : r.agentId = r'.agentId
  action : r.action = r'.action
  tool : r.tool = r'.tool
  resource : r.resource = r'.resource
  destination : r.destination = r'.destination
  estimatedCost : r.estimatedCost = r'.estimatedCost
  input : Value.SameData (optional JsValue.val r.input) (optional JsValue.val r'.input)
  inputHash : r.inputHash = r'.inputHash

/-- Two texts with one hash. -/
def Collision (sha256 : Text → Text) (x y : Text) : Prop := x ≠ y ∧ sha256 x = sha256 y

theorem distinct_optional {α : Type} {f : α → Value} (h : ∀ a, (f a).distinct = true) (o : Option α) :
    (optional f o).distinct = true := by
  cases o with
  | none => rfl
  | some a => exact h a

theorem distinct_boundFields (r : StoredRequest) : (Value.obj (boundFields r)).distinct = true := by
  have hkeys : ((boundFields r).map Prod.fst).Nodup := by
    show (["agentId", "action", "tool", "resource", "destination", "estimatedCostUsd", "input", "input_hash"] : List Text).Nodup
    decide
  have hdestination := distinct_optional (f := Value.str) (fun _ => rfl) r.destination
  have hinput := distinct_optional (f := JsValue.val) JsValue.distinct r.input
  have hinputHash := distinct_optional (f := Value.str) (fun _ => rfl) r.inputHash
  rw [Value.distinct, Bool.and_eq_true, decide_eq_true_eq]
  refine ⟨hkeys, ?_⟩
  simp only [boundFields, Value.distinctFields, hdestination, hinput, hinputHash]
  rfl

theorem optional_str_of_sameData {s t : Option Text} (h : Value.SameData (optional .str s) (optional .str t)) : s = t := by
  cases s with
  | none =>
    cases t with
    | none => rfl
    | some t => cases h.isUndefined
  | some s =>
    cases t with
    | none => cases h.isUndefined
    | some t => rw [h.str_eq]

theorem ofMicros_of_sameData {n m : Nat} (h : Value.SameData (.ofMicros n) (.ofMicros m)) : n = m := by
  rw [Value.ofMicros, Value.ofMicros] at h
  exact microsText_injective (congrArg Numeral.text h.finite_eq)

variable {r r' : StoredRequest}

/-- **One canonical form, one request.** -/
theorem sameRequest_of_boundText (h : boundText r = boundText r') : SameRequest r r' := by
  have hfields := Value.sameData_of_canonical (distinct_boundFields r) (distinct_boundFields r') h
  exact
    { agentId := (hfields "agentId").str_eq
      action := (hfields "action").str_eq
      tool := (hfields "tool").str_eq
      resource := (hfields "resource").str_eq
      destination := optional_str_of_sameData (hfields "destination")
      estimatedCost := ofMicros_of_sameData (hfields "estimatedCostUsd")
      input := hfields "input"
      inputHash := optional_str_of_sameData (hfields "input_hash") }

/-- Requests with one hash are the same, or their canonical forms collide. -/
theorem sameRequest_or_collision {sha256 : Text → Text} (h : requestHash sha256 r = requestHash sha256 r') :
    SameRequest r r' ∨ Collision sha256 (boundText r) (boundText r') := by
  by_cases heq : boundText r = boundText r'
  · exact .inl (sameRequest_of_boundText heq)
  · exact .inr ⟨heq, h⟩

/-! ## What a valid approval is -/

section
variable {sha256 : Text → Text} {g g' : GateStore} {l : GateLabel} {agent : Agent} {request : StoredRequest}
  {approval : Approval}

/-- An approval bound to a request of an agent under a policy, and still good. -/
structure Usable (sha256 : Text → Text) (now : Nat) (agentId : Text) (policy : Policy) (request : StoredRequest)
    (approval : Approval) : Prop where
  unused : approval.used = false
  agentId : approval.agentId = agentId
  policyHash : approval.policyHash = policy.hash
  policyRevision : approval.policyRevision = policy.revision
  requestHash : approval.requestHash = Gate.requestHash sha256 request
  role : ∀ rule ∈ policy.envelope.approvalsRequiredFor, rule.action = request.action → rule.approverRole = approval.role
  unexpired : now < approval.expiresAt

variable {now : Nat} {policy : Policy} {d : StoredDecision}

theorem usable_of (h : approval.usable sha256 now agent (some policy) request = true) :
    Usable sha256 now agent.id policy request approval := by
  simp only [Approval.usable, decide_eq_true_eq] at h
  obtain ⟨hused, hagent, hhash, hrevision, hrequest, hrole, hexpiry⟩ := h
  refine ⟨hused, hagent, hhash, hrevision, hrequest, ?_, hexpiry⟩
  intro rule hrule haction
  obtain ⟨found, hfound, hfoundRole⟩ := Option.map_eq_some_iff.1 hrole
  rw [Policy.rule] at hfound
  have hfoundAction : found.action = request.action := by simpa using List.find?_some hfound
  have hsame : rule = found :=
    rule_unique policy.envelope.valid hrule (List.mem_of_find?_eq_some hfound) (haction.trans hfoundAction.symm)
  rw [hsame, hfoundRole]

theorem validApproval_some (h : g.validApproval sha256 agent request = some approval) :
    g.approvals.get approval.id = some approval ∧ approval.used = false ∧
      ∀ policy, g.policies.get agent.id = some policy → Usable sha256 g.now agent.id policy request approval := by
  unfold GateStore.validApproval at h
  split at h
  · cases h
  next approvalId _ =>
  obtain ⟨hget, husable⟩ := Option.filter_eq_some_iff.1 h
  have hkey := Keyed.key_of_get hget
  subst hkey
  cases hpolicy : g.policies.get agent.id with
  | none =>
    rw [hpolicy] at husable
    cases husable
  | some policy =>
    rw [hpolicy] at husable
    refine ⟨hget, (usable_of husable).unused, ?_⟩
    intro other hother
    cases hother
    exact usable_of husable

/-- What is allowed for an action with a rule is allowed under a valid approval. -/
theorem approvalValid_of_limitsVerdict {request : AuthorizationRequest} {envelope : Envelope} {context : PolicyContext}
    (h : (limitsVerdict request envelope context).decision = .allow) {rule : ApprovalRule}
    (hrule : rule ∈ envelope.approvalsRequiredFor) (haction : rule.action = request.action) :
    context.approvalValid = true := by
  by_contra hnot
  have hany : (envelope.approvalsRequiredFor.any fun rule => rule.action = request.action) = true :=
    List.any_eq_true.2 ⟨rule, hrule, decide_eq_true haction⟩
  unfold limitsVerdict at h
  simp only [hany, Bool.not_eq_true _ ▸ hnot, and_self, if_true] at h
  split at h
  · cases h
  split at h
  · cases h
  split at h
  · cases h
  split at h
  · cases h
  split at h
  · cases h
  · cases h

/-! ## Where approvals come from -/

/-- The approval as it was issued. -/
def Approval.issued (a : Approval) : Approval := { a with used := false }

/-- The step issued the approval: an approver of its role asked, for this request, under this policy. -/
def IssuedFor (sha256 : Text → Text) (a : Approval) (r : StoredRequest) (policy : Policy) (_before : List GateLabel)
    (g : GateStore) (l : GateLabel) (_g' : GateStore) : Prop :=
  Granted sha256 g a.role r a.issued policy ∧ ∃ body approvalId,
    l = .call (.approve (.approver a.role) (some body) approvalId) (.ok (.approved a.issued)) ∧
      parseAuthorizationRequest sha256 body.request = .ok r

/-- The approval was issued in the run, under a policy that no other of its revision has replaced. -/
def Issued (sha256 : Text → Text) (start : GateStore) (labels : List GateLabel) (g : GateStore) (a : Approval) : Prop :=
  ∃ r policy, Took (GateStep sha256) (IssuedFor sha256 a r policy) start labels g ∧
    ∀ p, g.policies.get a.agentId = some p → p.revision = a.policyRevision → p = policy

/-- **What holds of approvals along every run.** -/
structure Approvals (sha256 : Text → Text) (start : GateStore) (labels : List GateLabel) (g : GateStore) : Prop where
  /-- What something was allowed under is used. -/
  used : ∀ d ∈ g.decisions.rows, d.decision = .allow → ∀ id, d.approvalReference = some id →
    ∃ a, g.approvals.get id = some a ∧ a.used = true
  /-- Nothing else was allowed under it. -/
  single : ∀ d ∈ g.decisions.rows, ∀ d' ∈ g.decisions.rows, d.decision = .allow → d'.decision = .allow →
    ∀ id, d.approvalReference = some id → d'.approvalReference = some id → d = d'
  issued : ∀ id a, g.approvals.get id = some a → Issued sha256 start labels g a

variable {start : GateStore} {labels : List GateLabel}

theorem Issued.snoc {a : Approval} (h : Issued sha256 start labels g a) (hstep : GateStep sha256 g l g')
    (hpolicies : ∀ p, g'.policies.get a.agentId = some p → p.revision = a.policyRevision →
      g.policies.get a.agentId = some p) : Issued sha256 start (labels ++ [l]) g' a := by
  obtain ⟨r, policy, htook, hsame⟩ := h
  refine ⟨r, policy, htook.snoc hstep, ?_⟩
  intro p hp hrevision
  exact hsame p (hpolicies p hp hrevision) hrevision

/-- Steps that leave decisions, approvals and policies alone. -/
theorem Approvals.of_same (h : Approvals sha256 start labels g) (hstep : GateStep sha256 g l g')
    (hdecisions : g'.decisions = g.decisions) (happrovals : g'.approvals = g.approvals)
    (hpolicies : g'.policies = g.policies) : Approvals sha256 start (labels ++ [l]) g' where
  used := by rw [hdecisions, happrovals]; exact h.used
  single := by rw [hdecisions]; exact h.single
  issued id a ha := by
    rw [happrovals] at ha
    refine (h.issued id a ha).snoc hstep ?_
    rw [hpolicies]
    exact fun p hp _ => hp

/-- A policy comes into force under a revision that no approval has. -/
theorem Approvals.issue (h : Approvals sha256 start labels g)
    (hstep : GateStep sha256 g l { g with policies := g.policies.put policy })
    (hfresh : ∀ a ∈ g.approvals.rows, a.policyRevision ≠ policy.revision) :
    Approvals sha256 start (labels ++ [l]) { g with policies := g.policies.put policy } where
  used := h.used
  single := h.single
  issued id a ha := by
    refine (h.issued id a ha).snoc hstep ?_
    intro p hp hrevision
    rcases Keyed.get_put_cases hp with ⟨-, rfl⟩ | ⟨-, hp⟩
    · have hkey := Keyed.key_of_get ha
      have hmem : a ∈ g.approvals.rows := Keyed.mem_rows.2 (hkey ▸ ha)
      exact absurd hrevision.symm (hfresh a hmem)
    · exact hp

/-- An approval is issued under a new id. -/
theorem Approvals.approve (h : Approvals sha256 start labels g) (hrun : Run (GateStep sha256) start labels g) {role : Text}
    {body : ApprovalBody} {approvalId : Text} (hrequest : parseAuthorizationRequest sha256 body.request = .ok request)
    (hgranted : Granted sha256 g role request approval policy)
    (hl : l = .call (.approve (.approver role) (some body) approvalId) (.ok (.approved approval)))
    (hstep : GateStep sha256 g l { g with approvals := g.approvals.put approval }) :
    Approvals sha256 start (labels ++ [l]) { g with approvals := g.approvals.put approval } where
  used d hd hallow id hid := by
    obtain ⟨a, ha, hused⟩ := h.used d hd hallow id hid
    refine ⟨a, ?_, hused⟩
    rw [Keyed.get_put_of_ne, ha]
    rintro rfl
    rw [hgranted.fresh] at ha
    cases ha
  single := h.single
  issued id a ha := by
    rcases Keyed.get_put_cases ha with ⟨-, rfl⟩ | ⟨-, ha⟩
    · have hrole : a.role = role := by rw [hgranted.bound]
      have hagent : a.agentId = request.agentId := by rw [hgranted.bound]
      have hissued : a.issued = a := by rw [Approval.issued, hgranted.bound]
      refine ⟨request, policy, hrun.took hstep ⟨?_, body, approvalId, ?_, hrequest⟩, ?_⟩
      · rw [hrole, hissued]
        exact hgranted
      · rw [hl, hrole, hissued]
      · intro p hp hrevision
        rw [hagent] at hp
        exact Option.mem_unique hp hgranted.inForce
    · exact (h.issued id a ha).snoc hstep fun p hp _ => hp

/-! ## What a decision does to approvals -/

section
variable {used : Option Approval}

variable {a : Approval} {d : StoredDecision} {id : Text}

/-- The approvals after a decision are those before it, used or not. -/
theorem approvals_keep (hused : ∀ a, used = some a → g.approvals.get a.id = some a)
    (ha : (g.keep d used).approvals.get id = some a) :
    ∃ a' mark, g.approvals.get id = some a' ∧ a = { a' with used := mark } := by
  unfold GateStore.keep at ha
  simp only at ha
  split at ha
  · next b =>
    split at ha
    · rcases Keyed.get_put_cases ha with ⟨rfl, rfl⟩ | ⟨-, ha⟩
      · exact ⟨b, true, hused b rfl, rfl⟩
      · exact ⟨a, a.used, ha, rfl⟩
    · exact ⟨a, a.used, ha, rfl⟩
  · exact ⟨a, a.used, ha, rfl⟩

/-- What was used stays used. -/
theorem used_keep (d : StoredDecision) (ha : g.approvals.get id = some a) (hmark : a.used = true) :
    ∃ a', (g.keep d used).approvals.get id = some a' ∧ a'.used = true := by
  unfold GateStore.keep
  simp only
  split
  · next b =>
    split
    · rw [Keyed.get_put]
      split
      · exact ⟨_, rfl, rfl⟩
      · exact ⟨a, ha, hmark⟩
    · exact ⟨a, ha, hmark⟩
  · exact ⟨a, ha, hmark⟩

/-- What something is allowed under is used. -/
theorem used_of_allow (hallow : d.decision = .allow) (hused : used = some a) :
    (g.keep d used).approvals.get a.id = some { a with used := true } := by
  subst hused
  unfold GateStore.keep
  simp only [if_pos hallow]
  exact Keyed.get_put_self

end

/-- A decision is taken, and what it allows uses up the approval it names. -/
theorem Approvals.decide (h : Approvals sha256 start labels g) (hauthorized : Authorized sha256 g agent request d)
    (hstep : GateStep sha256 g l (g.keep d (g.validApproval sha256 agent request))) :
    Approvals sha256 start (labels ++ [l]) (g.keep d (g.validApproval sha256 agent request)) := by
  have hvalid : ∀ a, g.validApproval sha256 agent request = some a → g.approvals.get a.id = some a :=
    fun a ha => (validApproval_some ha).1
  have hrows : (g.keep d (g.validApproval sha256 agent request)).decisions.rows = d :: g.decisions.rows :=
    Keyed.rows_put hauthorized.fresh
  have hreference : d.approvalReference = (g.validApproval sha256 agent request).map Approval.id := by
    rw [hauthorized.decided]
    rfl
  -- an approval that is valid has allowed nothing yet
  have hunused : ∀ d' ∈ g.decisions.rows, d'.decision = .allow → ∀ id, d'.approvalReference = some id →
      d.approvalReference ≠ some id := by
    intro d' hd' hallow id hid hsame
    obtain ⟨a, ha, hmark⟩ := h.used d' hd' hallow id hid
    rw [hreference] at hsame
    obtain ⟨b, hb, rfl⟩ := Option.map_eq_some_iff.1 hsame
    obtain ⟨hget, hnot, -⟩ := validApproval_some hb
    rw [hget] at ha
    cases ha
    cases hmark.symm.trans hnot
  constructor
  · intro d' hd' hallow id hid
    rw [hrows] at hd'
    rcases List.mem_cons.1 hd' with rfl | hd'
    · rw [hreference] at hid
      obtain ⟨a, ha, rfl⟩ := Option.map_eq_some_iff.1 hid
      exact ⟨_, used_of_allow hallow ha, rfl⟩
    · obtain ⟨a, ha, hmark⟩ := h.used d' hd' hallow id hid
      exact used_keep d ha hmark
  · intro d₁ h₁ d₂ h₂ hallow₁ hallow₂ id hid₁ hid₂
    rw [hrows] at h₁ h₂
    rcases List.mem_cons.1 h₁ with rfl | hold₁ <;> rcases List.mem_cons.1 h₂ with rfl | hold₂
    · rfl
    · exact absurd hid₁ (hunused d₂ hold₂ hallow₂ id hid₂)
    · exact absurd hid₂ (hunused d₁ hold₁ hallow₁ id hid₁)
    · exact h.single d₁ hold₁ d₂ hold₂ hallow₁ hallow₂ id hid₁ hid₂
  · intro id a ha
    obtain ⟨a', mark, ha', rfl⟩ := approvals_keep hvalid ha
    exact (h.issued id a' ha').snoc hstep fun p hp _ => hp

theorem approvals_step (h : Approvals sha256 start labels g) (hrun : Run (GateStep sha256) start labels g)
    (hstep : GateStep sha256 g l g') : Approvals sha256 start (labels ++ [l]) g' := by
  cases gateEffect_of_step hstep with
  | refused => exact h.of_same hstep rfl rfl rfl
  | ticked => exact h.of_same hstep rfl rfl rfl
  | registered => exact h.of_same hstep rfl rfl rfl
  | issued hagent hactive hfresh => exact h.issue hstep hfresh
  | approved hrequest hgranted => exact h.approve hrun hrequest hgranted rfl hstep
  | decided hrequest hauthorized => exact h.decide hauthorized hstep
  | revoked => exact h.of_same hstep rfl rfl rfl

theorem approvals_of_run (hrun : Run (GateStep sha256) (GateStore.init now) labels g) :
    Approvals sha256 (GateStore.init now) labels g := by
  induction hrun with
  | nil =>
    constructor
    · intro d hd
      cases hd
    · intro d hd
      cases hd
    · intro id a ha
      cases ha
  | snoc hfirst hlast ih => exact approvals_step ih hfirst hlast

/-! ## What an `ALLOW` references -/

/-- A decision was taken under an approval: one for the rule, unused and unexpired, issued before
in the run under the policy in force, for the same request. -/
def TakenUnder (sha256 : Text → Text) (start : GateStore) (d : StoredDecision) (policy : Policy) (rule : ApprovalRule)
    (before : List GateLabel) (g : GateStore) : Prop :=
  ∃ a r, d.approvalReference = some a.id ∧ g.approvals.get a.id = some a ∧
    Usable sha256 g.now d.agentId policy d.request a ∧ a.role = rule.approverRole ∧
    Took (GateStep sha256) (IssuedFor sha256 a r policy) start before g ∧
    (SameRequest r d.request ∨ Collision sha256 (boundText r) (boundText d.request))

/-- The step took the decision, under an approval for each rule for its action. -/
def TakenApproved (sha256 : Text → Text) (start : GateStore) (d : StoredDecision) (before : List GateLabel) (g : GateStore)
    (l : GateLabel) (_g' : GateStore) : Prop :=
  ∃ c policy, l = .call c (.ok (.decided d)) ∧ g.policies.get d.agentId = some policy ∧
    ∀ rule ∈ policy.envelope.approvalsRequiredFor, rule.action = d.request.action →
      TakenUnder sha256 start d policy rule before g

theorem takenUnder_of_allow (h : Approvals sha256 start labels g) (hauthorized : Authorized sha256 g agent request d)
    (hallow : d.decision = .allow) :
    ∃ policy, g.policies.get d.agentId = some policy ∧
      ∀ rule ∈ policy.envelope.approvalsRequiredFor, rule.action = d.request.action →
        TakenUnder sha256 start d policy rule labels g := by
  have hid : d.agentId = agent.id := by rw [hauthorized.decided]; rfl
  have hrequest : d.request = request := by rw [hauthorized.decided]; rfl
  rw [hauthorized.decided] at hallow
  obtain ⟨policy, hpolicy, hlimits⟩ := allow_of_decide hallow
  refine ⟨policy, hid ▸ hpolicy, ?_⟩
  intro rule hrule haction
  rw [hrequest] at haction
  have hsome := approvalValid_of_limitsVerdict hlimits hrule haction
  obtain ⟨a, ha⟩ := Option.isSome_iff_exists.1 hsome
  obtain ⟨hget, -, husable⟩ := validApproval_some ha
  have husable := husable policy hpolicy
  obtain ⟨r, policy', htook, hsame⟩ := h.issued a.id a hget
  have hpolicy' : policy = policy' := by
    refine hsame policy ?_ husable.policyRevision.symm
    rw [husable.agentId]
    exact hpolicy
  subst hpolicy'
  refine ⟨a, r, ?_, hget, ?_, (husable.role rule hrule haction).symm, htook, ?_⟩
  · rw [hauthorized.decided]
    exact congrArg (Option.map Approval.id) ha
  · rw [hid, hrequest]
    exact husable
  · obtain ⟨before, u, b, v, after, -, -, -, -, hgranted, -⟩ := htook
    have hbound : a.issued.requestHash = requestHash sha256 r := by rw [hgranted.bound]
    rw [hrequest]
    exact sameRequest_or_collision (hbound.symm.trans husable.requestHash)

/-- **An approval is good for one decision**, and what a rule asks for is allowed under an
approval only. -/
theorem approval_of_run {now : Nat} (hrun : Run (GateStep sha256) (GateStore.init now) labels g) :
    (∀ d ∈ g.decisions.rows, ∀ d' ∈ g.decisions.rows, d.decision = .allow → d'.decision = .allow →
      ∀ id, d.approvalReference = some id → d'.approvalReference = some id → d = d') ∧
    ∀ d ∈ g.decisions.rows, d.decision = .allow →
      Took (GateStep sha256) (TakenApproved sha256 (GateStore.init now) d) (GateStore.init now) labels g := by
  refine ⟨(approvals_of_run hrun).single, ?_⟩
  induction hrun with
  | nil =>
    intro d hd
    cases hd
  | snoc hfirst hlast ih =>
    intro d hd hallow
    cases gateEffect_of_step hlast with
    | decided hrequest hauthorized =>
      have hrows := Keyed.rows_put hauthorized.fresh
      rcases List.mem_cons.1 (hrows ▸ hd) with rfl | hd
      · obtain ⟨policy, hpolicy, hunder⟩ := takenUnder_of_allow (approvals_of_run hfirst) hauthorized hallow
        exact hfirst.took hlast ⟨_, policy, rfl, hpolicy, hunder⟩
      · exact (ih d hd hallow).snoc hlast
    | refused => exact (ih d hd hallow).snoc hlast
    | ticked => exact (ih d hd hallow).snoc hlast
    | registered => exact (ih d hd hallow).snoc hlast
    | issued => exact (ih d hd hallow).snoc hlast
    | approved => exact (ih d hd hallow).snoc hlast
    | revoked => exact (ih d hd hallow).snoc hlast

end

/-! ## Example -/

/-- A report is read under the approval of a lead. -/
def sampleApprovedCalls : List GateCall :=
  [sampleRegistration, .setEnvelope .admin (some (sampleEnvelopeBody 0 [⟨"report.read", "lead"⟩])) "pol_1",
    .approve (.approver "lead") (some ⟨sampleRequest none none, some 500⟩) "apr_1",
    .authorize (.agent "agent_1") (sampleRequest none (some "apr_1")) "dec_1"]

theorem approval_of_run_sampleCalls :
    ∃ labels g, Run (GateStep id) (GateStore.init 10) labels g ∧
      (g.decisions.get "dec_1").any (fun d => d.decision = .allow ∧ d.approvalReference = some (Text.ofAscii "apr_1")) = true ∧
      (∀ d ∈ g.decisions.rows, ∀ d' ∈ g.decisions.rows, d.decision = .allow → d'.decision = .allow →
        ∀ id, d.approvalReference = some id → d'.approvalReference = some id → d = d') ∧
      ∀ d ∈ g.decisions.rows, d.decision = .allow →
        Took (GateStep id) (TakenApproved id (GateStore.init 10) d) (GateStore.init 10) labels g := by
  have hreplay : (replay (GateStore.next id) (GateStore.init 10) sampleApprovedCalls).any (fun g =>
      (g.decisions.get "dec_1").any fun d =>
        d.decision = .allow ∧ d.approvalReference = some (Text.ofAscii "apr_1")) = true := by decide +kernel
  obtain ⟨labels, g, hrun, htest⟩ := gateRun_of_test hreplay
  have h := approval_of_run hrun
  exact ⟨labels, g, hrun, htest, h.1, h.2⟩

end Tna.Gate
