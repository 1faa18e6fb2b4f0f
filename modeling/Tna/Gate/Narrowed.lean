import Tna.Gate.Policy

/-!
# Authorization is monotone

`evaluate` is a chain of early exits. Read backwards, an `ALLOW` is a list of
conditions, one for each exit; each of them only gets easier when the envelope is
widened or the usage is lowered.
-/

namespace Tna.Gate

open Tna.Js

/-! ## What an allowed request satisfies -/

/-- Every check of `evaluate` passes, under a binding of the action. -/
structure Permitted (request : AuthorizationRequest) (envelope : Envelope) (context : PolicyContext)
    (binding : ActionBinding) : Prop where
  active : context.revoked = false
  agent : envelope.agent.id = request.agentId
  unexpired : context.now < envelope.agent.expiresAt
  bound : envelope.actionBindings.find? (fun b => b.action = request.action) = some binding
  tool : binding.tool = request.tool
  toolAllowed : request.tool ∈ envelope.tools.allow
  toolNotDenied : request.tool ∉ envelope.tools.deny
  resource : resourceVerdict request envelope context binding = none
  destination : binding.destinationRequired = true → request.destination ≠ none
  network : ∀ d, request.destination = some d →
    d ∈ envelope.network.allow ∧ d ∉ envelope.network.deny.filter (· ≠ Text.ofAscii "*")
  runtime : ∀ started, context.usage.startedAt = some started →
    context.now - started < envelope.limits.maxRuntimeSeconds * 1000
  calls : context.usage.calls < envelope.limits.maxToolCalls
  external : request.destination.isSome = true → context.usage.external < envelope.limits.maxExternalRequests
  cost : context.usage.costMicros + request.estimatedCost ≤ envelope.limits.maxCost
  retries : attemptsFor context.usage request.action < 1 + envelope.limits.maxRetriesPerAction
  approval : ∀ rule ∈ envelope.approvalsRequiredFor, rule.action = request.action → context.approvalValid = true

section
variable {request : AuthorizationRequest} {envelope : Envelope} {context : PolicyContext}

/-- The limits allow exactly what stays below each of them and has its approval. -/
theorem limitsVerdict_allow_iff :
    (limitsVerdict request envelope context).decision = .allow ↔
      (∀ started, context.usage.startedAt = some started →
        context.now - started < envelope.limits.maxRuntimeSeconds * 1000) ∧
      context.usage.calls < envelope.limits.maxToolCalls ∧
      (request.destination.isSome = true → context.usage.external < envelope.limits.maxExternalRequests) ∧
      context.usage.costMicros + request.estimatedCost ≤ envelope.limits.maxCost ∧
      attemptsFor context.usage request.action < 1 + envelope.limits.maxRetriesPerAction ∧
      ∀ rule ∈ envelope.approvalsRequiredFor, rule.action = request.action → context.approvalValid = true := by
  constructor
  · intro h
    unfold limitsVerdict at h
    simp only at h
    split at h
    · cases h
    next hruntime =>
    split at h
    · cases h
    next hcalls =>
    split at h
    · cases h
    next hexternal =>
    split at h
    · cases h
    next hcost =>
    split at h
    · cases h
    next hretries =>
    split at h
    · cases h
    next happroval =>
    refine ⟨fun started hstarted => ?_, Nat.not_le.1 hcalls, fun hsome => ?_, Nat.not_lt.1 hcost,
      Nat.not_le.1 hretries, fun rule hrule haction => ?_⟩
    · rw [hstarted, Option.any_some, decide_eq_true_eq] at hruntime
      exact Nat.not_le.1 hruntime
    · exact Nat.not_le.1 fun hle => hexternal ⟨hsome, hle⟩
    · refine (Bool.eq_false_or_eq_true context.approvalValid).resolve_right fun hinvalid => happroval ⟨?_, hinvalid⟩
      exact List.any_eq_true.2 ⟨rule, hrule, decide_eq_true haction⟩
  · rintro ⟨hruntime, hcalls, hexternal, hcost, hretries, happroval⟩
    unfold limitsVerdict
    simp only
    rw [if_neg, if_neg (Nat.not_le.2 hcalls), if_neg, if_neg (Nat.not_lt.2 hcost), if_neg (Nat.not_le.2 hretries),
      if_neg]
    · rintro ⟨hany, hinvalid⟩
      obtain ⟨rule, hrule, haction⟩ := List.any_eq_true.1 hany
      have hvalid := happroval rule hrule (of_decide_eq_true haction)
      rw [hinvalid] at hvalid
      cases hvalid
    · rintro ⟨hsome, hle⟩
      exact absurd (hexternal hsome) (Nat.not_lt.2 hle)
    · cases hstarted : context.usage.startedAt with
      | none => simp
      | some started =>
        rw [Option.any_some, decide_eq_true_eq]
        exact Nat.not_le.2 (hruntime started hstarted)

/-- **`evaluate` read backwards**: it allows exactly the requests every check lets through. -/
theorem evaluate_allow_iff :
    (evaluate request (some envelope) context).decision = .allow ↔
      ∃ binding, Permitted request envelope context binding := by
  constructor
  · intro h
    unfold evaluate at h
    simp only at h
    split at h
    · cases h
    next hactive =>
    split at h
    · cases h
    next hagent =>
    split at h
    · cases h
    next hexpiry =>
    split at h
    · cases h
    next binding hbound =>
    split at h
    · cases h
    next htool =>
    split at h
    · next verdict hverdict => exact absurd (resourceVerdict_ne_allow hverdict) (by rw [h]; simp)
    next hresource =>
    split at h
    · cases h
    next hdestination =>
    split at h
    · cases h
    next hnetwork =>
    obtain ⟨hruntime, hcalls, hexternal, hcost, hretries, happroval⟩ := limitsVerdict_allow_iff.1 h
    simp only [not_or, not_not] at htool
    refine ⟨binding, ⟨by simpa using hactive, not_not.1 hagent, Nat.not_le.1 hexpiry, hbound, htool.1, htool.2.1,
      htool.2.2, hresource, fun hreq hnone => hdestination ⟨hreq, hnone⟩, fun d hd => ?_, hruntime, hcalls, hexternal,
      hcost, hretries, happroval⟩⟩
    rw [hd, Option.any_some, decide_eq_true_eq, not_or, not_not] at hnetwork
    exact hnetwork
  · rintro ⟨binding, p⟩
    have hpermitted : ¬ (binding.tool ≠ request.tool ∨ request.tool ∉ envelope.tools.allow ∨
        request.tool ∈ envelope.tools.deny) := by
      rintro (hne | hout | hdenied)
      · exact hne p.tool
      · exact hout p.toolAllowed
      · exact p.toolNotDenied hdenied
    unfold evaluate
    rw [if_neg (by simp [p.active])]
    simp only
    rw [if_neg (not_not_intro p.agent), if_neg (Nat.not_le.2 p.unexpired), p.bound]
    simp only
    rw [if_neg hpermitted, p.resource]
    simp only
    rw [if_neg fun hmissing => p.destination hmissing.1 hmissing.2, if_neg]
    · exact limitsVerdict_allow_iff.2 ⟨p.runtime, p.calls, p.external, p.cost, p.retries, p.approval⟩
    · cases hd : request.destination with
      | none => simp
      | some d =>
        rw [Option.any_some, decide_eq_true_eq]
        rintro (hout | hdenied)
        · exact hout (p.network d hd).1
        · exact (p.network d hd).2 hdenied

end

/-! ## Narrowing -/

/-- Every resource listed in one is listed in the other. -/
structure Permissions.Narrows (p' p : Permissions) : Prop where
  read : p'.read ⊆ p.read
  write : p'.write ⊆ p.write

/-- Less is allowed, or more is denied. -/
structure AllowDeny.Narrows (a' a : AllowDeny) : Prop where
  allow : a'.allow ⊆ a.allow
  deny : a.deny ⊆ a'.deny

structure Limits.Narrows (l' l : Limits) : Prop where
  runtime : l'.maxRuntimeSeconds ≤ l.maxRuntimeSeconds
  calls : l'.maxToolCalls ≤ l.maxToolCalls
  external : l'.maxExternalRequests ≤ l.maxExternalRequests
  cost : l'.maxCost ≤ l.maxCost
  retries : l'.maxRetriesPerAction ≤ l.maxRetriesPerAction

/-- An envelope made from another, for the same agent, by taking away what it allows and
adding to what it forbids. A valid envelope has approval rules for bound actions only,
so a rule may go together with the binding it is for. -/
structure Envelope.Narrows (e' e : Envelope) : Prop where
  agent : e'.agent.id = e.agent.id
  expiry : e'.agent.expiresAt ≤ e.agent.expiresAt
  bindings : e'.actionBindings ⊆ e.actionBindings
  repositories : e'.resources.repositories.Narrows e.resources.repositories
  files : e'.resources.files.Narrows e.resources.files
  databases : e'.resources.databases.Narrows e.resources.databases
  infrastructure : e'.resources.infrastructure.Narrows e.resources.infrastructure
  tools : e'.tools.Narrows e.tools
  network : e'.network.Narrows e.network
  communicateWith : e'.communicateWith ⊆ e.communicateWith
  limits : e'.limits.Narrows e.limits
  approvals : ∀ rule ∈ e.approvalsRequiredFor, (∃ b ∈ e'.actionBindings, b.action = rule.action) →
    rule ∈ e'.approvalsRequiredFor

/-- Usage that is nowhere larger, by an agent that has not been running for longer. -/
structure Usage.Le (u u' : Usage) : Prop where
  startedAt : ∀ started, u.startedAt = some started → ∃ earlier, u'.startedAt = some earlier ∧ earlier ≤ started
  calls : u.calls ≤ u'.calls
  external : u.external ≤ u'.external
  costMicros : u.costMicros ≤ u'.costMicros
  attempts : ∀ action, attemptsFor u action ≤ attemptsFor u' action

variable {e e' : Envelope} {binding : ActionBinding} {context context' : PolicyContext} {request : AuthorizationRequest}

/-- The bindings of a valid list are for actions not bound before, each for one of its own. -/
theorem validBindings_nodup {seen : List Text} {bindings : List ActionBinding} (h : validBindings e seen bindings = true) :
    (∀ b ∈ bindings, b.action ∉ seen) ∧ (bindings.map ActionBinding.action).Nodup := by
  induction bindings generalizing seen with
  | nil => exact ⟨by simp, List.nodup_nil⟩
  | cons b rest ih =>
    simp only [validBindings, validBinding, Bool.and_eq_true, decide_eq_true_eq] at h
    obtain ⟨hb, hrest⟩ := h
    obtain ⟨hout, hnodup⟩ := ih hrest
    constructor
    · intro other hother
      rcases List.mem_cons.1 hother with rfl | hother
      · exact hb.1.1.1.1.1.1.1
      · exact fun hmem => hout other hother (List.mem_cons_of_mem _ hmem)
    · rw [List.map_cons, List.nodup_cons]
      refine ⟨fun hmem => ?_, hnodup⟩
      obtain ⟨other, hother, heq⟩ := List.mem_map.1 hmem
      exact hout other hother (heq ▸ List.mem_cons_self ..)

/-- In a valid envelope the binding of an action is the only one for it. -/
theorem find_binding (he : validEnvelope e = true) {action : Text} (hmem : binding ∈ e.actionBindings)
    (haction : binding.action = action) : e.actionBindings.find? (fun b => b.action = action) = some binding := by
  simp only [validEnvelope, Bool.and_eq_true] at he
  have hsome : (e.actionBindings.find? fun b => decide (b.action = action)).isSome = true :=
    List.find?_isSome.2 ⟨binding, hmem, by simpa using haction⟩
  obtain ⟨found, hfound⟩ := Option.isSome_iff_exists.1 hsome
  have hfoundAction : found.action = action := by simpa using List.find?_some hfound
  have heq : found = binding := List.inj_on_of_nodup_map (validBindings_nodup he.1.1).2
    (List.mem_of_find?_eq_some hfound) hmem (hfoundAction.trans haction.symm)
  rw [hfound, heq]

theorem matchesResource_mono {resource : Text} {patterns' patterns : List Text} {files : Bool}
    (hsub : patterns' ⊆ patterns) (h : matchesResource resource patterns' files = true) :
    matchesResource resource patterns files = true := by
  simp only [matchesResource, Bool.and_eq_true, List.any_eq_true] at h ⊢
  obtain ⟨hvalid, pattern, hpattern, hmatch⟩ := h
  exact ⟨hvalid, pattern, hsub hpattern, hmatch⟩

/-- The lists of each kind are narrowed. -/
theorem Envelope.Narrows.of (h : e'.Narrows e) (kind : ResourceKind) :
    (e'.resources.of kind).Narrows (e.resources.of kind) := by
  cases kind with
  | repositories => exact h.repositories
  | files => exact h.files
  | databases => exact h.databases
  | infrastructure => exact h.infrastructure
  | secrets => exact ⟨List.Subset.refl _, List.Subset.refl _⟩
  | agents => exact ⟨List.Subset.refl _, List.Subset.refl _⟩

/-- What a binding demands of the resource is met by a wider envelope, whatever the usage. -/
theorem resourceVerdict_mono (h : e'.Narrows e) (hknown : context'.knownAgents = context.knownAgents)
    (hnone : resourceVerdict request e' context' binding = none) : resourceVerdict request e context binding = none := by
  unfold resourceVerdict at hnone ⊢
  split at hnone
  · cases hnone
  · split at hnone
    · cases hnone
    next hcontact =>
      rw [not_or, not_not, not_not] at hcontact
      exact if_neg fun hbad => hbad.elim (fun hout => hout (hknown ▸ hcontact.1))
        fun hout => hout (h.communicateWith hcontact.2)
  · split at hnone
    · split at hnone
      next hmatch => exact if_pos (matchesResource_mono (h.of _).read hmatch)
      · cases hnone
    · split at hnone
      next hmatch => exact if_pos (matchesResource_mono (h.of _).write hmatch)
      · cases hnone
    · cases hnone

/-! ## Monotonicity -/

/-- A request permitted under a narrowed envelope with more usage is permitted under the
envelope it was narrowed from, by the same binding. -/
theorem Permitted.widen (p : Permitted request e' context' binding) (hvalid : validEnvelope e = true) (h : e'.Narrows e)
    (hnow : context'.now = context.now) (hrevoked : context'.revoked = context.revoked)
    (happroval : context'.approvalValid = context.approvalValid) (hknown : context'.knownAgents = context.knownAgents)
    (husage : context.usage.Le context'.usage) : Permitted request e context binding := by
  have hmem : binding ∈ e'.actionBindings := List.mem_of_find?_eq_some p.bound
  have haction : binding.action = request.action := by simpa using List.find?_some p.bound
  exact {
    active := hrevoked ▸ p.active
    agent := h.agent ▸ p.agent
    unexpired := hnow ▸ p.unexpired.trans_le h.expiry
    bound := find_binding hvalid (h.bindings hmem) haction
    tool := p.tool
    toolAllowed := h.tools.allow p.toolAllowed
    toolNotDenied := fun hdenied => p.toolNotDenied (h.tools.deny hdenied)
    resource := resourceVerdict_mono h hknown p.resource
    destination := p.destination
    network := fun d hd => by
      obtain ⟨hallow, hdeny⟩ := p.network d hd
      refine ⟨h.network.allow hallow, fun hdenied => hdeny ?_⟩
      obtain ⟨hmem, hstar⟩ := List.mem_filter.1 hdenied
      exact List.mem_filter.2 ⟨h.network.deny hmem, hstar⟩
    runtime := fun started hstarted => by
      obtain ⟨earlier, hearlier, hle⟩ := husage.startedAt started hstarted
      have hbefore := p.runtime earlier hearlier
      have hlimit := h.limits.runtime
      rw [hnow] at hbefore
      omega
    calls := (husage.calls.trans_lt p.calls).trans_le h.limits.calls
    external := fun hsome => (husage.external.trans_lt (p.external hsome)).trans_le h.limits.external
    cost := (Nat.add_le_add_right husage.costMicros _).trans (p.cost.trans h.limits.cost)
    retries := (husage.attempts _).trans_lt (p.retries.trans_le (Nat.add_le_add_left h.limits.retries 1))
    approval := fun rule hrule hruleAction => by
      have hkept := h.approvals rule hrule ⟨binding, hmem, haction.trans hruleAction.symm⟩
      exact happroval ▸ p.approval rule hkept hruleAction }

/-- **Authorization is monotone.** What is allowed under a narrowed envelope after more
usage is allowed under the valid envelope it was narrowed from after less, at the same
time and with the same approval, revocation and known agents. -/
theorem evaluate_mono {request : AuthorizationRequest} {e' e : Envelope} {context : PolicyContext} {usage' : Usage}
    (he : validEnvelope e = true) (h : e'.Narrows e) (husage : context.usage.Le usage')
    (hallow : (evaluate request (some e') { context with usage := usage' }).decision = .allow) :
    (evaluate request (some e) context).decision = .allow := by
  obtain ⟨binding, p⟩ := evaluate_allow_iff.1 hallow
  exact evaluate_allow_iff.2 ⟨binding, p.widen he h rfl rfl rfl rfl husage⟩

/-! ## A sample -/

/-- One tree of files may be written to. -/
def writeEnvelope (expiresAt : Nat) (rules : List ApprovalRule) : Envelope where
  agent := ⟨"agent", "agent", "role", "owner", "test", expiresAt⟩
  objective := ⟨"task", "goal", ["done"], []⟩
  resources := ⟨.none, ⟨[], ["/srv/a/**"]⟩, .none, .none⟩
  tools := ⟨["edit"], []⟩
  network := ⟨[], []⟩
  communicateWith := []
  limits := ⟨60, 5, 0, 0, 1⟩
  approvalsRequiredFor := rules
  actionBindings := [⟨"file.write", "done", "edit", .files, .write, false⟩]

def writeRequest : AuthorizationRequest where
  agentId := "agent"
  action := "file.write"
  tool := "edit"
  resource := "/srv/a/b"
  destination := none
  estimatedCost := 0
  approvalId := none
  agentId_id := by decide
  action_id := by decide
  tool_id := by decide
  resource_label := by decide

theorem writeEnvelope_narrows : (writeEnvelope 8000 [⟨"file.write", "lead"⟩]).Narrows (writeEnvelope 9000 []) where
  agent := rfl
  expiry := by decide
  bindings := List.Subset.refl _
  repositories := ⟨List.Subset.refl _, List.Subset.refl _⟩
  files := ⟨List.Subset.refl _, List.Subset.refl _⟩
  databases := ⟨List.Subset.refl _, List.Subset.refl _⟩
  infrastructure := ⟨List.Subset.refl _, List.Subset.refl _⟩
  tools := ⟨List.Subset.refl _, List.Subset.refl _⟩
  network := ⟨List.Subset.refl _, List.Subset.refl _⟩
  communicateWith := List.Subset.refl _
  limits := ⟨le_rfl, le_rfl, le_rfl, le_rfl, le_rfl⟩
  approvals := fun _ hrule => absurd hrule List.not_mem_nil

/-- A shorter life, an approval rule, and one call made. -/
theorem evaluate_mono_write :
    (evaluate writeRequest (some (writeEnvelope 9000 [])) ⟨5000, false, emptyUsage, true, []⟩).decision = .allow := by
  have husage : Usage.Le emptyUsage ⟨some 1000, 1, 0, 0, [("file.write", 1)]⟩ :=
    ⟨fun _ hstarted => (by cases hstarted), by decide, le_rfl, le_rfl, fun action => by simp [attemptsFor, emptyUsage]⟩
  exact evaluate_mono (by decide +kernel) writeEnvelope_narrows husage (by decide +kernel)

end Tna.Gate
