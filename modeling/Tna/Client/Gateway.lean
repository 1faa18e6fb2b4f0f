import Tna.Client.Submission
import Tna.Platform.Exclusive

/-!
# The gateway

Any number of submissions, each going on by itself between the others, beside everything
else that is done to the client store, the platform store and the broker's. Two
submissions are never answered with one action of the platform, for they never ask for
the same: each names its own record.
-/

namespace Tna.Client

open Tna.Js Tna.Gate Tna.Lib Tna.Platform

/-- A submission, and where it stands. -/
structure Submission extends ClientRequest where
  pc : SubmissionPc

structure Gateway where
  clients : ClientStore
  platform : DurableStore
  broker : Broker.Store
  submissions : Table Nat Submission

/-- What the gateway is composed of: whether there is a facade, and the process of each tenant's. -/
structure GatewayParts where
  sha256 : Text → Text
  facade : Bool
  processes : Text → OrchestratorProcess

inductive GatewayLabel where
  | submits (i : Nat) (c : SubmissionContext) (r : ClientRequest)
  | goesOn (i : Nat) (a : OrchestratorAnswer)
  | answers (i : Nat)
  | stops (i : Nat)
  | client (op : ClientOp)
  | call (c : CallContext) (call : StoreCall)
  | broker

/-- A submission moves on. -/
def Gateway.goto (w : Gateway) (i : Nat) (r : Submission) (pc : SubmissionPc) : Gateway :=
  { w with submissions := w.submissions.insert i { r with pc } }

/-- A submission as the handler leaves it, and what the synchronization of its tenant wrote for the broker. -/
def Gateway.submitted (w : Gateway) (g : GatewayParts) (i : Nat) (c : SubmissionContext) (r : ClientRequest)
    (k : Broker.Store) : Gateway :=
  let handled := handleSubmission g.facade c r w.clients
  { w with
    clients := handled.1
    broker := k
    submissions := w.submissions.insert i { r with pc := handled.2 } }

inductive GatewayStep (g : GatewayParts) (w : Gateway) : GatewayLabel → Gateway → Prop where
  | submits {i : Nat} (c : SubmissionContext) (r : ClientRequest) (k : Broker.Store)
    (hnew : w.submissions.lookup i = none) : GatewayStep g w (.submits i c r) (w.submitted g i c r k)
  | goesOn {i : Nat} {r : Submission} {clientActionId : Text} {pc : OrchestratorPc} {a : OrchestratorAnswer}
    {e : OrchestratorEffect} (hrow : w.submissions.lookup i = some r) (hpc : r.pc = .running clientActionId pc)
    (h : orchestratorStep w.platform w.broker (g.processes r.tenantId) pc a = some e) :
    GatewayStep g w (.goesOn i a)
      (({ w with platform := e.store, broker := e.broker } : Gateway).goto i r (.running clientActionId e.pc))
  | answers {i : Nat} {r : Submission} {clientActionId : Text} {o : RunOutcome} (hrow : w.submissions.lookup i = some r)
    (hpc : r.pc = .running clientActionId (.over o)) :
    GatewayStep g w (.answers i) (w.goto i r (.answered (answerOf clientActionId o)))
  | stops {i : Nat} {r : Submission} (hrow : w.submissions.lookup i = some r) : GatewayStep g w (.stops i) (w.goto i r .lost)
  | client {op : ClientOp} {t : ClientStore} (h : op.Step g.sha256 w.clients t) :
    GatewayStep g w (.client op) { w with clients := t }
  | call {c : CallContext} {call : StoreCall} {t : DurableStore} (h : StoreStep g.sha256 w.platform (c, call) t) :
    GatewayStep g w (.call c call) { w with platform := t }
  | broker (k : Broker.Store) : GatewayStep g w .broker { w with broker := k }

/-! ## The records -/

def ClientActionRecord.key (r : ClientActionRecord) : Text × Text := (r.tenantId, r.clientActionId)

section
variable {s t : ClientStore} {u : Unit}

variable {tenantId clientActionId : Text} {tool : Option GovernedToolDefinition} {toolId : Option Text} {o : JsObject}
  {r : ClientRequest} {e : ClientError}

theorem assertActionEligible_ok (h : assertActionEligible tenantId s = .ok u t) : t = s := by
  simp only [assertActionEligible, bind_eq_ok, getTenant_ok, demand_eq_ok] at h
  obtain ⟨_, _, ⟨-, rfl⟩, -, rfl⟩ := h
  rfl

theorem governedTool_ok (h : governedTool tenantId toolId s = .ok tool t) : t = s := by
  cases hnamed : toolId.filter (· ≠ []) with
  | none =>
    simp only [governedTool, hnamed, pure_ok] at h
    exact h.2
  | some toolId =>
    simp only [governedTool, hnamed] at h
    simp only [bind_eq_ok, getTool_ok, demand_eq_ok, pure_ok] at h
    obtain ⟨_, _, ⟨-, rfl⟩, _, _, ⟨-, rfl⟩, _, _, ⟨-, rfl⟩, -, rfl⟩ := h
    rfl

/-- A submission that is recorded is recorded under an id that is new for its tenant. -/
theorem recordSubmission_ok (h : recordSubmission clientActionId r o s = .ok tool t) :
    (r.tenantId, clientActionId) ∉ s.actions.map ClientActionRecord.key ∧
      ∃ row, row.key = (r.tenantId, clientActionId) ∧ t.actions = s.actions ++ [row] := by
  obtain ⟨_, _, heligible, hgoverned⟩ := bind_eq_ok.1 h
  obtain rfl := assertActionEligible_ok heligible
  obtain ⟨_, _, htool, hrecorded⟩ := bind_eq_ok.1 hgoverned
  obtain rfl := governedTool_ok htool
  obtain ⟨_, _, hrecord, hanswer⟩ := bind_eq_ok.1 hrecorded
  obtain ⟨-, rfl⟩ := pure_ok.1 hanswer
  simp only [recordClientAction, bind_eq_ok, get_ok, demand_eq_ok, set_ok, List.all_eq_true, decide_eq_true_eq] at hrecord
  obtain ⟨_, _, ⟨rfl, rfl⟩, _, _, ⟨hnew, rfl⟩, rfl⟩ := hrecord
  refine ⟨?_, _, rfl, rfl⟩
  intro hmem
  obtain ⟨row, hrow, hkey⟩ := List.mem_map.1 hmem
  exact hnew row hrow hkey

theorem getTenant_error (h : getTenant tenantId s = .error e t) : t = s := by
  simp only [getTenant, bind_eq_error, get_ok, demandSome_eq_error] at h
  obtain h | ⟨_, _, ⟨rfl, rfl⟩, -, -, rfl⟩ := h
  · cases h
  · rfl

theorem getTool_error {toolId : Text} (h : getTool tenantId toolId s = .error e t) : t = s := by
  simp only [getTool, bind_eq_error, get_ok, demandSome_eq_error] at h
  obtain h | ⟨_, _, ⟨rfl, rfl⟩, -, -, rfl⟩ := h
  · cases h
  · rfl

theorem assertActionEligible_error (h : assertActionEligible tenantId s = .error e t) : t = s := by
  rcases bind_eq_error.1 h with hget | ⟨_, _, hget, hdemand⟩
  · exact getTenant_error hget
  · obtain ⟨-, -, rfl⟩ := demand_eq_error.1 hdemand
    exact (getTenant_ok.1 hget).2

theorem governedTool_error (h : governedTool tenantId toolId s = .error e t) : t = s := by
  cases hnamed : toolId.filter (· ≠ []) with
  | none =>
    simp only [governedTool, hnamed] at h
    cases h
  | some toolId =>
    simp only [governedTool, hnamed, bind_eq_error, getTool_ok, demand_eq_ok, demand_eq_error] at h
    obtain h | ⟨_, _, ⟨-, rfl⟩, ⟨-, -, rfl⟩ | ⟨_, _, ⟨-, rfl⟩, ⟨-, -, rfl⟩ | ⟨_, _, ⟨-, rfl⟩, h⟩⟩⟩ := h
    · exact getTool_error h
    · rfl
    · rfl
    · cases h

theorem recordClientAction_error {row : ClientActionRecord} (h : recordClientAction row s = .error e t) : t = s := by
  simp only [recordClientAction, bind_eq_error, get_ok, demand_eq_error] at h
  obtain h | ⟨_, _, ⟨rfl, rfl⟩, ⟨-, -, rfl⟩ | ⟨_, _, -, h⟩⟩ := h
  · cases h
  · rfl
  · cases h

/-- A submission that is refused writes nothing. -/
theorem recordSubmission_error (h : recordSubmission clientActionId r o s = .error e t) : t = s := by
  rcases bind_eq_error.1 h with heligible | ⟨_, _, heligible, hgoverned⟩
  · exact assertActionEligible_error heligible
  obtain rfl := assertActionEligible_ok heligible
  rcases bind_eq_error.1 hgoverned with htool | ⟨_, _, htool, hrecorded⟩
  · exact governedTool_error htool
  obtain rfl := governedTool_ok htool
  rcases bind_eq_error.1 hrecorded with hrecord | ⟨_, _, -, hanswer⟩
  · exact recordClientAction_error hrecord
  · cases hanswer

/-- **Records** are only added. -/
theorem actions_of_step {sha256 : Text → Text} {op : ClientOp} (h : op.Step sha256 s t) : s.actions <+: t.actions := by
  have hsame : t.actions = s.actions → s.actions <+: t.actions := fun h => h ▸ List.prefix_refl _
  rcases body_or_same h with hok | rfl
  swap
  · exact List.prefix_refl _
  cases op with
  | createTenant =>
    obtain ⟨-, rfl⟩ := insertTenant_ok.1 hok
    exact hsame rfl
  | activateTenant =>
    obtain ⟨-, -, -, -, rfl⟩ := transitionTenant_ok hok
    exact hsame rfl
  | suspendTenant =>
    obtain ⟨-, -, -, -, rfl⟩ := transitionTenant_ok hok
    exact hsame rfl
  | resumeTenant =>
    obtain ⟨-, -, -, -, rfl⟩ := transitionTenant_ok hok
    exact hsame rfl
  | beginOffboarding => exact hsame (by rw [(beginOffboarding_ok hok).2])
  | completeOffboarding =>
    obtain ⟨-, -, -, -, rfl⟩ := transitionTenant_ok hok
    exact hsame rfl
  | createServiceIdentity =>
    obtain ⟨-, -, rfl⟩ := createServiceIdentity_ok hok
    exact hsame rfl
  | rotateCredential => exact hsame (by rw [(rotateCredential_ok hok).2.2])
  | revokeServiceIdentity => exact hsame (by rw [(revokeServiceIdentity_ok hok).2])
  | registerMcpServer =>
    obtain ⟨-, rfl⟩ := registerMcpServer_ok hok
    exact hsame rfl
  | setMcpServerStatus =>
    obtain ⟨-, rfl⟩ := setMcpServerStatus_ok hok
    exact hsame rfl
  | reconfigureMcpServer =>
    obtain ⟨-, rfl⟩ := reconfigureMcpServer_ok hok
    exact hsame rfl
  | recordDiscovery =>
    obtain ⟨rfl, -⟩ := recordDiscovery_ok hok
    exact hsame rfl
  | enableTool =>
    obtain ⟨-, rfl⟩ := enableTool_ok hok
    exact hsame rfl
  | disableTool => exact hsame (by rw [disableTool_ok hok])
  | recordClientAction =>
    rw [recordClientAction_ok hok]
    exact List.prefix_append _ _

end

/-! ## What a submission stands for -/

/-- The id of the record a submission goes on under, or was answered with an action under. -/
def SubmissionPc.clientActionId? : SubmissionPc → Option Text
  | .running clientActionId _ => some clientActionId
  | .answered (.platform clientActionId _ _) => some clientActionId
  | _ => none

/-- The request that a submission asks for is the one its request id stands for. -/
def ClientRequest.Stored (r : ClientRequest) (clientActionId : Text) (s : DurableStore) : Prop :=
  ∃ request, r.Asks clientActionId request ∧
    s.requestOf request.tenantId request.requestId = some request.document.toValue.canonical

/-- Before its request is stored a submission asks for it; then it was stored, or the call threw. -/
def ClientRequest.Stands (r : ClientRequest) (s : DurableStore) : SubmissionPc → Prop
  | .running clientActionId pc =>
    (∃ principal request, pc = .submitting principal request ∧ r.Asks clientActionId request) ∨ (∃ e, pc = .threw e) ∨
      r.Stored clientActionId s
  | .answered (.platform clientActionId _ _) => r.Stored clientActionId s
  | _ => True

/-- Submissions that go on are recorded, each under its own id. -/
structure Recorded (w : Gateway) : Prop where
  recorded : ∀ i r clientActionId, w.submissions.lookup i = some r → r.pc.clientActionId? = some clientActionId →
    (r.tenantId, clientActionId) ∈ w.clients.actions.map ClientActionRecord.key
  distinct : ∀ i j r r' clientActionId, w.submissions.lookup i = some r → w.submissions.lookup j = some r' →
    r.tenantId = r'.tenantId → r.pc.clientActionId? = some clientActionId → r'.pc.clientActionId? = some clientActionId → i = j
  stands : ∀ i r, w.submissions.lookup i = some r → r.toClientRequest.Stands w.platform r.pc

section
variable {g : GatewayParts} {w : Gateway} {s t : DurableStore} {r : ClientRequest} {clientActionId : Text}

theorem ClientRequest.Stored.mono (h : r.Stored clientActionId s) (hkept : s.requested <+: t.requested) :
    r.Stored clientActionId t := by
  obtain ⟨request, hasks, hstored⟩ := h
  exact ⟨request, hasks, requestOf_of_prefix hkept hstored⟩

variable {pc : SubmissionPc} {w' : Gateway} {i j : Nat} {l : GatewayLabel}

theorem ClientRequest.Stands.mono (h : r.Stands s pc) (hkept : s.requested <+: t.requested) : r.Stands t pc := by
  cases pc with
  | running =>
    rcases h with h | h | h
    · exact .inl h
    · exact .inr (.inl h)
    · exact .inr (.inr (h.mono hkept))
  | answered answer =>
    cases answer with
    | platform => exact ClientRequest.Stored.mono h hkept
    | _ => trivial
  | lost => trivial

/-- What a submission stands for after a step of `submitAndRun`. -/
theorem stands_goesOn {k : Broker.Store} {o : OrchestratorProcess} {pc : OrchestratorPc} {a : OrchestratorAnswer}
    {e : OrchestratorEffect} (h : orchestratorStep s k o pc a = some e) (hs : r.Stands s (.running clientActionId pc)) :
    r.Stands e.store (.running clientActionId e.pc) := by
  rcases hs with ⟨principal, request, rfl, hasks⟩ | ⟨e, rfl⟩ | hstored
  · cases a with
    | submit c ids =>
      simp only [orchestratorStep] at h
      split at h
      · cases h
        exact .inr (.inl ⟨_, rfl⟩)
      · cases h
        unfold OrchestratorEffect.called
        cases hcreate : createOrReturn o.broker.sha256 c request ids s with
        | ok action t => exact .inr (.inr ⟨request, hasks, requestOf_createOrReturn hcreate⟩)
        | error e t => exact .inr (.inl ⟨e, rfl⟩)
    | _ => cases h
  · cases h
  · exact .inr (.inr (hstored.mono (requested_of_step h)))

/-- What a submission stands for when it is answered. -/
theorem stands_answered {o : RunOutcome} (hs : r.Stands s (.running clientActionId (.over o))) :
    r.Stands s (.answered (answerOf clientActionId o)) := by
  rcases hs with ⟨_, _, hpc, -⟩ | ⟨e, hpc⟩ | hstored
  · cases hpc
  · cases hpc
    trivial
  · cases o with
    | returned => exact hstored
    | threw => trivial

/-- What the handler leaves: records that were added, and a submission that is recorded if it goes on. -/
theorem handleSubmission_effect (facade : Bool) (c : SubmissionContext) (r : ClientRequest) (s : ClientStore)
    (platform : DurableStore) :
    s.actions <+: (handleSubmission facade c r s).1.actions ∧
      (∀ clientActionId, (handleSubmission facade c r s).2.clientActionId? = some clientActionId →
        (r.tenantId, clientActionId) ∉ s.actions.map ClientActionRecord.key ∧
        (r.tenantId, clientActionId) ∈ (handleSubmission facade c r s).1.actions.map ClientActionRecord.key) ∧
      r.Stands platform (handleSubmission facade c r s).2 := by
  unfold handleSubmission
  split
  · exact ⟨List.prefix_refl _, fun _ h => (nomatch h), trivial⟩
  next o ho =>
  split
  · next h =>
    obtain rfl := recordSubmission_error h
    exact ⟨List.prefix_refl _, fun _ h => (nomatch h), trivial⟩
  · next tool t h =>
    obtain ⟨hnew, row, hkey, hactions⟩ := recordSubmission_ok h
    have hleading : s.actions <+: t.actions := hactions ▸ List.prefix_append _ _
    have hrecorded : (r.tenantId, c.clientActionId) ∈ t.actions.map ClientActionRecord.key := by
      rw [hactions, List.map_append, ← hkey]
      exact List.mem_append_right _ (List.mem_singleton_self _)
    split
    swap
    · exact ⟨hleading, fun _ h => (nomatch h), trivial⟩
    unfold submitGoverned
    split
    · exact ⟨hleading, fun _ h => (nomatch h), trivial⟩
    split
    · exact ⟨hleading, fun _ h => (nomatch h), trivial⟩
    · next request hvalidated =>
      refine ⟨hleading, ?_, .inl ⟨_, request, rfl, o, tool, ho, hvalidated⟩⟩
      intro clientActionId h
      cases h
      exact ⟨hnew, hrecorded⟩
  · next t h =>
    obtain ⟨-, row, -, hactions⟩ := recordSubmission_ok h
    exact ⟨hactions ▸ List.prefix_append _ _, fun _ h => (nomatch h), trivial⟩

/-- Everything but a submission's own steps keeps what is recorded. -/
theorem Recorded.of_stores (h : Recorded w) (hsubmissions : w'.submissions = w.submissions)
    (hclients : w.clients.actions <+: w'.clients.actions) (hplatform : w.platform.requested <+: w'.platform.requested) :
    Recorded w' := by
  constructor
  · intro i r clientActionId hrow hid
    rw [hsubmissions] at hrow
    exact (hclients.map _).subset (h.recorded i r clientActionId hrow hid)
  · intro i j r r' clientActionId hi hj
    rw [hsubmissions] at hi hj
    exact h.distinct i j r r' clientActionId hi hj
  · intro i r hrow
    rw [hsubmissions] at hrow
    exact (h.stands i r hrow).mono hplatform

/-- A submission moves on under the id it has. -/
theorem Recorded.goto (h : Recorded w) {r : Submission} (hrow : w.submissions.lookup i = some r)
    (hid : ∀ clientActionId, pc.clientActionId? = some clientActionId → r.pc.clientActionId? = some clientActionId)
    (hstands : r.toClientRequest.Stands w.platform pc) : Recorded (w.goto i r pc) := by
  have hback : ∀ j r' clientActionId, (w.goto i r pc).submissions.lookup j = some r' → r'.pc.clientActionId? = some clientActionId →
      ∃ old, w.submissions.lookup j = some old ∧ old.tenantId = r'.tenantId ∧ old.pc.clientActionId? = some clientActionId := by
    intro j r' clientActionId hj hid'
    rcases Table.lookup_insert_cases hj with ⟨rfl, rfl⟩ | ⟨-, hj⟩
    · exact ⟨r, hrow, rfl, hid clientActionId hid'⟩
    · exact ⟨r', hj, rfl, hid'⟩
  constructor
  · intro j r' clientActionId hj hid'
    obtain ⟨old, hold, htenant, hid'⟩ := hback j r' clientActionId hj hid'
    rw [← htenant]
    exact h.recorded j old clientActionId hold hid'
  · intro j k r' r'' clientActionId hj hk htenant hidj hidk
    obtain ⟨old, hold, hsame, hidj⟩ := hback j r' clientActionId hj hidj
    obtain ⟨old', hold', hsame', hidk⟩ := hback k r'' clientActionId hk hidk
    exact h.distinct j k old old' clientActionId hold hold' (by rw [hsame, hsame', htenant]) hidj hidk
  · intro j r' hj
    rcases Table.lookup_insert_cases hj with ⟨rfl, rfl⟩ | ⟨-, hj⟩
    · exact hstands
    · exact h.stands j r' hj

/-- A new submission is recorded under an id that no other has. -/
theorem Recorded.submitted (h : Recorded w) (c : SubmissionContext) (r : ClientRequest) (k : Broker.Store)
    (hnew : w.submissions.lookup i = none) : Recorded (w.submitted g i c r k) := by
  obtain ⟨hleading, hids, hstands⟩ := handleSubmission_effect g.facade c r w.clients w.platform
  have hkept : ∀ j r' clientActionId, w.submissions.lookup j = some r' → r'.pc.clientActionId? = some clientActionId →
      r'.tenantId = r.tenantId → (handleSubmission g.facade c r w.clients).2.clientActionId? ≠ some clientActionId := by
    intro j r' clientActionId hj hid htenant hsame
    have hold := h.recorded j r' clientActionId hj hid
    rw [htenant] at hold
    exact (hids clientActionId hsame).1 hold
  constructor
  · intro j r' clientActionId hj hid
    rcases Table.lookup_insert_cases hj with ⟨rfl, rfl⟩ | ⟨-, hj⟩
    · exact (hids clientActionId hid).2
    · exact (hleading.map _).subset (h.recorded j r' clientActionId hj hid)
  · intro j j' r' r'' clientActionId hj hj' htenant hid hid'
    rcases Table.lookup_insert_cases hj with ⟨rfl, rfl⟩ | ⟨-, hold⟩ <;>
      rcases Table.lookup_insert_cases hj' with ⟨rfl, rfl⟩ | ⟨-, hold'⟩
    · rfl
    · exact absurd hid (hkept j' r'' clientActionId hold' hid' htenant.symm)
    · exact absurd hid' (hkept j r' clientActionId hold hid htenant)
    · exact h.distinct j j' r' r'' clientActionId hold hold' htenant hid hid'
  · intro j r' hj
    rcases Table.lookup_insert_cases hj with ⟨rfl, rfl⟩ | ⟨-, hj⟩
    · exact hstands
    · exact h.stands j r' hj

/-- **Every step** keeps submissions recorded. -/
theorem recorded_step (h : GatewayStep g w l w') (hw : Recorded w) : Recorded w' := by
  cases h with
  | submits c r k hnew => exact hw.submitted c r k hnew
  | @goesOn i r clientActionId pc a e hrow hpc h =>
    have hstands := hw.stands _ _ hrow
    rw [hpc] at hstands
    have hgone : Recorded { w with platform := e.store, broker := e.broker } :=
      hw.of_stores rfl (List.prefix_refl _) (requested_of_step h)
    refine hgone.goto hrow ?_ (stands_goesOn h hstands)
    intro clientActionId hid
    rw [hpc]
    exact hid
  | @answers i r clientActionId o hrow hpc =>
    have hstands := hw.stands _ _ hrow
    rw [hpc] at hstands
    refine hw.goto hrow ?_ (stands_answered hstands)
    intro clientActionId' hid
    rw [hpc]
    cases o with
    | returned => exact hid
    | threw => cases hid
  | stops hrow => exact hw.goto hrow (fun _ h => nomatch h) trivial
  | client h => exact hw.of_stores rfl (actions_of_step h) (List.prefix_refl _)
  | call h => exact hw.of_stores rfl (List.prefix_refl _) (requested_of_storeStep h)
  | broker k => exact hw.of_stores rfl (List.prefix_refl _) (List.prefix_refl _)

/-! ## Submitting again -/

/-- A submission keeps the request it was made with. -/
def Submits (w : Gateway) (i : Nat) (r : ClientRequest) : Prop := ∃ row, w.submissions.lookup i = some row ∧ row.toClientRequest = r

theorem submits_goto {row : Submission} (hrow : w.submissions.lookup j = some row) (h : Submits w i r) (pc : SubmissionPc) :
    Submits (w.goto j row pc) i r := by
  obtain ⟨old, hold, hr⟩ := h
  by_cases hij : i = j
  · subst hij
    obtain rfl := Option.mem_unique hrow hold
    exact ⟨_, AList.lookup_insert _, hr⟩
  · exact ⟨old, (AList.lookup_insert_ne hij).trans hold, hr⟩

theorem submits_step (h : GatewayStep g w l w') (hs : Submits w i r) : Submits w' i r := by
  cases h with
  | @submits j c r' k hnew =>
    obtain ⟨old, hold, hr⟩ := hs
    have hij : i ≠ j := by
      rintro rfl
      rw [hnew] at hold
      cases hold
    exact ⟨old, (AList.lookup_insert_ne hij).trans hold, hr⟩
  | @goesOn j row _ pc a e hrow _ _ =>
    have hkept : Submits { w with platform := e.store, broker := e.broker } i r := hs
    exact submits_goto hrow hkept _
  | answers hrow _ => exact submits_goto hrow hs _
  | stops hrow => exact submits_goto hrow hs _
  | client | call | broker => exact hs

/-- **What was submitted** is in the table. -/
theorem submits_of_run {start : Gateway} {labels : List GatewayLabel} (hrun : Run (GatewayStep g) start labels w)
    {c : SubmissionContext} (h : .submits i c r ∈ labels) : Submits w i r := by
  refine hrun.trace_invariant (I := fun labels w => ∀ i c r, GatewayLabel.submits i c r ∈ labels → Submits w i r) ?_
    (fun _ _ _ h => nomatch h) i c r h
  intro labels w l w' hstep ih i c r h
  rcases List.mem_append.1 h with h | h
  · exact submits_step hstep (ih i c r h)
  · obtain rfl := List.mem_singleton.1 h
    cases hstep
    exact ⟨_, AList.lookup_insert _, rfl⟩

/-- Two submissions were answered with one action of the platform, and the state it was in. -/
def Gateway.SameAction (w : Gateway) (i j : Nat) : Prop :=
  ∃ r r' clientActionId clientActionId' platformActionId state state',
    w.submissions.lookup i = some r ∧ r.pc = .answered (.platform clientActionId platformActionId state) ∧
      w.submissions.lookup j = some r' ∧ r'.pc = .answered (.platform clientActionId' platformActionId state')

/-- Of the submissions of a tenant under one request id, one at most is answered with an action of the platform. -/
theorem answered_once (h : Recorded w) {r r' : Submission} (hi : w.submissions.lookup i = some r)
    (hj : w.submissions.lookup j = some r') (htenant : r.tenantId = r'.tenantId) {requestId : Text}
    (hnamed : r.requestId = some requestId) (hnamed' : r'.requestId = some requestId)
    {clientActionId' actionId actionId' : Text} {state state' : PlatformActionState}
    (hpc : r.pc = .answered (.platform clientActionId actionId state))
    (hpc' : r'.pc = .answered (.platform clientActionId' actionId' state')) : i = j := by
  have hstored := h.stands i r hi
  have hstored' := h.stands j r' hj
  rw [hpc] at hstored
  rw [hpc'] at hstored'
  obtain ⟨request, hasks, hrequest⟩ := hstored
  obtain ⟨request', hasks', hrequest'⟩ := hstored'
  rw [tenantId_of_asks hasks, requestId_of_asks hasks hnamed, htenant] at hrequest
  rw [tenantId_of_asks hasks', requestId_of_asks hasks' hnamed', hrequest] at hrequest'
  obtain rfl := clientActionId_of_canonical hasks hasks' (Option.some.inj hrequest')
  refine h.distinct i j r r' clientActionId hi hj htenant ?_ ?_
  · rw [hpc]
    rfl
  · rw [hpc']
    rfl

/-- No submission yet. -/
def Gateway.initial (clients : ClientStore) (platform : DurableStore) (k : Broker.Store) : Gateway := ⟨clients, platform, k, ∅⟩

theorem recorded_initial (clients : ClientStore) (platform : DurableStore) (k : Broker.Store) :
    Recorded (.initial clients platform k) :=
  ⟨fun _ _ _ h => (nomatch h), fun _ _ _ _ _ h => (nomatch h), fun _ _ h => (nomatch h)⟩

/-- **A body that is submitted again** is never answered with the action it was answered with before. -/
theorem not_sameAction_of_run {clients : ClientStore} {platform : DurableStore} {k : Broker.Store} {labels : List GatewayLabel}
    (hrun : Run (GatewayStep g) (.initial clients platform k) labels w) {i j : Nat} (hne : i ≠ j) {c c' : SubmissionContext}
    (hi : .submits i c r ∈ labels) (hj : .submits j c' r ∈ labels) {requestId : Text} (hnamed : r.requestId = some requestId) :
    ¬ w.SameAction i j := by
  rintro ⟨row, row', _, _, _, _, _, hrow, hpc, hrow', hpc'⟩
  obtain ⟨_, hi, hr⟩ := submits_of_run hrun hi
  obtain rfl := Option.mem_unique hrow hi
  obtain ⟨_, hj, hr'⟩ := submits_of_run hrun hj
  obtain rfl := Option.mem_unique hrow' hj
  have hrecorded := hrun.invariant (fun _ _ _ h => recorded_step h) (recorded_initial clients platform k)
  have htenant := congrArg ClientRequest.tenantId (hr.trans hr'.symm)
  have hnamed₁ : row.requestId = some requestId := hr ▸ hnamed
  have hnamed₂ : row'.requestId = some requestId := hr' ▸ hnamed
  exact hne (answered_once hrecorded hi hj htenant hnamed₁ hnamed₂ hpc hpc')

end

/-! ## A body that is submitted twice -/

/-- What a submission's own steps come to. -/
def Gateway.next (g : GatewayParts) (w : Gateway) : GatewayLabel → Option Gateway
  | .submits i c r =>
    match w.submissions.lookup i with
    | some _ => none
    | none => some (w.submitted g i c r w.broker)
  | .goesOn i a =>
    match w.submissions.lookup i with
    | some ⟨r, .running clientActionId pc⟩ =>
      (orchestratorStep w.platform w.broker (g.processes r.tenantId) pc a).map fun e =>
        ({ w with platform := e.store, broker := e.broker } : Gateway).goto i ⟨r, .running clientActionId pc⟩
          (.running clientActionId e.pc)
    | _ => none
  | .answers i =>
    match w.submissions.lookup i with
    | some ⟨r, .running clientActionId (.over o)⟩ =>
      some (w.goto i ⟨r, .running clientActionId (.over o)⟩ (.answered (answerOf clientActionId o)))
    | _ => none
  | _ => none

theorem step_of_next {g : GatewayParts} {w w' : Gateway} {l : GatewayLabel} (h : w.next g l = some w') : GatewayStep g w l w' := by
  unfold Gateway.next at h
  split at h
  · split at h
    · cases h
    · next hnew =>
      cases h
      exact .submits _ _ _ hnew
  · split at h
    · next hrow =>
      obtain ⟨e, he, rfl⟩ := Option.map_eq_some_iff.1 h
      exact .goesOn hrow rfl he
    · cases h
  · split at h
    · next hrow =>
      cases h
      exact .answers hrow rfl
    · cases h
  · cases h

/-- A tenant with one tool, which is enabled. -/
def sampleClients : ClientStore :=
  { ClientStore.empty with
    tenants := [⟨"t", .active, 1, none, none, "config"⟩]
    tools := [sampleDecision.apply (newTool (sampleDiscovery sampleIds) "t" "srv" (advertised "a" "h1", 0))] }

def sampleParts : GatewayParts := ⟨id, true, fun _ => sampleProcess⟩

/-- A body with a request id. -/
def sampleBody : ClientRequest :=
  ⟨"t", "svc_1", ⟨.obj [("tool_id", .str "tool_1"), ("request_id", .str "r1"), ("resource", .str "/report")], by decide +kernel⟩⟩

/-- The body is submitted, and again once it was answered: the Gate holds the action. -/
def submittedTwice : List GatewayLabel :=
  [.submits 0 ⟨"1", none⟩ sampleBody, .goesOn 0 (.submit (sampleContext 0 "a") ⟨"1", "1"⟩), .goesOn 0 .read,
    .goesOn 0 (.store (sampleContext 1 "b")), .goesOn 0 (.decided (sampleContext 2 "c") ⟨⟨"dec_1", .hold⟩, "", none, none, none, ""⟩),
    .answers 0, .submits 1 ⟨"2", none⟩ sampleBody, .goesOn 1 (.submit (sampleContext 3 "d") ⟨"2", "2"⟩), .answers 1]

/-- An answer with an action, and one with the error that its request id stands for another request. -/
def answeredOnce (r r' : Submission) : Bool :=
  match r.pc, r'.pc with
  | .answered (.platform _ actionId state), .answered (.failed _ (.platform .conflict _)) =>
    decide (actionId = Text.ofAscii "pa_1" ∧ state = .held)
  | _, _ => false

theorem run_submittedTwice : ∃ w r r', Run (GatewayStep sampleParts) (.initial sampleClients .empty Broker.sampleStore)
    submittedTwice w ∧ w.submissions.lookup 0 = some r ∧ w.submissions.lookup 1 = some r' ∧ answeredOnce r r' = true := by
  have hreplay : (replay (Gateway.next sampleParts) (.initial sampleClients .empty Broker.sampleStore) submittedTwice).any
      (fun w => (w.submissions.lookup 0).any fun r => (w.submissions.lookup 1).any fun r' => answeredOnce r r') = true := by
    decide +kernel
  obtain ⟨w, hrun, htest⟩ := run_of_test hreplay
  obtain ⟨r, hr, htest⟩ := (Option.any_eq_true ..).1 htest
  obtain ⟨r', hr', htest⟩ := (Option.any_eq_true ..).1 htest
  exact ⟨w, r, r', hrun.mono fun _ _ _ h => step_of_next h, hr, hr', htest⟩

/-- The gateway with one tenant, on an empty platform store. -/
theorem not_sameAction_of_run_twice : ∃ w, Run (GatewayStep sampleParts) (.initial sampleClients .empty Broker.sampleStore)
    submittedTwice w ∧ sampleBody.requestId = some (Text.ofAscii "r1") ∧ ¬ w.SameAction 0 1 := by
  obtain ⟨w, r, r', hrun, -⟩ := run_submittedTwice
  have hnamed : sampleBody.requestId = some (Text.ofAscii "r1") := by decide +kernel
  have hfirst : .submits 0 ⟨"1", none⟩ sampleBody ∈ submittedTwice := List.mem_cons_self ..
  have hagain : .submits 1 ⟨"2", none⟩ sampleBody ∈ submittedTwice := by simp [submittedTwice]
  exact ⟨w, hrun, hnamed, not_sameAction_of_run hrun Nat.zero_ne_one hfirst hagain hnamed⟩

/-- The first submission was answered with its action before the second was made, which is answered with an error. -/
theorem answered_conflict : ∃ w r r' clientActionId message, Run (GatewayStep sampleParts)
    (.initial sampleClients .empty Broker.sampleStore) submittedTwice w ∧ w.submissions.lookup 0 = some r ∧
      w.submissions.lookup 1 = some r' ∧ (∃ clientActionId, r.pc = .answered (.platform clientActionId "pa_1" .held)) ∧
      r'.pc = .answered (.failed clientActionId (.platform .conflict message)) ∧ ¬ w.SameAction 0 1 := by
  obtain ⟨w, r, r', hrun, hr, hr', htest⟩ := run_submittedTwice
  unfold answeredOnce at htest
  split at htest
  · next _ _ hpc hpc' =>
    obtain ⟨rfl, rfl⟩ := of_decide_eq_true htest
    refine ⟨w, r, r', _, _, hrun, hr, hr', ⟨_, hpc⟩, hpc', ?_⟩
    rintro ⟨_, r₂, _, _, _, _, _, -, -, hr₂, hpc₂⟩
    obtain rfl := Option.mem_unique hr' hr₂
    rw [hpc'] at hpc₂
    cases hpc₂
  · cases htest

end Tna.Client
