import Tna.Lib.Confined
import Tna.Platform.Exclusive
import Tna.Platform.Request

/-!
# Tenants of the platform store

A tenant's view of the store is its rows of the three tables. Every transaction is confined
to the tenant it is called with. `submitAndRun` creates its action under the tenant that the
request names, and goes on under the tenant of its principal; where the two are one, a call
is confined to it.
-/

namespace Tna.Platform

open Tna.Js Tna.Gate Tna.Lib Tna.Broker

/-- The rows of a tenant. -/
def DurableStore.ofTenant (tenantId : Text) (s : DurableStore) : DurableStore where
  actions := s.actions.filter fun r => r.tenantId = tenantId
  runs := s.runs.filter fun r => r.tenantId = tenantId
  outbox := s.outbox.filter fun r => r.tenantId = tenantId

/-- A statement is a function of the rows of a tenant, and changes no others. -/
def Statement.ConfinedTo {α : Type} (m : Statement α) (tenantId : Text) : Prop :=
  Confined DurableStore.ofTenant tenantId (operation m)

section
variable {t : Text} {α β : Type}

@[simp] theorem ofTenant_ofTenant (t : Text) (s : DurableStore) : (s.ofTenant t).ofTenant t = s.ofTenant t := by
  simp [DurableStore.ofTenant]

@[simp] theorem row_ofTenant (s : DurableStore) (t id : Text) : (s.ofTenant t).row (t, id) = s.row (t, id) := by
  refine find?_filter_of_imp _ fun r h => ?_
  have hkey : r.key = (t, id) := of_decide_eq_true h
  exact decide_eq_true (congrArg Prod.fst hkey)

/-! ## Statements -/

namespace Statement

theorem confinedTo_pure (a : α) : (pure a : Statement α).ConfinedTo t := confined_pure (ofTenant_ofTenant t) a

theorem confinedTo_throw (e : PlatformError) : (throw e : Statement α).ConfinedTo t := confined_throw (ofTenant_ofTenant t) e

variable {m : Statement α}

theorem ConfinedTo.bind {f : α → Statement β} (hm : m.ConfinedTo t) (hf : ∀ a, (f a).ConfinedTo t) :
    Statement.ConfinedTo (m >>= f) t :=
  confined_bind hm (ofTenant_ofTenant t) hf

theorem ConfinedTo.tx (hm : m.ConfinedTo t) (c : CallContext) : (c.tx m).ConfinedTo t :=
  confined_tx hm (ofTenant_ofTenant t) c.commits .storage

/-- What `getAction` answers of the row it has read. -/
def foundAction (actionId : Text) : Option ActionRow → Statement ActionRow
  | some row => return row
  | none => throw (.platform .notFound (Text.ofAscii "No platform action " ++ actionId))

theorem confinedTo_getAction (t actionId : Text) : (getAction t actionId).ConfinedTo t := by
  refine confined_get (g := fun s => s.row (t, actionId)) (f := foundAction actionId) (fun s => (row_ofTenant s t actionId).symm) ?_
  intro row
  cases row with
  | none => exact confinedTo_throw _
  | some row => exact confinedTo_pure row

theorem confinedTo_updateActions {selected : ActionRow → Bool} {change : ActionRow → ActionRow}
    (hselected : ∀ r, selected r = true → r.tenantId = t) (hkeep : ∀ r, (change r).tenantId = r.tenantId) :
    (updateActions selected change).ConfinedTo t := by
  refine ⟨?_, ?_, ?_⟩
  · intro s
    show Except.ok (s.actions.countP selected) = .ok ((s.actions.filter _).countP selected)
    rw [countP_filter_of_imp _ fun r hr => decide_eq_true (hselected r hr)]
  · intro s
    show DurableStore.ofTenant t { s with actions := Rows.update selected change s.actions } =
      DurableStore.ofTenant t { s.ofTenant t with actions := Rows.update selected change (s.ofTenant t).actions }
    have hrows : ∀ l : List ActionRow, (Rows.update selected change l).filter (fun r => r.tenantId = t) =
        Rows.update selected change (l.filter fun r => r.tenantId = t) :=
      fun l => Rows.filter_update fun r _ _ => by rw [hkeep r]
    simp only [DurableStore.ofTenant, hrows, List.filter_filter, Bool.and_self]
  · intro s j hj
    show DurableStore.ofTenant j { s with actions := Rows.update selected change s.actions } = s.ofTenant j
    have hothers := filter_update_others (p := fun r : ActionRow => r.tenantId = j) (f := change) selected
      s.actions (fun r => by rw [hkeep r]) fun r hr => by
        rw [Bool.eq_false_iff]
        exact fun hs => hj ((of_decide_eq_true hr).symm.trans (hselected r hs))
    simp only [DurableStore.ofTenant, hothers]

theorem confinedTo_updateRuns {selected : RunRow → Bool} {status : RunStatus}
    (hselected : ∀ r, selected r = true → r.tenantId = t) : (updateRuns selected status).ConfinedTo t := by
  refine ⟨?_, ?_, ?_⟩
  · intro s
    show Except.ok (s.runs.countP selected) = .ok ((s.runs.filter _).countP selected)
    rw [countP_filter_of_imp _ fun r hr => decide_eq_true (hselected r hr)]
  · intro s
    show DurableStore.ofTenant t { s with runs := Rows.update selected (fun r => { r with status := status }) s.runs } =
      DurableStore.ofTenant t
        { s.ofTenant t with runs := Rows.update selected (fun r => { r with status := status }) (s.ofTenant t).runs }
    have hkeep : ∀ l : List RunRow, (Rows.update selected (fun r => { r with status := status }) l).filter
        (fun r => r.tenantId = t) = Rows.update selected (fun r => { r with status := status })
          (l.filter fun r => r.tenantId = t) := fun l => Rows.filter_update fun _ _ _ => rfl
    simp only [DurableStore.ofTenant, hkeep, List.filter_filter, Bool.and_self]
  · intro s j hj
    show DurableStore.ofTenant j { s with runs := Rows.update selected (fun r => { r with status := status }) s.runs } =
      s.ofTenant j
    have hothers := filter_update_others (p := fun r : RunRow => r.tenantId = j) (f := fun r => { r with status := status })
      selected s.runs (fun _ => rfl) fun r hr => by
        rw [Bool.eq_false_iff]
        exact fun hs => hj ((of_decide_eq_true hr).symm.trans (hselected r hs))
    simp only [DurableStore.ofTenant, hothers]

/-- An insertion into a table, unless it clashes with a row of the tenant. -/
theorem confinedTo_insert (clash : DurableStore → Bool) (insert : DurableStore → DurableStore) (failure : PlatformError)
    (hclash : ∀ s, clash (s.ofTenant t) = clash s) (hown : ∀ s, (insert s).ofTenant t = (insert (s.ofTenant t)).ofTenant t)
    (hothers : ∀ s j, j ≠ t → (insert s).ofTenant j = s.ofTenant j) :
    Statement.ConfinedTo (do
      let s ← get
      if clash s then throw failure else set (insert s)) t := by
  have hrun : operation (do
      let s ← get
      if clash s then throw failure else set (insert s) : Statement Unit) =
        fun s => if clash s then (.error failure, s) else (.ok (), insert s) := by
    funext s
    show operation (if clash s then throw failure else set (insert s) : Statement Unit) s = _
    cases clash s <;> rfl
  rw [Statement.ConfinedTo, hrun]
  refine ⟨?_, ?_, ?_⟩
  · intro s
    simp only [hclash]
    split <;> rfl
  · intro s
    simp only [hclash]
    split
    · exact (ofTenant_ofTenant t s).symm
    · exact hown s
  · intro s j hj
    split
    · rfl
    · exact hothers s j hj

theorem confinedTo_insertAction {row : ActionRow} (h : row.tenantId = t) : (insertAction row).ConfinedTo t := by
  have hclash : ∀ s : DurableStore, ((s.ofTenant t).actions.any fun r => r.key = row.key ||
      (r.tenantId = row.tenantId && r.request.requestId = row.request.requestId)) = s.actions.any fun r => r.key = row.key ||
        (r.tenantId = row.tenantId && r.request.requestId = row.request.requestId) := by
    intro s
    refine any_filter_of_imp _ fun r hr => ?_
    rw [Bool.or_eq_true, decide_eq_true_eq, Bool.and_eq_true, decide_eq_true_eq] at hr
    rw [decide_eq_true_eq, ← h]
    exact hr.elim (congrArg Prod.fst) And.left
  refine confinedTo_insert (fun s => s.actions.any fun r => r.key = row.key ||
    (r.tenantId = row.tenantId && r.request.requestId = row.request.requestId))
    (fun s => { s with actions := s.actions ++ [row] }) .storage hclash ?_ ?_
  · intro s
    simp [DurableStore.ofTenant, List.filter_append]
  · intro s j hj
    simp [DurableStore.ofTenant, List.filter_append, h, hj.symm]

theorem confinedTo_insertRun {row : RunRow} (h : row.tenantId = t) : (insertRun row).ConfinedTo t := by
  have hclash : ∀ s : DurableStore, ((s.ofTenant t).runs.any fun r => r.tenantId = row.tenantId &&
      (r.executionId = row.executionId || r.platformActionId = row.platformActionId)) = s.runs.any fun r =>
        r.tenantId = row.tenantId && (r.executionId = row.executionId || r.platformActionId = row.platformActionId) := by
    intro s
    refine any_filter_of_imp _ fun r hr => ?_
    rw [Bool.and_eq_true, decide_eq_true_eq] at hr
    exact decide_eq_true (hr.1.trans h)
  refine confinedTo_insert (fun s => s.runs.any fun r => r.tenantId = row.tenantId &&
    (r.executionId = row.executionId || r.platformActionId = row.platformActionId))
    (fun s => { s with runs := s.runs ++ [row] }) (.platform .conflict "Action already has an execution claim") hclash ?_ ?_
  · intro s
    simp [DurableStore.ofTenant, List.filter_append]
  · intro s j hj
    simp [DurableStore.ofTenant, List.filter_append, h, hj.symm]

theorem confinedTo_insertOutbox {record : OutboxRecord} (h : record.tenantId = t) : (insertOutbox record).ConfinedTo t := by
  have hclash : ∀ s : DurableStore, ((s.ofTenant t).outbox.any fun r => r.key = record.key) =
      s.outbox.any fun r => r.key = record.key := by
    intro s
    refine any_filter_of_imp _ fun r hr => ?_
    exact decide_eq_true ((congrArg Prod.fst (of_decide_eq_true hr)).trans h)
  refine confinedTo_insert (fun s => s.outbox.any fun r => r.key = record.key)
    (fun s => { s with outbox := s.outbox ++ [record] }) .storage hclash ?_ ?_
  · intro s
    simp [DurableStore.ofTenant, List.filter_append]
  · intro s j hj
    simp [DurableStore.ofTenant, List.filter_append, h, hj.symm]

theorem confinedTo_enqueue (t actionId : Text) (e : Evidence) (now : Nat) (uuid : Text) :
    (enqueue t actionId e now uuid).ConfinedTo t := by
  refine confined_get (g := fun s => (s.row (t, actionId)).bind ActionRow.lastOutboxId) (f := fun prior => do
    insertOutbox (newOutboxRecord (Text.ofAscii "ob_" ++ uuid) t actionId e.eventType (e.payload prior) now)
    let _ ← updateActions (fun r => r.key = (t, actionId)) fun r => { r with lastOutboxId := some (Text.ofAscii "ob_" ++ uuid) })
    (fun s => by rw [row_ofTenant]) ?_
  intro prior
  refine ConfinedTo.bind (t := t) (confinedTo_insertOutbox rfl) fun _ => ?_
  refine ConfinedTo.bind (confinedTo_updateActions ?_ fun _ => rfl) fun _ => confinedTo_pure ()
  intro r hr
  exact congrArg Prod.fst (of_decide_eq_true hr)

/-- A change of state of an action of the tenant. -/
theorem confinedTo_write {c : CallContext} {actionId : Text} {guard : PlatformAction → Option PlatformError}
    {selected : PlatformAction → Bool} {change : PlatformAction → PlatformAction} {evidence : ActionRow → Option Evidence}
    (hkeep : ∀ a, (change a).tenantId = a.tenantId) : (write c t actionId guard selected change evidence).ConfinedTo t := by
  refine ConfinedTo.tx (ConfinedTo.bind (confinedTo_getAction t actionId) fun current => ?_) c
  split
  · exact confinedTo_throw _
  · refine ConfinedTo.bind (confinedTo_updateActions ?_ fun r => hkeep r.toPlatformAction) fun changed => ?_
    · intro r hr
      rw [Bool.and_eq_true, decide_eq_true_eq] at hr
      exact congrArg Prod.fst hr.1
    · have hread : Statement.ConfinedTo (do return (← getAction t actionId).toPlatformAction) t :=
        ConfinedTo.bind (confinedTo_getAction t actionId) fun row => confinedTo_pure row.toPlatformAction
      split
      · exact confinedTo_throw _
      · split
        · next e _ => exact ConfinedTo.bind (confinedTo_enqueue t actionId e c.now c.uuid) fun _ => hread
        · exact hread

/-- What `createOrReturn` does with the action that has the request id. -/
def createdOrFound (sha256 : Text → Text) (c : CallContext) (request : ValidatedRequest) (ids : NewActionIds) :
    Option ActionRow → Statement PlatformAction
  | some existing =>
    if existing.canonicalRequest ≠ request.document.toValue.canonical then
      throw (.platform .conflict
        (Text.ofAscii "request_id " ++ request.requestId ++ Text.ofAscii " already exists with different canonical request"))
    else return existing.toPlatformAction
  | none => do
    let row := newActionRow sha256 request ids
    insertAction row
    enqueue row.tenantId row.platformActionId (receivedEvidence row) c.now c.uuid
    return row.toPlatformAction

theorem confinedTo_createOrReturn (sha256 : Text → Text) (c : CallContext) {request : ValidatedRequest} (ids : NewActionIds)
    (h : request.tenantId = t) : (createOrReturn sha256 c request ids).ConfinedTo t := by
  subst h
  refine ConfinedTo.tx (confined_get (g := fun s : DurableStore =>
    s.actions.find? fun r => r.tenantId = request.tenantId && r.request.requestId = request.requestId)
    (f := createdOrFound sha256 c request ids) (fun s => ?_) fun found => ?_) c
  · refine (find?_filter_of_imp _ fun r hr => ?_).symm
    rw [Bool.and_eq_true] at hr
    exact hr.1
  · cases found with
    | some existing =>
      show Statement.ConfinedTo (ite _ _ _) _
      split
      · exact confinedTo_throw _
      · exact confinedTo_pure _
    | none =>
      refine ConfinedTo.bind (confinedTo_insertAction rfl) fun _ => ?_
      exact ConfinedTo.bind (confinedTo_enqueue ..) fun _ => confinedTo_pure _

theorem confinedTo_claimExecution (c : CallContext) (t actionId : Text) (expectedVersion : Nat) (executionId : Text) :
    (Durable.claimExecution c t actionId expectedVersion executionId).ConfinedTo t := by
  refine ConfinedTo.tx (ConfinedTo.bind (confinedTo_getAction t actionId) fun action => ?_) c
  split
  · exact confinedTo_throw _
  · refine ConfinedTo.bind (confinedTo_updateActions ?_ fun _ => rfl) fun changed => ?_
    · intro r hr
      rw [Bool.and_eq_true, decide_eq_true_eq] at hr
      exact congrArg Prod.fst hr.1
    · split
      · exact confinedTo_throw _
      · refine ConfinedTo.bind (t := t) (confinedTo_insertRun rfl) fun _ => ?_
        exact ConfinedTo.bind (confinedTo_enqueue ..) fun _ => confinedTo_pure _

theorem confinedTo_finishRun (c : CallContext) (t executionId : Text) (interrupted : Bool) :
    (Durable.finishRun c t executionId interrupted).ConfinedTo t := by
  refine ConfinedTo.tx (ConfinedTo.bind (confinedTo_updateRuns ?_) fun changed => ?_) c
  · intro r hr
    rw [Bool.and_eq_true, Bool.and_eq_true, decide_eq_true_eq] at hr
    exact hr.1.1
  · split
    · exact confinedTo_throw _
    · exact confinedTo_pure _

end Statement

end

/-! ## Calls -/

/-- What a call holds is the tenant's. -/
def OrchestratorPc.Within (t : Text) : OrchestratorPc → Prop
  | .submitting principal request => principal.tenantId = t ∧ request.tenantId = t
  | .authorizing principal _ _ | .starting principal _ => principal.tenantId = t
  | .received principal action _ | .deciding principal action _ => principal.tenantId = t ∧ action.tenantId = t
  | .issuing _ _ action _ | .capable _ action | .unmonitored _ action | .sessioned _ action _ | .monitored _ action _
  | .claimed _ action _ _ | .refusing action .. | .verifying action | .concluding action .. => action.tenantId = t
  | .preChecking r | .redeeming r _ | .failing r .. | .postChecking r .. | .recording r .. => r.action.tenantId = t
  | .failed r action _ | .finishing r action => r.action.tenantId = t ∧ action.tenantId = t
  | .over (.returned action _) => action.tenantId = t
  | .over (.threw _) | .idle => True

/-- A step of a call as a function of the store: it is confined to the tenant, and goes on with what is the tenant's. -/
structure Isolating (t : Text) (f : DurableStore → OrchestratorEffect) : Prop where
  confined : Confined DurableStore.ofTenant t fun s => (((f s).broker, (f s).pc), (f s).store)
  within : ∀ s, (f s).pc.Within t

section
variable {t : Text} {k : Broker.Store} {ρ : Option Redemption}

/-- A step that only reads. -/
theorem isolating_read {pc : DurableStore → OrchestratorPc} (hview : ∀ s, pc s = pc (s.ofTenant t))
    (hwithin : ∀ s, (pc s).Within t) : Isolating t fun s => ⟨s, k, pc s, ρ⟩ where
  confined := Confined.read (ofTenant_ofTenant t) fun s => congrArg (Prod.mk k) (hview s)
  within := hwithin

variable {pc : OrchestratorPc} {actionId : Text} {α : Type} {c : CallContext} {sha256 : Text → Text} {s : DurableStore}

/-- A step that does not look at the store. -/
theorem isolating_const (hwithin : pc.Within t) : Isolating t fun s => ⟨s, k, pc, ρ⟩ :=
  isolating_read (fun _ => rfl) fun _ => hwithin

/-- A step that reads the row of an action of the tenant. -/
theorem isolating_row (next : Option ActionRow → OrchestratorPc) (hnone : (next none).Within t)
    (hsome : ∀ row : ActionRow, row.tenantId = t → (next (some row)).Within t) :
    Isolating t fun s => .quiet s k (next (s.row (t, actionId))) := by
  refine isolating_read (fun s => by rw [row_ofTenant]) fun s => ?_
  cases hrow : s.row (t, actionId) with
  | none => exact hnone
  | some row => exact hsome row (congrArg Prod.fst (key_of_row hrow))

theorem called_eq (m : Statement α) (s : DurableStore) (next : α → OrchestratorPc) (caught : PlatformError → OrchestratorPc) :
    OrchestratorEffect.called k (m s) next caught =
      ⟨(operation m s).2, k, match (operation m s).1 with
        | .ok a => next a
        | .error e => caught e, none⟩ := by
  simp only [operation, OrchestratorEffect.called]
  cases m s <;> rfl

/-- A step that calls the store. -/
theorem isolating_called {m : Statement α} {next : α → OrchestratorPc} {caught : PlatformError → OrchestratorPc}
    (hm : m.ConfinedTo t) (hnext : ∀ s a u, m s = .ok a u → (next a).Within t) (hcaught : ∀ e, (caught e).Within t) :
    Isolating t fun s => .called k (m s) next caught where
  confined := by
    simp only [called_eq]
    exact hm.map fun r => (k, match r with
      | .ok a => next a
      | .error e => caught e)
  within := by
    intro s
    unfold OrchestratorEffect.called
    cases h : m s with
    | ok a u => exact hnext s a u h
    | error e u => exact hcaught e

/-- A step that changes the state of an action, and goes on with it. -/
theorem isolating_write {guard : PlatformAction → Option PlatformError} {selected : PlatformAction → Bool}
    {change : PlatformAction → PlatformAction} {evidence : ActionRow → Option Evidence} {next : PlatformAction → OrchestratorPc}
    (hkeep : ∀ a, (change a).tenantId = a.tenantId) (hnext : ∀ a, a.tenantId = t → (next a).Within t) :
    Isolating t fun s => .called k (write c t actionId guard selected change evidence s) next .threw :=
  isolating_called (Statement.confinedTo_write hkeep) (fun _ a _ h => hnext a (congrArg Prod.fst (key_of_write h)))
    fun _ => trivial

/-! ### What a step can do -/

theorem within_authorizeRead {principal : PlatformPrincipal} (actionId : Text) (facade : Bool) (row : Option ActionRow)
    (hprincipal : principal.tenantId = t) (hrow : ∀ r ∈ row, r.tenantId = t) :
    (afterAuthorizeRead principal actionId facade row).Within t := by
  unfold afterAuthorizeRead
  cases principal.boundAgent with
  | none => trivial
  | some agentId =>
    cases row with
    | none => trivial
    | some row =>
      dsimp only
      split_ifs
      · trivial
      · exact ⟨hprincipal, hrow row rfl⟩
      · trivial
      · exact ⟨hprincipal, hrow row rfl⟩

theorem within_runRead (principal : PlatformPrincipal) (actionId : Text) (row : Option ActionRow)
    (hrow : ∀ r ∈ row, r.tenantId = t) : (afterRunRead principal actionId row).Within t := by
  unfold afterRunRead
  cases principal.boundAgent with
  | none => trivial
  | some agentId =>
    cases row with
    | none => trivial
    | some row =>
      dsimp only
      split_ifs
      · trivial
      · trivial
      · split
        · exact hrow row rfl
        · trivial

theorem within_preCheck {r : RunContext} (hr : r.action.tenantId = t) (decision : Option Sentinel.SentinelDecisionType)
    (confirmed : Bool) (violations : Text) : (afterPreCheck sha256 r decision confirmed violations).1.Within t := by
  unfold afterPreCheck
  split
  · exact hr
  · exact hr
  · split <;> exact hr

/-- An action that is found is of the tenant of the request, as a new one is. -/
theorem tenant_of_createOrReturn {request : ValidatedRequest} {ids : NewActionIds} {u : DurableStore} {a : PlatformAction}
    (hrequest : request.tenantId = t) (h : createOrReturn sha256 c request ids s = .ok a u) : a.tenantId = t := by
  obtain ⟨s', v, hget, hbody⟩ := bind_answered (body_of_tx h)
  cases hget
  clear h
  cases hfound : s.actions.find? (fun r => r.tenantId = request.tenantId && r.request.requestId = request.requestId) with
  | some existing =>
    simp only [hfound] at hbody
    split at hbody
    · cases hbody
    · cases hbody
      have hsame := List.find?_some hfound
      rw [Bool.and_eq_true, decide_eq_true_eq] at hsame
      exact hsame.1.trans hrequest
  | none =>
    simp only [hfound] at hbody
    obtain ⟨_, v, -, hrest⟩ := bind_answered hbody
    obtain ⟨_, w, -, hpure⟩ := bind_answered hrest
    cases hpure
    exact hrequest

theorem isolating_issue {b : ExecutionBroker} {agentId decisionId : Text} {action : PlatformAction} {random : IssueRandom}
    {writes : IssueWrites} (haction : action.tenantId = t) :
    Isolating t fun s => issueFor s k b agentId actionId action decisionId random writes := by
  simp only [issueFor]
  cases (issue b random writes k (.agent agentId) decisionId).result with
  | ok issued => exact isolating_const haction
  | error e => exact isolating_const haction

/-- What `run` does with the action it has read back after the claim. -/
def runFound (g : Grant) (sessionId executionId : Text) : Option ActionRow → OrchestratorPc
  | none => .threw (.platform .notFound (Text.ofAscii "No platform action " ++ g.actionId))
  | some row => .preChecking ⟨row.toPlatformAction, g.agentId, g.token, g.capability, sessionId, executionId⟩

/-- **Every step of a call is confined to the tenant** whose the call is, and so it stays. -/
theorem isolating_of_step {o : OrchestratorProcess} {a : OrchestratorAnswer} {e : OrchestratorEffect} (hpc : pc.Within t)
    (h : orchestratorStep s k o pc a = some e) : ∃ f, (∀ u, orchestratorStep u k o pc a = some (f u)) ∧ Isolating t f := by
  unfold orchestratorStep at h
  split at h
  · next principal request c ids =>
    obtain ⟨hprincipal, hrequest⟩ := hpc
    by_cases hcan : (!principal.canSubmit) = true
    · exact ⟨_, fun u => if_pos hcan, isolating_const trivial⟩
    · refine ⟨_, fun u => if_neg hcan, isolating_called (Statement.confinedTo_createOrReturn _ _ _ hrequest) ?_ fun _ => trivial⟩
      intro s a u hok
      unfold afterSubmit
      split
      · exact hprincipal
      · exact tenant_of_createOrReturn hrequest hok
  · next principal actionId facade =>
    obtain rfl := hpc
    refine ⟨_, fun u => rfl, isolating_row (afterAuthorizeRead principal actionId facade) ?_ ?_⟩
    · exact within_authorizeRead actionId facade none rfl (by simp)
    · intro row hrow
      exact within_authorizeRead actionId facade (some row) rfl (by simp [hrow])
  · obtain ⟨hprincipal, rfl⟩ := hpc
    refine ⟨_, fun u => rfl, isolating_write (fun _ => rfl) ?_⟩
    intro action haction
    split
    · trivial
    · exact ⟨hprincipal, haction⟩
  · obtain ⟨hprincipal, rfl⟩ := hpc
    refine ⟨_, fun u => rfl, isolating_write (fun _ => rfl) ?_⟩
    intro action haction
    unfold afterDecision
    split
    · exact hprincipal
    · exact haction
  · next principal actionId =>
    obtain rfl := hpc
    refine ⟨_, fun u => rfl, isolating_row (afterRunRead principal actionId) ?_ ?_⟩
    · exact within_runRead principal actionId none (by simp)
    · intro row hrow
      exact within_runRead principal actionId (some row) (by simp [hrow])
  · exact ⟨_, fun u => rfl, isolating_issue hpc⟩
  · obtain rfl := hpc
    exact ⟨_, fun u => rfl, isolating_write (fun _ => rfl) fun _ h => h⟩
  · exact ⟨_, fun u => rfl, isolating_const hpc⟩
  · exact ⟨_, fun u => rfl, isolating_const hpc⟩
  · obtain rfl := hpc
    exact ⟨_, fun u => rfl, isolating_write (fun _ => rfl) fun _ h => h⟩
  · next g action sessionId c executionId =>
    obtain rfl := hpc
    exact ⟨_, fun u => rfl, isolating_called (Statement.confinedTo_claimExecution ..) (fun _ _ _ _ => rfl) fun _ => trivial⟩
  · next g action sessionId executionId =>
    obtain rfl := hpc
    exact ⟨_, fun u => rfl, isolating_row (runFound g sessionId executionId) trivial fun _ hrow => hrow⟩
  · obtain rfl := hpc
    exact ⟨_, fun u => rfl, isolating_write (fun _ => rfl) fun _ _ => trivial⟩
  · exact ⟨_, fun u => rfl, isolating_const (within_preCheck hpc ..)⟩
  · next r outcome =>
    refine ⟨_, fun u => rfl, isolating_const ?_⟩
    unfold afterRedeemed
    split
    · exact hpc
    · split <;> exact hpc
  · next r bpc answer =>
    obtain ⟨e', he', -⟩ := Option.map_eq_some_iff.1 h
    refine ⟨fun u => ⟨u, e'.store, .redeeming r e'.pc, none⟩, fun u => ?_, isolating_const hpc⟩
    simp only [orchestratorStep, he', Option.map_some]
  · next r target code message interrupted c =>
    obtain rfl := hpc
    refine ⟨_, fun u => rfl, isolating_write (fun _ => rfl) ?_⟩
    intro action haction
    cases interrupted with
    | none => exact haction
    | some interrupted => exact ⟨rfl, haction⟩
  · next r action interrupted c =>
    obtain ⟨rfl, haction⟩ := hpc
    exact ⟨_, fun u => rfl, isolating_called (Statement.confinedTo_finishRun ..) (fun _ _ _ _ => haction) fun _ => haction⟩
  · exact ⟨_, fun u => rfl, isolating_const hpc⟩
  · next r executionId resultHash c =>
    obtain rfl := hpc
    exact ⟨_, fun u => rfl, isolating_write (fun _ => rfl) fun _ haction => ⟨rfl, haction⟩⟩
  · next r action c =>
    obtain ⟨rfl, haction⟩ := hpc
    refine ⟨_, fun u => rfl, isolating_called (Statement.confinedTo_finishRun ..) (fun _ _ _ _ => ?_) fun _ => trivial⟩
    unfold afterFinished
    split
    · exact haction
    · split <;> exact haction
  · next action atomId finalState =>
    refine ⟨_, fun u => rfl, isolating_const ?_⟩
    cases finalState <;> exact hpc
  · obtain rfl := hpc
    exact ⟨_, fun u => rfl, isolating_write (fun _ => rfl) fun _ haction => haction⟩
  · exact ⟨_, fun u => rfl, isolating_const trivial⟩
  · exact ⟨_, fun u => rfl, isolating_const trivial⟩
  · exact ⟨_, fun u => rfl, isolating_const trivial⟩
  · exact ⟨_, fun u => rfl, isolating_const trivial⟩
  · cases h

end

/-! ## `submitAndRun` -/

/-- What a call of `submitAndRun` begins with. -/
def submission (principal : PlatformPrincipal) (raw : JsValue) : OrchestratorPc :=
  if !principal.canSubmit then
    .threw (.platform .forbidden
      (Text.ofAscii "Role " ++ principal.role.name ++ Text.ofAscii " may not submit a platform action"))
  else
    match validatePlatformActionRequestInput raw with
    | .ok request => .submitting principal request
    | .error e => .threw e

/-- What a call gets next, and what the others have done to the stores by then. -/
structure Turn where
  store : DurableStore → DurableStore
  broker : Broker.Store → Broker.Store
  answer : OrchestratorAnswer

/-- The others keep tenants apart: the rows of each are what becomes of the rows of each. -/
def Turn.Separate (turn : Turn) : Prop :=
  ∀ t s u, DurableStore.ofTenant t s = u.ofTenant t → (turn.store s).ofTenant t = (turn.store u).ofTenant t

/-- What the others alone do to the store. -/
def meanwhile (turns : List Turn) (s : DurableStore) : DurableStore := turns.foldl (fun s turn => turn.store s) s

/-- A call goes on, turn by turn. An answer that is not to what it asked is not for it. -/
def drive (o : OrchestratorProcess) : List Turn → Broker.Store → OrchestratorPc → Operation DurableStore (Broker.Store × OrchestratorPc)
  | [], k, pc, s => ((k, pc), s)
  | turn :: turns, k, pc, s =>
    match orchestratorStep (turn.store s) (turn.broker k) o pc turn.answer with
    | some e => drive o turns e.broker e.pc e.store
    | none => drive o turns (turn.broker k) pc (turn.store s)

/-- The call is isolated: what it comes to and what it does to the rows of its tenant are a function of these rows, it
does nothing to the rows of the others, and it returns no action of theirs. -/
structure Isolated (principal : PlatformPrincipal) (raw : JsValue) : Prop where
  own : ∀ o turns k, (∀ turn ∈ turns, turn.Separate) → ∀ s u : DurableStore,
    s.ofTenant principal.tenantId = u.ofTenant principal.tenantId →
      (drive o turns k (submission principal raw) s).1 = (drive o turns k (submission principal raw) u).1 ∧
        (drive o turns k (submission principal raw) s).2.ofTenant principal.tenantId =
          (drive o turns k (submission principal raw) u).2.ofTenant principal.tenantId
  others : ∀ o turns k, (∀ turn ∈ turns, turn.Separate) → ∀ (s : DurableStore) (t : Text), t ≠ principal.tenantId →
    (drive o turns k (submission principal raw) s).2.ofTenant t = (meanwhile turns s).ofTenant t
  returned : ∀ o turns k, (∀ turn ∈ turns, turn.Separate) → ∀ (s : DurableStore) (action : PlatformAction) (executed : Bool),
    (drive o turns k (submission principal raw) s).1.2 = .over (.returned action executed) →
      action.tenantId = principal.tenantId

section
variable {t : Text} {o : OrchestratorProcess} {turns : List Turn} {k : Broker.Store} {pc : OrchestratorPc}

variable {s u : DurableStore} {principal : PlatformPrincipal} {raw : JsValue}

/-- A step that one store allows every store does. -/
theorem step_eq_none {a : OrchestratorAnswer} (hpc : pc.Within t) (h : orchestratorStep s k o pc a = none) (u : DurableStore) :
    orchestratorStep u k o pc a = none := by
  cases hu : orchestratorStep u k o pc a with
  | none => rfl
  | some e =>
    obtain ⟨f, hf, -⟩ := isolating_of_step hpc hu
    rw [hf] at h
    cases h

theorem meanwhile_separate (hseparate : ∀ turn ∈ turns, turn.Separate) (h : s.ofTenant t = u.ofTenant t) :
    (meanwhile turns s).ofTenant t = (meanwhile turns u).ofTenant t := by
  induction turns generalizing s u with
  | nil => exact h
  | cons turn turns ih =>
    obtain ⟨hturn, hturns⟩ := List.forall_mem_cons.1 hseparate
    exact ih hturns (hturn t s u h)

/-- Two calls that are at the same place, on stores that agree in the rows of the tenant. -/
theorem drive_own (hseparate : ∀ turn ∈ turns, turn.Separate) (hpc : pc.Within t) (h : s.ofTenant t = u.ofTenant t) :
    (drive o turns k pc s).1 = (drive o turns k pc u).1 ∧
      (drive o turns k pc s).2.ofTenant t = (drive o turns k pc u).2.ofTenant t := by
  induction turns generalizing k pc s u with
  | nil => exact ⟨rfl, h⟩
  | cons turn turns ih =>
    obtain ⟨hturn, hturns⟩ := List.forall_mem_cons.1 hseparate
    have hagree := hturn t s u h
    simp only [drive]
    cases hstep : orchestratorStep (turn.store s) (turn.broker k) o pc turn.answer with
    | none =>
      rw [step_eq_none hpc hstep]
      exact ih hturns hpc hagree
    | some e =>
      obtain ⟨f, hf, hisolating⟩ := isolating_of_step hpc hstep
      obtain ⟨hsame, hview⟩ := hisolating.confined.two_runs hagree
      rw [hf] at hstep ⊢
      cases hstep
      rw [Prod.mk.injEq] at hsame
      dsimp only
      rw [← hsame.1, ← hsame.2]
      exact ih hturns (hisolating.within _) hview

/-- The call holds what is the tenant's to its end, and does nothing to the rows of the others. -/
theorem drive_within (hseparate : ∀ turn ∈ turns, turn.Separate) (hpc : pc.Within t) (s : DurableStore) :
    (drive o turns k pc s).1.2.Within t ∧
      ∀ j, j ≠ t → (drive o turns k pc s).2.ofTenant j = (meanwhile turns s).ofTenant j := by
  induction turns generalizing k pc s with
  | nil => exact ⟨hpc, fun _ _ => rfl⟩
  | cons turn turns ih =>
    obtain ⟨-, hturns⟩ := List.forall_mem_cons.1 hseparate
    simp only [drive]
    cases hstep : orchestratorStep (turn.store s) (turn.broker k) o pc turn.answer with
    | none => exact ih hturns hpc (turn.store s)
    | some e =>
      obtain ⟨f, hf, hisolating⟩ := isolating_of_step hpc hstep
      rw [hf] at hstep
      cases hstep
      obtain ⟨hwithin, hothers⟩ := ih (k := (f (turn.store s)).broker) hturns (hisolating.within _) (f (turn.store s)).store
      refine ⟨hwithin, fun j hj => ?_⟩
      rw [hothers j hj]
      exact meanwhile_separate hturns (hisolating.confined.others (turn.store s) j hj)

/-- What a call begins with is the tenant's where the accepted request names it. -/
theorem within_submission (h : principal.canSubmit = true → ∀ request, validatePlatformActionRequestInput raw = .ok request →
      request.tenantId = principal.tenantId) : (submission principal raw).Within principal.tenantId := by
  unfold submission
  split
  · trivial
  · next hcan =>
    split
    · next request hvalid => exact ⟨rfl, h (by simpa using hcan) request hvalid⟩
    · trivial

/-- On an empty store the action is created. -/
theorem createOrReturn_empty (sha256 : Text → Text) (now : Nat) (uuid : Text) (request : ValidatedRequest) (ids : NewActionIds) :
    createOrReturn sha256 ⟨now, uuid, true⟩ request ids .empty =
      .ok (newActionRow sha256 request ids).toPlatformAction
        (({ DurableStore.empty with actions := [newActionRow sha256 request ids] } : DurableStore).enqueued request.tenantId
          (newActionRow sha256 request ids).platformActionId (receivedEvidence (newActionRow sha256 request ids)) now uuid) := rfl

/-- A request that names another tenant makes a row there. -/
theorem not_isolated {request : ValidatedRequest} (hcan : principal.canSubmit = true)
    (hvalid : validatePlatformActionRequestInput raw = .ok request) (hother : request.tenantId ≠ principal.tenantId) :
    ¬ Isolated principal raw := by
  intro h
  have hturn : ∀ turn ∈ [(⟨id, id, .submit ⟨0, "", true⟩ ⟨"", ""⟩⟩ : Turn)], turn.Separate := by
    intro turn hmem
    obtain rfl := List.mem_singleton.1 hmem
    exact fun _ _ _ hview => hview
  have hothers := h.others sampleProcess _ sampleStore hturn .empty request.tenantId hother
  have hbegin : submission principal raw = .submitting principal request := by
    simp only [submission, hcan, hvalid, Bool.not_true, Bool.false_eq_true, if_false]
  have hstep : orchestratorStep .empty sampleStore sampleProcess (.submitting principal request) (.submit ⟨0, "", true⟩ ⟨"", ""⟩) =
      some (.called sampleStore (createOrReturn sampleProcess.broker.sha256 ⟨0, "", true⟩ request ⟨"", ""⟩ .empty)
        (afterSubmit principal) .threw) := by
    simp only [orchestratorStep, hcan, Bool.not_true, Bool.false_eq_true, if_false]
  rw [hbegin] at hothers
  simp only [drive, id_eq, hstep, createOrReturn_empty, OrchestratorEffect.called] at hothers
  have houtbox := congrArg (fun s : DurableStore => s.outbox.length) hothers
  simp [DurableStore.ofTenant, DurableStore.enqueued, newOutboxRecord, meanwhile, DurableStore.empty] at houtbox

/-- **`submitAndRun` is isolated** exactly where what the principal may submit and is accepted names its own tenant. -/
theorem submitAndRun_isolated_iff (principal : PlatformPrincipal) (raw : JsValue) :
    Isolated principal raw ↔
      (principal.canSubmit = true → ∀ request, validatePlatformActionRequestInput raw = .ok request →
        request.tenantId = principal.tenantId) := by
  constructor
  · intro h hcan request hvalid
    by_contra hother
    exact not_isolated hcan hvalid hother h
  · intro h
    have hwithin := within_submission h
    refine ⟨?_, ?_, ?_⟩
    · intro o turns k hseparate s u hview
      exact drive_own hseparate hwithin hview
    · intro o turns k hseparate s t ht
      exact (drive_within hseparate hwithin s).2 t ht
    · intro o turns k hseparate s action executed hover
      have hend := (drive_within (o := o) (k := k) hseparate hwithin s).1
      rw [hover] at hend
      exact hend

/-- A request for tenant `b`. -/
def requestOfB : JsValue :=
  ⟨.obj [("version", .str "1.0"), ("request_id", .str "r1"), ("tenant_id", .str "b"), ("agent_id", .str "agent-1"),
    ("action", .str "repository.read"), ("tool", .str "reader"), ("operation", .str "read"), ("resource", .str "docs"),
    ("input", .obj []), ("requires_verification", .bool false)], by decide⟩

/-- The body of an agent of tenant `a` names tenant `b`, and makes an action there. -/
theorem submitAndRun_other_tenant :
    ¬ ∀ (principal : PlatformPrincipal) (raw : JsValue), Isolated principal raw := by
  intro h
  have hvalid : (validatePlatformActionRequestInput requestOfB).toOption.any
      (fun request : ValidatedRequest => request.tenantId ≠ Text.ofAscii "a") = true := by decide +kernel
  obtain ⟨request, hrequest, hother⟩ := (Option.any_eq_true ..).1 hvalid
  refine not_isolated ?_ ?_ (of_decide_eq_true hother) (h ⟨.agent, "a", some "agent-1"⟩ requestOfB)
  · rfl
  cases hresult : validatePlatformActionRequestInput requestOfB with
  | ok r =>
    rw [hresult] at hrequest
    cases hrequest
    rfl
  | error e =>
    rw [hresult] at hrequest
    cases hrequest

end

end Tna.Platform
