import Tna.Platform.Exclusive

/-!
# Settled actions have settled runs

The row of an action and the row of its run are closed one after the other, and a restart closes
the runs of the actions it finds executing. So the run of an action whose state is terminal is
closed where each failure is followed by the end of its run, that end commits, nobody else moves
an action while it executes, and no restart comes between the two writes.
-/

namespace Tna.Platform

open Tna.Js Tna.Gate Tna.Lib Tna.Broker

def RunRow.key (r : RunRow) : Text × Text := (r.tenantId, r.platformActionId)

/-- The action is `EXECUTING`. -/
def Executing (s : DurableStore) (key : Text × Text) : Prop := ∃ row, s.row key = some row ∧ row.state = .executing

/-! ## What is claimed -/

/-- The action a call of `run` is for. -/
def OrchestratorPc.drives : OrchestratorPc → Option (Text × Text)
  | .starting principal actionId => some (principal.tenantId, actionId)
  | .issuing _ actionId action _ => some (action.tenantId, actionId)
  | .capable g action | .unmonitored g action | .sessioned g action _ | .monitored g action _ | .claimed g action _ _ =>
    some (action.tenantId, g.actionId)
  | .preChecking r | .redeeming r _ | .failing r .. | .failed r .. | .postChecking r .. | .recording r .. | .finishing r _ =>
    some r.action.key
  | .refusing action .. | .verifying action | .concluding action .. => some action.key
  | _ => none

section
variable {P : Type}

/-- What is claimed of a state: no run is in progress of an action that is over and that no call of `run` is for. -/
def Closed (w : Orchestration P) : Prop :=
  ∀ run ∈ w.store.runs, ∀ row, w.store.row run.key = some row → isTerminalState row.state = true →
    (∀ p, (w.pcs p).drives ≠ some run.key) → run.status = .finished ∨ run.status = .indeterminate

/-- The run that a call is about to finish, after it has closed the action. -/
def OrchestratorPc.closing : OrchestratorPc → Option Claim
  | .failed r .. | .finishing r _ => some r.claim
  | _ => none

/-- A failure that no end of the run follows is not recorded, as it is after `HOLD` and where the input has drifted, and
the end of a run commits. -/
def OrchestratorPc.pairs : OrchestratorPc → OrchestratorAnswer → Bool
  | .failing _ _ _ _ none, .store c => !c.commits
  | .failed .., .store c | .finishing .., .store c => c.commits
  | _, _ => true

/-- **The condition**: the two writes are paired, nobody else moves an action while it executes, and the platform is not
restarted between the two writes. -/
def Paired (w : Orchestration P) : OrchestrationLabel P → Prop
  | .own p a _ => (w.pcs p).pairs a = true
  | .call _ call => ∀ key, call.moves = some key → ¬ Executing w.store key
  | .restart .. => ∀ p, (w.pcs p).closing = none
  | _ => True

end

/-! ## What the calls of the store leave alone -/

section
variable {s t : DurableStore} {c : CallContext} {tenantId actionId : Text} {key : Text × Text}

theorem executing_iff : Executing s key ↔ (s.status key).map Prod.fst = some .executing := by
  rw [DurableStore.status, Option.map_map, Option.map_eq_some_iff]
  rfl

/-- An action whose status is as it was goes on executing. -/
theorem Executing.of_status (h : Executing s key) (hstatus : t.status key = s.status key) : Executing t key := by
  rw [executing_iff] at h ⊢
  rw [hstatus]
  exact h

variable {guard : PlatformAction → Option PlatformError} {selected : PlatformAction → Bool}
  {change : PlatformAction → PlatformAction} {evidence : ActionRow → Option Evidence} {a : PlatformAction}

/-- A change of state leaves the state of every other action alone. -/
theorem status_of_write (h : write c tenantId actionId guard selected change evidence s = .ok a t)
    (hkey : ∀ a, (change a).key = a.key) (hne : key ≠ (tenantId, actionId)) : t.status key = s.status key := by
  obtain ⟨current, hrow, -, hwritten, -⟩ := write_ok h
  have hmoved : (s.moved (fun r => r.key = (tenantId, actionId) && selected r.toPlatformAction) change).status key =
      s.status key := by
    rw [status_moved hkey, DurableStore.status]
    refine Option.map_congr fun r hr => ?_
    have hother : r.key ≠ (tenantId, actionId) := by
      rw [key_of_row hr]
      exact hne
    simp [hother]
  rcases hwritten with ⟨rfl, -⟩ | ⟨e, -, hnew, rfl⟩
  · exact hmoved
  · have hthere := row_moved hkey (fun r => r.key = (tenantId, actionId) && selected r.toPlatformAction) (tenantId, actionId) (s := s)
    rw [hrow, Option.map_some] at hthere
    rw [← hmoved]
    exact status_quiet (.enqueued e c.now c.uuid hthere hnew) key

/-- A change of state that no action is due while it executes. -/
theorem Executing.write (h : Executing s key) (hwrite : Platform.write c tenantId actionId guard selected change evidence s = .ok a t)
    (hkey : ∀ a, (change a).key = a.key)
    (hguard : Executing s (tenantId, actionId) → ∀ a, a.state = .executing → guard a ≠ none) : Executing t key := by
  by_cases hne : key = (tenantId, actionId)
  · subst hne
    obtain ⟨row, hrow, hstate⟩ := h
    obtain ⟨current, hcurrent, hpassed, -⟩ := write_ok hwrite
    rw [hrow] at hcurrent
    cases hcurrent
    exact absurd hpassed (hguard ⟨row, hrow, hstate⟩ _ hstate)
  · exact h.of_status (status_of_write hwrite hkey hne)

/-- A call that expects another state is refused while the action executes. -/
theorem expects_of_executing {state : PlatformActionState} {version : Nat} {message : Text} (hstate : state ≠ .executing)
    (ha : a.state = .executing) : PlatformStore.expects state version message a ≠ none := by
  intro h
  rw [(PlatformStore.expects_none h).1] at ha
  exact hstate ha

/-- An action that executes goes on executing under a call that moves another. -/
theorem Executing.write_other (h : Executing s key)
    (hwrite : Platform.write c tenantId actionId guard selected change evidence s = .ok a t)
    (hkey : ∀ a, (change a).key = a.key) (hidle : ¬ Executing s (tenantId, actionId)) : Executing t key :=
  h.write hwrite hkey fun hexecuting => absurd hexecuting hidle

variable {sha256 : Text → Text} {principal : PlatformPrincipal} {seen : PlatformAction} {executionId : Text}
  {expectedVersion now : Nat} {run : RunRow} {uuids : Text × Text → Text}

theorem Executing.createOrReturn {request : ValidatedRequest} {ids : NewActionIds} (h : Executing s key)
    (hcall : Platform.createOrReturn sha256 c request ids s = .ok a t) : Executing t key := by
  rcases createOrReturn_ok hcall with rfl | ⟨hnew, -, rfl⟩
  · exact h
  · obtain ⟨row, hrow, hstate⟩ := h
    rw [Executing, row_enqueued, row_inserted, hrow, Option.some_or, Option.map_some]
    refine ⟨_, rfl, ?_⟩
    split
    · exact hstate
    · exact hstate

/-- **Who executes goes on executing**, whatever is called of the store for another action. -/
theorem Executing.call {sha256 : Text → Text} {call : StoreCall} (h : Executing s key) (hcall : call.ofRun = false)
    (hidle : ∀ moved, call.moves = some moved → ¬ Executing s moved) (hrun : call.run sha256 c s = .ok () t) :
    Executing t key := by
  cases answer_of_call hrun with
  | created hcreated => exact h.createOrReturn hcreated
  | wrote hwrite hkey _ hmoves => exact h.write_other hwrite hkey (hidle _ hmoves)
  | claimed => cases hcall
  | finished => cases hcall
  | recovered => cases hcall
  | marked _ hmarked =>
    rw [hmarked]
    exact h

theorem Executing.step {call : StoreCall} (h : Executing s key) (hcall : call.ofRun = false)
    (hidle : ∀ moved, call.moves = some moved → ¬ Executing s moved) (hstep : StoreStep sha256 s (c, call) t) :
    Executing t key := by
  rcases hstep with hrun | ⟨e, hrun⟩
  · exact h.call hcall hidle hrun
  · rw [eq_of_call_error hrun]
    exact h

/-! ## The calls about runs -/

/-- What a claim makes of the status of each action. -/
theorem status_of_claim (h : Durable.claimExecution c tenantId actionId expectedVersion executionId s = .ok run t)
    (key : Text × Text) :
    t.status key = (s.row key).map fun r =>
      if r.key = (tenantId, actionId) && stillAt .monitoring expectedVersion r.toPlatformAction
      then (.executing, r.stateVersion + 1) else (r.state, r.stateVersion) := by
  obtain ⟨current, hrow, -, -, -, -, hrecord, rfl⟩ := Durable.claimExecution_ok h
  have hkey : ∀ a : PlatformAction, ({ a with state := .executing } : PlatformAction).key = a.key := fun _ => rfl
  have hthere := row_moved hkey
    (fun r => r.key = (tenantId, actionId) && stillAt .monitoring expectedVersion r.toPlatformAction) (tenantId, actionId) (s := s)
  rw [hrow, Option.map_some] at hthere
  refine (status_quiet (.enqueued (Durable.claimedEvidence current executionId) c.now c.uuid hthere hrecord) key).trans ?_
  exact status_moved hkey _ key

/-- A claim makes an action execute, and leaves the others that do. -/
theorem executing_of_claim (h : Durable.claimExecution c tenantId actionId expectedVersion executionId s = .ok run t) :
    Executing t (tenantId, actionId) ∧ ∀ key, Executing s key → Executing t key := by
  obtain ⟨current, hrow, hstate, hversion, -⟩ := Durable.claimExecution_ok h
  constructor
  · have hselected : (current.key = (tenantId, actionId) && stillAt .monitoring expectedVersion current.toPlatformAction) = true := by
      simp [key_of_row hrow, stillAt, hstate, hversion]
    rw [executing_iff, status_of_claim h, hrow, Option.map_some, if_pos hselected]
    rfl
  · rintro key ⟨row, hrow, hstate⟩
    have hunselected : ¬ (row.key = (tenantId, actionId) && stillAt .monitoring expectedVersion row.toPlatformAction) = true := by
      simp [stillAt, hstate]
    rw [executing_iff, status_of_claim h, hrow, Option.map_some, if_neg hunselected, hstate]
    rfl

/-- The end of a run, committed or refused, leaves no run claimed under its id. -/
theorem unclaimed_of_finish {interrupted : Bool} (hcommits : c.commits = true)
    (hdistinct : (s.claims.map fun c => (c.tenantId, c.executionId)).Nodup)
    (h : Durable.finishRun c tenantId executionId interrupted s = .ok () t ∨
      ∃ e, Durable.finishRun c tenantId executionId interrupted s = .error e t) :
    t.actions = s.actions ∧ t.claims = s.claims ∧ ∀ run ∈ t.runs, run.status = .claimed →
      run ∈ s.runs ∧ ¬ (run.tenantId = tenantId ∧ run.executionId = executionId) := by
  rcases h with h | ⟨e, h⟩
  · rw [Durable.finishRun_ok h]
    refine ⟨rfl, claims_update _ _ s, fun run hrun hclaimed => ?_⟩
    obtain ⟨r, hr, ⟨-, rfl⟩ | ⟨hselected, rfl⟩⟩ := Rows.mem_update.1 hrun
    · cases interrupted <;> cases hclaimed
    · refine ⟨hr, fun hsame => ?_⟩
      simp [hsame, hclaimed] at hselected
  · have hcount : s.runs.countP (fun r => r.tenantId = tenantId && r.executionId = executionId && r.status = .claimed) ≠ 1 := by
      intro hone
      simp only [Durable.finishRun, CallContext.tx, tx, updateRuns, hcommits, bind, EStateM.bind, get, getThe, MonadStateOf.get,
        run_get, set, run_set, pure, EStateM.pure, hone] at h
      cases h
    have hsame := eq_of_tx_error h
    subst hsame
    refine ⟨rfl, rfl, fun run hrun hclaimed => ⟨hrun, fun hid => hcount ?_⟩⟩
    refine Rows.countP_eq_one (c := fun r : RunRow => (r.tenantId, r.executionId)) ?_ hrun ?_ ?_
    · rwa [DurableStore.claims, List.map_map] at hdistinct
    · simp [hid, hclaimed]
    · intro r hr
      rw [Bool.and_eq_true, Bool.and_eq_true, decide_eq_true_eq, decide_eq_true_eq] at hr
      rw [hr.1.1, hr.1.2, hid.1, hid.2]

theorem recoverAction_runs {row : ActionRow} {a : Unit} (h : Durable.recoverAction now uuids row s = .ok a t)
    (hrun : run ∈ t.runs) (hclaimed : run.status = .claimed) : run ∈ s.runs ∧ run.key ≠ row.key := by
  obtain ⟨n, u, hupdate, hrest⟩ := bind_answered h
  obtain ⟨-, rfl⟩ := updateActions_ok hupdate
  obtain ⟨m, v, hruns, henqueue⟩ := bind_answered hrest
  obtain ⟨-, rfl⟩ := updateRuns_ok hruns
  obtain ⟨-, rfl⟩ := enqueue_ok henqueue
  obtain ⟨r, hr, ⟨-, rfl⟩ | ⟨hselected, rfl⟩⟩ := Rows.mem_update.1 hrun
  · cases hclaimed
  · refine ⟨hr, fun hsame => ?_⟩
    have htenant : run.tenantId = row.tenantId := congrArg Prod.fst hsame
    have haction : run.platformActionId = row.platformActionId := congrArg Prod.snd hsame
    simp [htenant, haction, hclaimed] at hselected

theorem recoverActions_runs {rows : List ActionRow} {a : Unit} (h : Durable.recoverActions now uuids rows s = .ok a t)
    (hrun : run ∈ t.runs) (hclaimed : run.status = .claimed) : run ∈ s.runs ∧ ∀ row ∈ rows, run.key ≠ row.key := by
  induction rows generalizing s with
  | nil =>
    cases h
    exact ⟨hrun, List.forall_mem_nil _⟩
  | cons row rows ih =>
    obtain ⟨_, u, hfirst, hrest⟩ := bind_answered h
    obtain ⟨hmiddle, hothers⟩ := ih hrest
    obtain ⟨hfound, hne⟩ := recoverAction_runs hfirst hmiddle hclaimed
    refine ⟨hfound, ?_⟩
    rw [List.forall_mem_cons]
    exact ⟨hne, hothers⟩

/-- **A recovery closes every run**, where those that are claimed are of actions that execute, or it does nothing. -/
theorem recovery_closes (hexecuting : ∀ run ∈ s.runs, run.status = .claimed → Executing s run.key)
    (h : StoreStep sha256 s (c, .recoverInterruptedWork uuids) t) : t = s ∨ ∀ run ∈ t.runs, run.status ≠ .claimed := by
  rcases h with h | ⟨e, h⟩
  · right
    obtain ⟨u, hactions, -, rfl⟩ := Durable.recoverInterruptedWork_ok h
    intro run hrun hclaimed
    obtain ⟨hfound, hothers⟩ := recoverActions_runs hactions hrun hclaimed
    obtain ⟨row, hrow, hstate⟩ := hexecuting run hfound hclaimed
    have hmem : row ∈ s.actions.filter fun r => r.state = .executing :=
      List.mem_filter.2 ⟨Rows.mem_of_row hrow, decide_eq_true hstate⟩
    exact hothers row hmem (key_of_row hrow).symm
  · exact .inl (eq_of_call_error h)

end

/-! ## What a step of a call can do -/

section
variable {s : DurableStore} {k : Broker.Store} {pc : OrchestratorPc}

/-- The kinds of steps of a call, as to runs and to the actions that execute. -/
inductive RowPiece (s : DurableStore) (pc : OrchestratorPc) (e : OrchestratorEffect) : Prop where
  | quiet (hpc : pc.closing = none) (hruns : e.store.runs = s.runs) (hkept : ∀ key, Executing s key → Executing e.store key)
  | claims (hpc : pc.closing = none) {c : Claim} (hruns : e.store.runs = s.runs ++ [c.row])
    (hfresh : ∀ r ∈ s.runs, r.tenantId = c.tenantId → r.executionId ≠ c.executionId ∧ r.platformActionId ≠ c.platformActionId)
    (hexecuting : Executing e.store c.key) (hkept : ∀ key, Executing s key → Executing e.store key)
  | closes (hpc : pc.closing = none) {c : Claim} (hclaim : pc.claim? = some c) (hclosing : e.pc.closing = some c)
    (hruns : e.store.runs = s.runs) (hkept : ∀ key, key ≠ c.key → Executing s key → Executing e.store key)
  | finishes {c : Claim} (hpc : pc.closing = some c) (hclaims : e.store.claims = s.claims)
    (hkept : ∀ key, Executing s key → Executing e.store key)
    (hrows : ∀ run ∈ e.store.runs, run.status = .claimed →
      run ∈ s.runs ∧ ¬ (run.tenantId = c.tenantId ∧ run.executionId = c.executionId))

variable {e : OrchestratorEffect} {caught : PlatformError → OrchestratorPc} {α : Type} {a : OrchestratorAnswer}
  {o : OrchestratorProcess} {result : EStateM.Result PlatformError DurableStore α}

/-- A step that calls no store. -/
theorem RowPiece.local (hpc : pc.closing = none) (hstore : e.store = s) : RowPiece s pc e := by
  refine .quiet hpc (by rw [hstore]) fun key h => ?_
  rw [hstore]
  exact h

/-- A call of the store, which may throw. -/
theorem RowPiece.called {next : α → OrchestratorPc} (hpc : pc.closing = none) (herror : ∀ e t, result = .error e t → t = s)
    (hok : ∀ a t, result = .ok a t → RowPiece s pc ⟨t, k, next a, none⟩) : RowPiece s pc (.called k result next caught) := by
  cases result with
  | ok a t => exact hok a t rfl
  | error e t => exact .local hpc (herror e t rfl)

variable {c : CallContext} {tenantId actionId : Text} {guard : PlatformAction → Option PlatformError}
  {selected : PlatformAction → Bool} {change : PlatformAction → PlatformAction} {evidence : ActionRow → Option Evidence}
  {next : PlatformAction → OrchestratorPc}

/-- A change of state that no action is due while it executes. -/
theorem RowPiece.write (hpc : pc.closing = none) (hkey : ∀ a, (change a).key = a.key)
    (hguard : ∀ a, a.state = .executing → guard a ≠ none) :
    RowPiece s pc (.called k (Platform.write c tenantId actionId guard selected change evidence s) next .threw) := by
  refine .called hpc (fun _ _ => write_error) fun a t h => ?_
  exact .quiet hpc (write_runs h) fun key hexecuting => hexecuting.write h hkey fun _ => hguard

/-- The change of state that ends an execution. -/
theorem RowPiece.close {claim : Claim} (hpc : pc.closing = none) (hclaim : pc.claim? = some claim)
    (hkey : ∀ a, (change a).key = a.key) (hkeys : claim.key = (tenantId, actionId)) (hnext : ∀ a, (next a).closing = some claim) :
    RowPiece s pc (.called k (Platform.write c tenantId actionId guard selected change evidence s) next .threw) := by
  refine .called hpc (fun _ _ => write_error) fun a t h => ?_
  refine .closes hpc hclaim (hnext a) (write_runs h) fun key hne hexecuting => ?_
  rw [hkeys] at hne
  exact hexecuting.of_status (status_of_write h hkey hne)

/-- The end of a run. -/
theorem RowPiece.finish (claim : Claim) {interrupted : Bool} {next : Unit → OrchestratorPc} (hpc : pc.closing = some claim)
    (hcommits : c.commits = true) (hdistinct : (s.claims.map fun c => (c.tenantId, c.executionId)).Nodup) :
    RowPiece s pc (.called k (Durable.finishRun c claim.tenantId claim.executionId interrupted s) next caught) := by
  have hfinished : ∀ t, (Durable.finishRun c claim.tenantId claim.executionId interrupted s = .ok () t ∨
      ∃ e, Durable.finishRun c claim.tenantId claim.executionId interrupted s = .error e t) →
      ∀ pc', RowPiece s pc ⟨t, k, pc', none⟩ := by
    intro t h pc'
    obtain ⟨hactions, hclaims, hrows⟩ := unclaimed_of_finish hcommits hdistinct h
    refine .finishes hpc hclaims (fun key hexecuting => ?_) hrows
    show ∃ row, Rows.row _ t.actions key = some row ∧ _
    rw [hactions]
    exact hexecuting
  cases hresult : Durable.finishRun c claim.tenantId claim.executionId interrupted s with
  | ok a t => exact hfinished t (.inl hresult) _
  | error e t => exact hfinished t (.inr ⟨e, hresult⟩) _

/-! ### Inversion -/

/-- Where a failure is recorded of an action that is not executed yet. -/
def OrchestratorPc.early : OrchestratorPc → Prop
  | .refusing _ source .. => source ≠ .executing
  | _ => True

theorem OrchestratorPc.Onward.early (h : pc.Onward) : pc.early := by
  cases pc with
  | refusing => exact h
  | _ => trivial

theorem allows_of_executing {action : PlatformAction} {version : Nat} (hstate : action.state = .executing) :
    (if action.stateVersion ≠ version then some (.platform .conflict "Platform action state version changed")
      else PlatformStore.allows action.state .authorizing) ≠ none := by
  rw [hstate]
  split
  · nofun
  · decide

/-- **Inversion of a step of a call**, as to runs and to the actions that execute. -/
theorem rowPiece_of_orchestratorStep (hearly : pc.early) (hpairs : pc.pairs a = true)
    (hdistinct : (s.claims.map fun c => (c.tenantId, c.executionId)).Nodup) (h : orchestratorStep s k o pc a = some e) :
    RowPiece s pc e := by
  unfold orchestratorStep at h
  split at h
  · split at h
    · cases h
      exact .local rfl rfl
    · cases h
      refine .called rfl (fun e t => eq_of_tx_error) fun action t hok => ?_
      exact .quiet rfl (createOrReturn_runs hok) fun key hexecuting => hexecuting.createOrReturn hok
  · cases h
    exact .local rfl rfl
  · cases h
    exact .write rfl (fun _ => rfl) fun _ => allows_of_executing
  · cases h
    exact .write rfl (fun _ => rfl) fun _ => expects_of_executing nofun
  · cases h
    exact .local rfl rfl
  · cases h
    refine .local rfl ?_
    unfold issueFor
    simp only
    split <;> rfl
  · cases h
    exact .write rfl (fun _ => rfl) fun _ => expects_of_executing nofun
  · cases h
    exact .local rfl rfl
  · cases h
    exact .local rfl rfl
  · cases h
    exact .write rfl (fun _ => rfl) fun _ => expects_of_executing nofun
  · next g action sessionId c executionId =>
    cases h
    refine .called rfl (fun e t => eq_of_tx_error) fun run t hok => ?_
    obtain ⟨hexecuting, hkept⟩ := executing_of_claim hok
    obtain ⟨current, -, -, -, rfl, hfresh, -, rfl⟩ := Durable.claimExecution_ok hok
    exact .claims rfl (c := ⟨action.tenantId, g.actionId, executionId⟩) rfl hfresh hexecuting hkept
  · cases h
    exact .local rfl rfl
  · next action source target code message c =>
    cases h
    refine .write rfl (fun _ => rfl) fun action' hstate => ?_
    split
    · nofun
    · next hexpects => exact absurd hexpects (expects_of_executing hearly hstate)
  · cases h
    exact .local rfl rfl
  · cases h
    exact .local rfl rfl
  · obtain ⟨e', -, rfl⟩ := Option.map_eq_some_iff.1 h
    exact .local rfl rfl
  · next r target code message interrupted c =>
    cases h
    cases interrupted with
    | none =>
      refine .called rfl (fun e t => write_error) fun action t hok => ?_
      rw [OrchestratorPc.pairs, commits_of_tx hok] at hpairs
      cases hpairs
    | some interrupted => exact .close rfl rfl (fun _ => rfl) rfl fun _ => rfl
  · cases h
    exact .finish (RunContext.claim _) rfl hpairs hdistinct
  · cases h
    exact .local rfl rfl
  · cases h
    exact .close rfl rfl (fun _ => rfl) rfl fun _ => rfl
  · cases h
    exact .finish (RunContext.claim _) rfl hpairs hdistinct
  · cases h
    exact .local rfl rfl
  · cases h
    exact .write rfl (fun _ => rfl) fun _ => expects_of_executing nofun
  · cases h
    exact .local rfl rfl
  · cases h
    exact .local rfl rfl
  · cases h
    exact .local rfl rfl
  · cases h
    exact .local rfl rfl
  · cases h

end

/-! ## The invariant -/

variable {pc : OrchestratorPc}

theorem drives_of_closing {c : Claim} (h : pc.closing = some c) : pc.drives = some c.key := by
  cases pc with
  | failed | finishing =>
    cases h
    rfl
  | _ => cases h

section
variable {P : Type}

/-- A run that is claimed is of an action that executes, or a call is about to finish it. -/
structure Closing (w : Orchestration P) : Prop where
  early : ∀ p, (w.pcs p).early
  held : ∀ run ∈ w.store.runs, run.status = .claimed →
    Executing w.store run.key ∨ ∃ p, (w.pcs p).closing = some run.claim
  executions : (w.store.claims.map fun c => (c.tenantId, c.executionId)).Nodup
  actions : (w.store.claims.map Claim.key).Nodup

theorem closing_initial (k : Broker.Store) : Closing (Orchestration.initial P .empty k) :=
  ⟨fun _ => trivial, nofun, List.nodup_nil, List.nodup_nil⟩

variable {w w' : Orchestration P}

/-- **The run of an action that is over is closed.** -/
theorem Closing.closed (h : Closing w) : Closed w := by
  intro run hrun row hrow hterminal hidle
  cases hstatus : run.status with
  | finished => exact .inl rfl
  | indeterminate => exact .inr rfl
  | claimed =>
    rcases h.held run hrun hstatus with ⟨row', hrow', hexecuting⟩ | ⟨p, hclosing⟩
    · rw [hrow] at hrow'
      cases hrow'
      rw [hexecuting] at hterminal
      cases hterminal
    · exact absurd (drives_of_closing hclosing) (hidle p)

/-- The runs are left alone, and so are the actions that execute. -/
theorem Closing.env (h : Closing w) (hearly : ∀ p, (w'.pcs p).early) (hruns : w'.store.runs = w.store.runs)
    (hkept : ∀ key, Executing w.store key → Executing w'.store key)
    (hclosing : ∀ p c, (w.pcs p).closing = some c → (w'.pcs p).closing = some c) : Closing w' := by
  have hclaims : w'.store.claims = w.store.claims := by rw [DurableStore.claims, hruns, DurableStore.claims]
  refine ⟨hearly, fun run hrun hclaimed => ?_, hclaims ▸ h.executions, hclaims ▸ h.actions⟩
  rw [hruns] at hrun
  rcases h.held run hrun hclaimed with hexecuting | ⟨p, hp⟩
  · exact .inl (hkept _ hexecuting)
  · exact .inr ⟨p, hclosing p _ hp⟩

variable [DecidableEq P] {p : P}

variable {c : Claim} {e : OrchestratorEffect}

/-- A call that is not about to finish a run goes on, and whoever is about to is still. -/
theorem closing_after (hpc : (w.pcs p).closing = none) {q : P} (hq : (w.pcs q).closing = some c) :
    ((w.after p e).pcs q).closing = some c := by
  have hne : q ≠ p := by
    rintro rfl
    rw [hpc] at hq
    cases hq
  rw [Orchestration.after, goto_pcs_of_ne _ hne]
  exact hq

theorem early_after (h : ∀ q, (w.pcs q).early) (hpc : e.pc.early) (q : P) : ((w.after p e).pcs q).early := by
  by_cases hq : q = p
  · subst hq
    rw [Orchestration.after, goto_pcs_self]
    exact hpc
  · rw [Orchestration.after, goto_pcs_of_ne _ hq]
    exact h q

/-- A new run is of an action that executes. -/
theorem Closing.claim (h : Closing w) (hearly : e.pc.early) (hpc : (w.pcs p).closing = none)
    (hruns : e.store.runs = w.store.runs ++ [c.row])
    (hfresh : ∀ r ∈ w.store.runs, r.tenantId = c.tenantId → r.executionId ≠ c.executionId ∧ r.platformActionId ≠ c.platformActionId)
    (hexecuting : Executing e.store c.key) (hkept : ∀ key, Executing w.store key → Executing e.store key) :
    Closing (w.after p e) := by
  have hclaims : (w.after p e).store.claims = w.store.claims ++ [c] := by
    show e.store.runs.map RunRow.claim = _
    rw [hruns, List.map_append]
    rfl
  have hnew : ∀ c' ∈ w.store.claims, c'.tenantId = c.tenantId →
      c'.executionId ≠ c.executionId ∧ c'.platformActionId ≠ c.platformActionId := by
    intro c' hc'
    obtain ⟨r, hr, rfl⟩ := List.mem_map.1 hc'
    exact hfresh r hr
  refine ⟨early_after h.early hearly, fun run hrun hclaimed => ?_, ?_, ?_⟩
  · have hrun' : run ∈ w.store.runs ++ [c.row] := hruns ▸ hrun
    rcases List.mem_append.1 hrun' with hrun' | hrun'
    · rcases h.held run hrun' hclaimed with hold | ⟨q, hq⟩
      · exact .inl (hkept _ hold)
      · exact .inr ⟨q, closing_after hpc hq⟩
    · rw [List.mem_singleton.1 hrun']
      exact .inl hexecuting
  · rw [hclaims, List.map_append, List.map_singleton]
    refine List.nodup_append.2 ⟨h.executions, List.nodup_singleton _, fun id hid id' hid' => ?_⟩
    obtain ⟨c', hc', rfl⟩ := List.mem_map.1 hid
    rw [List.mem_singleton.1 hid']
    exact fun hsame => (hnew c' hc' (congrArg Prod.fst hsame)).1 (congrArg Prod.snd hsame)
  · rw [hclaims, List.map_append, List.map_singleton]
    refine List.nodup_append.2 ⟨h.actions, List.nodup_singleton _, fun key hkey key' hkey' => ?_⟩
    obtain ⟨c', hc', rfl⟩ := List.mem_map.1 hkey
    rw [List.mem_singleton.1 hkey']
    exact fun hsame => (hnew c' hc' (congrArg Prod.fst hsame)).2 (congrArg Prod.snd hsame)

/-- A call closes the action whose run it holds, and is about to finish the run. -/
theorem Closing.close (h : Closing w) (hearly : e.pc.early) (hpc : (w.pcs p).closing = none) (hran : c ∈ w.store.claims)
    (hclosing : e.pc.closing = some c) (hruns : e.store.runs = w.store.runs)
    (hkept : ∀ key, key ≠ c.key → Executing w.store key → Executing e.store key) : Closing (w.after p e) := by
  have hclaims : (w.after p e).store.claims = w.store.claims := congrArg (List.map RunRow.claim) hruns
  refine ⟨early_after h.early hearly, fun run hrun hclaimed => ?_, hclaims ▸ h.executions, hclaims ▸ h.actions⟩
  have hrun' : run ∈ w.store.runs := hruns ▸ hrun
  rcases h.held run hrun' hclaimed with hexecuting | ⟨q, hq⟩
  · by_cases hkey : run.key = c.key
    · -- an action has one run, and it is the one the call holds
      have hsame : run.claim = c := List.inj_on_of_nodup_map h.actions (List.mem_map_of_mem hrun') hran hkey
      refine .inr ⟨p, ?_⟩
      rw [Orchestration.after, goto_pcs_self, hclosing, hsame]
    · exact .inl (hkept _ hkey hexecuting)
  · exact .inr ⟨q, closing_after hpc hq⟩

/-- A call finishes the run it holds. -/
theorem Closing.finish (h : Closing w) (hearly : e.pc.early) (hpc : (w.pcs p).closing = some c)
    (hclaims : e.store.claims = w.store.claims) (hkept : ∀ key, Executing w.store key → Executing e.store key)
    (hrows : ∀ run ∈ e.store.runs, run.status = .claimed →
      run ∈ w.store.runs ∧ ¬ (run.tenantId = c.tenantId ∧ run.executionId = c.executionId)) : Closing (w.after p e) := by
  have hclaims' : (w.after p e).store.claims = w.store.claims := hclaims
  refine ⟨early_after h.early hearly, fun run hrun hclaimed => ?_, hclaims' ▸ h.executions, hclaims' ▸ h.actions⟩
  obtain ⟨hrun', hother⟩ := hrows run hrun hclaimed
  rcases h.held run hrun' hclaimed with hexecuting | ⟨q, hq⟩
  · exact .inl (hkept _ hexecuting)
  · have hne : q ≠ p := by
      rintro rfl
      rw [hpc] at hq
      cases hq
      exact hother ⟨rfl, rfl⟩
    refine .inr ⟨q, ?_⟩
    rw [Orchestration.after, goto_pcs_of_ne _ hne]
    exact hq

/-- **A step of a call.** -/
theorem Closing.own (h : Closing w) (hearly : e.pc.early) (hran : ∀ c, (w.pcs p).claim? = some c → c ∈ w.store.claims)
    (hpiece : RowPiece w.store (w.pcs p) e) : Closing (w.after p e) := by
  cases hpiece with
  | quiet hpc hruns hkept =>
    exact h.env (early_after h.early hearly) hruns hkept fun q c hq => closing_after hpc hq
  | claims hpc hruns hfresh hexecuting hkept => exact h.claim hearly hpc hruns hfresh hexecuting hkept
  | closes hpc hclaim hclosing hruns hkept => exact h.close hearly hpc (hran _ hclaim) hclosing hruns hkept
  | finishes hpc hclaims hkept hrows => exact h.finish hearly hpc hclaims hkept hrows

omit [DecidableEq P] in
/-- A restart, where no call is between its two writes. -/
theorem Closing.restart (h : Closing w) {sha256 : Text → Text} {c : CallContext} {uuids : Text × Text → Text} {t : DurableStore}
    (hidle : ∀ p, (w.pcs p).closing = none) (hstore : StoreStep sha256 w.store (c, .recoverInterruptedWork uuids) t) :
    Closing (⟨t, w.broker, fun _ => .idle⟩ : Orchestration P) := by
  have hexecuting : ∀ run ∈ w.store.runs, run.status = .claimed → Executing w.store run.key := by
    intro run hrun hclaimed
    refine (h.held run hrun hclaimed).resolve_right ?_
    rintro ⟨p, hp⟩
    rw [hidle p] at hp
    cases hp
  have hclaims := recovery_claims hstore
  refine ⟨fun _ => trivial, fun run hrun hclaimed => .inl ?_, ?_, ?_⟩
  · rcases recovery_closes hexecuting hstore with hsame | hclosed
    · rw [hsame] at hrun ⊢
      exact hexecuting run hrun hclaimed
    · exact absurd hclaimed (hclosed run hrun)
  · show (t.claims.map _).Nodup
    rw [hclaims]
    exact h.executions
  · show (t.claims.map _).Nodup
    rw [hclaims]
    exact h.actions

/-! ## Runs of the system -/

variable {sha256 : Text → Text} {processes : P → OrchestratorProcess}

/-- **What one step preserves.** -/
theorem closing_step {label : OrchestrationLabel P} (hstep : OrchestrationStep sha256 processes w label w')
    (hpaired : Paired w label) (hran : ∀ p c, (w.pcs p).claim? = some c → c ∈ w.store.claims) (h : Closing w) : Closing w' := by
  cases hstep with
  | @begin p call hfree =>
    have hpc : (w.pcs p).closing = none := by
      cases hp : w.pcs p <;> rw [hp] at hfree <;> first | rfl | cases hfree
    have hcall : call.pc.early := by cases call <;> trivial
    exact h.env (early_after (e := ⟨w.store, w.broker, call.pc, none⟩) h.early hcall) rfl (fun _ hkept => hkept)
      fun q c hq => closing_after (e := ⟨w.store, w.broker, call.pc, none⟩) hpc hq
  | @own p a e hfresh hown =>
    exact h.own (onward_of_orchestratorStep hown).early (hran p) (rowPiece_of_orchestratorStep (h.early p) hpaired h.executions hown)
  | call hcall hstore =>
    exact h.env h.early (runs_of_step hcall hstore) (fun key hexecuting => hexecuting.step hcall hpaired hstore) fun _ _ hc => hc
  | restart hstore => exact h.restart hpaired hstore
  | broker => exact h.env h.early rfl (fun _ hkept => hkept) fun _ _ hc => hc

/-- **Settled actions have settled runs**, in every state of every run of the system whose steps meet the condition. -/
theorem closed_of_run {k : Broker.Store} {labels : List (OrchestrationLabel P)} {w : Orchestration P}
    (hrun : Run (fun w label w' => OrchestrationStep sha256 processes w label w' ∧ Paired w label) (.initial P .empty k) labels w) :
    Closed w := by
  have hinvariant : Exclusive (redemptions labels) w ∧ Closing w := by
    refine hrun.trace_invariant (I := fun labels w => Exclusive (redemptions labels) w ∧ Closing w) ?_
      ⟨exclusive_initial _ k, closing_initial k⟩
    rintro labels w label w' ⟨hstep, hpaired⟩ ⟨hexclusive, hclosing⟩
    exact ⟨exclusive_step hstep hexclusive, closing_step hstep hpaired hexclusive.ran hclosing⟩
  exact hinvariant.2.closed

end

/-! ## A call that Sentinel stops -/

/-- A call up to the answer of Sentinel on the observation before its execution. -/
def observedMoves : List Move :=
  [.begin false (.submitAndRun sampleAgent sampleValidated), .own false (.submit (sampleContext 0 "a") ⟨"1", "1"⟩),
    .own false .read, .own false (.store (sampleContext 1 "b")),
    .own false (.decided (sampleContext 2 "c") ⟨⟨"dec_1", .allow⟩, "", none, none, none, ""⟩), .own false .read,
    .own false (.issued ⟨"b1", "b2", "e1", "c1", "n"⟩ ⟨true, true, true⟩), .own false (.store (sampleContext 3 "")),
    .own false (.session (.ok "s1")), .own false (.store (sampleContext 4 "")),
    .own false (.claim (sampleContext 5 "d") "x1"), .own false .read]

/-- The move meets the condition. -/
def Move.pairs (w : Orchestration Bool) : Move → Bool
  | .begin .. => true
  | .own p a => (w.pcs p).pairs a

/-- What is played under the condition is a run that meets it. -/
theorem run_of_paired {sha256 : Text → Text} {o : OrchestratorProcess} {w₀ w : Orchestration Bool} {moves : List Move}
    {labels : List (OrchestrationLabel Bool)}
    (h : replay (fun x move => if move.pairs x.2 then played o x move else none) ([], w₀) moves = some (labels, w)) :
    Run (fun w label w' => OrchestrationStep sha256 (fun _ => o) w label w' ∧ Paired w label) w₀ labels w := by
  refine (run_of_replay h).invariant
    (I := fun x => Run (fun w label w' => OrchestrationStep sha256 (fun _ => o) w label w' ∧ Paired w label) w₀ x.1 x.2) ?_ (.nil w₀)
  rintro ⟨labels, w⟩ move ⟨labels', w'⟩ hmove hrun
  split at hmove
  · next hpairs =>
    cases move with
    | begin p call =>
      simp only [played] at hmove
      split at hmove
      · next hfree =>
        cases hmove
        exact hrun.snoc ⟨.begin call hfree, trivial⟩
      · cases hmove
    | own p a =>
      simp only [played] at hmove
      split at hmove
      · next hfresh =>
        obtain ⟨e, he, heq⟩ := Option.map_eq_some_iff.1 hmove
        cases heq
        exact hrun.snoc ⟨step_of_own hfresh he, hpairs⟩
      · cases hmove
  · cases hmove

/-- Sentinel terminates the session, the action is `TERMINATED`, and its run is finished. -/
theorem closed_of_run_terminated :
    ∃ labels w, Run (fun w label w' => OrchestrationStep id (fun _ => sampleProcess) w label w' ∧ Paired w label)
        (.initial Bool .empty sampleStore) labels w ∧
      (∃ run ∈ w.store.runs, run.status = .finished) ∧ Closed w := by
  have hplayed : (replay (fun x move => if move.pairs x.2 then played sampleProcess x move else none)
      ([], .initial Bool .empty sampleStore) (observedMoves ++ [.own false (.checked (some .terminate) true []),
        .own false (.store (sampleContext 6 "e")), .own false (.store (sampleContext 7 ""))])).any (fun x =>
      x.2.store.runs.any fun run => run.status = .finished) = true := by decide +kernel
  obtain ⟨⟨labels, w⟩, hw, htest⟩ := (Option.any_eq_true ..).1 hplayed
  obtain ⟨run, hrun, hfinished⟩ := List.any_eq_true.1 htest
  have hpaired : Run (fun w label w' => OrchestrationStep id (fun _ => sampleProcess) w label w' ∧ Paired w label)
      (.initial Bool .empty sampleStore) labels w := run_of_paired hw
  exact ⟨labels, w, hpaired, ⟨run, hrun, of_decide_eq_true hfinished⟩, closed_of_run hpaired⟩

theorem drives_of_free (h : pc.isFree = true) : pc.drives = none := by
  cases pc with
  | idle | «over» => rfl
  | _ => cases h

/-- Sentinel holds the session, the action is `INDETERMINATE`, and its run stays claimed after the call has returned. -/
theorem not_closed_of_run :
    ∃ labels w, Run (OrchestrationStep id fun _ => sampleProcess) (.initial Bool .empty sampleStore) labels w ∧ ¬ Closed w := by
  have hplayed : (replay (played sampleProcess) ([], .initial Bool .empty sampleStore)
      (observedMoves ++ [.own false (.checked (some .hold) false []), .own false (.store (sampleContext 6 "e"))])).any (fun x =>
      (x.2.pcs false).isFree && (x.2.pcs true).isFree && x.2.store.runs.any fun run => run.status = .claimed &&
        (x.2.store.row run.key).any fun row => isTerminalState row.state) = true := by decide +kernel
  obtain ⟨⟨labels, w⟩, hw, htest⟩ := (Option.any_eq_true ..).1 hplayed
  simp only [Bool.and_eq_true] at htest
  obtain ⟨⟨hfalse, htrue⟩, hany⟩ := htest
  obtain ⟨run, hrun, htest⟩ := List.any_eq_true.1 hany
  rw [Bool.and_eq_true, decide_eq_true_eq] at htest
  obtain ⟨row, hrow, hterminal⟩ := (Option.any_eq_true ..).1 htest.2
  have hidle : ∀ p, (w.pcs p).drives ≠ some run.key := by
    intro p hp
    have hfree : (w.pcs p).isFree = true := by cases p <;> assumption
    rw [drives_of_free hfree] at hp
    cases hp
  refine ⟨labels, w, run_of_played hw, fun hclosed => ?_⟩
  have hstatus := hclosed run hrun row hrow hterminal hidle
  rw [htest.1] at hstatus
  rcases hstatus with h | h
  · cases h
  · cases h

end Tna.Platform
