import Tna.Platform.Grants

/-!
# One call of the broker an action

Across every interleaving of calls, the broker is called once at most for an action. A call
that gets there holds the one run of its action, which no other call finishes.
-/

namespace Tna.Platform

open Tna.Js Tna.Gate Tna.Lib Tna.Broker

/-! ## Runs -/

/-- What is claimed with a run, whatever its status. -/
structure Claim where
  tenantId : Text
  platformActionId : Text
  executionId : Text

def Claim.key (c : Claim) : Text × Text := (c.tenantId, c.platformActionId)

/-- The row a claim begins with. -/
def Claim.row (c : Claim) : RunRow := ⟨c.executionId, c.tenantId, c.platformActionId, .claimed⟩

def RunRow.claim (r : RunRow) : Claim := ⟨r.tenantId, r.platformActionId, r.executionId⟩

def DurableStore.claims (s : DurableStore) : List Claim := s.runs.map RunRow.claim

section
variable {s t : DurableStore} {c : CallContext} {tenantId actionId : Text}

variable {a seen : PlatformAction} {sha256 : Text → Text} {principal : PlatformPrincipal} {call : StoreCall} {now : Nat}
  {uuids : Text × Text → Text}

/-- A change of state leaves the runs alone. -/
theorem write_runs {guard : PlatformAction → Option PlatformError} {selected : PlatformAction → Bool}
    {change : PlatformAction → PlatformAction} {evidence : ActionRow → Option Evidence}
    (h : write c tenantId actionId guard selected change evidence s = .ok a t) : t.runs = s.runs := by
  obtain ⟨current, -, -, hwritten, -⟩ := write_ok h
  rcases hwritten with ⟨rfl, -⟩ | ⟨e, -, -, rfl⟩
  · rfl
  · rfl

theorem createOrReturn_runs {request : ValidatedRequest} {ids : NewActionIds}
    (h : createOrReturn sha256 c request ids s = .ok a t) : t.runs = s.runs := by
  rcases createOrReturn_ok h with rfl | ⟨-, -, rfl⟩
  · rfl
  · rfl

/-- **Runs are left to the calls that are about them.** -/
theorem runs_of_call (hcall : call.ofRun = false) (h : call.run sha256 c s = .ok () t) : t.runs = s.runs := by
  have hanswer := answer_of_call h
  clear h
  cases hanswer with
  | created h => exact createOrReturn_runs h
  | wrote h => exact write_runs h
  | claimed => cases hcall
  | finished => cases hcall
  | recovered => cases hcall
  | marked _ h => rw [h]

theorem runs_of_step (hcall : call.ofRun = false) (h : StoreStep sha256 s (c, call) t) : t.runs = s.runs := by
  rcases h with h | ⟨e, h⟩
  · exact runs_of_call hcall h
  · rw [eq_of_call_error h]

/-- A change of the status of runs leaves their claims alone. -/
theorem claims_update (selected : RunRow → Bool) (status : RunStatus) (s : DurableStore) :
    ({ s with runs := Rows.update selected (fun r => { r with status := status }) s.runs } : DurableStore).claims = s.claims :=
  Rows.map_update fun _ _ _ => rfl

theorem recoverAction_claims {row : ActionRow} {a : Unit} (h : Durable.recoverAction now uuids row s = .ok a t) :
    t.claims = s.claims := by
  obtain ⟨n, u, hupdate, hrest⟩ := bind_answered h
  obtain ⟨-, rfl⟩ := updateActions_ok hupdate
  obtain ⟨m, v, hruns, henqueue⟩ := bind_answered hrest
  obtain ⟨-, rfl⟩ := updateRuns_ok hruns
  obtain ⟨-, rfl⟩ := enqueue_ok henqueue
  exact claims_update _ .indeterminate s

theorem recoverActions_claims {rows : List ActionRow} {a : Unit} (h : Durable.recoverActions now uuids rows s = .ok a t) :
    t.claims = s.claims := by
  induction rows generalizing s with
  | nil =>
    cases h
    rfl
  | cons row rows ih =>
    obtain ⟨_, u, hfirst, hrest⟩ := bind_answered h
    rw [ih hrest, recoverAction_claims hfirst]

theorem recovery_claims (h : StoreStep sha256 s (c, .recoverInterruptedWork uuids) t) : t.claims = s.claims := by
  rcases h with h | ⟨e, h⟩
  · obtain ⟨u, hactions, -, rfl⟩ := Durable.recoverInterruptedWork_ok h
    have hclaims := recoverActions_claims hactions
    exact hclaims
  · rw [eq_of_call_error h]

end

/-! ## What a call holds -/

def RunContext.claim (r : RunContext) : Claim := ⟨r.action.tenantId, r.action.platformActionId, r.executionId⟩

/-- The claim a call holds, from the claim of its execution to the end of its run. -/
def OrchestratorPc.claim? : OrchestratorPc → Option Claim
  | .claimed g action _ executionId => some ⟨action.tenantId, g.actionId, executionId⟩
  | .preChecking r | .redeeming r _ | .failing r .. | .failed r .. | .postChecking r .. | .recording r .. | .finishing r _ =>
    some r.claim
  | _ => none

/-- The call may still come to call the broker. -/
def OrchestratorPc.pending : OrchestratorPc → Bool
  | .claimed .. | .preChecking _ => true
  | _ => false

/-- What a call knows of its action where it stands. -/
def Known (s : DurableStore) (k : Broker.Store) : OrchestratorPc → Prop
  | .issuing _ actionId action decisionId => Seen s actionId decisionId action
  | .capable g action =>
    Seen s g.actionId g.capability.decisionId action ∧
      capabilityAt k g.capability.capabilityId = some (g.capability, g.token)
  | .unmonitored g action | .sessioned g action _ | .monitored g action _ | .claimed g action _ _ =>
    Bound s k (action.tenantId, g.actionId) g.token g.capability
  | .preChecking r => Bound s k r.action.key r.token r.capability
  | _ => True

/-- What a call knows stays true whatever the others do. -/
theorem Known.changes {s t : DurableStore} {k k' : Broker.Store} {pc : OrchestratorPc} (h : Known s k pc)
    (hchanges : Relation.ReflTransGen Change s t) (hissuance : Issuance k k') : Known t k' pc := by
  cases pc with
  | issuing => exact Seen.changes h hchanges
  | capable => exact ⟨h.1.changes hchanges, hissuance.kept h.2⟩
  | unmonitored => exact Bound.changes h hchanges hissuance
  | sessioned => exact Bound.changes h hchanges hissuance
  | monitored => exact Bound.changes h hchanges hissuance
  | claimed => exact Bound.changes h hchanges hissuance
  | preChecking => exact Bound.changes h hchanges hissuance
  | _ => trivial

/-! ## What a step can do -/

section
variable {s : DurableStore} {k : Broker.Store} {pc : OrchestratorPc}

/-- The kinds of steps of a call. -/
inductive CallPiece (s : DurableStore) (k : Broker.Store) (pc : OrchestratorPc) : OrchestratorEffect → Prop where
  /-- It goes on with what it knows, and no run changes. -/
  | quiet {t : DurableStore} {k' : Broker.Store} {pc' : OrchestratorPc} (hchanges : Relation.ReflTransGen Change s t)
    (hruns : t.runs = s.runs) (hissuance : Issuance k k') (hknown : Known s k pc → Known t k' pc')
    (hclaim : pc'.claim? = none ∨ pc'.claim? = pc.claim? ∧ (pc'.pending = true → pc.pending = true)) :
    CallPiece s k pc ⟨t, k', pc', none⟩
  | claimed {c : CallContext} {g : Grant} {action : PlatformAction} {sessionId executionId : Text} {run : RunRow}
    {t : DurableStore} (hpc : pc = .monitored g action sessionId)
    (h : Durable.claimExecution c action.tenantId g.actionId action.stateVersion executionId s = .ok run t) :
    CallPiece s k pc ⟨t, k, .claimed g action sessionId run.executionId, none⟩
  | finished {c : CallContext} {claim : Claim} {interrupted : Bool} {t : DurableStore} {pc' : OrchestratorPc}
    (hclaim : pc.claim? = some claim) (hpc' : pc'.claim? = none) (hknown : ∀ u, Known u k pc')
    (h : Durable.finishRun c claim.tenantId claim.executionId interrupted s = .ok () t) :
    CallPiece s k pc ⟨t, k, pc', none⟩
  | redeemed {r : RunContext} {principal : Principal} {input : RedeemInput} (hpc : pc = .preChecking r)
    (htoken : input.token = r.token) :
    CallPiece s k pc ⟨s, k, .redeeming r (.start principal input), some ⟨r.action.key, principal, input⟩⟩

variable {pc' : OrchestratorPc} {a action : PlatformAction} {t : DurableStore} {g : Grant} {r : RunContext}

/-- A step that calls no store, and holds no claim after it. -/
theorem CallPiece.local (hknown : Known s k pc') (hclaim : pc'.claim? = none) : CallPiece s k pc (.quiet s k pc') :=
  .quiet .refl rfl (.same rfl) (fun _ => hknown) (.inl hclaim)

/-- A step that calls no store, with the claim it held. -/
theorem CallPiece.on (hknown : Known s k pc → Known s k pc') (hclaim : pc'.claim? = pc.claim?)
    (hpending : pc'.pending = true → pc.pending = true) : CallPiece s k pc (.quiet s k pc') :=
  .quiet .refl rfl (.same rfl) hknown (.inr ⟨hclaim, hpending⟩)

theorem CallPiece.over (o : RunOutcome) : CallPiece s k pc (.quiet s k (.over o)) := .local trivial rfl

variable {c : CallContext} {tenantId actionId : Text} {guard : PlatformAction → Option PlatformError}
  {selected : PlatformAction → Bool} {change : PlatformAction → PlatformAction} {evidence : ActionRow → Option Evidence}
  {next : PlatformAction → OrchestratorPc}

/-- A call of the store that throws ends the call that made it. -/
theorem CallPiece.called {α : Type} {result : EStateM.Result PlatformError DurableStore α} {next : α → OrchestratorPc}
    {caught : PlatformError → OrchestratorPc} (herror : ∀ e t, result = .error e t → t = s)
    (hcaught : ∀ e, ∃ o, caught e = .over o) (hok : ∀ a t, result = .ok a t → CallPiece s k pc ⟨t, k, next a, none⟩) :
    CallPiece s k pc (.called k result next caught) := by
  cases result with
  | ok a t => exact hok a t rfl
  | error e t =>
    have hsame := herror e t rfl
    subst hsame
    obtain ⟨o, ho⟩ := hcaught e
    show CallPiece t k pc ⟨t, k, caught e, none⟩
    rw [ho]
    exact .over o

/-- A change of state that the call goes on after. -/
theorem CallPiece.write (heffect : ∀ a t, Platform.write c tenantId actionId guard selected change evidence s = .ok a t → CallEffect s t)
    (hknown : ∀ a t, Platform.write c tenantId actionId guard selected change evidence s = .ok a t → Known s k pc →
      Known t k (next a))
    (hclaim : ∀ a, (next a).claim? = none ∨ (next a).claim? = pc.claim? ∧ ((next a).pending = true → pc.pending = true)) :
    CallPiece s k pc (.called k (Platform.write c tenantId actionId guard selected change evidence s) next .threw) := by
  apply CallPiece.called
  · intro e t h
    exact write_error h
  · intro e
    exact ⟨_, rfl⟩
  · intro a t h
    exact .quiet (heffect a t h).changes (write_runs h) (.same rfl) (hknown a t h) (hclaim a)

/-- What a change of state returns is the row of the action. -/
theorem key_of_write (h : write c tenantId actionId guard selected change evidence s = .ok a t) :
    a.key = (tenantId, actionId) := by
  obtain ⟨current, -, -, -, row, hrow, rfl⟩ := write_ok h
  exact key_of_row hrow

/-! ### The grant -/

/-- The row of an action after it was moved, with no evidence of it. -/
theorem row_of_write (h : write c tenantId actionId guard selected change (fun _ => none) s = .ok a t)
    (hkey : ∀ a, (change a).key = a.key) (hselected : ∀ a, guard a = none → selected a = true) :
    ∃ current row, s.row (tenantId, actionId) = some current ∧ guard current.toPlatformAction = none ∧
      t.row (tenantId, actionId) = some row ∧
      row.toPlatformAction = { change current.toPlatformAction with stateVersion := current.stateVersion + 1 } := by
  obtain ⟨current, hrow, hguard, hwritten, -⟩ := write_ok h
  rcases hwritten with ⟨rfl, -⟩ | ⟨e, he, -, -⟩
  · refine ⟨current, _, hrow, hguard, by rw [row_moved hkey, hrow, Option.map_some], ?_⟩
    have hcurrent : (decide (current.key = (tenantId, actionId)) && selected current.toPlatformAction) = true := by
      rw [key_of_row hrow, hselected _ hguard]
      simp
    rw [if_pos hcurrent]
  · cases he

theorem stillAt_of_expects {state : PlatformActionState} {version : Nat} {message : Text}
    (h : PlatformStore.expects state version message a = none) : stillAt state version a = true := by
  obtain ⟨hstate, hversion⟩ := PlatformStore.expects_none h
  rw [stillAt, hstate, hversion]
  simp

/-- **The capability is bound** to the decision the call has seen: the row is the one it read. -/
theorem bound_of_recordCapability
    (h : Durable.recordCapability c action.tenantId g.actionId action.stateVersion g.capability.capabilityId s = .ok a t)
    (hknown : Known s k (.capable g action)) : Known t k (.unmonitored g a) := by
  obtain ⟨hseen, hrecorded⟩ := hknown
  obtain ⟨current, row, hcurrent, hguard, hrow, heq⟩ := row_of_write h (fun _ => rfl) fun _ => stillAt_of_expects
  obtain ⟨read, hread, -, hsame⟩ := hseen.row
  have hkey : action.key = (action.tenantId, g.actionId) := by rw [PlatformAction.key, hseen.id]
  rw [hkey, hcurrent] at hread
  cases hread
  have hdecision := hseen.decision
  rw [← hsame (PlatformStore.expects_none hguard).2] at hdecision
  have htenant : a.tenantId = action.tenantId := congrArg Prod.fst (key_of_write h)
  show Bound t k (a.tenantId, g.actionId) g.token g.capability
  rw [htenant]
  refine ⟨row, hrow, ?_, ?_, ?_, hrecorded⟩
  · rw [heq]
    rfl
  · rw [heq]
    exact hdecision
  · rw [heq]

/-- A grant is carried on through a change of the state of its action. -/
theorem bound_of_write (h : write c action.tenantId g.actionId guard selected change evidence s = .ok a t)
    (heffect : CallEffect s t) (hbound : Bound s k (action.tenantId, g.actionId) g.token g.capability) :
    Bound t k (a.tenantId, g.actionId) g.token g.capability := by
  have htenant : a.tenantId = action.tenantId := congrArg Prod.fst (key_of_write h)
  rw [htenant]
  exact hbound.changes heffect.changes (.same rfl)

/-! ### Inversion -/

theorem callPiece_authorizeRead (principal : PlatformPrincipal) (actionId : Text) (facade : Bool) (row : Option ActionRow) :
    CallPiece s k pc (.quiet s k (afterAuthorizeRead principal actionId facade row)) := by
  unfold afterAuthorizeRead
  split
  · exact .over _
  · split
    · exact .over _
    · split_ifs
      · exact .over _
      · exact .local trivial rfl
      · exact .over _
      · exact .local trivial rfl

theorem callPiece_runRead (principal : PlatformPrincipal) (actionId : Text) :
    CallPiece s k pc (.quiet s k (afterRunRead principal actionId (s.row (principal.tenantId, actionId)))) := by
  unfold afterRunRead
  split
  · exact .over _
  · split
    · exact .over _
    · next row hrow =>
      split_ifs
      · exact .over _
      · exact .over _
      · split
        · next decisionId hdecision =>
          have hseen : Seen s actionId decisionId row.toPlatformAction := seen_of_read hrow hdecision
          exact .local hseen rfl
        · exact .over _

theorem callPiece_issue {b : ExecutionBroker} {agentId : Text} {decisionId : Text} {random : IssueRandom} {writes : IssueWrites}
    (hpc : pc = .issuing agentId actionId action decisionId) (hfresh : k.capabilities.lookup random.capabilityId = none) :
    CallPiece s k pc (issueFor s k b agentId actionId action decisionId random writes) := by
  have hissuance := issuance_of_issue b writes (.agent agentId) decisionId hfresh
  subst hpc
  unfold issueFor
  simp only
  split
  · next token capability hissued =>
    obtain ⟨hdecision, hrecorded⟩ := capabilityAt_of_issue hissued
    refine .quiet .refl rfl hissuance ?_ (.inl rfl)
    intro hseen
    rw [← hdecision] at hseen
    exact ⟨hseen, hrecorded⟩
  · exact .quiet .refl rfl hissuance (fun _ => trivial) (.inl rfl)

theorem callPiece_claimedRead {sessionId executionId : Text} (hpc : pc = .claimed g action sessionId executionId) :
    CallPiece s k pc (.quiet s k (match s.row (action.tenantId, g.actionId) with
      | none => .threw (.platform .notFound (Text.ofAscii "No platform action " ++ g.actionId))
      | some row => .preChecking ⟨row.toPlatformAction, g.agentId, g.token, g.capability, sessionId, executionId⟩)) := by
  subst hpc
  split
  · exact .over _
  · next row hrow =>
    have hkey : row.key = (action.tenantId, g.actionId) := key_of_row hrow
    refine .on ?_ ?_ fun _ => rfl
    · intro hbound
      show Bound s k row.key g.token g.capability
      rw [hkey]
      exact hbound
    · have htenant : row.tenantId = action.tenantId := congrArg Prod.fst hkey
      have hid : row.platformActionId = g.actionId := congrArg Prod.snd hkey
      simp only [OrchestratorPc.claim?, RunContext.claim, htenant, hid]

theorem callPiece_preCheck {sha256 : Text → Text} (hpc : pc = .preChecking r) (decision : Option Sentinel.SentinelDecisionType)
    (confirmed : Bool) (violations : Text) :
    CallPiece s k pc
      ⟨s, k, (afterPreCheck sha256 r decision confirmed violations).1, (afterPreCheck sha256 r decision confirmed violations).2⟩ := by
  subst hpc
  have hfailing : ∀ target code message interrupted, CallPiece s k (.preChecking r)
      ⟨s, k, .failing r target code message interrupted, none⟩ := by
    intro target code message interrupted
    exact .on (fun _ => trivial) rfl nofun
  unfold afterPreCheck
  split
  · exact hfailing ..
  · exact hfailing ..
  · split
    · exact hfailing ..
    · exact .redeemed rfl rfl

theorem callPiece_redeemed {bpc : Broker.Pc} (hpc : pc = .redeeming r bpc) (o : Outcome) :
    CallPiece s k pc (.quiet s k (afterRedeemed r o)) := by
  subst hpc
  cases o with
  | returned executionId resultHash => exact .on (fun _ => trivial) rfl nofun
  | threw e =>
    simp only [afterRedeemed]
    split
    · exact .on (fun _ => trivial) rfl nofun
    · exact .on (fun _ => trivial) rfl nofun

theorem afterFinished_free (vad : Bool) (r : RunContext) (action : PlatformAction) :
    (afterFinished vad r action).claim? = none ∧ ∀ t : DurableStore, Known t k (afterFinished vad r action) := by
  unfold afterFinished
  split_ifs
  · exact ⟨rfl, fun _ => trivial⟩
  · exact ⟨rfl, fun _ => trivial⟩
  · exact ⟨rfl, fun _ => trivial⟩

theorem callPiece_verdict (action : PlatformAction) (atomId : Text) (final : VadFinalState) :
    CallPiece s k pc (.quiet s k (afterVerdict action atomId final)) := by
  cases final with
  | accepted => exact .local trivial rfl
  | rejected => exact .local trivial rfl
  | escalated => exact .local trivial rfl
  | failed => exact .local trivial rfl

/-- **Inversion of a step of a call.** -/
theorem piece_of_orchestratorStep {o : OrchestratorProcess} {a : OrchestratorAnswer} {e : OrchestratorEffect}
    (hfresh : ∀ random writes, a = .issued random writes → k.capabilities.lookup random.capabilityId = none)
    (h : orchestratorStep s k o pc a = some e) : CallPiece s k pc e := by
  unfold orchestratorStep at h
  split at h
  · split at h
    · cases h
      exact .over _
    · cases h
      refine .called (fun e t => eq_of_tx_error) (fun e => ⟨_, rfl⟩) ?_
      intro action t hok
      have hchanges := (createOrReturn_effect hok).changes
      unfold afterSubmit
      split
      · exact .quiet hchanges (createOrReturn_runs hok) (.same rfl) (fun _ => trivial) (.inl rfl)
      · exact .quiet hchanges (createOrReturn_runs hok) (.same rfl) (fun _ => trivial) (.inl rfl)
  · cases h
    exact callPiece_authorizeRead ..
  · cases h
    refine .write (fun _ _ => transition_effect) ?_ ?_
    · intro action t _ _
      split <;> trivial
    · intro action
      left
      split <;> rfl
  · cases h
    refine .write (fun _ _ => recordGateDecision_effect) ?_ ?_
    · intro action t _ _
      unfold afterDecision
      split <;> trivial
    · intro action
      left
      unfold afterDecision
      split <;> rfl
  · cases h
    exact callPiece_runRead ..
  · cases h
    exact callPiece_issue rfl (hfresh _ _ rfl)
  · cases h
    exact .write (fun _ _ => recordCapability_effect) (fun _ _ => bound_of_recordCapability) fun _ => .inl rfl
  · cases h
    exact .on id rfl nofun
  · cases h
    exact .local trivial rfl
  · cases h
    refine .write (fun _ _ => recordSentinelSession_effect) ?_ fun _ => .inl rfl
    intro action t hok hbound
    exact bound_of_write hok (recordSentinelSession_effect hok) hbound
  · cases h
    refine .called (fun e t => eq_of_tx_error) (fun e => ⟨_, rfl⟩) ?_
    intro run t hok
    exact .claimed rfl hok
  · cases h
    exact callPiece_claimedRead rfl
  · cases h
    exact .write (fun _ _ => recordFailure_effect) (fun _ _ _ _ => trivial) fun _ => .inl rfl
  · cases h
    exact callPiece_preCheck rfl ..
  · cases h
    exact callPiece_redeemed rfl _
  · obtain ⟨e', he', rfl⟩ := Option.map_eq_some_iff.1 h
    exact .quiet .refl rfl (.same (capabilityAt_of_redeem he')) (fun _ => trivial) (.inr ⟨rfl, nofun⟩)
  · cases h
    refine .write (fun _ _ => recordFailure_effect) ?_ ?_
    · intro action t _ _
      split <;> trivial
    · intro action
      split
      · exact .inr ⟨rfl, nofun⟩
      · exact .inl rfl
  · cases h
    refine .called (fun e t => eq_of_tx_error) (fun e => ⟨_, rfl⟩) ?_
    intro _ t hok
    exact .finished rfl rfl (fun _ => trivial) hok
  · cases h
    exact .on (fun _ => trivial) rfl nofun
  · cases h
    exact .write (fun _ _ => recordExecutionResult_effect) (fun _ _ _ _ => trivial) fun _ => .inr ⟨rfl, nofun⟩
  · cases h
    refine .called (fun e t => eq_of_tx_error) (fun e => ⟨_, rfl⟩) ?_
    intro _ t hok
    obtain ⟨hclaim, hknown⟩ := afterFinished_free o.vad _ _
    exact .finished rfl hclaim hknown hok
  · cases h
    exact callPiece_verdict ..
  · cases h
    exact .write (fun _ _ => recordVerificationResult_effect) (fun _ _ _ _ => trivial) fun _ => .inl rfl
  · cases h
    exact .over _
  · cases h
    exact .over _
  · cases h
    exact .over _
  · cases h
    exact .over _
  · cases h

end

/-! ## The invariant -/

section
variable {P : Type}

/-- What holds in every state, after the calls of `redeem` that were made. -/
structure Exclusive (redeemed : List Redemption) (w : Orchestration P) : Prop where
  one : OneEach w.broker
  known : ∀ p, Known w.store w.broker (w.pcs p)
  ran : ∀ p c, (w.pcs p).claim? = some c → c ∈ w.store.claims
  /-- No two calls hold one action or one run. -/
  apart : ∀ p q c c', (w.pcs p).claim? = some c → (w.pcs q).claim? = some c' → c.tenantId = c'.tenantId →
    c.executionId = c'.executionId ∨ c.platformActionId = c'.platformActionId → p = q
  claimed : ∀ p c, (w.pcs p).claim? = some c → (w.pcs p).pending = true → c.row ∈ w.store.runs
  unredeemed : ∀ p c, (w.pcs p).claim? = some c → (w.pcs p).pending = true → ∀ ρ ∈ redeemed, ρ.key ≠ c.key
  logged : ∀ ρ ∈ redeemed, ρ.key ∈ w.store.claims.map Claim.key
  distinct : (redeemed.map Redemption.key).Nodup

theorem exclusive_initial (s : DurableStore) (k : Broker.Store) : Exclusive [] (Orchestration.initial P s k) where
  one := by
    intro id id' q q' hq
    cases hq
  known := fun _ => trivial
  ran := nofun
  apart := nofun
  claimed := nofun
  unredeemed := nofun
  logged := nofun
  distinct := List.nodup_nil

section
variable {redeemed : List Redemption} {w w' : Orchestration P}

/-- Calls that go on with the claims they hold. -/
theorem Exclusive.of_views (h : Exclusive redeemed w) (hone : OneEach w'.broker)
    (hknown : ∀ p, Known w'.store w'.broker (w'.pcs p)) (hclaims : w'.store.claims = w.store.claims)
    (hclaim : ∀ p c, (w'.pcs p).claim? = some c → (w.pcs p).claim? = some c)
    (hpending : ∀ p c, (w'.pcs p).claim? = some c → (w'.pcs p).pending = true →
      (w.pcs p).pending = true ∧ (c.row ∈ w.store.runs → c.row ∈ w'.store.runs)) : Exclusive redeemed w' where
  one := hone
  known := hknown
  ran := by
    intro p c hc
    rw [hclaims]
    exact h.ran p c (hclaim p c hc)
  apart := fun p q c c' hc hc' => h.apart p q c c' (hclaim p c hc) (hclaim q c' hc')
  claimed := by
    intro p c hc hp
    obtain ⟨hp', hrow⟩ := hpending p c hc hp
    exact hrow (h.claimed p c (hclaim p c hc) hp')
  unredeemed := fun p c hc hp => h.unredeemed p c (hclaim p c hc) (hpending p c hc hp).1
  logged := by
    rw [hclaims]
    exact h.logged
  distinct := h.distinct

/-- The others go on knowing what they know. -/
theorem Exclusive.known_changes (h : Exclusive redeemed w) {t : DurableStore} {k : Broker.Store}
    (hchanges : Relation.ReflTransGen Change w.store t) (hissuance : Issuance w.broker k) (p : P) : Known t k (w.pcs p) :=
  (h.known p).changes hchanges hissuance

/-- Something else is done to the stores. -/
theorem Exclusive.env (h : Exclusive redeemed w) {t : DurableStore} {k : Broker.Store}
    (hchanges : Relation.ReflTransGen Change w.store t) (hruns : t.runs = w.store.runs) (hissuance : Issuance w.broker k) :
    Exclusive redeemed ⟨t, k, w.pcs⟩ := by
  refine h.of_views (hissuance.oneEach h.one) (h.known_changes hchanges hissuance) ?_ (fun _ _ hc => hc) ?_
  · show t.runs.map RunRow.claim = w.store.runs.map RunRow.claim
    rw [hruns]
  · intro p c _ hp
    refine ⟨hp, ?_⟩
    show c.row ∈ w.store.runs → c.row ∈ t.runs
    rw [hruns]
    exact id

/-- No call survives a restart. -/
theorem Exclusive.restart (h : Exclusive redeemed w) {t : DurableStore} (hclaims : t.claims = w.store.claims) :
    Exclusive redeemed (⟨t, w.broker, fun _ => .idle⟩ : Orchestration P) :=
  h.of_views h.one (fun _ => trivial) hclaims nofun nofun

variable [DecidableEq P] {p : P} {t : DurableStore} {k : Broker.Store} {pc : OrchestratorPc}

/-- A call goes on with what it knows, among others that do. -/
theorem known_goto (hpc : Known w.store w.broker pc) (h : ∀ q, Known w.store w.broker (w.pcs q)) (q : P) :
    Known (w.goto p pc).store (w.goto p pc).broker ((w.goto p pc).pcs q) := by
  by_cases hq : q = p
  · subst hq
    rw [goto_pcs_self]
    exact hpc
  · rw [goto_pcs_of_ne _ hq]
    exact h q

/-- A call goes on. -/
theorem Exclusive.goto (h : Exclusive redeemed w) (hknown : Known w.store w.broker pc)
    (hclaim : pc.claim? = none ∨ pc.claim? = (w.pcs p).claim? ∧ (pc.pending = true → (w.pcs p).pending = true)) :
    Exclusive redeemed (w.goto p pc) := by
  refine h.of_views h.one (known_goto hknown h.known) rfl ?_ ?_
  · intro q c hc
    by_cases hq : q = p
    · subst hq
      rw [goto_pcs_self] at hc
      rcases hclaim with hnone | ⟨hsame, -⟩
      · rw [hnone] at hc
        cases hc
      · rwa [← hsame]
    · rwa [goto_pcs_of_ne _ hq] at hc
  · intro q c hc hp
    refine ⟨?_, id⟩
    by_cases hq : q = p
    · subst hq
      rw [goto_pcs_self] at hc hp
      rcases hclaim with hnone | ⟨-, hpending⟩
      · rw [hnone] at hc
        cases hc
      · exact hpending hp
    · rwa [goto_pcs_of_ne _ hq] at hp

variable {c : Claim}

/-- A call claims the execution of its action: the action had no run. -/
theorem Exclusive.claim (h : Exclusive redeemed w) (hchanges : Relation.ReflTransGen Change w.store t)
    (hclaim : pc.claim? = some c) (hknown : Known t w.broker pc)
    (hfresh : ∀ r ∈ w.store.runs, r.tenantId = c.tenantId → r.executionId ≠ c.executionId ∧ r.platformActionId ≠ c.platformActionId)
    (hruns : t.runs = w.store.runs ++ [c.row]) : Exclusive redeemed ((⟨t, w.broker, w.pcs⟩ : Orchestration P).goto p pc) := by
  have hclaims : t.claims = w.store.claims ++ [c] := by
    rw [DurableStore.claims, hruns, List.map_append]
    rfl
  have hfree : ∀ c' ∈ w.store.claims, c'.tenantId = c.tenantId → c'.executionId ≠ c.executionId ∧
      c'.platformActionId ≠ c.platformActionId := by
    intro c' hc'
    obtain ⟨r, hr, rfl⟩ := List.mem_map.1 hc'
    exact hfresh r hr
  have hother : ∀ q c', q ≠ p → (w.pcs q).claim? = some c' → c'.tenantId = c.tenantId →
      ¬ (c'.executionId = c.executionId ∨ c'.platformActionId = c.platformActionId) := by
    intro q c' _ hc' htenant hsame
    obtain ⟨hexecution, haction⟩ := hfree c' (h.ran q c' hc') htenant
    exact hsame.elim hexecution haction
  constructor
  · exact h.one
  · exact known_goto hknown (h.known_changes hchanges (.same rfl))
  · intro q c' hc'
    show c' ∈ t.claims
    rw [hclaims, List.mem_append]
    by_cases hq : q = p
    · subst hq
      rw [goto_pcs_self, hclaim] at hc'
      exact .inr (List.mem_singleton.2 (Option.some.inj hc').symm)
    · rw [goto_pcs_of_ne _ hq] at hc'
      exact .inl (h.ran q c' hc')
  · intro q q' c₁ c₂ hc₁ hc₂ htenant hsame
    by_cases hq : q = p <;> by_cases hq' : q' = p
    · rw [hq, hq']
    · subst hq
      rw [goto_pcs_self, hclaim] at hc₁
      cases hc₁
      rw [goto_pcs_of_ne _ hq'] at hc₂
      exact absurd (hsame.imp Eq.symm Eq.symm) (hother q' c₂ hq' hc₂ htenant.symm)
    · subst hq'
      rw [goto_pcs_self, hclaim] at hc₂
      cases hc₂
      rw [goto_pcs_of_ne _ hq] at hc₁
      exact absurd hsame (hother q c₁ hq hc₁ htenant)
    · rw [goto_pcs_of_ne _ hq] at hc₁
      rw [goto_pcs_of_ne _ hq'] at hc₂
      exact h.apart q q' c₁ c₂ hc₁ hc₂ htenant hsame
  · intro q c' hc' hp
    show c'.row ∈ t.runs
    rw [hruns, List.mem_append]
    by_cases hq : q = p
    · subst hq
      rw [goto_pcs_self, hclaim] at hc'
      cases hc'
      exact .inr (List.mem_singleton_self _)
    · rw [goto_pcs_of_ne _ hq] at hc' hp
      exact .inl (h.claimed q c' hc' hp)
  · intro q c' hc' hp ρ hρ heq
    by_cases hq : q = p
    · subst hq
      rw [goto_pcs_self, hclaim] at hc'
      cases hc'
      obtain ⟨c', hc', hkey⟩ := List.mem_map.1 (h.logged ρ hρ)
      rw [heq] at hkey
      exact (hfree c' hc' (congrArg Prod.fst hkey)).2 (congrArg Prod.snd hkey)
    · rw [goto_pcs_of_ne _ hq] at hc' hp
      exact h.unredeemed q c' hc' hp ρ hρ heq
  · intro ρ hρ
    show ρ.key ∈ t.claims.map Claim.key
    rw [hclaims, List.map_append]
    exact List.mem_append_left _ (h.logged ρ hρ)
  · exact h.distinct

/-- A call finishes the run it holds, and no other. -/
theorem Exclusive.finish (h : Exclusive redeemed w) {status : RunStatus} (hclaim : (w.pcs p).claim? = some c)
    (hpc : pc.claim? = none) (hknown : ∀ t : DurableStore, Known t w.broker pc) :
    Exclusive redeemed ((⟨{ w.store with
      runs := Rows.update (fun r => r.tenantId = c.tenantId && r.executionId = c.executionId && r.status = .claimed)
        (fun r => { r with status := status }) w.store.runs }, w.broker, w.pcs⟩ : Orchestration P).goto p pc) := by
  have hquiet : Relation.ReflTransGen Change w.store { w.store with
      runs := Rows.update (fun r => r.tenantId = c.tenantId && r.executionId = c.executionId && r.status = .claimed)
        (fun r => { r with status := status }) w.store.runs } := .single (.quiet (.runs _))
  have hne : ∀ q c', ((w.goto p pc).pcs q).claim? = some c' → q ≠ p := by
    rintro q c' hc' rfl
    rw [goto_pcs_self, hpc] at hc'
    cases hc'
  refine h.of_views h.one (known_goto (hknown _) (h.known_changes hquiet (.same rfl))) (claims_update _ status w.store) ?_ ?_
  · intro q c' hc'
    rwa [goto_pcs_of_ne _ (hne q c' hc')] at hc'
  · intro q c' hc' hp
    have hq := hne q c' hc'
    rw [goto_pcs_of_ne _ hq] at hc' hp
    refine ⟨hp, fun hrow => Rows.mem_update_of_unselected hrow ?_⟩
    -- the runs of two calls of a tenant have different ids
    by_contra hselected
    rw [Bool.not_eq_false, Bool.and_eq_true, Bool.and_eq_true, decide_eq_true_eq, decide_eq_true_eq] at hselected
    exact hq (h.apart q p c' c hc' hclaim hselected.1.1 (.inl hselected.1.2))

/-- A call calls the broker. -/
theorem Exclusive.redeem (h : Exclusive redeemed w) {r : RunContext} {bpc : Broker.Pc} {ρ : Redemption}
    (hpc : w.pcs p = .preChecking r) (hkey : ρ.key = r.action.key) :
    Exclusive (redeemed ++ [ρ]) (w.goto p (.redeeming r bpc)) := by
  have hclaim : (w.pcs p).claim? = some r.claim := by rw [hpc]; rfl
  have hpending : (w.pcs p).pending = true := by rw [hpc]; rfl
  have hmoved : Exclusive redeemed (w.goto p (.redeeming r bpc)) :=
    h.goto trivial (.inr ⟨hclaim.symm, nofun⟩)
  refine { hmoved with unredeemed := ?_, logged := ?_, distinct := ?_ }
  · intro q c hc hp ρ' hρ'
    rcases List.mem_append.1 hρ' with hρ' | hρ'
    · exact hmoved.unredeemed q c hc hp ρ' hρ'
    · cases List.mem_singleton.1 hρ'
      have hq : q ≠ p := by
        rintro rfl
        simp only [goto_pcs_self, OrchestratorPc.pending] at hp
        cases hp
      simp only [goto_pcs_of_ne _ hq] at hc
      intro heq
      rw [hkey] at heq
      exact hq (h.apart q p c r.claim hc hclaim (congrArg Prod.fst heq).symm (.inr (congrArg Prod.snd heq).symm))
  · intro ρ' hρ'
    rcases List.mem_append.1 hρ' with hρ' | hρ'
    · exact h.logged ρ' hρ'
    · cases List.mem_singleton.1 hρ'
      exact List.mem_map.2 ⟨r.claim, h.ran p _ hclaim, hkey.symm⟩
  · rw [List.map_append, List.nodup_append]
    refine ⟨h.distinct, List.nodup_singleton _, ?_⟩
    intro key hkey' key' hkey''
    obtain ⟨ρ', hρ', rfl⟩ := List.mem_map.1 hkey'
    cases List.mem_singleton.1 hkey''
    rw [hkey]
    exact h.unredeemed p _ hclaim hpending ρ' hρ'

/-- **A step of a call.** -/
theorem Exclusive.own (h : Exclusive redeemed w) {e : OrchestratorEffect} (hpiece : CallPiece w.store w.broker (w.pcs p) e) :
    Exclusive (redeemed ++ e.redemption.toList) (w.after p e) := by
  cases hpiece with
  | quiet hchanges hruns hissuance hknown hclaim =>
    rw [Option.toList_none, List.append_nil]
    exact (h.env hchanges hruns hissuance).goto (hknown (h.known p)) hclaim
  | claimed hpc hclaim =>
    rw [Option.toList_none, List.append_nil]
    have hknown := h.known p
    rw [hpc] at hknown
    have hchanges := (claimExecution_effect hclaim).changes
    obtain ⟨current, -, -, -, rfl, hfresh, -, rfl⟩ := Durable.claimExecution_ok hclaim
    exact h.claim hchanges rfl (Bound.changes hknown hchanges (.same rfl)) hfresh rfl
  | finished hclaim hpc hknown hfinish =>
    rw [Option.toList_none, List.append_nil]
    rw [Durable.finishRun_ok hfinish]
    exact h.finish hclaim hpc hknown
  | redeemed hpc htoken => exact h.redeem hpc rfl

end

/-! ## Runs of the system -/

theorem redemptions_append (labels : List (OrchestrationLabel P)) (label : OrchestrationLabel P) :
    redemptions (labels ++ [label]) = redemptions labels ++ redemptions [label] := by
  rw [redemptions, redemptions, redemptions, List.flatMap_append]

variable [DecidableEq P] {sha256 : Text → Text} {processes : P → OrchestratorProcess}

theorem call_pc_free (call : OrchestratorCall) :
    call.pc.claim? = none ∧ ∀ s k, Known s k call.pc := by
  cases call <;> exact ⟨rfl, fun _ _ => trivial⟩

variable {labels : List (OrchestrationLabel P)} {w w' : Orchestration P}

/-- **What one step preserves.** -/
theorem exclusive_step {label : OrchestrationLabel P} (hstep : OrchestrationStep sha256 processes w label w')
    (h : Exclusive (redemptions labels) w) : Exclusive (redemptions (labels ++ [label])) w' := by
  rw [redemptions_append]
  cases hstep with
  | begin call hfree =>
    show Exclusive (redemptions labels ++ []) _
    rw [List.append_nil]
    obtain ⟨hclaim, hknown⟩ := call_pc_free call
    exact h.goto (hknown _ _) (.inl hclaim)
  | @own p a e hfresh hown =>
    have hredemption : redemptions [OrchestrationLabel.own p a e.redemption] = e.redemption.toList := List.append_nil _
    rw [hredemption]
    exact h.own (piece_of_orchestratorStep hfresh hown)
  | call hcall hstore =>
    show Exclusive (redemptions labels ++ []) _
    rw [List.append_nil]
    exact h.env (effect_of_step hstore).changes (runs_of_step hcall hstore) (.same rfl)
  | restart hstore =>
    show Exclusive (redemptions labels ++ []) _
    rw [List.append_nil]
    exact h.restart (recovery_claims hstore)
  | broker helsewhere =>
    show Exclusive (redemptions labels ++ []) _
    rw [List.append_nil]
    exact h.env .refl rfl helsewhere.issuance

theorem exclusive_reached {s : DurableStore} {k : Broker.Store}
    (hrun : Run (OrchestrationStep sha256 processes) (.initial P s k) labels w) : Exclusive (redemptions labels) w :=
  hrun.trace_invariant (I := fun labels w => Exclusive (redemptions labels) w) (fun _ _ _ _ hstep h => exclusive_step hstep h)
    (exclusive_initial s k)

/-- What a call of the broker has behind it: the decision `ALLOW` of its action, the one capability that was issued for
that decision, which is the one it redeems, and the run of the action, which is claimed. -/
structure Backed (w : Orchestration P) (ρ : Redemption) : Prop where
  granted : ∃ row decisionId capability, w.store.row ρ.key = some row ∧ row.gateDecision = some ⟨decisionId, .allow⟩ ∧
    row.capabilityId = some capability.capabilityId ∧ capability.decisionId = decisionId ∧
    capabilityAt w.broker capability.capabilityId = some (capability, ρ.input.token) ∧
    ∀ id q, capabilityAt w.broker id = some q → q.1.decisionId = decisionId → id = capability.capabilityId
  claimed : ∃ executionId, ⟨executionId, ρ.key.1, ρ.key.2, .claimed⟩ ∈ w.store.runs

theorem Exclusive.backed {redeemed : List Redemption} (h : Exclusive redeemed w) {p : P} {a : OrchestratorAnswer}
    {ρ : Redemption} (hstep : OrchestrationStep sha256 processes w (.own p a (some ρ)) w') : Backed w ρ := by
  generalize hlabel : OrchestrationLabel.own p a (some ρ) = label at hstep
  cases hstep with
  | @own p' a' e hfresh hown =>
    have hpiece := piece_of_orchestratorStep hfresh hown
    have hknown := h.known p'
    have hclaimed := h.claimed p'
    injection hlabel with hp ha hρ
    cases hpiece with
    | @redeemed r principal input hpc htoken =>
      cases hρ
      rw [hpc] at hknown hclaimed
      obtain ⟨row, hrow, -, hdecision, hcapability, hrecorded⟩ := hknown
      refine ⟨⟨row, _, r.capability, hrow, hdecision, hcapability, rfl, ?_, ?_⟩, r.executionId, hclaimed r.claim rfl rfl⟩
      · rw [hrecorded, htoken]
      · intro id q hq hsame
        exact h.one _ _ _ _ hq hrecorded hsame
    | quiet => cases hρ
    | claimed => cases hρ
    | finished => cases hρ
  | begin => cases hlabel
  | call => cases hlabel
  | restart => cases hlabel
  | broker => cases hlabel

/-- **Exclusivity.** In every interleaving of calls of `submitAndRun`, `authorize` and `run`, the broker is called once at
most for an action, and what each call of it needs is behind it when it is made. -/
theorem exclusive_of_run {s : DurableStore} {k : Broker.Store} {labels : List (OrchestrationLabel P)} {w : Orchestration P}
    (hrun : Run (OrchestrationStep sha256 processes) (.initial P s k) labels w) :
    (∀ key, (redemptions labels).countP (fun ρ => ρ.key = key) ≤ 1) ∧
    ∀ p a ρ w', OrchestrationStep sha256 processes w (.own p a (some ρ)) w' → Backed w ρ := by
  have h := exclusive_reached hrun
  refine ⟨fun key => ?_, fun p a ρ w' hstep => h.backed hstep⟩
  have hcount := List.nodup_iff_count_le_one.1 h.distinct key
  rw [List.count, List.countP_map] at hcount
  refine le_trans (le_of_eq (List.countP_congr fun ρ _ => ?_)) hcount
  simp

end

/-! ## Two calls for one action -/

/-- What calls do, one after another. -/
inductive Move where
  | begin (p : Bool) (call : OrchestratorCall)
  | own (p : Bool) (a : OrchestratorAnswer)

/-- The id of a capability that is issued was never drawn before. -/
def OrchestratorAnswer.fresh (k : Broker.Store) : OrchestratorAnswer → Bool
  | .issued random _ => (k.capabilities.lookup random.capabilityId).isNone
  | _ => true

/-- A move after the labels that led to a state. -/
def played (o : OrchestratorProcess) (x : List (OrchestrationLabel Bool) × Orchestration Bool) :
    Move → Option (List (OrchestrationLabel Bool) × Orchestration Bool)
  | .begin p call => if (x.2.pcs p).isFree then some (x.1 ++ [.begin p call], x.2.goto p call.pc) else none
  | .own p a =>
    if a.fresh x.2.broker then
      (orchestratorStep x.2.store x.2.broker o (x.2.pcs p) a).map fun e => (x.1 ++ [.own p a e.redemption], x.2.after p e)
    else none

variable {o : OrchestratorProcess} {sha256 : Text → Text} {w : Orchestration Bool}

theorem step_of_own {p : Bool} {a : OrchestratorAnswer} {e : OrchestratorEffect} (hfresh : a.fresh w.broker = true)
    (h : orchestratorStep w.store w.broker o (w.pcs p) a = some e) :
    OrchestrationStep sha256 (fun _ => o) w (.own p a e.redemption) (w.after p e) := by
  refine .own ?_ h
  rintro random writes rfl
  exact Option.isNone_iff_eq_none.1 hfresh

/-- What is played is a run. -/
theorem run_of_played {w₀ : Orchestration Bool} {moves : List Move} {labels : List (OrchestrationLabel Bool)}
    (h : replay (played o) ([], w₀) moves = some (labels, w)) : Run (OrchestrationStep sha256 fun _ => o) w₀ labels w := by
  refine (run_of_replay h).invariant (I := fun x => Run (OrchestrationStep sha256 fun _ => o) w₀ x.1 x.2) ?_ (.nil w₀)
  rintro ⟨labels, w⟩ move ⟨labels', w'⟩ hplayed hrun
  cases move with
  | begin p call =>
    simp only [played] at hplayed
    split at hplayed
    · next hfree =>
      cases hplayed
      exact hrun.snoc (.begin call hfree)
    · cases hplayed
  | own p a =>
    simp only [played] at hplayed
    split at hplayed
    · next hfresh =>
      obtain ⟨e, he, heq⟩ := Option.map_eq_some_iff.1 hplayed
      cases heq
      exact hrun.snoc (step_of_own hfresh he)
    · cases hplayed

def sampleProcess : OrchestratorProcess := ⟨readerBroker, false⟩

/-- Two calls find the action authorized; the broker issues to one, which claims the execution, and the other is refused. -/
def sampleMoves : List Move :=
  [.begin false (.submitAndRun sampleAgent sampleValidated), .own false (.submit (sampleContext 0 "a") ⟨"1", "1"⟩),
    .own false .read, .own false (.store (sampleContext 1 "b")),
    .own false (.decided (sampleContext 2 "c") ⟨⟨"dec_1", .allow⟩, "", none, none, none, ""⟩),
    .begin true (.run sampleAgent "pa_1"), .own true .read, .own false .read,
    .own true (.issued ⟨"b1", "b2", "e1", "c1", "n"⟩ ⟨true, true, true⟩),
    .own false (.issued ⟨"b1", "b2", "e2", "c2", "n"⟩ ⟨true, true, true⟩), .own true (.store (sampleContext 3 "")),
    .own false (.store (sampleContext 4 "")), .own true (.session (.ok "s1")), .own true (.store (sampleContext 5 "")),
    .own true (.claim (sampleContext 6 "d") "x1"), .own true .read]

theorem exclusive_of_run_raced :
    ∃ labels w p a ρ w', Run (OrchestrationStep id fun _ => sampleProcess) (.initial Bool .empty sampleStore) labels w ∧
      OrchestrationStep id (fun _ => sampleProcess) w (.own p a (some ρ)) w' ∧ (w.pcs false).isFree = true ∧
      (∀ key, (redemptions labels).countP (fun ρ => ρ.key = key) ≤ 1) ∧ Backed w ρ := by
  have hplayed : (replay (played sampleProcess) ([], .initial Bool .empty sampleStore) sampleMoves).any (fun x =>
      (x.2.pcs false).isFree && ((orchestratorStep x.2.store x.2.broker sampleProcess (x.2.pcs true)
        (.checked (some .continue) false [])).bind OrchestratorEffect.redemption).isSome) = true := by decide +kernel
  obtain ⟨⟨labels, w⟩, hw, htest⟩ := (Option.any_eq_true ..).1 hplayed
  rw [Bool.and_eq_true] at htest
  obtain ⟨hfree, hredeems⟩ := htest
  obtain ⟨ρ, hρ⟩ := Option.isSome_iff_exists.1 hredeems
  obtain ⟨e, he, heρ⟩ := Option.bind_eq_some_iff.1 hρ
  have hrun : Run (OrchestrationStep id fun _ => sampleProcess) (.initial Bool .empty sampleStore) labels w := run_of_played hw
  have hstep : OrchestrationStep id (fun _ => sampleProcess) w (.own true (.checked (some .continue) false []) e.redemption)
      (w.after true e) := step_of_own rfl he
  rw [heρ] at hstep
  obtain ⟨hcount, hbacked⟩ := exclusive_of_run hrun
  exact ⟨labels, w, true, _, ρ, _, hrun, hstep, hfree, hcount, hbacked _ _ _ _ hstep⟩

end Tna.Platform
