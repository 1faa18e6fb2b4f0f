import Tna.Platform.Run

/-!
# What a settled run leaves

A run calls the broker, Sentinel and the verifier, and any of them may fail. Most
failures are caught and recorded. A call of Sentinel before or after the execution,
or of the verifier, that rejects is not: the error passes through and the row stays as
it was written last.
-/

namespace Tna.Platform

open Tna.Js Tna.Gate Tna.Lib Tna.Broker

/-! ## The property -/

/-- The row stands in the middle of an execution. -/
def Busy (row : Option PlatformAction) : Prop := ∃ a, row = some a ∧ (a.state = .executing ∨ a.state = .verifying)

/-- The states a failing step is recorded as. -/
def failureStates : List PlatformActionState := [.failed, .terminated, .indeterminate]

/-- What a run that has settled leaves of its action: nothing in the middle of an execution,
and either the row it found, or a recorded failure, or the completion it returns. -/
structure Settled (before after : Option PlatformAction) (o : RunOutcome) : Prop where
  idle : ¬ Busy after
  recorded : after = before ∨
    ∃ a, after = some a ∧ (a.state ∈ failureStates ∨ a.state = .completed ∧ o = .returned a true)

/-- The row of an action. -/
def World.row (w : World) (tenantId actionId : Text) : Option PlatformAction :=
  w.platform.actions.lookup (tenantId, actionId)

/-! ## A run whose writes go through -/

/-- The writes of a piece go through. -/
def RunAnswer.written : RunAnswer → Bool
  | .begin a => a.failOk && a.capabilityOk && a.sessionOk && a.claimOk
  | .checked _ _ _ failOk finishOk => failOk && finishOk
  | .redeemed failOk finishOk => failOk && finishOk
  | .posted _ resultOk finishOk verdictOk => resultOk && finishOk && verdictOk
  | .verified _ _ verdictOk => verdictOk
  | .checkFailed | .redeem _ | .postFailed | .verifyFailed => true

/-- The table of executions has room for this one: no row under its id, and none of its action. -/
def PlatformStore.Unclaimed (s : PlatformStore) (tenantId actionId executionId : Text) : Prop :=
  ∀ row ∈ s.runs.entries, row.1.1 = tenantId → row.1.2 ≠ executionId ∧ row.2.platformActionId ≠ actionId

/-- The execution a piece claims. -/
def RunAnswer.execution? : RunAnswer → Option Text
  | .begin a => some a.executionId
  | _ => none

/-- The store's own writes succeed in a piece. -/
def Serves (tenantId actionId : Text) (w : World) (a : RunAnswer) : Prop :=
  a.written = true ∧ ∀ id ∈ a.execution?, w.platform.Unclaimed tenantId actionId id

instance (tenantId actionId : Text) (w : World) (a : RunAnswer) : Decidable (Serves tenantId actionId w a) :=
  inferInstanceAs (Decidable (_ ∧ ∀ id ∈ a.execution?, ∀ row ∈ w.platform.runs.entries, _ → _))

/-- The rest of the system, while it does not touch an action: neither its row nor its execution. -/
structure Apart (tenantId actionId : Text) (w w' : World) : Prop where
  row : w'.row tenantId actionId = w.row tenantId actionId
  runs : ∀ id run, run.platformActionId = actionId → w.platform.runs.lookup (tenantId, id) = some run →
    w'.platform.runs.lookup (tenantId, id) = some run

/-- A step of a run whose writes succeed and whose action nobody else touches. -/
def ServedStep (b : ExecutionBroker) (tenantId actionId : Text) (x : World × RunPc) (l : RunLabel) (y : World × RunPc) :
    Prop :=
  RunStep b (fun _ => Apart tenantId actionId) x l y ∧ ∀ a, l = .own a → Serves tenantId actionId x.1 a

/-- A call whose rejection passes through: of Sentinel beside the creation of the session, and of
the verifier. -/
def RunAnswer.rejects : RunAnswer → Bool
  | .checkFailed | .postFailed | .verifyFailed => true
  | _ => false

/-- No such call rejected. -/
def Unrejected (labels : List RunLabel) : Prop := ∀ a, RunLabel.own a ∈ labels → a.rejects = false

section
variable {labels : List RunLabel}

theorem unrejected_nil : Unrejected [] := fun _ h => by cases h

theorem unrejected_env : Unrejected (labels ++ [.env]) ↔ Unrejected labels := by
  simp [Unrejected]

theorem unrejected_own {a : RunAnswer} : Unrejected (labels ++ [.own a]) ↔ Unrejected labels ∧ a.rejects = false := by
  constructor
  · intro h
    exact ⟨fun a' ha' => h a' (by simp [ha']), h a (by simp)⟩
  · rintro ⟨h, ha⟩ a' ha'
    rcases List.mem_append.1 ha' with ha' | ha'
    · exact h a' ha'
    · obtain rfl : a' = a := by simpa using ha'
      exact ha

end

/-! ## Writes that go through -/

/-- A write was made: the action has its new state, and is what the store holds. -/
def Wrote (s : PlatformStore) (key : Text × Text) (state : PlatformActionState)
    (result : Except PlatformError (PlatformStore × PlatformAction)) : Prop :=
  ∃ s' a, result = .ok (s', a) ∧ a.state = state ∧ a.key = key ∧ s'.actions.lookup key = some a ∧ s'.runs = s.runs

section
variable {s : PlatformStore} {a : PlatformAction}

theorem wrote_update {guard : PlatformAction → Option PlatformError} {change : PlatformAction → PlatformAction}
    (hrow : s.actions.lookup a.key = some a) (hguard : guard a = none) (hkey : (change a).key = a.key) :
    Wrote s a.key (change a).state (s.update true a.tenantId a.platformActionId guard change) := by
  have hget : s.get a.tenantId a.platformActionId = .ok a := by
    have hrow : s.actions.lookup (a.tenantId, a.platformActionId) = some a := hrow
    simp only [PlatformStore.get, hrow]
  obtain ⟨next, hnext⟩ : ∃ next, next = { change a with stateVersion := a.stateVersion + 1 } := ⟨_, rfl⟩
  have hnextKey : next.key = a.key := by
    rw [hnext]
    exact hkey
  refine ⟨s.put next, next, ?_, by rw [hnext], hnextKey, ?_, rfl⟩
  · simp only [PlatformStore.update, hget, hguard, if_true, hnext]
  · rw [← hnextKey]
    exact PlatformStore.lookup_put s next

theorem expects_of_state {state : PlatformActionState} (hstate : a.state = state) (message : Text) :
    PlatformStore.expects state a.stateVersion message a = none := by
  simp [PlatformStore.expects, hstate]

variable {target : PlatformActionState} {executionId : Text}

theorem wrote_failure (code message : Text) (hrow : s.actions.lookup a.key = some a)
    (hallowed : isAllowedTransition a.state target = true) :
    Wrote s a.key target
      (s.recordFailure true a.tenantId a.platformActionId a.stateVersion a.state target code message) := by
  refine wrote_update hrow ?_ rfl
  simp [expects_of_state rfl, PlatformStore.allows, hallowed]

theorem wrote_result (executionId resultHash : Text) (hrow : s.actions.lookup a.key = some a) (hstate : a.state = .executing)
    (hallowed : isAllowedTransition .executing target = true) :
    Wrote s a.key target
      (s.recordExecutionResult true a.tenantId a.platformActionId a.stateVersion executionId resultHash target) := by
  refine wrote_update hrow ?_ rfl
  simp [expects_of_state hstate, PlatformStore.allows, hallowed]

theorem wrote_verdict (target : PlatformActionState) (atomId finalState : Text) (code : Option Text)
    (hrow : s.actions.lookup a.key = some a) (hstate : a.state = .verifying) :
    Wrote s a.key target
      (s.recordVerificationResult true a.tenantId a.platformActionId a.stateVersion atomId finalState target code) :=
  wrote_update hrow (expects_of_state hstate _) rfl

theorem finishRun_claimed {tenantId : Text} (status : RunStatus) {run : PlatformRun}
    (hrun : s.runs.lookup (tenantId, executionId) = some run) (hclaimed : run.status = .claimed) :
    ∃ s', s.finishRun true tenantId executionId status = .ok s' := by
  simp [PlatformStore.finishRun, hrun, hclaimed]

theorem claimExecution_unclaimed (hrow : s.actions.lookup a.key = some a) (hstate : a.state = .monitoring)
    (hfree : s.Unclaimed a.tenantId a.platformActionId executionId) :
    ∃ s' a', s.claimExecution true a.tenantId a.platformActionId a.stateVersion executionId = .ok (s', a') ∧
      a'.state = .executing ∧ a'.key = a.key ∧ s'.actions.lookup a.key = some a' ∧
      s'.runs.lookup (a.tenantId, executionId) = some ⟨a.platformActionId, .claimed⟩ := by
  have hguard : PlatformStore.expects .monitoring a.stateVersion "Action is not claimable for execution" a = none :=
    expects_of_state hstate _
  have hwrote : Wrote s a.key .executing (s.update true a.tenantId a.platformActionId
      (PlatformStore.expects .monitoring a.stateVersion "Action is not claimable for execution")
      fun a => { a with state := .executing }) := wrote_update hrow hguard rfl
  obtain ⟨s', a', hupdate, hstate', hkey, hlookup, -⟩ := hwrote
  refine ⟨{ s' with runs := s.runs.insert (a.tenantId, executionId) ⟨a.platformActionId, .claimed⟩ }, a', ?_, hstate',
    hkey, hlookup, AList.lookup_insert _⟩
  have hany : (s.runs.entries.any fun row =>
      row.1.1 = a.tenantId && (row.1.2 = executionId || row.2.platformActionId = a.platformActionId)) = false := by
    rw [List.any_eq_false]
    rintro ⟨⟨tenantId, id⟩, run⟩ hmem
    by_cases htenant : tenantId = a.tenantId
    · obtain ⟨hid, haction⟩ := hfree _ hmem htenant
      simp [hid, haction]
    · simp [htenant]
  unfold PlatformStore.claimExecution
  rw [hupdate]
  simp only [hany, Bool.false_eq_true, if_false]

end

/-! ## What a run holds -/

/-- The execution a run has claimed is its own still: the row is the copy it holds, and
the row of the execution can be finished. -/
structure Holds (w : World) (r : RunContext) : Prop where
  row : w.platform.actions.lookup r.action.key = some r.action
  executing : r.action.state = .executing
  claimed : w.platform.runs.lookup (r.action.tenantId, r.executionId) = some ⟨r.action.platformActionId, .claimed⟩

section
variable {w : World} {row before : Option PlatformAction} {r : RunContext}

/-- A run that changed nothing is settled unless it found the action in the middle of an execution. -/
theorem settled_refused (o : RunOutcome) : Settled row row o ↔ ¬ Busy row :=
  ⟨fun h => h.idle, fun h => ⟨h, .inl rfl⟩⟩

variable {a : PlatformAction} {actionId : Text}

theorem not_busy (h : a.state ≠ .executing ∧ a.state ≠ .verifying) : ¬ Busy (some a) := by
  rintro ⟨a', ha', hstate⟩
  cases ha'
  rcases hstate with hstate | hstate
  · exact h.1 hstate
  · exact h.2 hstate

theorem settled_failure (o : RunOutcome) (h : a.state ∈ failureStates) : Settled before (some a) o := by
  refine ⟨not_busy ?_, .inr ⟨a, rfl, .inl h⟩⟩
  simp only [failureStates, List.mem_cons, List.not_mem_nil, or_false] at h
  rcases h with h | h | h <;> simp [h]

theorem settled_completed (h : a.state = .completed) : Settled before (some a) (.returned a true) :=
  ⟨not_busy (by simp [h]), .inr ⟨a, rfl, .inr ⟨h, rfl⟩⟩⟩

/-- A piece of a run that settles it. -/
def SettledBy (before : Option PlatformAction) (tenantId actionId : Text) (e : RunEffect) : Prop :=
  ∃ o, e.pc = .done o ∧ Settled before (e.world.row tenantId actionId) o

/-- A write of a final state settles the run. -/
theorem settledBy_endWith {tenantId : Text} {state : PlatformActionState} {executed : Bool}
    {result : Except PlatformError (PlatformStore × PlatformAction)} {after : PlatformStore → PlatformStore}
    (h : Wrote w.platform (tenantId, actionId) state result)
    (hstate : state ∈ failureStates ∨ state = .completed ∧ executed = true) (hafter : ∀ p, (after p).actions = p.actions) :
    SettledBy before tenantId actionId (endWith w result executed after) := by
  obtain ⟨p, a, rfl, rfl, -, hlookup, -⟩ := h
  refine ⟨_, rfl, ?_⟩
  have hrow : World.row { w with platform := after p } tenantId actionId = some a := by
    simp only [World.row, hafter]
    exact hlookup
  simp only [endWith, RunEffect.quiet]
  rw [hrow]
  rcases hstate with hstate | ⟨hstate, rfl⟩
  · exact settled_failure _ hstate
  · exact settled_completed hstate

theorem settledBy_failAt {target : PlatformActionState} (code message : Text) (hrow : w.platform.actions.lookup a.key = some a)
    (hallowed : isAllowedTransition a.state target = true) (htarget : target ∈ failureStates) :
    SettledBy before a.tenantId a.platformActionId (failAt w true a a.state target code message) := by
  obtain ⟨p, a', hresult, rfl, -, hlookup, -⟩ := wrote_failure code message hrow hallowed
  unfold failAt
  rw [hresult]
  refine ⟨_, rfl, ?_⟩
  have hrow : World.row { w with platform := p } a.tenantId a.platformActionId = some a' := hlookup
  simp only [RunEffect.quiet]
  rw [hrow]
  exact settled_failure _ htarget

/-- What follows the pre-action check settles the run, or goes on to the broker. -/
theorem afterCheck_settles (b : ExecutionBroker) (h : Holds w r) (decision : Option Sentinel.SentinelDecisionType)
    (confirmed : Bool) (violations : Text) :
    SettledBy before r.action.tenantId r.action.platformActionId
        (afterCheck b w r decision confirmed violations true true) ∨
      afterCheck b w r decision confirmed violations true true =
        .quiet w (.redeeming r (.start (.agent r.agentId) (r.redeemInput b.sha256))) := by
  have hwrote : ∀ target, target ∈ failureStates → ∀ code message, Wrote w.platform r.action.key target
      (w.platform.recordFailure true r.action.tenantId r.action.platformActionId r.action.stateVersion .executing target
        code message) := by
    intro target htarget code message
    rw [← h.executing]
    refine wrote_failure code message h.row ?_
    rw [h.executing]
    simp only [failureStates, List.mem_cons, List.not_mem_nil, or_false] at htarget
    rcases htarget with rfl | rfl | rfl <;> rfl
  unfold afterCheck
  simp only
  split
  · refine .inl (settledBy_endWith (hwrote _ ?_ _ _) (.inl ?_) fun p => PlatformStore.finishRunQuietly_actions ..) <;>
      cases confirmed <;> simp [failureStates]
  · refine .inl (settledBy_endWith (hwrote _ ?_ _ _) (.inl ?_) fun p => rfl) <;> simp [failureStates]
  · split
    · refine .inl (settledBy_endWith (hwrote _ ?_ _ _) (.inl ?_) fun p => rfl) <;> simp [failureStates]
    · exact .inr rfl

/-- An error of the broker is recorded as a failure. -/
theorem afterRedeem_settles (h : Holds w r) (e : Thrown) :
    SettledBy before r.action.tenantId r.action.platformActionId (afterRedeem w r true true (.threw e)) := by
  have hwrote : ∀ target, target = .indeterminate ∨ target = .failed → ∀ code message,
      Wrote w.platform r.action.key target (w.platform.recordFailure true r.action.tenantId r.action.platformActionId
        r.action.stateVersion .executing target code message) := by
    intro target htarget code message
    rw [← h.executing]
    refine wrote_failure code message h.row ?_
    rw [h.executing]
    rcases htarget with rfl | rfl <;> rfl
  unfold afterRedeem
  refine settledBy_endWith (hwrote _ ?_ _ _) (.inl ?_) fun p => PlatformStore.finishRunQuietly_actions ..
  · cases degraded e <;> simp
  · cases degraded e <;> simp [failureStates]

/-- The action a verifier is asked about: its row, and verifying. -/
structure Verifying (w : World) (a : PlatformAction) : Prop where
  row : w.platform.actions.lookup a.key = some a
  verifying : a.state = .verifying

theorem afterVerify_settles (h : Verifying w a) (atomId : Text) (finalState : VadFinalState) :
    SettledBy before a.tenantId a.platformActionId (afterVerify w a atomId finalState true) := by
  have hwrote := fun target code => wrote_verdict target atomId finalState.name code h.row h.verifying
  cases finalState with
  | accepted => exact settledBy_endWith (hwrote .completed none) (.inr ⟨rfl, rfl⟩) fun p => rfl
  | rejected => exact settledBy_endWith (hwrote .failed _) (.inl (by simp [failureStates])) fun p => rfl
  | escalated => exact settledBy_endWith (hwrote .indeterminate _) (.inl (by simp [failureStates])) fun p => rfl
  | failed => exact settledBy_endWith (hwrote .indeterminate _) (.inl (by simp [failureStates])) fun p => rfl

/-- What follows the observation after the execution settles the run, or goes on to the verifier. -/
theorem afterPost_settles (h : Holds w r) (executionId resultHash : Text) (vad : Bool) :
    SettledBy before r.action.tenantId r.action.platformActionId
        (afterPost w r executionId resultHash vad true true true) ∨
      ∃ w' a, afterPost w r executionId resultHash vad true true true = .quiet w' (.verifying a) ∧ Verifying w' a ∧
        a.key = r.action.key := by
  have hallowed : isAllowedTransition .executing
      (if r.action.request.requiresVerification then PlatformActionState.verifying else .completed) = true := by
    cases r.action.request.requiresVerification <;> rfl
  obtain ⟨p, a, hresult, hstate, hkey, hlookup, hruns⟩ :=
    wrote_result executionId resultHash h.row h.executing hallowed
  have hclaimed : p.runs.lookup (r.action.tenantId, r.executionId) = some ⟨r.action.platformActionId, .claimed⟩ := by
    rw [hruns]
    exact h.claimed
  obtain ⟨q, hfinish⟩ := finishRun_claimed .finished hclaimed rfl
  have hrow : q.actions.lookup r.action.key = some a := by
    rw [PlatformStore.finishRun_actions hfinish]
    exact hlookup
  unfold afterPost
  simp only
  rw [hresult]
  simp only [thenFinish]
  rw [hfinish]
  by_cases hrequires : r.action.request.requiresVerification = true
  · simp only [hrequires, if_true] at hstate ⊢
    have hverifying : Verifying { w with platform := q } a := ⟨by rw [hkey]; exact hrow, hstate⟩
    cases vad with
    | true => exact .inr ⟨_, a, rfl, hverifying, hkey⟩
    | false =>
      left
      have hwrote := wrote_verdict .indeterminate "none" "UNAVAILABLE" (some "COMPONENT_UNAVAILABLE") hverifying.row hstate
      rw [hkey] at hwrote
      exact settledBy_endWith hwrote (.inl (by simp [failureStates])) fun p => rfl
  · simp only [hrequires, Bool.false_eq_true, if_false] at hstate ⊢
    refine .inl ⟨_, rfl, ?_⟩
    have hrow : World.row { w with platform := q } r.action.tenantId r.action.platformActionId = some a := hrow
    simp only [RunEffect.quiet]
    rw [hrow]
    exact settled_completed hstate

/-- What the beginning of a run comes to: it was refused, it settled, or it has claimed its execution. -/
inductive Began (w : World) (tenantId actionId : Text) : RunEffect → Prop where
  | refused {w' : World} {o : RunOutcome} (h : w'.platform = w.platform) :
    Began w tenantId actionId (.quiet w' (.done o))
  | settled {e : RunEffect} (hidle : ¬ Busy (w.row tenantId actionId))
    (h : ∀ before, SettledBy before tenantId actionId e) : Began w tenantId actionId e
  | claimed {w' : World} {r : RunContext} (hidle : ¬ Busy (w.row tenantId actionId)) (h : Holds w' r)
    (hkey : r.action.key = (tenantId, actionId)) : Began w tenantId actionId (.quiet w' (.preChecking r))

theorem began_runBegin {b : ExecutionBroker} {principal : PlatformPrincipal} {a : RunBegin}
    (hwritten : (RunAnswer.begin a).written = true) (hfree : w.platform.Unclaimed principal.tenantId actionId a.executionId) :
    Began w principal.tenantId actionId (runBegin b w principal actionId a) := by
  simp only [RunAnswer.written, Bool.and_eq_true] at hwritten
  obtain ⟨⟨⟨hfail, hcapability⟩, hsession⟩, hclaim⟩ := hwritten
  unfold runBegin
  split
  · exact .refused rfl
  next agentId _ =>
  split
  · exact .refused rfl
  split
  · exact .refused rfl
  next action haction =>
  split
  · exact .refused rfl
  split
  · exact .refused rfl
  next hauthorized =>
  have hstate : action.state = .authorized := not_not.1 hauthorized
  have hrow := PlatformStore.get_ok haction
  have hkey : action.key = (principal.tenantId, actionId) := w.platform.actions_key _ _ hrow
  have htenant : action.tenantId = principal.tenantId := congrArg Prod.fst hkey
  have hid : action.platformActionId = actionId := congrArg Prod.snd hkey
  have hidle : ¬ Busy (w.row principal.tenantId actionId) := by
    simp only [World.row, hrow]
    exact not_busy (by simp [hstate])
  rw [← hkey] at hrow
  rw [← htenant, ← hid] at hidle ⊢
  rw [← htenant, ← hid] at hfree
  split
  · simp only
    split
    · -- the capability could not be issued
      rw [hfail, ← hstate]
      exact .settled hidle fun _ => settledBy_failAt _ _ hrow (by rw [hstate]; rfl) (by simp [failureStates])
    next token capability _ =>
    obtain ⟨p₂, action₂, hrecord, hstate₂, hkey₂, hrow₂, hruns₂⟩ :
        Wrote w.platform action.key .capabilityIssued (w.platform.recordCapability true action.tenantId
          action.platformActionId action.stateVersion capability.capabilityId) :=
      wrote_update hrow (expects_of_state hstate _) rfl
    rw [hcapability, hrecord]
    simp only
    rw [← hkey₂] at hrow₂
    have htenant₂ : action₂.tenantId = action.tenantId := congrArg Prod.fst hkey₂
    have hid₂ : action₂.platformActionId = action.platformActionId := congrArg Prod.snd hkey₂
    rw [← htenant₂, ← hid₂] at hidle hfree ⊢
    split
    · -- the session could not be created
      rw [hfail, ← hstate₂]
      exact .settled hidle fun _ => settledBy_failAt _ _ hrow₂ (by rw [hstate₂]; rfl) (by simp [failureStates])
    next sessionId _ =>
    obtain ⟨p₃, action₃, hrecord, hstate₃, hkey₃, hrow₃, hruns₃⟩ :
        Wrote p₂ action₂.key .monitoring (p₂.recordSentinelSession true action₂.tenantId action₂.platformActionId
          action₂.stateVersion sessionId) :=
      wrote_update hrow₂ (expects_of_state hstate₂ _) rfl
    rw [hsession, hrecord]
    simp only
    rw [← hkey₃] at hrow₃
    have htenant₃ : action₃.tenantId = action₂.tenantId := congrArg Prod.fst hkey₃
    have hid₃ : action₃.platformActionId = action₂.platformActionId := congrArg Prod.snd hkey₃
    rw [← htenant₃, ← hid₃] at hidle hfree ⊢
    have hfree₃ : p₃.Unclaimed action₃.tenantId action₃.platformActionId a.executionId := by
      unfold PlatformStore.Unclaimed
      rw [hruns₃, hruns₂]
      exact hfree
    obtain ⟨p₄, action₄, hrecord, hstate₄, hkey₄, hrow₄, hclaimed⟩ := claimExecution_unclaimed hrow₃ hstate₃ hfree₃
    rw [hclaim, hrecord]
    have htenant₄ : action₄.tenantId = action₃.tenantId := congrArg Prod.fst hkey₄
    have hid₄ : action₄.platformActionId = action₃.platformActionId := congrArg Prod.snd hkey₄
    refine .claimed hidle ⟨?_, hstate₄, ?_⟩ hkey₄
    · rw [hkey₄]
      exact hrow₄
    · rw [htenant₄, hid₄]
      exact hclaimed
  · exact .refused rfl

end

/-! ## Whole runs -/

/-- What is known of a run at each of its counters: it holds its execution until it is
settled, and settled it left its action in order unless a call rejected. -/
def Accounted (before : Option PlatformAction) (tenantId actionId : Text) (labels : List RunLabel) (x : World × RunPc) :
    Prop :=
  match x.2 with
  | .start principal id =>
    principal.tenantId = tenantId ∧ id = actionId ∧ x.1.row tenantId actionId = before ∧ Unrejected labels
  | .preChecking r | .redeeming r _ | .postChecking r .. =>
    Holds x.1 r ∧ r.action.key = (tenantId, actionId) ∧ ¬ Busy before ∧ Unrejected labels
  | .verifying a => Verifying x.1 a ∧ a.key = (tenantId, actionId) ∧ ¬ Busy before ∧ Unrejected labels
  | .done o => Settled before (x.1.row tenantId actionId) o ↔ ¬ Busy before ∧ Unrejected labels

section
variable {b : ExecutionBroker} {tenantId actionId : Text} {before : Option PlatformAction} {labels : List RunLabel}

variable {e : RunEffect} {a : RunAnswer} {w : World} {pc : RunPc}

theorem accounted_settledBy {key : Text × Text} (hkey : key = (tenantId, actionId)) (h : SettledBy before key.1 key.2 e)
    (hidle : ¬ Busy before) (hlabels : Unrejected labels) : Accounted before tenantId actionId labels (e.world, e.pc) := by
  subst hkey
  obtain ⟨o, hpc, hsettled⟩ := h
  simp only [Accounted, hpc]
  exact ⟨fun _ => ⟨hidle, hlabels⟩, fun _ => hsettled⟩

/-- A rejection leaves the row as it is, in the middle of the execution. -/
theorem accounted_rejected {o : RunOutcome} (hbusy : Busy (w.row tenantId actionId)) (hrejects : a.rejects = true) :
    Accounted before tenantId actionId (labels ++ [.own a]) (w, .done o) := by
  simp only [Accounted]
  constructor
  · intro h
    exact absurd hbusy h.idle
  · rintro ⟨-, h⟩
    rw [(unrejected_own.1 h).2] at hrejects
    cases hrejects

theorem Holds.busy {r : RunContext} (h : Holds w r) (hkey : r.action.key = (tenantId, actionId)) :
    Busy (w.row tenantId actionId) := by
  refine ⟨r.action, ?_, .inl h.executing⟩
  have hrow := h.row
  rw [hkey] at hrow
  exact hrow

theorem Verifying.busy {a : PlatformAction} (h : Verifying w a) (hkey : a.key = (tenantId, actionId)) :
    Busy (w.row tenantId actionId) := by
  refine ⟨a, ?_, .inr h.verifying⟩
  have hrow := h.row
  rw [hkey] at hrow
  exact hrow

/-- A piece of the run keeps it. -/
theorem accounted_own (h : runStep b w pc a = some e) (hserves : Serves tenantId actionId w a)
    (hx : Accounted before tenantId actionId labels (w, pc)) :
    Accounted before tenantId actionId (labels ++ [.own a]) (e.world, e.pc) := by
  obtain ⟨hwritten, hfree⟩ := hserves
  unfold runStep at h
  split at h
  · next principal id a =>
    cases h
    obtain ⟨rfl, rfl, hrow, hlabels⟩ := hx
    have hlabels' : Unrejected (labels ++ [.own (.begin a)]) := unrejected_own.2 ⟨hlabels, rfl⟩
    have hbegan := began_runBegin (b := b) hwritten (hfree a.executionId rfl)
    generalize runBegin b w principal id a = e at hbegan
    rw [← hrow]
    cases hbegan with
    | refused hsame =>
      simp only [Accounted, World.row, RunEffect.quiet, hsame, settled_refused, hlabels', and_true]
    | settled hidle hsettled => exact accounted_settledBy rfl (hsettled _) hidle hlabels'
    | claimed hidle hholds hkey => exact ⟨hholds, hkey, hidle, hlabels'⟩
  · next r decision confirmed violations failOk finishOk =>
    cases h
    obtain ⟨hholds, hkey, hidle, hlabels⟩ := hx
    simp only [RunAnswer.written, Bool.and_eq_true] at hwritten
    obtain ⟨rfl, rfl⟩ := hwritten
    have hlabels' := unrejected_own.2 ⟨hlabels, (rfl : (RunAnswer.checked decision confirmed violations true true).rejects = _)⟩
    rcases afterCheck_settles b hholds decision confirmed violations with hsettled | hgo
    · exact accounted_settledBy hkey hsettled hidle hlabels'
    · rw [hgo]
      exact ⟨hholds, hkey, hidle, hlabels'⟩
  · cases h
    exact accounted_rejected (hx.1.busy hx.2.1) rfl
  · next r o failOk finishOk =>
    cases h
    obtain ⟨hholds, hkey, hidle, hlabels⟩ := hx
    simp only [RunAnswer.written, Bool.and_eq_true] at hwritten
    obtain ⟨rfl, rfl⟩ := hwritten
    have hlabels' := unrejected_own.2 ⟨hlabels, (rfl : (RunAnswer.redeemed true true).rejects = _)⟩
    cases o with
    | returned executionId resultHash => exact ⟨hholds, hkey, hidle, hlabels'⟩
    | threw e => exact accounted_settledBy hkey (afterRedeem_settles hholds e) hidle hlabels'
  · obtain ⟨e', -, rfl⟩ := Option.map_eq_some_iff.1 h
    obtain ⟨hholds, hkey, hidle, hlabels⟩ := hx
    exact ⟨⟨hholds.row, hholds.executing, hholds.claimed⟩, hkey, hidle, unrejected_own.2 ⟨hlabels, rfl⟩⟩
  · next r executionId resultHash vad resultOk finishOk verdictOk =>
    cases h
    obtain ⟨hholds, hkey, hidle, hlabels⟩ := hx
    simp only [RunAnswer.written, Bool.and_eq_true] at hwritten
    obtain ⟨⟨rfl, rfl⟩, rfl⟩ := hwritten
    have hlabels' := unrejected_own.2 ⟨hlabels, (rfl : (RunAnswer.posted vad true true true).rejects = _)⟩
    rcases afterPost_settles hholds executionId resultHash vad with hsettled | ⟨w', action, hgo, hverifying, hkey'⟩
    · exact accounted_settledBy hkey hsettled hidle hlabels'
    · rw [hgo]
      exact ⟨hverifying, hkey'.trans hkey, hidle, hlabels'⟩
  · cases h
    exact accounted_rejected (hx.1.busy hx.2.1) rfl
  · next action atomId finalState ok =>
    cases h
    obtain ⟨hverifying, hkey, hidle, hlabels⟩ := hx
    cases (hwritten : ok = true)
    exact accounted_settledBy hkey (afterVerify_settles hverifying atomId finalState) hidle
      (unrejected_own.2 ⟨hlabels, rfl⟩)
  · cases h
    exact accounted_rejected (hx.1.busy hx.2.1) rfl
  · cases h

/-- A step of the rest of the system keeps it. -/
theorem accounted_env {w' : World} (h : Apart tenantId actionId w w') (hx : Accounted before tenantId actionId labels (w, pc)) :
    Accounted before tenantId actionId (labels ++ [.env]) (w', pc) := by
  have hholds : ∀ r : RunContext, r.action.key = (tenantId, actionId) → Holds w r → Holds w' r := by
    intro r hkey hr
    have htenant : r.action.tenantId = tenantId := congrArg Prod.fst hkey
    have hid : r.action.platformActionId = actionId := congrArg Prod.snd hkey
    refine ⟨?_, hr.executing, ?_⟩
    · have hrow := hr.row
      rw [hkey] at hrow ⊢
      exact h.row.trans hrow
    · have hclaimed := hr.claimed
      rw [htenant] at hclaimed ⊢
      exact h.runs _ _ hid hclaimed
  cases pc with
  | start principal id =>
    obtain ⟨htenant, hid, hrow, hlabels⟩ := hx
    exact ⟨htenant, hid, h.row.trans hrow, unrejected_env.2 hlabels⟩
  | preChecking r =>
    obtain ⟨hr, hkey, hidle, hlabels⟩ := hx
    exact ⟨hholds r hkey hr, hkey, hidle, unrejected_env.2 hlabels⟩
  | redeeming r bpc =>
    obtain ⟨hr, hkey, hidle, hlabels⟩ := hx
    exact ⟨hholds r hkey hr, hkey, hidle, unrejected_env.2 hlabels⟩
  | postChecking r executionId resultHash =>
    obtain ⟨hr, hkey, hidle, hlabels⟩ := hx
    exact ⟨hholds r hkey hr, hkey, hidle, unrejected_env.2 hlabels⟩
  | verifying a =>
    obtain ⟨ha, hkey, hidle, hlabels⟩ := hx
    refine ⟨⟨?_, ha.verifying⟩, hkey, hidle, unrejected_env.2 hlabels⟩
    have hrow := ha.row
    rw [hkey] at hrow ⊢
    exact h.row.trans hrow
  | done o =>
    simp only [Accounted, h.row, unrejected_env] at hx ⊢
    exact hx

theorem accounted_step (as : List RunLabel) (x : World × RunPc) (l : RunLabel) (y : World × RunPc)
    (h : ServedStep b tenantId actionId x l y) (hx : Accounted before tenantId actionId as x) :
    Accounted before tenantId actionId (as ++ [l]) y := by
  obtain ⟨hstep, hserves⟩ := h
  cases hstep with
  | own hown => exact accounted_own hown (hserves _ rfl) hx
  | env henv => exact accounted_env henv hx

/-- **What a run leaves when it settles.** In a run whose writes go through and whose action
nobody else touches, the action is left in order exactly when it was not in the middle of an
execution at the call and no call that is not caught rejected. -/
theorem settled_iff {w₀ w : World} {principal : PlatformPrincipal} {o : RunOutcome}
    (hrun : Run (ServedStep b principal.tenantId actionId) (w₀, .start principal actionId) labels (w, .done o)) :
    Settled (w₀.row principal.tenantId actionId) (w.row principal.tenantId actionId) o ↔
      ¬ Busy (w₀.row principal.tenantId actionId) ∧ Unrejected labels :=
  hrun.trace_invariant (I := Accounted (w₀.row principal.tenantId actionId) principal.tenantId actionId) accounted_step
    ⟨rfl, rfl, rfl, unrejected_nil⟩

end

/-! ## Runs that settle -/

/-- A run of a sample action in which every write goes through, given the answers it gets. -/
def replayServed (b : ExecutionBroker) (tenantId actionId : Text) : World × RunPc → List RunAnswer → Option (World × RunPc) :=
  replay fun x a =>
    if Serves tenantId actionId x.1 a then (runStep b x.1 x.2 a).map fun e => (e.world, e.pc) else none

theorem servedRun_of_test (b : ExecutionBroker) (tenantId actionId : Text) (x : World × RunPc) (as : List RunAnswer)
    (test : World × RunPc → Bool) (h : (replayServed b tenantId actionId x as).any test = true) :
    ∃ y, Run (ServedStep b tenantId actionId) x (as.map .own) y ∧ test y = true := by
  obtain ⟨y, hrun, htest⟩ := run_of_test h
  refine ⟨y, hrun.map RunLabel.own ?_, htest⟩
  intro x a y hxy
  split at hxy
  · next hserves =>
    obtain ⟨e, he, rfl⟩ := Option.map_eq_some_iff.1 hxy
    refine ⟨.own he, ?_⟩
    intro a' ha'
    cases ha'
    exact hserves
  · cases hxy

/-- The answers to a run in which everything goes well. -/
def sampleAnswers : List RunAnswer :=
  [sampleBegin, sampleCheck, .redeem (.go true), .redeem (.go true), .redeem (.go true), .redeem (.returned (some "h")),
    .redeem (.go true), .redeemed true true, .posted false true true true]

def returnsInvoked (x : World × RunPc) : Bool :=
  match x.2 with
  | .done (.returned _ true) => true
  | _ => false

theorem settled_iff_reader :
    ∃ w action, Run (ServedStep readerBroker sampleAgent.tenantId "pa1") (sampleWorld, .start sampleAgent "pa1")
        (sampleAnswers.map .own) (w, .done (.returned action true)) ∧
      Settled (sampleWorld.row sampleAgent.tenantId "pa1") (w.row sampleAgent.tenantId "pa1") (.returned action true) := by
  obtain ⟨⟨w, pc⟩, hrun, htest⟩ := servedRun_of_test readerBroker "t" "pa1" (sampleWorld, .start sampleAgent "pa1")
    sampleAnswers
    returnsInvoked (by decide +kernel)
  simp only [returnsInvoked] at htest
  split at htest
  · next action =>
    refine ⟨w, action, hrun, (settled_iff hrun).2 ⟨?_, ?_⟩⟩
    · exact not_busy (a := sampleAction) (by decide)
    · intro a ha
      simp only [sampleAnswers, List.map_cons, List.map_nil, List.mem_cons, List.not_mem_nil, or_false,
        RunLabel.own.injEq] at ha
      rcases ha with rfl | rfl | rfl | rfl | rfl | rfl | rfl | rfl | rfl <;> rfl
  · cases htest

/-- The call is over, and the action executes. -/
def endsExecuting (x : World × RunPc) : Bool :=
  match x.2 with
  | .done _ => (x.1.row "t" "pa1").any fun a => a.state = .executing
  | _ => false

/-- A run whose pre-action observation is rejected leaves its action executing. -/
theorem settled_checkFailed :
    ¬ ∀ (b : ExecutionBroker) (w₀ w : World) (principal : PlatformPrincipal) (actionId : Text) (labels : List RunLabel)
      (o : RunOutcome), ¬ Busy (w₀.row principal.tenantId actionId) →
      Run (ServedStep b principal.tenantId actionId) (w₀, .start principal actionId) labels (w, .done o) →
      Settled (w₀.row principal.tenantId actionId) (w.row principal.tenantId actionId) o := by
  intro h
  obtain ⟨⟨w, pc⟩, hrun, htest⟩ := servedRun_of_test readerBroker "t" "pa1" (sampleWorld, .start sampleAgent "pa1")
    [sampleBegin, .checkFailed]
    endsExecuting (by decide +kernel)
  simp only [endsExecuting] at htest
  split at htest
  · next o =>
    obtain ⟨a, ha, hstate⟩ := (Option.any_eq_true ..).1 htest
    have hsettled := h readerBroker sampleWorld w sampleAgent "pa1" _ o
      (not_busy (a := sampleAction) (by decide)) hrun
    exact hsettled.idle ⟨a, ha, .inl (of_decide_eq_true hstate)⟩
  · cases htest

end Tna.Platform
