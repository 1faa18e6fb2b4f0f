import Tna.Sentinel.Contained

/-!
# The lifecycle a session really has

The table of transitions is one statement of the lifecycle. The next status of a decision,
its reconciliation with the fresh row, and the tests in `resume` and `completeSession` are
others. They agree but for one edge, and for what `resume` is for.
-/

namespace Tna.Sentinel

open Tna.Js Tna.Lib

section
variable {rt : SentinelRuntime} {x y : System} {l : Act} {labels : List Act} {key : Text × Text} {old new : SessionStatus}
  {decision : SentinelDecisionType} {kind : TransitionResult}

/-! ## Decisions and the table -/

/-- A status that a decision replaces is followed by one of its successors. -/
theorem target_mem_transitions (h : SentinelStore.reconcileDecisionTarget old decision = (new, kind)) (hne : new ≠ old)
    (hcreated : old ≠ .created) : new ∈ transitions old := by
  by_cases hended : isTerminalStatus old = true ∨ old = .terminating
  · rw [reconcileDecisionTarget_of_ended hended] at h
    exact absurd (congrArg Prod.fst h).symm hne
  · rw [target_of_open h hended]
    clear h
    cases old with
    | created => exact absurd rfl hcreated
    | terminated | completed | indeterminate => exact absurd (.inl rfl) hended
    | terminating => exact absurd (.inr rfl) hended
    | monitoring | warned | held => cases decision <;> decide

theorem target_hold_iff (hcreated : old ≠ .created) :
    (SentinelStore.reconcileDecisionTarget old .hold).1 = .held ↔ .held ∈ transitions old := by
  cases old with
  | created => exact absurd rfl hcreated
  | monitoring | warned | held | terminating | terminated | completed | indeterminate => decide

theorem target_terminate_iff (hcreated : old ≠ .created) :
    old ≠ .terminating ∧ (SentinelStore.reconcileDecisionTarget old .terminate).1 = .terminating ↔
      .terminating ∈ transitions old := by
  cases old with
  | created => exact absurd rfl hcreated
  | monitoring | warned | held | terminating | terminated | completed | indeterminate => decide

/-! ## Steps -/

/-- A change of status is an edge of the table, or completes a session that was warned. -/
theorem edge_of_step (h : HistoryStep rt x l y) (hcreated : old ≠ .created) (hold : x.store.status? key = some old)
    (hnew : y.store.status? key = some new) (hne : new ≠ old) :
    new ∈ transitions old ∨ old = .warned ∧ new = .completed := by
  cases h with
  | @piece p hi hbefore h =>
    rw [← hbefore] at hold
    have hnew : p.effect.store.status? key = some new := hnew
    cases move_of_run key h with
    | still hsame _ => exact absurd (Option.some.inj (hnew.symm.trans (hsame.trans hold))) hne
    | decides _ hold' htarget hnew' _ =>
      cases hold.symm.trans hold'
      cases hnew.symm.trans hnew'
      exact .inl (target_mem_transitions htarget hne hcreated)
    | resolves _ _ hold' hnew' htarget _ =>
      cases hold.symm.trans hold'
      cases hnew.symm.trans hnew'
      left
      rcases htarget with rfl | rfl <;> decide
  | @sync s h =>
    have hnew : s.status? key = some new := hnew
    cases syncMove_of_step h key with
    | still hsame => exact absurd (Option.some.inj (hnew.symm.trans (hsame.trans hold))) hne
    | creates hnone _ => cases hold.symm.trans hnone
    | resumes hold' hnew' =>
      cases hold.symm.trans hold'
      cases hnew.symm.trans hnew'
      left
      decide
    | completes hold' hopen hnew' =>
      cases hold.symm.trans hold'
      cases hnew.symm.trans hnew'
      rcases hopen with rfl | rfl
      · left
        decide
      · exact .inr ⟨rfl, rfl⟩
  | stop => exact absurd (Option.mem_unique hnew hold) hne

/-- No session is ever stored as `CREATED`. -/
theorem not_created_step (x : System) (l : Act) (y : System) (h : HistoryStep rt x l y)
    (hx : x.store.status? key ≠ some .created) : y.store.status? key ≠ some .created := by
  intro hnew
  cases hstatus : x.store.status? key with
  | some old =>
    have hcreated : old ≠ .created := by
      rintro rfl
      exact hx hstatus
    rcases edge_of_step h hcreated hstatus hnew (Ne.symm hcreated) with hmem | ⟨-, heq⟩
    · cases old <;> simp [transitions] at hmem
    · cases heq
  | none =>
    cases h with
    | @piece p hi hbefore h =>
      rw [← hbefore] at hstatus
      cases move_of_run key h with
      | still hsame _ => cases (hsame.trans hstatus).symm.trans hnew
      | decides _ hold _ _ _ => cases hstatus.symm.trans hold
      | resolves _ _ hold _ _ _ => cases hstatus.symm.trans hold
    | @sync s h =>
      cases syncMove_of_step h key with
      | still hsame => cases (hsame.trans hstatus).symm.trans hnew
      | creates _ hnew' => cases hnew'.symm.trans hnew
      | resumes hold _ => cases hstatus.symm.trans hold
      | completes hold _ _ => cases hstatus.symm.trans hold
    | stop => cases hstatus.symm.trans hnew

/-! ## What a controller can do -/

variable {s : SentinelStore} {principal : SentinelPrincipal} {sessionId message : Text} {a : PieceAnswer} {now : Int}
  {caller : Caller}

/-- A claim that the database takes goes by the status. -/
theorem applied_of_status {d : SentinelDecision} (hok : a.claimOk = true) (hold : s.status? key = some old) :
    (applyOutcome s key d caller a).store.status? key = some (SentinelStore.reconcileDecisionTarget old d.decision).1 ∧
      ((applyOutcome s key d caller a).pc.Ends key ↔
        old ≠ .terminating ∧ (SentinelStore.reconcileDecisionTarget old d.decision).1 = .terminating) := by
  obtain ⟨row, hrow, rfl⟩ := Option.map_eq_some_iff.1 hold
  cases hclaim : s.reconcileAndClaim a.claimOk a.now key d.decision with
  | error e =>
    exfalso
    unfold SentinelStore.reconcileAndClaim at hclaim
    rw [hrow, hok] at hclaim
    simp only [Bool.not_true, Bool.false_eq_true, if_false] at hclaim
    split at hclaim <;> cases hclaim
  | ok claimed =>
    obtain ⟨s', claim⟩ := claimed
    have hstatus : (applyOutcome s key d caller a).store.status? key = some claim.claimedStatus := by
      rw [(ends_applyOutcome key caller hclaim).1, SentinelStore.reconcileAndClaim_status hclaim, Function.update_self]
    obtain ⟨row', hrow', -, htarget, -⟩ := SentinelStore.reconcileAndClaim_ok hclaim
    cases hrow.symm.trans hrow'
    have hclaimed : claim.claimedStatus = (SentinelStore.reconcileDecisionTarget row.status d.decision).1 :=
      congrArg Prod.fst htarget
    rw [hclaimed] at hstatus
    refine ⟨hstatus, ?_⟩
    have hmove : PieceMove key s (fun _ => False) (applyOutcome s key d caller a) := move_applyOutcome
    cases hmove with
    | still hsame hpc =>
      refine iff_of_false hpc ?_
      rintro ⟨hopen, hterminating⟩
      rw [hstatus, hold, hterminating] at hsame
      exact hopen (Option.some.inj hsame).symm
    | @decides decision' old' target' kind' _ hold' htarget' hnew hpc =>
      cases hold.symm.trans hold'
      rw [hpc, Option.mem_unique hnew hstatus]
    | resolves hpc => exact hpc.elim

theorem control_eq (message : Text) (type : SentinelDecisionType) (a : PieceAnswer)
    (hcontrol : assertCanControl principal = .ok ()) (hold : s.status? (principal.tenantId, sessionId) = some old) :
    ∃ d : SentinelDecision, d.decision = type ∧ control s principal sessionId message type a =
      applyOutcome s (principal.tenantId, sessionId) d (.control principal.tenantId sessionId) a := by
  obtain ⟨row, hrow, rfl⟩ := Option.map_eq_some_iff.1 hold
  have hload : s.loadSession principal.tenantId sessionId = .ok row.toSentinelSession := by
    unfold SentinelStore.loadSession
    rw [hrow]
  refine ⟨manualDecision row.toSentinelSession type message a.now a.newId, rfl, ?_⟩
  unfold control
  simp only [hcontrol, hload]
  rw [s.sessions_key _ row hrow]

theorem onRow_iff {change : SessionRow → Except SentinelThrown (Option SessionRow)} {row : SessionRow}
    (hrow : s.sessions.lookup key = some row) :
    (∃ s', s.onRow true key change = .ok s') ↔ ∃ next, change row = .ok next := by
  unfold SentinelStore.onRow
  rw [hrow]
  cases hchange : change row with
  | error e => simp [hchange]
  | ok next => cases next <;> simp [hchange]

theorem resume_iff {input : SentinelStore.ResumeInput} (hcontrol : assertCanControl principal = .ok ())
    (hold : s.status? (principal.tenantId, sessionId) = some old) :
    (∃ s', s.resume true principal sessionId input now = .ok s') ↔ old = .held := by
  obtain ⟨row, hrow, rfl⟩ := Option.map_eq_some_iff.1 hold
  simp only [SentinelStore.resume, hcontrol, bind, Except.bind]
  rw [onRow_iff hrow]
  by_cases hheld : row.status = .held <;> simp [hheld]

theorem complete_iff (hcontrol : assertCanControl principal = .ok ())
    (hold : s.status? (principal.tenantId, sessionId) = some old) :
    (∃ s', s.completeSession true principal sessionId now = .ok s') ↔ old = .monitoring ∨ old = .warned := by
  obtain ⟨row, hrow, rfl⟩ := Option.map_eq_some_iff.1 hold
  simp only [SentinelStore.completeSession, hcontrol, bind, Except.bind]
  rw [onRow_iff hrow]
  by_cases hmonitoring : row.status = .monitoring <;> by_cases hwarned : row.status = .warned <;>
    simp [hmonitoring, hwarned]

/-! ## Runs -/

/-- How a session whose status is `old` can go on from a state of the system. -/
structure Lifecycle (rt : SentinelRuntime) (key : Text × Text) (x : System) (old : SessionStatus) : Prop where
  /-- Every change is an edge of the table, but for the completion of a session that was warned. -/
  edge : ∀ l y new, HistoryStep rt x l y → y.store.status? key = some new → new ≠ old →
    ¬ (old = .warned ∧ new = .completed) → new ∈ transitions old
  held : ∀ principal sessionId message a, key = (principal.tenantId, sessionId) → assertCanControl principal = .ok () →
    a.claimOk = true →
      ((beginOp rt x.store a (.hold principal sessionId message)).store.status? key = some .held ↔ .held ∈ transitions old)
  terminated : ∀ principal sessionId message a, key = (principal.tenantId, sessionId) →
    assertCanControl principal = .ok () → a.claimOk = true →
      ((beginOp rt x.store a (.terminate principal sessionId message)).pc.Ends key ↔ .terminating ∈ transitions old)
  resumed : ∀ principal sessionId input now, key = (principal.tenantId, sessionId) → assertCanControl principal = .ok () →
    ((∃ s, x.store.resume true principal sessionId input now = .ok s) ↔ old = .held)
  completed : ∀ principal sessionId now, key = (principal.tenantId, sessionId) → assertCanControl principal = .ok () →
    (.completed ∈ transitions old → ∃ s, x.store.completeSession true principal sessionId now = .ok s) ∧
      ((∃ s, x.store.completeSession true principal sessionId now = .ok s) → old = .monitoring ∨ old = .warned)

theorem completed_mem_transitions (h : .completed ∈ transitions old) : old = .monitoring := by
  cases old <;> simp [transitions] at h ⊢

/-- **The lifecycle in a run.** In every state that a run reaches a change of a session's status is an edge of the table,
save where a warned session is completed. A session can be held and be terminated where the table has `HELD` and
`TERMINATING` next, and be resumed in `HELD`; it can be completed where the table has `COMPLETED` next, and nowhere but
in `MONITORING` and `WARNED`. -/
theorem sessionEdges_of_run (hrun : Run (HistoryStep rt) System.start labels x) (hold : x.store.status? key = some old) :
    Lifecycle rt key x old := by
  have hcreated : old ≠ .created := by
    have hx := hrun.invariant (I := fun x => x.store.status? key ≠ some .created) not_created_step fun h => by cases h
    rintro rfl
    exact hx hold
  refine ⟨?_, ?_, ?_, ?_, ?_⟩
  · intro l y new h hnew hne hwarned
    exact (edge_of_step h hcreated hold hnew hne).resolve_right hwarned
  · rintro principal sessionId message a rfl hcontrol hok
    obtain ⟨d, hd, heq⟩ := control_eq message .hold a hcontrol hold
    simp only [beginOp, heq, (applied_of_status hok hold).1, hd, Option.some.injEq]
    exact target_hold_iff hcreated
  · rintro principal sessionId message a rfl hcontrol hok
    obtain ⟨d, hd, heq⟩ := control_eq message .terminate a hcontrol hold
    simp only [beginOp, heq, (applied_of_status hok hold).2, hd]
    exact target_terminate_iff hcreated
  · rintro principal sessionId input now rfl hcontrol
    exact resume_iff hcontrol hold
  · rintro principal sessionId now rfl hcontrol
    rw [complete_iff hcontrol hold]
    exact ⟨fun h => .inl (completed_mem_transitions h), id⟩

end

/-! ## A warned session that is completed -/

def sampleAdmin : SentinelPrincipal := ⟨"admin", .admin, "t", []⟩

/-- A session whose evaluation warns. -/
def warnedMoves : List HistoryMove :=
  [.create sampleController sampleSession.toSentinelSessionInput "s" 0, .setPolicy sampleAdmin samplePolicy,
    .begin 0 (.evaluateSession sampleReader "s") sampleAnswer, .step 0 (sampleRevalidated .expired)]

/-- `completeSession` takes a session that was warned, for which the table has no such edge. -/
theorem not_edge_of_completed :
    ¬ ∀ (rt : SentinelRuntime) (key : Text × Text) (labels : List Act) (x y : System) (l : Act) (old new : SessionStatus),
      Run (HistoryStep rt) System.start labels x → HistoryStep rt x l y → x.store.status? key = some old →
        y.store.status? key = some new → new ≠ old → new ∈ transitions old := by
  intro hall
  obtain ⟨labels, x, hrun, htest⟩ := historyRun_of_test warningRuntime (fun _ => true)
    warnedMoves
    (fun x => x.sampleIs .warned &&
      (x.perform warningRuntime (.complete sampleController "s" 0)).any fun r => r.2.sampleIs .completed)
    (by decide +kernel)
  rw [Bool.and_eq_true] at htest
  obtain ⟨⟨l, y⟩, hperform, hcompleted⟩ := (Option.any_eq_true ..).1 htest.2
  have hhistory : Run (HistoryStep warningRuntime) System.start labels x := hrun.mono fun _ _ _ h => h.1
  have hmem := hall warningRuntime sampleKey labels x y l .warned .completed hhistory (historyStep_of_perform hperform)
    (of_decide_eq_true htest.1) (of_decide_eq_true hcompleted) (by decide)
  revert hmem
  decide

/-- A session that was warned. -/
theorem sessionEdges_of_run_warned :
    ∃ labels x, Run (HistoryStep warningRuntime) System.start labels x ∧ x.store.status? sampleKey = some .warned ∧
      Lifecycle warningRuntime sampleKey x .warned := by
  obtain ⟨labels, x, hrun, htest⟩ := historyRun_of_test warningRuntime (fun _ => true)
    warnedMoves (fun x => x.sampleIs .warned) (by decide +kernel)
  have hhistory : Run (HistoryStep warningRuntime) System.start labels x := hrun.mono fun _ _ _ h => h.1
  have hold := of_decide_eq_true htest
  exact ⟨labels, x, hhistory, hold, sessionEdges_of_run hhistory hold⟩

end Tna.Sentinel
