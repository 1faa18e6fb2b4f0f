import Tna.Sentinel.Contained

/-!
# A termination that is never resolved

The claim of a termination is durable and the operation that made it is not. Only that
operation writes what came of its call. Where it is lost, or neither of its writes goes
through, no operation and no new runtime on the file ever moves the session again.
-/

namespace Tna.Sentinel

open Tna.Js Tna.Lib

/-- Something that the runtime does brings the session to `TERMINATED` or `INDETERMINATE`. -/
def System.Resolves (rt : SentinelRuntime) (x : System) (key : Text × Text) : Prop :=
  ∃ labels y status, Run (HistoryStep rt) x labels y ∧ y.store.status? key = some status ∧
    (status = .terminated ∨ status = .indeterminate)

/-- A session in `TERMINATING` has its containment call in flight, or can still be resolved. -/
def System.Unstuck (rt : SentinelRuntime) (x : System) (key : Text × Text) : Prop :=
  x.store.status? key = some .terminating → (∃ i, x.Holds key i) ∨ x.Resolves rt key

/-- The session waits for an outcome that no operation holds. -/
def System.Stranded (x : System) (key : Text × Text) : Prop :=
  x.store.status? key = some .terminating ∧ ∀ i, ¬ x.Holds key i

/-- The process does not stop while the session is `TERMINATING`, and of the two writes that can record what
came of its containment call one goes through. -/
def Act.RecordsOutcome (key : Text × Text) (x : System) : Act → Prop
  | .piece p => ∀ decision caller confirmed a,
      p.origin = .later (.containing .terminate key decision caller) (.contained confirmed a) →
        confirmed = true ∧ a.resolveOk = true ∨ a.resolveAgainOk = true
  | .sync .. => True
  | .stop => x.store.status? key ≠ some .terminating

section
variable {rt : SentinelRuntime} {x y : System} {l : Act} {labels : List Act} {key : Text × Text}

/-- **Nothing leads out**, whatever is done. -/
theorem stranded_step (x : System) (l : Act) (y : System) (h : HistoryStep rt x l y) (hx : x.Stranded key) :
    y.Stranded key := by
  obtain ⟨hterminating, hnone⟩ := hx
  obtain ⟨l', hsystem⟩ | ⟨-, rfl⟩ := systemStep_of_history h
  · constructor
    · rcases terminating_step hsystem hterminating with hsame | ⟨i, _, -, hi, -⟩
      · exact hsame
      · exact absurd hi (hnone i)
    · intro i hi
      rcases holds_step hsystem hi [] with hxi | hclaims
      · exact hnone i hxi
      · exact hclaims.2.1 hterminating
  · refine ⟨hterminating, ?_⟩
    rintro i ⟨pc, ⟨⟩, -⟩

theorem unstuck_iff : x.Unstuck rt key ↔ ¬ x.Stranded key := by
  constructor
  · rintro hunstuck ⟨hterminating, hnone⟩
    rcases hunstuck hterminating with ⟨i, hi⟩ | ⟨labels, y, status, hrun, hstatus, hended⟩
    · exact hnone i hi
    · have hy := hrun.invariant (I := fun x => x.Stranded key) stranded_step ⟨hterminating, hnone⟩
      cases hy.1.symm.trans hstatus
      rcases hended with heq | heq <;> cases heq
  · intro hnot hterminating
    by_contra hstuck
    rw [not_or, not_exists] at hstuck
    exact hnot ⟨hterminating, hstuck.1⟩

theorem tended_history (h : HistoryStep rt x l y) (hx : Tended key x) : Tended key y := by
  obtain ⟨l', hsystem⟩ | ⟨-, rfl⟩ := systemStep_of_history h
  · exact tended_step x l' y hsystem hx
  · exact tended_start fun _ => rfl

theorem resolution_isSome {confirmed : Bool} {a : PieceAnswer} :
    resolution confirmed a ≠ none ↔ confirmed = true ∧ a.resolveOk = true ∨ a.resolveAgainOk = true := by
  unfold resolution
  cases confirmed <;> cases a.resolveOk <;> cases a.resolveAgainOk <;> simp

/-- The piece in which the operation that holds a termination goes on. -/
theorem piece_of_holder {p : Piece} (hi : x.ops p.op = p.origin.stood) (h : p.origin.run rt p.before = some p.effect)
    (hholds : x.Holds key p.op) :
    ∃ decision caller confirmed a, p.origin = .later (.containing .terminate key decision caller) (.contained confirmed a) ∧
      p.effect = afterContainment p.before .terminate key decision caller confirmed a := by
  obtain ⟨pc, hpc, decision, caller, rfl⟩ := hholds
  rw [hi] at hpc
  cases horigin : p.origin with
  | first request a =>
    rw [horigin] at hpc
    cases hpc
  | later pc answer =>
    rw [horigin] at hpc h
    obtain rfl : pc = .containing .terminate key decision caller := Option.some.inj hpc
    cases answer with
    | contained confirmed a => exact ⟨decision, caller, confirmed, a, rfl, (Option.some.inj h).symm⟩
    | revalidated status a => cases status <;> cases h
    | resumed => cases h

/-- The piece that goes on after the containment call of a termination writes its outcome, or strands the session. -/
theorem stranded_iff_piece {p : Piece} {decision : SentinelDecision} {caller : Caller} {confirmed : Bool} {a : PieceAnswer}
    (hbefore : p.before = x.store) (hx : Tended key x) (hholds : x.Holds key p.op)
    (heffect : p.effect = afterContainment p.before .terminate key decision caller confirmed a) :
    (x.setOp p.op p.effect).Stranded key ↔ resolution confirmed a = none := by
  have hterminating : p.before.status? key = some .terminating := by
    rw [hbefore]
    exact hx.terminating p.op hholds
  have hstatus : p.effect.store.status? key = some ((resolution confirmed a).getD .terminating) := by
    rw [heffect]
    exact status_afterContainment hterminating
  constructor
  · rintro ⟨hstill, -⟩
    cases hresolution : resolution confirmed a with
    | none => rfl
    | some status =>
      have heq : status = .terminating := by
        rw [hresolution] at hstatus
        exact Option.mem_unique hstatus hstill
      subst heq
      unfold resolution at hresolution
      split at hresolution
      · cases hresolution
      · split at hresolution <;> cases hresolution
  · intro hnone
    rw [hnone] at hstatus
    refine ⟨hstatus, fun j hj => ?_⟩
    rw [holds_setOp] at hj
    split at hj
    · obtain ⟨decision', caller', hpc⟩ := hj
      rw [heffect] at hpc
      exact not_containing_afterContainment hpc
    · next hne => exact hne (hx.alone j p.op hj hholds)

/-- **A step strands a session** exactly where it loses the outcome of its termination. -/
theorem stranded_iff_step (h : HistoryStep rt x l y) (hx : Tended key x) (hnot : ¬ x.Stranded key) :
    y.Stranded key ↔ ¬ l.RecordsOutcome key x := by
  have hholder : x.store.status? key = some .terminating → ∃ i, x.Holds key i := by
    intro hterminating
    by_contra hnone
    exact hnot ⟨hterminating, not_exists.1 hnone⟩
  cases h with
  | @piece p hi hbefore h =>
    by_cases hholds : x.Holds key p.op
    · obtain ⟨decision, caller, confirmed, a, horigin, heffect⟩ := piece_of_holder hi h hholds
      rw [stranded_iff_piece hbefore hx hholds heffect, ← not_ne_iff, resolution_isSome, not_iff_not]
      constructor
      · intro hwrites decision' caller' confirmed' a' horigin'
        cases horigin.symm.trans horigin'
        exact hwrites
      · intro hrecords
        exact hrecords decision caller confirmed a horigin
    · refine iff_of_false ?_ ?_
      · rintro ⟨hterminating, hnone⟩
        have hkeep : ∀ i, x.Holds key i → False := by
          intro i hxi
          refine hnone i ?_
          rw [holds_setOp, if_neg]
          · exact hxi
          · rintro rfl
            exact hholds hxi
        have hopen : p.before.status? key ≠ some .terminating := by
          intro hold
          rw [hbefore] at hold
          exact (hholder hold).elim hkeep
        cases move_of_run key h with
        | still hsame _ => exact hopen (hsame.symm.trans hterminating)
        | decides _ hold _ hnew hends =>
          refine hnone p.op ?_
          rw [holds_setOp, if_pos rfl]
          refine hends.2 ⟨?_, Option.mem_unique hnew hterminating⟩
          rintro rfl
          exact hopen hold
        | resolves _ _ hold _ _ _ => exact hopen hold
      · rw [not_not]
        intro decision caller confirmed a horigin
        refine absurd ⟨.containing .terminate key decision caller, ?_, decision, caller, rfl⟩ hholds
        rw [hi, horigin]
        rfl
  | @sync s h =>
    refine iff_of_false ?_ fun hnot => hnot trivial
    rintro ⟨hterminating, hnone⟩
    cases syncMove_of_step h key with
    | still hsame =>
      obtain ⟨i, hxi⟩ := hholder (hsame.symm.trans hterminating)
      exact hnone i hxi
    | creates _ hnew => cases hnew.symm.trans hterminating
    | resumes _ hnew => cases hnew.symm.trans hterminating
    | completes _ _ hnew => cases hnew.symm.trans hterminating
  | stop =>
    simp only [Act.RecordsOutcome, not_ne_iff]
    constructor
    · exact fun h => h.1
    · intro hterminating
      refine ⟨hterminating, ?_⟩
      rintro i ⟨pc, ⟨⟩, -⟩

/-- **No termination is left unresolved** in a run whose steps all record the outcome of the containment calls they
come from. After such a run the next step keeps it so if and only if it does. -/
theorem unstuck_of_run (hrun : Run (fun x l y => HistoryStep rt x l y ∧ l.RecordsOutcome key x) System.start labels x) :
    x.Unstuck rt key ∧ ∀ l y, HistoryStep rt x l y → (y.Unstuck rt key ↔ l.RecordsOutcome key x) := by
  have hx : Tended key x ∧ ¬ x.Stranded key := by
    refine hrun.invariant (I := fun x => Tended key x ∧ ¬ x.Stranded key) ?_ ⟨tended_start fun _ => rfl, ?_⟩
    · rintro x l y ⟨h, hrecords⟩ ⟨htended, hnot⟩
      refine ⟨tended_history h htended, ?_⟩
      rw [stranded_iff_step h htended hnot, not_not]
      exact hrecords
    · rintro ⟨hterminating, -⟩
      cases hterminating
  refine ⟨unstuck_iff.2 hx.2, fun l y h => ?_⟩
  rw [unstuck_iff, stranded_iff_step h hx.1 hx.2, not_not]

end

/-! ## A process that stops during a containment call -/

/-- A controller terminates the session, and the process stops before the call comes back. -/
theorem not_unstuck_of_stop :
    ¬ ∀ (rt : SentinelRuntime) (key : Text × Text) (labels : List Act) (x : System),
      Run (HistoryStep rt) System.start labels x → x.Unstuck rt key := by
  intro hall
  obtain ⟨labels, x, hrun, htest⟩ := historyRun_of_test warningRuntime (fun _ => true)
    [.create sampleController sampleSession.toSentinelSessionInput "s" 0,
      .begin 0 (.terminate sampleController "s" "stop") sampleAnswer]
    (fun x => x.sampleIs .terminating) (by decide +kernel)
  have hhistory : Run (HistoryStep warningRuntime) System.start labels x := hrun.mono fun _ _ _ h => h.1
  refine unstuck_iff.1 (hall warningRuntime sampleKey _ _ (hhistory.snoc .stop)) ⟨of_decide_eq_true htest, ?_⟩
  rintro i ⟨pc, ⟨⟩, -⟩

def Act.isStop : Act → Bool
  | .stop => true
  | _ => false

/-- A step other than a stop records the outcome where the database takes its writes. -/
theorem recordsOutcome_of_writes {key : Text × Text} {x : System} {l : Act} (hwrites : l.WritesSucceed)
    (hstop : l.isStop = false) : l.RecordsOutcome key x := by
  cases l with
  | piece p =>
    intro decision caller confirmed a horigin
    simp only [Act.WritesSucceed, horigin] at hwrites
    exact .inr hwrites.2.2.2.1
  | sync => trivial
  | stop => cases hstop

/-- A termination whose call is confirmed. -/
theorem unstuck_of_run_terminated :
    ∃ labels x, Run (fun x l y => HistoryStep warningRuntime x l y ∧ l.RecordsOutcome sampleKey x) System.start labels x ∧
      x.sampleIs .terminated = true ∧ x.Unstuck warningRuntime sampleKey ∧
        ∀ l y, HistoryStep warningRuntime x l y → (y.Unstuck warningRuntime sampleKey ↔ l.RecordsOutcome sampleKey x) := by
  obtain ⟨labels, x, hrun, htest⟩ := historyRun_of_test warningRuntime
    (fun l => decide l.WritesSucceed && !l.isStop) terminatingMoves
    (fun x => x.sampleIs .terminated) (by decide +kernel)
  have hguarded : Run (fun x l y => HistoryStep warningRuntime x l y ∧ l.RecordsOutcome sampleKey x)
      System.start labels x := hrun.mono <| by
    rintro x l y ⟨h, hl⟩
    rw [Bool.and_eq_true, decide_eq_true_eq, Bool.not_eq_true'] at hl
    exact ⟨h, recordsOutcome_of_writes hl.1 hl.2⟩
  exact ⟨labels, x, hguarded, htest, unstuck_of_run hguarded⟩

end Tna.Sentinel
