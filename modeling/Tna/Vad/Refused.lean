import Tna.Vad.Governed

/-!
# Attempts that throw

`attempt` writes the start of the execution before the budget is asked, and the counters
before the dates are read and the lifecycle moves. What is written by then stays written
when the call throws.
-/

namespace Tna.Vad

open Tna.Js Tna.Ledger Tna.Lib VadExecution

/-- What an attempt writes is as it was. -/
structure Untouched (x y : VadExecution) : Prop where
  attemptCount : y.attemptCount = x.attemptCount
  aggregateCostUsd : y.aggregateCostUsd = x.aggregateCostUsd
  executionStartedAt : y.executionStartedAt = x.executionStartedAt
  attempts : y.attempts = x.attempts
  latestArtifactHash : y.latestArtifactHash = x.latestArtifactHash
  lifecycle : y.lifecycle = x.lifecycle

/-- The cost of an attempt, when it is a finite number that is not negative. -/
def AttemptResult.charge (r : AttemptResult) : Option ℚ := (finiteValue r.costUsd).filter fun cost => decide (0 ≤ cost)

section
variable (p : VadParts) (spec : AtomSpec) (now completed : Numeric) (result : AttemptResult) (x : VadExecution)

/-- A call that throws changes nothing. -/
def Atomic : Prop :=
  ∀ e, (x.attempt p spec now completed result).1 = .error e → Untouched x (x.attempt p spec now completed result).2

/-- What the budget says of the next attempt at a cost. -/
def budgetVerdict (cost : ℚ) : Except Text Unit :=
  RuntimeBudget.assertCanAttempt spec (x.attemptCount + 1) (plus x.aggregateCostUsd cost)
    (elapsedSeconds now (x.executionStartedAt.getD now))

/-- Nothing after the budget stands in the way of an attempt. -/
structure Admitted : Prop where
  now : ∃ t, isoDate now = .ok t
  completed : ∃ t, isoDate completed = .ok t
  current : x.lifecycle.current = .ready ∨ x.lifecycle.current = .retrying
  specHash : computeSpecHash p.sha256 spec = x.lifecycle.specHash

/-- The attempts that throw before anything is written, or not at all. -/
inductive Orderly : Prop where
  | invalidCost (h : result.charge = none)
  | refused {cost : ℚ} {e : Text} (hcost : result.charge = some cost) (hstarted : x.executionStartedAt.isSome = true)
      (h : budgetVerdict spec now x cost = .error e)
  | admitted {cost : ℚ} (hcost : result.charge = some cost) (hbudget : budgetVerdict spec now x cost = .ok ())
      (h : Admitted p spec now completed x)

end

section
variable {p : VadParts} {spec : AtomSpec} {now completed : Numeric} {result : AttemptResult} {x : VadExecution} {cost : ℚ}

/-! ## Calls in sequence -/

variable {α β : Type} {a : α} {r : Except Text β} {n : TransitionNote} {rest : VadExecution → Outcome α}
  {toState : LifecycleState} {passed : Bool}

theorem andThen_of_ok (b : β) (rest : β → Outcome α) : x.andThen (.ok b) rest = rest b := rfl

theorem andThen_ok {rest : β → Outcome α} : (x.andThen r rest).1 = .ok a ↔ ∃ b, r = .ok b ∧ (rest b).1 = .ok a := by
  cases r with
  | ok b => simp [andThen]
  | error e => simp [andThen]

theorem andThen_count {rest : β → Outcome α} {n : ℕ} (hx : x.attemptCount = n) (hrest : ∀ b, (rest b).2.attemptCount = n) :
    (x.andThen r rest).2.attemptCount = n := by
  cases r with
  | ok b => exact hrest b
  | error e => exact hx

theorem move_ok :
    (x.move p spec toState n rest).1 = .ok a ↔
      ∃ l, x.lifecycle.transition p spec toState n = .ok l ∧ (rest { x with lifecycle := l }).1 = .ok a :=
  andThen_ok

theorem move_count {k : ℕ} (hx : x.attemptCount = k) (hrest : ∀ l, (rest { x with lifecycle := l }).2.attemptCount = k) :
    (x.move p spec toState n rest).2.attemptCount = k :=
  andThen_count hx hrest

/-- A transition is made when the table allows it and the specification is the one at the start. -/
theorem transition_ok_iff {l : Lifecycle} (hreason : n.reason.trim ≠ []) :
    (∃ l', l.transition p spec toState n = .ok l') ↔
      toState ∈ transitions l.current ∧ computeSpecHash p.sha256 spec = l.specHash := by
  unfold Lifecycle.transition
  by_cases hallowed : toState ∈ transitions l.current
  · by_cases hhash : computeSpecHash p.sha256 spec = l.specHash
    · rw [if_neg (not_not.2 hallowed), if_neg (not_not.2 hhash), if_neg hreason]
      exact iff_of_true ⟨_, rfl⟩ ⟨hallowed, hhash⟩
    · rw [if_neg (not_not.2 hallowed), if_pos hhash]
      exact iff_of_false (fun ⟨_, h⟩ => nomatch h) fun h => hhash h.2
  · rw [if_pos hallowed]
    exact iff_of_false (fun ⟨_, h⟩ => nomatch h) fun h => hallowed h.1

/-- Trimming leaves a text that begins with something else than a space. -/
theorem trim_ne_nil {c : CodeUnit} {t : Text} (hc : isSpace c = false) : Text.trim (c :: t) ≠ [] := by
  unfold Text.trim
  rw [List.dropWhile_cons_of_neg (by simp [hc])]
  intro h
  have hall := List.rdropWhile_eq_nil_iff.1 h c (List.mem_cons_self ..)
  rw [hc] at hall
  cases hall

/-! ## The parts of an attempt -/

theorem attempt_of_invalidCost (h : result.charge = none) :
    x.attempt p spec now completed result = (.error "Invalid cost value", x) := by
  unfold AttemptResult.charge at h
  unfold attempt
  split
  · rfl
  next cost hcost =>
    rw [hcost, Option.filter_eq_none_iff] at h
    have hneg := h cost rfl
    rw [decide_eq_true_iff, not_le] at hneg
    rw [if_pos hneg]

/-- What is left of an attempt that has a cost. -/
theorem attempt_of_charge (hcost : result.charge = some cost) :
    x.attempt p spec now completed result =
      { x with executionStartedAt := some (x.executionStartedAt.getD now) }.andThen (budgetVerdict spec now x cost) fun _ =>
        { x with
          executionStartedAt := some (x.executionStartedAt.getD now)
          attemptCount := x.attemptCount + 1
          aggregateCostUsd := (plus x.aggregateCostUsd cost).getD 0 }.andThen (isoDate now) fun startedAt =>
          { x with
            executionStartedAt := some (x.executionStartedAt.getD now)
            attemptCount := x.attemptCount + 1
            aggregateCostUsd := (plus x.aggregateCostUsd cost).getD 0 }.move p spec .producing
              (attemptNote ("producer attempt " ++ decimal (x.attemptCount + 1)) (x.attemptCount + 1)) fun y =>
            y.move p spec .validating (attemptNote "producer completed" (x.attemptCount + 1)) fun y =>
              y.andThen (isoDate completed) fun completedAt =>
                concludeAttempt p spec { y with
                  attempts := y.attempts ++ [AttemptRecord.mk (x.attemptCount + 1) result.passed result.artifactHash
                    result.costUsd cost startedAt completedAt]
                  latestArtifactHash := some result.artifactHash } (x.attemptCount + 1) result.passed := by
  obtain ⟨hvalue, hpositive⟩ := Option.filter_eq_some_iff.1 hcost
  unfold attempt
  rw [hvalue]
  simp only
  rw [if_neg (not_lt.2 (of_decide_eq_true hpositive))]
  rfl

theorem conclude_count {n : ℕ} : (concludeAttempt p spec x n passed).2.attemptCount = x.attemptCount := by
  unfold concludeAttempt
  split_ifs <;> exact move_count rfl fun _ => rfl

/-- An attempt within the budget counts, whatever comes of it. -/
theorem attempt_count (hcost : result.charge = some cost) (hbudget : budgetVerdict spec now x cost = .ok ()) :
    (x.attempt p spec now completed result).2.attemptCount = x.attemptCount + 1 := by
  rw [attempt_of_charge hcost, hbudget, andThen_of_ok]
  refine andThen_count rfl fun startedAt => ?_
  refine move_count rfl fun l => ?_
  refine move_count rfl fun l => ?_
  exact andThen_count rfl fun completedAt => conclude_count

/-- What follows a recorded attempt goes through. -/
theorem conclude_ok {n : ℕ} (hcurrent : x.lifecycle.current = .validating)
    (hhash : computeSpecHash p.sha256 spec = x.lifecycle.specHash) : (concludeAttempt p spec x n passed).1 = .ok n := by
  have hmove : ∀ {toState : LifecycleState} {note : TransitionNote}, toState ∈ transitions .validating →
      note.reason.trim ≠ [] → (x.move p spec toState note fun x => (.ok n, x)).1 = .ok n := by
    intro toState note hallowed hreason
    rw [← hcurrent] at hallowed
    obtain ⟨l, hl⟩ := (transition_ok_iff hreason).2 ⟨hallowed, hhash⟩
    exact move_ok.2 ⟨l, hl, rfl⟩
  unfold concludeAttempt
  split_ifs
  · exact hmove (by decide) (trim_ne_nil (c := unit 'd') (by decide))
  · exact hmove (by decide) (trim_ne_nil (c := unit 'r') (by decide))
  · exact hmove (by decide) (trim_ne_nil (c := unit 'f') (by decide))

/-- An attempt within the budget goes through when nothing else stands in its way. -/
theorem attempt_ok_iff (hcost : result.charge = some cost) (hbudget : budgetVerdict spec now x cost = .ok ()) :
    (∃ n, (x.attempt p spec now completed result).1 = .ok n) ↔ Admitted p spec now completed x := by
  have hstarts : ∀ n : ℕ, (attemptNote ("producer attempt " ++ decimal n) n).reason.trim ≠ [] := fun n =>
    trim_ne_nil (c := unit 'p') (by decide)
  rw [attempt_of_charge hcost, hbudget, andThen_of_ok]
  constructor
  · rintro ⟨n, h⟩
    obtain ⟨startedAt, hnow, h⟩ := andThen_ok.1 h
    obtain ⟨l, hl, h⟩ := move_ok.1 h
    obtain ⟨l', -, h⟩ := move_ok.1 h
    obtain ⟨completedAt, hcompleted, -⟩ := andThen_ok.1 h
    obtain ⟨hallowed, hhash⟩ := (transition_ok_iff (hstarts _)).1 ⟨l, hl⟩
    refine ⟨⟨startedAt, hnow⟩, ⟨completedAt, hcompleted⟩, ?_, hhash⟩
    revert hallowed
    cases x.lifecycle.current <;> simp [transitions]
  · rintro ⟨⟨startedAt, hnow⟩, ⟨completedAt, hcompleted⟩, hcurrent, hhash⟩
    have hallowed : .producing ∈ transitions x.lifecycle.current := by
      rcases hcurrent with h | h <;> rw [h] <;> decide
    obtain ⟨l₁, hl₁⟩ := (transition_ok_iff (hstarts (x.attemptCount + 1))).2 ⟨hallowed, hhash⟩
    have hmoved₁ := transition_ok hl₁
    have hallowed₂ : .validating ∈ transitions l₁.current := by
      rw [hmoved₁.current]
      decide
    obtain ⟨l₂, hl₂⟩ := (transition_ok_iff (n := attemptNote "producer completed" (x.attemptCount + 1))
      (trim_ne_nil (c := unit 'p') (by decide))).2 ⟨hallowed₂, hhash.trans hmoved₁.specHash.symm⟩
    have hmoved₂ := transition_ok hl₂
    refine ⟨x.attemptCount + 1, andThen_ok.2 ⟨startedAt, hnow, ?_⟩⟩
    refine move_ok.2 ⟨l₁, hl₁, move_ok.2 ⟨l₂, hl₂, andThen_ok.2 ⟨completedAt, hcompleted, ?_⟩⟩⟩
    exact conclude_ok hmoved₂.current (hhash.trans (hmoved₂.specHash.trans hmoved₁.specHash).symm)

end

/-- **When an attempt that throws changes nothing**: its cost is no amount, or the budget refuses it and is not the first
to be asked, or it goes through. -/
theorem atomic_iff (p : VadParts) (spec : AtomSpec) (now completed : Numeric) (result : AttemptResult) (x : VadExecution) :
    Atomic p spec now completed result x ↔ Orderly p spec now completed result x := by
  unfold Atomic
  cases hcost : result.charge with
  | none =>
    refine iff_of_true (fun e _ => ?_) (.invalidCost hcost)
    rw [attempt_of_invalidCost hcost]
    exact ⟨rfl, rfl, rfl, rfl, rfl, rfl⟩
  | some cost =>
    cases hbudget : budgetVerdict spec now x cost with
    | error e =>
      have hrefused : x.attempt p spec now completed result =
          (.error e, { x with executionStartedAt := some (x.executionStartedAt.getD now) }) := by
        rw [attempt_of_charge hcost, hbudget]
        rfl
      rw [hrefused]
      constructor
      · intro h
        have hstarted := (h e rfl).executionStartedAt
        exact .refused hcost (hstarted ▸ rfl) hbudget
      · rintro (h | ⟨-, hstarted, -⟩ | ⟨h, hok, -⟩) e' -
        · rw [hcost] at h
          cases h
        · obtain ⟨started, hsome⟩ := Option.isSome_iff_exists.1 hstarted
          refine ⟨rfl, rfl, ?_, rfl, rfl, rfl⟩
          show some (x.executionStartedAt.getD now) = x.executionStartedAt
          rw [hsome]
          rfl
        · cases hcost.symm.trans h
          rw [hbudget] at hok
          cases hok
    | ok u =>
      constructor
      · intro h
        refine .admitted hcost hbudget ((attempt_ok_iff hcost hbudget).1 ?_)
        cases hresult : (x.attempt p spec now completed result).1 with
        | ok n => exact ⟨n, rfl⟩
        | error e =>
          have hcount := (h e hresult).attemptCount
          rw [attempt_count hcost hbudget] at hcount
          exact absurd hcount (Nat.succ_ne_self _)
      · rintro (h | ⟨h, -, herror⟩ | ⟨h, -, hadmitted⟩) e hthrown
        · rw [hcost] at h
          cases h
        · cases hcost.symm.trans h
          rw [hbudget] at herror
          cases herror
        · obtain ⟨n, hn⟩ := (attempt_ok_iff hcost hbudget).2 hadmitted
          rw [hn] at hthrown
          cases hthrown

theorem isNumeral_quarter : isNumeral "0.25" = true := by decide

theorem quarter_ne_negZero : Text.ofAscii "0.25" ≠ "-0" := by decide

/-- An attempt for a quarter of a dollar. -/
def sampleAttempt : AttemptResult := ⟨true, "h", .finite ⟨"0.25", isNumeral_quarter, quarter_ne_negZero⟩⟩

/-- The execution is not ready yet. The attempt throws and is counted. -/
theorem not_atomic : ¬ ∀ (p : VadParts) (spec : AtomSpec) (now completed : Numeric) (result : AttemptResult)
    (x : VadExecution), Atomic p spec now completed result x := by
  intro h
  have hcounted : ((VadExecution.new specParts boundedAtom).attempt specParts boundedAtom (.finite 0) (.finite 1)
      sampleAttempt).2.attemptCount = 1 := by decide +kernel
  have hthrown : ((VadExecution.new specParts boundedAtom).attempt specParts boundedAtom (.finite 0) (.finite 1)
      sampleAttempt).1.toOption = none := by decide +kernel
  cases hresult : ((VadExecution.new specParts boundedAtom).attempt specParts boundedAtom (.finite 0) (.finite 1)
      sampleAttempt).1 with
  | ok n =>
    rw [hresult] at hthrown
    cases hthrown
  | error e =>
    have hsame := (h specParts boundedAtom _ _ sampleAttempt (.new specParts boundedAtom) e hresult).attemptCount
    rw [hcounted] at hsame
    cases hsame

end Tna.Vad
