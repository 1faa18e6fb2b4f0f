import Tna.Lib.Outcome
import Tna.Lib.Transition
import Tna.Vad.Execution

/-!
# The calls of an execution

Any sequence of calls of one execution, some of which throw, with decisions that overlap and
other users of the evidence store; and what each call can do to the lifecycle, the counters
and the store.
-/

namespace Tna.Vad

open Tna.Js Tna.Ledger Tna.Lib VadExecution

/-- An execution, the store it persists to, and the decisions that await it. -/
structure VadSystem where
  execution : VadExecution
  store : EvidenceStore
  pending : Table Nat Decided

inductive VadLabel where
  | readies
  | attempts (now completed : Numeric) (result : AttemptResult)
  | verifies (verdict : ExecutionVerdict)
  | decides (i : Nat) (decision : HumanDecision) (completedAt : Text)
  /-- A decision goes on once its evidence is persisted. -/
  | settles (i : Nat)
  /-- Another user of the store persists a record. -/
  | persists (atomId : Text) (record : Value)

/-- One step. A call that throws is a step too. -/
def VadSystem.next (p : VadParts) (spec : AtomSpec) (w : VadSystem) : VadLabel → Option VadSystem
  | .readies => some { w with execution := (w.execution.ready p spec).2 }
  | .attempts now completed result => some { w with execution := (w.execution.attempt p spec now completed result).2 }
  | .verifies verdict => some { w with execution := (w.execution.verify p spec verdict).2 }
  | .decides i decision completedAt =>
    if (w.pending.lookup i).isSome then none
    else
      match w.execution.decide p w.store decision completedAt with
      | .ok (d, store) => some { w with
          store
          pending := w.pending.insert i d }
      | .error _ => some w
  | .settles i =>
    (w.pending.lookup i).map fun d => { w with
      execution := (w.execution.settle p spec d).2
      pending := w.pending.erase i }
  | .persists atomId record =>
    match w.store.persist atomId record with
    | .ok store => some { w with store }
    | .error _ => some w

def VadSystem.initial (p : VadParts) (spec : AtomSpec) (store : EvidenceStore) : VadSystem := ⟨.new p spec, store, ∅⟩

abbrev VadStep (p : VadParts) (spec : AtomSpec) (w : VadSystem) (l : VadLabel) (w' : VadSystem) : Prop := w.next p spec l = some w'

/-! ## The lifecycle -/

/-- A path of the transition table from the start. -/
inductive IsPath : List TransitionRecord → LifecycleState → Prop where
  | start : IsPath [] .created
  | move {history : List TransitionRecord} {r : TransitionRecord} : IsPath history r.fromState →
      r.toState ∈ transitions r.fromState → IsPath (history ++ [r]) r.toState

section
variable {p : VadParts} {spec : AtomSpec} {w w' : VadSystem}

/-- One move of a lifecycle along the table. -/
structure Moved (l l' : Lifecycle) (toState : LifecycleState) : Prop where
  allowed : toState ∈ transitions l.current
  current : l'.current = toState
  atomId : l'.atomId = l.atomId
  specHash : l'.specHash = l.specHash
  path : IsPath l.history l.current → IsPath l'.history l'.current

variable {n : TransitionNote} {toState : LifecycleState} {x : VadExecution} {store store' : EvidenceStore}

theorem transition_ok {l l' : Lifecycle} (h : l.transition p spec toState n = .ok l') : Moved l l' toState := by
  unfold Lifecycle.transition at h
  split_ifs at h with hallowed
  cases h
  refine ⟨hallowed, rfl, rfl, rfl, fun hpath => ?_⟩
  exact .move (r := ⟨l.atomId, l.current, toState, p.dateOf l.history.length, n.actor, n.reason, n.attemptId, l.specHash⟩)
    hpath hallowed

/-- A call that makes a move and then only answers either makes it or leaves the execution as it is. -/
theorem move_cases {α : Type} {a : α} :
    (x.move p spec toState n fun x => (.ok a, x)).2 = x ∨
      ∃ l, Moved x.lifecycle l toState ∧ (x.move p spec toState n fun x => (.ok a, x)).2 = { x with lifecycle := l } := by
  unfold move andThen
  split
  · next l hl => exact .inr ⟨l, transition_ok hl, rfl⟩
  · exact .inl rfl

theorem assertCanAttempt_ok {n : Nat} {cost elapsed : Option ℚ}
    (h : RuntimeBudget.assertCanAttempt spec n cost elapsed = .ok ()) :
    ∃ c, cost = some c ∧ exceeds n spec.limits.maxAttempts = false ∧ exceeds c spec.limits.maxCostUsd = false := by
  unfold RuntimeBudget.assertCanAttempt at h
  cases cost with
  | none =>
    simp only at h
    split_ifs at h
  | some c =>
    cases elapsed with
    | none =>
      simp only at h
      split_ifs at h
    | some e =>
      simp only at h
      split_ifs at h with _ _ _ hattempts hcost
      exact ⟨c, rfl, by simpa using hattempts, by simpa using hcost⟩

/-- What a call of `attempt` leaves behind once it is within the budget. -/
structure Counted (p : VadParts) (spec : AtomSpec) (x : VadExecution) (cost : ℚ) (counted : VadExecution) : Prop where
  nonneg : 0 ≤ cost
  total : plus x.aggregateCostUsd cost = some counted.aggregateCostUsd
  count : counted.attemptCount = x.attemptCount + 1
  attempts : exceeds counted.attemptCount spec.limits.maxAttempts = false
  afforded : exceeds counted.aggregateCostUsd spec.limits.maxCostUsd = false
  lifecycle : counted.lifecycle = x.lifecycle
  recorded : counted.attempts = x.attempts
  verdict : counted.verifierVerdict = x.verifierVerdict
  artifact : counted.latestArtifactHash = x.latestArtifactHash

/-- **What a call of `attempt` can do**: nothing that counts, count an attempt, stop on the way, or record it. -/
inductive Attempted (p : VadParts) (spec : AtomSpec) (x : VadExecution) : VadExecution → Prop where
  | nothing (started : Option Numeric) : Attempted p spec x { x with executionStartedAt := started }
  | counted {cost : ℚ} {y : VadExecution} (h : Counted p spec x cost y) : Attempted p spec x y
  | stopped {cost : ℚ} {y : VadExecution} {l₁ l₂ : Lifecycle} (h : Counted p spec x cost y)
      (h₁ : Moved x.lifecycle l₁ .producing) (h₂ : l₂ = l₁ ∨ Moved l₁ l₂ .validating) :
      Attempted p spec x { y with lifecycle := l₂ }
  | recorded {cost : ℚ} {y : VadExecution} {l₁ l₂ l₃ : Lifecycle} {a : AttemptRecord} (h : Counted p spec x cost y)
      (h₁ : Moved x.lifecycle l₁ .producing) (h₂ : Moved l₁ l₂ .validating) (hcost : a.cost = cost)
      (h₃ : l₃ = l₂ ∨ ∃ toState, Moved l₂ l₃ toState ∧
        (toState = .verifying ∧ a.passed = true ∨ toState = .escalated ∨ toState = .retrying)) :
      Attempted p spec x { y with
        lifecycle := l₃
        attempts := x.attempts ++ [a]
        latestArtifactHash := some a.artifactHash }

theorem conclude_cases (x : VadExecution) (n : Nat) (passed : Bool) : (concludeAttempt p spec x n passed).2 = x ∨
    ∃ l toState, Moved x.lifecycle l toState ∧
      (toState = .verifying ∧ passed = true ∨ toState = .escalated ∨ toState = .retrying) ∧
        (concludeAttempt p spec x n passed).2 = { x with lifecycle := l } := by
  unfold concludeAttempt
  cases passed with
  | true =>
    rw [if_pos rfl]
    exact move_cases.imp_right fun ⟨l, hmoved, heq⟩ => ⟨l, _, hmoved, .inl ⟨rfl, rfl⟩, heq⟩
  | false =>
    rw [if_neg Bool.false_ne_true]
    split
    · exact move_cases.imp_right fun ⟨l, hmoved, heq⟩ => ⟨l, _, hmoved, .inr (.inl rfl), heq⟩
    · exact move_cases.imp_right fun ⟨l, hmoved, heq⟩ => ⟨l, _, hmoved, .inr (.inr rfl), heq⟩

theorem attempted (x : VadExecution) (now completed : Numeric) (result : AttemptResult) :
    Attempted p spec x (x.attempt p spec now completed result).2 := by
  unfold attempt
  split
  · exact .nothing x.executionStartedAt
  next cost hcost =>
  split_ifs with hnegative
  · exact .nothing x.executionStartedAt
  simp only [andThen]
  split
  swap
  · exact .nothing _
  next hbudget =>
  obtain ⟨y, hy, hattempts, hafforded⟩ := assertCanAttempt_ok hbudget
  have hcounted : Counted p spec x cost { x with
      executionStartedAt := some (x.executionStartedAt.getD now)
      attemptCount := x.attemptCount + 1
      aggregateCostUsd := (plus x.aggregateCostUsd cost).getD 0 } := by
    refine ⟨not_lt.1 hnegative, ?_, rfl, hattempts, ?_, rfl, rfl, rfl, rfl⟩
    · rw [hy]
      rfl
    · rw [hy]
      exact hafforded
  split
  swap
  · exact .counted hcounted
  simp only [move, andThen]
  split
  swap
  · exact .counted hcounted
  next l₁ hl₁ =>
  split
  swap
  · exact .stopped hcounted (transition_ok hl₁) (.inl rfl)
  next l₂ hl₂ =>
  split
  swap
  · exact .stopped hcounted (transition_ok hl₁) (.inr (transition_ok hl₂))
  next completedAt hcompleted =>
  rcases @conclude_cases p spec _ (x.attemptCount + 1) result.passed with heq | ⟨l₃, toState, hmoved, hto, heq⟩
  · rw [heq]
    exact .recorded (y := { x with
      executionStartedAt := some (x.executionStartedAt.getD now)
      attemptCount := x.attemptCount + 1
      aggregateCostUsd := (plus x.aggregateCostUsd cost).getD 0 })
      hcounted (transition_ok hl₁) (transition_ok hl₂) rfl (.inl rfl)
  · rw [heq]
    exact .recorded (y := { x with
      executionStartedAt := some (x.executionStartedAt.getD now)
      attemptCount := x.attemptCount + 1
      aggregateCostUsd := (plus x.aggregateCostUsd cost).getD 0 })
      hcounted (transition_ok hl₁) (transition_ok hl₂) rfl (.inr ⟨toState, hmoved, hto⟩)

/-! ## The store -/

/-- Every record of one store is in the other, as the same text. -/
def KeepsTexts (store store' : EvidenceStore) : Prop :=
  ∀ k v, store.lookup k = some v → ∃ v', store'.lookup k = some v' ∧ v'.stringify = v.stringify

theorem KeepsTexts.refl (store : EvidenceStore) : KeepsTexts store store := fun _ v h => ⟨v, h, rfl⟩

theorem KeepsTexts.trans {a b c : EvidenceStore} (h : KeepsTexts a b) (h' : KeepsTexts b c) : KeepsTexts a c := by
  intro k v hv
  obtain ⟨v', hv', htext⟩ := h k v hv
  obtain ⟨v'', hv'', htext'⟩ := h' k v' hv'
  exact ⟨v'', hv'', htext'.trans htext⟩

/-- **A record is never overwritten by another.** -/
theorem persist_ok {atomId : Text} {record : Value} (h : store.persist atomId record = .ok store') :
    KeepsTexts store store' ∧ store'.lookup atomId = some record := by
  have hinsert : store' = store.insert atomId record ∧ ∀ v, store.lookup atomId = some v → v.stringify = record.stringify := by
    unfold EvidenceStore.persist at h
    split at h
    · next existing hexisting =>
      split_ifs at h with htext
      cases h
      refine ⟨rfl, fun v hv => ?_⟩
      rw [hexisting] at hv
      cases hv
      exact not_not.1 htext
    · next hnone =>
      cases h
      refine ⟨rfl, fun v hv => ?_⟩
      rw [hnone] at hv
      cases hv
  obtain ⟨rfl, hsame⟩ := hinsert
  refine ⟨fun k v hv => ?_, AList.lookup_insert _⟩
  by_cases hk : k = atomId
  · subst hk
    exact ⟨record, AList.lookup_insert _, (hsame v hv).symm⟩
  · exact ⟨v, (AList.lookup_insert_ne hk).trans hv, rfl⟩

/-- **What a decision has been checked for** by the time its evidence is persisted. -/
theorem decide_ok {decision : HumanDecision} {completedAt : Text} {d : Decided}
    (h : x.decide p store decision completedAt = .ok (d, store')) :
    x.lifecycle.current = .awaitingHuman ∧ d.decision.specHash = x.lifecycle.specHash ∧
      x.verifierVerdict = some (if d.decision.decision.accepts then .accept else .reject) ∧
        ∃ artifactHash, x.latestArtifactHash = some artifactHash ∧
          d.evidence = x.evidenceOf artifactHash (if d.decision.decision.accepts then .accept else .reject) d.decision completedAt ∧
            store.persist x.lifecycle.atomId d.evidence = .ok store' := by
  unfold VadExecution.decide at h
  split_ifs at h with hcurrent
  rw [not_not] at hcurrent
  split at h
  swap
  · cases h
  next artifactHash verdict hartifact hverdict =>
  split_ifs at h
  obtain ⟨validated, -, h⟩ := bind_ok h
  split_ifs at h with hspec haccept hreject
  rw [not_not] at hspec
  unfold finalizeAcceptance at h
  split_ifs at h
  obtain ⟨final, hpersist, hpair⟩ := map_ok h
  cases hpair
  have hkind : verdict = if validated.decision.accepts then .accept else .reject := by
    split_ifs with haccepts
    · simpa [haccepts] using haccept
    · simpa [haccepts] using hreject
  rw [← hkind]
  exact ⟨hcurrent, hspec, hverdict, artifactHash, hartifact, rfl, hpersist⟩

theorem keepsTexts_step {l : VadLabel} (h : VadStep p spec w l w') : KeepsTexts w.store w'.store := by
  unfold VadStep VadSystem.next at h
  cases l with
  | decides i decision completedAt =>
    simp only at h
    split_ifs at h
    split at h
    · next d store hdecide =>
      cases h
      obtain ⟨-, -, -, _, -, -, hpersist⟩ := decide_ok hdecide
      exact (persist_ok hpersist).1
    · cases h
      exact .refl _
  | settles i =>
    obtain ⟨d, -, rfl⟩ := Option.map_eq_some_iff.1 h
    exact .refl _
  | persists atomId record =>
    simp only at h
    split at h
    · next store hpersist =>
      cases h
      exact (persist_ok hpersist).1
    · cases h
      exact .refl _
  | readies | attempts | verifies =>
    cases h
    exact .refl _

end

end Tna.Vad
