import Tna.Vad.Calls

/-!
# Executions stay governed

What is kept relates the counters, the lifecycle and the store: an acceptance is backed by the
last attempt, the verdict, a decision and its evidence, which was persisted before it.
-/

namespace Tna.Vad

open Tna.Js Tna.Ledger Tna.Lib VadExecution

/-! ## What is claimed -/

def LifecycleState.terminal (s : LifecycleState) : Prop := transitions s = []

/-- The summed cost of the recorded attempts. -/
def recordedCost (attempts : List AttemptRecord) : Option ℚ := attempts.foldlM (fun total a => plus total a.cost) 0

/-- The evidence of a decision is in the store, as JSON text. -/
def Persisted (w : VadSystem) (evidence : Value) : Prop :=
  ∃ v, w.store.lookup w.execution.lifecycle.atomId = some v ∧ v.stringify = evidence.stringify

/-- A decision on the verdict and the attempts as they stand, for this specification, whose evidence is persisted. -/
structure Backed (p : VadParts) (spec : AtomSpec) (w : VadSystem) (d : Decided) : Prop where
  specHash : d.decision.specHash = computeSpecHash p.sha256 spec
  verdict : w.execution.verifierVerdict = some (if d.decision.decision.accepts then .accept else .reject)
  evidence : ∃ artifactHash completedAt, w.execution.latestArtifactHash = some artifactHash ∧
    d.evidence = w.execution.evidenceOf artifactHash (if d.decision.decision.accepts then .accept else .reject) d.decision completedAt
  persisted : Persisted w d.evidence

/-- The last attempt passed, and it is the one the evidence is about. -/
def LastPassed (x : VadExecution) : Prop :=
  ∃ a, x.attempts.getLast? = some a ∧ a.passed = true ∧ x.latestArtifactHash = some a.artifactHash

/-- What holds of an execution at any time. Where nothing is recorded there is nothing to bound. -/
structure Governed (p : VadParts) (spec : AtomSpec) (w : VadSystem) : Prop where
  path : IsPath w.execution.lifecycle.history w.execution.lifecycle.current
  attempts : w.execution.attempts ≠ [] → exceeds w.execution.attempts.length spec.limits.maxAttempts = false
  cost : w.execution.attempts ≠ [] → ∃ total, recordedCost w.execution.attempts = some total ∧
    exceeds total spec.limits.maxCostUsd = false
  accepted : w.execution.lifecycle.current = .accepted → LastPassed w.execution ∧
    w.execution.verifierVerdict = some .accept ∧ ∃ d, Backed p spec w d ∧ d.decision.decision.accepts = true

/-! ## The invariant -/

section
variable {p : VadParts} {spec : AtomSpec} {w w' : VadSystem}

/-- A decision may be open or made. -/
def LifecycleState.awaits : LifecycleState → Bool
  | .awaitingHuman | .accepted | .rejected => true
  | _ => false

/-- An attempt has passed the gate. -/
def LifecycleState.gated : LifecycleState → Bool
  | .verifying | .awaitingHuman | .accepted | .rejected => true
  | _ => false

/-- The lifecycle is that of the specification. -/
structure Traced (p : VadParts) (spec : AtomSpec) (l : Lifecycle) : Prop where
  specHash : l.specHash = computeSpecHash p.sha256 spec
  path : IsPath l.history l.current

/-- The counters bound the recorded attempts, and the limits bound the counters. -/
structure Budgeted (spec : AtomSpec) (x : VadExecution) : Prop where
  double : 0 ≤ x.aggregateCostUsd ∧ toDouble x.aggregateCostUsd = some x.aggregateCostUsd
  count : x.attempts.length ≤ x.attemptCount
  attempts : 0 < x.attemptCount → exceeds x.attemptCount spec.limits.maxAttempts = false
  afforded : 0 < x.attemptCount → exceeds x.aggregateCostUsd spec.limits.maxCostUsd = false
  cost : ∃ total, recordedCost x.attempts = some total ∧ 0 ≤ total ∧ total ≤ x.aggregateCostUsd

/-- What a decision rests on is as it was when it was made. -/
structure Gated (p : VadParts) (spec : AtomSpec) (w : VadSystem) : Prop where
  passed : w.execution.lifecycle.current.gated → LastPassed w.execution
  pending : ∀ i d, w.pending.lookup i = some d → w.execution.lifecycle.current.awaits ∧ Backed p spec w d
  accepted : w.execution.lifecycle.current = .accepted → ∃ d, Backed p spec w d ∧ d.decision.decision.accepts = true

structure Kept (p : VadParts) (spec : AtomSpec) (w : VadSystem) : Prop where
  traced : Traced p spec w.execution.lifecycle
  budgeted : Budgeted spec w.execution
  gated : Gated p spec w

/-- The fields that evidence is made of. -/
structure SameRecord (x x' : VadExecution) : Prop where
  atomId : x'.lifecycle.atomId = x.lifecycle.atomId
  specHash : x'.lifecycle.specHash = x.lifecycle.specHash
  attempts : x'.attempts = x.attempts
  verdict : x'.verifierVerdict = x.verifierVerdict
  artifact : x'.latestArtifactHash = x.latestArtifactHash

theorem SameRecord.refl (x : VadExecution) : SameRecord x x := ⟨rfl, rfl, rfl, rfl, rfl⟩

variable {x x' y : VadExecution} {d : Decided} {toState s : LifecycleState} {a : AttemptRecord} {l : VadLabel}

theorem LastPassed.frame (h : LastPassed x) (hsame : SameRecord x x') : LastPassed x' := by
  unfold LastPassed
  rw [hsame.attempts, hsame.artifact]
  exact h

theorem Backed.frame (h : Backed p spec w d) (hsame : SameRecord w.execution w'.execution)
    (hstore : KeepsTexts w.store w'.store) : Backed p spec w' d where
  specHash := h.specHash
  verdict := by rw [hsame.verdict, h.verdict]
  evidence := by
    obtain ⟨artifactHash, completedAt, hartifact, hevidence⟩ := h.evidence
    refine ⟨artifactHash, completedAt, by rw [hsame.artifact, hartifact], hevidence.trans ?_⟩
    unfold evidenceOf
    rw [hsame.atomId, hsame.specHash, hsame.attempts]
  persisted := by
    obtain ⟨v, hv, htext⟩ := h.persisted
    obtain ⟨v', hv', htext'⟩ := hstore _ v hv
    refine ⟨v', ?_, htext'.trans htext⟩
    rw [hsame.atomId]
    exact hv'

/-! ## One step -/

theorem Moved.traced {l l' : Lifecycle} (h : Moved l l' toState) (htraced : Traced p spec l) : Traced p spec l' :=
  ⟨h.specHash.trans htraced.specHash, h.path htraced.path⟩

theorem Moved.record {l : Lifecycle} (h : Moved x.lifecycle l toState) : SameRecord x { x with lifecycle := l } :=
  ⟨h.atomId, h.specHash, rfl, rfl, rfl⟩

/-- Where no decision is open or made, nothing is claimed but the gate. -/
theorem Gated.outside (h : w.execution.lifecycle.current ≠ .accepted) (hpending : ∀ i, w.pending.lookup i = none)
    (hpassed : w.execution.lifecycle.current.gated → LastPassed w.execution) : Gated p spec w where
  passed := hpassed
  pending i d hd := by
    rw [hpending i] at hd
    cases hd
  accepted haccepted := absurd haccepted h

/-- Before the gate is passed nothing is claimed. -/
theorem Gated.ungated (h : w.execution.lifecycle.current.gated = false) (hpending : ∀ i, w.pending.lookup i = none) :
    Gated p spec w := by
  refine .outside ?_ hpending fun hgated => ?_
  · rintro haccepted
    rw [haccepted] at h
    cases h
  · rw [h] at hgated
    cases hgated

theorem Gated.pending_none (h : Gated p spec w) (hawaits : w.execution.lifecycle.current.awaits = false) (i : Nat) :
    w.pending.lookup i = none := by
  by_contra hsome
  obtain ⟨d, hd⟩ := Option.ne_none_iff_exists'.1 hsome
  have hawaiting := (h.pending i d hd).1
  rw [hawaits] at hawaiting
  cases hawaiting

/-- What leaves the lifecycle and the evidence as they are keeps what a decision rests on. -/
theorem Gated.frame (h : Gated p spec w) (hsame : SameRecord w.execution w'.execution)
    (hcurrent : w'.execution.lifecycle.current = w.execution.lifecycle.current) (hstore : KeepsTexts w.store w'.store)
    (hpending : w'.pending = w.pending) : Gated p spec w' where
  passed hgated := (h.passed (by rwa [hcurrent] at hgated)).frame hsame
  pending i d hd := by
    rw [hpending] at hd
    rw [hcurrent]
    exact (h.pending i d hd).imp_right fun hbacked => hbacked.frame hsame hstore
  accepted haccepted := by
    obtain ⟨d, hbacked, haccepts⟩ := h.accepted (hcurrent.symm.trans haccepted)
    exact ⟨d, hbacked.frame hsame hstore, haccepts⟩

theorem recordedCost_snoc {attempts : List AttemptRecord} {total : ℚ} (h : recordedCost attempts = some total) :
    recordedCost (attempts ++ [a]) = plus total a.cost := by
  unfold recordedCost at h ⊢
  rw [List.foldlM_append, h]
  exact bind_pure (plus total a.cost)

/-- The counters of an attempt within the limits, whatever is done with the lifecycle. -/
theorem Counted.budgeted {cost : ℚ} (h : Counted p spec x cost y) (hbudgeted : Budgeted spec x) : Budgeted spec y := by
  obtain ⟨hnonneg, hdouble⟩ := hbudgeted.double
  have hgrown : x.aggregateCostUsd ≤ y.aggregateCostUsd := le_of_toDouble_add hnonneg hdouble h.nonneg h.total
  obtain ⟨total, htotal, hpositive, hle⟩ := hbudgeted.cost
  refine ⟨toDouble_toDouble (add_nonneg hnonneg h.nonneg) h.total, ?_, fun _ => h.attempts, fun _ => h.afforded, ?_⟩
  · rw [h.recorded, h.count]
    exact Nat.le_succ_of_le hbudgeted.count
  · rw [h.recorded]
    exact ⟨total, htotal, hpositive, hle.trans hgrown⟩

/-- The attempt may then be recorded. -/
theorem Counted.budgeted_record {l : Lifecycle} {artifactHash : Option Text} (h : Counted p spec x a.cost y)
    (hbudgeted : Budgeted spec x) :
    Budgeted spec { y with
      lifecycle := l
      attempts := x.attempts ++ [a]
      latestArtifactHash := artifactHash } := by
  obtain ⟨hdouble, -, hattempts, hafforded, -⟩ := h.budgeted hbudgeted
  obtain ⟨total, htotal, hpositive, hle⟩ := hbudgeted.cost
  refine ⟨hdouble, ?_, hattempts, hafforded, ?_⟩
  · rw [List.length_append, h.count]
    exact Nat.succ_le_succ hbudgeted.count
  · obtain ⟨sum, hsum, hless⟩ := toDouble_mono (add_nonneg hpositive h.nonneg) (add_le_add_left hle a.cost) h.total
    refine ⟨sum, (recordedCost_snoc htotal).trans hsum, ?_, hless⟩
    exact (toDouble_toDouble (add_nonneg hpositive h.nonneg) hsum).1

theorem not_awaits_of_producing (h : .producing ∈ transitions s) : s.awaits = false := by
  cases s <;> first | rfl | simp [transitions] at h

theorem Attempted.kept (h : Attempted p spec w.execution x') (hkept : Kept p spec w) :
    Kept p spec { w with execution := x' } := by
  obtain ⟨htraced, hbudgeted, hgated⟩ := hkept
  cases h with
  | nothing started =>
    obtain ⟨hdouble, hcount, hattempts, hafforded, hcost⟩ := hbudgeted
    exact ⟨htraced, ⟨hdouble, hcount, hattempts, hafforded, hcost⟩,
      hgated.frame ⟨rfl, rfl, rfl, rfl, rfl⟩ rfl (.refl _) rfl⟩
  | counted h =>
    have hsame : SameRecord w.execution x' :=
      ⟨congrArg _ h.lifecycle, congrArg _ h.lifecycle, h.recorded, h.verdict, h.artifact⟩
    refine ⟨?_, h.budgeted hbudgeted, hgated.frame hsame (congrArg _ h.lifecycle) (.refl _) rfl⟩
    rw [← h.lifecycle] at htraced
    exact htraced
  | @stopped cost y l₁ l₂ h h₁ h₂ =>
    have hpending := hgated.pending_none (not_awaits_of_producing h₁.allowed)
    obtain ⟨hdouble, hcount, hattempts, hafforded, hcost⟩ := h.budgeted hbudgeted
    have hbudgeted' : Budgeted spec { y with lifecycle := l₂ } := ⟨hdouble, hcount, hattempts, hafforded, hcost⟩
    rcases h₂ with rfl | h₂
    · refine ⟨h₁.traced htraced, hbudgeted', .ungated ?_ hpending⟩
      rw [h₁.current]
      rfl
    · refine ⟨h₂.traced (h₁.traced htraced), hbudgeted', .ungated ?_ hpending⟩
      rw [h₂.current]
      rfl
  | @recorded cost y l₁ l₂ l₃ a h h₁ h₂ hcost h₃ =>
    subst hcost
    have hpending := hgated.pending_none (not_awaits_of_producing h₁.allowed)
    have htraced₂ := h₂.traced (h₁.traced htraced)
    have hlast : a.passed = true → LastPassed { y with
        lifecycle := l₃
        attempts := w.execution.attempts ++ [a]
        latestArtifactHash := some a.artifactHash } := fun hpassed => ⟨a, List.getLast?_concat, hpassed, rfl⟩
    rcases h₃ with rfl | ⟨toState, h₃, ⟨rfl, hpassed⟩ | rfl | rfl⟩
    · refine ⟨htraced₂, h.budgeted_record hbudgeted, .ungated ?_ hpending⟩
      rw [h₂.current]
      rfl
    · refine ⟨h₃.traced htraced₂, h.budgeted_record hbudgeted, Gated.outside ?_ hpending fun _ => hlast hpassed⟩
      rw [h₃.current]
      exact nofun
    · refine ⟨h₃.traced htraced₂, h.budgeted_record hbudgeted, .ungated ?_ hpending⟩
      rw [h₃.current]
      rfl
    · refine ⟨h₃.traced htraced₂, h.budgeted_record hbudgeted, .ungated ?_ hpending⟩
      rw [h₃.current]
      rfl

theorem not_awaits_of_ready (h : .ready ∈ transitions s) : s.awaits = false := by
  cases s <;> first | rfl | simp [transitions] at h

theorem verify_kept (verdict : ExecutionVerdict) (hkept : Kept p spec w) :
    Kept p spec { w with execution := (w.execution.verify p spec verdict).2 } := by
  unfold verify
  split_ifs with hcurrent
  · exact hkept
  rw [not_not] at hcurrent
  obtain ⟨htraced, ⟨hdouble, hcount, hattempts, hafforded, hcost⟩, hgated⟩ := hkept
  have hpassed := hgated.passed (by rw [hcurrent]; rfl)
  have hpending := hgated.pending_none (by rw [hcurrent]; rfl)
  rcases @move_cases p spec (note "independent verifier completed") .awaitingHuman
    { w.execution with verifierVerdict := some verdict } Unit () with heq | ⟨l, hmoved, heq⟩
  · rw [heq]
    refine ⟨htraced, ⟨hdouble, hcount, hattempts, hafforded, hcost⟩, .outside ?_ hpending fun _ => hpassed⟩
    rw [hcurrent]
    exact nofun
  · rw [heq]
    refine ⟨hmoved.traced htraced, ⟨hdouble, hcount, hattempts, hafforded, hcost⟩, .outside ?_ hpending fun _ => hpassed⟩
    rw [hmoved.current]
    exact nofun

theorem ready_kept (hkept : Kept p spec w) : Kept p spec { w with execution := (w.execution.ready p spec).2 } := by
  obtain ⟨htraced, ⟨hdouble, hcount, hattempts, hafforded, hcost⟩, hgated⟩ := hkept
  rcases @move_cases p spec (note "atom spec accepted") .ready w.execution Unit () with heq | ⟨l, hmoved, heq⟩
  · rw [ready, heq]
    exact ⟨htraced, ⟨hdouble, hcount, hattempts, hafforded, hcost⟩, hgated⟩
  · have hpending := hgated.pending_none (not_awaits_of_ready hmoved.allowed)
    rw [ready, heq]
    refine ⟨hmoved.traced htraced, ⟨hdouble, hcount, hattempts, hafforded, hcost⟩, .ungated ?_ hpending⟩
    rw [hmoved.current]
    rfl

theorem finalState_allowed (h : s.awaits) (hallowed : d.finalState ∈ transitions s) : s = .awaitingHuman := by
  cases s <;> first | rfl | exact absurd hallowed List.not_mem_nil | cases h

/-- A decision that goes on leaves what it was checked for. -/
theorem settle_kept {i : Nat} (hd : w.pending.lookup i = some d) (hkept : Kept p spec w) :
    Kept p spec { w with
      execution := (w.execution.settle p spec d).2
      pending := w.pending.erase i } := by
  obtain ⟨htraced, ⟨hdouble, hcount, hattempts, hafforded, hcost⟩, hgated⟩ := hkept
  have herase : ∀ {j e}, (w.pending.erase i).lookup j = some e → w.pending.lookup j = some e := fun he =>
    (Table.lookup_of_erase he).2
  rcases @move_cases p spec ⟨"final evidence persisted", d.decision.actor, none⟩ d.finalState w.execution Unit () with
    heq | ⟨l, hmoved, heq⟩
  · rw [settle, heq]
    refine ⟨htraced, ⟨hdouble, hcount, hattempts, hafforded, hcost⟩, hgated.passed, fun j e he => ?_, fun h => ?_⟩
    · exact (hgated.pending j e (herase he)).imp_right fun hbacked => hbacked.frame (.refl _) (.refl _)
    · exact (hgated.accepted h).imp fun e hbacked => hbacked.imp_left fun hbacked => hbacked.frame (.refl _) (.refl _)
  · rw [settle, heq]
    have hsame : SameRecord w.execution { w.execution with lifecycle := l } := hmoved.record
    have hawaits : d.finalState.awaits ∧ d.finalState.gated := by
      unfold Decided.finalState
      split_ifs <;> exact ⟨rfl, rfl⟩
    refine ⟨hmoved.traced htraced, ⟨hdouble, hcount, hattempts, hafforded, hcost⟩, fun _ => ?_, fun j e he => ?_, fun h => ?_⟩
    · have hcurrent := finalState_allowed (hgated.pending i d hd).1 hmoved.allowed
      exact (hgated.passed (by rw [hcurrent]; rfl)).frame hsame
    · refine ⟨?_, (hgated.pending j e (herase he)).2.frame hsame (.refl _)⟩
      simp only [hmoved.current, hawaits.1]
    · refine ⟨d, (hgated.pending i d hd).2.frame hsame (.refl _), ?_⟩
      rw [hmoved.current] at h
      unfold Decided.finalState at h
      split_ifs at h with haccepts
      exact haccepts

/-! ## Runs -/

theorem kept_initial (store : EvidenceStore) : Kept p spec (.initial p spec store) where
  traced := ⟨rfl, .start⟩
  budgeted := ⟨⟨le_rfl, toDouble_zero⟩, le_rfl, fun h => absurd h (lt_irrefl 0), fun h => absurd h (lt_irrefl 0),
    0, rfl, le_rfl, le_rfl⟩
  gated := .ungated rfl fun _ => rfl

/-- **Every call keeps the invariant**, also one that throws. -/
theorem kept_step (h : VadStep p spec w l w') (hkept : Kept p spec w) : Kept p spec w' := by
  cases l with
  | readies =>
    cases h
    exact ready_kept hkept
  | attempts now completed result =>
    cases h
    exact (attempted w.execution now completed result).kept hkept
  | verifies verdict =>
    cases h
    exact verify_kept verdict hkept
  | decides i decision completedAt =>
    obtain ⟨htraced, hbudgeted, hgated⟩ := hkept
    unfold VadStep VadSystem.next at h
    simp only at h
    split_ifs at h
    split at h
    · next d store hdecide =>
      cases h
      obtain ⟨hcurrent, hspec, hverdict, artifactHash, hartifact, hevidence, hpersist⟩ := decide_ok hdecide
      obtain ⟨hkeeps, hrecord⟩ := persist_ok hpersist
      refine ⟨htraced, hbudgeted, hgated.passed, fun j e he => ?_, fun haccepted => ?_⟩
      · rcases Table.lookup_insert_cases he with ⟨-, rfl⟩ | ⟨-, he⟩
        · refine ⟨?_, hspec.trans htraced.specHash, hverdict, ⟨artifactHash, completedAt, hartifact, hevidence⟩,
            e.evidence, hrecord, rfl⟩
          simp only [hcurrent, LifecycleState.awaits]
        · exact (hgated.pending j e he).imp_right fun hbacked => hbacked.frame (.refl _) hkeeps
      · exact absurd (hcurrent.symm.trans haccepted) nofun
    · cases h
      exact ⟨htraced, hbudgeted, hgated⟩
  | settles i =>
    obtain ⟨d, hd, rfl⟩ := Option.map_eq_some_iff.1 h
    exact settle_kept hd hkept
  | persists atomId record =>
    obtain ⟨htraced, hbudgeted, hgated⟩ := hkept
    unfold VadStep VadSystem.next at h
    simp only at h
    split at h
    · next store hpersist =>
      cases h
      exact ⟨htraced, hbudgeted, hgated.frame (.refl _) rfl (persist_ok hpersist).1 rfl⟩
    · cases h
      exact ⟨htraced, hbudgeted, hgated⟩

theorem terminal_step (h : VadStep p spec w l w') (hterminal : w.execution.lifecycle.current.terminal) :
    w'.execution.lifecycle = w.execution.lifecycle := by
  have hstays : ∀ {l : Lifecycle} {toState : LifecycleState}, ¬ Moved w.execution.lifecycle l toState := by
    intro l toState h
    have hallowed := h.allowed
    rw [hterminal] at hallowed
    cases hallowed
  cases l with
  | readies =>
    cases h
    rcases @move_cases p spec (note "atom spec accepted") .ready w.execution Unit () with heq | ⟨_, h, -⟩
    · exact congrArg VadExecution.lifecycle heq
    · exact absurd h hstays
  | attempts now completed result =>
    cases h
    have h := @attempted p spec w.execution now completed result
    revert h
    generalize (w.execution.attempt p spec now completed result).2 = x'
    rintro (_ | h | ⟨-, h⟩ | ⟨-, h⟩)
    · rfl
    · exact h.lifecycle
    · exact absurd h hstays
    · exact absurd h hstays
  | verifies verdict =>
    cases h
    simp only [verify]
    split_ifs with hcurrent
    · rfl
    · rw [not_not] at hcurrent
      rw [hcurrent] at hterminal
      cases hterminal
  | decides i decision completedAt =>
    unfold VadStep VadSystem.next at h
    simp only at h
    split_ifs at h
    split at h <;> cases h <;> rfl
  | settles i =>
    obtain ⟨d, -, rfl⟩ := Option.map_eq_some_iff.1 h
    rcases @move_cases p spec ⟨"final evidence persisted", d.decision.actor, none⟩ d.finalState w.execution Unit () with
      heq | ⟨_, h, -⟩
    · exact congrArg VadExecution.lifecycle heq
    · exact absurd h hstays
  | persists atomId record =>
    unfold VadStep VadSystem.next at h
    simp only at h
    split at h <;> cases h <;> rfl

theorem exceeds_mono {a b : ℚ} {limit : Number} (h : a ≤ b) (hb : exceeds b limit = false) : exceeds a limit = false := by
  cases limit with
  | finite n =>
    cases hn : toDouble n.value with
    | none => simp only [exceeds, hn, Option.any_none]
    | some l =>
      simp only [exceeds, hn, Option.any_some, decide_eq_false_iff_not, not_lt] at hb ⊢
      exact h.trans hb
  | negZero =>
    simp only [exceeds, decide_eq_false_iff_not, not_lt] at hb ⊢
    exact h.trans hb
  | infinite negative => exact hb
  | nan => rfl

theorem Kept.governed (h : Kept p spec w) : Governed p spec w := by
  obtain ⟨htraced, hbudgeted, hgated⟩ := h
  have hcounted : w.execution.attempts ≠ [] → 0 < w.execution.attemptCount := fun hne =>
    (List.length_pos_of_ne_nil hne).trans_le hbudgeted.count
  refine ⟨htraced.path, fun hne => ?_, fun hne => ?_, fun haccepted => ?_⟩
  · exact exceeds_mono (by exact_mod_cast hbudgeted.count) (hbudgeted.attempts (hcounted hne))
  · obtain ⟨total, htotal, -, hle⟩ := hbudgeted.cost
    exact ⟨total, htotal, exceeds_mono hle (hbudgeted.afforded (hcounted hne))⟩
  · obtain ⟨d, hbacked, haccepts⟩ := hgated.accepted haccepted
    refine ⟨hgated.passed (by rw [haccepted]; rfl), ?_, d, hbacked, haccepts⟩
    rw [hbacked.verdict, if_pos haccepts]

theorem kept_of_run {store : EvidenceStore} {labels : List VadLabel}
    (hrun : Run (VadStep p spec) (.initial p spec store) labels w) : Kept p spec w :=
  hrun.invariant (I := Kept p spec) (fun _ _ _ => kept_step) (kept_initial store)

/-- Only a decision that goes on accepts. -/
theorem accepted_step (h : VadStep p spec w l w') (haccepted : w'.execution.lifecycle.current = .accepted) :
    w.execution.lifecycle.current = .accepted ∨ ∃ i d, w.pending.lookup i = some d ∧ d.finalState = .accepted := by
  cases l with
  | readies =>
    cases h
    rcases @move_cases p spec (note "atom spec accepted") .ready w.execution Unit () with heq | ⟨_, h, heq⟩
    · exact .inl ((congrArg (·.lifecycle.current) heq).symm.trans haccepted)
    · exact absurd (h.current.symm.trans ((congrArg (·.lifecycle.current) heq).symm.trans haccepted)) nofun
  | attempts now completed result =>
    cases h
    have h := @attempted p spec w.execution now completed result
    revert h haccepted
    generalize (w.execution.attempt p spec now completed result).2 = x'
    rintro haccepted (_ | h | ⟨-, h₁, rfl | h₂⟩ | ⟨-, -, h₂, -, rfl | ⟨toState, h₃, ⟨rfl, -⟩ | rfl | rfl⟩⟩)
    · exact .inl haccepted
    · exact .inl (h.lifecycle ▸ haccepted)
    · exact absurd (h₁.current.symm.trans haccepted) nofun
    · exact absurd (h₂.current.symm.trans haccepted) nofun
    · exact absurd (h₂.current.symm.trans haccepted) nofun
    all_goals exact absurd (h₃.current.symm.trans haccepted) nofun
  | verifies verdict =>
    cases h
    simp only [verify] at haccepted
    split_ifs at haccepted with hcurrent
    · exact .inl haccepted
    rcases @move_cases p spec (note "independent verifier completed") .awaitingHuman
      { w.execution with verifierVerdict := some verdict } Unit () with heq | ⟨_, h, heq⟩
    · exact .inl ((congrArg (·.lifecycle.current) heq).symm.trans haccepted)
    · exact absurd (h.current.symm.trans ((congrArg (·.lifecycle.current) heq).symm.trans haccepted)) nofun
  | decides i decision completedAt =>
    unfold VadStep VadSystem.next at h
    simp only at h
    split_ifs at h
    split at h <;> cases h <;> exact .inl haccepted
  | settles i =>
    obtain ⟨d, hd, rfl⟩ := Option.map_eq_some_iff.1 h
    rcases @move_cases p spec ⟨"final evidence persisted", d.decision.actor, none⟩ d.finalState w.execution Unit () with
      heq | ⟨_, h, heq⟩
    · exact .inl ((congrArg (·.lifecycle.current) heq).symm.trans haccepted)
    · exact .inr ⟨i, d, hd, h.current.symm.trans ((congrArg (·.lifecycle.current) heq).symm.trans haccepted)⟩
  | persists atomId record =>
    unfold VadStep VadSystem.next at h
    simp only at h
    split at h <;> cases h <;> exact .inl haccepted

/-- An acceptance comes after the evidence of a decision, which is in the store by then. -/
theorem backed_before_accepted (h : VadStep p spec w l w') (hkept : Kept p spec w)
    (haccepted : w'.execution.lifecycle.current = .accepted) : ∃ d, Backed p spec w d ∧ d.decision.decision.accepts = true := by
  rcases accepted_step h haccepted with hbefore | ⟨i, d, hd, hfinal⟩
  · exact hkept.gated.accepted hbefore
  · refine ⟨d, (hkept.gated.pending i d hd).2, ?_⟩
    unfold Decided.finalState at hfinal
    split_ifs at hfinal with haccepts
    exact haccepts

end

/-- **Every execution is governed.** After any calls in any order, some of which throw and some of which overlap, the
lifecycle is a path of the table, the recorded attempts and their cost are within the limits, and an acceptance is backed;
the evidence was in the store before it. What has ended stays as it is, and no record of the store is overwritten. -/
theorem governed_of_run (p : VadParts) (spec : AtomSpec) (store : EvidenceStore) (before after : List VadLabel)
    (w w' : VadSystem) (hbefore : Run (VadStep p spec) (.initial p spec store) before w)
    (hafter : Run (VadStep p spec) w after w') :
    Governed p spec w' ∧
      (w.execution.lifecycle.current.terminal → w'.execution.lifecycle = w.execution.lifecycle) ∧
      KeepsTexts w.store w'.store ∧
      ∀ l u, VadStep p spec w' l u → u.execution.lifecycle.current = .accepted →
        ∃ d, Backed p spec w' d ∧ d.decision.decision.accepts = true := by
  have hkept := kept_of_run (hbefore.trans hafter)
  refine ⟨hkept.governed, fun hterminal => ?_, ?_, fun l u hstep => backed_before_accepted hstep hkept⟩
  · refine hafter.invariant (I := fun u => u.execution.lifecycle = w.execution.lifecycle) (fun u l v hstep ih => ?_) rfl
    exact (terminal_step hstep (by rwa [ih])).trans ih
  · exact hafter.invariant (I := fun u => KeepsTexts w.store u.store)
      (fun _ _ _ hstep ih => ih.trans (keepsTexts_step hstep)) (.refl _)

def specParts : VadParts where
  sha256 := fun _ => "spec"
  isDate := fun t => t == "2026-01-01T00:00:00.000Z"
  dateOf := fun _ => "2026-01-01T00:00:00.000Z"

/-- Two attempts, for no more than one dollar. -/
def boundedAtom : AtomSpec where
  atomId := "atom-1"
  title := "Title"
  goal := "Goal"
  successCriteria := []
  risk := .low
  resources := ⟨[], [], []⟩
  forbidden := []
  limits := ⟨.finite ⟨"2", by decide, by decide⟩, .finite ⟨"60", by decide, by decide⟩, .finite ⟨"1", by decide, by decide⟩⟩

/-- An attempt that fails, one that passes, the verifier's acceptance and a merge. -/
def acceptedOnce : List VadLabel :=
  [.readies, .attempts (.finite 0) (.finite 1) ⟨false, "h1", .finite ⟨"0.25", by decide, by decide⟩⟩,
    .attempts (.finite 2) (.finite 3) ⟨true, "h2", .finite ⟨"0.5", by decide, by decide⟩⟩, .verifies .accept,
    .decides 0 ⟨.merge, "owner", "2026-01-01T00:00:00.000Z", none, .accept, "spec"⟩ "2026-01-01T00:00:01.000Z", .settles 0]

theorem governed_of_run_accepted : ∃ w, w.execution.lifecycle.current = .accepted ∧ w.execution.attempts.length = 2 ∧
    Governed specParts boundedAtom w := by
  have hreplay : (replay (VadSystem.next specParts boundedAtom) (.initial specParts boundedAtom ∅) acceptedOnce).any
      (fun w => w.execution.lifecycle.current = .accepted ∧ w.execution.attempts.length = 2) = true := by decide +kernel
  obtain ⟨w, hrun, htest⟩ := run_of_test hreplay
  obtain ⟨hcurrent, hlength⟩ := of_decide_eq_true htest
  exact ⟨w, hcurrent, hlength, (governed_of_run specParts boundedAtom ∅ acceptedOnce [] w w hrun (.nil w)).1⟩

end Tna.Vad
