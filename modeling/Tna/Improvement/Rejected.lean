import Tna.Improvement.Scope

/-!
# Forged candidates, and what a promotion is measured on

Three signals tell that a candidate reaches for what judges it: a required test is gone or
weakened, the evaluator's own path changed, or a path of the control plane changed at a
class below it. The decision looks at them after it has asked whether the evidence is
complete, and the candidate has a say in that. A promotion rests on the commands that were
configured for the evaluation, whatever the spec requires.
-/

namespace Tna.Improvement

open Tna.Lib Tna.Js

/-! ## The signals -/

/-- A required test is gone, or its content is no longer the one that was recorded. -/
def RequiredTestManifest.Tampered (before after : RequiredTestManifest) : Prop :=
  ∃ e ∈ before.entries, e.required = true ∧
    (after.byId e.testId = none ∨
      ∃ a, after.byId e.testId = some a ∧ e.contentHash ≠ none ∧ a.contentHash ≠ e.contentHash)

theorem detectTestManifestTampering_tampered {before after : RequiredTestManifest} :
    (detectTestManifestTampering before after).tampered = true ↔ before.Tampered after := by
  simp only [detectTestManifestTampering, Bool.or_eq_true, Bool.not_eq_true', List.isEmpty_eq_false_iff_exists_mem,
    List.mem_map, List.mem_filter, Option.isNone_iff_eq_none, Option.any_eq_true, decide_eq_true_eq]
  constructor
  · rintro (⟨_, e, ⟨⟨he, hrequired⟩, hgone⟩, -⟩ | ⟨_, e, ⟨⟨he, hrequired⟩, a, ha, hchanged⟩, -⟩)
    · exact ⟨e, he, hrequired, .inl hgone⟩
    · exact ⟨e, he, hrequired, .inr ⟨a, ha, hchanged⟩⟩
  · rintro ⟨e, he, hrequired, hgone | ⟨a, ha, hchanged⟩⟩
    · exact .inl ⟨_, e, ⟨⟨he, hrequired⟩, hgone⟩, rfl⟩
    · exact .inr ⟨_, e, ⟨⟨he, hrequired⟩, a, ha, hchanged⟩, rfl⟩

/-- One of the three signals is among what a decision is made on. -/
def PromotionInput.Forged (m : PromotionInput) : Prop :=
  m.testTamper.tampered = true ∨ m.mutationDiff.evaluatorChanged = true ∨
    m.mutationDiff.controlPlaneChanged = true ∧ classAtLeast m.improvementClass .class4ControlPlane = false

variable {m : PromotionInput}

/-- A forged candidate is rejected if the evidence is complete, and is merely lacking evidence if it is not. -/
theorem evaluatePromotion_of_forged (h : m.Forged) :
    (evaluatePromotion m).1 = if m.evidenceComplete = true then .reject else .insufficientEvidence := by
  unfold evaluatePromotion
  cases hevidence : m.evidenceComplete with
  | false => simp
  | true =>
    by_cases htests : m.testTamper.tampered = true
    · simp [htests]
    by_cases hevaluator : m.mutationDiff.evaluatorChanged = true
    · simp [htests, hevaluator]
    have hcontrol := (h.resolve_left htests).resolve_left hevaluator
    simp [htests, hevaluator, hcontrol.1, hcontrol.2]

theorem evaluatePromotion_reject_iff (h : m.Forged) : (evaluatePromotion m).1 = .reject ↔ m.evidenceComplete = true := by
  rw [evaluatePromotion_of_forged h]
  split
  · next hevidence => exact iff_of_true rfl hevidence
  · next hevidence => exact iff_of_false PromotionStatus.noConfusion hevidence

/-! ## A measured candidate -/

namespace EvaluationInputs

section
variable (i : EvaluationInputs) (sha256 : Bytes → Digest) (outcomes : CommandOutcomes)

/-- The candidate removed or weakened a required test, changed the evaluator, or changed the control plane from a class
below it. -/
def Forges : Prop :=
  i.requiredTestManifestBefore.Tampered i.requiredTestManifestAfter ∨
    (∃ p ∈ changedPaths sha256 i.parentWorkspace i.candidateWorkspace, evaluatorPathPrefix.isPrefixOf p = true) ∨
    (∃ p ∈ changedPaths sha256 i.parentWorkspace i.candidateWorkspace, classifyArea p ∈ controlPlaneAreas) ∧
      classAtLeast i.improvementClass .class4ControlPlane = false

/-- The command is not empty and could be run. -/
def Ran (command : List Text) (outcome : CommandOutcome) : Prop := command ≠ [] ∧ outcome.ranSuccessfully = true

/-- Every configured command ran, and every benchmark printed a number. -/
structure EveryCommandRan : Prop where
  regression : ∀ command, i.regressionTestCommand = some command → Ran command outcomes.regression
  security : ∀ command, i.securityTestCommand = some command → Ran command outcomes.security
  benchmarks : ∀ b ∈ i.benchmarks.zipIdx, Ran b.1.command (outcomes.benchmark b.2) ∧
    numberOf (outcomes.benchmark b.2).stdout ≠ .nan

end

section
variable {i : EvaluationInputs} {sha256 : Bytes → Digest} {outcomes : CommandOutcomes}

theorem forged_measured : (i.measured sha256 outcomes).Forged ↔ i.Forges sha256 := by
  have hevaluator : (i.mutationDiff sha256).evaluatorChanged = true ↔
      ∃ p ∈ changedPaths sha256 i.parentWorkspace i.candidateWorkspace, evaluatorPathPrefix.isPrefixOf p = true :=
    List.any_eq_true
  have hcontrol : (i.mutationDiff sha256).controlPlaneChanged = true ↔
      ∃ p ∈ changedPaths sha256 i.parentWorkspace i.candidateWorkspace, classifyArea p ∈ controlPlaneAreas := by
    simp only [mutationDiff, classifyMutation, unique, List.any_eq_true, List.mem_eraseDups, List.mem_map,
      decide_eq_true_eq, exists_exists_and_eq_and]
  exact or_congr detectTestManifestTampering_tampered (or_congr hevaluator (and_congr_left' hcontrol))

variable {outcome : CommandOutcome}

theorem runCommand_ran {command : List Text} : (runCommand command outcome).ranSuccessfully = true ↔ Ran command outcome := by
  unfold runCommand Ran
  split
  · next hempty => simp [hempty]
  · next hcommand => simp [hcommand]

theorem runSuite_ran {command : Option (List Text)} :
    (runSuite command outcome).ranSuccessfully = true ↔ ∀ c, command = some c → Ran c outcome := by
  cases command with
  | none => simp [runSuite]
  | some c => simp [runSuite, runCommand_ran]

theorem runBenchmark_isSome {generationId : Text} {b : BenchmarkSpec} :
    (runBenchmark generationId b outcome).isSome = true ↔ Ran b.command outcome ∧ numberOf outcome.stdout ≠ .nan := by
  have hstdout (hran : Ran b.command outcome) : (runCommand b.command outcome).stdout = outcome.stdout := by
    rw [runCommand, if_neg hran.1]
  unfold runBenchmark
  dsimp only
  split
  · next hfails =>
    refine iff_of_false (by simp) fun h => ?_
    rw [hstdout h.1] at hfails
    rcases hfails with hfails | hfails
    · exact Bool.false_ne_true (hfails.symm.trans (runCommand_ran.2 h.1))
    · exact h.2 hfails
  · next hruns =>
    rw [not_or, Bool.not_eq_false] at hruns
    have hran := runCommand_ran.1 hruns.1
    exact iff_of_true rfl ⟨hran, hstdout hran ▸ hruns.2⟩

/-- The evidence of an evaluation is complete when every command ran. -/
theorem evidenceComplete_measured : (i.measured sha256 outcomes).evidenceComplete = true ↔ i.EveryCommandRan outcomes := by
  have hruns : (i.benchmarkRuns outcomes).all Option.isSome = true ↔ ∀ b ∈ i.benchmarks.zipIdx,
      Ran b.1.command (outcomes.benchmark b.2) ∧ numberOf (outcomes.benchmark b.2).stdout ≠ .nan := by
    rw [benchmarkRuns, List.all_map, List.all_eq_true]
    exact forall₂_congr fun b _ => runBenchmark_isSome
  simp only [measured, Bool.and_eq_true, runSuite_ran, hruns]
  exact ⟨fun h => ⟨h.1.1, h.1.2, h.2⟩, fun h => ⟨⟨h.regression, h.security⟩, h.benchmarks⟩⟩

end

end EvaluationInputs

section
variable {sha256 : Bytes → Digest} {store : ImprovementStore} {i : EvaluationInputs} {outcomes : CommandOutcomes} {now : Int}

/-- An evaluation on an unchanged parent answers and records what is decided on the measured evidence. -/
theorem runPromotionEvaluation_of_fresh (h : i.Fresh sha256 store) :
    ∃ result, runPromotionEvaluation sha256 store i outcomes now =
        .ok (result, store.recordPromotionDecision result.decision) ∧
      result.status = (evaluatePromotion (i.measured sha256 outcomes)).1 ∧ result.decision.decision = result.status := by
  obtain ⟨g, hget, hfresh⟩ := h
  obtain ⟨result, store', hrun⟩ := @exists_runPromotionEvaluation sha256 store i outcomes now g hget
  obtain ⟨⟨g', hget', hstatus⟩, hdecision, rfl⟩ := runPromotionEvaluation_ok hrun
  cases hget.symm.trans hget'
  rw [if_pos hfresh] at hstatus
  exact ⟨result, hrun, hstatus, hdecision⟩

end

/-- An evaluation answers and records a rejection. -/
def Rejected (sha256 : Bytes → Digest) (store : ImprovementStore) (i : EvaluationInputs) (outcomes : CommandOutcomes)
    (now : Int) : Prop :=
  ∃ result, runPromotionEvaluation sha256 store i outcomes now =
      .ok (result, store.recordPromotionDecision result.decision) ∧
    result.status = .reject ∧ result.decision.decision = .reject

theorem rejected_of_fresh_iff {sha256 : Bytes → Digest} {store : ImprovementStore} {i : EvaluationInputs}
    {outcomes : CommandOutcomes} {now : Int} (hfresh : i.Fresh sha256 store) :
    Rejected sha256 store i outcomes now ↔ (evaluatePromotion (i.measured sha256 outcomes)).1 = .reject := by
  obtain ⟨result, hrun, hstatus, hdecision⟩ := @runPromotionEvaluation_of_fresh _ _ _ outcomes now hfresh
  constructor
  · rintro ⟨result', hrun', hreject, -⟩
    rw [hrun] at hrun'
    cases hrun'
    exact hstatus.symm.trans hreject
  · intro hreject
    have hreject := hstatus.trans hreject
    exact ⟨result, hrun, hreject, hdecision.trans hreject⟩

/-- **The three signals.** A candidate that forges is rejected exactly when the evidence is complete: of an evaluation,
when each of its commands ran. -/
theorem forged_rejected_iff (m : PromotionInput) (sha256 : Bytes → Digest) (store : ImprovementStore) (i : EvaluationInputs)
    (outcomes : CommandOutcomes) (now : Int) :
    ((m.Forged → (evaluatePromotion m).1 = .reject) ↔ (m.Forged → m.evidenceComplete = true)) ∧
    (i.Fresh sha256 store →
      ((i.Forges sha256 → Rejected sha256 store i outcomes now) ↔ (i.Forges sha256 → i.EveryCommandRan outcomes))) := by
  constructor
  · exact forall_congr' evaluatePromotion_reject_iff
  · intro hfresh
    refine forall_congr' fun hforges => ?_
    rw [rejected_of_fresh_iff hfresh, evaluatePromotion_reject_iff (EvaluationInputs.forged_measured.2 hforges),
      EvaluationInputs.evidenceComplete_measured]

/-! ## A promotion -/

namespace EvaluationInputs

section
variable (i : EvaluationInputs) (outcomes : CommandOutcomes)

/-- The suite, if there is one, ran and exited with 0. -/
def SuitePassed (command : Option (List Text)) (outcome : CommandOutcome) : Prop :=
  ∀ c, command = some c → Ran c outcome ∧ outcome.exitCode = some 0

/-- The benchmark ran, and what it printed is read as a number that is far enough above the parent's score. -/
def BenchmarkMet (b : BenchmarkSpec) (outcome : CommandOutcome) : Prop :=
  Ran b.command outcome ∧ numberOf outcome.stdout ≠ .nan ∧
    ((numberOf outcome.stdout).minus b.parentScore).atLeast b.threshold = true

/-- Every configured suite passed and every configured benchmark was met. -/
structure CommandsMet : Prop where
  regression : SuitePassed i.regressionTestCommand outcomes.regression
  security : SuitePassed i.securityTestCommand outcomes.security
  benchmarks : ∀ b ∈ i.benchmarks.zipIdx, BenchmarkMet b.1 (outcomes.benchmark b.2)

end

section
variable {i : EvaluationInputs} {sha256 : Bytes → Digest} {outcomes : CommandOutcomes}

variable {outcome : CommandOutcome}

end

end EvaluationInputs

/-- The candidate that is the parent, measured by two suites and a benchmark. -/
def unchangedEvaluation : EvaluationInputs where
  __ := sampleEvaluation sampleParent
  regressionTestCommand := some ["./run-tests"]
  securityTestCommand := some ["./run-security"]
  benchmarks := [⟨"accuracy", ["./bench"], 1, 90⟩]

/-- Its suites pass and its benchmark prints 92. -/
def allRun : CommandOutcomes := ⟨⟨true, some 0, []⟩, ⟨true, some 0, []⟩, fun _ => ⟨true, some 0, "92\n"⟩⟩

/-- The unchanged candidate under a spec that requires a benchmark and a security test, neither of them configured. -/
def requiredEvaluation : EvaluationInputs where
  __ := sampleEvaluation sampleParent
  spec := { sampleSpec with requiredBenchmarks := ["accuracy"], requiredSecurityTests := ["secrets"] }

/-! ## A command of the candidate's own -/

/-- The broker's candidate with a required test removed, and a regression command. -/
def forgedEvaluation : EvaluationInputs where
  __ := sampleEvaluation brokerCandidate
  regressionTestCommand := some ["./run-tests"]
  requiredTestManifestBefore := ⟨[⟨"t1", none, true⟩]⟩

/-- The candidate's command could not be run. -/
def nothingRan : CommandOutcomes := { nothingRun with regression := ⟨false, none, []⟩ }

theorem forgedEvaluation_forges : forgedEvaluation.Forges sampleSha256 :=
  .inl ⟨⟨"t1", none, true⟩, List.mem_singleton_self _, rfl, .inl rfl⟩

theorem forgedEvaluation_fresh : forgedEvaluation.Fresh sampleSha256 sampleStore := fresh_sample brokerCandidate

/-- A candidate that removed a required test and made its own test command fail to run is not rejected: the evidence is
said to be incomplete. -/
theorem not_rejected_of_command : forgedEvaluation.Fresh sampleSha256 sampleStore ∧ forgedEvaluation.Forges sampleSha256 ∧
    ∃ result store', runPromotionEvaluation sampleSha256 sampleStore forgedEvaluation nothingRan 0 = .ok (result, store') ∧
      result.status = .insufficientEvidence := by
  obtain ⟨result, hrun, hstatus, -⟩ :=
    @runPromotionEvaluation_of_fresh _ _ _ nothingRan 0 forgedEvaluation_fresh
  have hevidence : (forgedEvaluation.measured sampleSha256 nothingRan).evidenceComplete ≠ true := by
    intro h
    have hran := (EvaluationInputs.evidenceComplete_measured.1 h).regression ["./run-tests"] rfl
    exact Bool.false_ne_true hran.2
  rw [evaluatePromotion_of_forged (EvaluationInputs.forged_measured.2 forgedEvaluation_forges), if_neg hevidence] at hstatus
  exact ⟨forgedEvaluation_fresh, forgedEvaluation_forges, result, _, hrun, hstatus⟩

/-- The same candidate: its command did not run. -/
theorem forged_rejected_iff_command :
    (forgedEvaluation.Forges sampleSha256 → Rejected sampleSha256 sampleStore forgedEvaluation nothingRan 0) ↔
      (forgedEvaluation.Forges sampleSha256 → forgedEvaluation.EveryCommandRan nothingRan) :=
  (forged_rejected_iff (forgedEvaluation.measured sampleSha256 nothingRan) sampleSha256 sampleStore forgedEvaluation
    nothingRan 0).2 forgedEvaluation_fresh

end Tna.Improvement
