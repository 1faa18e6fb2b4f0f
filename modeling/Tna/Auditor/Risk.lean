import Mathlib.Algebra.Order.BigOperators.Group.List
import Tna.Auditor.Schema
import Tna.Lib.Double

/-!
# The risk model

What the results of an assessment come to: a score, an outcome, and the order its findings
are listed in. Every control is scored with the criticality it was evaluated under.
-/

namespace Tna.Auditor

open Tna.Js

structure ScoredControlResult where
  result : ControlResult
  criticality : Severity

structure RiskCounts where
  pass : Nat
  partly : Nat
  fail : Nat
  insufficientEvidence : Nat
  notApplicable : Nat
  error : Nat
deriving DecidableEq

def RiskCounts.toValue (c : RiskCounts) : Value :=
  .obj [("pass", .ofNat c.pass), ("partial", .ofNat c.partly), ("fail", .ofNat c.fail),
    ("insufficient_evidence", .ofNat c.insufficientEvidence), ("not_applicable", .ofNat c.notApplicable),
    ("error", .ofNat c.error)]

structure RiskSummary where
  overallRiskScore : Nat
  overallRiskLevel : Severity
  criticalFloorApplied : Bool
  counts : RiskCounts
  applicableCount : Nat
  evaluatedCount : Nat
  coveragePercentage : Nat
deriving DecidableEq

def RiskSummary.toValue (r : RiskSummary) : Value :=
  .obj [("overall_risk_score", .ofNat r.overallRiskScore), ("overall_risk_level", .str r.overallRiskLevel.name),
    ("critical_floor_applied", .bool r.criticalFloorApplied), ("counts", r.counts.toValue),
    ("applicable_count", .ofNat r.applicableCount), ("evaluated_count", .ofNat r.evaluatedCount),
    ("coverage_percentage", .ofNat r.coveragePercentage)]

def bucketSeverity (score : Nat) : Severity :=
  if Severity.critical.score ≤ score then .critical
  else if Severity.high.score ≤ score then .high
  else if Severity.medium.score ≤ score then .medium
  else if Severity.low.score ≤ score then .low
  else .info

/-- `a / b` of whole numbers that are doubles, as a double. -/
def quotient (a b : Nat) : Rat := Lib.rounded (a / b)

/-- `Math.round(x)` of a double that is not negative. -/
def mathRound (x : Rat) : Nat := ⌊x + 1 / 2⌋.toNat

-- 29 of 200 is 14.5 percent, but 29 / 200 * 100 is a little less
example : mathRound (Lib.rounded (quotient 29 200 * 100)) = 14 := by decide +kernel

def ScoredControlResult.isApplicable (s : ScoredControlResult) : Bool := s.result.status ≠ .notApplicable

/-- A critical control has one of these statuses. -/
def anyCritical (scored : List ScoredControlResult) (statuses : List ControlResultStatus) : Bool :=
  scored.any fun s => s.criticality = .critical && s.result.status ∈ statuses

def countStatus (scored : List ScoredControlResult) (status : ControlResultStatus) : Nat :=
  scored.countP fun s => s.result.status = status

def computeRiskSummary (scored : List ScoredControlResult) : RiskSummary :=
  let applicable := scored.filter ScoredControlResult.isApplicable
  let meanContribution := if applicable.length = 0 then 0 else
    mathRound (quotient (applicable.map fun s => s.result.riskContribution).sum applicable.length)
  let criticalFloorApplied := anyCritical applicable [.fail, .error]
  let overallScore := if criticalFloorApplied then Severity.critical.score else meanContribution
  { overallRiskScore := overallScore
    overallRiskLevel := bucketSeverity overallScore
    criticalFloorApplied
    counts :=
      { pass := countStatus scored .pass
        partly := countStatus scored .partly
        fail := countStatus scored .fail
        insufficientEvidence := countStatus scored .insufficientEvidence
        notApplicable := countStatus scored .notApplicable
        error := countStatus scored .error }
    applicableCount := applicable.length
    evaluatedCount := scored.length
    coveragePercentage := if applicable.length = 0 then 0 else
      mathRound (Lib.rounded (quotient (countStatus scored .pass) applicable.length * 100)) }

def computeOutcome (scored : List ScoredControlResult) : AssessmentOutcome :=
  let applicable := scored.filter ScoredControlResult.isApplicable
  if applicable.isEmpty then .error
  else if anyCritical applicable [.fail] then .fail
  else if anyCritical applicable [.insufficientEvidence, .error] then .insufficientEvidence
  else if applicable.all fun s => s.result.status = .pass then .pass
  else .passWithFindings

/-- `STATUS_PRIORITY`. -/
def ControlResultStatus.priority : ControlResultStatus → Nat
  | .error => 5
  | .fail => 4
  | .insufficientEvidence => 3
  | .partly => 2
  | .notApplicable => 1
  | .pass => 0

/-- A finding as it is ordered. -/
structure FindingPriority where
  severity : Severity
  controlStatus : ControlResultStatus
  findingId : Text

/-- `compareFindingPriority(a, b) <= 0`. -/
def compareFindingPriority (a b : FindingPriority) : Bool :=
  if a.severity.score ≠ b.severity.score then b.severity.score < a.severity.score
  else if a.controlStatus.priority ≠ b.controlStatus.priority then b.controlStatus.priority < a.controlStatus.priority
  else a.findingId ≤ b.findingId

section
variable {scored : List ScoredControlResult}

/-- **A critical failure is not averaged away**: the score is the highest, and the outcome is no pass. -/
theorem computeRiskSummary_floor (h : (computeRiskSummary scored).criticalFloorApplied = true) :
    (computeRiskSummary scored).overallRiskScore = 100 ∧ (computeRiskSummary scored).overallRiskLevel = .critical ∧
      computeOutcome scored ≠ .pass ∧ computeOutcome scored ≠ .passWithFindings := by
  have hfloor : anyCritical (scored.filter ScoredControlResult.isApplicable) [.fail, .error] = true := h
  have hne : (scored.filter ScoredControlResult.isApplicable).isEmpty = false := by
    cases happlicable : scored.filter ScoredControlResult.isApplicable with
    | nil =>
      rw [happlicable] at hfloor
      cases hfloor
    | cons => rfl
  have hsplit : anyCritical (scored.filter ScoredControlResult.isApplicable) [.fail] = true ∨
      anyCritical (scored.filter ScoredControlResult.isApplicable) [.insufficientEvidence, .error] = true := by
    obtain ⟨s, hs, hcritical⟩ := List.any_eq_true.1 hfloor
    simp only [Bool.and_eq_true, decide_eq_true_eq, List.mem_cons, List.not_mem_nil, or_false] at hcritical
    rcases hcritical with ⟨hcritical, hfail | herror⟩
    · exact .inl (List.any_eq_true.2 ⟨s, hs, by simp [hcritical, hfail]⟩)
    · exact .inr (List.any_eq_true.2 ⟨s, hs, by simp [hcritical, herror]⟩)
  refine ⟨?_, ?_, ?_⟩
  · simp [computeRiskSummary, hfloor, Severity.score]
  · simp [computeRiskSummary, hfloor, bucketSeverity, Severity.score]
  · unfold computeOutcome
    simp only [hne]
    cases hfail : anyCritical (scored.filter ScoredControlResult.isApplicable) [.fail] with
    | true => simp
    | false =>
      rw [hfail] at hsplit
      simp [hsplit.resolve_left Bool.false_ne_true]

end

/-! ## The laws of the score -/

/-- The contribution is the one of the criticality and the status. -/
def ScoredControlResult.Weighed (s : ScoredControlResult) : Prop :=
  s.result.riskContribution = computeRiskContribution s.criticality s.result.status

/-- A control that passed is in doubt or fails, or one that was in doubt fails. -/
inductive ControlResultStatus.Worsens : ControlResultStatus → ControlResultStatus → Prop
  | pass_partly : Worsens .pass .partly
  | pass_insufficient : Worsens .pass .insufficientEvidence
  | pass_fail : Worsens .pass .fail
  | partly_fail : Worsens .partly .fail
  | insufficient_fail : Worsens .insufficientEvidence .fail

/-- The order of the outcomes. An assessment that evaluated nothing is not compared. -/
def AssessmentOutcome.level : AssessmentOutcome → Option Nat
  | .pass => some 0
  | .passWithFindings => some 1
  | .insufficientEvidence => some 2
  | .fail => some 3
  | .error => none

theorem computeRiskContribution_le (criticality : Severity) (status : ControlResultStatus) :
    computeRiskContribution criticality status ≤ 100 := by
  cases criticality <;> cases status <;> decide

/-- A worse status contributes no less. -/
theorem computeRiskContribution_mono (criticality : Severity) {before after : ControlResultStatus}
    (h : before.Worsens after) : computeRiskContribution criticality before ≤ computeRiskContribution criticality after := by
  cases h <;> cases criticality <;> decide

theorem mathRound_mono {x y : Rat} (h : x ≤ y) : mathRound x ≤ mathRound y :=
  Int.toNat_le_toNat (Int.floor_le_floor (by linarith))

theorem quotient_mono {a b : Nat} (n : Nat) (h : a ≤ b) : quotient a n ≤ quotient b n := by
  have hle : (a : Rat) ≤ b := Nat.cast_le.2 h
  exact Lib.rounded_mono (by positivity) (div_le_div_of_nonneg_right hle (Nat.cast_nonneg n))

/-- The mean of contributions is at most the highest of them. -/
theorem mathRound_quotient_le {a n : Nat} (hn : n ≠ 0) (h : a ≤ 100 * n) : mathRound (quotient a n) ≤ 100 := by
  have hpos : (0 : Rat) < n := Nat.cast_pos.2 (Nat.pos_of_ne_zero hn)
  have hquotient : (a : Rat) / n ≤ (100 : ℤ) := by
    rw [div_le_iff₀ hpos]
    exact_mod_cast h
  have hnonneg : (0 : Rat) ≤ a / n := by positivity
  have hle : quotient a n ≤ (100 : ℤ) := by
    refine Lib.rounded_le_intCast ?_ hquotient
    rw [abs_of_nonneg hnonneg]
    exact hquotient.trans_lt (by norm_num)
  have hround := mathRound_mono hle
  have hhundred : mathRound ((100 : ℤ) : Rat) = 100 := by decide +kernel
  exact hhundred ▸ hround

theorem mathRound_coverage {n : Nat} (hn : n ≠ 0) : mathRound (Lib.rounded (quotient n n * 100)) = 100 := by
  have hone : quotient n n = 1 := by
    rw [quotient, div_self (Nat.cast_ne_zero.2 hn)]
    decide +kernel
  rw [hone]
  decide +kernel

section
variable {scored other more : List ScoredControlResult}

theorem anyCritical_iff {statuses : List ControlResultStatus} : anyCritical scored statuses = true ↔
    ∃ s ∈ scored, s.criticality = .critical ∧ s.result.status ∈ statuses := by
  simp only [anyCritical, List.any_eq_true, Bool.and_eq_true, decide_eq_true_eq]

theorem anyCritical_perm {statuses : List ControlResultStatus} (h : other.Perm scored) :
    anyCritical other statuses = anyCritical scored statuses := by
  rw [Bool.eq_iff_iff, anyCritical_iff, anyCritical_iff]
  simp only [h.mem_iff]

/-- A summary is made of what is applicable and of the counts. -/
theorem computeRiskSummary_perm (h : other.Perm scored) : computeRiskSummary other = computeRiskSummary scored := by
  have happlicable := h.filter ScoredControlResult.isApplicable
  have hsum := (happlicable.map fun s => s.result.riskContribution).sum_eq
  simp only [computeRiskSummary, countStatus, h.countP_eq, h.length_eq, happlicable.length_eq, hsum,
    anyCritical_perm happlicable]

theorem computeOutcome_perm (h : other.Perm scored) : computeOutcome other = computeOutcome scored := by
  have happlicable := h.filter ScoredControlResult.isApplicable
  have hpass : (other.filter ScoredControlResult.isApplicable).all (fun s => decide (s.result.status = .pass)) =
      (scored.filter ScoredControlResult.isApplicable).all (fun s => decide (s.result.status = .pass)) := happlicable.all_eq
  simp only [computeOutcome, happlicable.isEmpty_eq, anyCritical_perm happlicable, hpass]

/-- Results that do not apply are left out of everything but the counts. -/
theorem filter_isApplicable_append (h : ∀ s ∈ more, s.result.status = .notApplicable) :
    (scored ++ more).filter ScoredControlResult.isApplicable = scored.filter ScoredControlResult.isApplicable := by
  have hnone : more.filter ScoredControlResult.isApplicable = [] :=
    List.filter_eq_nil_iff.2 fun s hs => by simp [ScoredControlResult.isApplicable, h s hs]
  rw [List.filter_append, hnone, List.append_nil]

theorem countStatus_append_notApplicable (h : ∀ s ∈ more, s.result.status = .notApplicable) {status : ControlResultStatus}
    (hstatus : status ≠ .notApplicable) : countStatus (scored ++ more) status = countStatus scored status := by
  have hnone : countStatus more status = 0 :=
    List.countP_eq_zero.2 fun s hs => by simpa [h s hs] using hstatus.symm
  have happend : countStatus (scored ++ more) status = countStatus scored status + countStatus more status :=
    List.countP_append
  omega

theorem computeRiskSummary_append (h : ∀ s ∈ more, s.result.status = .notApplicable) :
    computeRiskSummary (scored ++ more) =
      { computeRiskSummary scored with
        counts := { (computeRiskSummary scored).counts with
          notApplicable := (computeRiskSummary scored).counts.notApplicable + more.length }
        evaluatedCount := (computeRiskSummary scored).evaluatedCount + more.length } := by
  have hcounted : countStatus (scored ++ more) .notApplicable = countStatus scored .notApplicable + more.length := by
    have hall : countStatus more .notApplicable = more.length :=
      List.countP_eq_length.2 fun s hs => decide_eq_true (h s hs)
    have happend : countStatus (scored ++ more) .notApplicable =
        countStatus scored .notApplicable + countStatus more .notApplicable := List.countP_append
    omega
  simp only [computeRiskSummary, filter_isApplicable_append h, hcounted, List.length_append,
    @countStatus_append_notApplicable scored more h .pass (by decide),
    @countStatus_append_notApplicable scored more h .partly (by decide),
    @countStatus_append_notApplicable scored more h .fail (by decide),
    @countStatus_append_notApplicable scored more h .insufficientEvidence (by decide),
    @countStatus_append_notApplicable scored more h .error (by decide)]

theorem computeOutcome_append (h : ∀ s ∈ more, s.result.status = .notApplicable) :
    computeOutcome (scored ++ more) = computeOutcome scored := by
  simp only [computeOutcome, filter_isApplicable_append h]

/-- The outcome of an assessment that evaluated something, by its level. -/
theorem computeOutcome_level (h : ∃ s ∈ scored, s.isApplicable = true) :
    (computeOutcome scored).level = some
      (if anyCritical (scored.filter ScoredControlResult.isApplicable) [.fail] then 3
      else if anyCritical (scored.filter ScoredControlResult.isApplicable) [.insufficientEvidence, .error] then 2
      else if (scored.filter ScoredControlResult.isApplicable).all fun s => s.result.status = .pass then 0
      else 1) := by
  obtain ⟨s, hs, happlicable⟩ := h
  have hne : (scored.filter ScoredControlResult.isApplicable).isEmpty = false :=
    List.isEmpty_eq_false_iff_exists_mem.2 ⟨s, List.mem_filter.2 ⟨hs, happlicable⟩⟩
  unfold computeOutcome
  simp only [hne, Bool.false_eq_true, if_false]
  split_ifs <;> rfl

/-- A passing assessment evaluated something, and all of it passed. -/
theorem computeOutcome_eq_pass (h : computeOutcome scored = .pass) :
    (∃ s ∈ scored, s.isApplicable = true) ∧
      ∀ s ∈ scored, s.result.status = .pass ∨ s.result.status = .notApplicable := by
  have hpass : (scored.filter ScoredControlResult.isApplicable).isEmpty = false ∧
      (scored.filter ScoredControlResult.isApplicable).all (fun s => decide (s.result.status = .pass)) = true := by
    unfold computeOutcome at h
    dsimp only at h
    split_ifs at h with hempty hfail hlacking hall
    exact ⟨Bool.eq_false_iff.2 hempty, hall⟩
  constructor
  · obtain ⟨s, hs⟩ := List.isEmpty_eq_false_iff_exists_mem.1 hpass.1
    exact ⟨s, List.mem_filter.1 hs⟩
  · intro s hs
    by_cases happlicable : s.result.status = .notApplicable
    · exact .inr happlicable
    · have hmem : s ∈ scored.filter ScoredControlResult.isApplicable :=
        List.mem_filter.2 ⟨hs, by simpa [ScoredControlResult.isApplicable] using happlicable⟩
      exact .inl (of_decide_eq_true (List.all_eq_true.1 hpass.2 s hmem))

/-- The score of a list with nothing to apply is zero, and the mean of its contributions is at most 100. -/
theorem overallRiskScore_le (h : ∀ s ∈ scored, s.Weighed) : (computeRiskSummary scored).overallRiskScore ≤ 100 := by
  have hsum : ((scored.filter ScoredControlResult.isApplicable).map fun s => s.result.riskContribution).sum ≤
      100 * (scored.filter ScoredControlResult.isApplicable).length := by
    have hle := List.sum_le_card_nsmul
      ((scored.filter ScoredControlResult.isApplicable).map fun s => s.result.riskContribution) 100 fun c hc => by
        obtain ⟨s, hs, rfl⟩ := List.mem_map.1 hc
        rw [h s (List.mem_filter.1 hs).1]
        exact computeRiskContribution_le _ _
    rw [List.length_map, nsmul_eq_mul, Nat.cast_id] at hle
    omega
  unfold computeRiskSummary
  dsimp only
  split_ifs with hfloor hempty
  · exact le_refl 100
  · omega
  · exact mathRound_quotient_le hempty hsum

/-- A list whose applicable results all passed has no risk, and is covered. -/
theorem computeRiskSummary_of_pass (h : ∀ s ∈ scored, s.Weighed) (happlies : ∃ s ∈ scored, s.isApplicable = true)
    (hpass : ∀ s ∈ scored, s.result.status = .pass ∨ s.result.status = .notApplicable) :
    (computeRiskSummary scored).overallRiskScore = 0 ∧ (computeRiskSummary scored).coveragePercentage = 100 := by
  have hstatus : ∀ s ∈ scored.filter ScoredControlResult.isApplicable, s.result.status = .pass := by
    intro s hs
    obtain ⟨hs, happlicable⟩ := List.mem_filter.1 hs
    refine (hpass s hs).resolve_right fun hnot => ?_
    rw [ScoredControlResult.isApplicable, hnot] at happlicable
    cases happlicable
  have hlength : (scored.filter ScoredControlResult.isApplicable).length ≠ 0 := by
    obtain ⟨s, hs⟩ := happlies
    exact List.length_pos_of_mem (List.mem_filter.2 hs) |>.ne'
  have hfloor : anyCritical (scored.filter ScoredControlResult.isApplicable) [.fail, .error] = false := by
    refine Bool.eq_false_iff.2 fun hany => ?_
    obtain ⟨s, hs, -, hmem⟩ := anyCritical_iff.1 hany
    rw [hstatus s hs] at hmem
    cases hmem with
    | tail _ hmem => cases hmem with
      | tail _ hmem => cases hmem
  have hsum : ((scored.filter ScoredControlResult.isApplicable).map fun s => s.result.riskContribution).sum = 0 := by
    refine List.sum_eq_zero fun c hc => ?_
    obtain ⟨s, hs, rfl⟩ := List.mem_map.1 hc
    rw [h s (List.mem_filter.1 hs).1, hstatus s hs]
    rfl
  have hcount : countStatus scored .pass = (scored.filter ScoredControlResult.isApplicable).length := by
    rw [countStatus, ← List.countP_eq_length_filter]
    refine List.countP_congr fun s hs => ?_
    rcases hpass s hs with hs | hs <;> simp [ScoredControlResult.isApplicable, hs]
  have hzero (n : Nat) : mathRound (quotient 0 n) = 0 := by
    rw [quotient, Nat.cast_zero, zero_div]
    decide +kernel
  constructor
  · simp only [computeRiskSummary, hfloor, hsum, hlength, hzero, Bool.false_eq_true, if_false]
  · simp only [computeRiskSummary, hcount, hlength, if_false]
    exact mathRound_coverage hlength

/-- A critical failure forces the highest score, and the outcome. -/
theorem of_critical_fail (h : ∃ s ∈ scored, s.criticality = .critical ∧ s.result.status = .fail) :
    (computeRiskSummary scored).overallRiskScore = 100 ∧ computeOutcome scored = .fail := by
  obtain ⟨s, hs, hcritical, hfail⟩ := h
  have hmem : s ∈ scored.filter ScoredControlResult.isApplicable :=
    List.mem_filter.2 ⟨hs, by simp [ScoredControlResult.isApplicable, hfail]⟩
  have hfloor : (computeRiskSummary scored).criticalFloorApplied = true :=
    anyCritical_iff.2 ⟨s, hmem, hcritical, by simp [hfail]⟩
  have hany : anyCritical (scored.filter ScoredControlResult.isApplicable) [.fail] = true :=
    anyCritical_iff.2 ⟨s, hmem, hcritical, by simp [hfail]⟩
  have hne : (scored.filter ScoredControlResult.isApplicable).isEmpty = false :=
    List.isEmpty_eq_false_iff_exists_mem.2 ⟨s, hmem⟩
  refine ⟨(computeRiskSummary_floor hfloor).1, ?_⟩
  simp [computeOutcome, hne, hany]

end

section
variable {before after : List ScoredControlResult} {s s' : ScoredControlResult}

/-- A result that is compared applies. -/
theorem isApplicable_of_worsens (h : s.result.status.Worsens s'.result.status) :
    s.isApplicable = true ∧ s'.isApplicable = true := by
  unfold ScoredControlResult.isApplicable
  cases hs : s.result.status <;> cases hs' : s'.result.status <;> rw [hs, hs'] at h <;> cases h <;> exact ⟨rfl, rfl⟩

theorem filter_isApplicable_replaced (h : s.isApplicable = true) :
    (before ++ s :: after).filter ScoredControlResult.isApplicable =
      before.filter ScoredControlResult.isApplicable ++ s :: after.filter ScoredControlResult.isApplicable := by
  rw [List.filter_append, List.filter_cons_of_pos h]

/-- What is critical among the others stays so. -/
theorem anyCritical_replaced {statuses statuses' : List ControlResultStatus}
    (hothers : ∀ status ∈ statuses, status ∈ statuses')
    (hs : s.criticality = .critical → s.result.status ∈ statuses →
      s'.criticality = .critical ∧ s'.result.status ∈ statuses')
    (h : anyCritical (before ++ s :: after) statuses = true) : anyCritical (before ++ s' :: after) statuses' = true := by
  obtain ⟨t, ht, hcritical, hstatus⟩ := anyCritical_iff.1 h
  refine anyCritical_iff.2 ?_
  rcases List.mem_append.1 ht with ht | ht
  · exact ⟨t, List.mem_append_left _ ht, hcritical, hothers _ hstatus⟩
  · cases ht with
    | head => exact ⟨s', List.mem_append_right _ List.mem_cons_self, hs hcritical hstatus⟩
    | tail _ ht => exact ⟨t, List.mem_append_right _ (List.mem_cons_of_mem _ ht), hcritical, hothers _ hstatus⟩

theorem sum_replaced_le (hworse : s.result.status.Worsens s'.result.status) (hcriticality : s'.criticality = s.criticality)
    (hs : s.Weighed) (hs' : s'.Weighed) (A B : List ScoredControlResult) :
    ((A ++ s :: B).map fun t => t.result.riskContribution).sum ≤
      ((A ++ s' :: B).map fun t => t.result.riskContribution).sum := by
  have hle := computeRiskContribution_mono s.criticality hworse
  rw [← hs] at hle
  rw [← hcriticality, ← hs'] at hle
  simp only [List.map_append, List.map_cons, List.sum_append, List.sum_cons]
  omega

/-- A result that gets worse does not lower the score. -/
theorem overallRiskScore_worsened (hweighed : ∀ t ∈ before ++ s :: after, t.Weighed)
    (hworse : s.result.status.Worsens s'.result.status) (hcriticality : s'.criticality = s.criticality) (hs' : s'.Weighed) :
    (computeRiskSummary (before ++ s :: after)).overallRiskScore ≤
      (computeRiskSummary (before ++ s' :: after)).overallRiskScore := by
  have hs := hweighed s (List.mem_append_right _ List.mem_cons_self)
  have happlies := isApplicable_of_worsens hworse
  have hbound := overallRiskScore_le hweighed
  have hfloor : anyCritical ((before ++ s :: after).filter ScoredControlResult.isApplicable) [.fail, .error] = true →
      anyCritical ((before ++ s' :: after).filter ScoredControlResult.isApplicable) [.fail, .error] = true := by
    rw [filter_isApplicable_replaced happlies.1, filter_isApplicable_replaced happlies.2]
    refine anyCritical_replaced (fun _ h => h) fun _ hmem => ?_
    generalize s.result.status = before, s'.result.status = after at hworse hmem
    cases hworse <;> simp at hmem
  cases hfloor' : anyCritical ((before ++ s' :: after).filter ScoredControlResult.isApplicable) [.fail, .error] with
  | true =>
    have hmax : (computeRiskSummary (before ++ s' :: after)).overallRiskScore = 100 := (computeRiskSummary_floor hfloor').1
    exact hbound.trans hmax.ge
  | false =>
    have hnot := Bool.eq_false_iff.2 fun h => Bool.false_ne_true (hfloor'.symm.trans (hfloor h))
    simp only [computeRiskSummary, hnot, hfloor', Bool.false_eq_true, if_false]
    rw [filter_isApplicable_replaced happlies.1, filter_isApplicable_replaced happlies.2]
    simp only [List.length_append, List.length_cons]
    rw [if_neg (by omega), if_neg (by omega)]
    exact mathRound_mono (quotient_mono _ (sum_replaced_le hworse hcriticality hs hs' _ _))

/-- A result that gets worse does not improve the outcome. -/
theorem computeOutcome_worsened (hworse : s.result.status.Worsens s'.result.status)
    (hcriticality : s'.criticality = s.criticality) :
    ∃ m n, (computeOutcome (before ++ s :: after)).level = some m ∧
      (computeOutcome (before ++ s' :: after)).level = some n ∧ m ≤ n := by
  have happlies := isApplicable_of_worsens hworse
  have hmem (t : ScoredControlResult) : t ∈ before ++ t :: after := List.mem_append_right _ List.mem_cons_self
  refine ⟨_, _, computeOutcome_level ⟨s, hmem s, happlies.1⟩, computeOutcome_level ⟨s', hmem s', happlies.2⟩, ?_⟩
  rw [filter_isApplicable_replaced happlies.1, filter_isApplicable_replaced happlies.2]
  generalize before.filter ScoredControlResult.isApplicable = A, after.filter ScoredControlResult.isApplicable = B
  have hfail : anyCritical (A ++ s :: B) [.fail] = true → anyCritical (A ++ s' :: B) [.fail] = true := by
    refine anyCritical_replaced (fun _ h => h) fun _ hmem => ?_
    generalize s.result.status = before, s'.result.status = after at hworse hmem
    cases hworse <;> simp at hmem
  have hlacking : anyCritical (A ++ s :: B) [.insufficientEvidence, .error] = true →
      anyCritical (A ++ s' :: B) [.fail] = false → anyCritical (A ++ s' :: B) [.insufficientEvidence, .error] = true := by
    intro h hnone
    refine anyCritical_replaced (fun _ h => h) (fun hcritical hmem => ?_) h
    refine absurd (anyCritical_iff.2 ⟨s', List.mem_append_right _ List.mem_cons_self, ?_, ?_⟩) (Bool.eq_false_iff.1 hnone)
    · exact hcriticality.trans hcritical
    · generalize s.result.status = before, s'.result.status = after at hworse hmem
      cases hworse <;> simp_all
  have hpass : ((A ++ s' :: B).all fun t => decide (t.result.status = .pass)) = false := by
    refine Bool.eq_false_iff.2 fun hall => ?_
    have hs' := of_decide_eq_true (List.all_eq_true.1 hall s' (List.mem_append_right _ List.mem_cons_self))
    generalize s.result.status = before, s'.result.status = after at hworse hs'
    cases hworse <;> cases hs'
  cases hfail' : anyCritical (A ++ s' :: B) [.fail] with
  | true =>
    rw [if_pos rfl]
    split_ifs <;> omega
  | false =>
    rw [if_neg (fun h => Bool.false_ne_true (hfail'.symm.trans (hfail h)))]
    simp only [hpass, Bool.false_eq_true, if_false]
    split_ifs with hlacks hlacks' <;> first | omega | exact absurd (hlacking hlacks hfail') ‹_›

end

/-- **The laws of the score.** The summary and the outcome depend on no order, and not on what does not apply; a result that
gets worse neither lowers the score nor improves the outcome; a critical failure forces both; and what passes has no risk
and is covered. -/
theorem risk_laws (scored : List ScoredControlResult) (hweighed : ∀ s ∈ scored, s.Weighed) :
    (∀ other : List ScoredControlResult, other.Perm scored →
      computeRiskSummary other = computeRiskSummary scored ∧ computeOutcome other = computeOutcome scored) ∧
    (∀ more : List ScoredControlResult, (∀ s ∈ more, s.result.status = .notApplicable) →
      computeRiskSummary (scored ++ more) =
        { computeRiskSummary scored with
          counts := { (computeRiskSummary scored).counts with
            notApplicable := (computeRiskSummary scored).counts.notApplicable + more.length }
          evaluatedCount := (computeRiskSummary scored).evaluatedCount + more.length } ∧
      computeOutcome (scored ++ more) = computeOutcome scored) ∧
    (∀ before s s' after, scored = before ++ s :: after → s.result.status.Worsens s'.result.status →
      s'.criticality = s.criticality → s'.Weighed →
      (computeRiskSummary scored).overallRiskScore ≤ (computeRiskSummary (before ++ s' :: after)).overallRiskScore ∧
      ∃ m n, (computeOutcome scored).level = some m ∧ (computeOutcome (before ++ s' :: after)).level = some n ∧ m ≤ n) ∧
    ((∃ s ∈ scored, s.criticality = .critical ∧ s.result.status = .fail) →
      (computeRiskSummary scored).overallRiskScore = 100 ∧ computeOutcome scored = .fail) ∧
    (computeOutcome scored = .pass →
      (computeRiskSummary scored).overallRiskScore = 0 ∧ (computeRiskSummary scored).coveragePercentage = 100) := by
  refine ⟨fun other h => ⟨computeRiskSummary_perm h, computeOutcome_perm h⟩,
    fun more h => ⟨computeRiskSummary_append h, computeOutcome_append h⟩, ?_, of_critical_fail, ?_⟩
  · rintro before s s' after rfl hworse hcriticality hs'
    exact ⟨overallRiskScore_worsened hweighed hworse hcriticality hs', computeOutcome_worsened hworse hcriticality⟩
  · intro hpass
    obtain ⟨happlies, hall⟩ := computeOutcome_eq_pass hpass
    exact computeRiskSummary_of_pass hweighed happlies hall

/-- The result of a control that is scored by itself. -/
def scoredSample (criticality : Severity) (status : ControlResultStatus) : ScoredControlResult where
  criticality
  result :=
    { controlId := "TNA-CAP-001", controlVersion := "1.0.0", status, evaluatedAt := "2026-01-01T00:00:00.000Z"
      assessmentId := "a1", evidenceRefs := [], reasonCodes := [], observations := [], limitations := []
      riskContribution := computeRiskContribution criticality status, remediation := none }

/-- Two controls that passed, one of them critical, which then fails. -/
theorem risk_laws_two : computeRiskSummary [scoredSample .high .pass, scoredSample .critical .pass] =
      computeRiskSummary [scoredSample .critical .pass, scoredSample .high .pass] ∧
    (computeRiskSummary [scoredSample .critical .pass, scoredSample .high .pass]).coveragePercentage = 100 ∧
    (computeRiskSummary [scoredSample .critical .pass, scoredSample .high .pass]).overallRiskScore ≤
      (computeRiskSummary [scoredSample .critical .fail, scoredSample .high .pass]).overallRiskScore := by
  have hweighed : ∀ s ∈ [scoredSample .critical .pass, scoredSample .high .pass], s.Weighed := by
    intro s hs
    rcases List.mem_pair.1 hs with rfl | rfl <;> rfl
  obtain ⟨hperm, -, hworse, -, hpass⟩ := risk_laws _ hweighed
  exact ⟨(hperm _ (.swap _ _ _)).1, (hpass (by decide)).2,
    (hworse [] _ (scoredSample .critical .fail) _ rfl .pass_fail rfl rfl).1⟩

end Tna.Auditor
