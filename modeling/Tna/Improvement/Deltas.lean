import Tna.Improvement.Evaluation

/-!
# What a delta tells

A candidate's authority is compared with its parent's in eleven fields, its capabilities in
ten. The flags of a delta are each written as a list of fields by hand. Containment looks at
all eleven fields, and so does the flag of an expansion. The flag of a reduction looks at
three lists of six, and the reasons of an unexpected gain leave out two capabilities.
-/

namespace Tna.Improvement

open Tna.Js

/-! ## Authority -/

structure AuthorityDelta where
  addedOperations : List Text
  addedTools : List Text
  addedResources : List Text
  addedDestinations : List Text
  addedFilesystemScope : List Text
  addedCredentials : List Text
  removedOperations : List Text
  removedTools : List Text
  removedResources : List Text
  networkAccessGained : Bool
  externalSideEffectsGained : Bool
  budgetIncreased : Bool
  runtimeIncreased : Bool
  parallelismIncreased : Bool
  isExpansion : Bool
  isReduction : Bool

def removed (before after : List Text) : List Text := before.filter fun v => decide (v ∉ after)

def computeAuthorityDelta (before after : AuthorityCeiling) : AuthorityDelta :=
  let addedOperations := added before.operations after.operations
  let addedTools := added before.tools after.tools
  let addedResources := added before.resources after.resources
  let addedDestinations := added before.destinations after.destinations
  let addedFilesystemScope := added before.filesystemScope after.filesystemScope
  let addedCredentials := added before.credentials after.credentials
  let removedOperations := removed before.operations after.operations
  let removedTools := removed before.tools after.tools
  let removedResources := removed before.resources after.resources
  let networkAccessGained := !before.networkAccess && after.networkAccess
  let externalSideEffectsGained := !before.externalSideEffects && after.externalSideEffects
  let budgetIncreased := before.maxBudgetUsd.lt after.maxBudgetUsd
  let runtimeIncreased := before.maxRuntimeMs.lt after.maxRuntimeMs
  let parallelismIncreased := before.maxParallelism.lt after.maxParallelism
  { addedOperations, addedTools, addedResources, addedDestinations, addedFilesystemScope, addedCredentials
    removedOperations, removedTools, removedResources, networkAccessGained, externalSideEffectsGained
    budgetIncreased, runtimeIncreased, parallelismIncreased
    isExpansion := !addedOperations.isEmpty || !addedTools.isEmpty || !addedResources.isEmpty
      || !addedDestinations.isEmpty || !addedFilesystemScope.isEmpty || !addedCredentials.isEmpty
      || networkAccessGained || externalSideEffectsGained || budgetIncreased || runtimeIncreased || parallelismIncreased
    isReduction := !removedOperations.isEmpty || !removedTools.isEmpty || !removedResources.isEmpty
      || (before.networkAccess && !after.networkAccess) || (before.externalSideEffects && !after.externalSideEffects)
      || after.maxBudgetUsd.lt before.maxBudgetUsd || after.maxRuntimeMs.lt before.maxRuntimeMs
      || after.maxParallelism.lt before.maxParallelism }

theorem added_isEmpty (before after : List Text) : (added before after).isEmpty = isSubset after before := by
  rw [Bool.eq_iff_iff, List.isEmpty_iff, added, List.filter_eq_nil_iff, isSubset, List.all_eq_true]
  simp only [decide_eq_true_eq, not_not]

theorem removed_isEmpty (before after : List Text) : (removed before after).isEmpty = isSubset before after :=
  added_isEmpty after before

theorem isSubset_iff (child parent : List Text) : isSubset child parent = true ↔ child ⊆ parent := by
  simp only [isSubset, List.all_eq_true, decide_eq_true_eq]
  rfl

/-- What it says of a ceiling to be contained in another, field by field. -/
structure AuthorityCeiling.Within (child ceiling : AuthorityCeiling) : Prop where
  operations : child.operations ⊆ ceiling.operations
  tools : child.tools ⊆ ceiling.tools
  resources : child.resources ⊆ ceiling.resources
  destinations : child.destinations ⊆ ceiling.destinations
  filesystemScope : child.filesystemScope ⊆ ceiling.filesystemScope
  credentials : child.credentials ⊆ ceiling.credentials
  networkAccess : child.networkAccess = true → ceiling.networkAccess = true
  externalSideEffects : child.externalSideEffects = true → ceiling.externalSideEffects = true
  maxBudgetUsd : child.maxBudgetUsd.le ceiling.maxBudgetUsd = true
  maxRuntimeMs : child.maxRuntimeMs.le ceiling.maxRuntimeMs = true
  maxParallelism : child.maxParallelism.le ceiling.maxParallelism = true

theorem authorityWithinCeiling_iff (child ceiling : AuthorityCeiling) :
    authorityWithinCeiling child ceiling = true ↔ child.Within ceiling := by
  simp only [authorityWithinCeiling, Bool.and_eq_true, isSubset_iff, Bool.or_eq_true, Bool.not_eq_true', ← Bool.not_eq_true,
    ← imp_iff_not_or]
  constructor
  · rintro ⟨⟨⟨⟨⟨⟨⟨⟨⟨⟨ho, ht⟩, hr⟩, hd⟩, hf⟩, hc⟩, hn⟩, hs⟩, hbudget⟩, hruntime⟩, hparallel⟩
    exact ⟨ho, ht, hr, hd, hf, hc, hn, hs, hbudget, hruntime, hparallel⟩
  · rintro ⟨ho, ht, hr, hd, hf, hc, hn, hs, hbudget, hruntime, hparallel⟩
    exact ⟨⟨⟨⟨⟨⟨⟨⟨⟨⟨ho, ht⟩, hr⟩, hd⟩, hf⟩, hc⟩, hn⟩, hs⟩, hbudget⟩, hruntime⟩, hparallel⟩

/-- Every number of the ceiling is one. -/
structure AuthorityCeiling.Numbers (c : AuthorityCeiling) : Prop where
  maxBudgetUsd : c.maxBudgetUsd ≠ .nan
  maxRuntimeMs : c.maxRuntimeMs ≠ .nan
  maxParallelism : c.maxParallelism ≠ .nan

theorem AuthorityCeiling.within_refl_iff (c : AuthorityCeiling) : c.Within c ↔ c.Numbers := by
  constructor
  · intro h
    exact ⟨Numeric.le_refl_iff.1 h.maxBudgetUsd, Numeric.le_refl_iff.1 h.maxRuntimeMs, Numeric.le_refl_iff.1 h.maxParallelism⟩
  · intro h
    exact ⟨fun _ => id, fun _ => id, fun _ => id, fun _ => id, fun _ => id, fun _ => id, id, id,
      Numeric.le_refl_iff.2 h.maxBudgetUsd, Numeric.le_refl_iff.2 h.maxRuntimeMs, Numeric.le_refl_iff.2 h.maxParallelism⟩

variable {a b c after before : AuthorityCeiling}

theorem AuthorityCeiling.Within.trans (hab : a.Within b) (hbc : b.Within c) : a.Within c where
  operations := fun _ h => hbc.operations (hab.operations h)
  tools := fun _ h => hbc.tools (hab.tools h)
  resources := fun _ h => hbc.resources (hab.resources h)
  destinations := fun _ h => hbc.destinations (hab.destinations h)
  filesystemScope := fun _ h => hbc.filesystemScope (hab.filesystemScope h)
  credentials := fun _ h => hbc.credentials (hab.credentials h)
  networkAccess := fun h => hbc.networkAccess (hab.networkAccess h)
  externalSideEffects := fun h => hbc.externalSideEffects (hab.externalSideEffects h)
  maxBudgetUsd := Numeric.le_trans hab.maxBudgetUsd hbc.maxBudgetUsd
  maxRuntimeMs := Numeric.le_trans hab.maxRuntimeMs hbc.maxRuntimeMs
  maxParallelism := Numeric.le_trans hab.maxParallelism hbc.maxParallelism

/-- Along a lineage in which each ceiling is contained in the one before it, all are contained in the first. -/
theorem AuthorityCeiling.within_of_lineage {lineage : List AuthorityCeiling}
    (h : (c :: lineage).IsChain fun parent child => child.Within parent) : ∀ d ∈ lineage, d.Within c := by
  induction lineage generalizing c with
  | nil => simp
  | cons child rest ih =>
    rw [List.isChain_cons_cons] at h
    intro d hd
    rcases List.mem_cons.1 hd with rfl | hd
    · exact h.1
    · exact (ih h.2 d hd).trans h.1

/-- A flag is gained where the old value does not bound the new one. -/
theorem gained_eq (before after : Bool) : (!before && after) = !(!after || before) := by
  cases before <;> cases after <;> rfl

/-- **Expansion** is what is not contained, as long as the numbers are numbers. -/
theorem isExpansion_eq (hb : before.Numbers) (ha : after.Numbers) :
    (computeAuthorityDelta before after).isExpansion = !authorityWithinCeiling after before := by
  simp only [computeAuthorityDelta, authorityWithinCeiling, added_isEmpty, Numeric.lt_eq hb.maxBudgetUsd ha.maxBudgetUsd,
    Numeric.lt_eq hb.maxRuntimeMs ha.maxRuntimeMs, Numeric.lt_eq hb.maxParallelism ha.maxParallelism, gained_eq, Bool.not_and]

/-- The fields of a ceiling that the flag of a reduction looks at, in one of which there is less. -/
def AuthorityCeiling.LessSeen (before after : AuthorityCeiling) : Prop :=
  ¬ before.operations ⊆ after.operations ∨ ¬ before.tools ⊆ after.tools ∨ ¬ before.resources ⊆ after.resources ∨
    (before.networkAccess = true ∧ after.networkAccess = false) ∨
    (before.externalSideEffects = true ∧ after.externalSideEffects = false) ∨
    after.maxBudgetUsd.lt before.maxBudgetUsd = true ∨ after.maxRuntimeMs.lt before.maxRuntimeMs = true ∨
    after.maxParallelism.lt before.maxParallelism = true

/-- The lists it does not look at, from one of which something went. -/
def AuthorityCeiling.LessUnseen (before after : AuthorityCeiling) : Prop :=
  ¬ before.destinations ⊆ after.destinations ∨ ¬ before.filesystemScope ⊆ after.filesystemScope ∨
    ¬ before.credentials ⊆ after.credentials

theorem isReduction_iff (before after : AuthorityCeiling) :
    (computeAuthorityDelta before after).isReduction = true ↔ before.LessSeen after := by
  simp only [computeAuthorityDelta, removed_isEmpty, Bool.or_eq_true, Bool.and_eq_true, Bool.not_eq_true', or_assoc,
    AuthorityCeiling.LessSeen, ← isSubset_iff, Bool.not_eq_true]

/-- In some field there is less than there was: a name is gone, a flag is lost, a number is lower. -/
def AuthorityCeiling.Less (before after : AuthorityCeiling) : Prop :=
  ¬ before.operations ⊆ after.operations ∨ ¬ before.tools ⊆ after.tools ∨ ¬ before.resources ⊆ after.resources ∨
    ¬ before.destinations ⊆ after.destinations ∨ ¬ before.filesystemScope ⊆ after.filesystemScope ∨
    ¬ before.credentials ⊆ after.credentials ∨
    (before.networkAccess = true ∧ after.networkAccess = false) ∨
    (before.externalSideEffects = true ∧ after.externalSideEffects = false) ∨
    after.maxBudgetUsd.lt before.maxBudgetUsd = true ∨ after.maxRuntimeMs.lt before.maxRuntimeMs = true ∨
    after.maxParallelism.lt before.maxParallelism = true

theorem AuthorityCeiling.less_iff (before after : AuthorityCeiling) :
    before.Less after ↔ before.LessSeen after ∨ before.LessUnseen after := by
  unfold Less LessSeen LessUnseen
  tauto

/-- The same authority in every field, lists as sets. -/
structure AuthorityCeiling.Same (a b : AuthorityCeiling) : Prop where
  operations : ∀ v, v ∈ a.operations ↔ v ∈ b.operations
  tools : ∀ v, v ∈ a.tools ↔ v ∈ b.tools
  resources : ∀ v, v ∈ a.resources ↔ v ∈ b.resources
  destinations : ∀ v, v ∈ a.destinations ↔ v ∈ b.destinations
  filesystemScope : ∀ v, v ∈ a.filesystemScope ↔ v ∈ b.filesystemScope
  credentials : ∀ v, v ∈ a.credentials ↔ v ∈ b.credentials
  networkAccess : a.networkAccess = b.networkAccess
  externalSideEffects : a.externalSideEffects = b.externalSideEffects
  maxBudgetUsd : a.maxBudgetUsd = b.maxBudgetUsd
  maxRuntimeMs : a.maxRuntimeMs = b.maxRuntimeMs
  maxParallelism : a.maxParallelism = b.maxParallelism

theorem AuthorityCeiling.Within.antisymm (hab : a.Within b) (hba : b.Within a) : a.Same b where
  operations := fun _ => ⟨fun h => hab.operations h, fun h => hba.operations h⟩
  tools := fun _ => ⟨fun h => hab.tools h, fun h => hba.tools h⟩
  resources := fun _ => ⟨fun h => hab.resources h, fun h => hba.resources h⟩
  destinations := fun _ => ⟨fun h => hab.destinations h, fun h => hba.destinations h⟩
  filesystemScope := fun _ => ⟨fun h => hab.filesystemScope h, fun h => hba.filesystemScope h⟩
  credentials := fun _ => ⟨fun h => hab.credentials h, fun h => hba.credentials h⟩
  networkAccess := Bool.eq_iff_iff.2 ⟨hab.networkAccess, hba.networkAccess⟩
  externalSideEffects := Bool.eq_iff_iff.2 ⟨hab.externalSideEffects, hba.externalSideEffects⟩
  maxBudgetUsd := Numeric.le_antisymm hab.maxBudgetUsd hba.maxBudgetUsd
  maxRuntimeMs := Numeric.le_antisymm hab.maxRuntimeMs hba.maxRuntimeMs
  maxParallelism := Numeric.le_antisymm hab.maxParallelism hba.maxParallelism

/-- What is nowhere less contains what was. -/
theorem AuthorityCeiling.within_of_not_less (hb : before.Numbers) (ha : after.Numbers) (h : ¬ before.Less after) :
    before.Within after := by
  simp only [Less, not_or, not_not, not_and, Bool.not_eq_false, Numeric.lt_eq ha.maxBudgetUsd hb.maxBudgetUsd,
    Numeric.lt_eq ha.maxRuntimeMs hb.maxRuntimeMs, Numeric.lt_eq ha.maxParallelism hb.maxParallelism, Bool.not_eq_true',
    ← Bool.not_eq_true] at h
  obtain ⟨ho, ht, hr, hd, hf, hc, hn, hs, hbudget, hruntime, hparallel⟩ := h
  exact ⟨ho, ht, hr, hd, hf, hc, hn, hs, hbudget, hruntime, hparallel⟩

/-- What the delta of two ceilings and the containment of ceilings tell of each other. -/
structure DeltaTells (before after : AuthorityCeiling) : Prop where
  expansion : (computeAuthorityDelta before after).isExpansion = false ↔ authorityWithinCeiling after before = true
  reduction : (computeAuthorityDelta before after).isReduction = true ↔ before.Less after
  neither : (computeAuthorityDelta before after).isExpansion = false →
    (computeAuthorityDelta before after).isReduction = false → before.Same after
  reflexive : authorityWithinCeiling before before = true ∧ authorityWithinCeiling after after = true
  transitive : ∀ ceiling, authorityWithinCeiling after before = true → authorityWithinCeiling before ceiling = true →
    authorityWithinCeiling after ceiling = true
  lineage : ∀ generations : List AuthorityCeiling,
    (before :: generations).IsChain (fun parent child => authorityWithinCeiling child parent = true) →
      ∀ c ∈ generations, authorityWithinCeiling c before = true

/-- **The delta of an authority.** It tells what it should exactly when the numbers are numbers and a loss in
the lists that the flag of a reduction leaves out comes with a loss in a field it looks at. -/
theorem computeAuthorityDelta_tells_iff (before after : AuthorityCeiling) :
    DeltaTells before after ↔
      before.Numbers ∧ after.Numbers ∧ (before.LessUnseen after → before.LessSeen after) := by
  constructor
  · intro h
    have hnumbers := h.reflexive
    simp only [authorityWithinCeiling_iff, AuthorityCeiling.within_refl_iff] at hnumbers
    refine ⟨hnumbers.1, hnumbers.2, fun hless => ?_⟩
    exact (isReduction_iff before after).1 (h.reduction.2 ((before.less_iff after).2 (.inr hless)))
  · rintro ⟨hb, ha, hshown⟩
    have hless : before.Less after ↔ before.LessSeen after := by
      rw [AuthorityCeiling.less_iff]
      exact ⟨fun h => h.elim id hshown, .inl⟩
    have hexpansion : (computeAuthorityDelta before after).isExpansion = false ↔ authorityWithinCeiling after before = true := by
      rw [isExpansion_eq hb ha, Bool.not_eq_false']
    have hreduction : (computeAuthorityDelta before after).isReduction = true ↔ before.Less after := by
      rw [isReduction_iff, hless]
    refine ⟨hexpansion, hreduction, fun hnot hkept => ?_, ?_, fun ceiling => ?_, fun generations => ?_⟩
    · have hwithin := (authorityWithinCeiling_iff after before).1 (hexpansion.1 hnot)
      rw [← Bool.not_eq_true, hreduction] at hkept
      exact (AuthorityCeiling.within_of_not_less hb ha hkept).antisymm hwithin
    · simp only [authorityWithinCeiling_iff, AuthorityCeiling.within_refl_iff]
      exact ⟨hb, ha⟩
    · simp only [authorityWithinCeiling_iff]
      exact AuthorityCeiling.Within.trans
    · simp only [authorityWithinCeiling_iff]
      exact AuthorityCeiling.within_of_lineage

/-- A ceiling that grants one destination, and nothing else. -/
def oneDestination : AuthorityCeiling where
  operations := []
  tools := []
  resources := []
  destinations := ["api.example.com"]
  networkAccess := false
  filesystemScope := []
  credentials := []
  maxBudgetUsd := .finite 1
  maxRuntimeMs := .finite 1000
  maxParallelism := .finite 1
  externalSideEffects := false
  requiresApprovalFor := []

/-- A candidate gives the destination up: the delta is no expansion and no reduction. -/
theorem computeAuthorityDelta_misses_destination :
    ¬ DeltaTells oneDestination { oneDestination with destinations := [] } := by
  intro h
  have hless : oneDestination.Less { oneDestination with destinations := [] } :=
    .inr (.inr (.inr (.inl (by simp [oneDestination]))))
  exact absurd (h.reduction.2 hless) (by decide)

/-! ## Capabilities -/

/-- Every capability of the candidate is one the parent had or one the growth grants. -/
structure CapabilityProfile.Covered (candidate parent : CapabilityProfile) (growth : CapabilityGrowth) : Prop where
  tools : ∀ t ∈ candidate.tools, t ∈ parent.tools ∨ t ∈ growth.tools
  operations : ∀ o ∈ candidate.operations, o ∈ parent.operations ∨ o ∈ growth.operations
  resources : ∀ r ∈ candidate.resources, r ∈ parent.resources ∨ r ∈ growth.resources
  destinations : ∀ d ∈ candidate.destinations, d ∈ parent.destinations ∨ d ∈ growth.destinations
  credentialAccess : ∀ c ∈ candidate.credentialAccess, c ∈ parent.credentialAccess
  sideEffectClasses : ∀ s ∈ candidate.sideEffectClasses, s ∈ parent.sideEffectClasses
  filesystemWrites : candidate.filesystemWrites = true → parent.filesystemWrites = true ∨ growth.allowFilesystemWrites = true
  networkAccess : candidate.networkAccess = true → parent.networkAccess = true ∨ growth.allowNetworkAccess = true
  codeExecution : candidate.codeExecution = true → parent.codeExecution = true ∨ growth.allowCodeExecution = true
  maxParallelism : candidate.maxParallelism.le parent.maxParallelism = true

/-- The part of it that the reasons of a delta look at. -/
structure CapabilityProfile.CoveredSeen (candidate parent : CapabilityProfile) (growth : CapabilityGrowth) : Prop where
  tools : ∀ t ∈ candidate.tools, t ∈ parent.tools ∨ t ∈ growth.tools
  operations : ∀ o ∈ candidate.operations, o ∈ parent.operations ∨ o ∈ growth.operations
  resources : ∀ r ∈ candidate.resources, r ∈ parent.resources ∨ r ∈ growth.resources
  destinations : ∀ d ∈ candidate.destinations, d ∈ parent.destinations ∨ d ∈ growth.destinations
  credentialAccess : ∀ c ∈ candidate.credentialAccess, c ∈ parent.credentialAccess
  filesystemWrites : candidate.filesystemWrites = true → parent.filesystemWrites = true ∨ growth.allowFilesystemWrites = true
  networkAccess : candidate.networkAccess = true → parent.networkAccess = true ∨ growth.allowNetworkAccess = true
  codeExecution : candidate.codeExecution = true → parent.codeExecution = true ∨ growth.allowCodeExecution = true

theorem CapabilityProfile.covered_iff (candidate parent : CapabilityProfile) (growth : CapabilityGrowth) :
    candidate.Covered parent growth ↔ candidate.CoveredSeen parent growth ∧
      (∀ s ∈ candidate.sideEffectClasses, s ∈ parent.sideEffectClasses) ∧
      candidate.maxParallelism.le parent.maxParallelism = true := by
  constructor
  · intro h
    exact ⟨⟨h.tools, h.operations, h.resources, h.destinations, h.credentialAccess, h.filesystemWrites, h.networkAccess,
      h.codeExecution⟩, h.sideEffectClasses, h.maxParallelism⟩
  · rintro ⟨h, hclasses, hparallel⟩
    exact ⟨h.tools, h.operations, h.resources, h.destinations, h.credentialAccess, hclasses, h.filesystemWrites,
      h.networkAccess, h.codeExecution, hparallel⟩

/-- A list of names gives no reason when each was there or is allowed. -/
theorem unlistedReason_eq_nil_iff (what : Text) (before after allowed : List Text) :
    unlistedReason what (added before after) allowed = [] ↔ ∀ v ∈ after, v ∈ before ∨ v ∈ allowed := by
  have hiff : (added before after).filter (fun v => decide (v ∉ allowed)) = [] ↔ ∀ v ∈ after, v ∈ before ∨ v ∈ allowed := by
    rw [List.filter_eq_nil_iff, added]
    simp only [List.mem_filter, decide_eq_true_eq, not_not, and_imp]
    exact forall₂_congr fun v _ => or_iff_not_imp_left.symm
  rw [← hiff, unlistedReason]
  split
  · next h => exact iff_of_true rfl h
  · next h => exact iff_of_false (List.cons_ne_nil _ _) h

/-- A flag gives no reason when it was set or is allowed. -/
theorem gained_reason_eq_nil_iff (before after allowed : Bool) (reason : Text) :
    (if (!before && after) && !allowed then [reason] else []) = [] ↔ (after = true → before = true ∨ allowed = true) := by
  cases before <;> cases after <;> cases allowed <;> simp

theorem hasUnexpectedGain_eq_false_iff (generationId : Text) (parent candidate : CapabilityProfile)
    (growth : CapabilityGrowth) :
    (computeCapabilityDelta generationId parent candidate growth).hasUnexpectedGain = false ↔
      candidate.CoveredSeen parent growth := by
  simp only [computeCapabilityDelta, Bool.not_eq_false', List.isEmpty_iff, List.flatten_eq_nil_iff, List.forall_mem_cons,
    unlistedReason_eq_nil_iff, gained_reason_eq_nil_iff, List.not_mem_nil, or_false]
  constructor
  · rintro ⟨ht, ho, hr, hd, hc, hf, hn, he, -⟩
    exact ⟨ht, ho, hr, hd, hc, hf, hn, he⟩
  · intro h
    exact ⟨h.tools, h.operations, h.resources, h.destinations, h.credentialAccess, h.filesystemWrites, h.networkAccess,
      h.codeExecution, fun _ hmem => hmem.elim⟩

/-- A delta reports every gain that is not granted: what it calls expected is covered, and where nothing is
allowed any gain is unexpected. -/
def ReportsGains (generationId : Text) (parent candidate : CapabilityProfile) (growth : CapabilityGrowth) : Prop :=
  ((computeCapabilityDelta generationId parent candidate growth).hasUnexpectedGain = false → candidate.Covered parent growth) ∧
    (¬ candidate.Covered parent {} → (computeCapabilityDelta generationId parent candidate {}).hasUnexpectedGain = true)

/-- Without allowances there is less that is covered. -/
theorem CapabilityProfile.CoveredSeen.mono {candidate parent : CapabilityProfile} (growth : CapabilityGrowth)
    (h : candidate.CoveredSeen parent {}) : candidate.CoveredSeen parent growth where
  tools := fun t ht => .inl ((h.tools t ht).resolve_right List.not_mem_nil)
  operations := fun o ho => .inl ((h.operations o ho).resolve_right List.not_mem_nil)
  resources := fun r hr => .inl ((h.resources r hr).resolve_right List.not_mem_nil)
  destinations := fun d hd => .inl ((h.destinations d hd).resolve_right List.not_mem_nil)
  credentialAccess := h.credentialAccess
  filesystemWrites := fun hc => .inl ((h.filesystemWrites hc).resolve_right Bool.false_ne_true)
  networkAccess := fun hc => .inl ((h.networkAccess hc).resolve_right Bool.false_ne_true)
  codeExecution := fun hc => .inl ((h.codeExecution hc).resolve_right Bool.false_ne_true)

/-- **The delta of capabilities.** It reports every gain exactly when a new class of side effects and more
parallelism come only with another gain that is not allowed. -/
theorem computeCapabilityDelta_reports_iff (generationId : Text) (parent candidate : CapabilityProfile)
    (growth : CapabilityGrowth) :
    ReportsGains generationId parent candidate growth ↔
      (candidate.CoveredSeen parent growth →
        (∀ s ∈ candidate.sideEffectClasses, s ∈ parent.sideEffectClasses) ∧
          candidate.maxParallelism.le parent.maxParallelism = true) := by
  rw [ReportsGains, hasUnexpectedGain_eq_false_iff, ← Bool.not_eq_false, hasUnexpectedGain_eq_false_iff, not_imp_not,
    CapabilityProfile.covered_iff, CapabilityProfile.covered_iff]
  constructor
  · exact fun h hseen => (h.1 hseen).2
  · exact fun h => ⟨fun hseen => ⟨hseen, h hseen⟩, fun hseen => ⟨hseen, h (hseen.mono growth)⟩⟩

/-- A profile without any capability. -/
def noCapability : CapabilityProfile := ⟨[], [], [], [], false, false, [], false, .finite 1, []⟩

/-- A new class of side effects is no unexpected gain, and neither is more parallelism. -/
theorem computeCapabilityDelta_misses_side_effects :
    ¬ ReportsGains "gen_1" noCapability { noCapability with sideEffectClasses := ["EMAIL"], maxParallelism := .finite 64 } {} := by
  intro h
  have hcovered := h.1 (by decide +kernel)
  exact absurd (hcovered.sideEffectClasses "EMAIL" (by decide)) (by decide)

end Tna.Improvement
