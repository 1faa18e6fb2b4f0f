import Tna.Improvement.Create

/-!
# The operations of the improvement store

Every operation that writes, as a label, and what each of them can do to the rows of
systems, generations, canary runs and rollbacks. What any use of the store keeps follows
from these moves.
-/

namespace Tna.Improvement

open Tna.Lib Tna.Js

inductive StoreOp where
  | createSystem (tenantId name createdBy newId : Text)
  | createGeneration (input : ImprovementStore.CreateGenerationInput) (newId : Text)
  | transitionGeneration (tenantId generationId : Text) (expectedVersion : Nat) (target : GenerationState)
      (sourceHashAfter : Option Text)
  | saveSpec (tenantId generationId : Text) (spec : ImprovementSpec)
  | getOrCreateRecursionBudget (tenantId systemId : Text) (limits : RecursionLimits)
  | consumeRecursionBudget (tenantId systemId : Text) (expectedVersion : Nat) (deltas : BudgetDeltas)
  | recordPromotionDecision (decision : PromotionDecision)
  | startCanaryRun (tenantId generationId policyHash newId : Text)
  | recordCanaryObservation (tenantId canaryId : Text) (expectedVersion : Nat) (delta : CanaryDelta)
  | endCanaryRun (tenantId canaryId : Text) (expectedVersion : Nat) (status : CanaryStatus)
  | initiateRollback (tenantId generationId targetId trigger initiatedBy newId : Text)
  | completeRollback (tenantId rollbackId : Text) (status : RollbackStatus) (evidenceRef : Option Text)

/-- The store an operation leaves when it answers. -/
def StoreOp.run (s : ImprovementStore) : StoreOp → Except ImprovementThrown ImprovementStore
  | .createSystem tenantId name createdBy newId => (s.createSystem tenantId name createdBy newId).map Prod.snd
  | .createGeneration input newId => (s.createGeneration input newId).map Prod.snd
  | .transitionGeneration tenantId generationId expectedVersion target sourceHashAfter =>
    (s.transitionGeneration tenantId generationId expectedVersion target sourceHashAfter).map Prod.snd
  | .saveSpec tenantId generationId spec => (s.saveSpec tenantId generationId spec).map Prod.snd
  | .getOrCreateRecursionBudget tenantId systemId limits =>
    (s.getOrCreateRecursionBudget tenantId systemId limits).map Prod.snd
  | .consumeRecursionBudget tenantId systemId expectedVersion deltas =>
    (s.consumeRecursionBudget tenantId systemId expectedVersion deltas).map Prod.snd
  | .recordPromotionDecision decision => .ok (s.recordPromotionDecision decision)
  | .startCanaryRun tenantId generationId policyHash newId =>
    (s.startCanaryRun tenantId generationId policyHash newId).map Prod.snd
  | .recordCanaryObservation tenantId canaryId expectedVersion delta =>
    (s.recordCanaryObservation tenantId canaryId expectedVersion delta).map Prod.snd
  | .endCanaryRun tenantId canaryId expectedVersion status =>
    (s.endCanaryRun tenantId canaryId expectedVersion status).map Prod.snd
  | .initiateRollback tenantId generationId targetId trigger initiatedBy newId =>
    (s.initiateRollback tenantId generationId targetId trigger initiatedBy newId).map Prod.snd
  | .completeRollback tenantId rollbackId status evidenceRef =>
    (s.completeRollback tenantId rollbackId status evidenceRef).map Prod.snd

/-- An operation answered. -/
def StoreOp.Step (s : ImprovementStore) (op : StoreOp) (t : ImprovementStore) : Prop := op.run s = .ok t

/-- The operations on a canary run that is there. -/
def StoreOp.observes : StoreOp → Bool
  | .recordCanaryObservation _ _ _ _ => true
  | .endCanaryRun _ _ _ _ => true
  | _ => false

/-! ## What an operation does -/

/-- What an operation can do to the systems, the generations, the canary runs and the rollbacks. -/
inductive StoreMove (s : ImprovementStore) : StoreOp → ImprovementStore → Prop where
  | elsewhere {op : StoreOp} {t : ImprovementStore} (hsystems : t.systems = s.systems)
      (hgenerations : t.generations = s.generations) (hcanaryRuns : t.canaryRuns = s.canaryRuns)
      (hrollbacks : t.rollbacks = s.rollbacks) : StoreMove s op t
  | opens {op : StoreOp} {system : ImprovementSystem} (hnew : s.systems.get system.systemId = none)
      (haccepted : system.acceptedGenerationId = none) : StoreMove s op { s with systems := s.systems.put system }
  | stores {input : ImprovementStore.CreateGenerationInput} {newId : Text} {g : ImprovementGeneration}
      (hnew : s.generations.get g.generationId = none)
      (hcreated : s.createGeneration input newId = .ok (g, { s with generations := s.generations.put g })) :
      StoreMove s (.createGeneration input newId) { s with generations := s.generations.put g }
  | moves {g : ImprovementGeneration} {target : GenerationState} {hash : Option Text}
      (hget : s.generations.get g.generationId = some g) (hcan : canTransition g.status target = true)
      (htarget : target ≠ .promoted) : StoreMove s
      (.transitionGeneration g.tenantId g.generationId g.stateVersion target hash)
      { s with generations := s.generations.put (g.moved target hash) }
  | promotes {g : ImprovementGeneration} {system : ImprovementSystem} {hash : Option Text}
      (hget : s.generations.get g.generationId = some g) (hcan : canTransition g.status .promoted = true)
      (hsystem : s.systems.get g.systemId = some system) (htenant : system.tenantId = g.tenantId) : StoreMove s
      (.transitionGeneration g.tenantId g.generationId g.stateVersion .promoted hash)
      { s with
        generations := s.generations.put (g.moved .promoted hash)
        systems := s.systems.put (system.accepting g.generationId) }
  | starts {run : CanaryRun} (hnew : s.canaryRuns.get run.canaryId = none) :
      StoreMove s (.startCanaryRun run.tenantId run.generationId run.policyHash run.canaryId)
      { s with canaryRuns := s.canaryRuns.put run }
  | observes {op : StoreOp} {old run : CanaryRun} (hop : op.observes = true)
      (hget : s.canaryRuns.get run.canaryId = some old) : StoreMove s op { s with canaryRuns := s.canaryRuns.put run }
  | initiates {record : RollbackRecord} (hnew : s.rollbacks.get record.rollbackId = none) : StoreMove s
      (.initiateRollback record.tenantId record.generationId record.rollbackTargetGenerationId record.trigger
        record.initiatedBy record.rollbackId)
      { s with rollbacks := s.rollbacks.put record }
  | completes {tenantId : Text} {old record : RollbackRecord} (hget : s.rollbacks.get record.rollbackId = some old) :
      StoreMove s (.completeRollback tenantId record.rollbackId record.status record.evidenceRef)
      { s with rollbacks := s.rollbacks.put record }

section
variable {s t : ImprovementStore} {tenantId generationId newId : Text}

theorem getGeneration_ok {g : ImprovementGeneration} :
    s.getGeneration tenantId generationId = .ok g ↔ s.generations.get generationId = some g ∧ g.tenantId = tenantId := by
  unfold ImprovementStore.getGeneration
  cases hget : s.generations.get generationId with
  | none => simp
  | some g' =>
    by_cases htenant : g'.tenantId = tenantId
    · simp only [htenant, if_true, Except.ok.injEq, Option.some.injEq]
      constructor
      · rintro rfl
        exact ⟨rfl, htenant⟩
      · exact fun h => h.1
    · simp only [htenant, if_false, Option.some.injEq]
      constructor
      · intro h
        cases h
      · rintro ⟨rfl, h⟩
        exact absurd h htenant

variable {systemId canaryId : Text} {hash : Option Text} {moved : ImprovementGeneration} {target : GenerationState}
  {version : Nat} {run : CanaryRun} {change : CanaryRun → CanaryRun} {op : StoreOp}

theorem getSystem_ok {system : ImprovementSystem} (h : s.getSystem tenantId systemId = .ok system) :
    s.systems.get systemId = some system ∧ system.tenantId = tenantId := by
  unfold ImprovementStore.getSystem at h
  split at h
  · next hget =>
    split at h
    · next htenant =>
      cases h
      exact ⟨hget, htenant⟩
    · cases h
  · cases h

theorem setAcceptedGeneration_ok :
    s.setAcceptedGeneration tenantId systemId generationId = .ok t ↔
      ∃ system, s.getSystem tenantId systemId = .ok system ∧
        t = { s with systems := s.systems.put (system.accepting generationId) } := by
  unfold ImprovementStore.setAcceptedGeneration
  cases s.getSystem tenantId systemId with
  | error e => simp
  | ok system =>
    simp only [Except.ok.injEq, exists_eq_left']
    exact eq_comm

/-- **A transition** is of a generation of the tenant at the expected version, to a state that may follow; a promotion sets
the accepted generation of its system too. -/
theorem transitionGeneration_ok :
    s.transitionGeneration tenantId generationId version target hash = .ok (moved, t) ↔
      ∃ g, s.getGeneration tenantId generationId = .ok g ∧ g.stateVersion = version ∧
        canTransition g.status target = true ∧ moved = g.moved target hash ∧
        if target = .promoted then
          { s with generations := s.generations.put moved }.setAcceptedGeneration tenantId g.systemId generationId = .ok t
        else t = { s with generations := s.generations.put moved } := by
  constructor
  · intro h
    unfold ImprovementStore.transitionGeneration at h
    split at h
    · cases h
    · next g hget =>
      split at h
      · cases h
      · next hversion =>
        split at h
        · cases h
        · next hcan =>
          refine ⟨g, hget, not_not.1 hversion, by simpa using hcan, ?_⟩
          simp only at h
          split at h
          · next htarget =>
            split at h
            · cases h
            · next hset =>
              cases h
              rw [if_pos htarget]
              exact ⟨rfl, hset⟩
          · next htarget =>
            cases h
            rw [if_neg htarget]
            exact ⟨rfl, rfl⟩
  · rintro ⟨g, hget, hversion, hcan, rfl, h⟩
    unfold ImprovementStore.transitionGeneration
    simp only [hget, hversion, ne_eq, not_true_eq_false, if_false, hcan, Bool.true_eq_false]
    split at h
    · next htarget => rw [if_pos htarget, h]
    · next htarget => rw [if_neg htarget, h]

theorem startCanaryRun_ok {policyHash : Text} :
    s.startCanaryRun tenantId generationId policyHash newId = .ok (run, t) ↔
      s.canaryRuns.get newId = none ∧ run = ⟨newId, generationId, tenantId, policyHash, .running, 0, 0, 0, 0, 0⟩ ∧
        t = { s with canaryRuns := s.canaryRuns.put run } := by
  unfold ImprovementStore.startCanaryRun
  cases hget : s.canaryRuns.get newId with
  | some run' => simp
  | none =>
    simp only [Except.ok.injEq, Prod.mk.injEq, true_and]
    constructor
    · rintro ⟨rfl, rfl⟩
      exact ⟨rfl, rfl⟩
    · rintro ⟨rfl, rfl⟩
      exact ⟨rfl, rfl⟩

theorem updateCanaryRun_ok (h : s.updateCanaryRun tenantId canaryId version change = .ok (run, t)) :
    ∃ old, s.canaryRuns.get canaryId = some old ∧ run = change old ∧ t = { s with canaryRuns := s.canaryRuns.put run } := by
  unfold ImprovementStore.updateCanaryRun at h
  simp only at h
  split at h
  · cases h
  · next old hget =>
    split at h
    · cases h
    · cases h
      exact ⟨old, hget, rfl, rfl⟩

theorem initiateRollback_ok {targetId trigger initiatedBy : Text} {record : RollbackRecord} :
    s.initiateRollback tenantId generationId targetId trigger initiatedBy newId = .ok (record, t) ↔
      (∃ g, s.getGeneration tenantId generationId = .ok g) ∧ (∃ g, s.getGeneration tenantId targetId = .ok g) ∧
        s.rollbacks.get newId = none ∧
        record = ⟨newId, generationId, tenantId, targetId, trigger, .indeterminate, none, initiatedBy⟩ ∧
        t = { s with rollbacks := s.rollbacks.put record } := by
  unfold ImprovementStore.initiateRollback
  cases s.getGeneration tenantId generationId with
  | error e => simp
  | ok g =>
    cases s.getGeneration tenantId targetId with
    | error e => simp
    | ok g' =>
      cases s.rollbacks.get newId with
      | some record' => simp
      | none =>
        simp only [Except.ok.injEq, Prod.mk.injEq, exists_eq', true_and]
        constructor
        · rintro ⟨rfl, rfl⟩
          exact ⟨rfl, rfl⟩
        · rintro ⟨rfl, rfl⟩
          exact ⟨rfl, rfl⟩

theorem completeRollback_ok {rollbackId : Text} {status : RollbackStatus} {evidenceRef : Option Text} {done : RollbackRecord} :
    s.completeRollback tenantId rollbackId status evidenceRef = .ok (done, t) ↔
      ∃ record, s.rollbacks.get rollbackId = some record ∧ record.tenantId = tenantId ∧ record.status = .indeterminate ∧
        done = { record with status, evidenceRef } ∧ t = { s with rollbacks := s.rollbacks.put done } := by
  unfold ImprovementStore.completeRollback
  cases s.rollbacks.get rollbackId with
  | none => simp
  | some record =>
    constructor
    · intro h
      simp only at h
      split at h
      · cases h
      · next hopen =>
        cases h
        obtain ⟨htenant, hstatus⟩ := not_or.1 hopen
        exact ⟨record, rfl, not_not.1 htenant, not_not.1 hstatus, rfl, rfl⟩
    · rintro ⟨record', hrecord, htenant, hstatus, rfl, rfl⟩
      cases hrecord
      simp only [htenant, hstatus, ne_eq, not_true_eq_false, or_self, if_false]

/-! ## Every operation is one of these moves -/

theorem move_transition (h : s.transitionGeneration tenantId generationId version target hash = .ok (moved, t)) :
    StoreMove s (.transitionGeneration tenantId generationId version target hash) t := by
  obtain ⟨g, hg, rfl, hcan, rfl, h⟩ := transitionGeneration_ok.1 h
  obtain ⟨hget, rfl⟩ := getGeneration_ok.1 hg
  cases Keyed.key_of_get hget
  split at h
  · next htarget =>
    subst htarget
    obtain ⟨system, hsystem, rfl⟩ := setAcceptedGeneration_ok.1 h
    obtain ⟨hsystem, htenant⟩ := getSystem_ok hsystem
    exact .promotes hget hcan hsystem htenant
  · next htarget =>
    subst h
    exact .moves hget hcan htarget

theorem move_canary (hid : ∀ r, (change r).canaryId = r.canaryId) (hop : op.observes = true)
    (h : s.updateCanaryRun tenantId canaryId version change = .ok (run, t)) : StoreMove s op t := by
  obtain ⟨old, hget, rfl, rfl⟩ := updateCanaryRun_ok h
  cases Keyed.key_of_get hget
  have hold : s.canaryRuns.get (change old).canaryId = some old := by
    rw [hid]
    exact hget
  exact .observes hop hold

theorem eq_of_map_snd {α : Type} {result : ImprovementStore.Result α} (h : result.map Prod.snd = .ok t) :
    ∃ a, result = .ok (a, t) := by
  cases result with
  | error e => cases h
  | ok r =>
    cases h
    exact ⟨r.1, rfl⟩

/-- **Every operation is one of these moves.** -/
theorem move_of_run (h : op.run s = .ok t) : StoreMove s op t := by
  cases op with
  | createSystem tenantId name createdBy newId =>
    obtain ⟨system, h⟩ := eq_of_map_snd h
    obtain ⟨hnew, haccepted, rfl⟩ := createSystem_ok h
    exact .opens hnew haccepted
  | createGeneration input newId =>
    obtain ⟨g, h⟩ := eq_of_map_snd h
    obtain ⟨hnew, -, -, -, rfl⟩ := createGeneration_ok h
    exact .stores hnew h
  | transitionGeneration tenantId generationId version target hash =>
    obtain ⟨moved, h⟩ := eq_of_map_snd h
    exact move_transition h
  | saveSpec tenantId generationId spec =>
    obtain ⟨u, h⟩ := eq_of_map_snd h
    rcases saveSpec_cases h with ⟨specs, heq⟩ | ⟨message, heq⟩
    · cases heq
      exact .elsewhere rfl rfl rfl rfl
    · cases heq
  | getOrCreateRecursionBudget tenantId systemId limits =>
    obtain ⟨budget, h⟩ := eq_of_map_snd h
    unfold ImprovementStore.getOrCreateRecursionBudget at h
    split at h
    · cases h
      exact .elsewhere rfl rfl rfl rfl
    · obtain ⟨-, -, rfl⟩ := insertRecursionBudget_ok h
      exact .elsewhere rfl rfl rfl rfl
  | consumeRecursionBudget tenantId systemId version deltas =>
    obtain ⟨budget, h⟩ := eq_of_map_snd h
    rcases consumeRecursionBudget_cases s tenantId systemId version deltas with ⟨b, -, -, -, heq⟩ | ⟨-, heq⟩
    · rw [heq] at h
      cases h
      exact .elsewhere rfl rfl rfl rfl
    · rw [heq] at h
      cases h
  | recordPromotionDecision decision =>
    cases h
    exact .elsewhere rfl rfl rfl rfl
  | startCanaryRun tenantId generationId policyHash newId =>
    obtain ⟨run, h⟩ := eq_of_map_snd h
    obtain ⟨hnew, rfl, rfl⟩ := startCanaryRun_ok.1 h
    exact @StoreMove.starts s ⟨newId, generationId, tenantId, policyHash, .running, 0, 0, 0, 0, 0⟩ hnew
  | recordCanaryObservation tenantId canaryId version delta =>
    obtain ⟨run, h⟩ := eq_of_map_snd h
    refine move_canary ?_ rfl h
    exact fun _ => rfl
  | endCanaryRun tenantId canaryId version status =>
    obtain ⟨run, h⟩ := eq_of_map_snd h
    refine move_canary ?_ rfl h
    exact fun _ => rfl
  | initiateRollback tenantId generationId targetId trigger initiatedBy newId =>
    obtain ⟨record, h⟩ := eq_of_map_snd h
    obtain ⟨-, -, hnew, rfl, rfl⟩ := initiateRollback_ok.1 h
    exact @StoreMove.initiates s ⟨newId, generationId, tenantId, targetId, trigger, .indeterminate, none, initiatedBy⟩ hnew
  | completeRollback tenantId rollbackId status evidenceRef =>
    obtain ⟨done, h⟩ := eq_of_map_snd h
    obtain ⟨record, hget, -, -, rfl, rfl⟩ := completeRollback_ok.1 h
    cases Keyed.key_of_get hget
    exact @StoreMove.completes s tenantId record { record with status, evidenceRef } hget

end

end Tna.Improvement
