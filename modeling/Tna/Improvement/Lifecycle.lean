import Tna.Improvement.Accepted
import Tna.Lib.Versions

/-!
# The life of a generation

Whatever the governors of a store do, and wherever their requests stop, what they come to is a
run of store operations. Over such a run no generation is lost, each goes along the table of
transitions with a version that counts them, and no two transitions of one generation that
succeed expected the same version.
-/

namespace Tna.Improvement

open Tna.Lib Tna.Js Tna.Lib.Versions

def ImprovementGeneration.stage (g : ImprovementGeneration) : GenerationState × Nat := (g.status, g.stateVersion)

/-- Generations went along the table of transitions. -/
abbrev GenerationsLive (s t : ImprovementStore) : Prop :=
  Keeps (Traces (fun a b => canTransition a b = true) ImprovementGeneration.stage) s.generations.get t.generations.get

/-- The generation an operation is to move, and the version it expects of it. -/
def StoreOp.expects : StoreOp → Option (Text × Nat)
  | .transitionGeneration _ generationId expectedVersion _ _ => some (generationId, expectedVersion)
  | _ => none

def ImprovementStore.version (s : ImprovementStore) (generationId : Text) : Option Nat :=
  (s.generations.get generationId).map ImprovementGeneration.stateVersion

section
variable {s t : ImprovementStore} {op : StoreOp} {ops : List StoreOp} {x y : Governor} {labels : List GovernorLabel}

/-- A generation that is moved goes along an edge, and had the version that was expected. -/
theorem moved_live {g : ImprovementGeneration} {target : GenerationState} {hash : Option Text}
    (hget : s.generations.get g.generationId = some g) (hcan : canTransition g.status target = true)
    (ht : t.generations = s.generations.put (g.moved target hash)) :
    GenerationsLive s t ∧ Swaps s.version t.version g.generationId g.stateVersion := by
  have hput : t.generations.get g.generationId = some (g.moved target hash) := by
    rw [ht]
    exact Keyed.get_put_self
  refine ⟨?_, ?_, g.stateVersion + 1, ?_, Nat.lt_succ_self _⟩
  · rw [GenerationsLive, ht]
    refine keeps_put (fun _ => .refl) fun r hr => ?_
    cases hget.symm.trans hr
    exact .single ⟨hcan, rfl⟩
  · rw [ImprovementStore.version, hget, Option.map_some]
  · rw [ImprovementStore.version, hput]
    rfl

/-- **What an operation does** to the generations. -/
theorem live_of_step (h : StoreOp.Step s op t) :
    GenerationsLive s t ∧ ∀ e, op.expects = some e → Swaps s.version t.version e.1 e.2 := by
  have hsame : ∀ {t : ImprovementStore}, t.generations = s.generations → GenerationsLive s t := by
    intro t ht
    rw [GenerationsLive, ht]
    exact fun _ g hg => ⟨g, hg, .refl⟩
  cases op with
  | transitionGeneration tenantId generationId version target hash =>
    obtain ⟨moved, h⟩ := eq_of_map_snd h
    obtain ⟨g, hg, rfl, hcan, rfl, ht⟩ := transitionGeneration_ok.1 h
    obtain ⟨hget, -⟩ := getGeneration_ok.1 hg
    cases Keyed.key_of_get hget
    have hput : t.generations = s.generations.put (g.moved target hash) := by
      split at ht
      · obtain ⟨system, -, rfl⟩ := setAcceptedGeneration_ok.1 ht
        rfl
      · rw [ht]
    refine ⟨(moved_live hget hcan hput).1, fun e he => ?_⟩
    cases he
    exact (moved_live hget hcan hput).2
  | createGeneration =>
    obtain ⟨g, h⟩ := eq_of_map_snd h
    obtain ⟨hnew, -, -, -, rfl⟩ := createGeneration_ok h
    refine ⟨keeps_put (fun _ => .refl) fun r hr => ?_, by simp [StoreOp.expects]⟩
    rw [hnew] at hr
    cases hr
  | _ =>
    refine ⟨?_, by simp [StoreOp.expects]⟩
    cases move_of_run h with
    | elsewhere _ hgenerations => exact hsame hgenerations
    | _ => exact hsame rfl

/-- **Whatever a governor does** comes down to operations of its store. -/
theorem operations_of_next {label : GovernorLabel} (h : x.next label = some y) : ∃ ops, Run StoreOp.Step x.store ops y.store := by
  have hperforms : ∀ {α : Type} {A : StoreOp → Prop} {m : Handler α}, Uses A m →
      ∃ ops, Run StoreOp.Step x.store ops (after m x).store := by
    intro α A m huses
    obtain ⟨ops, -, hrun⟩ := huses x
    exact ⟨ops, hrun⟩
  cases label with
  | requests d c r =>
    obtain rfl := Option.some.inj h
    exact hperforms (uses_handle r)
  | startsEvaluation d c generationId body =>
    obtain rfl := Option.some.inj h
    exact hperforms uses_startEvaluation
  | endsEvaluation d c generationId vad evaluation =>
    obtain rfl := Option.some.inj h
    exact hperforms (uses_finishEvaluation none)
  | operates op =>
    simp only [Governor.next] at h
    split at h
    · next store hop =>
      cases h
      exact ⟨[op], .snoc (.nil _) hop⟩
    · cases h
  | creates digest r pc a =>
    obtain ⟨⟨store, pc'⟩, hstep, rfl⟩ := Option.map_eq_some_iff.1 h
    rcases createsOnce_of_create hstep with rfl | ⟨op, -, hop⟩
    · exact ⟨[], .nil _⟩
    · exact ⟨[op], .snoc (.nil _) hop⟩
  | elsewhere memory =>
    obtain rfl := Option.some.inj h
    exact ⟨[], .nil _⟩

theorem live_of_operations (hrun : Run StoreOp.Step s ops t) : GenerationsLive s t :=
  hrun.invariant (I := GenerationsLive s) (fun _ _ _ hstep hu => hu.trans Traces.trans (live_of_step hstep).1)
    fun _ g hg => ⟨g, hg, .refl⟩

/-- **The life of a generation.** In every run of governors, with whatever else uses the store, no generation is lost, each
goes along the table of transitions with a version that counts them, and a last state is never left. -/
theorem generationsLive_of_run (hrun : Run (fun x label y => Governor.next x label = some y) x labels y) :
    GenerationsLive x.store y.store ∧ ∀ id g, x.store.generations.get id = some g → (∀ target, canTransition g.status target = false) →
      ∃ g', y.store.generations.get id = some g' ∧ g'.stage = g.stage := by
  have hlive : GenerationsLive x.store y.store := by
    refine hrun.invariant (I := fun y => GenerationsLive x.store y.store) (fun u label v hstep hu => ?_) fun _ g hg => ⟨g, hg, .refl⟩
    obtain ⟨ops, hops⟩ := operations_of_next hstep
    exact hu.trans Traces.trans (live_of_operations hops)
  refine ⟨hlive, fun id g hg hlast => ?_⟩
  obtain ⟨g', hg', htraces⟩ := hlive id g hg
  exact ⟨g', hg', htraces.eq_of_last fun target hcan => absurd hcan (by simp [ImprovementGeneration.stage, hlast])⟩

/-- A promotion and the rollback of it. -/
theorem generationsLive_of_run_rolledBack : ∃ x y : Governor, x.acceptsAt "g0" .promoted = true ∧
    y.acceptsAt "g1" .rolledBack = true ∧ GenerationsLive x.store y.store := by
  have hreplay : (replay Governor.next emptyGovernor promotedOnce).any (fun x => x.acceptsAt "g0" .promoted &&
      (replay Governor.next x (promotionOf "g1" (some "g0") ++
        [.requests sampleDeps (sampleContext "r") (.rollback "g1" (sampleRollback "g0"))])).any fun y =>
          y.acceptsAt "g1" .rolledBack) = true := by decide +kernel
  obtain ⟨x, -, htest⟩ := run_of_test hreplay
  obtain ⟨hpromoted, htest⟩ := Bool.and_eq_true_iff.1 htest
  obtain ⟨y, hrun, hrolled⟩ := run_of_test htest
  exact ⟨x, y, hpromoted, hrolled, (generationsLive_of_run hrun).1⟩

/-- **Of the transitions of a generation that expect the same version** at most one succeeds, whichever processes make them. -/
theorem transitions_once_of_run (hrun : Run StoreOp.Step s ops t) :
    (ops.filterMap StoreOp.expects).Pairwise fun e e' => e.1 = e'.1 → e.2 < e'.2 := by
  refine pairwise_expected (fun _ => True) ImprovementStore.version (fun _ _ _ _ h => h) ?_ ?_ hrun trivial
  · intro s op t h id v hv
    obtain ⟨g, hg, rfl⟩ := Option.map_eq_some_iff.1 hv
    obtain ⟨g', hg', htraces⟩ := (live_of_step h).1 id g hg
    exact ⟨g'.stateVersion, by rw [ImprovementStore.version, hg']; rfl, le_of_follows htraces⟩
  · exact fun s op t e h _ => (live_of_step h).2 e

def authorizedOps : List StoreOp :=
  [.createSystem "t" "parser" "u" "parser", .createGeneration ⟨"t", "parser", none, "1", .class1Code, "", "", "u"⟩ "g0",
    .transitionGeneration "t" "g0" 0 .authorized none, .transitionGeneration "t" "g0" 1 .building none]

theorem transitions_once_of_run_authorized : (authorizedOps.filterMap StoreOp.expects).Pairwise fun e e' =>
    e.1 = e'.1 → e.2 < e'.2 := by
  have hreplay : ((replay (fun s op => (StoreOp.run s op).toOption) .empty authorizedOps).any fun _ => true) = true := by
    decide +kernel
  obtain ⟨s, hrun, -⟩ := run_of_test hreplay
  refine transitions_once_of_run (hrun.mono fun s op t hstep => ?_)
  unfold StoreOp.Step
  cases hop : StoreOp.run s op with
  | error e =>
    rw [hop] at hstep
    cases hstep
  | ok t' =>
    rw [hop] at hstep
    cases hstep
    rfl

end

end Tna.Improvement
