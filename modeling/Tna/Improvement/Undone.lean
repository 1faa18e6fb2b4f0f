import Tna.Improvement.HalfDone

/-!
# Requests that throw

A request that throws should leave the status of every generation, the canary runs and the
rollbacks as they were, and one that answers should leave a rollback and its generation,
and a canary run and its generation, in agreement. That is so of a request exactly when
it finishes what it begins.
-/

namespace Tna.Improvement

open Tna.Lib Tna.Js

/-- Whatever the request begins it finishes. -/
def Finishes (d : GovernorDeps) (c : RequestContext) (x : Governor) : GovernorRequest → Prop
  | .authorize generationId => AuthorizeFinishes d c generationId x
  | .build generationId raw => BuildFinishes d c generationId raw x
  | .evaluate generationId body => EvaluateFinishes d c generationId x body
  | .canary generationId raw => CanaryFinishes d c generationId raw x
  | .promote generationId raw => PromoteFinishes d c generationId raw x
  | .rollback generationId raw => RollbackFinishes d c generationId raw x

/-- A request leaves nothing half done: if it throws, everything watched is as it was; a rollback it stored is
`ROLLED_BACK` if and only if its generation is; and a canary run it stored is of a generation that is in `CANARY`. -/
structure Undone (d : GovernorDeps) (c : RequestContext) (r : GovernorRequest) (x : Governor) : Prop where
  restored : ∀ e y, handle d c r x = .error e y → y.effects = x.effects
  rollbacks : ∀ id record, x.store.rollbacks.get id = none → (after (handle d c r) x).store.rollbacks.get id = some record →
    (record.status = .rolledBack ↔ (after (handle d c r) x).store.statusOf record.generationId = some .rolledBack)
  canaryRuns : ∀ id run, x.store.canaryRuns.get id = none → (after (handle d c r) x).store.canaryRuns.get id = some run →
    (after (handle d c r) x).store.statusOf run.generationId = some .canary

section
variable {d : GovernorDeps} {c : RequestContext} {r : GovernorRequest} {generationId : Text} {raw : JsValue}
  {x y : Governor} {answer : GovernorAnswer}

/-- **Exactly the requests that finish what they begin** leave everything as it was when they throw. -/
theorem leaves_handle_iff : Leaves Governor.effects x.effects (handle d c r) x ↔ Finishes d c x r := by
  cases r with
  | authorize => exact leaves_authorize_iff
  | build => exact leaves_build_iff
  | evaluate => exact leaves_evaluate_iff
  | canary => exact leaves_canary_iff
  | promote => exact leaves_promote_iff
  | rollback => exact leaves_rollback_iff

/-! ## Requests that answer -/

theorem transitioned {s t : ImprovementStore} {tenantId : Text} {version : Nat} {target : GenerationState}
    {hash : Option Text} {moved : ImprovementGeneration}
    (h : s.transitionGeneration tenantId generationId version target hash = .ok (moved, t)) :
    t.statusOf generationId = some target ∧ t.canaryRuns = s.canaryRuns ∧ t.rollbacks = s.rollbacks := by
  obtain ⟨g, hg, -, -, rfl, h⟩ := transitionGeneration_ok.1 h
  obtain ⟨hget, -⟩ := getGeneration_ok.1 hg
  cases Keyed.key_of_get hget
  have hstatus : ∀ u : ImprovementStore, u.generations = s.generations.put (g.moved target hash) →
      u.statusOf g.generationId = some target := by
    intro u hu
    have hself : (s.generations.put (g.moved target hash)).get g.generationId = some (g.moved target hash) :=
      Keyed.get_put_self
    rw [ImprovementStore.statusOf, hu, hself]
    rfl
  split at h
  · obtain ⟨system, -, rfl⟩ := setAcceptedGeneration_ok.1 h
    exact ⟨hstatus _ rfl, rfl, rfl⟩
  · subst h
    exact ⟨hstatus _ rfl, rfl, rfl⟩

/-- A request the Gate does not allow changes nothing. -/
theorem gated_ok {operation : ImprovementOperation} {approvalId : Option Text} {rest : GateDecision → Handler GovernorAnswer}
    (h : gated d c operation generationId approvalId rest x = .ok answer y) :
    y = x ∨ ∃ decision, rest decision x = .ok answer y := by
  obtain ⟨decision, -, h⟩ := ok_reads.1 h
  split at h
  · exact .inr ⟨decision, h⟩
  · obtain ⟨gen, -, h⟩ := ok_reads.1 h
    cases h
    exact .inl rfl

theorem finishCanary_ok {decision : GateDecision} {session : Text} {run : CanaryRun}
    (h : finishCanary d c generationId decision session run x = .ok answer y) :
    y.store.canaryRuns = x.store.canaryRuns ∧ y.store.statusOf generationId = some .canary := by
  obtain ⟨gen, -, h⟩ := ok_reads.1 h
  obtain ⟨-, moved, store, hmoved, h⟩ := ok_write.1 h
  obtain ⟨-, h⟩ := ok_append.1 h
  cases h
  obtain ⟨hstatus, hcanaryRuns, -⟩ := transitioned hmoved
  exact ⟨hcanaryRuns, hstatus⟩

/-- A canary that answers has stored at most a run of its generation, which is in `CANARY`. -/
theorem canary_ok (h : handleCanary d c generationId raw x = .ok answer y) {id : Text} {run : CanaryRun}
    (hnone : x.store.canaryRuns.get id = none) (hrun : y.store.canaryRuns.get id = some run) :
    y.store.statusOf run.generationId = some .canary := by
  rcases gated_ok h with rfl | ⟨decision, h⟩
  · rw [hnone] at hrun
    cases hrun
  · obtain ⟨session, -, h⟩ := ok_demandSome.1 h
    obtain ⟨specId, -, h⟩ := ok_specIdFor.1 h
    obtain ⟨spec, -, h⟩ := ok_reads.1 h
    obtain ⟨-, started, store, hstarted, h⟩ := ok_write.1 h
    obtain ⟨-, rfl, rfl⟩ := startCanaryRun_ok.1 hstarted
    obtain ⟨hcanaryRuns, hstatus⟩ := finishCanary_ok h
    rw [hcanaryRuns] at hrun
    rcases Keyed.get_put_cases hrun with ⟨-, rfl⟩ | ⟨-, hold⟩
    · exact hstatus
    · rw [hnone] at hold
      cases hold

/-- A rollback that answers after its record was stored has left the record as it was and its generation `INDETERMINATE`,
or both `ROLLED_BACK`. -/
theorem finishRollback_ok {body : RollbackBody} {decision : GateDecision} {rollback : RollbackRecord}
    (hrecord : x.store.rollbacks.get rollback.rollbackId = some rollback)
    (h : finishRollback d c generationId body decision rollback x = .ok answer y) :
    (y.store.rollbacks = x.store.rollbacks ∧ y.store.statusOf generationId = some .indeterminate) ∨
      ∃ evidenceRef, y.store.rollbacks = x.store.rollbacks.put { rollback with status := .rolledBack, evidenceRef } ∧
        y.store.statusOf generationId = some .rolledBack := by
  obtain ⟨gen, -, h⟩ := ok_reads.1 (ok_get.1 h)
  split at h
  · obtain ⟨-, h⟩ := ok_append.1 h
    obtain ⟨-, moved, store, hmoved, h⟩ := ok_write.1 h
    cases h
    obtain ⟨hstatus, -, hrollbacks⟩ := transitioned hmoved
    exact .inl ⟨hrollbacks, hstatus⟩
  · obtain ⟨-, done, store, hdone, h⟩ := ok_write.1 h
    obtain ⟨record, hfound, -, -, rfl, rfl⟩ := completeRollback_ok.1 hdone
    cases hrecord.symm.trans hfound
    obtain ⟨-, moved, store', hmoved, h⟩ := ok_write.1 h
    obtain ⟨-, h⟩ := ok_append.1 h
    cases h
    obtain ⟨hstatus, -, hrollbacks⟩ := transitioned hmoved
    exact .inr ⟨_, hrollbacks, hstatus⟩

/-- A rollback that answers has stored at most a record of its generation, and the two agree. -/
theorem rollback_ok (h : handleRollback d c generationId raw x = .ok answer y) {id : Text} {record : RollbackRecord}
    (hnone : x.store.rollbacks.get id = none) (hrecord : y.store.rollbacks.get id = some record) :
    record.status = .rolledBack ↔ y.store.statusOf record.generationId = some .rolledBack := by
  obtain ⟨body, -, h⟩ := ok_demandSome.1 h
  rcases gated_ok h with rfl | ⟨decision, h⟩
  · rw [hnone] at hrecord
    cases hrecord
  · obtain ⟨-, h⟩ := ok_append.1 h
    obtain ⟨-, started, store, hstarted, h⟩ := ok_write.1 h
    obtain ⟨-, -, hnew, rfl, rfl⟩ := initiateRollback_ok.1 hstarted
    rcases finishRollback_ok Keyed.get_put_self h with ⟨hrollbacks, hstatus⟩ | ⟨evidenceRef, hrollbacks, hstatus⟩
    · rw [hrollbacks] at hrecord
      rcases Keyed.get_put_cases hrecord with ⟨-, rfl⟩ | ⟨-, hold⟩
      · simp [hstatus]
      · rw [hnone] at hold
        cases hold
    · rw [hrollbacks] at hrecord
      rcases Keyed.get_put_cases hrecord with ⟨-, rfl⟩ | ⟨hne, hold⟩
      · simp [hstatus]
      · rcases Keyed.get_put_cases hold with ⟨rfl, -⟩ | ⟨-, hold⟩
        · exact absurd rfl hne
        · rw [hnone] at hold
          cases hold

/-! ## Requests of another kind -/

/-- Only a rollback touches the rollbacks. -/
theorem rollbacks_after (hr : ∀ generationId raw, r ≠ .rollback generationId raw) :
    (after (handle d c r) x).store.rollbacks = x.store.rollbacks := by
  refine (uses_handle r).keeps (I := fun s => s.rollbacks = x.store.rollbacks) ?_ rfl
  intro s op t hstep hdoes hs
  rw [← hs]
  cases move_of_run hstep with
  | elsewhere _ _ _ hrollbacks => exact hrollbacks
  | initiates =>
    obtain ⟨generationId, raw, rfl⟩ := hdoes
    exact absurd rfl (hr generationId raw)
  | completes =>
    obtain ⟨generationId, raw, rfl⟩ := hdoes
    exact absurd rfl (hr generationId raw)
  | _ => rfl

/-- Only a canary touches the canary runs. -/
theorem canaryRuns_after (hr : ∀ generationId raw, r ≠ .canary generationId raw) :
    (after (handle d c r) x).store.canaryRuns = x.store.canaryRuns := by
  refine (uses_handle r).keeps (I := fun s => s.canaryRuns = x.store.canaryRuns) ?_ rfl
  intro s op t hstep hdoes hs
  rw [← hs]
  cases move_of_run hstep with
  | elsewhere _ _ hcanaryRuns => exact hcanaryRuns
  | starts =>
    obtain ⟨generationId, raw, rfl⟩ := hdoes
    exact absurd rfl (hr generationId raw)
  | observes hop => cases op <;> cases hop <;> cases hdoes
  | _ => rfl

/-- **Exactly the requests that finish what they begin** leave nothing half done. -/
theorem undone_iff : Undone d c r x ↔ Finishes d c x r := by
  rw [← leaves_handle_iff]
  refine ⟨fun h => h.restored, fun h => ⟨h, ?_, ?_⟩⟩
  · intro id record hnone hrecord
    by_cases hr : ∃ generationId raw, r = .rollback generationId raw
    · obtain ⟨generationId, raw, rfl⟩ := hr
      revert hrecord
      unfold after
      cases hrun : handle d c (.rollback generationId raw) x with
      | ok answer y => exact rollback_ok hrun hnone
      | error e y =>
        intro hrecord
        have hsame : y.store.rollbacks.get = x.store.rollbacks.get := congrArg Effects.rollbacks (h e y hrun)
        rw [hsame, hnone] at hrecord
        cases hrecord
    · rw [rollbacks_after (by simpa using hr), hnone] at hrecord
      cases hrecord
  · intro id run hnone hrun'
    by_cases hr : ∃ generationId raw, r = .canary generationId raw
    · obtain ⟨generationId, raw, rfl⟩ := hr
      revert hrun'
      unfold after
      cases hrun : handle d c (.canary generationId raw) x with
      | ok answer y => exact canary_ok hrun hnone
      | error e y =>
        intro hrun'
        have hsame : y.store.canaryRuns.get = x.store.canaryRuns.get := congrArg Effects.canaryRuns (h e y hrun)
        rw [hsame, hnone] at hrun'
        cases hrun'
    · rw [canaryRuns_after (by simpa using hr), hnone] at hrun'
      cases hrun'

end

/-! ## A rollback that fails -/

def rollbackGeneration (generationId : Text) (status : GenerationState) : ImprovementGeneration where
  generationId := generationId
  tenantId := "t"
  systemId := "parser"
  parentGenerationId := none
  rootGenerationId := generationId
  generationNumber := 0
  candidateVersion := "1"
  status := status
  improvementClass := .class1Code
  specHash := ""
  sourceHashBefore := ""
  sourceHashAfter := none
  createdBy := "u"
  stateVersion := 0

/-- One system, with a promoted generation and an evaluated one, each with its workspace. -/
def sampleGovernor : Governor where
  store := { ImprovementStore.empty with
    systems := Keyed.empty.put ⟨"parser", "t", "parser", some "g0", "u", 0⟩
    generations := (Keyed.empty.put (rollbackGeneration "g0" .promoted)).put (rollbackGeneration "g1" .evaluated) }
  workspaces := ((∅ : Table Text Workspaces).insert (Text.ofAscii "g0") ⟨Text.ofAscii "/srv/g0", none⟩).insert
    (Text.ofAscii "g1") ⟨Text.ofAscii "/srv/g1", none⟩
  specIds := ∅
  activeProfiles := ∅
  disk := fun _ => some ⟨.nil, rfl⟩
  ledger := []

def sampleDeps : GovernorDeps where
  tenantId := "t"
  governorAgentId := "governor"
  sha256 := fun _ => ⟨List.replicate 32 0, rfl⟩
  policyHash := fun _ => ""
  specDigest := fun _ specId => specId
  generationWorkspacePath := fun generationId => generationId

/-- The Gate allows, and nothing outside fails. -/
def sampleContext (newId : Text) : RequestContext where
  authorizes := fun _ _ _ => .ok ⟨"ALLOW", "d"⟩
  commits := fun _ => true
  takes := fun _ => true
  newId := newId
  sentinelSession := some "s"
  surroundings := ⟨[], [], fun _ => none, fun _ => false⟩
  copies := true
  partialCopy := ⟨.nil, rfl⟩
  measures := true
  outcomes := ⟨⟨true, some 0, []⟩, ⟨true, some 0, []⟩, fun _ => ⟨true, some 0, []⟩⟩
  vad := some .accepted
  now := 0

def sampleRollback (targetGenerationId : Text) : JsValue :=
  ⟨.obj [("targetGenerationId", .str targetGenerationId)], rfl⟩

/-- A rollback of a generation that is only evaluated: the record says `ROLLED_BACK`, then the transition is refused. -/
theorem not_undone_of_evaluated :
    ¬ Undone sampleDeps (sampleContext "r") (.rollback "g1" (sampleRollback "g0")) sampleGovernor ∧
      let x := after (handle sampleDeps (sampleContext "r") (.rollback "g1" (sampleRollback "g0"))) sampleGovernor
      x.store.statusOf "g1" = some .evaluated ∧ (x.store.rollbacks.get "r").map (fun r => r.status) = some .rolledBack := by
  have hstatus : (after (handle sampleDeps (sampleContext "r") (.rollback "g1" (sampleRollback "g0"))) sampleGovernor).store.statusOf
      "g1" = some .evaluated := by decide +kernel
  have hrecord : ((after (handle sampleDeps (sampleContext "r") (.rollback "g1" (sampleRollback "g0")))
      sampleGovernor).store.rollbacks.get "r").map (fun r => (r.status, r.generationId)) = some (RollbackStatus.rolledBack, Text.ofAscii "g1") := by
    decide +kernel
  obtain ⟨record, hget, heq⟩ := Option.map_eq_some_iff.1 hrecord
  obtain ⟨hrolled, hgeneration⟩ := Prod.mk.inj heq
  refine ⟨fun h => ?_, hstatus, ?_⟩
  · have hagree := (h.rollbacks "r" record rfl hget).1 hrolled
    rw [hgeneration, hstatus] at hagree
    cases hagree
  · rw [hget, Option.map_some, hrolled]

end Tna.Improvement
