import Tna.Auditor.Engine
import Tna.Lib.Table
import Tna.Lib.Transition

/-!
# Runs of an assessment

Any number of calls of `runAssessment` and `replayAssessment`, by any number of runtimes on
one store, transaction by transaction and statement by statement. A call reads the
assessment when it claims its run, and whatever it writes after that it writes without
looking: a runtime that is opened meanwhile ends the run for it.
-/

namespace Tna.Auditor

open Tna.Js Tna.Ledger Tna.Lib

/-- A claimed run, with the assessment the call goes on with and the manifest of its runtime. -/
structure RunClaim where
  key : RunKey
  assessment : AssessmentRow
  manifest : ControlImplementationManifest

/-- A replay that has read what it needs and has no run yet. -/
structure PendingReplay where
  key : AssessmentKey
  assessment : AssessmentRow
  source : Nat
  bundle : EvidenceBundle
  manifest : ControlImplementationManifest

inductive AuditorPc where
  | replaying (r : PendingReplay)
  /-- Awaiting the evidence. -/
  | collecting (c : RunClaim)
  /-- Between the two statements of `transitionRun`. -/
  | marking (c : RunClaim) (bundle : EvidenceBundle)
  | evaluating (c : RunClaim) (bundle : EvidenceBundle)
  /-- It has returned, or it is gone. -/
  | over

def AuditorPc.claim? : AuditorPc → Option RunClaim
  | .collecting c => some c
  | .marking c _ => some c
  | .evaluating c _ => some c
  | _ => none

/-- The status a call in progress has its run in. -/
def AuditorPc.status : AuditorPc → AssessmentStatus
  | .collecting _ => .collectingEvidence
  | _ => .evaluating

structure AuditorSystem where
  store : AuditorStore
  calls : Table Nat AuditorPc
  /-- The runtimes between the two statements of their recovery. -/
  openers : Nat

inductive AuditorLabel where
  | creates (spec : AssessmentSpecInput) (assessmentId createdBy now : Text)
  | claims (i : Nat) (key : AssessmentKey) (openedAt : Int) (now : Text)
  | collects (i : Nat) (bundle : EvidenceBundle)
  | marks (i : Nat) (now : Text)
  | collectFails (i : Nat) (now : Text)
  | finalizes (i : Nat) (now : Int) (findingIds : Nat → Text) (completedAt : Text)
  | fails (i : Nat) (now : Text)
  | loads (i : Nat) (key : AssessmentKey) (runNumber : Option Nat) (openedAt : Int)
  | claimsReplay (i : Nat) (now : Text)
  /-- The process of a call stopped, or a statement of it failed. -/
  | loses (i : Nat)
  | opens (now : Text)
  | recovers (now : Text)
  | quits

/-- What a replay reads before it claims its run. -/
def AuditorStore.loadReplay (s : AuditorStore) (key : AssessmentKey) (runNumber : Option Nat)
    (manifest : ControlImplementationManifest) : Option PendingReplay := do
  let assessment ← s.assessment key
  let source := runNumber.getD assessment.latestRunNumber
  if source < 1 then none
  else
    let run ← s.run (key, source)
    if run.status = .completed ∨ run.status = .failed ∨ run.status = .indeterminate then
      run.evidenceBundle.map fun bundle => { key, assessment, source, bundle, manifest }
    else none

/-- A call goes on, on the store it leaves. -/
def AuditorSystem.goto (w : AuditorSystem) (store : AuditorStore) (i : Nat) (pc : AuditorPc) : AuditorSystem :=
  { w with
    store
    calls := w.calls.insert i pc }

/-- One step. -/
def AuditorSystem.next (p : AuditorParts) (w : AuditorSystem) : AuditorLabel → Option AuditorSystem
  | .creates spec assessmentId createdBy now =>
    (w.store.createAssessment p.sha256 spec assessmentId createdBy now).map fun store => { w with store }
  | .claims i key openedAt now =>
    if (w.calls.lookup i).isSome then none
    else (w.store.claimRun key now).map fun claimed =>
      w.goto claimed.1 i
        (.collecting ⟨(key, claimed.2.latestRunNumber + 1), claimed.2, buildAcceptedBaselineManifest p.sha256 openedAt⟩)
  | .collects i bundle =>
    match w.calls.lookup i with
    | some (.collecting c) => some (w.goto (w.store.transitionRunRow c.key .evaluating) i (.marking c bundle))
    | _ => none
  | .marks i now =>
    match w.calls.lookup i with
    | some (.marking c bundle) => some (w.goto (w.store.transitionAssessmentRow c.key.1 .evaluating now) i (.evaluating c bundle))
    | _ => none
  | .collectFails i now =>
    match w.calls.lookup i with
    | some (.collecting c) => some (w.goto (w.store.finalizeAsIncomplete c.key .indeterminate now) i .over)
    | _ => none
  | .finalizes i now findingIds completedAt =>
    match w.calls.lookup i with
    | some (.evaluating c bundle) =>
      match evaluateRun p c.assessment c.manifest bundle now findingIds with
      | .ok e => (w.store.finalize c.key bundle e completedAt).map fun store => w.goto store i .over
      | .error _ => none
    | _ => none
  | .fails i now =>
    match w.calls.lookup i with
    | some (.evaluating c _) => some (w.goto (w.store.finalizeAsIncomplete c.key .failed now) i .over)
    | _ => none
  | .loads i key runNumber openedAt =>
    if (w.calls.lookup i).isSome then none
    else (w.store.loadReplay key runNumber (buildAcceptedBaselineManifest p.sha256 openedAt)).map fun r =>
      w.goto w.store i (.replaying r)
  | .claimsReplay i now =>
    match w.calls.lookup i with
    | some (.replaying r) => (w.store.claimReplayRun r.key r.source now).map fun claimed =>
        w.goto claimed.1 i (.evaluating ⟨(r.key, claimed.2.latestRunNumber + 1), r.assessment, r.manifest⟩ r.bundle)
    | _ => none
  | .loses i => if (w.calls.lookup i).isSome then some (w.goto w.store i .over) else none
  | .opens now => some { w with
      store := w.store.recoverAssessments now
      openers := w.openers + 1 }
  | .recovers now =>
    if w.openers = 0 then none
    else some { w with
      store := w.store.recoverRuns now
      openers := w.openers - 1 }
  | .quits =>
    if w.openers = 0 then none
    else some { w with openers := w.openers - 1 }

def AuditorSystem.initial : AuditorSystem := ⟨.empty, ∅, 0⟩

abbrev AuditorStep (p : AuditorParts) (w : AuditorSystem) (l : AuditorLabel) (w' : AuditorSystem) : Prop := w.next p l = some w'

/-! ## Rows -/

namespace AuditorStore

variable {s : AuditorStore} {key key' : AssessmentKey} {run run' : RunKey}

variable {row : AssessmentRow} {t : AuditorStore} {f : AssessmentRow → AssessmentRow} {g : RunRow → RunRow}

theorem key_of_assessment (h : s.assessment key = some row) : row.key = key := Rows.key_of_row h

theorem key_of_run {row : RunRow} (h : s.run run = some row) : row.key = run := Rows.key_of_row h

theorem assessment_updateAssessment {change : AssessmentRow → AssessmentRow} (hkey : ∀ r, (change r).key = r.key) :
    (s.updateAssessment key change).assessment key' = (s.assessment key').map fun r => if key' = key then change r else r := by
  refine (Rows.row_update hkey).trans (Option.map_congr fun r hr => ?_)
  have hr' : r.key = key' := key_of_assessment hr
  simp only [hr', decide_eq_true_eq]

theorem run_updateRun {change : RunRow → RunRow} (hkey : ∀ r, (change r).key = r.key) :
    (s.updateRun run change).run run' = (s.run run').map fun r => if run' = run then change r else r := by
  refine (Rows.row_update hkey).trans (Option.map_congr fun r hr => ?_)
  have hr' : r.key = run' := key_of_run hr
  simp only [hr', decide_eq_true_eq]

theorem assessment_recoverAssessments (now : Text) : (s.recoverAssessments now).assessment key = (s.assessment key).map fun r =>
    if r.status.inProgress then { r with status := .indeterminate, updatedAt := now, stateVersion := r.stateVersion + 1 } else r :=
  Rows.row_update fun _ => rfl

theorem run_recoverRuns (now : Text) : (s.recoverRuns now).run run = (s.run run).map fun r =>
    if r.status.inProgress then { r with status := .indeterminate, completedAt := some now } else r :=
  Rows.row_update fun _ => rfl

/-- What a claim of a run does. -/
structure Claimed (s t : AuditorStore) (key : AssessmentKey) (status : AssessmentStatus) (row : AssessmentRow) : Prop where
  read : s.assessment key = some row
  free : row.status.inProgress = false
  fresh : s.run (key, row.latestRunNumber + 1) = none
  assessment : ∃ row', t.assessment key = some row' ∧ row'.status = status ∧ row'.latestRunNumber = row.latestRunNumber + 1 ∧
    row'.conclusion = row.conclusion ∧ row'.spec = row.spec ∧ row'.specHash = row.specHash
  others : ∀ key', key' ≠ key → t.assessment key' = s.assessment key'
  run : ∃ run, t.run (key, row.latestRunNumber + 1) = some run ∧ run.status = status ∧ run.conclusion = none
  runs : ∀ run, run ≠ (key, row.latestRunNumber + 1) → t.run run = s.run run
  results : t.controlResults = s.controlResults
  findings : t.findings = s.findings

theorem claimed_key (n : Nat) (status : AssessmentStatus) (now : Text) (r : AssessmentRow) : (r.claimed n status now).key = r.key :=
  rfl

theorem claim_ok {status : AssessmentStatus} {replayOf : Option Nat} {now : Text}
    (h : s.claim key status replayOf now = some (t, row)) : Claimed s t key status row := by
  unfold claim at h
  obtain ⟨read, hread, h⟩ := Option.bind_eq_some_iff.1 h
  simp only at h
  split_ifs at h with hfree hone hfresh
  cases h
  have hkey := key_of_assessment hread
  have hselected : (row.key = key && row.stateVersion = row.stateVersion) = true := by simp [hkey]
  have hnone : s.run (key, row.latestRunNumber + 1) = none := Option.not_isSome_iff_eq_none.1 hfresh
  constructor
  · exact hread
  · simpa using hfree
  · exact hnone
  · have hrow : Rows.row AssessmentRow.key s.assessments key = some row := hread
    refine ⟨row.claimed (row.latestRunNumber + 1) status now, (Rows.row_update (claimed_key _ _ _)).trans ?_, rfl, rfl, rfl, rfl, rfl⟩
    rw [hrow, Option.map_some, if_pos hselected]
  · intro key' hne
    refine (Rows.row_update (claimed_key _ _ _)).trans ?_
    refine (Option.map_congr fun r hr => ?_).trans Option.map_id'
    have hr' : r.key = key' := key_of_assessment hr
    simp [hr', hne]
  · have hrun : Rows.row RunRow.key s.runs (key, row.latestRunNumber + 1) = none := hnone
    refine ⟨newRun key (row.latestRunNumber + 1) status replayOf row.spec.evidenceCutoffAt now, (Rows.row_append _).trans ?_, rfl, rfl⟩
    rw [hrun, Option.none_or]
    exact if_pos rfl
  · intro run hne
    refine (Rows.row_append _).trans ?_
    have hkey' : (newRun key (row.latestRunNumber + 1) status replayOf row.spec.evidenceCutoffAt now).key ≠ run := hne.symm
    rw [if_neg hkey', Option.or_none]
    rfl
  · rfl
  · rfl

theorem insertFindings_ok {findings : List AuditFinding} (h : insertFindings run findings s = some t) :
    ∃ rows : List FindingRow, (∀ r ∈ rows, r.run = run) ∧ t = { s with findings := s.findings ++ rows } := by
  induction findings generalizing s with
  | nil =>
    cases h
    exact ⟨[], List.forall_mem_nil _, by rw [List.append_nil]⟩
  | cons finding rest ih =>
    obtain ⟨u, hfirst, hrest⟩ := Option.bind_eq_some_iff.1 h
    unfold insertFinding at hfirst
    split_ifs at hfirst
    cases hfirst
    obtain ⟨rows, hrows, rfl⟩ := ih hrest
    refine ⟨⟨run, finding⟩ :: rows, ?_, ?_⟩
    · rw [List.forall_mem_cons]
      exact ⟨rfl, hrows⟩
    · rw [List.append_assoc, List.singleton_append]

variable (s run) in
theorem putResults_eq (results : List ControlResult) : ∃ controlResults, s.putResults run results = { s with controlResults } ∧
    ∀ run', run' ≠ run → (controlResults.filter fun r => r.run = run') = s.controlResults.filter fun r => r.run = run' := by
  induction results generalizing s with
  | nil => exact ⟨s.controlResults, rfl, fun _ _ => rfl⟩
  | cons result rest ih =>
    obtain ⟨controlResults, heq, hothers⟩ := ih (s.putResult run result)
    refine ⟨controlResults, heq, fun run' hne => (hothers run' hne).trans ?_⟩
    rw [putResult, List.filter_append, List.filter_filter]
    have hnew : ([⟨run, result⟩] : List ControlResultRow).filter (fun r => r.run = run') = [] := by simp [hne.symm]
    rw [hnew, List.append_nil]
    refine List.filter_congr fun r _ => ?_
    by_cases hr : r.run = run'
    · simp [hr, hne]
    · simp [hr]

/-- What a write of a call does: it changes its own run and the assessment of that, and nothing of other runs. -/
structure Wrote (s t : AuditorStore) (run : RunKey) (f : AssessmentRow → AssessmentRow) (g : RunRow → RunRow) : Prop where
  assessment : t.assessment run.1 = (s.assessment run.1).map f
  assessments : ∀ key, key ≠ run.1 → t.assessment key = s.assessment key
  own : t.run run = (s.run run).map g
  runs : ∀ run', run' ≠ run → t.run run' = s.run run'
  results : ∀ run', run' ≠ run → t.resultsOf run' = s.resultsOf run'
  findings : ∀ run', run' ≠ run → t.findingsOf run' = s.findingsOf run'

theorem Wrote.refl (s : AuditorStore) (run : RunKey) : Wrote s s run id id :=
  ⟨Option.map_id'.symm, fun _ _ => rfl, Option.map_id'.symm, fun _ _ => rfl, fun _ _ => rfl, fun _ _ => rfl⟩

theorem Wrote.updateRun (h : Wrote s t run f g) (change : RunRow → RunRow) (hkey : ∀ r, (change r).key = r.key) :
    Wrote s (t.updateRun run change) run f (change ∘ g) where
  assessment := h.assessment
  assessments := h.assessments
  own := by
    rw [run_updateRun hkey, h.own, Option.map_map]
    simp only [if_true]
  runs run' hne := by
    rw [run_updateRun hkey, ← h.runs run' hne]
    simp only [hne, if_false, Option.map_id']
  results := h.results
  findings := h.findings

theorem Wrote.updateAssessment (h : Wrote s t run f g) (change : AssessmentRow → AssessmentRow)
    (hkey : ∀ r, (change r).key = r.key) :
    Wrote s (t.updateAssessment run.1 change) run (change ∘ f) g where
  assessment := by
    rw [assessment_updateAssessment hkey, h.assessment, Option.map_map]
    simp only [if_true]
  assessments key hne := by
    rw [assessment_updateAssessment hkey, ← h.assessments key hne]
    simp only [hne, if_false, Option.map_id']
  own := h.own
  runs := h.runs
  results := h.results
  findings := h.findings

theorem wrote_transitionRunRow (s : AuditorStore) (run : RunKey) (status : AssessmentStatus) :
    Wrote s (s.transitionRunRow run status) run id fun r => { r with status } :=
  (Wrote.refl s run).updateRun (fun r => { r with status }) fun _ => rfl

theorem wrote_transitionAssessmentRow (s : AuditorStore) (run : RunKey) (status : AssessmentStatus) (now : Text) :
    Wrote s (s.transitionAssessmentRow run.1 status now) run (fun r => { r with status, updatedAt := now }) id :=
  (Wrote.refl s run).updateAssessment (fun r => { r with status, updatedAt := now }) fun _ => rfl

theorem wrote_finalizeAsIncomplete (s : AuditorStore) (run : RunKey) (status : AssessmentStatus) (now : Text) :
    Wrote s (s.finalizeAsIncomplete run status now) run (fun r => { r with status, updatedAt := now })
      fun r => { r with status, completedAt := some now } :=
  ((Wrote.refl s run).updateRun (fun r => { r with status, completedAt := some now }) fun _ => rfl).updateAssessment
    (fun r => { r with status, updatedAt := now }) fun _ => rfl

theorem Wrote.of_finalize {bundle : EvidenceBundle} {e : RunEvaluation} {completedAt : Text}
    (h : s.finalize run bundle e completedAt = some t) :
    Wrote s t run (fun r => { r with
        status := .completed
        updatedAt := completedAt
        conclusion := some e.conclusion
        controlCatalogVersion := some Auditor.controlCatalogVersion }) fun r => { r with
      status := .completed
      completedAt := some completedAt
      conclusion := some e.conclusion
      evidenceBundle := some bundle } := by
  obtain ⟨u, hfindings, rfl⟩ := Option.map_eq_some_iff.1 h
  obtain ⟨controlResults, hresults, hothers⟩ := putResults_eq s run e.results
  obtain ⟨rows, hrows, rfl⟩ := insertFindings_ok hfindings
  rw [hresults] at hfindings ⊢
  have hinserted : Wrote s ⟨s.assessments, s.runs, controlResults, s.findings ++ rows⟩ run id id := by
    refine ⟨Option.map_id'.symm, fun _ _ => rfl, Option.map_id'.symm, fun _ _ => rfl, fun run' hne => ?_, fun run' hne => ?_⟩
    · exact congrArg (List.map ControlResultRow.result) (hothers run' hne)
    · have hnew : rows.filter (fun r => r.run = run') = [] := by
        rw [List.filter_eq_nil_iff]
        intro r hr
        rw [hrows r hr]
        simpa using hne.symm
      rw [findingsOf, List.filter_append, hnew, List.append_nil]
      rfl
  exact (hinserted.updateRun _ (by intro r; rfl)).updateAssessment _ (by intro r; rfl)

end AuditorStore

end Tna.Auditor
