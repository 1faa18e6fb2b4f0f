import Tna.Improvement.Accepted

/-!
# From a build to a promotion

Between its build and its promotion a generation has a candidate workspace, the hash of its
content recorded when it was built, and the decisions recorded when it was evaluated. As
long as nobody else writes to the workspace, the handlers of the governor keep the three
together.
-/

namespace Tna.Improvement

open Tna.Lib Tna.Js

/-! ## What is kept together -/

/-- No decision is about the generation. -/
def Undecided (decisions : List PromotionDecision) (generationId : Text) : Prop :=
  ∀ decision ∈ decisions, decision.generationId ≠ generationId

/-- Decisions were made about the generation, all on what was recorded when it was built. -/
def Decided (decisions : List PromotionDecision) (row : ImprovementGeneration) : Prop :=
  (∃ decision ∈ decisions, decision.generationId = row.generationId ∧ decision.tenantId = row.tenantId) ∧
    ∀ decision ∈ decisions, decision.generationId = row.generationId → row.sourceHashAfter = some decision.sourceHash

/-- A generation that is built and may still be promoted. -/
def GenerationState.awaits (status : GenerationState) : Prop := 3 ≤ status.rank ∧ status.rank ≤ 7

instance (status : GenerationState) : Decidable status.awaits := by
  unfold GenerationState.awaits
  infer_instance

/-- A generation that may still be promoted, or that only now was. -/
def Needs (old : Text → Prop) (row : ImprovementGeneration) : Prop :=
  row.status.awaits ∨ row.status = .promoted ∧ ¬ old row.generationId

/-- The workspace of a generation holds what was recorded when it was built. -/
def ContentKept (d : GovernorDeps) (disk : Text → Option Tree) (row : ImprovementGeneration) : Prop :=
  ∃ tree, disk (d.generationWorkspacePath row.generationId) = some tree ∧
    row.sourceHashAfter = some (hashDirectoryTree d.sha256 tree)

/-- What is kept of one generation. `pending` are the generations with an evaluation under way that may take them to
`EVALUATED`, and `old` those whose promotion lies behind. -/
structure Kept (d : GovernorDeps) (pending old : Text → Prop) (decisions : List PromotionDecision)
    (disk : Text → Option Tree) (row : ImprovementGeneration) : Prop where
  content : Needs old row → ContentKept d disk row
  undecided : row.status.rank ≤ 3 → Undecided decisions row.generationId ∧ ¬ pending row.generationId
  measured : row.status = .evaluating → pending row.generationId → Decided decisions row
  decided : Needs old row → 5 ≤ row.status.rank → Decided decisions row

/-- What is kept of the governor. -/
structure Custody (d : GovernorDeps) (pending old : Text → Prop) (generations : Keyed ImprovementGeneration.generationId)
    (decisions : List PromotionDecision) (workspaces : Table Text Workspaces) (disk : Text → Option Tree) : Prop where
  tracked : ∀ id w path, workspaces.lookup id = some w → w.candidateWorkspacePath = some path →
    path = d.generationWorkspacePath id
  kept : ∀ id row, generations.get id = some row → Kept d pending old decisions disk row
  unknown : ∀ id, generations.get id = none → Undecided decisions id ∧ ¬ pending id

def Governor.Custody (d : GovernorDeps) (pending old : Text → Prop) (x : Governor) : Prop :=
  Improvement.Custody d pending old x.store.generations x.store.decisions x.workspaces x.disk

section
variable {d : GovernorDeps} {c : RequestContext} {pending old : Text → Prop} {decisions : List PromotionDecision}
  {disk : Text → Option Tree} {row : ImprovementGeneration} {generationId : Text} {x : Governor}

/-! ## One generation -/

variable {source target : GenerationState} {t : ImprovementStore} {version : Nat} {vad : VadState} {path parentPath : Text}
  {gen : ImprovementGeneration} {raw : JsValue} {decision : PromotionDecision}

theorem awaits_of_canTransition (hcan : canTransition source target = true) (htarget : target.awaits ∨ target = .promoted)
    (hbuilt : target ≠ .built) : source.awaits := by
  revert hcan htarget hbuilt
  cases source <;> cases target <;> decide

theorem rank_of_canTransition (hcan : canTransition source target = true) (hlow : 5 < target.rank) (hhigh : target.rank ≤ 8) :
    5 ≤ source.rank := by
  revert hcan hlow hhigh
  cases source <;> cases target <;> decide

theorem rank_of_needs (h : Needs old row) : 3 ≤ row.status.rank ∧ row.status.rank ≤ 8 := by
  rcases h with ⟨hlow, hhigh⟩ | ⟨h, -⟩
  · exact ⟨hlow, by omega⟩
  · rw [h]
    decide

/-- A generation that moves on keeps what it has; to come to `EVALUATED` it has to have been decided on. -/
theorem Kept.moved (h : Kept d pending old decisions disk row) (hcan : canTransition row.status target = true)
    (hbuilt : target ≠ .built) (hready : target = .evaluated → Decided decisions row) :
    Kept d pending old decisions disk (row.moved target none) := by
  have hrank := rank_lt_of_canTransition hcan
  have hneeds : Needs old (row.moved target none) → Needs old row := fun hmoved =>
    .inl (awaits_of_canTransition hcan (hmoved.imp_right fun hpromoted => hpromoted.1) hbuilt)
  refine ⟨fun hmoved => h.content (hneeds hmoved), fun hlow => ?_, fun htarget hpending => ?_, fun hmoved hlow => ?_⟩
  · have hlow : target.rank ≤ 3 := hlow
    exact h.undecided (by omega)
  · have htarget : target = .evaluating := htarget
    rw [htarget] at hrank
    exact absurd hpending (h.undecided (Nat.le_of_lt_succ hrank)).2
  · by_cases htarget : target = .evaluated
    · exact hready htarget
    · have hlow : 5 ≤ target.rank := hlow
      have hne : target.rank ≠ 5 := fun hfive => htarget (by revert hfive; cases target <;> decide)
      exact h.decided (hneeds hmoved) (rank_of_canTransition hcan (by omega) (rank_of_needs hmoved).2)

/-- Another disk keeps what it has to hold. -/
theorem Kept.on_disk {disk' : Text → Option Tree} (h : Kept d pending old decisions disk row)
    (hsame : Needs old row → disk' (d.generationWorkspacePath row.generationId) =
      disk (d.generationWorkspacePath row.generationId)) : Kept d pending old decisions disk' row := by
  refine ⟨fun hneeds => ?_, h.undecided, h.measured, h.decided⟩
  obtain ⟨tree, htree, hhash⟩ := h.content hneeds
  exact ⟨tree, (hsame hneeds).trans htree, hhash⟩

/-! ## The governor -/

theorem custody_of_transition {hash : Option Text} {moved : ImprovementGeneration} (hx : x.Custody d pending old)
    (h : x.store.transitionGeneration d.tenantId generationId version target hash = .ok (moved, t))
    (hmoved : ∀ row, x.store.getGeneration d.tenantId generationId = .ok row → canTransition row.status target = true →
      Kept d pending old x.store.decisions x.disk row → Kept d pending old x.store.decisions x.disk (row.moved target hash)) :
    Governor.Custody d pending old { x with store := t } := by
  obtain ⟨row, hrow, -, hcan, rfl, ht⟩ := transitionGeneration_ok.1 h
  obtain ⟨hget, -⟩ := getGeneration_ok.1 hrow
  have hput : Custody d pending old (x.store.generations.put (row.moved target hash)) x.store.decisions x.workspaces x.disk := by
    refine ⟨hx.tracked, fun id row' hrow' => ?_, fun id hnone => ?_⟩
    · rcases Keyed.get_put_cases hrow' with ⟨-, rfl⟩ | ⟨-, hold⟩
      · exact hmoved row hrow hcan (hx.kept _ _ hget)
      · exact hx.kept id row' hold
    · refine hx.unknown id ?_
      rw [Keyed.get_put] at hnone
      split at hnone
      · cases hnone
      · exact hnone
  split at ht
  · obtain ⟨system, -, rfl⟩ := setAcceptedGeneration_ok.1 ht
    exact hput
  · subst ht
    exact hput

/-- A transition that records no hash and does not lead to `EVALUATED` keeps custody. -/
theorem custody_of_move {moved : ImprovementGeneration} (hx : x.Custody d pending old)
    (h : x.store.transitionGeneration d.tenantId generationId version target none = .ok (moved, t)) (hbuilt : target ≠ .built)
    (hevaluated : target ≠ .evaluated) : Governor.Custody d pending old { x with store := t } :=
  custody_of_transition hx h fun _ _ hcan hkept => hkept.moved hcan hbuilt fun htarget => absurd htarget hevaluated

/-! ## Handlers that only move a generation on -/

section
variable {α β : Type} {P : Governor → Prop} {Q : β → Governor → Prop} {raw : JsValue}

theorem ends_specIdFor {f : Text → Handler β} (hx : P x) (h : ∀ specId, Ends (f specId) x Q P) :
    Ends (specIdFor generationId >>= f) x Q P := by
  show Ends (demandSome (x.specIds.lookup generationId) _ >>= f) x Q P
  exact ends_demandSome hx fun specId _ => h specId

variable {f : Unit → Handler β}

theorem after_blockPromotion {message : Option Text} (hx : ∀ ledger, P { x with ledger }) (h : P (after (f ()) x)) :
    P (after (blockPromotion c generationId message >>= f) x) := by
  cases message with
  | none => exact h
  | some message =>
    rw [blockPromotion, bind_assoc]
    exact after_append (hx _) fun _ => hx _

theorem after_checkParent {gen : ImprovementGeneration} (hx : ∀ ledger, P { x with ledger }) (h : P (after (f ()) x)) :
    P (after (checkParent d c generationId gen >>= f) x) := by
  unfold checkParent
  split
  · exact h
  · rw [bind_assoc]
    exact after_reads (hx _) fun system _ => after_blockPromotion hx h

theorem custody_after_authorize (hx : x.Custody d pending old) :
    (after (handleAuthorize d c generationId) x).Custody d pending old := by
  let P : Governor → Prop := Governor.Custody d pending old
  show P _
  refine after_gated hx fun _ decision => ?_
  refine after_reads hx fun gen _ => ?_
  refine after_write hx fun _ moved t hmoved => ?_
  have hdone := custody_of_move hx hmoved (by decide) (by decide)
  exact after_append hdone fun _ => hdone

theorem custody_after_canary (hx : x.Custody d pending old) :
    (after (handleCanary d c generationId raw) x).Custody d pending old := by
  let P : Governor → Prop := Governor.Custody d pending old
  show P _
  refine after_gated hx fun _ decision => ?_
  refine after_demandSome hx fun session _ => ?_
  refine ends_after.1 (ends_specIdFor hx fun specId => ends_after.2 ?_)
  refine after_reads hx fun spec _ => ?_
  refine after_write hx fun _ run store hstarted => ?_
  obtain ⟨-, rfl, rfl⟩ := startCanaryRun_ok.1 hstarted
  have hstored : ∀ canaryRuns, P { x with store := { x.store with canaryRuns } } := fun _ => hx
  refine after_reads (hstored _) fun gen _ => ?_
  refine after_write (hstored _) fun _ moved t hmoved => ?_
  have hdone := custody_of_move (hstored _) hmoved (by decide) (by decide)
  exact after_append hdone fun _ => hdone

theorem custody_after_promote (hx : x.Custody d pending old) :
    (after (handlePromote d c generationId raw) x).Custody d pending old := by
  let P : Governor → Prop := Governor.Custody d pending old
  show P _
  refine after_gated hx fun _ decision => ?_
  refine after_reads hx fun gen _ => ?_
  refine after_blockPromotion (fun _ => hx) ?_
  refine after_checkParent (fun _ => hx) ?_
  refine after_write hx fun _ moved t hmoved => ?_
  have hdone := custody_of_move hx hmoved (by decide) (by decide)
  exact after_append hdone fun _ => hdone

theorem custody_after_rollback (hx : x.Custody d pending old) :
    (after (handleRollback d c generationId raw) x).Custody d pending old := by
  let P : Governor → Prop := Governor.Custody d pending old
  show P _
  refine after_demandSome hx fun body _ => ?_
  refine after_gated hx fun _ decision => ?_
  refine after_append hx fun _ => ?_
  refine after_write hx fun _ record store hinitiated => ?_
  obtain ⟨-, -, -, rfl, rfl⟩ := initiateRollback_ok.1 hinitiated
  have hstarted : ∀ rollbacks ledger, P { x with store := { x.store with rollbacks }, ledger } := fun _ _ => hx
  refine after_reads (hstarted _ _) fun gen _ => ?_
  split
  · refine after_append (hstarted _ _) fun _ => ?_
    refine after_write (hstarted _ _) fun _ moved t hmoved => ?_
    exact custody_of_move (hstarted _ _) hmoved (by decide) (by decide)
  · refine after_write (hstarted _ _) fun _ completed store hcompleted => ?_
    obtain ⟨_, -, -, -, -, rfl⟩ := completeRollback_ok.1 hcompleted
    refine after_write (hstarted _ _) fun _ moved t hmoved => ?_
    have hdone := custody_of_move (hstarted _ _) hmoved (by decide) (by decide)
    exact after_append hdone fun _ => hdone

end

/-! ## The end of an evaluation -/

theorem eq_evaluating_of_canTransition (h : canTransition source .evaluated = true) : source = .evaluating := by
  revert h
  cases source <;> decide

/-- Only an evaluation that came out well itself takes a generation to `EVALUATED`. -/
theorem targetOf_of_finalStatus {status : PromotionStatus} (h : targetOf (finalStatus vad status) = .evaluated) :
    targetOf status = .evaluated := by
  revert h
  cases vad <;> cases status <;> decide

theorem custody_after_finishEvaluation {evaluation : EvaluationResult} (hx : x.Custody d pending old)
    (hpending : targetOf evaluation.status = .evaluated → pending generationId) :
    (after (finishEvaluation d c generationId vad evaluation) x).Custody d pending old := by
  let P : Governor → Prop := Governor.Custody d pending old
  show P _
  have hends : ∀ (resolved : ImprovementGeneration) (y : Governor), P y → P (after (do
      if targetOf (finalStatus vad evaluation.status) = .rejected then
        appendImprovementEvent (c.takes 3) "IMPROVEMENT_REJECTED" generationId
        return GovernorAnswer.evaluated vad (finalStatus vad evaluation.status) evaluation.reason resolved
      else return GovernorAnswer.evaluated vad (finalStatus vad evaluation.status) evaluation.reason resolved) y) := by
    intro resolved y hy
    split
    · exact after_append hy fun _ => hy
    · exact hy
  refine after_append hx fun _ => ?_
  refine after_append hx fun _ => ?_
  refine after_reads hx fun gen _ => ?_
  unfold resolveGeneration
  split
  · exact hends gen _ hx
  · refine after_write hx fun _ moved t hmoved => ?_
    refine hends moved _ (custody_of_transition hx hmoved fun row hrow hcan hkept => hkept.moved hcan ?_ fun htarget => ?_)
    · generalize finalStatus vad evaluation.status = status
      cases status <;> decide
    · rw [htarget] at hcan
      have hid := Keyed.key_of_get (getGeneration_ok.1 hrow).1
      exact hkept.measured (eq_evaluating_of_canTransition hcan) (hid ▸ hpending (targetOf_of_finalStatus htarget))

/-! ## The build -/

/-- No generation that still needs its workspace has it at the path. -/
def Free (d : GovernorDeps) (old : Text → Prop) (path : Text) (x : Governor) : Prop :=
  ∀ id row, x.store.generations.get id = some row → Needs old row → d.generationWorkspacePath row.generationId ≠ path

/-- Where there is nothing, no generation has its workspace. -/
theorem free_of_none (hx : x.Custody d pending old) (hnone : x.disk path = none) : Free d old path x := by
  intro id row hrow hneeds hpath
  obtain ⟨tree, htree, -⟩ := (hx.kept id row hrow).content hneeds
  rw [hpath, hnone] at htree
  cases htree

theorem custody_onDisk {t : Tree} (hx : x.Custody d pending old) (hfree : Free d old path x) :
    (x.onDisk path t).Custody d pending old :=
  ⟨hx.tracked, fun id row hrow => (hx.kept id row hrow).on_disk fun hneeds => if_neg (hfree id row hrow hneeds), hx.unknown⟩

theorem ends_createIsolatedWorkspace (hx : x.Custody d pending old) :
    Ends (createIsolatedWorkspace c generationId path parentPath) x
      (fun _ y => y.Custody d pending old ∧ Free d old path y) (Governor.Custody d pending old) := by
  unfold Ends createIsolatedWorkspace
  cases hdisk : x.disk path with
  | some t => exact hx
  | none =>
    have hfree := free_of_none hx hdisk
    cases if c.copies then (x.disk parentPath).bind Tree.copy else none with
    | none => exact custody_onDisk hx hfree
    | some t => exact ⟨custody_onDisk hx hfree, hfree⟩

theorem ends_writeCandidateFiles {files : List (Text × JsValue)} (hx : x.Custody d pending old) (hfree : Free d old path x) :
    Ends (writeCandidateFiles c path files) x (fun _ y => y.Custody d pending old)
      (Governor.Custody d pending old) := by
  induction files generalizing x with
  | nil => exact hx
  | cons f rest ih =>
    unfold Ends writeCandidateFiles
    cases x.disk path with
    | none => exact hx
    | some t =>
      cases hwrite : c.surroundings.writeCandidateFile t f with
      | error e =>
        simp only [hwrite]
        exact hx
      | ok t' =>
        simp only [hwrite]
        exact ih (custody_onDisk hx hfree) hfree

theorem ends_hashOnDisk {β : Type} {Q : β → Governor → Prop} {E : Governor → Prop} {f : Text → Handler β} (hx : E x)
    (h : ∀ tree, x.disk path = some tree → Ends (f (hashDirectoryTree d.sha256 tree)) x Q E) :
    Ends (hashOnDisk d c path >>= f) x Q E := by
  refine ends_bind.2 ?_
  unfold Ends hashOnDisk
  cases hdisk : x.disk path with
  | none =>
    rw [ite_self]
    exact hx
  | some tree =>
    cases c.measures with
    | false => exact hx
    | true => exact h tree hdisk

/-- A generation that is built holds what its build found in its workspace. -/
theorem Kept.built {tree : Tree} (h : Kept d pending old decisions disk row) (hcan : canTransition row.status .built = true)
    (htree : disk (d.generationWorkspacePath row.generationId) = some tree) :
    Kept d pending old decisions disk (row.moved .built (some (hashDirectoryTree d.sha256 tree))) := by
  refine ⟨fun _ => ⟨tree, htree, rfl⟩, fun _ => h.undecided ?_, fun hstatus => ?_, fun _ hlow => ?_⟩
  · exact (rank_lt_of_canTransition hcan).le
  · cases hstatus
  · exact absurd hlow (by decide : ¬ 5 ≤ GenerationState.built.rank)

theorem custody_after_finishBuild {decision : GateDecision} {workspaces : Workspaces} (hx : x.Custody d pending old) :
    (after (finishBuild d c generationId raw decision workspaces gen) x).Custody d pending old := by
  refine ends_after.1 (ends_append hx fun _ => ?_)
  refine (ends_createIsolatedWorkspace (by exact hx)).andThen fun _ y hy => ?_
  refine (ends_writeCandidateFiles hy.1 hy.2).andThen fun _ z hz => ?_
  refine ends_bind.2 ?_
  have htracked : Governor.Custody d pending old { z with
      workspaces := z.workspaces.insert generationId
        { workspaces with candidateWorkspacePath := some (d.generationWorkspacePath generationId) } } := by
    refine ⟨fun id w path hw hpath => ?_, hz.kept, hz.unknown⟩
    rcases Table.lookup_insert_cases hw with ⟨rfl, rfl⟩ | ⟨-, hold⟩
    · exact (Option.some.inj hpath).symm
    · exact hz.tracked id w path hold hpath
  refine ends_hashOnDisk htracked fun tree htree => ?_
  refine ends_write htracked fun _ built t hbuilt => ?_
  have hdone := custody_of_transition htracked hbuilt fun row hrow hcan hkept => hkept.built hcan ?_
  · exact ends_append hdone fun _ => hdone
  · rw [Keyed.key_of_get (getGeneration_ok.1 hrow).1]
    exact htree

theorem custody_after_build (hx : x.Custody d pending old) :
    (after (handleBuild d c generationId raw) x).Custody d pending old := by
  let P : Governor → Prop := Governor.Custody d pending old
  show P _
  refine after_gated hx fun _ decision => ?_
  refine after_demandSome hx fun workspaces _ => ?_
  refine after_reads hx fun gen _ => ?_
  refine after_write hx fun _ building t hbuilding => ?_
  exact custody_after_finishBuild (custody_of_move hx hbuilding (by decide) (by decide))

/-! ## The start of an evaluation -/

theorem Undecided.snoc {id : Text} (h : Undecided decisions id) (hne : id ≠ decision.generationId) :
    Undecided (decisions ++ [decision]) id := by
  intro other hother
  rcases List.mem_append.1 hother with hold | hnew
  · exact h other hold
  · rw [List.mem_singleton.1 hnew]
    exact hne.symm

theorem Decided.snoc (h : Decided decisions row)
    (hnew : decision.generationId = row.generationId → row.sourceHashAfter = some decision.sourceHash) :
    Decided (decisions ++ [decision]) row := by
  obtain ⟨⟨first, hfirst, hrow⟩, hall⟩ := h
  refine ⟨⟨first, List.mem_append_left _ hfirst, hrow⟩, fun other hother hid => ?_⟩
  rcases List.mem_append.1 hother with hold | hlast
  · exact hall other hold hid
  · rw [List.mem_singleton.1 hlast] at hid ⊢
    exact hnew hid

theorem Undecided.decides (h : Undecided decisions row.generationId) (hid : decision.generationId = row.generationId)
    (htenant : decision.tenantId = row.tenantId) (hhash : row.sourceHashAfter = some decision.sourceHash) :
    Decided (decisions ++ [decision]) row := by
  refine ⟨⟨decision, by simp, hid, htenant⟩, fun other hother hother' => ?_⟩
  rcases List.mem_append.1 hother with hold | hlast
  · exact absurd hother' (h other hold)
  · rw [List.mem_singleton.1 hlast]
    exact hhash

/-- A decision is recorded about a generation under evaluation. -/
theorem custody_of_decision {promising : Prop} (hx : x.Custody d pending old)
    (hrow : x.store.generations.get decision.generationId = some row) (hrank : 4 ≤ row.status.rank)
    (hmeasured : row.status = .evaluating → pending row.generationId ∨ promising →
      Decided (x.store.decisions ++ [decision]) row)
    (hdecided : Needs old row → 5 ≤ row.status.rank → Decided (x.store.decisions ++ [decision]) row) :
    Governor.Custody d (fun id => pending id ∨ id = decision.generationId ∧ promising) old
      { x with store := x.store.recordPromotionDecision decision } := by
  refine ⟨hx.tracked, fun id other hother => ?_, fun id hnone => ?_⟩
  · have hkept := hx.kept id other hother
    by_cases hid : other.generationId = decision.generationId
    · have hsame : x.store.generations.get decision.generationId = some other := by
        rw [← hid, Keyed.key_of_get hother]
        exact hother
      cases hrow.symm.trans hsame
      refine ⟨hkept.content, fun hlow => absurd hlow (by omega), fun hstatus hpending => ?_, hdecided⟩
      exact hmeasured hstatus (hpending.imp_right fun hnew => hnew.2)
    · refine ⟨hkept.content, fun hlow => ?_, fun hstatus hpending => ?_, fun hneeds hlow => ?_⟩
      · obtain ⟨hundecided, hfree⟩ := hkept.undecided hlow
        exact ⟨hundecided.snoc hid, fun hpending => hpending.elim hfree fun hnew => hid hnew.1⟩
      · exact (hkept.measured hstatus (hpending.resolve_right fun hnew => hid hnew.1)).snoc fun hdecision => absurd hdecision.symm hid
      · exact (hkept.decided hneeds hlow).snoc fun hdecision => absurd hdecision.symm hid
  · have hne : id ≠ decision.generationId := by
      rintro rfl
      cases hrow.symm.trans hnone
    obtain ⟨hundecided, hfree⟩ := hx.unknown id hnone
    exact ⟨hundecided.snoc hne, fun hpending => hpending.elim hfree fun hnew => hne hnew.1⟩

/-- Where an evaluation may start: the first one of a generation, or another while its parent's tree is as it was. -/
def Evaluable (d : GovernorDeps) (x : Governor) (row : ImprovementGeneration) (parentPath : Text) : Prop :=
  (row.status = .evaluating ∧ Undecided x.store.decisions row.generationId) ∨
    (row.status = .evaluated ∧
      ∀ tree, x.disk parentPath = some tree → hashDirectoryTree d.sha256 tree = row.sourceHashBefore)

theorem custody_of_evaluation {i : EvaluationInputs} {outcomes : CommandOutcomes} {now : Int} {result : EvaluationResult}
    (hx : x.Custody d pending old) (hid : i.generationId = generationId) (htenant : i.tenantId = d.tenantId)
    (hrow : x.store.getGeneration d.tenantId generationId = .ok row) (hparent : x.disk parentPath = some i.parentWorkspace)
    (hcandidate : x.disk (d.generationWorkspacePath generationId) = some i.candidateWorkspace)
    (hevaluable : Evaluable d x row parentPath) (h : runPromotionEvaluation d.sha256 x.store i outcomes now = .ok (result, t)) :
    Governor.Custody d (fun id => pending id ∨ id = generationId ∧ targetOf result.status = .evaluated) old
      { x with store := t } := by
  subst hid
  obtain ⟨hget, hrowTenant⟩ := getGeneration_ok.1 hrow
  have hrowId := Keyed.key_of_get hget
  obtain ⟨hdecision, hdecisionTenant, hsource⟩ := decision_of_evaluation (htenant ▸ hrow) h
  obtain ⟨-, -, rfl⟩ := runPromotionEvaluation_ok h
  have hcontent : Needs old row → row.sourceHashAfter = some (hashDirectoryTree d.sha256 i.candidateWorkspace) := fun hneeds => by
    obtain ⟨tree, htree, hhash⟩ := (hx.kept _ _ hget).content hneeds
    rw [hrowId, hcandidate] at htree
    rw [hhash, Option.some.inj htree]
  have hawaits : Needs old row := by
    rcases hevaluable with ⟨hstatus, -⟩ | ⟨hstatus, -⟩ <;>
    · refine .inl ?_
      rw [hstatus]
      decide
  rw [← hdecision]
  have hdecided : x.store.generations.get result.decision.generationId = some row := hdecision ▸ hget
  refine custody_of_decision hx hdecided ?_ (fun hstatus hpending => ?_) fun _ hlow => ?_
  · rcases hevaluable with ⟨hstatus, -⟩ | ⟨hstatus, -⟩ <;>
    · rw [hstatus]
      decide
  · rcases hevaluable with ⟨-, hundecided⟩ | ⟨hother, -⟩
    · rcases hpending with hpending | hpromising
      · obtain ⟨⟨decision, hmem, hof, -⟩, -⟩ := (hx.kept _ _ hget).measured hstatus hpending
        exact absurd hof (hundecided decision hmem)
      · refine hundecided.decides (hdecision.trans hrowId.symm) ?_ ?_
        · rw [hdecisionTenant, htenant, hrowTenant]
        · rw [hcontent hawaits]
          split at hsource
          · rw [hsource]
          · rw [hsource] at hpromising
            cases hpromising
    · rw [hstatus] at hother
      cases hother
  · rcases hevaluable with ⟨hstatus, -⟩ | ⟨-, hfresh⟩
    · rw [hstatus] at hlow
      exact absurd hlow (by decide)
    · refine ((hx.kept _ _ hget).decided hawaits hlow).snoc fun _ => ?_
      rw [if_pos (hfresh _ hparent)] at hsource
      rw [hcontent hawaits, hsource]

theorem ends_measureCandidate {body : EvaluateBody} (hx : x.Custody d pending old)
    (hrow : x.store.getGeneration d.tenantId generationId = .ok row) (hevaluable : Evaluable d x row parentPath) :
    Ends (measureCandidate d c generationId body gen parentPath (d.generationWorkspacePath generationId)) x
      (fun evaluation => Governor.Custody d
        (fun id => pending id ∨ id = generationId ∧ targetOf evaluation.status = .evaluated) old)
      (Governor.Custody d pending old) := by
  refine ends_append hx fun _ => ?_
  refine ends_specIdFor (by exact hx) fun specId => ?_
  refine ends_reads (by exact hx) fun spec _ => ?_
  refine ends_bind.2 (ends_bind.2 ?_)
  refine ends_demandSome (by exact hx) fun parent hparent => ?_
  refine ends_demandSome (by exact hx) fun candidate hcandidate => ?_
  refine ends_bind.2 (ends_iff.2 ⟨fun _ z hok => ?_, fun e z herror => ?_⟩)
  · obtain ⟨-, rfl⟩ := demand_eq_ok.1 hok
    refine ends_iff.2 ⟨fun evaluation z hok => ?_, fun e z herror => ?_⟩
    · obtain ⟨-, store, hrun, rfl⟩ := write_eq_ok.1 hok
      have hdone := custody_of_evaluation hx rfl rfl hrow hparent hcandidate hevaluable hrun
      exact hdone
    · rw [eq_of_write_error herror]
      exact hx
  · obtain ⟨-, -, rfl⟩ := demand_eq_error.1 herror
    exact hx

/-- **An evaluation starts in custody**, and what it may take to `EVALUATED` it has decided on as it was built. -/
theorem ends_startEvaluation {body : Option EvaluateBody} (hx : x.Custody d pending old)
    (hfresh : ∀ row w tree, x.store.getGeneration d.tenantId generationId = .ok row → row.status = .evaluated →
      x.workspaces.lookup generationId = some w → x.disk w.parentWorkspacePath = some tree →
      hashDirectoryTree d.sha256 tree = row.sourceHashBefore) :
    Ends (startEvaluation d c generationId body) x
      (fun evaluation => Governor.Custody d
        (fun id => pending id ∨ id = generationId ∧ targetOf evaluation.status = .evaluated) old)
      (Governor.Custody d pending old) := by
  refine ends_demandSome hx fun body _ => ?_
  refine ends_bind.2 ?_
  refine ends_demandSome hx fun w hw => ?_
  refine ends_demandSome hx fun path hpath => ?_
  obtain rfl := hx.tracked generationId w path hw hpath
  refine ends_reads hx fun gen hgen => ?_
  obtain ⟨hget, htenant⟩ := getGeneration_ok.1 hgen
  have hid := Keyed.key_of_get hget
  unfold enterEvaluation
  split
  · next hstatus =>
    rw [bind_assoc]
    refine ends_write hx fun _ moved t hmoved => ?_
    have hdone := custody_of_move hx hmoved (by decide) (by decide)
    obtain ⟨row, hrow, -, -, rfl, rfl⟩ := transitionGeneration_ok.1 hmoved
    cases hgen.symm.trans hrow
    refine ends_measureCandidate hdone (getGeneration_moving hgen) (.inl ⟨rfl, ?_⟩)
    refine ((hx.kept _ _ hget).undecided ?_).1
    rw [hstatus]
    decide
  · next hstatus =>
    refine ends_measureCandidate hx hgen (.inr ⟨hstatus, fun tree htree => ?_⟩)
    exact hfresh gen w tree hgen hstatus hw htree
  · exact hx

end

end Tna.Improvement
