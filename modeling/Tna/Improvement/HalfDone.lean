import Tna.Improvement.Effects

/-!
# When a request that throws has done nothing

For each handler: what it begins, and what must go through after that. A handler that has
begun and does not get through leaves its beginnings behind.
-/

namespace Tna.Improvement

open Tna.Lib Tna.Js

/-- The Gate allows the operation. -/
def RequestContext.Allows (c : RequestContext) (operation : ImprovementOperation) (generationId : Text)
    (approvalId : Option Text) : Prop :=
  ∃ decision, c.authorizes operation generationId approvalId = .ok decision ∧ decision.decision = "ALLOW"

/-! ## What is begun is finished -/

section
variable (d : GovernorDeps) (c : RequestContext) (generationId : Text) (raw : JsValue) (x : Governor)

/-- Once the generation is `AUTHORIZED`, the ledger takes it. -/
def AuthorizeFinishes : Prop :=
  c.Allows .authorizeGeneration generationId none → ∀ gen, x.store.getGeneration d.tenantId generationId = .ok gen →
    canTransition gen.status .authorized = true → c.commits 0 = true → c.takes 0 = true

/-- Once the generation is `BUILDING`, there is nothing at the candidate's path, the parent's tree is copied, all the files
of the candidate are written, and hash, statement and ledger go through. -/
def BuildFinishes : Prop :=
  c.Allows .build generationId none → ∀ workspaces, x.workspaces.lookup generationId = some workspaces →
    ∀ gen, x.store.getGeneration d.tenantId generationId = .ok gen → c.commits 0 = true →
    canTransition gen.status .building = true →
    c.takes 0 = true ∧ x.disk (d.generationWorkspacePath generationId) = none ∧
      (c.copies = true ∧ ∃ parent, x.disk workspaces.parentWorkspacePath = some parent ∧
        ∃ candidate, c.surroundings.buildCandidate parent (candidateFiles raw) = .ok candidate) ∧
      c.measures = true ∧ c.commits 1 = true ∧ c.takes 1 = true

/-- What measuring a candidate comes to. -/
def measuredStatus (body : EvaluateBody) (gen : ImprovementGeneration) (spec : ImprovementSpec) (parent candidate : Tree) :
    PromotionStatus :=
  if hashDirectoryTree d.sha256 parent = gen.sourceHashBefore then
    (evaluatePromotion ((body.inputs d generationId gen spec parent candidate).measured d.sha256 c.outcomes)).1
  else .indeterminate

/-- The measurements of an evaluation go through, and this is what they come to. -/
def MeasuredAs (body : EvaluateBody) (gen : ImprovementGeneration) (parentPath candidatePath : Text)
    (status : PromotionStatus) : Prop :=
  c.takes 0 = true ∧ ∃ specId, x.specIds.lookup generationId = some specId ∧
    ∃ spec, x.store.getSpec d.tenantId specId = .ok spec ∧ ∃ parent, x.disk parentPath = some parent ∧
    ∃ candidate, x.disk candidatePath = some candidate ∧ c.measures = true ∧ c.commits 1 = true ∧
    status = measuredStatus d c generationId body gen spec parent candidate

/-- An evaluation comes to its verdict, and this is its outcome. -/
def VerdictAs (body : EvaluateBody) (gen : ImprovementGeneration) (parentPath candidatePath : Text)
    (status : PromotionStatus) : Prop :=
  ∃ measured, MeasuredAs d c generationId x body gen parentPath candidatePath measured ∧ ∃ vad, c.vad = some vad ∧
    c.takes 1 = true ∧ c.takes 2 = true ∧ status = finalStatus vad measured

/-- Once a built generation is `EVALUATING`, the evaluation comes to its verdict and the generation to the state it calls
for; once an evaluated one is `REJECTED`, the ledger takes it. -/
def EvaluateFinishes (body : Option EvaluateBody) : Prop :=
  ∀ b, body = some b → ∀ workspaces, x.workspaces.lookup generationId = some workspaces →
    ∀ candidatePath, workspaces.candidateWorkspacePath = some candidatePath →
    ∀ gen, x.store.getGeneration d.tenantId generationId = .ok gen →
    (gen.status = .built → c.commits 0 = true →
      ∃ status, VerdictAs d c generationId x b gen workspaces.parentWorkspacePath candidatePath status ∧
        c.commits 2 = true ∧ (targetOf status = .rejected → c.takes 3 = true)) ∧
    (gen.status = .evaluated →
      ∀ status, VerdictAs d c generationId x b gen workspaces.parentWorkspacePath candidatePath status →
        c.commits 2 = true → targetOf status = .rejected → c.takes 3 = true)

/-- Once the run is stored, the generation can become and becomes `CANARY`, and the ledger takes it. -/
def CanaryFinishes : Prop :=
  c.Allows .startCanary generationId (approvalIdOf raw) → ∀ session, c.sentinelSession = some session →
    ∀ specId, x.specIds.lookup generationId = some specId → ∀ spec, x.store.getSpec d.tenantId specId = .ok spec →
    c.commits 0 = true → x.store.canaryRuns.get c.newId = none →
    ∃ gen, x.store.getGeneration d.tenantId generationId = .ok gen ∧ c.commits 1 = true ∧
      canTransition gen.status .canary = true ∧ c.takes 0 = true

/-- The recorded parent, if there is one, is what the system accepts, if it accepts anything. -/
def FreshParent (gen : ImprovementGeneration) : Prop :=
  ∀ parent, gen.parentGenerationId = some parent →
    ∃ system, x.store.getSystem d.tenantId gen.systemId = .ok system ∧ staleParent parent system = none

/-- Once the generation is `PROMOTED`, the ledger takes it. -/
def PromoteFinishes : Prop :=
  c.Allows .promote generationId (approvalIdOf raw) → ∀ gen, x.store.getGeneration d.tenantId generationId = .ok gen →
    staleProfile d generationId gen x = none → FreshParent d x gen → c.commits 0 = true →
    canTransition gen.status .promoted = true → (∃ system, x.store.getSystem d.tenantId gen.systemId = .ok system) →
    c.takes 0 = true

/-- A rollback comes to where it stores its record. -/
def RollbackBegins (body : RollbackBody) : Prop :=
  rollbackBody? raw = some body ∧ c.Allows .rollback generationId (approvalIdOf raw) ∧ c.takes 0 = true ∧
    c.commits 0 = true ∧ (∃ gen, x.store.getGeneration d.tenantId generationId = .ok gen) ∧
    (∃ target, x.store.getGeneration d.tenantId body.targetGenerationId = .ok target) ∧
    x.store.rollbacks.get c.newId = none

/-- Once the record of a rollback is stored, it is completed and the generation can become and becomes `ROLLED_BACK`, or
`INDETERMINATE` where the target cannot be verified, and the ledger takes it. -/
def RollbackFinishes : Prop :=
  ∀ body, RollbackBegins d c generationId raw x body → ∃ gen, x.store.getGeneration d.tenantId generationId = .ok gen ∧
    if verifyRollbackTarget x body.targetGenerationId = false then
      c.takes 1 = true ∧ c.commits 1 = true ∧ canTransition gen.status .indeterminate = true
    else c.commits 1 = true ∧ c.commits 2 = true ∧ canTransition gen.status .rolledBack = true ∧ c.takes 1 = true

end

section
variable {d : GovernorDeps} {c : RequestContext} {generationId : Text} {raw : JsValue} {x : Governor} {v : Effects}

variable {approvalId : Option Text} {operation : ImprovementOperation} {β : Type} {y : Governor} {decision : GateDecision}
  {gen : ImprovementGeneration} {parentPath path : Text} {u : Unit} {t : Tree} {files : List (Text × JsValue)}
  {f : Text → Handler β}

theorem leaves_gated {rest : GateDecision → Handler GovernorAnswer} (hx : x.effects = v) :
    Leaves Governor.effects v (gated d c operation generationId approvalId rest) x ↔
      ∀ decision, c.authorizes operation generationId approvalId = .ok decision → decision.decision = "ALLOW" →
        Leaves Governor.effects v (rest decision) x := by
  unfold gated
  rw [leaves_reads hx]
  refine forall₂_congr fun decision _ => ?_
  by_cases hallow : decision.decision = "ALLOW"
  · simp only [hallow, if_true, forall_const]
  · simp only [hallow, if_false, false_imp_iff, iff_true]
    exact (leaves_reads hx).2 fun _ _ => leaves_pure _

/-! ## The handlers -/

theorem allows_imp_iff {P : Prop} :
    (c.Allows operation generationId approvalId → P) ↔
      ∀ decision, c.authorizes operation generationId approvalId = .ok decision → decision.decision = "ALLOW" → P :=
  ⟨fun h decision hdecision hallow => h ⟨decision, hdecision, hallow⟩, fun h ⟨decision, hdecision, hallow⟩ =>
    h decision hdecision hallow⟩

theorem leaves_authorize_iff :
    Leaves Governor.effects x.effects (handleAuthorize d c generationId) x ↔ AuthorizeFinishes d c generationId x := by
  unfold handleAuthorize AuthorizeFinishes
  rw [leaves_gated rfl, allows_imp_iff]
  refine forall₃_congr fun decision _ _ => ?_
  rw [leaves_reads rfl]
  refine forall₂_congr fun gen hgen => ?_
  rw [leaves_transition_iff (A := fun _ => True) hgen (by decide) rfl fun _ => (uses_append _ _ _).bind fun _ => .pure _]
  simp only [answers_append, answers_return, and_true]
  exact forall_swap

theorem leaves_specIdFor (hx : x.effects = v) :
    Leaves Governor.effects v (specIdFor generationId >>= f) x ↔
      ∀ specId, x.specIds.lookup generationId = some specId → Leaves Governor.effects v (f specId) x :=
  leaves_demandSome hx

theorem ok_specIdFor {b : β} : (specIdFor generationId >>= f) x = .ok b y ↔
    ∃ specId, x.specIds.lookup generationId = some specId ∧ f specId x = .ok b y :=
  ok_demandSome

theorem answers_specIdFor : Answers (specIdFor generationId >>= f) x ↔
    ∃ specId, x.specIds.lookup generationId = some specId ∧ Answers (f specId) x :=
  answers_demandSome

/-- A canary whose run is stored answers when its generation becomes `CANARY` and the ledger takes it. -/
theorem answers_finishCanary {session : Text} {run : CanaryRun} :
    Answers (finishCanary d c generationId decision session run) x ↔
      ∃ gen, x.store.getGeneration d.tenantId generationId = .ok gen ∧ c.commits 1 = true ∧
        canTransition gen.status .canary = true ∧ c.takes 0 = true := by
  unfold finishCanary
  rw [answers_reads]
  refine exists_congr fun gen => and_congr_right fun hgen => ?_
  rw [answers_transition hgen (by decide)]
  simp only [answers_append, answers_return, and_true]

theorem leaves_canary_iff :
    Leaves Governor.effects x.effects (handleCanary d c generationId raw) x ↔ CanaryFinishes d c generationId raw x := by
  unfold handleCanary CanaryFinishes
  rw [leaves_gated rfl, allows_imp_iff]
  refine forall₃_congr fun decision _ _ => ?_
  simp only [leaves_demandSome rfl, leaves_specIdFor rfl, leaves_reads rfl]
  refine forall₂_congr fun session _ => forall₂_congr fun specId _ => forall₂_congr fun spec _ => ?_
  rw [leaves_startCanaryRun_iff rfl fun _ => uses_finishCanary raw]
  simp only [forall_eq, answers_finishCanary]
  rfl

/-- A rollback whose record is stored answers when record and generation are brought to an end and the ledger takes it. -/
theorem answers_finishRollback {body : RollbackBody} {rollback : RollbackRecord}
    (hrecord : x.store.rollbacks.get rollback.rollbackId = some rollback) (htenant : rollback.tenantId = d.tenantId)
    (hopen : rollback.status = .indeterminate) :
    Answers (finishRollback d c generationId body decision rollback) x ↔
      ∃ gen, x.store.getGeneration d.tenantId generationId = .ok gen ∧
        if verifyRollbackTarget x body.targetGenerationId = false then
          c.takes 1 = true ∧ c.commits 1 = true ∧ canTransition gen.status .indeterminate = true
        else c.commits 1 = true ∧ c.commits 2 = true ∧ canTransition gen.status .rolledBack = true ∧ c.takes 1 = true := by
  unfold finishRollback
  rw [answers_get, answers_reads]
  refine exists_congr fun gen => and_congr_right fun hgen => ?_
  split
  · rw [answers_append]
    refine and_congr_right fun _ => ?_
    rw [answers_transition (by exact hgen) (by decide)]
    simp only [answers_return, and_true]
  · rw [answers_write]
    refine and_congr_right fun _ => ?_
    simp only [completeRollback_ok]
    constructor
    · rintro ⟨_, _, ⟨_, -, -, -, rfl, rfl⟩, h⟩
      rw [answers_transition (by exact hgen) (by decide), answers_append] at h
      exact ⟨h.1, h.2.1, h.2.2.1⟩
    · rintro ⟨hcommits, hcan, htakes⟩
      refine ⟨_, _, ⟨rollback, hrecord, htenant, hopen, rfl, rfl⟩, ?_⟩
      rw [answers_transition (by exact hgen) (by decide), answers_append]
      exact ⟨hcommits, hcan, htakes, answers_pure _⟩

theorem leaves_rollback_iff :
    Leaves Governor.effects x.effects (handleRollback d c generationId raw) x ↔ RollbackFinishes d c generationId raw x := by
  unfold handleRollback RollbackFinishes RollbackBegins
  rw [leaves_demandSome rfl]
  refine forall_congr' fun body => ?_
  rw [and_imp]
  refine forall_congr' fun _ => ?_
  rw [leaves_gated rfl, and_imp, allows_imp_iff]
  refine forall₃_congr fun decision _ _ => ?_
  rw [leaves_append rfl, and_imp]
  refine forall_congr' fun _ => ?_
  rw [leaves_initiateRollback_iff ?_ fun _ => uses_finishRollback raw]
  · simp only [and_imp]
    refine forall₄_congr fun _ _ _ _ => ?_
    rw [forall_eq, answers_finishRollback Keyed.get_put_self rfl rfl]
    rfl
  · rfl

theorem leaves_blockPromotion {message : Option Text} {f : Unit → Handler β} (hx : x.effects = v) :
    Leaves Governor.effects v (blockPromotion c generationId message >>= f) x ↔
      (message = none → Leaves Governor.effects v (f ()) x) := by
  cases message with
  | none => exact ⟨fun h _ => h, fun h => h rfl⟩
  | some message =>
    refine iff_of_true ?_ fun h => nomatch h
    rw [leaves_bind]
    constructor
    · refine (leaves_append hx).2 fun _ e y herror => ?_
      cases herror
      exact hx
    · intro u y hok
      obtain ⟨_, _, -, hthrow⟩ := bind_answered hok
      cases hthrow

theorem leaves_checkParent {f : Unit → Handler β} (hx : x.effects = v) :
    Leaves Governor.effects v (checkParent d c generationId gen >>= f) x ↔
      (FreshParent d x gen → Leaves Governor.effects v (f ()) x) := by
  unfold checkParent FreshParent
  cases hparent : gen.parentGenerationId with
  | none => exact ⟨fun h _ => h, fun h => h fun _ hnone => nomatch hnone⟩
  | some parent =>
    simp only [bind_assoc, leaves_reads hx, leaves_blockPromotion hx, Option.some.injEq, forall_eq', forall_exists_index,
      and_imp]

/-- A promotion of a generation that was just read is made when it is allowed and its system is there. -/
theorem promotion_of_read {moved : ImprovementGeneration} {t : ImprovementStore}
    (hgen : x.store.getGeneration d.tenantId generationId = .ok gen) :
    x.store.transitionGeneration d.tenantId generationId gen.stateVersion .promoted none = .ok (moved, t) ↔
      canTransition gen.status .promoted = true ∧ moved = gen.moved .promoted none ∧
        ∃ system, x.store.getSystem d.tenantId gen.systemId = .ok system ∧
          t = { x.store with
            generations := x.store.generations.put moved
            systems := x.store.systems.put (system.accepting generationId) } := by
  simp only [transitionGeneration_ok, hgen, Except.ok.injEq, if_true, setAcceptedGeneration_ok]
  constructor
  · rintro ⟨_, rfl, -, hcan, rfl, hsystem⟩
    exact ⟨hcan, rfl, hsystem⟩
  · rintro ⟨hcan, rfl, hsystem⟩
    exact ⟨gen, rfl, rfl, hcan, rfl, hsystem⟩

theorem leaves_promote_iff :
    Leaves Governor.effects x.effects (handlePromote d c generationId raw) x ↔ PromoteFinishes d c generationId raw x := by
  unfold handlePromote PromoteFinishes
  rw [leaves_gated rfl, allows_imp_iff]
  refine forall₃_congr fun decision _ _ => ?_
  rw [leaves_reads rfl]
  refine forall₂_congr fun gen hgen => ?_
  rw [leaves_get, leaves_blockPromotion rfl, leaves_checkParent rfl]
  refine forall₂_congr fun _ _ => ?_
  rw [leaves_write rfl]
  refine forall_congr' fun _ => ?_
  have hafter : ∀ (moved : ImprovementGeneration) (y : Governor), canTransition gen.status .promoted = true →
      y.store.generations = x.store.generations.put (gen.moved .promoted none) →
      (Leaves Governor.effects x.effects (do
        appendImprovementEvent (c.takes 0) "IMPROVEMENT_PROMOTED" generationId
        return GovernorAnswer.promoted decision moved) y ↔ c.takes 0 = true) := by
    intro moved y hcan hy
    rw [leaves_iff_answers (A := fun _ => True) ((uses_append _ _ _).bind fun _ => .pure _) fun t ht =>
      gone_of_moved hgen hcan hy ht]
    simp only [answers_append, answers_return, and_true]
  constructor
  · rintro h hcan ⟨system, hsystem⟩
    exact (hafter _ _ hcan rfl).1 (h _ _ ((promotion_of_read hgen).2 ⟨hcan, rfl, system, hsystem, rfl⟩))
  · intro h moved t hmoved
    obtain ⟨hcan, rfl, system, hsystem, rfl⟩ := (promotion_of_read hgen).1 hmoved
    exact (hafter _ _ hcan rfl).2 (h hcan ⟨system, hsystem⟩)

/-! ### Building -/

theorem createIsolatedWorkspace_eq_ok :
    createIsolatedWorkspace c generationId path parentPath x = .ok u y ↔
      x.disk path = none ∧ c.copies = true ∧ ∃ parent, x.disk parentPath = some parent ∧
        ∃ t, parent.copy = some t ∧ y = x.onDisk path t := by
  unfold createIsolatedWorkspace
  cases x.disk path with
  | some t => simp
  | none =>
    cases c.copies with
    | false => simp
    | true =>
      cases x.disk parentPath with
      | none => simp
      | some parent =>
        simp only [if_true, Option.bind_some, Option.some.injEq, exists_eq_left', true_and]
        cases parent.copy with
        | none => simp
        | some t =>
          constructor
          · intro h
            cases h
            exact ⟨t, rfl, rfl⟩
          · rintro ⟨_, h, rfl⟩
            cases h
            rfl

theorem onDisk_onDisk {u : Tree} : (x.onDisk path t).onDisk path u = x.onDisk path u := by
  unfold Governor.onDisk
  congr 1
  funext p
  dsimp only
  split <;> rfl

theorem disk_onDisk : (x.onDisk path t).disk path = some t := if_pos rfl

theorem writeCandidateFiles_eq_ok :
    writeCandidateFiles c path files (x.onDisk path t) = .ok u y ↔
      ∃ t', files.foldlM c.surroundings.writeCandidateFile t = .ok t' ∧ y = x.onDisk path t' := by
  induction files generalizing t with
  | nil =>
    constructor
    · intro h
      cases h
      exact ⟨t, rfl, rfl⟩
    · rintro ⟨t', h, rfl⟩
      cases h
      rfl
  | cons f rest ih =>
    simp only [writeCandidateFiles, disk_onDisk, List.foldlM_cons]
    cases c.surroundings.writeCandidateFile t f with
    | error e => simp [bind, Except.bind]
    | ok t' =>
      simp only [onDisk_onDisk]
      exact ih

/-- The candidate's tree is built on disk. -/
theorem answers_candidate {f : Unit → Handler β} :
    Answers (createIsolatedWorkspace c generationId path parentPath >>= fun _ => writeCandidateFiles c path files >>= f) x ↔
      x.disk path = none ∧ c.copies = true ∧ ∃ parent, x.disk parentPath = some parent ∧
        ∃ candidate, c.surroundings.buildCandidate parent files = .ok candidate ∧ Answers (f ()) (x.onDisk path candidate) := by
  simp only [answers_bind, createIsolatedWorkspace_eq_ok]
  constructor
  · rintro ⟨_, _, ⟨hfree, hcopies, parent, hparent, t, hcopy, rfl⟩, _, _, hwrite, h⟩
    obtain ⟨candidate, hcandidate, rfl⟩ := writeCandidateFiles_eq_ok.1 hwrite
    refine ⟨hfree, hcopies, parent, hparent, candidate, ?_, h⟩
    rw [Surroundings.buildCandidate, hcopy]
    exact hcandidate
  · rintro ⟨hfree, hcopies, parent, hparent, candidate, hcandidate, h⟩
    unfold Surroundings.buildCandidate at hcandidate
    split at hcandidate
    · cases hcandidate
    · next t hcopy =>
      exact ⟨(), _, ⟨hfree, hcopies, parent, hparent, t, hcopy, rfl⟩, (), _,
        writeCandidateFiles_eq_ok.2 ⟨candidate, hcandidate, rfl⟩, h⟩

theorem answers_hashOnDisk (ht : x.disk path = some t) :
    Answers (hashOnDisk d c path >>= f) x ↔ c.measures = true ∧ Answers (f (hashDirectoryTree d.sha256 t)) x := by
  have hhash : hashOnDisk d c path x =
      if c.measures then .ok (hashDirectoryTree d.sha256 t) x else .error .other x := by
    unfold hashOnDisk
    cases c.measures <;> simp [ht]
  rw [answers_bind, hhash]
  cases c.measures with
  | false => simp
  | true =>
    simp only [if_true, true_and]
    constructor
    · rintro ⟨_, _, hok, h⟩
      cases hok
      exact h
    · exact fun h => ⟨_, _, rfl, h⟩

/-- A build whose generation is `BUILDING` answers when the candidate is built and all that is left goes through. -/
theorem answers_finishBuild {workspaces : Workspaces} (hgen : x.store.getGeneration d.tenantId generationId = .ok gen)
    (hstatus : gen.status = .building) :
    Answers (finishBuild d c generationId raw decision workspaces gen) x ↔
      c.takes 0 = true ∧ x.disk (d.generationWorkspacePath generationId) = none ∧
      (c.copies = true ∧ ∃ parent, x.disk workspaces.parentWorkspacePath = some parent ∧
        ∃ candidate, c.surroundings.buildCandidate parent (candidateFiles raw) = .ok candidate) ∧
      c.measures = true ∧ c.commits 1 = true ∧ c.takes 1 = true := by
  have hcan : canTransition gen.status .built = true := by
    rw [hstatus]
    decide
  have hbuilt : ∀ (z : Governor) (candidate : Tree), z.store = x.store →
      z.disk (d.generationWorkspacePath generationId) = some candidate →
      (Answers (hashOnDisk d c (d.generationWorkspacePath generationId) >>= fun hash => do
        let built ← write (c.commits 1) fun s =>
          s.transitionGeneration d.tenantId generationId gen.stateVersion .built (some hash)
        appendImprovementEvent (c.takes 1) "IMPROVEMENT_BUILT" generationId
        return GovernorAnswer.built decision built (d.generationWorkspacePath generationId)) z ↔
      c.measures = true ∧ c.commits 1 = true ∧ c.takes 1 = true) := by
    intro z candidate hstore hdisk
    rw [answers_hashOnDisk hdisk]
    refine and_congr_right fun _ => ?_
    rw [answers_transition (by rw [hstore, hgen]) (by decide)]
    simp only [hcan, true_and, answers_append, answers_return, and_true]
  unfold finishBuild
  rw [answers_append, answers_candidate]
  refine and_congr_right fun _ => and_congr_right fun _ => ?_
  constructor
  · rintro ⟨hcopies, parent, hparent, candidate, hcandidate, h⟩
    refine ⟨⟨hcopies, parent, hparent, candidate, hcandidate⟩, (hbuilt _ candidate ?_ ?_).1 h⟩
    · rfl
    · exact if_pos rfl
  · rintro ⟨⟨hcopies, parent, hparent, candidate, hcandidate⟩, h⟩
    refine ⟨hcopies, parent, hparent, candidate, hcandidate, (hbuilt _ candidate ?_ ?_).2 h⟩
    · rfl
    · exact if_pos rfl

theorem leaves_build_iff :
    Leaves Governor.effects x.effects (handleBuild d c generationId raw) x ↔ BuildFinishes d c generationId raw x := by
  unfold handleBuild BuildFinishes
  rw [leaves_gated rfl, allows_imp_iff]
  refine forall₃_congr fun decision _ _ => ?_
  rw [leaves_get, leaves_demandSome rfl]
  refine forall₂_congr fun workspaces _ => ?_
  rw [leaves_reads rfl]
  refine forall₂_congr fun gen hgen => ?_
  rw [leaves_transition_iff hgen (by decide) rfl fun _ => uses_finishBuild]
  refine forall₂_congr fun _ _ => ?_
  rw [answers_finishBuild (getGeneration_moving hgen) rfl]
  rfl

/-! ### Evaluating -/

section
variable {body : EvaluateBody} {gen row : ImprovementGeneration} {parentPath candidatePath : Text}
  {evaluation : EvaluationResult} {y : Governor} {status : PromotionStatus} {vad : VadState}

variable {profileHash systemId : Text} {β : Type} {f : Unit → Handler β}

theorem ok_establishProfile {b : β} :
    (establishProfile systemId profileHash >>= f) x = .ok b y ↔ f () { x with
      activeProfiles := if x.activeProfiles.lookup systemId = none then x.activeProfiles.insert systemId profileHash
        else x.activeProfiles } = .ok b y := Iff.rfl

theorem answers_establishProfile :
    Answers (establishProfile systemId profileHash >>= f) x ↔ Answers (f ()) { x with
      activeProfiles := if x.activeProfiles.lookup systemId = none then x.activeProfiles.insert systemId profileHash
        else x.activeProfiles } := Iff.rfl

/-- What measuring a candidate that is there does: it answers what it measured, and records its decision. -/
theorem measureCandidate_ok (hrow : x.store.getGeneration d.tenantId generationId = .ok row)
    (hbefore : row.sourceHashBefore = gen.sourceHashBefore)
    (h : measureCandidate d c generationId body gen parentPath candidatePath x = .ok evaluation y) :
    MeasuredAs d c generationId x body gen parentPath candidatePath evaluation.status ∧
      y.store = x.store.recordPromotionDecision evaluation.decision := by
  obtain ⟨htakes, h⟩ := ok_append.1 h
  obtain ⟨specId, hspecId, h⟩ := ok_specIdFor.1 h
  obtain ⟨spec, hspec, h⟩ := ok_reads.1 h
  obtain ⟨parent, hparent, h⟩ := ok_demandSome.1 (ok_get.1 (ok_establishProfile.1 h))
  obtain ⟨candidate, hcandidate, h⟩ := ok_demandSome.1 h
  obtain ⟨hmeasures, h⟩ := ok_demand.1 h
  obtain ⟨hcommits, store, hrun, rfl⟩ := write_eq_ok.1 h
  obtain ⟨⟨g, hg, hstatus⟩, -, hstore⟩ := runPromotionEvaluation_ok hrun
  cases hg.symm.trans hrow
  refine ⟨⟨htakes, specId, hspecId, spec, hspec, parent, hparent, candidate, hcandidate, hmeasures, hcommits, ?_⟩, hstore⟩
  rw [hstatus, hbefore]
  rfl

/-- A decision recorded is not watched. -/
theorem unwatched_of_recorded {decision : PromotionDecision} (hrow : x.store.getGeneration d.tenantId generationId = .ok row)
    (hstore : y.store = x.store.recordPromotionDecision decision) :
    y.store.getGeneration d.tenantId generationId = .ok row ∧ y.effects = x.effects := by
  unfold Governor.effects
  rw [hstore]
  exact ⟨hrow, rfl⟩

theorem MeasuredAs.unique {status' : PromotionStatus} (h : MeasuredAs d c generationId x body gen parentPath candidatePath status)
    (h' : MeasuredAs d c generationId x body gen parentPath candidatePath status') : status = status' := by
  obtain ⟨-, specId, hspecId, spec, hspec, parent, hparent, candidate, hcandidate, -, -, rfl⟩ := h
  obtain ⟨-, _, hspecId', _, hspec', _, hparent', _, hcandidate', -, -, rfl⟩ := h'
  cases hspecId.symm.trans hspecId'
  cases hspec.symm.trans hspec'
  cases hparent.symm.trans hparent'
  cases hcandidate.symm.trans hcandidate'
  rfl

/-- Measurements that go through are answered. -/
theorem exists_measureCandidate (hrow : x.store.getGeneration d.tenantId generationId = .ok row)
    (h : MeasuredAs d c generationId x body gen parentPath candidatePath status) :
    Answers (measureCandidate d c generationId body gen parentPath candidatePath) x := by
  obtain ⟨htakes, specId, hspecId, spec, hspec, parent, hparent, candidate, hcandidate, hmeasures, hcommits, -⟩ := h
  have hanswers : ∃ evaluation store, runPromotionEvaluation d.sha256 x.store
      (body.inputs d generationId gen spec parent candidate) c.outcomes c.now = .ok (evaluation, store) :=
    exists_runPromotionEvaluation hrow
  obtain ⟨evaluation, store, hrun⟩ := hanswers
  unfold measureCandidate
  rw [answers_append]
  refine ⟨htakes, answers_specIdFor.2 ⟨specId, hspecId, answers_reads.2 ⟨spec, hspec, ?_⟩⟩⟩
  rw [answers_establishProfile, answers_get, answers_demandSome]
  refine ⟨parent, hparent, answers_demandSome.2 ⟨candidate, hcandidate, answers_demand.2 ⟨hmeasures, ?_⟩⟩⟩
  exact ⟨_, _, write_eq_ok.2 ⟨hcommits, store, hrun, rfl⟩⟩

theorem effects_of_measureCandidate :
    (after (measureCandidate d c generationId body gen parentPath candidatePath) x).effects = x.effects := by
  refine (uses_measureCandidate (A := fun op => ∃ decision, op = .recordPromotionDecision decision)
    fun decision => ⟨decision, rfl⟩).keeps (I := fun s => s.effects = x.effects) ?_ rfl
  rintro s _ t hstep ⟨decision, rfl⟩ hs
  cases hstep
  exact hs

/-- What is left of an evaluation whose generation is `EVALUATING`. -/
theorem answers_finishEvaluation (hgen : x.store.getGeneration d.tenantId generationId = .ok gen)
    (hstatus : gen.status = .evaluating) : Answers (finishEvaluation d c generationId vad evaluation) x ↔
      c.takes 1 = true ∧ c.takes 2 = true ∧ c.commits 2 = true ∧
        (targetOf (finalStatus vad evaluation.status) = .rejected → c.takes 3 = true) := by
  unfold finishEvaluation
  rw [answers_append, answers_append]
  refine and_congr_right fun _ => and_congr_right fun _ => ?_
  rw [answers_reads]
  generalize finalStatus vad evaluation.status = status
  have htarget : gen.status ≠ targetOf status ∧ targetOf status ≠ .promoted ∧
      canTransition gen.status (targetOf status) = true := by
    rw [hstatus]
    cases status <;> decide
  have hresolved : ∀ z : Governor, z.store = x.store → (Answers (resolveGeneration d c generationId gen (targetOf status) >>=
      fun resolved => if targetOf status = .rejected then do
          appendImprovementEvent (c.takes 3) "IMPROVEMENT_REJECTED" generationId
          return GovernorAnswer.evaluated vad status evaluation.reason resolved
        else return GovernorAnswer.evaluated vad status evaluation.reason resolved) z ↔
      c.commits 2 = true ∧ (targetOf status = .rejected → c.takes 3 = true)) := by
    intro z hstore
    unfold resolveGeneration
    rw [if_neg htarget.1, answers_transition (by rw [hstore, hgen]) htarget.2.1]
    simp only [htarget.2.2, true_and]
    refine and_congr_right fun _ => ?_
    split
    · next hrejected => simp only [answers_append, answers_return, and_true, hrejected, forall_const]
    · next hrejected => exact iff_of_true (answers_pure _) fun h => absurd h hrejected
  constructor
  · rintro ⟨a, ha, h⟩
    cases ha.symm.trans hgen
    exact (hresolved _ (by rfl)).1 h
  · exact fun h => ⟨gen, hgen, (hresolved _ (by rfl)).2 h⟩

/-- What is left of an evaluation of an evaluated generation: it may become `REJECTED`, and nothing else. -/
theorem leaves_finishEvaluation (hgen : x.store.getGeneration d.tenantId generationId = .ok gen)
    (hstatus : gen.status = .evaluated) (hx : x.effects = v) :
    Leaves Governor.effects v (finishEvaluation d c generationId vad evaluation) x ↔
      (c.takes 1 = true → c.takes 2 = true → c.commits 2 = true →
        targetOf (finalStatus vad evaluation.status) = .rejected → c.takes 3 = true) := by
  unfold finishEvaluation
  rw [leaves_append hx]
  refine forall_congr' fun _ => ?_
  rw [leaves_append ?_]
  · refine forall_congr' fun _ => ?_
    rw [leaves_reads ?_]
    · generalize finalStatus vad evaluation.status = status
      simp only [hgen, Except.ok.injEq, forall_eq']
      have htargets : targetOf status = .evaluated ∨ targetOf status = .indeterminate ∨ targetOf status = .rejected := by
        cases status <;> decide
      have hmoves : ∀ target, target ≠ .evaluated →
          resolveGeneration d c generationId gen target = write (c.commits 2) fun s =>
            s.transitionGeneration d.tenantId generationId gen.stateVersion target none := by
        intro target hne
        rw [resolveGeneration, hstatus, if_neg hne.symm]
      rcases htargets with htarget | htarget | htarget
      · have hstays : resolveGeneration d c generationId gen .evaluated = pure gen := by
          rw [resolveGeneration, hstatus, if_pos rfl]
        simp only [htarget, hstays, pure_bind, reduceCtorEq, if_false, false_imp_iff, implies_true, iff_true]
        exact leaves_pure _
      · simp only [htarget, hmoves _ (show GenerationState.indeterminate ≠ .evaluated by decide), reduceCtorEq, if_false,
          false_imp_iff, implies_true, iff_true]
        rw [leaves_transition (by exact hgen) (by decide) (by exact hx), hstatus]
        exact fun _ hcan => nomatch hcan
      · simp only [htarget, hmoves _ (show GenerationState.rejected ≠ .evaluated by decide), if_true, forall_const]
        rw [leaves_transition_iff (A := fun _ => True) (by exact hgen) (by decide) (by exact hx) fun _ =>
          (uses_append _ _ _).bind fun _ => .pure _, hstatus]
        simp only [answers_append, answers_return, and_true]
        exact forall_congr' fun _ => ⟨fun h => h (by decide), fun h _ => h⟩
    · exact hx
  · exact hx

/-- An evaluation whose generation is `EVALUATING` answers when it comes to its verdict and the generation to the state it
calls for. -/
theorem answers_evaluating (hrow : x.store.getGeneration d.tenantId generationId = .ok row)
    (hbefore : row.sourceHashBefore = gen.sourceHashBefore) (hstatus : row.status = .evaluating) :
    Answers (measureCandidate d c generationId body gen parentPath candidatePath >>= fun evaluation => do
        let vad ← demandSome c.vad .other
        finishEvaluation d c generationId vad evaluation) x ↔
      ∃ status, VerdictAs d c generationId x body gen parentPath candidatePath status ∧
        c.commits 2 = true ∧ (targetOf status = .rejected → c.takes 3 = true) := by
  unfold VerdictAs
  constructor
  · intro h
    obtain ⟨evaluation, y, hmeasure, h⟩ := answers_bind.1 h
    obtain ⟨hmeasured, hstore⟩ := measureCandidate_ok hrow hbefore hmeasure
    obtain ⟨vad, hvad, h⟩ := answers_demandSome.1 h
    obtain ⟨hrow', -⟩ := unwatched_of_recorded hrow hstore
    obtain ⟨htakes, htakes', hcommits, hledger⟩ := (answers_finishEvaluation hrow' hstatus).1 h
    exact ⟨_, ⟨_, hmeasured, vad, hvad, htakes, htakes', rfl⟩, hcommits, hledger⟩
  · rintro ⟨_, ⟨measured, hmeasured, vad, hvad, htakes, htakes', rfl⟩, hcommits, hledger⟩
    obtain ⟨evaluation, y, hmeasure⟩ := exists_measureCandidate hrow hmeasured
    obtain ⟨hmeasured', hstore⟩ := measureCandidate_ok hrow hbefore hmeasure
    obtain ⟨hrow', -⟩ := unwatched_of_recorded hrow hstore
    cases MeasuredAs.unique hmeasured hmeasured'
    exact answers_bind.2 ⟨evaluation, y, hmeasure, answers_demandSome.2 ⟨vad, hvad,
      (answers_finishEvaluation hrow' hstatus).2 ⟨htakes, htakes', hcommits, hledger⟩⟩⟩

/-- An evaluation of an evaluated generation leaves what is watched as it was if, once the generation is `REJECTED`, the
ledger takes it. -/
theorem leaves_evaluated (hgen : x.store.getGeneration d.tenantId generationId = .ok gen) (hstatus : gen.status = .evaluated) :
    Leaves Governor.effects x.effects (measureCandidate d c generationId body gen parentPath candidatePath >>=
        fun evaluation => do
          let vad ← demandSome c.vad .other
          finishEvaluation d c generationId vad evaluation) x ↔
      ∀ status, VerdictAs d c generationId x body gen parentPath candidatePath status → c.commits 2 = true →
        targetOf status = .rejected → c.takes 3 = true := by
  rw [leaves_bind]
  constructor
  · rintro ⟨-, h⟩ _ ⟨measured, hmeasured, vad, hvad, htakes, htakes', rfl⟩ hcommits hrejected
    obtain ⟨evaluation, y, hmeasure⟩ := exists_measureCandidate hgen hmeasured
    obtain ⟨hmeasured', hstore⟩ := measureCandidate_ok hgen rfl hmeasure
    obtain ⟨hgen', heffects⟩ := unwatched_of_recorded hgen hstore
    cases hmeasured.unique hmeasured'
    have hleaves := (leaves_demandSome heffects).1 (h evaluation y hmeasure) vad hvad
    exact (leaves_finishEvaluation hgen' hstatus heffects).1 hleaves htakes htakes' hcommits hrejected
  · refine fun h => ⟨fun e y herror => ?_, fun evaluation y hmeasure => ?_⟩
    · have heffects : (after (measureCandidate d c generationId body gen parentPath candidatePath) x).effects = x.effects :=
        effects_of_measureCandidate
      rw [after, herror] at heffects
      exact heffects
    · obtain ⟨hmeasured, hstore⟩ := measureCandidate_ok hgen rfl hmeasure
      obtain ⟨hgen', heffects⟩ := unwatched_of_recorded hgen hstore
      refine (leaves_demandSome heffects).2 fun vad hvad => (leaves_finishEvaluation hgen' hstatus heffects).2 ?_
      exact fun htakes htakes' => h _ ⟨_, hmeasured, vad, hvad, htakes, htakes', rfl⟩

theorem leaves_evaluate_iff {body : Option EvaluateBody} :
    Leaves Governor.effects x.effects (handleEvaluate d c generationId body) x ↔
      EvaluateFinishes d c generationId x body := by
  unfold handleEvaluate startEvaluation EvaluateFinishes
  simp only [bind_assoc]
  rw [leaves_demandSome rfl]
  refine forall₂_congr fun b _ => ?_
  rw [leaves_get, leaves_demandSome rfl]
  refine forall₂_congr fun workspaces _ => ?_
  rw [leaves_demandSome rfl]
  refine forall₂_congr fun candidatePath _ => ?_
  rw [leaves_reads rfl]
  refine forall₂_congr fun gen hgen => ?_
  by_cases hbuilt : gen.status = .built
  · simp only [enterEvaluation, hbuilt, bind_assoc, pure_bind, forall_const, reduceCtorEq, false_imp_iff, and_true]
    rw [leaves_transition_iff hgen (by decide) rfl fun _ => (uses_measureCandidate fun _ => ⟨_, _, rfl⟩).bind fun _ =>
      .bind (.demandSome _ _) fun _ => uses_finishEvaluation body, hbuilt]
    refine forall_congr' fun _ => ?_
    rw [answers_evaluating (getGeneration_moving hgen) ?_ rfl]
    · exact ⟨fun h => h (by decide), fun h _ => h⟩
    · rfl
  · by_cases hevaluated : gen.status = .evaluated
    · simp only [enterEvaluation, hevaluated, pure_bind, forall_const, reduceCtorEq, false_imp_iff, true_and]
      exact leaves_evaluated hgen hevaluated
    · simp only [hbuilt, hevaluated, false_imp_iff, and_self, iff_true]
      have henter : enterEvaluation d c generationId gen = throw (notEvaluable gen.status) := by
        unfold enterEvaluation
        split
        · next h => exact absurd h hbuilt
        · next h => exact absurd h hevaluated
        · rfl
      intro e y h
      rcases bind_eq_error.1 h with h | ⟨_, _, h, -⟩
      · rw [henter] at h
        cases h
        rfl
      · rw [henter] at h
        cases h

end

end

end Tna.Improvement
