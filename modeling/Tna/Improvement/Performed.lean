import Tna.Improvement.Governor
import Tna.Improvement.Operations

/-!
# What a request does to the store

Whatever a handler does and wherever it stops, what it did to the store is a run of store
operations, and the generations it moved are the one it is about, to the states its
request is for.
-/

namespace Tna.Improvement

open Tna.Lib Tna.Js

/-- The generation a request is about. -/
def GovernorRequest.generationId : GovernorRequest → Text
  | .authorize generationId => generationId
  | .build generationId _ => generationId
  | .evaluate generationId _ => generationId
  | .canary generationId _ => generationId
  | .promote generationId _ => generationId
  | .rollback generationId _ => generationId

/-- The states a request may take its generation to. -/
def GovernorRequest.targets : GovernorRequest → List GenerationState
  | .authorize _ => [.authorized]
  | .build _ _ => [.building, .built]
  | .evaluate _ _ => [.evaluating, .evaluated, .rejected, .indeterminate]
  | .canary _ _ => [.canary]
  | .promote _ _ => [.promoted]
  | .rollback _ _ => [.indeterminate, .rolledBack]

/-- The operations a request may come down to. -/
def GovernorRequest.does (tenantId : Text) (r : GovernorRequest) : StoreOp → Prop
  | .transitionGeneration t generationId _ target _ => t = tenantId ∧ generationId = r.generationId ∧ target ∈ r.targets
  | .recordPromotionDecision _ => ∃ generationId body, r = .evaluate generationId body
  | .startCanaryRun _ _ _ _ => ∃ generationId raw, r = .canary generationId raw
  | .initiateRollback _ _ _ _ _ _ => ∃ generationId raw, r = .rollback generationId raw
  | .completeRollback _ _ _ _ => ∃ generationId raw, r = .rollback generationId raw
  | _ => False

/-- A handler that does no more to the store than operations of a kind. -/
abbrev Uses {α : Type} (A : StoreOp → Prop) (m : Handler α) : Prop := Performs Governor.store StoreOp.Step A m

section
variable {α : Type} {A : StoreOp → Prop} {d : GovernorDeps} {c : RequestContext} {tenantId generationId : Text}

/-! ## The parts of a handler -/

theorem uses_reads (f : ImprovementStore → Except ImprovementThrown α) : Uses A (reads f) := by
  refine .of_view_eq fun x => ?_
  unfold after reads
  cases f x.store <;> rfl

theorem uses_get : Uses A (get : Handler Governor) := .of_view_eq fun _ => rfl

theorem uses_append (takes : Bool) (eventType generationId : Text) :
    Uses A (appendImprovementEvent takes eventType generationId) := by
  refine .of_view_eq fun x => ?_
  unfold after appendImprovementEvent
  cases takes <;> rfl

variable {commits : Bool} {operation : ImprovementStore → ImprovementStore.Result α} {decision : GateDecision}
  {gen : ImprovementGeneration} {raw : JsValue} {body : Option EvaluateBody}

theorem uses_write (h : ∀ s a t, operation s = .ok (a, t) → ∃ op, A op ∧ StoreOp.Step s op t) :
    Uses A (write commits operation) := by
  intro x
  unfold after write
  cases commits with
  | false => exact ⟨[], List.forall_mem_nil _, .nil _⟩
  | true =>
    cases hop : operation x.store with
    | error e =>
      rw [if_pos rfl]
      exact ⟨[], List.forall_mem_nil _, .nil _⟩
    | ok r =>
      obtain ⟨op, hA, hstep⟩ := h _ _ _ hop
      rw [if_pos rfl]
      exact ⟨[op], List.forall_mem_singleton.2 hA, .snoc (.nil _) hstep⟩

/-- A statement that is an operation. -/
theorem uses_operation (op : StoreOp) (hA : A op) (h : ∀ s, op.run s = (operation s).map Prod.snd) :
    Uses A (write commits operation) := by
  refine uses_write fun s a t hop => ⟨op, hA, ?_⟩
  rw [StoreOp.Step, h, hop]
  rfl

theorem uses_transition {version : Nat} {target : GenerationState} {hash : Option Text}
    (hA : A (.transitionGeneration tenantId generationId version target hash)) :
    Uses A (write commits fun s => s.transitionGeneration tenantId generationId version target hash) :=
  uses_operation (.transitionGeneration tenantId generationId version target hash) hA fun _ => rfl

theorem uses_gated {operation : ImprovementOperation} {approvalId : Option Text} {rest : GateDecision → Handler GovernorAnswer}
    (h : ∀ decision, Uses A (rest decision)) : Uses A (gated d c operation generationId approvalId rest) := by
  refine (uses_reads _).bind fun decision => ?_
  split
  · exact h decision
  · exact (uses_reads _).bind fun _ => .pure _

/-! ## The handlers -/

theorem uses_authorize :
    Uses ((GovernorRequest.authorize generationId).does d.tenantId) (handleAuthorize d c generationId) :=
  uses_gated fun _ => (uses_reads _).bind fun _ => (uses_transition ⟨rfl, rfl, by simp [GovernorRequest.targets]⟩).bind fun _ =>
    (uses_append _ _ _).bind fun _ => .pure _

theorem uses_createIsolatedWorkspace (path parentPath : Text) :
    Uses A (createIsolatedWorkspace c generationId path parentPath) := by
  refine .of_view_eq fun x => ?_
  unfold after createIsolatedWorkspace
  cases x.disk path with
  | some t => rfl
  | none => cases (if c.copies then (x.disk parentPath).bind Tree.copy else none) <;> rfl

theorem uses_writeCandidateFiles (path : Text) (files : List (Text × JsValue)) :
    Uses A (writeCandidateFiles c path files) := by
  refine .of_view_eq ?_
  induction files with
  | nil => exact fun x => rfl
  | cons f rest ih =>
    intro x
    unfold after writeCandidateFiles
    cases x.disk path with
    | none => rfl
    | some t =>
      cases hwrite : c.surroundings.writeCandidateFile t f with
      | error e => simp only [hwrite]
      | ok t' =>
        simp only [hwrite]
        exact ih (x.onDisk path t')

theorem uses_finishBuild {workspaces : Workspaces} :
    Uses ((GovernorRequest.build generationId raw).does d.tenantId)
      (finishBuild d c generationId raw decision workspaces gen) := by
  refine (uses_append _ _ _).bind fun _ => (uses_createIsolatedWorkspace _ _).bind fun _ =>
    (uses_writeCandidateFiles _ _).bind fun _ => .bind (.of_view_eq fun _ => rfl) fun _ => .bind ?_ fun _ =>
    (uses_transition ⟨rfl, rfl, by simp [GovernorRequest.targets]⟩).bind fun _ => (uses_append _ _ _).bind fun _ => .pure _
  refine .of_view_eq fun x => ?_
  unfold after hashOnDisk
  cases (if c.measures then x.disk (d.generationWorkspacePath generationId) else none) <;> rfl

theorem uses_build : Uses ((GovernorRequest.build generationId raw).does d.tenantId) (handleBuild d c generationId raw) :=
  uses_gated fun _ => uses_get.bind fun _ => .bind (.demandSome _ _) fun _ => (uses_reads _).bind fun _ =>
    (uses_transition ⟨rfl, rfl, by simp [GovernorRequest.targets]⟩).bind fun _ => uses_finishBuild

theorem uses_specIdFor (generationId : Text) : Uses A (specIdFor generationId) := uses_get.bind fun _ => .demandSome _ _

theorem uses_evaluation {i : EvaluationInputs} (hA : ∀ decision, A (.recordPromotionDecision decision)) :
    Uses A (write commits fun s => runPromotionEvaluation d.sha256 s i c.outcomes c.now) := by
  refine uses_write fun s result t h => ⟨_, hA result.decision, ?_⟩
  rw [(runPromotionEvaluation_ok h).2.2]
  rfl

theorem uses_measureCandidate {body : EvaluateBody} {parentPath candidatePath : Text}
    (hA : ∀ decision, A (.recordPromotionDecision decision)) :
    Uses A (measureCandidate d c generationId body gen parentPath candidatePath) :=
  (uses_append _ _ _).bind fun _ => (uses_specIdFor _).bind fun _ => (uses_reads _).bind fun _ =>
    .bind (.of_view_eq fun _ => rfl) fun _ => uses_get.bind fun _ => .bind (.demandSome _ _) fun _ =>
    .bind (.demandSome _ _) fun _ => .bind (.demand _ _) fun _ => uses_evaluation hA

theorem targetOf_mem (status : PromotionStatus) (body : Option EvaluateBody) :
    targetOf status ∈ (GovernorRequest.evaluate generationId body).targets := by
  cases status <;> simp [targetOf, GovernorRequest.targets]

theorem uses_finishEvaluation (body : Option EvaluateBody) {vad : VadState} {evaluation : EvaluationResult} :
    Uses ((GovernorRequest.evaluate generationId body).does d.tenantId) (finishEvaluation d c generationId vad evaluation) := by
  refine (uses_append _ _ _).bind fun _ => (uses_append _ _ _).bind fun _ => (uses_reads _).bind fun gen =>
    .bind ?_ fun resolved => ?_
  · unfold resolveGeneration
    split
    · exact .pure _
    · exact uses_transition ⟨rfl, rfl, targetOf_mem _ _⟩
  · split
    · exact (uses_append _ _ _).bind fun _ => .pure _
    · exact .pure _

theorem uses_enterEvaluation :
    Uses ((GovernorRequest.evaluate generationId body).does d.tenantId) (enterEvaluation d c generationId gen) := by
  unfold enterEvaluation
  split
  · exact (uses_transition ⟨rfl, rfl, by simp [GovernorRequest.targets]⟩).bind fun _ => .pure _
  · exact .pure _
  · exact .throw _

theorem uses_startEvaluation :
    Uses ((GovernorRequest.evaluate generationId body).does d.tenantId) (startEvaluation d c generationId body) :=
  .bind (.demandSome _ _) fun _ => uses_get.bind fun _ => .bind (.demandSome _ _) fun _ => .bind (.demandSome _ _) fun _ =>
    (uses_reads _).bind fun _ => uses_enterEvaluation.bind fun _ =>
    uses_measureCandidate fun _ => ⟨_, _, rfl⟩

theorem uses_finishCanary (raw : JsValue) {sentinelSession : Text} {canary : CanaryRun} :
    Uses ((GovernorRequest.canary generationId raw).does d.tenantId)
      (finishCanary d c generationId decision sentinelSession canary) :=
  (uses_reads _).bind fun _ => (uses_transition ⟨rfl, rfl, by simp [GovernorRequest.targets]⟩).bind fun _ => (uses_append _ _ _).bind fun _ => .pure _

theorem uses_canary : Uses ((GovernorRequest.canary generationId raw).does d.tenantId) (handleCanary d c generationId raw) :=
  uses_gated fun _ => .bind (.demandSome _ _) fun _ => (uses_specIdFor _).bind fun _ => (uses_reads _).bind fun spec =>
    .bind (uses_operation (.startCanaryRun d.tenantId generationId (d.policyHash spec.canaryPolicy) c.newId)
      ⟨_, _, rfl⟩ fun _ => rfl) fun _ => uses_finishCanary raw

theorem uses_blockPromotion (message : Option Text) : Uses A (blockPromotion c generationId message) := by
  cases message
  · exact .pure _
  · exact (uses_append _ _ _).bind fun _ => .throw _

theorem uses_checkParent : Uses A (checkParent d c generationId gen) := by
  unfold checkParent
  split
  · exact .pure _
  · exact (uses_reads _).bind fun _ => uses_blockPromotion _

theorem uses_promote : Uses ((GovernorRequest.promote generationId raw).does d.tenantId) (handlePromote d c generationId raw) :=
  uses_gated fun _ => (uses_reads _).bind fun _ => uses_get.bind fun _ =>
    (uses_blockPromotion _).bind fun _ => uses_checkParent.bind fun _ =>
    (uses_transition ⟨rfl, rfl, by simp [GovernorRequest.targets]⟩).bind fun _ => (uses_append _ _ _).bind fun _ => .pure _

theorem uses_finishRollback (raw : JsValue) {body : RollbackBody} {rollback : RollbackRecord} :
    Uses ((GovernorRequest.rollback generationId raw).does d.tenantId)
      (finishRollback d c generationId body decision rollback) := by
  refine uses_get.bind fun x => (uses_reads _).bind fun gen => ?_
  split
  · exact (uses_append _ _ _).bind fun _ => (uses_transition ⟨rfl, rfl, by simp [GovernorRequest.targets]⟩).bind fun _ => .pure _
  · exact .bind (uses_operation (.completeRollback d.tenantId rollback.rollbackId .rolledBack
      (some (verifiedReason body.targetGenerationId))) ⟨_, _, rfl⟩ fun _ => rfl) fun _ =>
      (uses_transition ⟨rfl, rfl, by simp [GovernorRequest.targets]⟩).bind fun _ => (uses_append _ _ _).bind fun _ => .pure _

theorem uses_rollback :
    Uses ((GovernorRequest.rollback generationId raw).does d.tenantId) (handleRollback d c generationId raw) :=
  .bind (.demandSome _ _) fun body => uses_gated fun _ => (uses_append _ _ _).bind fun _ =>
    .bind (uses_operation (.initiateRollback d.tenantId generationId body.targetGenerationId body.trigger d.governorAgentId
      c.newId) ⟨_, _, rfl⟩ fun _ => rfl) fun _ => uses_finishRollback raw

/-- **What a request does to the store**: operations of its kind, which move nothing but its generation. -/
theorem uses_handle (r : GovernorRequest) : Uses (r.does d.tenantId) (handle d c r) := by
  cases r with
  | authorize => exact uses_authorize
  | build => exact uses_build
  | evaluate =>
    exact uses_startEvaluation.bind fun _ => .bind (.demandSome _ _) fun _ => uses_finishEvaluation _
  | canary => exact uses_canary
  | promote => exact uses_promote
  | rollback => exact uses_rollback

end

/-! ## Creates -/

/-- An operation that a create may come down to. -/
def StoreOp.creates : StoreOp → Bool
  | .createSystem _ _ _ _ => true
  | .createGeneration _ _ => true
  | .saveSpec _ _ _ => true
  | .getOrCreateRecursionBudget _ _ _ => true
  | .consumeRecursionBudget _ _ _ _ => true
  | _ => false

section
variable {digest : ImprovementSpecInput → Text → Text} {s t : ImprovementStore} {r : CreateRequest} {pc pc' : CreatePc}
  {a : CreateAnswer}

/-- Nothing, or one operation of a create. -/
def CreatesOnce (s t : ImprovementStore) : Prop := t = s ∨ ∃ op : StoreOp, op.creates = true ∧ StoreOp.Step s op t

theorem createsOnce_of_attempt {α : Type} {commits : Bool} {generationId : Option Text} {result : ImprovementStore.Result α}
    {next : α → CreatePc} (h : attempt s commits generationId result next = (t, pc')) (op : StoreOp)
    (hop : op.creates = true) (hrun : ∀ v, result = .ok (v, t) → op.run s = .ok t) : CreatesOnce s t := by
  rcases attempt_cases h with ⟨v, -, hok, -⟩ | ⟨rfl, -⟩
  · exact .inr ⟨op, hop, hrun v hok⟩
  · exact .inl rfl

theorem step_of_createGeneration {i : ImprovementStore.CreateGenerationInput} {newId : Text} {g : ImprovementGeneration}
    (h : s.createGeneration i newId = .ok (g, t)) : StoreOp.Step s (.createGeneration i newId) t := by
  rw [StoreOp.Step, StoreOp.run, h]
  rfl

/-- A budget that is stored is one there was none of. -/
theorem getOrCreate_of_insert {tenantId systemId : Text} {limits : RecursionLimits} {budget : RecursionBudget}
    (h : s.insertRecursionBudget tenantId systemId limits = .ok (budget, t)) :
    s.getOrCreateRecursionBudget tenantId systemId limits = .ok (budget, t) := by
  obtain ⟨hnone, -, -⟩ := insertRecursionBudget_ok h
  unfold ImprovementStore.getOrCreateRecursionBudget
  cases hget : s.getRecursionBudget tenantId systemId with
  | ok b =>
    obtain ⟨hsome, -⟩ := getRecursionBudget_ok hget
    rw [hnone] at hsome
    cases hsome
  | error e => exact h

/-- **What a statement of a create does to the store**. -/
theorem createsOnce_of_create (h : createStep digest s r pc a = some (t, pc')) : CreatesOnce s t := by
  cases pc with
  | started =>
    simp only [createStep] at h
    split at h <;>
    · cases h
      exact .inl rfl
  | unnamed =>
    refine createsOnce_of_attempt (Option.some.inj h) (.createSystem r.tenantId r.body.systemId r.body.createdBy a.newId) rfl
      fun system hok => ?_
    rw [StoreOp.run, hok]
    rfl
  | named systemId =>
    simp only [createStep] at h
    split at h <;>
    · cases h
      exact .inl rfl
  | unbudgeted systemId =>
    refine createsOnce_of_attempt (Option.some.inj h) (.getOrCreateRecursionBudget r.tenantId systemId r.body.limits) rfl
      fun budget hok => ?_
    rw [StoreOp.run, getOrCreate_of_insert hok]
    rfl
  | rereads systemId =>
    simp only [createStep] at h
    split at h <;>
    · cases h
      exact .inl rfl
  | budgeted systemId budget =>
    have hstored := Option.some.inj h
    unfold storeGeneration at hstored
    split at hstored
    · cases hstored
      exact .inl rfl
    · split at hstored
      · cases hstored
        exact .inl rfl
      · cases hstored
        exact .inl rfl
      · rcases attempt_cases hstored with ⟨g, -, hok, -⟩ | ⟨rfl, -⟩
        · exact .inr ⟨.createGeneration _ _, by rfl, step_of_createGeneration hok⟩
        · exact .inl rfl
  | inserted systemId generationId version spec =>
    refine createsOnce_of_attempt (Option.some.inj h)
      (.consumeRecursionBudget r.tenantId systemId version { generations := 1 }) rfl fun budget hok => ?_
    rw [StoreOp.run, hok]
    rfl
  | counted generationId spec =>
    refine createsOnce_of_attempt (Option.some.inj h) (.saveSpec r.tenantId generationId spec) rfl fun _ hok => ?_
    rw [StoreOp.run, hok]
    rfl
  | saved generationId specId =>
    simp only [createStep, Option.some.injEq, Prod.mk.injEq] at h
    exact .inl h.1.symm
  | done => cases h
  | threw => cases h

end

end Tna.Improvement
