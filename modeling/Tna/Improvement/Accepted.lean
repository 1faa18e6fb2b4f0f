import Tna.Improvement.Undone

/-!
# The accepted generation

A system's accepted generation is the baseline its candidates are measured against. Only a
promotion ever writes it, so it goes on naming a generation that was promoted and then
rolled back. Where no rollback takes back what a system accepts, the baseline is always a
promoted generation of the system, and a rollback leaves the system with its target.
-/

namespace Tna.Improvement

open Tna.Lib Tna.Js

/-! ## Runs -/

/-- What happens around the store: a request of a governor, the part of an evaluation on either side of where it waits for
its verdict, an operation of the store, a statement of a create, and whatever else changes memory, disk and ledger. -/
inductive GovernorLabel where
  | requests (d : GovernorDeps) (c : RequestContext) (r : GovernorRequest)
  | startsEvaluation (d : GovernorDeps) (c : RequestContext) (generationId : Text) (body : Option EvaluateBody)
  | endsEvaluation (d : GovernorDeps) (c : RequestContext) (generationId : Text) (vad : VadState)
      (evaluation : EvaluationResult)
  | operates (op : StoreOp)
  | creates (digest : ImprovementSpecInput → Text → Text) (r : CreateRequest) (pc : CreatePc) (a : CreateAnswer)
  | elsewhere (memory : Governor)

def Governor.next (x : Governor) : GovernorLabel → Option Governor
  | .requests d c r => some (after (handle d c r) x)
  | .startsEvaluation d c generationId body => some (after (startEvaluation d c generationId body) x)
  | .endsEvaluation d c generationId vad evaluation => some (after (finishEvaluation d c generationId vad evaluation) x)
  | .operates op =>
    match op.run x.store with
    | .ok store => some { x with store }
    | .error _ => none
  | .creates digest r pc a => (createStep digest x.store r pc a).map fun done => { x with store := done.1 }
  | .elsewhere memory => some { memory with store := x.store }

/-! ## What a system accepts -/

def ImprovementStore.Accepts (s : ImprovementStore) (tenantId systemId generationId : Text) : Prop :=
  ∃ system, s.getSystem tenantId systemId = .ok system ∧ system.acceptedGenerationId = some generationId

/-- **Baselines**: a system accepts at most one generation, and that is a promoted one of its own. -/
structure ImprovementStore.Baselines (s : ImprovementStore) : Prop where
  promoted : ∀ tenantId systemId generationId, s.Accepts tenantId systemId generationId →
    ∃ g, s.getGeneration tenantId generationId = .ok g ∧ g.systemId = systemId ∧ g.status = .promoted
  unique : ∀ tenantId systemId g g', s.Accepts tenantId systemId g → s.Accepts tenantId systemId g' → g = g'

/-- Whatever a check for a stale parent reads a system to accept is promoted. -/
def ImprovementStore.MeasuresPromoted (s : ImprovementStore) : Prop :=
  ∀ tenantId systemId system accepted, s.getSystem tenantId systemId = .ok system →
    system.acceptedGenerationId = some accepted → s.statusOf accepted = some .promoted

/-- A rollback that answers leaves the system with the target of its record, if it accepts anything. -/
def Restores (d : GovernorDeps) (c : RequestContext) (generationId : Text) (raw : JsValue) (x : Governor) : Prop :=
  ∀ decision record g y, handle d c (.rollback generationId raw) x = .ok (.rolledBack decision record g) y →
    ∀ accepted, y.store.Accepts d.tenantId g.systemId accepted → accepted = record.rollbackTargetGenerationId

/-! ## Rolling back the baseline -/

/-- A rollback comes to where it takes its generation to `ROLLED_BACK`. -/
structure RollsBack (d : GovernorDeps) (c : RequestContext) (generationId : Text) (raw : JsValue) (x : Governor)
    (body : RollbackBody) (g : ImprovementGeneration) : Prop where
  begins : RollbackBegins d c generationId raw x body
  verified : verifyRollbackTarget x body.targetGenerationId = true
  completes : c.commits 1 = true
  commits : c.commits 2 = true
  row : x.store.getGeneration d.tenantId generationId = .ok g
  can : canTransition g.status .rolledBack = true

/-- An operation takes a generation to `ROLLED_BACK` that its system accepts. -/
def StoreOp.RollsBackBaseline (s : ImprovementStore) : StoreOp → Prop
  | .transitionGeneration tenantId generationId version target _ => target = .rolledBack ∧
    ∃ g, s.getGeneration tenantId generationId = .ok g ∧ g.stateVersion = version ∧
      canTransition g.status .rolledBack = true ∧ s.Accepts tenantId g.systemId generationId
  | _ => False

/-- **The step leaves the baselines alone**: a rollback only ever takes back a generation its system does not accept, and
to the one it accepts, if it accepts any. -/
def KeepsBaselines (x : Governor) : GovernorLabel → Prop
  | .requests d c (.rollback generationId raw) => ∀ body g, RollsBack d c generationId raw x body g →
    ∀ accepted, x.store.Accepts d.tenantId g.systemId accepted →
      accepted = body.targetGenerationId ∧ accepted ≠ generationId
  | .operates op => ¬ op.RollsBackBaseline x.store
  | _ => True

/-! ## Operations -/

section
variable {s t : ImprovementStore} {tenantId systemId generationId : Text}

theorem accepts_iff : s.Accepts tenantId systemId generationId ↔ ∃ system, s.systems.get systemId = some system ∧
    system.tenantId = tenantId ∧ system.acceptedGenerationId = some generationId := by
  constructor
  · rintro ⟨system, hsystem, haccepted⟩
    obtain ⟨hget, htenant⟩ := getSystem_ok hsystem
    exact ⟨system, hget, htenant, haccepted⟩
  · rintro ⟨system, hget, htenant, haccepted⟩
    refine ⟨system, ?_, haccepted⟩
    simp only [ImprovementStore.getSystem, hget, htenant, if_true]

theorem baselines_of_promoted (h : ∀ tenantId systemId generationId, s.Accepts tenantId systemId generationId →
    ∃ g, s.getGeneration tenantId generationId = .ok g ∧ g.systemId = systemId ∧ g.status = .promoted) : s.Baselines := by
  refine ⟨h, ?_⟩
  rintro tenantId systemId g g' ⟨system, hsystem, hg⟩ ⟨system', hsystem', hg'⟩
  cases hsystem.symm.trans hsystem'
  exact Option.mem_unique hg hg'

/-- Baselines are a matter of the systems and the generations. -/
theorem ImprovementStore.Baselines.congr (hs : s.Baselines) (hsystems : t.systems = s.systems)
    (hgenerations : t.generations = s.generations) : t.Baselines := by
  refine baselines_of_promoted fun tenantId systemId generationId haccepts => ?_
  rw [accepts_iff, hsystems, ← accepts_iff] at haccepts
  obtain ⟨g, hg, hrest⟩ := hs.promoted _ _ _ haccepts
  rw [getGeneration_ok, ← hgenerations, ← getGeneration_ok] at hg
  exact ⟨g, hg, hrest⟩

/-- A generation that is not accepted may become anything. -/
theorem ImprovementStore.Baselines.put_generation (hs : s.Baselines) {g : ImprovementGeneration}
    (hfree : ∀ tenantId systemId, ¬ s.Accepts tenantId systemId g.generationId) :
    { s with generations := s.generations.put g }.Baselines := by
  refine baselines_of_promoted fun tenantId systemId generationId haccepts => ?_
  have hne : generationId ≠ g.generationId := by
    rintro rfl
    exact hfree tenantId systemId haccepts
  obtain ⟨row, hrow, hrest⟩ := hs.promoted _ _ _ haccepts
  obtain ⟨hget, htenant⟩ := getGeneration_ok.1 hrow
  exact ⟨row, getGeneration_ok.2 ⟨(Keyed.get_put_of_ne hne).trans hget, htenant⟩, hrest⟩

theorem eq_rolledBack_of_promoted {target : GenerationState} (h : canTransition .promoted target = true) :
    target = .rolledBack := by
  simpa [canTransition, generationTransitions] using h

/-- **Every operation keeps the baselines** unless it takes one of them back. -/
theorem baselines_of_step {op : StoreOp} (h : StoreOp.Step s op t) (hop : ¬ op.RollsBackBaseline s) (hs : s.Baselines) :
    t.Baselines := by
  cases move_of_run h with
  | elsewhere hsystems hgenerations => exact hs.congr hsystems hgenerations
  | @opens _ system hnew hnone =>
    refine baselines_of_promoted fun tenantId systemId generationId haccepts => ?_
    obtain ⟨found, hget, htenant, haccepted⟩ := accepts_iff.1 haccepts
    rcases Keyed.get_put_cases hget with ⟨-, rfl⟩ | ⟨-, hold⟩
    · rw [hnone] at haccepted
      cases haccepted
    · exact hs.promoted tenantId systemId generationId (accepts_iff.2 ⟨found, hold, htenant, haccepted⟩)
  | stores hnew =>
    refine hs.put_generation fun tenantId systemId haccepts => ?_
    obtain ⟨g, hg, -⟩ := hs.promoted _ _ _ haccepts
    rw [(getGeneration_ok.1 hg).1] at hnew
    cases hnew
  | @moves g target hash hget hcan _ =>
    refine hs.put_generation fun tenantId systemId haccepts => hop ?_
    obtain ⟨row, hrow, rfl, hpromoted⟩ := hs.promoted _ _ _ haccepts
    obtain ⟨hfound, rfl⟩ := getGeneration_ok.1 hrow
    cases hget.symm.trans hfound
    rw [hpromoted] at hcan
    obtain rfl := eq_rolledBack_of_promoted hcan
    rw [← hpromoted] at hcan
    exact ⟨rfl, g, hrow, rfl, hcan, haccepts⟩
  | @promotes g system hash hget hcan hsystem htenant =>
    -- The system accepts the generation that was promoted; the others accept what they did.
    refine baselines_of_promoted fun tenantId systemId generationId haccepts => ?_
    have hself : (s.generations.put (g.moved .promoted hash)).get g.generationId = some (g.moved .promoted hash) :=
      Keyed.get_put_self
    obtain ⟨found, hfound, rfl, haccepted⟩ := accepts_iff.1 haccepts
    rcases Keyed.get_put_cases hfound with ⟨hkey, rfl⟩ | ⟨hne, hold⟩
    · cases haccepted
      exact ⟨_, getGeneration_ok.2 ⟨hself, htenant.symm⟩, (Keyed.key_of_get hsystem).symm.trans hkey.symm, rfl⟩
    · obtain ⟨row, hrow, hrest⟩ := hs.promoted _ _ _ (accepts_iff.2 ⟨found, hold, rfl, haccepted⟩)
      obtain ⟨hrow, hrowTenant⟩ := getGeneration_ok.1 hrow
      by_cases hid : generationId = g.generationId
      · subst hid
        cases hget.symm.trans hrow
        rw [hrest.2] at hcan
        cases hcan
      · have hne : generationId ≠ (g.moved .promoted hash).generationId := hid
        exact ⟨row, getGeneration_ok.2 ⟨(Keyed.get_put_of_ne hne).trans hrow, hrowTenant⟩, hrest⟩
  | _ => exact hs.congr rfl rfl

end

/-! ## Requests -/

section
variable {α β : Type} {P : Governor → Prop} {d : GovernorDeps} {c : RequestContext} {generationId : Text} {raw : JsValue}
  {x y : Governor} {f : α → Handler β}

theorem after_reads {g : ImprovementStore → Except ImprovementThrown α} (hx : P x)
    (h : ∀ a, g x.store = .ok a → P (after (f a) x)) : P (after (reads g >>= f) x) :=
  ends_after.1 (ends_reads hx fun a ha => ends_after.2 (h a ha))

theorem after_append {takes : Bool} {eventType : Text} {f : Unit → Handler β} (hx : P x)
    (h : takes = true → P (after (f ()) { x with ledger := x.ledger ++ [(eventType, generationId)] })) :
    P (after (appendImprovementEvent takes eventType generationId >>= f) x) :=
  ends_after.1 (ends_append hx fun htakes => ends_after.2 (h htakes))

theorem after_write {commits : Bool} {operation : ImprovementStore → ImprovementStore.Result α} (hx : P x)
    (h : commits = true → ∀ a store, operation x.store = .ok (a, store) → P (after (f a) { x with store })) :
    P (after (write commits operation >>= f) x) :=
  ends_after.1 (ends_write hx fun hcommits a store hop => ends_after.2 (h hcommits a store hop))

theorem after_demandSome {found : Option α} {e : ImprovementThrown} (hx : P x)
    (h : ∀ a, found = some a → P (after (f a) x)) : P (after (demandSome found e >>= f) x) :=
  ends_after.1 (ends_demandSome hx fun a ha => ends_after.2 (h a ha))

theorem after_gated {operation : ImprovementOperation} {approvalId : Option Text} {rest : GateDecision → Handler GovernorAnswer}
    (hx : P x) (h : c.Allows operation generationId approvalId → ∀ decision, P (after (rest decision) x)) :
    P (after (gated d c operation generationId approvalId rest) x) := by
  refine after_reads hx fun decision hdecision => ?_
  split
  · next hallow => exact h ⟨decision, hdecision, hallow⟩ decision
  · exact after_reads hx fun _ _ => hx

theorem baselines_of_transition {s t : ImprovementStore} {tenantId : Text} {version : Nat} {target : GenerationState}
    {hash : Option Text} {moved : ImprovementGeneration}
    (h : s.transitionGeneration tenantId generationId version target hash = .ok (moved, t))
    (hfree : target = .rolledBack → ∀ g, s.getGeneration tenantId generationId = .ok g →
      canTransition g.status .rolledBack = true → ¬ s.Accepts tenantId g.systemId generationId) (hs : s.Baselines) :
    t.Baselines := by
  have hstep : StoreOp.Step s (.transitionGeneration tenantId generationId version target hash) t := by
    rw [StoreOp.Step, StoreOp.run, h]
    rfl
  refine baselines_of_step hstep ?_ hs
  rintro ⟨htarget, g, hg, -, hcan, haccepts⟩
  exact hfree htarget g hg hcan haccepts

/-- **A rollback keeps the baselines** unless it comes to take one of them back. -/
theorem baselines_after_rollback (hkeeps : KeepsBaselines x (.requests d c (.rollback generationId raw)))
    (hx : x.store.Baselines) : (after (handleRollback d c generationId raw) x).store.Baselines := by
  let P : Governor → Prop := fun y => y.store.Baselines
  show P _
  refine after_demandSome hx fun body hbody => ?_
  refine after_gated hx fun hallows decision => ?_
  refine after_append hx fun htakes => ?_
  refine after_write hx fun hcommits record store hinitiated => ?_
  obtain ⟨hgen, htarget, hnew, rfl, rfl⟩ := initiateRollback_ok.1 hinitiated
  have hbegins : RollbackBegins d c generationId raw x body := ⟨hbody, hallows, htakes, hcommits, hgen, htarget, hnew⟩
  have hstarted : ∀ rollbacks, { x.store with rollbacks }.Baselines := fun _ => hx.congr rfl rfl
  refine after_reads (hstarted _) fun g hg => ?_
  split
  · refine after_append (hstarted _) fun _ => ?_
    refine after_write (hstarted _) fun _ moved t hmoved => ?_
    refine baselines_of_transition hmoved ?_ (hstarted _)
    intro h
    cases h
  · next hverified =>
    refine after_write (hstarted _) fun hcompletes done t hdone => ?_
    obtain ⟨_, -, -, -, -, rfl⟩ := completeRollback_ok.1 hdone
    refine after_write (hstarted _) fun hcommits' moved t hmoved => ?_
    have hmovedTo : t.Baselines := by
      refine baselines_of_transition hmoved (fun _ row hrow hcan haccepts => ?_) (hstarted _)
      exact (hkeeps body row ⟨hbegins, Bool.eq_true_of_not_eq_false hverified, hcompletes, hcommits', hrow, hcan⟩ _ haccepts).2 rfl
    exact after_append hmovedTo fun _ => hmovedTo

/-- What is known of a rollback that answered with its generation `ROLLED_BACK`. -/
theorem rollsBack_of_answer {decision : GateDecision} {record : RollbackRecord} {g : ImprovementGeneration}
    (h : handleRollback d c generationId raw x = .ok (.rolledBack decision record g) y) :
    ∃ body row, RollsBack d c generationId raw x body row ∧ g.systemId = row.systemId ∧
      record.rollbackTargetGenerationId = body.targetGenerationId ∧ y.store.systems = x.store.systems := by
  obtain ⟨body, hbody, h⟩ := ok_demandSome.1 h
  obtain ⟨_, hdecision, h⟩ := ok_reads.1 h
  split at h
  · next hallow =>
    obtain ⟨htakes, h⟩ := ok_append.1 h
    obtain ⟨hcommits, started, store, hstarted, h⟩ := ok_write.1 h
    obtain ⟨hgen, htarget, hnew, rfl, rfl⟩ := initiateRollback_ok.1 hstarted
    obtain ⟨row, hrow, h⟩ := ok_reads.1 (ok_get.1 h)
    split at h
    · obtain ⟨-, h⟩ := ok_append.1 h
      obtain ⟨-, moved, store, -, h⟩ := ok_write.1 h
      cases h
    · next hverified =>
      obtain ⟨hcompletes, done, store, hdone, h⟩ := ok_write.1 h
      obtain ⟨record', hfound, -, -, rfl, rfl⟩ := completeRollback_ok.1 hdone
      cases hfound.symm.trans Keyed.get_put_self
      obtain ⟨hcommits', moved, store', hmoved, h⟩ := ok_write.1 h
      obtain ⟨-, h⟩ := ok_append.1 h
      cases h
      obtain ⟨row', hrow', -, hcan, rfl, rfl⟩ := transitionGeneration_ok.1 hmoved
      refine ⟨body, row', ⟨⟨hbody, ⟨_, hdecision, hallow⟩, htakes, hcommits, hgen, htarget, hnew⟩,
        Bool.eq_true_of_not_eq_false hverified, hcompletes, hcommits', hrow', hcan⟩, rfl, rfl, rfl⟩
  · obtain ⟨gen, -, h⟩ := ok_reads.1 h
    cases h

theorem restores_of_keeps (hkeeps : KeepsBaselines x (.requests d c (.rollback generationId raw))) :
    Restores d c generationId raw x := by
  intro decision record g y h accepted haccepts
  obtain ⟨body, row, hrolls, hsystem, htarget, hsystems⟩ := rollsBack_of_answer h
  rw [accepts_iff, hsystems, ← accepts_iff, hsystem] at haccepts
  rw [htarget]
  exact (hkeeps body row hrolls accepted haccepts).1

/-- No other request has an operation for it that could take a generation back. -/
theorem baselines_after_request {r : GovernorRequest} {m : Handler α} (hm : Uses (r.does d.tenantId) m)
    (hr : .rolledBack ∉ r.targets) (hx : x.store.Baselines) : (after m x).store.Baselines := by
  refine hm.keeps (I := ImprovementStore.Baselines) ?_ hx
  intro s op t hstep hdoes hs
  refine baselines_of_step hstep ?_ hs
  intro hop
  cases op with
  | transitionGeneration =>
    obtain ⟨-, -, htarget⟩ := hdoes
    rw [hop.1] at htarget
    exact hr htarget
  | _ => exact hop

end

/-! ## Creates -/

section
variable {digest : ImprovementSpecInput → Text → Text} {s t : ImprovementStore} {r : CreateRequest} {pc pc' : CreatePc}
  {a : CreateAnswer}

/-- **No statement of a create** touches a baseline. -/
theorem baselines_of_create (h : createStep digest s r pc a = some (t, pc')) (hs : s.Baselines) : t.Baselines := by
  rcases createsOnce_of_create h with rfl | ⟨op, hcreates, hstep⟩
  · exact hs
  · refine baselines_of_step hstep (fun hop => ?_) hs
    cases op with
    | transitionGeneration => cases hcreates
    | _ => exact hop

end

/-! ## Every run -/

section
variable {x y : Governor} {label : GovernorLabel}

theorem baselines_next (h : x.next label = some y) (hkeeps : KeepsBaselines x label) (hx : x.store.Baselines) :
    y.store.Baselines := by
  cases label with
  | requests d c r =>
    obtain rfl := Option.some.inj h
    cases r with
    | rollback generationId raw => exact baselines_after_rollback hkeeps hx
    | _ => exact baselines_after_request (uses_handle _) (by simp [GovernorRequest.targets]) hx
  | startsEvaluation d c generationId body =>
    obtain rfl := Option.some.inj h
    exact baselines_after_request uses_startEvaluation (by simp [GovernorRequest.targets]) hx
  | endsEvaluation d c generationId vad evaluation =>
    obtain rfl := Option.some.inj h
    exact baselines_after_request (uses_finishEvaluation none) (by simp [GovernorRequest.targets]) hx
  | operates op =>
    simp only [Governor.next] at h
    split at h
    · next store hop =>
      cases h
      exact baselines_of_step hop hkeeps hx
    · cases h
  | creates digest r pc a =>
    obtain ⟨⟨store, pc'⟩, hstep, rfl⟩ := Option.map_eq_some_iff.1 h
    exact baselines_of_create hstep hx
  | elsewhere memory =>
    obtain rfl := Option.some.inj h
    exact hx

theorem baselines_empty : ImprovementStore.empty.Baselines := by
  refine baselines_of_promoted fun tenantId systemId generationId haccepts => ?_
  obtain ⟨system, hget, -⟩ := accepts_iff.1 haccepts
  cases hget

/-- **The accepted generation**: in a run in which no step takes back what a system accepts, or rolls back to anything
else, every system accepts nothing or a promoted generation of its own, that is what a stale parent is measured against,
and after a rollback the system accepts its target or nothing. -/
theorem baselines_of_run {labels : List GovernorLabel} (hempty : x.store = .empty)
    (hrun : Run (fun x label y => x.next label = some y ∧ KeepsBaselines x label) x labels y) :
    y.store.Baselines ∧ y.store.MeasuresPromoted ∧ ∀ d c generationId raw,
      KeepsBaselines y (.requests d c (.rollback generationId raw)) → Restores d c generationId raw y := by
  have hy : y.store.Baselines := by
    refine hrun.invariant (I := fun y => y.store.Baselines) ?_ ?_
    · exact fun u label v hstep hu => baselines_next hstep.1 hstep.2 hu
    · show x.store.Baselines
      rw [hempty]
      exact baselines_empty
  refine ⟨hy, ?_, fun d c generationId raw hkeeps => restores_of_keeps hkeeps⟩
  intro tenantId systemId system accepted hsystem haccepted
  obtain ⟨g, hg, -, hpromoted⟩ := hy.promoted tenantId systemId accepted ⟨system, hsystem, haccepted⟩
  rw [ImprovementStore.statusOf, (getGeneration_ok.1 hg).1, Option.map_some, hpromoted]

end

/-! ## A baseline that was rolled back -/

/-- A generation is created and taken all the way to `PROMOTED`. -/
def promotionOf (generationId : Text) (parentGenerationId : Option Text) : List GovernorLabel :=
  .operates (.createGeneration ⟨"t", "parser", parentGenerationId, "1", .class1Code, "", "", "u"⟩ generationId) ::
    [GenerationState.authorized, .building, .built, .evaluating, .evaluated, .canary, .promoted].zipIdx.map fun p =>
      .operates (.transitionGeneration "t" generationId p.2 p.1 none)

def promotedOnce : List GovernorLabel := .operates (.createSystem "t" "parser" "u" "parser") :: promotionOf "g0" none

/-- `g1` is promoted over `g0`, and rolled back to it. -/
def promotedTwice : List GovernorLabel :=
  promotedOnce ++ promotionOf "g1" (some "g0") ++
    [.requests sampleDeps (sampleContext "r") (.rollback "g1" (sampleRollback "g0"))]

/-- Nothing is stored yet; there is a workspace for each generation. -/
def emptyGovernor : Governor := { sampleGovernor with store := .empty }

def Governor.acceptsAt (x : Governor) (generationId : Text) (status : GenerationState) : Bool :=
  (x.store.systems.get (Text.ofAscii "parser")).any (fun system =>
      decide (system.tenantId = Text.ofAscii "t" ∧ system.acceptedGenerationId = some generationId)) &&
    (x.store.generations.get generationId).any fun g => decide (g.status = status)

theorem accepts_of_acceptsAt {x : Governor} {generationId : Text} {status : GenerationState}
    (h : x.acceptsAt generationId status = true) :
    x.store.Accepts "t" "parser" generationId ∧ x.store.statusOf generationId = some status := by
  unfold Governor.acceptsAt at h
  obtain ⟨hsystem, hg⟩ := Bool.and_eq_true_iff.1 h
  obtain ⟨system, hget, hsystem⟩ := (Option.any_eq_true ..).1 hsystem
  obtain ⟨htenant, haccepted⟩ := of_decide_eq_true hsystem
  obtain ⟨g, hrow, hstatus⟩ := (Option.any_eq_true ..).1 hg
  refine ⟨accepts_iff.2 ⟨system, hget, htenant, haccepted⟩, ?_⟩
  rw [ImprovementStore.statusOf, hrow, Option.map_some, of_decide_eq_true hstatus]

/-- An operation that takes nothing back. -/
def GovernorLabel.advances : GovernorLabel → Bool
  | .operates (.transitionGeneration _ _ _ target _) => decide (target ≠ .rolledBack)
  | .operates _ => true
  | _ => false

theorem keepsBaselines_of_advances {x : Governor} {label : GovernorLabel} (h : label.advances = true) :
    KeepsBaselines x label := by
  cases label with
  | operates op =>
    cases op with
    | transitionGeneration =>
      rintro ⟨htarget, -⟩
      exact of_decide_eq_true h htarget
    | _ => exact id
  | _ => cases h

theorem baselines_of_run_promoted : ∃ y : Governor, y.store.Accepts "t" "parser" "g0" ∧ y.store.Baselines := by
  have hreplay : (replay (fun x label => if label.advances = true then x.next label else none) emptyGovernor promotedOnce).any
      (fun x => x.acceptsAt "g0" .promoted) = true := by decide +kernel
  obtain ⟨y, hrun, htest⟩ := run_of_guarded_test hreplay
  have hkept : Run (fun x label y => x.next label = some y ∧ KeepsBaselines x label) emptyGovernor promotedOnce y :=
    hrun.mono fun _ _ _ h => ⟨h.1, keepsBaselines_of_advances h.2⟩
  exact ⟨y, (accepts_of_acceptsAt htest).1, (baselines_of_run rfl hkept).1⟩

/-- The system goes on accepting the generation that was rolled back. -/
theorem not_baselines_of_run : ∃ labels y, Run (fun x label y => x.next label = some y) emptyGovernor labels y ∧
    ¬ y.store.Baselines := by
  have hreplay : (replay Governor.next emptyGovernor promotedTwice).any
      (fun x => x.acceptsAt "g1" .rolledBack) = true := by decide +kernel
  obtain ⟨y, hrun, htest⟩ := run_of_test hreplay
  obtain ⟨haccepts, hstatus⟩ := accepts_of_acceptsAt htest
  refine ⟨promotedTwice, y, hrun, fun h => ?_⟩
  obtain ⟨g, hg, -, hpromoted⟩ := h.promoted _ _ _ haccepts
  rw [ImprovementStore.statusOf, (getGeneration_ok.1 hg).1, Option.map_some, hpromoted] at hstatus
  cases hstatus

end Tna.Improvement
