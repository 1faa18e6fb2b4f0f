import Tna.Improvement.Custody
import Tna.Improvement.Recursion
import Tna.Improvement.Restored

/-!
# What is promoted

A governor at work: its creates and requests, the evaluations that wait for their
verdicts, and the changes that others make on its disk. A promotion looks at no workspace,
so what is promoted is what was built and evaluated as long as nobody changes it in
between.
-/

namespace Tna.Improvement

open Tna.Lib Tna.Js

/-! ## A governor at work -/

structure GovernorProcess where
  governor : Governor
  creates : Table Nat (CreateRequest × CreatePc)
  /-- The evaluations that wait for their verdict, each with its generation. -/
  evaluations : Table Nat (Text × EvaluationResult)

/-- What happens to it. The commands of an evaluation change the workspace they run in after it was read, as anybody else
may at any time. -/
inductive ProcessLabel where
  | creates (l : CreateLabel)
  | requests (c : RequestContext) (r : GovernorRequest)
  | startsEvaluation (i : Nat) (c : RequestContext) (generationId : Text) (body : Option EvaluateBody)
  | endsEvaluation (i : Nat) (c : RequestContext)
  | setsProfile (systemId profileHash : Text)
  | changes (path : Text) (content : Option Tree)
  | restarts

/-- What a governor remembers of a create that has saved its spec. -/
def Governor.remember (x : Governor) : Option (CreateRequest × CreatePc) → Governor
  | some (request, .saved generationId specId) =>
    { x with
      workspaces := x.workspaces.insert generationId ⟨request.body.parentWorkspacePath, none⟩
      specIds := x.specIds.insert generationId specId }
  | _ => x

def CreateLabel.index : CreateLabel → Nat
  | .begins i _ => i
  | .goesOn i _ => i

namespace GovernorProcess

def start (disk : Text → Option Tree) : GovernorProcess := ⟨⟨.empty, ∅, ∅, ∅, disk, []⟩, ∅, ∅⟩

def next (d : GovernorDeps) (x : GovernorProcess) : ProcessLabel → Option GovernorProcess
  | .creates l =>
    (CreateSystem.next d.specDigest ⟨x.governor.store, x.creates⟩ l).map fun y =>
      { x with
        governor := Governor.remember { x.governor with store := y.store } (y.creates.lookup l.index)
        creates := y.creates }
  | .requests _ (.evaluate _ _) => none
  | .requests c r => some { x with governor := after (handle d c r) x.governor }
  | .startsEvaluation i c generationId body =>
    match x.evaluations.lookup i with
    | some _ => none
    | none =>
      match startEvaluation d c generationId body x.governor with
      | .ok evaluation governor => some { x with governor, evaluations := x.evaluations.insert i (generationId, evaluation) }
      | .error _ governor => some { x with governor }
  | .endsEvaluation i c =>
    (x.evaluations.lookup i).map fun e =>
      { x with
        governor := after (demandSome c.vad .other >>= fun vad => finishEvaluation d c e.1 vad e.2) x.governor
        evaluations := x.evaluations.erase i }
  | .setsProfile systemId profileHash =>
    some { x with governor := { x.governor with activeProfiles := x.governor.activeProfiles.insert systemId profileHash } }
  | .changes path content =>
    some { x with governor := { x.governor with disk := fun p => if p = path then content else x.governor.disk p } }
  | .restarts =>
    some { x with governor := { x.governor with workspaces := ∅, specIds := ∅, activeProfiles := ∅ }, creates := ∅, evaluations := ∅ }

/-! ## What is promoted -/

/-- The workspace of a promoted generation holds what its latest decision was made on, and what was recorded when it was
built. -/
def PromotedAsBuilt (d : GovernorDeps) (x : Governor) (generationId : Text) : Prop :=
  ∃ row tree decision, x.store.generations.get generationId = some row ∧
    x.disk (d.generationWorkspacePath generationId) = some tree ∧
    (x.store.listPromotionDecisions row.tenantId generationId).getLast? = some decision ∧
    decision.sourceHash = hashDirectoryTree d.sha256 tree ∧ row.sourceHashAfter = some (hashDirectoryTree d.sha256 tree)

/-- **The step leaves what was built alone**: nobody changes the content of the workspace of a generation that is built
and may still be promoted, and none is evaluated again against a parent whose tree has changed. -/
def Undisturbed (d : GovernorDeps) (x : GovernorProcess) : ProcessLabel → Prop
  | .changes path content => ∀ id row, x.governor.store.generations.get id = some row → row.status.awaits →
    d.generationWorkspacePath id = path →
    content.map (hashDirectoryTree d.sha256) = (x.governor.disk path).map (hashDirectoryTree d.sha256)
  | .startsEvaluation _ _ generationId _ => ∀ row w tree, x.governor.store.getGeneration d.tenantId generationId = .ok row →
    row.status = .evaluated → x.governor.workspaces.lookup generationId = some w →
    x.governor.disk w.parentWorkspacePath = some tree → hashDirectoryTree d.sha256 tree = row.sourceHashBefore
  | _ => True

/-- The evaluations under way that may take a generation to `EVALUATED`. -/
def pending (x : GovernorProcess) (generationId : Text) : Prop :=
  ∃ i evaluation, x.evaluations.lookup i = some (generationId, evaluation) ∧ targetOf evaluation.status = .evaluated

def promoted (x : GovernorProcess) (generationId : Text) : Prop :=
  x.governor.store.statusOf generationId = some .promoted

def InCustody (d : GovernorDeps) (x : GovernorProcess) : Prop := x.governor.Custody d x.pending x.promoted

section
variable {d : GovernorDeps} {x y : GovernorProcess} {governor : Governor} {before after' old old' : Text → Prop}
  {labels : List ProcessLabel} {label : ProcessLabel} {generationId : Text}

theorem custody_mono (h : governor.Custody d before old) (hpending : ∀ id, after' id → before id)
    (hneeds : ∀ id row, governor.store.generations.get id = some row → Needs old' row → Needs old row) :
    governor.Custody d after' old' := by
  refine ⟨h.tracked, fun id row hrow => ?_, fun id hnone => ?_⟩
  · have hkept := h.kept id row hrow
    refine ⟨fun hn => hkept.content (hneeds id row hrow hn), fun hlow => ?_, fun hstatus hp => hkept.measured hstatus (hpending _ hp),
      fun hn => hkept.decided (hneeds id row hrow hn)⟩
    exact (hkept.undecided hlow).imp_right fun hfree hp => hfree (hpending _ hp)
  · exact (h.unknown id hnone).imp_right fun hfree hp => hfree (hpending _ hp)

/-- Of a generation whose promotion lies behind nothing is needed. -/
theorem awaits_of_needs {id : Text} {row : ImprovementGeneration} (hrow : y.governor.store.generations.get id = some row)
    (h : Needs y.promoted row) : row.status.awaits := by
  rcases h with hawaits | ⟨hstatus, hnew⟩
  · exact hawaits
  · refine absurd ?_ hnew
    rw [promoted, ImprovementStore.statusOf, Keyed.key_of_get hrow, hrow, Option.map_some, hstatus]

/-- Once its promotion lies behind, nothing is kept of a generation. -/
theorem inCustody_of_custody (h : y.governor.Custody d y.pending old) : InCustody d y := by
  exact custody_mono h (fun _ hp => hp) fun id row hrow hneeds => .inl (awaits_of_needs hrow hneeds)

/-! ## Steps -/

/-- A create stores at most a generation that was not there, as `PROPOSED`. -/
theorem stores_of_creates {op : StoreOp} {s t : ImprovementStore} (hop : op.creates = true) (hstep : StoreOp.Step s op t) :
    t.decisions = s.decisions ∧ (t.generations = s.generations ∨
      ∃ g, s.generations.get g.generationId = none ∧ g.status = .proposed ∧ t.generations = s.generations.put g) := by
  cases op with
  | createSystem =>
    obtain ⟨system, h⟩ := eq_of_map_snd hstep
    obtain ⟨-, -, rfl⟩ := createSystem_ok h
    exact ⟨rfl, .inl rfl⟩
  | createGeneration =>
    obtain ⟨g, h⟩ := eq_of_map_snd hstep
    obtain ⟨hnew, -, -, hstatus, rfl⟩ := createGeneration_ok h
    exact ⟨rfl, .inr ⟨g, hnew, hstatus, rfl⟩⟩
  | saveSpec =>
    obtain ⟨u, h⟩ := eq_of_map_snd hstep
    rcases saveSpec_cases h with ⟨specs, heq⟩ | ⟨message, heq⟩
    · cases heq
      exact ⟨rfl, .inl rfl⟩
    · cases heq
  | getOrCreateRecursionBudget =>
    obtain ⟨budget, h⟩ := eq_of_map_snd hstep
    unfold ImprovementStore.getOrCreateRecursionBudget at h
    split at h
    · cases h
      exact ⟨rfl, .inl rfl⟩
    · obtain ⟨-, -, rfl⟩ := insertRecursionBudget_ok h
      exact ⟨rfl, .inl rfl⟩
  | consumeRecursionBudget tenantId systemId version deltas =>
    obtain ⟨budget, h⟩ := eq_of_map_snd hstep
    rcases consumeRecursionBudget_cases s tenantId systemId version deltas with ⟨b, -, -, -, heq⟩ | ⟨-, heq⟩
    · rw [heq] at h
      cases h
      exact ⟨rfl, .inl rfl⟩
    · rw [heq] at h
      cases h
  | _ => cases hop

theorem custody_of_creates {t : ImprovementStore} (h : governor.Custody d before old)
    (hcreates : CreatesOnce governor.store t) : Governor.Custody d before old { governor with store := t } := by
  rcases hcreates with rfl | ⟨op, hop, hstep⟩
  · exact h
  · obtain ⟨hdecisions, hsame | ⟨g, hnew, hstatus, hput⟩⟩ := stores_of_creates hop hstep
    · unfold Governor.Custody
      rw [hdecisions, hsame]
      exact h
    · unfold Governor.Custody
      rw [hdecisions, hput]
      refine ⟨h.tracked, fun id row hrow => ?_, fun id hnone => h.unknown id ?_⟩
      · rcases Keyed.get_put_cases hrow with ⟨-, rfl⟩ | ⟨-, hold⟩
        · have hlow : ¬ Needs old row := fun hneeds => absurd (rank_of_needs hneeds).1 (by rw [hstatus]; decide)
          refine ⟨fun hneeds => absurd hneeds hlow, fun _ => h.unknown _ hnew, fun hother => ?_, fun hneeds => absurd hneeds hlow⟩
          rw [hstatus] at hother
          cases hother
        · exact h.kept id row hold
      · rw [Keyed.get_put] at hnone
        split at hnone
        · cases hnone
        · exact hnone

theorem custody_remember {create : Option (CreateRequest × CreatePc)} (h : governor.Custody d before old) :
    (governor.remember create).Custody d before old := by
  unfold Governor.remember
  split
  · refine ⟨fun id w path hw hpath => ?_, h.kept, h.unknown⟩
    rcases Table.lookup_insert_cases hw with ⟨-, rfl⟩ | ⟨-, hold⟩
    · cases hpath
    · exact h.tracked id w path hold hpath
  · exact h

theorem custody_handle {c : RequestContext} {r : GovernorRequest} (h : governor.Custody d before old)
    (hr : ∀ generationId body, r ≠ .evaluate generationId body) : (after (handle d c r) governor).Custody d before old := by
  cases r with
  | authorize => exact custody_after_authorize h
  | build => exact custody_after_build h
  | evaluate generationId body => exact absurd rfl (hr generationId body)
  | canary => exact custody_after_canary h
  | promote => exact custody_after_promote h
  | rollback => exact custody_after_rollback h

theorem createsOnce_of_next {l : CreateLabel} {z z' : CreateSystem} {digest : ImprovementSpecInput → Text → Text}
    (h : CreateSystem.next digest z l = some z') : CreatesOnce z.store z'.store := by
  cases l with
  | begins i request =>
    rw [CreateSystem.next] at h
    split at h
    · cases h
    · cases h
      exact .inl rfl
  | goesOn i a =>
    rw [CreateSystem.next] at h
    split at h
    · cases h
    · obtain ⟨⟨t, pc⟩, hstep, rfl⟩ := Option.map_eq_some_iff.1 h
      exact createsOnce_of_create hstep

/-- **A step that leaves what was built alone** keeps custody of it. -/
theorem custody_of_next (hx : InCustody d x) (h : x.next d label = some y) (hundisturbed : Undisturbed d x label) :
    y.governor.Custody d y.pending x.promoted := by
  cases label with
  | creates l =>
    obtain ⟨z, hz, rfl⟩ := Option.map_eq_some_iff.1 h
    exact custody_remember (custody_of_creates hx (createsOnce_of_next hz))
  | requests c r =>
    have hr : ∀ generationId body, r ≠ .evaluate generationId body := by
      rintro generationId body rfl
      cases h
    have hy : y = { x with governor := after (handle d c r) x.governor } := by
      cases r <;> cases h <;> rfl
    rw [hy]
    exact custody_handle hx hr
  | startsEvaluation i c generationId body =>
    have hends : Ends (startEvaluation d c generationId body) x.governor _ _ := ends_startEvaluation hx hundisturbed
    rw [next] at h
    split at h
    · cases h
    · split at h
      · next evaluation governor hok =>
        cases h
        refine custody_mono ((ends_iff.1 hends).1 _ _ hok) (fun id hp => ?_) fun _ _ _ hneeds => hneeds
        obtain ⟨j, other, hother, hgood⟩ := hp
        rcases Table.lookup_insert_cases hother with ⟨-, heq⟩ | ⟨-, hold⟩
        · cases heq
          exact .inr ⟨rfl, hgood⟩
        · exact .inl ⟨j, other, hold, hgood⟩
      · next e governor herror =>
        cases h
        exact (ends_iff.1 hends).2 _ _ herror
  | endsEvaluation i c =>
    obtain ⟨⟨generationId, evaluation⟩, hlookup, rfl⟩ := Option.map_eq_some_iff.1 h
    have hends : (after (demandSome c.vad .other >>= fun vad => finishEvaluation d c generationId vad evaluation)
        x.governor).Custody d x.pending x.promoted := by
      let P : Governor → Prop := Governor.Custody d x.pending x.promoted
      show P _
      exact after_demandSome hx fun vad _ => custody_after_finishEvaluation hx fun hgood => ⟨i, evaluation, hlookup, hgood⟩
    refine custody_mono hends (fun id hp => ?_) fun _ _ _ hneeds => hneeds
    obtain ⟨j, other, hother, hgood⟩ := hp
    exact ⟨j, other, (Table.lookup_of_erase hother).2, hgood⟩
  | setsProfile systemId profileHash =>
    obtain rfl := Option.some.inj h
    exact hx
  | changes path content =>
    obtain rfl := Option.some.inj h
    refine ⟨hx.tracked, fun id row hrow => ?_, hx.unknown⟩
    have hkept := hx.kept id row hrow
    refine ⟨fun hneeds => ?_, hkept.undecided, hkept.measured, hkept.decided⟩
    obtain ⟨tree, htree, hhash⟩ := hkept.content hneeds
    by_cases hpath : d.generationWorkspacePath row.generationId = path
    · have hid := Keyed.key_of_get hrow
      have hsame := hundisturbed id row hrow (awaits_of_needs hrow hneeds) (hid ▸ hpath)
      rw [← hpath, htree, Option.map_some] at hsame
      obtain ⟨left, rfl, hleft⟩ := Option.map_eq_some_iff.1 hsame
      exact ⟨left, if_pos hpath, hhash.trans (congrArg some hleft.symm)⟩
    · exact ⟨tree, (if_neg hpath).trans htree, hhash⟩
  | restarts =>
    obtain rfl := Option.some.inj h
    have hnothing : x.governor.Custody d (pending { x with evaluations := ∅ }) x.promoted :=
      custody_mono hx (fun id ⟨i, evaluation, hlookup, _⟩ => by cases hlookup) fun _ _ _ hneeds => hneeds
    refine ⟨fun id w path hw => ?_, hnothing.kept, hnothing.unknown⟩
    cases hw

/-! ## Runs -/

theorem inCustody_start (disk : Text → Option Tree) : InCustody d (start disk) := by
  refine ⟨fun id w path hw => ?_, fun id row hrow => ?_, fun id _ => ⟨fun decision hmem => ?_, fun ⟨i, evaluation, hlookup, _⟩ => ?_⟩⟩
  · cases hw
  · cases hrow
  · cases hmem
  · cases hlookup

/-- What is kept of a generation that was just promoted. -/
theorem promotedAsBuilt_of_custody (h : governor.Custody d before old) (hnew : ¬ old generationId)
    (hpromoted : governor.store.statusOf generationId = some .promoted) : PromotedAsBuilt d governor generationId := by
  obtain ⟨row, hrow, hstatus⟩ := Option.map_eq_some_iff.1 hpromoted
  have hid := Keyed.key_of_get hrow
  have hkept := h.kept generationId row hrow
  have hneeds : Needs old row := .inr ⟨hstatus, hid ▸ hnew⟩
  obtain ⟨tree, htree, hhash⟩ := hkept.content hneeds
  obtain ⟨⟨first, hfirst, hfirstId, hfirstTenant⟩, hall⟩ := hkept.decided hneeds (by rw [hstatus]; decide)
  have hmem : ∀ decision, decision ∈ governor.store.listPromotionDecisions row.tenantId generationId ↔
      decision ∈ governor.store.decisions ∧ decision.tenantId = row.tenantId ∧ decision.generationId = generationId := by
    intro decision
    rw [ImprovementStore.listPromotionDecisions, (List.perm_insertionSort _ _).mem_iff, List.mem_filter, decide_eq_true_eq]
  have hne : governor.store.listPromotionDecisions row.tenantId generationId ≠ [] :=
    List.ne_nil_of_mem ((hmem first).2 ⟨hfirst, hfirstTenant, hfirstId.trans hid⟩)
  have hlast := (hmem _).1 (List.getLast_mem hne)
  refine ⟨row, tree, _, hrow, hid ▸ htree, List.getLast?_eq_some_getLast hne, ?_, hhash⟩
  have hsource := hall _ hlast.1 (hlast.2.2.trans hid.symm)
  exact Option.mem_unique hsource hhash

/-- **What is promoted is what was built and evaluated**, in every run in which nobody changes the workspace of what is built
and not yet promoted, and no generation is evaluated again against a parent that has changed. -/
theorem promoted_as_built_of_run {disk : Text → Option Tree}
    (hrun : Run (fun x label y => next d x label = some y ∧ Undisturbed d x label) (start disk) labels x)
    (hstep : next d x label = some y) (hundisturbed : Undisturbed d x label)
    (hbefore : x.governor.store.statusOf generationId ≠ some .promoted)
    (hpromoted : y.governor.store.statusOf generationId = some .promoted) : PromotedAsBuilt d y.governor generationId := by
  have hx : InCustody d x := by
    refine hrun.invariant (I := InCustody d) (fun u l v huv hu => ?_) (inCustody_start disk)
    exact inCustody_of_custody (custody_of_next hu huv.1 huv.2)
  exact promotedAsBuilt_of_custody (custody_of_next hx hstep hundisturbed) hbefore hpromoted

end

/-! ## A candidate that was changed -/

/-- The parent's tree, and nothing else. -/
def parentDisk (path : Text) : Option Tree := if path = Text.ofAscii "/srv/parser" then some sampleParent else none

def emptyBody : JsValue := ⟨.obj [], Value.distinct_nil⟩

def noCapabilities : CapabilityProfile := ⟨[], [], [], [], false, false, [], false, .finite 1, []⟩

def evaluateCopy : EvaluateBody where
  regressionTestCommand := none
  securityTestCommand := none
  benchmarks := none
  candidateCapabilityProfile := noCapabilities
  candidateAuthorityProfile := sampleCreate.body.authorityCeiling
  requiredTestManifestBefore := ⟨[]⟩
  requiredTestManifestAfter := ⟨[]⟩
  parentCapabilityProfile := noCapabilities
  humanApproved := none
  independentReviewApproved := none
  evaluationProfileHash := none

/-- A generation is created, built as a copy of its parent, and evaluated. -/
def evaluatedCopy : List ProcessLabel :=
  .creates (.begins 0 sampleCreate) :: (["", "sys", "", "", "", "g0", "", ""].map fun newId =>
      .creates (.goesOn 0 ⟨true, newId, "spec", some (hashDirectoryTree sampleSha256 sampleParent), true⟩)) ++
    [.requests (sampleContext "") (.authorize "g0"), .requests (sampleContext "") (.build "g0" emptyBody),
      .startsEvaluation 0 (sampleContext "") "g0" (some evaluateCopy), .endsEvaluation 0 (sampleContext "")]

def canaryOf : ProcessLabel := .requests (sampleContext "canary") (.canary "g0" emptyBody)

def promotionStep : ProcessLabel := .requests (sampleContext "") (.promote "g0" emptyBody)

/-- What is read of a promotion that is about to happen, and of where it leads. -/
def promotes (x : GovernorProcess) (after : GovernorProcess → Bool) : Bool :=
  decide (x.governor.store.statusOf (Text.ofAscii "g0") ≠ some .promoted) &&
    (next hashingDeps x promotionStep).any fun y =>
      decide (y.governor.store.statusOf (Text.ofAscii "g0") = some .promoted) && after y

theorem promotes_iff {x : GovernorProcess} {after : GovernorProcess → Bool} (h : promotes x after = true) :
    x.governor.store.statusOf "g0" ≠ some .promoted ∧ ∃ y, next hashingDeps x promotionStep = some y ∧
      y.governor.store.statusOf "g0" = some .promoted ∧ after y = true := by
  obtain ⟨hbefore, hstep⟩ := Bool.and_eq_true_iff.1 h
  obtain ⟨y, hy, hafter⟩ := (Option.any_eq_true ..).1 hstep
  obtain ⟨hstatus, hafter⟩ := Bool.and_eq_true_iff.1 hafter
  exact ⟨of_decide_eq_true hbefore, y, hy, of_decide_eq_true hstatus, hafter⟩

/-- Nobody changes anything, and what is evaluated was not before. -/
def quiet (x : GovernorProcess) : ProcessLabel → Bool
  | .changes _ _ => false
  | .startsEvaluation _ _ generationId _ => decide (x.governor.store.statusOf generationId ≠ some .evaluated)
  | _ => true

theorem undisturbed_of_quiet {x : GovernorProcess} {label : ProcessLabel} (h : x.quiet label = true) :
    Undisturbed hashingDeps x label := by
  cases label with
  | changes => cases h
  | startsEvaluation i c generationId body =>
    intro row w tree hrow hstatus
    refine absurd ?_ (of_decide_eq_true h)
    rw [ImprovementStore.statusOf, (getGeneration_ok.1 hrow).1, Option.map_some, hstatus]
  | _ => trivial

theorem promoted_as_built_of_quiet : ∃ y : GovernorProcess, PromotedAsBuilt hashingDeps y.governor "g0" := by
  have hreplay : (replay (fun x label => if x.quiet label = true then next hashingDeps x label else none) (start parentDisk)
      (evaluatedCopy ++ [canaryOf])).any (fun x => promotes x fun _ => true) = true := by decide +kernel
  obtain ⟨x, hrun, htest⟩ := run_of_guarded_test hreplay
  obtain ⟨hbefore, y, hy, hpromoted, -⟩ := promotes_iff htest
  have hundisturbed := hrun.mono fun _ _ _ h => And.intro h.1 (undisturbed_of_quiet h.2)
  exact ⟨y, promoted_as_built_of_run hundisturbed hy trivial hbefore hpromoted⟩

/-- The workspace is emptied after the evaluation, and the generation is promoted all the same. -/
theorem promoted_changed : ∃ labels x y, Run (fun x label y => next hashingDeps x label = some y) (start parentDisk) labels x ∧
    next hashingDeps x promotionStep = some y ∧ x.governor.store.statusOf "g0" ≠ some .promoted ∧
      y.governor.store.statusOf "g0" = some .promoted ∧ ¬ PromotedAsBuilt hashingDeps y.governor "g0" := by
  have hreplay : (replay (next hashingDeps) (start parentDisk)
      (evaluatedCopy ++ [.changes "g0" (some ⟨.nil, rfl⟩), canaryOf])).any (fun x => promotes x fun y =>
        (y.governor.disk "g0").any fun tree => (y.governor.store.generations.get "g0").any fun row =>
          decide (row.sourceHashAfter ≠ some (hashDirectoryTree sampleSha256 tree))) = true := by decide +kernel
  obtain ⟨x, hrun, htest⟩ := run_of_test hreplay
  obtain ⟨hbefore, y, hy, hpromoted, hchanged⟩ := promotes_iff htest
  refine ⟨_, x, y, hrun, hy, hbefore, hpromoted, ?_⟩
  rintro ⟨row, tree, decision, hrow, htree, -, -, hhash⟩
  obtain ⟨tree', htree', hother⟩ := (Option.any_eq_true ..).1 hchanged
  obtain ⟨row', hrow', hne⟩ := (Option.any_eq_true ..).1 hother
  cases hrow.symm.trans hrow'
  cases htree.symm.trans htree'
  exact of_decide_eq_true hne hhash

end GovernorProcess

end Tna.Improvement
