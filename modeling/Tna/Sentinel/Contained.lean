import Tna.Sentinel.Records

/-!
# Containment calls in a history

A call is made between two transactions: one claims a status and one records what came
of the call. The history of a runtime shows the calls, what they came back with, and
what became of the session and of the decisions.
-/

namespace Tna.Sentinel

open Tna.Js Tna.Lib

/-! ## Calls and returns -/

/-- The piece ends with the containment call of a decision for the session. -/
def Piece.Calls (p : Piece) (action : ContainmentAction) (key : Text × Text) (decision : SentinelDecision) : Prop :=
  ∃ caller, p.effect.pc = .containing action key decision caller ∧
    p.effect.called = some ⟨action, key.2, containmentReason decision⟩

/-- The step makes a containment call for the session. -/
def Act.Calls (action : ContainmentAction) (key : Text × Text) (l : Act) : Prop :=
  ∃ p decision, l = .piece p ∧ p.Calls action key decision

/-- The call of a decision for the session came back: it returned or, not confirmed, it threw. -/
def Returned (action : ContainmentAction) (key : Text × Text) (decision : SentinelDecision) (confirmed : Bool)
    (labels : List Act) : Prop :=
  ∃ p q a, [Act.piece p, Act.piece q].Sublist labels ∧ q.op = p.op ∧ p.Calls action key decision ∧
    q.origin = .later p.effect.pc (.contained confirmed a)

def Act.before : Act → Option SentinelStore
  | .piece p => some p.before
  | .sync before _ => some before
  | .stop => none

def Act.after : Act → Option SentinelStore
  | .piece p => some p.effect.store
  | .sync _ after => some after
  | .stop => none

/-- The step brings the session into the status, from another or from none. -/
def Act.Enters (status : SessionStatus) (key : Text × Text) (l : Act) : Prop :=
  ∃ before after, l.before = some before ∧ l.after = some after ∧ before.status? key ≠ some status ∧
    after.status? key = some status

def PieceAnswer.WritesSucceed (a : PieceAnswer) : Prop :=
  a.saveOk = true ∧ a.claimOk = true ∧ a.resolveOk = true ∧ a.resolveAgainOk = true ∧ a.persistOk = true

def OpAnswer.WritesSucceed : OpAnswer → Prop
  | .revalidated _ a => a.WritesSucceed
  | .contained _ a => a.WritesSucceed
  | .resumed => True

/-- The database takes what the step writes. -/
def Act.WritesSucceed : Act → Prop
  | .piece p =>
    match p.origin with
    | .first _ a => a.WritesSucceed
    | .later _ answer => answer.WritesSucceed
  | _ => True

instance (a : PieceAnswer) : Decidable a.WritesSucceed := inferInstanceAs (Decidable (_ ∧ _))

instance : (answer : OpAnswer) → Decidable answer.WritesSucceed
  | .revalidated _ a => inferInstanceAs (Decidable a.WritesSucceed)
  | .contained _ a => inferInstanceAs (Decidable a.WritesSucceed)
  | .resumed => inferInstanceAs (Decidable True)

instance : (l : Act) → Decidable l.WritesSucceed
  | .piece ⟨_, .first _ a, _, _⟩ => inferInstanceAs (Decidable a.WritesSucceed)
  | .piece ⟨_, .later _ answer, _, _⟩ => inferInstanceAs (Decidable answer.WritesSucceed)
  | .sync .. => inferInstanceAs (Decidable True)
  | .stop => inferInstanceAs (Decidable True)

/-! ## Pieces that call -/

section
variable {rt : SentinelRuntime} {s : SentinelStore} {origin : PieceOrigin} {key : Text × Text} {caller : Caller}
  {a : PieceAnswer} {decision : SentinelDecision}

variable {action : ContainmentAction} {caller' : Caller} {decision' : SentinelDecision} {ok confirmed : Bool}
  {status : ContainmentStatus} {s' : SentinelStore} {now : Int} {target : SessionStatus}

theorem not_containing_persistOutcome {key' : Text × Text} :
    (persistOutcome s ok key decision status caller).pc ≠ .containing action key' decision' caller' := by
  intro h
  obtain ⟨e, heq⟩ | ⟨t, heq, -⟩ := persistOutcome_cases s ok key decision status caller
  · rw [heq] at h
    cases h
  · rw [heq] at h
    cases h

/-- What `applyOutcome` comes to. It calls where it claims `HELD` or `TERMINATING` of a session that was in neither. -/
inductive Outcome (s : SentinelStore) (key : Text × Text) (decision : SentinelDecision) (caller : Caller)
    (a : PieceAnswer) : OpEffect → Prop where
  | threw (e : SentinelThrown) : Outcome s key decision caller a (throws s e)
  | persists {s' : SentinelStore} {claim : SentinelStore.ClaimResult}
    (hclaim : s.reconcileAndClaim a.claimOk a.now key decision.decision = .ok (s', claim))
    (hheld : ¬ (claim.kind ≠ .noOpAlreadyStronger ∧ claim.claimedStatus = .held ∧ claim.priorFreshStatus ≠ .held)) :
    Outcome s key decision caller a
      (persistOutcome s' a.persistOk key { decision with transitionResult := claim.kind } .notRequired caller)
  | calls {s' : SentinelStore} {claim : SentinelStore.ClaimResult} {action : ContainmentAction}
    (hclaim : s.reconcileAndClaim a.claimOk a.now key decision.decision = .ok (s', claim))
    (hkind : claim.kind ≠ .noOpAlreadyStronger)
    (haction : action = .hold ∧ claim.claimedStatus = .held ∧ claim.priorFreshStatus ≠ .held ∨
      action = .terminate ∧ claim.claimedStatus = .terminating) :
    Outcome s key decision caller a
      ⟨s', .containing action key { decision with transitionResult := claim.kind } caller,
        some ⟨action, key.2, containmentReason { decision with transitionResult := claim.kind }⟩⟩

theorem outcome_applyOutcome : Outcome s key decision caller a (applyOutcome s key decision caller a) := by
  unfold applyOutcome
  split
  · exact .threw _
  next s' claim hclaim =>
  simp only
  split
  · next hnoop => exact .persists hclaim fun h => h.1 hnoop
  next hkind =>
  split
  · next hheld => exact .calls hclaim hkind (.inl ⟨rfl, hheld⟩)
  next hheld =>
  split
  · next hterminating => exact .calls hclaim hkind (.inr ⟨rfl, hterminating⟩)
  · exact .persists hclaim fun h => hheld h.2

/-- A claim leaves a session alone that has ended or is being ended. -/
theorem kind_of_claim {claim : SentinelStore.ClaimResult}
    (hclaim : s.reconcileAndClaim a.claimOk a.now key decision.decision = .ok (s', claim)) :
    s.status? key = some claim.priorFreshStatus ∧
      (claim.kind = .noOpAlreadyStronger → claim.claimedStatus = claim.priorFreshStatus) ∧
      (claim.kind ≠ .noOpAlreadyStronger → ¬ s.Ending key) := by
  obtain ⟨row, hrow, hprior, htarget, -⟩ := SentinelStore.reconcileAndClaim_ok hclaim
  have hstatus : s.status? key = some row.status := SentinelStore.status?_of_lookup hrow
  refine ⟨hprior ▸ hstatus, fun hnoop => ?_, fun hkind hending => hkind ?_⟩
  · rw [reconcileDecisionTarget_of_ended ((kind_of_target htarget.symm).1 hnoop)] at htarget
    exact (congrArg Prod.fst htarget).trans hprior.symm
  · refine (kind_of_target htarget.symm).2 ?_
    rcases hending with hold | ⟨status, hold, hterminal⟩
    · exact .inr (Option.mem_unique hstatus hold)
    · cases hstatus.symm.trans hold
      exact .inl hterminal

variable {e : OpEffect} {key' : Text × Text}

/-- A call is made on entering `HELD`, and on the claim of a termination. -/
theorem Outcome.of_containing (h : Outcome s key decision caller a e) (hpc : e.pc = .containing action key' decision' caller') :
    e.called = some ⟨action, key'.2, containmentReason decision'⟩ ∧
      (action = .hold ∧ s.status? key' ≠ some .held ∧ e.store.status? key' = some .held ∨
        action = .terminate ∧ ¬ s.Ending key' ∧ e.store.status? key' = some .terminating) := by
  cases h with
  | threw => cases hpc
  | persists => exact absurd hpc not_containing_persistOutcome
  | calls hclaim hkind haction =>
    cases hpc
    obtain ⟨hprior, -, hopen⟩ := kind_of_claim hclaim
    have hnew := SentinelStore.reconcileAndClaim_status hclaim
    refine ⟨rfl, ?_⟩
    rcases haction with ⟨rfl, hheld, hbefore⟩ | ⟨rfl, hterminating⟩
    · left
      rw [hprior, hnew, Function.update_self, hheld]
      exact ⟨rfl, fun heq => hbefore (Option.some.inj heq), rfl⟩
    · right
      rw [hnew, Function.update_self, hterminating]
      exact ⟨rfl, hopen hkind, rfl⟩

/-- A decision that brings a session into `HELD` calls. -/
theorem Outcome.of_held (h : Outcome s key decision caller a e) (hold : s.status? key' ≠ some .held)
    (hnew : e.store.status? key' = some .held) : ∃ decision' caller', e.pc = .containing .hold key' decision' caller' := by
  cases h with
  | threw => exact absurd hnew hold
  | @persists s' claim hclaim hheld =>
    obtain ⟨hprior, hnoop, -⟩ := kind_of_claim hclaim
    rw [persistOutcome_status] at hnew
    rcases status_update (SentinelStore.reconcileAndClaim_status hclaim) key' with hsame | ⟨rfl, hclaimed⟩
    · exact absurd (hsame.symm.trans hnew) hold
    have hclaimedHeld : claim.claimedStatus = .held := Option.mem_unique hclaimed hnew
    have hpriorHeld : claim.priorFreshStatus ≠ .held := fun heq => hold (heq ▸ hprior)
    exact absurd ⟨fun hkind => hpriorHeld ((hnoop hkind).symm.trans hclaimedHeld), hclaimedHeld, hpriorHeld⟩ hheld
  | @calls s' claim action hclaim hkind haction =>
    rcases status_update (SentinelStore.reconcileAndClaim_status hclaim) key' with hsame | ⟨rfl, hclaimed⟩
    · exact absurd (hsame.symm.trans hnew) hold
    have hclaimedHeld : claim.claimedStatus = .held := Option.mem_unique hclaimed hnew
    rcases haction with ⟨rfl, -⟩ | ⟨-, hterminating⟩
    · exact ⟨_, _, rfl⟩
    · cases hclaimedHeld.symm.trans hterminating

/-- What becomes of a claimed termination when its call has come back; `none` where both writes fail. -/
def resolution (confirmed : Bool) (a : PieceAnswer) : Option SessionStatus :=
  if confirmed && a.resolveOk then some .terminated else if a.resolveAgainOk then some .indeterminate else none

theorem resolveClaim_error {e : SentinelThrown} {row : SessionRow} (hrow : s.sessions.lookup key = some row)
    (h : s.resolveClaim ok now key target = .error e) : ok = false := by
  unfold SentinelStore.resolveClaim SentinelStore.onRow at h
  rw [hrow] at h
  simp only at h
  cases ok with
  | false => rfl
  | true =>
    split at h
    · next hchange => cases hchange
    · cases h
    · cases h

theorem resolveClaim_terminating (hold : s.status? key = some .terminating) (h : s.resolveClaim ok now key target = .ok s') :
    ok = true ∧ s'.status? key = some target := by
  obtain ⟨row, hrow, ⟨hnone, -⟩ | ⟨next, hnext, rfl⟩⟩ := SentinelStore.onRow_ok h
  · have hterminating := Option.some.inj ((SentinelStore.status?_of_lookup hrow).symm.trans hold)
    simp [hterminating] at hnone
  · have hok : ok = true := by
      unfold SentinelStore.resolveClaim SentinelStore.onRow at h
      rw [hrow] at h
      simp only [hnext] at h
      cases ok with
      | false => cases h
      | true => rfl
    split at hnext
    · cases hnext
    · cases hnext
      exact ⟨hok, SentinelStore.status?_put_key hrow rfl⟩

/-- **The resolution of a claim.** -/
theorem status_afterContainment (hold : s.status? key = some .terminating) :
    (afterContainment s .terminate key decision caller confirmed a).store.status? key =
      some ((resolution confirmed a).getD .terminating) := by
  obtain ⟨row, hrow, -⟩ := Option.map_eq_some_iff.1 hold
  have hunconfirmed : (afterContainment s .terminate key decision caller false a).store.status? key =
      some ((resolution false a).getD .terminating) := by
    simp only [afterContainment, resolution, Bool.false_and, Bool.false_eq_true, if_false]
    split
    · next hresolve =>
      obtain ⟨hok, hnew⟩ := resolveClaim_terminating hold hresolve
      rw [persistOutcome_status, hnew, hok]
      rfl
    · next hresolve =>
      rw [resolveClaim_error hrow hresolve]
      exact hold
  cases confirmed with
  | false => exact hunconfirmed
  | true =>
    simp only [afterContainment, resolution, Bool.true_and] at hunconfirmed ⊢
    split
    · next hresolve =>
      obtain ⟨hok, hnew⟩ := resolveClaim_terminating hold hresolve
      rw [persistOutcome_status, hnew, hok]
      rfl
    · next hresolve =>
      rw [hunconfirmed, resolveClaim_error hrow hresolve]
      rfl

theorem resolveClaim_other (hother : ¬ (key' = key ∧ s.status? key = some .terminating))
    (h : s.resolveClaim ok now key target = .ok s') : s'.status? key' = s.status? key' := by
  rcases SentinelStore.resolveClaim_status h with hsame | ⟨hold, hnew⟩
  · exact congrFun hsame key'
  · rw [hnew, Function.update_of_ne fun hkey => hother ⟨hkey, hold⟩]

/-- Nothing else changes. -/
theorem status_afterContainment_other (hother : ¬ (action = .terminate ∧ key' = key ∧ s.status? key = some .terminating)) :
    (afterContainment s action key decision caller confirmed a).store.status? key' = s.status? key' := by
  refine afterContainment_cases (P := fun e => e.store.status? key' = s.status? key')
    (fun _ _ _ => congrFun persistOutcome_status key') (fun _ hterminate hresolve _ _ => ?_) fun _ => rfl
  rw [persistOutcome_status, resolveClaim_other (fun h => hother ⟨hterminate, h⟩) hresolve]

theorem not_containing_afterContainment {action' : ContainmentAction} :
    (afterContainment s action key decision caller confirmed a).pc ≠ .containing action' key' decision' caller' := by
  exact afterContainment_cases (P := fun e => e.pc ≠ .containing action' key' decision' caller')
    (fun _ _ _ => not_containing_persistOutcome) (fun _ _ _ _ _ => not_containing_persistOutcome) fun _ => nofun

theorem ending_congr (h : s'.status? = s.status?) : s'.Ending key ↔ s.Ending key := by
  rw [SentinelStore.Ending, SentinelStore.Ending, h]

/-- **A piece that calls.** -/
theorem containing_of_run (h : origin.run rt s = some e) (hpc : e.pc = .containing action key decision caller) :
    e.called = some ⟨action, key.2, containmentReason decision⟩ ∧
      (action = .hold ∧ s.status? key ≠ some .held ∧ e.store.status? key = some .held ∨
        action = .terminate ∧ ¬ s.Ending key ∧ e.store.status? key = some .terminating) := by
  cases shape_of_run h with
  | stays hs hstays =>
    exfalso
    rcases hstays with ⟨_, rfl⟩ | ⟨_, _, _, rfl⟩ <;> cases hpc
  | applies hs =>
    have houtcome := outcome_applyOutcome.of_containing hpc
    rw [ending_congr hs.status, hs.status] at houtcome
    exact houtcome
  | contained => exact absurd hpc not_containing_afterContainment

/-- A piece that brings a session into `HELD` calls. -/
theorem held_of_run (h : origin.run rt s = some e) (hold : s.status? key ≠ some .held)
    (hnew : e.store.status? key = some .held) : ∃ decision caller, e.pc = .containing .hold key decision caller := by
  cases shape_of_run h with
  | stays hs _ => exact absurd ((congrFun hs.status key).symm.trans hnew) hold
  | applies hs => exact outcome_applyOutcome.of_held (fun heq => hold ((congrFun hs.status key).symm.trans heq)) hnew
  | @contained action key₀ decision caller confirmed a =>
    by_cases hother : action = .terminate ∧ key = key₀ ∧ s.status? key₀ = some .terminating
    · obtain ⟨rfl, rfl, hterminating⟩ := hother
      rw [status_afterContainment hterminating] at hnew
      simp only [resolution] at hnew
      split at hnew
      · cases hnew
      · split at hnew <;> cases hnew
    · exact absurd ((status_afterContainment_other hother).symm.trans hnew) hold

/-- A piece that ends a session has its containment call come back. -/
theorem ended_of_run {status : SessionStatus} (h : origin.run rt s = some e)
    (hstatus : status = .terminated ∨ status = .indeterminate) (hold : s.status? key ≠ some status)
    (hnew : e.store.status? key = some status) :
    ∃ decision caller confirmed a, origin = .later (.containing .terminate key decision caller) (.contained confirmed a) ∧
      resolution confirmed a = some status := by
  cases shape_of_run h with
  | stays hs _ => exact absurd ((congrFun hs.status key).symm.trans hnew) hold
  | @applies _ s' key' decision caller a hs =>
    have hmove : PieceMove key s' (fun _ => False) (applyOutcome s' key' decision caller a) := move_applyOutcome
    cases hmove with
    | still hsame _ => exact absurd ((hsame.trans (congrFun hs.status key)).symm.trans hnew) hold
    | @decides _ old target kind _ hbefore htarget hafter _ =>
      cases hafter.symm.trans hnew
      have hterminal : isTerminalStatus status = true := by rcases hstatus with rfl | rfl <;> rfl
      rw [hs.status, ← target_of_terminal htarget hterminal] at hbefore
      exact absurd hbefore hold
    | resolves hpc => exact hpc.elim
  | @contained action key₀ decision caller confirmed a =>
    by_cases hother : action = .terminate ∧ key = key₀ ∧ s.status? key₀ = some .terminating
    · obtain ⟨rfl, rfl, hterminating⟩ := hother
      rw [status_afterContainment hterminating] at hnew
      refine ⟨_, _, _, _, rfl, ?_⟩
      cases hresolution : resolution confirmed a with
      | some status' =>
        rw [hresolution] at hnew
        exact hnew
      | none =>
        rw [hresolution] at hnew
        cases hnew
        rcases hstatus with heq | heq <;> cases heq
    · exact absurd ((status_afterContainment_other hother).symm.trans hnew) hold

end

/-! ## What the calls come to -/

/-- What the history and the store say of a session. -/
structure Contained (key : Text × Text) (labels : List Act) (s : SentinelStore) : Prop where
  /-- No two steps call `containment.terminate`. -/
  once : labels.Pairwise fun l l' => ¬ (l.Calls .terminate key ∧ l'.Calls .terminate key)
  terminated : s.status? key = some .terminated → ∃ decision, Returned .terminate key decision true labels
  indeterminate : s.status? key = some .indeterminate → ∃ decision, Returned .terminate key decision false labels
  /-- The steps that call `containment.hold` are the ones that enter `HELD`. -/
  held : ∀ l ∈ labels, l.Calls .hold key ↔ l.Enters .held key
  confirmed : ∀ row ∈ s.decisions, (row.tenantId, row.sentinelSessionId) = key →
    row.record.containmentStatus = .containmentConfirmed → ∃ action decision,
      Returned action key decision true labels ∧
        row.record = { decision with containmentStatus := .containmentConfirmed }

/-- The invariant: an operation that awaits a containment call has made it, and where a termination was
called for the session has ended or is being ended. -/
structure ContainedRun (key : Text × Text) (labels : List Act) (x : System) : Prop extends
    Contained key labels x.store where
  standing : ∀ i action decision caller, x.ops i = some (.containing action key decision caller) →
    ∃ p, .piece p ∈ labels ∧ p.op = i ∧ p.effect.pc = .containing action key decision caller ∧
      p.Calls action key decision
  ending : (∃ l ∈ labels, l.Calls .terminate key) → x.store.Ending key

section
variable {rt : SentinelRuntime} {x y : System} {l : Act} {labels : List Act} {key : Text × Text} {p : Piece}
  {action : ContainmentAction} {decision : SentinelDecision} {caller : Caller} {confirmed : Bool} {a : PieceAnswer}

theorem System.ops_setOp (x : System) (i j : ℕ) (e : OpEffect) :
    (x.setOp i e).ops j = if j = i then some e.pc else x.ops j := Function.update_apply ..

theorem Returned.snoc (h : Returned action key decision confirmed labels) (l : Act) :
    Returned action key decision confirmed (labels ++ [l]) := by
  obtain ⟨p, q, a, hsub, h⟩ := h
  exact ⟨p, q, a, hsub.trans (List.sublist_append_left _ _), h⟩

/-- A call comes back to the operation that made it. -/
theorem ContainedRun.returned (hx : ContainedRun key labels x) (hi : x.ops p.op = p.origin.stood)
    (horigin : p.origin = .later (.containing action key decision caller) (.contained confirmed a)) :
    Returned action key decision confirmed (labels ++ [.piece p]) := by
  rw [horigin] at hi
  obtain ⟨q, hq, hop, hpc, hcalls⟩ := hx.standing _ _ _ _ hi
  refine ⟨q, p, a, ?_, hop.symm, hcalls, by rw [horigin, hpc]⟩
  exact (List.singleton_sublist.2 hq).append (List.Sublist.refl _)

theorem confirmed_of_resolution (h : resolution confirmed a = some .terminated) : confirmed = true := by
  unfold resolution at h
  split at h
  · next hconfirmed => exact (Bool.and_eq_true_iff.1 hconfirmed).1
  · split at h <;> cases h

theorem not_confirmed_of_resolution (hok : a.resolveOk = true) (h : resolution confirmed a = some .indeterminate) :
    confirmed = false := by
  rw [resolution, hok, Bool.and_true] at h
  cases confirmed with
  | false => rfl
  | true => cases h

theorem Piece.calls_of_containing (h : p.origin.run rt p.before = some p.effect)
    (hpc : p.effect.pc = .containing action key decision caller) : p.Calls action key decision :=
  ⟨caller, hpc, (containing_of_run h hpc).1⟩

theorem calls_iff_enters (h : p.origin.run rt p.before = some p.effect) :
    (Act.piece p).Calls .hold key ↔ (Act.piece p).Enters .held key := by
  constructor
  · rintro ⟨q, decision, hq, caller, hpc, -⟩
    cases hq
    obtain ⟨-, ⟨-, hold, hnew⟩ | ⟨hfalse, -⟩⟩ := containing_of_run h hpc
    · exact ⟨_, _, rfl, rfl, hold, hnew⟩
    · cases hfalse
  · rintro ⟨before, after, hbefore, hafter, hold, hnew⟩
    cases hbefore
    cases hafter
    obtain ⟨decision, caller, hpc⟩ := held_of_run h hold hnew
    exact ⟨p, decision, rfl, Piece.calls_of_containing h hpc⟩

theorem opens_of_terminate (h : p.origin.run rt p.before = some p.effect) (hcalls : (Act.piece p).Calls .terminate key) :
    ¬ p.before.Ending key ∧ p.effect.store.Ending key := by
  obtain ⟨q, decision, hq, caller, hpc, -⟩ := hcalls
  cases hq
  obtain ⟨-, ⟨hfalse, -⟩ | ⟨-, hopen, hnew⟩⟩ := containing_of_run h hpc
  · cases hfalse
  · exact ⟨hopen, .inl hnew⟩

/-- **A piece keeps it.** -/
theorem contained_piece (hi : x.ops p.op = p.origin.stood) (hbefore : p.before = x.store)
    (h : p.origin.run rt p.before = some p.effect) (hwrites : (Act.piece p).WritesSucceed)
    (hx : ContainedRun key labels x) : ContainedRun key (labels ++ [.piece p]) (x.setOp p.op p.effect) := by
  have hstep : HistoryStep rt x (.piece p) (x.setOp p.op p.effect) := .piece hi hbefore h
  have hended : ∀ status, status = .terminated ∨ status = .indeterminate →
      p.effect.store.status? key = some status → x.store.status? key = some status ∨ ∃ decision confirmed a,
        Returned .terminate key decision confirmed (labels ++ [.piece p]) ∧ resolution confirmed a = some status ∧
          a.resolveOk = true := by
    intro status hstatus hnew
    by_cases hold : p.before.status? key = some status
    · rw [hbefore] at hold
      exact .inl hold
    · obtain ⟨decision, caller, confirmed, a, horigin, hresolution⟩ := ended_of_run h hstatus hold hnew
      refine .inr ⟨decision, confirmed, a, hx.returned hi horigin, hresolution, ?_⟩
      simp only [Act.WritesSucceed, horigin] at hwrites
      exact hwrites.2.2.1
  refine ⟨⟨?_, ?_, ?_, ?_, ?_⟩, ?_, ?_⟩
  · refine List.pairwise_append.2 ⟨hx.once, List.pairwise_singleton _ _, ?_⟩
    rintro l hl l' hl' ⟨hcalls, hcalls'⟩
    obtain rfl := List.mem_singleton.1 hl'
    exact (opens_of_terminate h hcalls').1 (hbefore ▸ hx.ending ⟨l, hl, hcalls⟩)
  · intro hterminated
    rcases hended _ (.inl rfl) hterminated with hold | ⟨decision, confirmed, a, hreturned, hresolution, -⟩
    · obtain ⟨decision, hreturned⟩ := hx.terminated hold
      exact ⟨decision, hreturned.snoc _⟩
    · cases confirmed_of_resolution hresolution
      exact ⟨decision, hreturned⟩
  · intro hindeterminate
    rcases hended _ (.inr rfl) hindeterminate with hold | ⟨decision, confirmed, a, hreturned, hresolution, hok⟩
    · obtain ⟨decision, hreturned⟩ := hx.indeterminate hold
      exact ⟨decision, hreturned.snoc _⟩
    · cases not_confirmed_of_resolution hok hresolution
      exact ⟨decision, hreturned⟩
  · intro l hl
    rcases List.mem_append.1 hl with hl | hl
    · exact hx.held l hl
    · rw [List.mem_singleton.1 hl]
      exact calls_iff_enters h
  · intro row hrow hkey hconfirmed
    obtain ⟨s', hentered, -, hrecorded⟩ := recorded_of_run h
    have hold : row ∈ x.store.decisions → ∃ action decision, Returned action key decision true (labels ++ [.piece p]) ∧
        row.record = { decision with containmentStatus := .containmentConfirmed } := by
      intro hrow
      obtain ⟨action, decision, hreturned, hrecord⟩ := hx.confirmed row hrow hkey hconfirmed
      exact ⟨action, decision, hreturned.snoc _, hrecord⟩
    rw [← hbefore, ← hentered.decisions] at hold
    cases hrecorded with
    | nothing heq _ => exact hold (heq ▸ hrow)
    | @row key' decision status caller hpc heq hcall =>
      have hmem : row ∈ s'.decisions ++ [_] := heq ▸ hrow
      rcases List.mem_append.1 hmem with hmem | hmem
      · exact hold hmem
      · obtain rfl := List.mem_singleton.1 hmem
        obtain rfl : key' = key := hkey
        obtain rfl : status = .containmentConfirmed := hconfirmed
        obtain ⟨action, a, horigin⟩ := hcall rfl
        exact ⟨action, decision, hx.returned hi horigin, rfl⟩
  · intro i action decision caller hpc
    by_cases heq : i = p.op
    · subst heq
      rw [System.ops_setOp, if_pos rfl] at hpc
      have hpc : p.effect.pc = .containing action key decision caller := Option.some.inj hpc
      exact ⟨p, List.mem_append_right _ (List.mem_singleton_self _), rfl, hpc, Piece.calls_of_containing h hpc⟩
    · rw [System.ops_setOp, if_neg heq] at hpc
      obtain ⟨q, hq, h⟩ := hx.standing i action decision caller hpc
      exact ⟨q, List.mem_append_left _ hq, h⟩
  · rintro ⟨l, hl, hcalls⟩
    rcases List.mem_append.1 hl with hl | hl
    · obtain ⟨_, hsystem⟩ | ⟨hfalse, -⟩ := systemStep_of_history hstep
      · exact ending_step hsystem (hx.ending ⟨l, hl, hcalls⟩)
      · cases hfalse
    · obtain rfl := List.mem_singleton.1 hl
      exact (opens_of_terminate h hcalls).2

theorem contained_start : ContainedRun key [] System.start := by
  have hstatus : System.start.store.status? key = none := rfl
  refine ⟨⟨.nil, ?_, ?_, ?_, ?_⟩, ?_, ?_⟩
  · intro h
    cases hstatus.symm.trans h
  · intro h
    cases hstatus.symm.trans h
  · rintro l ⟨⟩
  · rintro row ⟨⟩
  · intro i action decision caller h
    cases h
  · rintro ⟨l, ⟨⟩, -⟩

/-- A step that is no piece calls nothing. -/
theorem ContainedRun.snoc (hx : ContainedRun key labels x) (hl : ∀ p, l ≠ .piece p) (henters : ¬ l.Enters .held key)
    (hended : ∀ status, status = .terminated ∨ status = .indeterminate → y.store.status? key = some status →
      x.store.status? key = some status)
    (hdecisions : y.store.decisions = x.store.decisions) (hops : ∀ i pc, y.ops i = some pc → x.ops i = some pc)
    (hending : x.store.Ending key → y.store.Ending key) : ContainedRun key (labels ++ [l]) y := by
  have hcalls : ∀ action, ¬ l.Calls action key := by
    rintro action ⟨p, decision, hp, -⟩
    exact hl p hp
  refine ⟨⟨?_, ?_, ?_, ?_, ?_⟩, ?_, ?_⟩
  · refine List.pairwise_append.2 ⟨hx.once, List.pairwise_singleton _ _, ?_⟩
    rintro l₁ - l₂ hl₂ ⟨-, hcalls₂⟩
    obtain rfl := List.mem_singleton.1 hl₂
    exact hcalls _ hcalls₂
  · intro h
    obtain ⟨decision, hreturned⟩ := hx.terminated (hended _ (.inl rfl) h)
    exact ⟨decision, hreturned.snoc l⟩
  · intro h
    obtain ⟨decision, hreturned⟩ := hx.indeterminate (hended _ (.inr rfl) h)
    exact ⟨decision, hreturned.snoc l⟩
  · intro l' hl'
    rcases List.mem_append.1 hl' with hl' | hl'
    · exact hx.held l' hl'
    · rw [List.mem_singleton.1 hl']
      exact iff_of_false (hcalls _) henters
  · intro row hrow hkey hconfirmed
    obtain ⟨action, decision, hreturned, hrecord⟩ := hx.confirmed row (hdecisions ▸ hrow) hkey hconfirmed
    exact ⟨action, decision, hreturned.snoc l, hrecord⟩
  · intro i action decision caller hpc
    obtain ⟨p, hp, h⟩ := hx.standing i action decision caller (hops i _ hpc)
    exact ⟨p, List.mem_append_left _ hp, h⟩
  · rintro ⟨l', hl', hcalls'⟩
    rcases List.mem_append.1 hl' with hl' | hl'
    · exact hending (hx.ending ⟨l', hl', hcalls'⟩)
    · rw [List.mem_singleton.1 hl'] at hcalls'
      exact absurd hcalls' (hcalls _)

theorem contained_step (h : HistoryStep rt x l y) (hwrites : l.WritesSucceed) (hx : ContainedRun key labels x) :
    ContainedRun key (labels ++ [l]) y := by
  cases h with
  | piece hi hbefore h => exact contained_piece hi hbefore h hwrites hx
  | @sync s h =>
    have hmove := syncMove_of_step h key
    refine hx.snoc (fun p hp => by cases hp) ?_ ?_ (kept_sync h).2.1 (fun i pc hpc => hpc) ?_
    · rintro ⟨before, after, hbefore, hafter, hold, hnew⟩
      cases hbefore
      cases hafter
      cases hmove with
      | still hsame => exact hold (hsame.symm.trans hnew)
      | creates _ hnew' => cases hnew'.symm.trans hnew
      | resumes _ hnew' => cases hnew'.symm.trans hnew
      | completes _ _ hnew' => cases hnew'.symm.trans hnew
    · intro status hstatus hnew
      cases hmove with
      | still hsame => exact hsame.symm.trans hnew
      | creates _ hnew' =>
        cases hnew'.symm.trans hnew
        simp at hstatus
      | resumes _ hnew' =>
        cases hnew'.symm.trans hnew
        simp at hstatus
      | completes _ _ hnew' =>
        cases hnew'.symm.trans hnew
        simp at hstatus
    · exact ending_step (SystemStep.sync h : SystemStep rt _ _ _)
  | stop =>
    refine hx.snoc (fun p hp => by cases hp) ?_ (fun _ _ h => h) rfl ?_ id
    · rintro ⟨_, _, hbefore, -⟩
      cases hbefore
    · intro i pc hpc
      cases hpc

/-- **Containment in a history.** However the operations on a session are interleaved, and wherever the process
stopped, if the database took every write: the termination is called for at most once; where the session is
`TERMINATED` the call returned, and where it is `INDETERMINATE` it threw; every entry into `HELD` calls for the
hold once; and a stored decision is confirmed only where its own call returned. -/
theorem contained_of_run (hrun : Run (HistoryStep rt) System.start labels x) (hwrites : ∀ l ∈ labels, l.WritesSucceed) :
    Contained key labels x.store := by
  have hcontained : ContainedRun key labels x := by
    refine hrun.trace_invariant (I := fun labels x => (∀ l ∈ labels, l.WritesSucceed) → ContainedRun key labels x) ?_
      (fun _ => contained_start) hwrites
    intro labels x l y h ih hall
    rw [List.forall_mem_append, List.forall_mem_singleton] at hall
    exact contained_step h hall.2 (ih hall.1)
  exact hcontained.toContained

end

/-- A session that a controller terminates, whose call is confirmed. -/
def terminatingMoves : List HistoryMove :=
  [.create sampleController sampleSession.toSentinelSessionInput "s" 0,
    .begin 0 (.hold sampleController "s" "pause") sampleAnswer, .step 0 (.contained true sampleAnswer),
    .begin 1 (.terminate sampleController "s" "stop") sampleAnswer, .step 1 (.contained true sampleAnswer)]

theorem contained_of_run_terminated :
    ∃ labels x, Run (HistoryStep warningRuntime) System.start labels x ∧ (∀ l ∈ labels, l.WritesSucceed) ∧
      x.store.status? sampleKey = some .terminated ∧ Contained sampleKey labels x.store := by
  obtain ⟨labels, x, hrun, htest⟩ := historyRun_of_test warningRuntime
    (fun l => decide l.WritesSucceed) terminatingMoves (fun x => x.sampleIs .terminated)
    (by decide +kernel)
  have hwrites := hrun.forall_labels (P := Act.WritesSucceed) fun _ _ _ h => of_decide_eq_true h.2
  have hhistory : Run (HistoryStep warningRuntime) System.start labels x := hrun.mono fun _ _ _ h => h.1
  exact ⟨labels, x, hhistory, hwrites, of_decide_eq_true htest, contained_of_run hhistory hwrites⟩

end Tna.Sentinel
