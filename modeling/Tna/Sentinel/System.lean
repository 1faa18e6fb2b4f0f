import Tna.Lib.Outcome
import Tna.Sentinel.Runtime

/-!
# Operations of Sentinel among each other

Any number of operations are under way at once on one store. A decision that stops
a session is the only way an operation has of its own to bring the session into a
status that stops: an operation that brings back another decision, from a session
that did not stop when its outcome was applied, leaves a session that does not stop.
-/

namespace Tna.Sentinel

open Tna.Js Tna.Lib

/-! ## Statuses across transactions -/

namespace SentinelStore

theorem status?_put (s : SentinelStore) (row : SessionRow) (key : Text × Text) :
    (s.put row).status? key = if key = row.key then some row.status else s.status? key := by
  unfold status? put
  by_cases h : key = row.key
  · subst h
    rw [AList.lookup_insert, if_pos rfl]
    rfl
  · rw [AList.lookup_insert_ne h, if_neg h]

variable {key : Text × Text} {row : SessionRow} {s s' : SentinelStore} {ok : Bool} {now : Int}

/-- A session's status once its own row is written. -/
theorem status?_put_key {row' : SessionRow} (h : s.sessions.lookup key = some row) (hkey : row'.key = row.key) :
    (s.put row').status? key = some row'.status := by
  have hrow := s.sessions_key key row h
  rw [status?_put, hkey, hrow, if_pos rfl]

theorem status?_of_lookup (h : s.sessions.lookup key = some row) : s.status? key = some row.status := by
  rw [status?, h]
  rfl

theorem onRow_ok {change : SessionRow → Except SentinelThrown (Option SessionRow)} (h : s.onRow ok key change = .ok s') :
    ∃ row, s.sessions.lookup key = some row ∧
      (change row = .ok none ∧ s' = s ∨ ∃ next, change row = .ok (some next) ∧ s' = s.put next) := by
  unfold onRow at h
  split at h
  · cases h
  next row hrow =>
  refine ⟨row, hrow, ?_⟩
  split at h
  · cases h
  · next hchange =>
    split at h
    · cases h
      exact .inl ⟨hchange, rfl⟩
    · cases h
  · next next hchange =>
    split at h
    · cases h
      exact .inr ⟨next, hchange, rfl⟩
    · cases h

/-- **A claim.** It goes by the fresh status, and what it claims is then the status. -/
theorem reconcileAndClaim_ok {decision : SentinelDecisionType} {claim : ClaimResult}
    (h : s.reconcileAndClaim ok now key decision = .ok (s', claim)) :
    ∃ row, s.sessions.lookup key = some row ∧ claim.priorFreshStatus = row.status ∧
      (claim.claimedStatus, claim.kind) = reconcileDecisionTarget row.status decision ∧
      s'.status? key = some claim.claimedStatus := by
  unfold reconcileAndClaim at h
  split at h
  · cases h
  next row hrow =>
  refine ⟨row, hrow, ?_⟩
  simp only at h
  split at h
  · cases h
  split at h
  · next hsame =>
    cases h
    exact ⟨rfl, Prod.ext hsame.symm rfl, status?_of_lookup hrow⟩
  · cases h
    exact ⟨rfl, rfl, status?_put_key hrow rfl⟩

theorem persistDecisionAndViolations_ok {decision : SentinelDecision}
    (h : s.persistDecisionAndViolations ok key decision = .ok s') : s'.status? = s.status? := by
  unfold persistDecisionAndViolations at h
  split at h
  · cases h
    rfl
  · cases h

/-- Saving an observation leaves every status as it was. -/
theorem saveObservation_ok {rt : SentinelRuntime} {isNew : Bool} {input : SentinelObservationInput}
    {observation : SentinelObservation} (h : s.saveObservation rt ok input now = .ok (s', observation, isNew))
    (key : Text × Text) : s'.status? key = s.status? key := by
  unfold saveObservation at h
  split at h
  · cases h
  next row hrow =>
  split at h
  · cases h
  split at h
  · split at h
    · cases h
      rfl
    · cases h
  · simp only at h
    split at h
    · cases h
      have hkey := s.sessions_key _ _ hrow
      have hold := status?_of_lookup hrow
      refine Eq.trans (status?_put _ _ key) ?_
      split
      · next heq =>
        rw [show key = (input.tenantId, input.sentinelSessionId) from heq.trans hkey]
        exact hold.symm
      · rfl
    · cases h

end SentinelStore

/-! ## Operations among each other -/

/-- An operation without an await. -/
inductive SyncStep (s : SentinelStore) : SentinelStore → Prop where
  | createSession {s' : SentinelStore} {ok : Bool} {principal : SentinelPrincipal} {input : SentinelSessionInput}
    {sessionId : Text} {now : Int} {session : SentinelSession}
    (h : s.createSession ok principal input sessionId now = .ok (s', session)) : SyncStep s s'
  | resume {s' : SentinelStore} {ok : Bool} {principal : SentinelPrincipal} {sessionId : Text}
    {input : SentinelStore.ResumeInput} {now : Int} (h : s.resume ok principal sessionId input now = .ok s') :
    SyncStep s s'
  | completeSession {s' : SentinelStore} {ok : Bool} {principal : SentinelPrincipal} {sessionId : Text} {now : Int}
    (h : s.completeSession ok principal sessionId now = .ok s') : SyncStep s s'
  | activateStop {s' : SentinelStore} {ok : Bool} {principal : SentinelPrincipal} {scopeType : StopScopeType}
    {scopeValue reason : Text} {now : Int}
    (h : s.activateStop ok principal scopeType scopeValue reason now = .ok s') : SyncStep s s'
  | releaseStop {s' : SentinelStore} {ok : Bool} {principal : SentinelPrincipal} {scopeType : StopScopeType}
    {scopeValue : Text} {now : Int} (h : s.releaseStop ok principal scopeType scopeValue now = .ok s') : SyncStep s s'
  | setPolicy {s' : SentinelStore} {ok : Bool} {principal : SentinelPrincipal} {policy : SentinelPolicy}
    (h : s.setPolicy ok principal policy = .ok s') : SyncStep s s'

/-- The store and the operations under way. -/
structure System where
  store : SentinelStore
  ops : ℕ → Option OpPc

def System.setOp (x : System) (i : ℕ) (e : OpEffect) : System := ⟨e.store, Function.update x.ops i (some e.pc)⟩

inductive SystemLabel where
  /-- A piece of an operation, with the containment call it makes. -/
  | op (i : ℕ) (called : Option ContainmentCall)
  | sync

inductive SystemStep (rt : SentinelRuntime) (x : System) : SystemLabel → System → Prop where
  | begin {i : ℕ} (request : OpRequest) (a : PieceAnswer) (hi : x.ops i = none) :
    SystemStep rt x (.op i (beginOp rt x.store a request).called) (x.setOp i (beginOp rt x.store a request))
  | step {i : ℕ} {pc : OpPc} {a : OpAnswer} {e : OpEffect} (hi : x.ops i = some pc)
    (h : opStep rt x.store pc a = some e) : SystemStep rt x (.op i e.called) (x.setOp i e)
  | sync {s : SentinelStore} (h : SyncStep x.store s) : SystemStep rt x .sync ⟨s, x.ops⟩

/-- The operations a step does not belong to stay where they are. -/
theorem systemStep_ops {rt : SentinelRuntime} {x y : System} {l : SystemLabel} (h : SystemStep rt x l y) {i : ℕ}
    (hi : ∀ called, l ≠ .op i called) : y.ops i = x.ops i := by
  cases h with
  | @begin j request a hj =>
    have hij : i ≠ j := fun heq => hi _ (by rw [heq])
    exact Function.update_of_ne hij _ _
  | @step j pc a e hj h =>
    have hij : i ≠ j := fun heq => hi _ (by rw [heq])
    exact Function.update_of_ne hij _ _
  | sync h => rfl

/-! ## The decision an operation brings back -/

/-- The session is in a status that stops. -/
def SentinelStore.Stopped (s : SentinelStore) (key : Text × Text) : Prop :=
  ∃ status, s.status? key = some status ∧ status.stops = true

/-- The decision is one that stops the caller. -/
def SentinelDecision.Stops (d : SentinelDecision) : Prop := d.decision = .terminate ∨ d.decision = .hold

/-- What comes back stops the caller: such a decision, or an error. -/
def OpResult.StopsRun : OpResult → Prop
  | .submitted _ (some decision) => decision.Stops
  | .submitted _ none => False
  | _ => True

def OpPc.isDone : OpPc → Bool
  | .done _ => true
  | _ => false

/-- What is known of an operation on a session nothing else stops: the session stops, if
it does, by the operation's own decision. -/
def Verdict (key : Text × Text) (stopped : Prop) : OpPc → Prop
  | .revalidating session .. => session.key = key ∧ ¬ stopped
  | .containing _ key' decision _ => key' = key ∧ decision.Stops
  | .applied decision _ => stopped → decision.Stops
  | .done r => stopped → r.StopsRun

/-- It stays so when the session stops no more than before. -/
theorem Verdict.mono {key : Text × Text} {stopped stopped' : Prop} (h : stopped' → stopped) {pc : OpPc}
    (hpc : Verdict key stopped pc) : Verdict key stopped' pc := by
  cases pc with
  | revalidating session policy caller => exact ⟨hpc.1, fun hs => hpc.2 (h hs)⟩
  | containing action key' decision caller => exact hpc
  | applied decision caller => exact fun hs => hpc (h hs)
  | done r => exact fun hs => hpc (h hs)

section
variable {rt : SentinelRuntime} {s : SentinelStore} {key : Text × Text} {caller : Caller} {a : PieceAnswer}

variable {s' : SentinelStore} {ok : Bool} {principal : SentinelPrincipal} {session : SentinelSession}
  {sessionId tenantId : Text} {decision : SentinelDecision}

theorem stopped_congr (h : s'.status? key = s.status? key) : s'.Stopped key ↔ s.Stopped key := by
  rw [SentinelStore.Stopped, SentinelStore.Stopped, h]

/-- A session just created does not stop. -/
theorem not_stopped_of_create {input : SentinelSessionInput} {now : Int}
    (h : s.createSession ok principal input sessionId now = .ok (s', session)) : ¬ s'.Stopped (input.tenantId, sessionId) := by
  have hstatus : s'.status? (input.tenantId, sessionId) = some .monitoring := by
    obtain ⟨_, -, h⟩ := bind_ok h
    obtain ⟨_, -, h⟩ := bind_ok h
    simp only at h
    split at h
    · cases h
    · cases h
      exact (SentinelStore.status?_put _ _ _).trans (if_pos rfl)
  rintro ⟨status, hs, hstops⟩
  cases hstatus.symm.trans hs
  cases hstops

theorem assertTenant_ok {u : Unit} (h : assertTenant principal tenantId = .ok u) : principal.tenantId = tenantId := by
  unfold assertTenant at h
  split at h
  · cases h
  · next htenant => exact not_not.1 htenant

theorem verdict_throws (e : SentinelThrown) :
    Verdict key ((throws s e).store.Stopped key) (throws s e).pc := fun _ => trivial

theorem verdict_persistOutcome {status : ContainmentStatus} (h : s.Stopped key → decision.Stops) :
    Verdict key ((persistOutcome s ok key decision status caller).store.Stopped key)
      (persistOutcome s ok key decision status caller).pc := by
  simp only [persistOutcome]
  split
  · next s' hpersist =>
    have hstatus := congrFun (SentinelStore.persistDecisionAndViolations_ok hpersist) key
    exact fun hs => h ((stopped_congr hstatus).1 hs)
  · exact verdict_throws _

/-- What a claim claims stops only by the decision, when the session did not stop before it. -/
theorem stops_of_claim {fresh : SessionStatus} {decision : SentinelDecisionType} (hfresh : fresh.stops = false)
    (h : (SentinelStore.reconcileDecisionTarget fresh decision).1.stops = true) : decision = .terminate ∨ decision = .hold := by
  unfold SentinelStore.reconcileDecisionTarget at h
  split at h
  · rw [hfresh] at h
    cases h
  · exact (stops_nextStatusForDecision hfresh h).symm

theorem verdict_applyOutcome (hs : ¬ s.Stopped key) :
    Verdict key ((applyOutcome s key decision caller a).store.Stopped key)
      (applyOutcome s key decision caller a).pc := by
  unfold applyOutcome
  split
  · exact verdict_throws _
  next s' claim hclaim =>
  obtain ⟨row, hrow, -, htarget, hstatus⟩ := SentinelStore.reconcileAndClaim_ok hclaim
  have hfresh : row.status.stops = false := by
    by_contra hstops
    exact hs ⟨_, SentinelStore.status?_of_lookup hrow, by simpa using hstops⟩
  have hclaimed : claim.claimedStatus.stops = true → decision.Stops := by
    intro h
    rw [show claim.claimedStatus = _ from congrArg Prod.fst htarget] at h
    exact stops_of_claim hfresh h
  have hstopped : s'.Stopped key → decision.Stops := by
    rintro ⟨status, hs', hstops⟩
    rw [hstatus] at hs'
    cases hs'
    exact hclaimed hstops
  simp only
  split
  · exact verdict_persistOutcome hstopped
  split
  · next hheld => exact ⟨rfl, hclaimed (by rw [hheld.1]; rfl)⟩
  split
  · next hterminating => exact ⟨rfl, hclaimed (by rw [hterminating]; rfl)⟩
  · exact verdict_persistOutcome hstopped

/-- **What the rest of `applyOutcome` comes to after its containment call**: it persists the outcome in the store as it is
or with the claim resolved, or throws. -/
theorem afterContainment_cases {action : ContainmentAction} {confirmed : Bool} {P : OpEffect → Prop}
    (hheld : ∀ status, action = .hold → (status = .containmentConfirmed → confirmed = true) →
      P (persistOutcome s a.persistOk key decision status caller))
    (hresolved : ∀ {ok target s'} status, action = .terminate → s.resolveClaim ok a.now key target = .ok s' →
      target = .terminated ∨ target = .indeterminate → (status = .containmentConfirmed → confirmed = true) →
      P (persistOutcome s' a.persistOk key decision status caller))
    (hthrew : ∀ e, P (throws s e)) : P (afterContainment s action key decision caller confirmed a) := by
  cases action with
  | hold => cases confirmed <;> exact hheld _ rfl (by simp)
  | terminate =>
    have hunconfirmed : P (afterContainment s .terminate key decision caller false a) := by
      simp only [afterContainment]
      split
      · next hresolve => exact hresolved _ rfl hresolve (.inr rfl) nofun
      · exact hthrew _
    cases confirmed with
    | false => exact hunconfirmed
    | true =>
      simp only [afterContainment] at hunconfirmed ⊢
      split
      · next hresolve => exact hresolved _ rfl hresolve (.inl rfl) fun _ => rfl
      · exact hunconfirmed

theorem verdict_afterContainment {action : ContainmentAction} {confirmed : Bool} (h : decision.Stops) :
    Verdict key ((afterContainment s action key decision caller confirmed a).store.Stopped key)
      (afterContainment s action key decision caller confirmed a).pc := by
  refine afterContainment_cases (P := fun e => Verdict key (e.store.Stopped key) e.pc) (fun _ _ _ => ?_)
    (fun _ _ _ _ _ => ?_) fun _ => verdict_throws _
  · exact verdict_persistOutcome fun _ => h
  · exact verdict_persistOutcome fun _ => h

theorem verdict_evaluateAndApply {policy : SentinelPolicy} {authorityStatus : Option AuthorityStatus} (hkey : session.key = key)
    (hs : ¬ s.Stopped key) :
    Verdict key ((evaluateAndApply rt s session policy authorityStatus caller a).store.Stopped key)
      (evaluateAndApply rt s session policy authorityStatus caller a).pc := by
  simp only [evaluateAndApply]
  split
  · exact verdict_throws _
  · rw [hkey]
    exact verdict_applyOutcome hs

/-- **A later piece keeps it.** -/
theorem verdict_opStep {pc : OpPc} {answer : OpAnswer} {e : OpEffect} (h : opStep rt s pc answer = some e)
    (hpc : Verdict key (s.Stopped key) pc) : Verdict key (e.store.Stopped key) e.pc := by
  unfold opStep at h
  split at h
  · cases h
    exact verdict_evaluateAndApply hpc.1 hpc.2
  · cases h
    exact verdict_throws _
  · cases h
    obtain ⟨rfl, hstops⟩ := hpc
    exact verdict_afterContainment hstops
  · next decision caller =>
    cases h
    cases caller with
    | submit observation => exact hpc
    | evaluate => exact fun _ => trivial
    | control tenantId sessionId =>
      simp only [OpEffect.quiet, OpPc.returned]
      split <;> exact fun _ => trivial
  · cases h

theorem verdict_runEvaluation (hs : ¬ s.Stopped (tenantId, sessionId)) :
    Verdict (tenantId, sessionId) ((runEvaluation rt s tenantId sessionId caller a).store.Stopped (tenantId, sessionId))
      (runEvaluation rt s tenantId sessionId caller a).pc := by
  unfold runEvaluation
  split
  · exact verdict_throws _
  next session hload =>
  have hkey : session.key = (tenantId, sessionId) := by
    unfold SentinelStore.loadSession at hload
    split at hload
    · next row hrow =>
      cases hload
      exact s.sessions_key _ _ hrow
    · cases hload
  split
  · split
    · exact hs
    · exact verdict_throws _
  split
  · exact verdict_throws _
  split
  · exact verdict_evaluateAndApply hkey hs
  split
  · exact ⟨hkey, hs⟩
  · exact verdict_evaluateAndApply hkey hs

/-- **The first piece of a submission** on a session that does not stop establishes it. -/
theorem verdict_submitObservation {input : SentinelObservationInput} (hs : ¬ s.Stopped (input.tenantId, sessionId)) :
    Verdict (input.tenantId, sessionId)
      ((submitObservation rt s principal sessionId input a).store.Stopped (input.tenantId, sessionId))
      (submitObservation rt s principal sessionId input a).pc := by
  simp only [submitObservation]
  split
  · exact verdict_throws _
  next s' observation isNew hchecked =>
  obtain ⟨_, -, hchecked⟩ := bind_ok hchecked
  obtain ⟨_, htenant, hchecked⟩ := bind_ok hchecked
  split at hchecked
  · cases hchecked
  have hs' : ¬ s'.Stopped (input.tenantId, sessionId) := by
    intro hstopped
    exact hs ((stopped_congr (SentinelStore.saveObservation_ok hchecked _)).1 hstopped)
  split
  · rw [assertTenant_ok htenant]
    exact verdict_runEvaluation hs'
  · exact hs'

end

end Tna.Sentinel
