import Tna.Sentinel.History

/-!
# What a piece records

A submission that goes through stores its observation and counts it in the same
transaction, or finds it stored. Nothing else writes an observation or a counter, and a
piece stores a decision exactly where its operation has applied one.
-/

namespace Tna.Sentinel

open Tna.Js Tna.Lib

/-! ## Counters -/

/-- The counters of a session. -/
structure Counts where
  sequence : ℕ
  toolCalls : ℕ
  networkRequests : ℕ
  processSpawns : ℕ
  cost : ℕ

def SentinelSession.counts (session : SentinelSession) : Counts where
  sequence := session.observationSequence
  toolCalls := session.toolCallCount
  networkRequests := session.networkRequestCount
  processSpawns := session.processSpawnCount
  cost := session.sessionCost

namespace SentinelStore

def counts? (s : SentinelStore) (key : Text × Text) : Option Counts :=
  (s.sessions.lookup key).map fun row => row.counts

variable {key : Text × Text} {row : SessionRow} {s s' : SentinelStore} {ok : Bool} {now : Int}

theorem counts?_of_lookup (h : s.sessions.lookup key = some row) : s.counts? key = some row.counts := by
  rw [counts?, h]
  rfl

theorem counts?_put (s : SentinelStore) (row : SessionRow) :
    (s.put row).counts? = Function.update s.counts? row.key (some row.counts) := by
  funext key
  rw [Function.update_apply]
  unfold counts? put
  by_cases h : key = row.key
  · subst h
    rw [AList.lookup_insert, if_pos rfl]
    rfl
  · rw [AList.lookup_insert_ne h, if_neg h]

/-- A row written in place of the one it was read as, with its counters. -/
theorem counts?_put_row {next : SessionRow} (h : s.sessions.lookup key = some row) (hkey : next.key = row.key)
    (hcounts : next.counts = row.counts) : (s.put next).counts? = s.counts? := by
  rw [counts?_put, hkey, s.sessions_key key row h, hcounts, ← counts?_of_lookup h, Function.update_eq_self]

/-- The observations and the counters are the same. -/
structure Kept (s s' : SentinelStore) : Prop where
  observations : s'.observations = s.observations
  counts : s'.counts? = s.counts?

theorem Kept.refl (s : SentinelStore) : Kept s s where
  observations := rfl
  counts := rfl

theorem Kept.trans {t u : SentinelStore} (h : Kept s t) (h' : Kept t u) : Kept s u where
  observations := h'.observations.trans h.observations
  counts := h'.counts.trans h.counts

theorem counts?_of_sessions (h : s'.sessions = s.sessions) : s'.counts? = s.counts? := by
  funext key
  rw [counts?, counts?, h]

theorem kept_onRow {change : SessionRow → Except SentinelThrown (Option SessionRow)}
    (hchange : ∀ row next, change row = .ok (some next) → next.key = row.key ∧ next.counts = row.counts)
    (h : s.onRow ok key change = .ok s') : Kept s s' ∧ s'.decisions = s.decisions := by
  obtain ⟨row, hrow, ⟨-, rfl⟩ | ⟨next, hnext, rfl⟩⟩ := onRow_ok h
  · exact ⟨Kept.refl s', rfl⟩
  · obtain ⟨hkey, hcounts⟩ := hchange row next hnext
    exact ⟨⟨rfl, counts?_put_row hrow hkey hcounts⟩, rfl⟩

theorem kept_reconcileAndClaim {decision : SentinelDecisionType} {claim : ClaimResult}
    (h : s.reconcileAndClaim ok now key decision = .ok (s', claim)) : Kept s s' ∧ s'.decisions = s.decisions := by
  unfold reconcileAndClaim at h
  split at h
  · cases h
  next row hrow =>
  simp only at h
  split at h
  · cases h
  split at h
  · cases h
    exact ⟨Kept.refl s, rfl⟩
  · cases h
    exact ⟨⟨rfl, counts?_put_row hrow rfl rfl⟩, rfl⟩

theorem kept_resolveClaim {target : SessionStatus} (h : s.resolveClaim ok now key target = .ok s') :
    Kept s s' ∧ s'.decisions = s.decisions := by
  refine kept_onRow (fun row next hnext => ?_) h
  split at hnext <;> cases hnext
  exact ⟨rfl, rfl⟩

end SentinelStore

variable {s s' : SentinelStore}

/-- An operation without an await keeps the observations, the decisions and the counters, but for
a new session, whose counters are zero. -/
theorem kept_sync (h : SyncStep s s') :
    s'.observations = s.observations ∧ s'.decisions = s.decisions ∧
      (s'.counts? = s.counts? ∨ ∃ key, s.sessions.lookup key = none ∧
        s'.counts? = Function.update s.counts? key (some ⟨0, 0, 0, 0, 0⟩)) := by
  cases h with
  | @createSession ok principal input sessionId now session h =>
    obtain ⟨_, -, h⟩ := bind_ok h
    obtain ⟨_, -, h⟩ := bind_ok h
    simp only at h
    split at h
    · cases h
    next hfree =>
    cases h
    refine ⟨rfl, rfl, .inr ⟨(input.tenantId, sessionId), ?_, SentinelStore.counts?_put _ _⟩⟩
    rw [Bool.not_eq_true, Bool.or_eq_false_iff] at hfree
    exact Option.isNone_iff_eq_none.1 (Option.isSome_eq_false_iff.1 hfree.2)
  | resume h =>
    obtain ⟨_, -, h⟩ := bind_ok h
    obtain ⟨hkept, hdecisions⟩ := SentinelStore.kept_onRow (fun row next hnext => by
      split at hnext <;> cases hnext
      exact ⟨rfl, rfl⟩) h
    exact ⟨hkept.observations, hdecisions, .inl hkept.counts⟩
  | completeSession h =>
    obtain ⟨_, -, h⟩ := bind_ok h
    obtain ⟨hkept, hdecisions⟩ := SentinelStore.kept_onRow (fun row next hnext => by
      split at hnext <;> cases hnext
      exact ⟨rfl, rfl⟩) h
    exact ⟨hkept.observations, hdecisions, .inl hkept.counts⟩
  | activateStop h =>
    obtain ⟨_, -, h⟩ := bind_ok h
    split at h
    · cases h
      exact ⟨rfl, rfl, .inl (SentinelStore.counts?_of_sessions rfl)⟩
    · cases h
  | releaseStop h =>
    obtain ⟨_, -, h⟩ := bind_ok h
    split at h
    · cases h
    · split at h
      · cases h
        exact ⟨rfl, rfl, .inl (SentinelStore.counts?_of_sessions rfl)⟩
      · cases h
  | setPolicy h =>
    obtain ⟨_, -, h⟩ := bind_ok h
    obtain ⟨_, -, h⟩ := bind_ok h
    split at h
    · cases h
      exact ⟨rfl, rfl, .inl (SentinelStore.counts?_of_sessions rfl)⟩
    · cases h

/-- What an operation without an await may do to the status of a session. -/
inductive SyncMove (key : Text × Text) (s s' : SentinelStore) : Prop where
  | still (h : s'.status? key = s.status? key)
  | creates (hold : s.status? key = none) (hnew : s'.status? key = some .monitoring)
  | resumes (hold : s.status? key = some .held) (hnew : s'.status? key = some .monitoring)
  | completes {old : SessionStatus} (hold : s.status? key = some old) (hopen : old = .monitoring ∨ old = .warned)
    (hnew : s'.status? key = some .completed)

theorem syncMove_of_step (h : SyncStep s s') (key : Text × Text) : SyncMove key s s' := by
  cases h with
  | createSession h =>
    obtain ⟨hnone, hnew⟩ := SentinelStore.createSession_status h
    rcases status_update hnew key with hsame | ⟨rfl, hmonitoring⟩
    · exact .still hsame
    · exact .creates hnone hmonitoring
  | resume h =>
    obtain ⟨hheld, hnew⟩ := SentinelStore.resume_status h
    rcases status_update hnew key with hsame | ⟨rfl, hmonitoring⟩
    · exact .still hsame
    · exact .resumes hheld hmonitoring
  | completeSession h =>
    obtain ⟨⟨old, hold, hopen⟩, hnew⟩ := SentinelStore.completeSession_status h
    rcases status_update hnew key with hsame | ⟨rfl, hcompleted⟩
    · exact .still hsame
    · exact .completes hold hopen hcompleted
  | activateStop h =>
    obtain ⟨_, -, h⟩ := bind_ok h
    split at h
    · exact .still (status_of_sessions (congrArg SentinelStore.sessions (Except.ok.inj h)).symm key)
    · cases h
  | releaseStop h =>
    obtain ⟨_, -, h⟩ := bind_ok h
    split at h
    · cases h
    · split at h
      · exact .still (status_of_sessions (congrArg SentinelStore.sessions (Except.ok.inj h)).symm key)
      · cases h
  | setPolicy h =>
    obtain ⟨_, -, h⟩ := bind_ok h
    obtain ⟨_, -, h⟩ := bind_ok h
    split at h
    · exact .still (status_of_sessions (congrArg SentinelStore.sessions (Except.ok.inj h)).symm key)
    · cases h

/-! ## Saving an observation -/

/-- The input names the stored observation. -/
def SentinelObservationInput.names (input : SentinelObservationInput) (o : SentinelObservation) : Bool :=
  o.tenantId = input.tenantId && o.sentinelSessionId = input.sentinelSessionId && o.observationId = input.observationId

/-- The observation an input becomes under a row. -/
def SessionRow.observed (row : SessionRow) (input : SentinelObservationInput) (now : Int) : SentinelObservation :=
  { input with sequence := row.observationSequence + 1, receivedAt := now }

/-- The row once an observation is counted. -/
def SessionRow.counting (rt : SentinelRuntime) (row : SessionRow) (o : SentinelObservation) : SessionRow :=
  { row with
    toSentinelSession := { SentinelStore.applyCounters rt row.toSentinelSession o with
      observationSequence := o.sequence
      updatedAt := o.receivedAt } }

/-- What a transaction of `submitObservation` comes to when it goes through. -/
inductive Saved (rt : SentinelRuntime) (s : SentinelStore) (input : SentinelObservationInput) (now : Int) :
    SentinelStore → SentinelObservation → Bool → Prop where
  | again {row : SessionRow} {existing : SentinelObservation}
    (hrow : s.sessions.lookup (input.tenantId, input.sentinelSessionId) = some row)
    (hopen : isTerminalStatus row.status = false) (hexisting : s.observations.find? input.names = some existing)
    (hsame : existing.toSentinelObservationInput.sameText input = true) :
    Saved rt s input now s { input with sequence := existing.sequence, receivedAt := existing.receivedAt } false
  | new {row : SessionRow} (hrow : s.sessions.lookup (input.tenantId, input.sentinelSessionId) = some row)
    (hopen : isTerminalStatus row.status = false) (hnew : s.observations.find? input.names = none) :
    Saved rt s input now
      { s.put (row.counting rt (row.observed input now)) with
        observations := s.observations ++ [row.observed input now] }
      (row.observed input now) true

theorem saved_of_ok {rt : SentinelRuntime} {ok isNew : Bool} {input : SentinelObservationInput} {now : Int}
    {observation : SentinelObservation} (h : s.saveObservation rt ok input now = .ok (s', observation, isNew)) :
    Saved rt s input now s' observation isNew := by
  unfold SentinelStore.saveObservation at h
  split at h
  · cases h
  next row hrow =>
  split at h
  · cases h
  next hopen =>
  rw [Bool.not_eq_true] at hopen
  split at h
  · next hexisting =>
    split at h
    · next hsame =>
      cases h
      exact .again hrow hopen hexisting hsame
    · cases h
  · next hnew =>
    simp only at h
    split at h
    · cases h
      exact .new hrow hopen hnew
    · cases h

/-! ## Pieces -/

/-- The decision a piece stores, if it stores one. -/
inductive Recorded (s : SentinelStore) (origin : PieceOrigin) (e : OpEffect) : Prop where
  | nothing (h : e.store.decisions = s.decisions) (hpc : ∀ decision caller, e.pc ≠ .applied decision caller)
  | row {key : Text × Text} {decision : SentinelDecision} {status : ContainmentStatus} {caller : Caller}
    (hpc : e.pc = .applied { decision with containmentStatus := status } caller)
    (h : e.store.decisions = s.decisions ++ [⟨key.1, key.2, { decision with containmentStatus := status }⟩])
    (hconfirmed : status = .containmentConfirmed →
      ∃ action a, origin = .later (.containing action key decision caller) (.contained true a))

section
variable {rt : SentinelRuntime} {s s' : SentinelStore} {origin : PieceOrigin} {key : Text × Text} {caller : Caller}
  {a : PieceAnswer} {decision : SentinelDecision}

/-- Where a decision is persisted it is stored and applied, and where it is not it is thrown. -/
theorem persistOutcome_cases (s : SentinelStore) (ok : Bool) (key : Text × Text) (decision : SentinelDecision)
    (status : ContainmentStatus) (caller : Caller) :
    (∃ e, persistOutcome s ok key decision status caller = throws s e) ∨
      ∃ s', persistOutcome s ok key decision status caller =
          .quiet s' (.applied { decision with containmentStatus := status } caller) ∧ s.Kept s' ∧
        s'.sessions = s.sessions ∧
        s'.decisions = s.decisions ++ [⟨key.1, key.2, { decision with containmentStatus := status }⟩] := by
  simp only [persistOutcome, SentinelStore.persistDecisionAndViolations]
  cases ok with
  | false => exact .inl ⟨_, rfl⟩
  | true => exact .inr ⟨_, rfl, ⟨rfl, SentinelStore.counts?_of_sessions rfl⟩, rfl, rfl⟩

theorem recorded_throws (e : SentinelThrown) (h : s'.decisions = s.decisions) : Recorded s origin (throws s' e) :=
  .nothing h fun _ _ h => by cases h

theorem recorded_persistOutcome {ok : Bool} {status : ContainmentStatus} (hkept : s.Kept s')
    (hdecisions : s'.decisions = s.decisions)
    (hconfirmed : status = .containmentConfirmed →
      ∃ action a, origin = .later (.containing action key decision caller) (.contained true a)) :
    s.Kept (persistOutcome s' ok key decision status caller).store ∧
      Recorded s origin (persistOutcome s' ok key decision status caller) := by
  obtain ⟨e, heq⟩ | ⟨t, heq, hkept', -, hrow⟩ := persistOutcome_cases s' ok key decision status caller
  · rw [heq]
    exact ⟨hkept, recorded_throws e hdecisions⟩
  · rw [heq]
    refine ⟨hkept.trans hkept', .row rfl ?_ hconfirmed⟩
    rw [← hdecisions]
    exact hrow

theorem recorded_applyOutcome :
    s.Kept (applyOutcome s key decision caller a).store ∧ Recorded s origin (applyOutcome s key decision caller a) := by
  unfold applyOutcome
  split
  · exact ⟨.refl s, recorded_throws _ rfl⟩
  next s' claim hclaim =>
  obtain ⟨hkept, hdecisions⟩ := SentinelStore.kept_reconcileAndClaim hclaim
  simp only
  split
  · exact recorded_persistOutcome hkept hdecisions fun h => by cases h
  split
  · exact ⟨hkept, .nothing hdecisions fun _ _ h => by cases h⟩
  split
  · exact ⟨hkept, .nothing hdecisions fun _ _ h => by cases h⟩
  · exact recorded_persistOutcome hkept hdecisions fun h => by cases h

theorem recorded_afterContainment {action : ContainmentAction} {confirmed : Bool}
    (horigin : origin = .later (.containing action key decision caller) (.contained confirmed a)) :
    s.Kept (afterContainment s action key decision caller confirmed a).store ∧
      Recorded s origin (afterContainment s action key decision caller confirmed a) := by
  refine afterContainment_cases (P := fun e => s.Kept e.store ∧ Recorded s origin e) (fun _ _ hstatus => ?_)
    (fun _ _ hresolve _ hstatus => ?_) fun _ => ⟨.refl s, recorded_throws _ rfl⟩
  · exact recorded_persistOutcome (.refl s) rfl fun h => ⟨_, _, hstatus h ▸ horigin⟩
  · obtain ⟨hkept, hdecisions⟩ := SentinelStore.kept_resolveClaim hresolve
    exact recorded_persistOutcome hkept hdecisions fun h => ⟨_, _, hstatus h ▸ horigin⟩

theorem Entered.decisions (h : Entered rt s origin s') : s'.decisions = s.decisions := by
  cases h with
  | same => rfl
  | saved h => cases saved_of_ok h <;> rfl

variable {e : OpEffect}

/-- What a piece does to a status. -/
theorem move_of_run (key : Text × Text) (h : origin.run rt s = some e) :
    PieceMove key s (fun pc => origin.stood = some pc) e := by
  cases origin with
  | first request a =>
    obtain rfl : beginOp rt s a request = e := Option.some.inj h
    exact move_beginOp request
  | later pc answer =>
    have hstood : (fun pc' => (PieceOrigin.later pc answer).stood = some pc') = (· = pc) := by
      funext pc'
      exact propext ⟨fun heq => (Option.some.inj heq).symm, fun heq => congrArg some heq.symm⟩
    rw [hstood]
    exact move_opStep h

/-- **What a piece records.** Once its submission has saved its observation, if it is one, a piece keeps
the observations and the counters, and stores a decision where it applies one. -/
theorem recorded_of_run (h : origin.run rt s = some e) :
    ∃ s', Entered rt s origin s' ∧ s'.Kept e.store ∧ Recorded s' origin e := by
  cases shape_of_run h with
  | stays hs hpc =>
    refine ⟨_, hs, .refl _, .nothing rfl ?_⟩
    rintro decision caller heq
    rcases hpc with ⟨r, rfl⟩ | ⟨_, _, _, rfl⟩ <;> cases heq
  | applies hs => exact ⟨_, hs, recorded_applyOutcome⟩
  | contained => exact ⟨_, .same, recorded_afterContainment rfl⟩

end

end Tna.Sentinel
