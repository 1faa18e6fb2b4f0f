import Tna.Sentinel.System

/-!
# What moves the status of a session

Several operations write the status of one session. What an operation decides, it may
have decided by a session it read before its awaits; what it writes, it writes against
the fresh row. Here is said once what a piece of an operation, and a step of all of
them, may do to a status, and by whom.
-/

namespace Tna.Sentinel

open Tna.Js Tna.Lib

/-! ## The statuses a transaction leaves -/

namespace SentinelStore

theorem status?_put_update (s : SentinelStore) (row : SessionRow) :
    (s.put row).status? = Function.update s.status? row.key (some row.status) := by
  funext key
  rw [status?_put, Function.update_apply]

variable {key : Text × Text} {s s' : SentinelStore} {now : Int} {ok : Bool} {principal : SentinelPrincipal} {sessionId : Text}

/-- A row written in place of the one it was read as. -/
theorem status?_put_row {row next : SessionRow} (h : s.sessions.lookup key = some row) (hkey : next.key = row.key) :
    (s.put next).status? = Function.update s.status? key (some next.status) := by
  rw [status?_put_update, hkey, s.sessions_key key row h]

/-- A claim writes the status of its session alone. -/
theorem reconcileAndClaim_status {decision : SentinelDecisionType} {claim : ClaimResult}
    (h : s.reconcileAndClaim ok now key decision = .ok (s', claim)) :
    s'.status? = Function.update s.status? key (some claim.claimedStatus) := by
  unfold reconcileAndClaim at h
  split at h
  · cases h
  next row hrow =>
  simp only at h
  split at h
  · cases h
  split at h
  · cases h
    rw [← status?_of_lookup hrow, Function.update_eq_self]
  · cases h
    exact status?_put_row hrow rfl

/-- A resolution writes only over `TERMINATING`. -/
theorem resolveClaim_status {target : SessionStatus} (h : s.resolveClaim ok now key target = .ok s') :
    s'.status? = s.status? ∨
      s.status? key = some .terminating ∧ s'.status? = Function.update s.status? key (some target) := by
  obtain ⟨row, hrow, ⟨-, rfl⟩ | ⟨next, hnext, rfl⟩⟩ := onRow_ok h
  · exact .inl rfl
  · right
    split at hnext
    · cases hnext
    next hterminating =>
    cases hnext
    rw [not_not] at hterminating
    exact ⟨(status?_of_lookup hrow).trans (congrArg some hterminating), status?_put_row hrow rfl⟩

theorem resume_status {input : ResumeInput} (h : s.resume ok principal sessionId input now = .ok s') :
    s.status? (principal.tenantId, sessionId) = some .held ∧
      s'.status? = Function.update s.status? (principal.tenantId, sessionId) (some .monitoring) := by
  obtain ⟨_, -, h⟩ := bind_ok h
  obtain ⟨row, hrow, ⟨hnone, -⟩ | ⟨next, hnext, rfl⟩⟩ := onRow_ok h
  · split at hnone <;> cases hnone
  · split at hnext
    · cases hnext
    next hheld =>
    cases hnext
    rw [not_not] at hheld
    exact ⟨(status?_of_lookup hrow).trans (congrArg some hheld), status?_put_row hrow rfl⟩

theorem completeSession_status (h : s.completeSession ok principal sessionId now = .ok s') :
    (∃ old, s.status? (principal.tenantId, sessionId) = some old ∧ (old = .monitoring ∨ old = .warned)) ∧
      s'.status? = Function.update s.status? (principal.tenantId, sessionId) (some .completed) := by
  obtain ⟨_, -, h⟩ := bind_ok h
  obtain ⟨row, hrow, ⟨hnone, -⟩ | ⟨next, hnext, rfl⟩⟩ := onRow_ok h
  · split at hnone <;> cases hnone
  · split at hnext
    · cases hnext
    next hopen =>
    cases hnext
    rw [not_and_or, not_not, not_not] at hopen
    exact ⟨⟨row.status, status?_of_lookup hrow, hopen⟩, status?_put_row hrow rfl⟩

theorem createSession_status {input : SentinelSessionInput} {session : SentinelSession}
    (h : s.createSession ok principal input sessionId now = .ok (s', session)) :
    s.status? (input.tenantId, sessionId) = none ∧
      s'.status? = Function.update s.status? (input.tenantId, sessionId) (some .monitoring) := by
  obtain ⟨_, -, h⟩ := bind_ok h
  obtain ⟨_, -, h⟩ := bind_ok h
  simp only at h
  split at h
  · cases h
  next hfree =>
  cases h
  have hnone : s.sessions.lookup (input.tenantId, sessionId) = none := by
    rw [Bool.not_eq_true, Bool.or_eq_false_iff] at hfree
    exact Option.isNone_iff_eq_none.1 (Option.isSome_eq_false_iff.1 hfree.2)
  refine ⟨?_, status?_put_update _ _⟩
  rw [status?, hnone]
  rfl

end SentinelStore

/-! ## The target of a decision -/

section
variable {old target : SessionStatus} {decision : SentinelDecisionType} {kind : TransitionResult}

/-- A decision on a session that has ended, or is about to, is none. -/
theorem reconcileDecisionTarget_of_ended (h : isTerminalStatus old = true ∨ old = .terminating) :
    SentinelStore.reconcileDecisionTarget old decision = (old, .noOpAlreadyStronger) := if_pos h

theorem kind_of_target (h : SentinelStore.reconcileDecisionTarget old decision = (target, kind)) :
    kind = .noOpAlreadyStronger ↔ isTerminalStatus old = true ∨ old = .terminating := by
  unfold SentinelStore.reconcileDecisionTarget at h
  split at h
  · next hended =>
    cases h
    exact iff_of_true rfl hended
  · next hended =>
    have hkind := congrArg Prod.snd h
    refine iff_of_false ?_ hended
    rintro rfl
    simp only at hkind
    split at hkind
    · cases hkind
    · split at hkind <;> cases hkind

theorem target_of_open (h : SentinelStore.reconcileDecisionTarget old decision = (target, kind))
    (hopen : ¬ (isTerminalStatus old = true ∨ old = .terminating)) : target = nextStatusForDecision old decision := by
  unfold SentinelStore.reconcileDecisionTarget at h
  rw [if_neg hopen] at h
  exact (congrArg Prod.fst h).symm

/-- `HELD` gives way to `TERMINATE` alone. -/
theorem target_of_held (h : SentinelStore.reconcileDecisionTarget .held decision = (target, kind)) :
    target = .held ∨ decision = .terminate := by
  have htarget := target_of_open h (by simp [isTerminalStatus])
  by_cases hdecision : decision = .terminate
  · exact .inr hdecision
  · left
    rw [htarget, nextStatusForDecision, if_neg hdecision, if_pos rfl]

/-- No decision ends a session; it only claims a termination. -/
theorem target_of_terminal (h : SentinelStore.reconcileDecisionTarget old decision = (target, kind))
    (hterminal : isTerminalStatus target = true) : target = old := by
  by_cases hended : isTerminalStatus old = true ∨ old = .terminating
  · rw [reconcileDecisionTarget_of_ended hended] at h
    exact (congrArg Prod.fst h).symm
  · rw [target_of_open h hended] at hterminal
    unfold nextStatusForDecision at hterminal
    split at hterminal
    · cases hterminal
    repeat' split at hterminal
    all_goals cases hterminal

/-- A decision lowers the severity of no status but `WARNED`, which `CONTINUE` returns to `MONITORING`. -/
theorem statusTier_le_target (h : SentinelStore.reconcileDecisionTarget old decision = (target, kind)) :
    SentinelStore.statusTier old ≤ SentinelStore.statusTier target ∨
      old = .warned ∧ target = .monitoring ∧ decision = .continue := by
  by_cases hended : isTerminalStatus old = true ∨ old = .terminating
  · rw [reconcileDecisionTarget_of_ended hended] at h
    cases h
    exact .inl le_rfl
  · rw [target_of_open h hended]
    clear h
    cases old with
    | terminated | completed | indeterminate => exact absurd (.inl rfl) hended
    | terminating => exact absurd (.inr rfl) hended
    | created | monitoring | warned | held => cases decision <;> decide

end

/-! ## What a piece does to a status -/

/-- The operation awaits the call that ends the session, whose termination it has claimed. -/
def OpPc.Ends (pc : OpPc) (key : Text × Text) : Prop :=
  ∃ decision caller, pc = .containing .terminate key decision caller

/-- The piece applies a decision to a session, whose status is as the piece found it. -/
def Applies (s : SentinelStore) (key : Text × Text) (decision : SentinelDecision) (e : OpEffect) : Prop :=
  ∃ s' caller a, s'.status? = s.status? ∧ e = applyOutcome s' key decision caller a

/-- What a piece may do to the status of a session, given where the operation stood. -/
inductive PieceMove (key : Text × Text) (s : SentinelStore) (stood : OpPc → Prop) (e : OpEffect) : Prop where
  | still (hstatus : e.store.status? key = s.status? key) (hpc : ¬ e.pc.Ends key)
  | decides {decision : SentinelDecision} {old target : SessionStatus} {kind : TransitionResult}
    (happlies : Applies s key decision e) (hold : s.status? key = some old)
    (htarget : SentinelStore.reconcileDecisionTarget old decision.decision = (target, kind))
    (hnew : e.store.status? key = some target) (hpc : e.pc.Ends key ↔ old ≠ .terminating ∧ target = .terminating)
  | resolves {pc : OpPc} {target : SessionStatus} (hpc : stood pc) (hends : pc.Ends key)
    (hold : s.status? key = some .terminating) (hnew : e.store.status? key = some target)
    (htarget : target = .terminated ∨ target = .indeterminate) (hpc' : ¬ e.pc.Ends key)

section
variable {rt : SentinelRuntime} {s s' : SentinelStore} {key key' : Text × Text} {stood : OpPc → Prop} {caller : Caller}
  {a : PieceAnswer} {decision : SentinelDecision}

theorem not_ends_done {r : OpResult} : ¬ (OpPc.done r).Ends key := by
  rintro ⟨_, _, h⟩
  cases h

theorem not_ends_applied : ¬ (OpPc.applied decision caller).Ends key := by
  rintro ⟨_, _, h⟩
  cases h

variable {action : ContainmentAction} {e : OpEffect} {ok : Bool} {status : ContainmentStatus} {sessionId : Text}
  {principal : SentinelPrincipal}

theorem ends_containing : (OpPc.containing action key' decision caller).Ends key ↔ action = .terminate ∧ key' = key := by
  constructor
  · rintro ⟨_, _, h⟩
    cases h
    exact ⟨rfl, rfl⟩
  · rintro ⟨rfl, rfl⟩
    exact ⟨_, _, rfl⟩

theorem move_throws (e : SentinelThrown) (h : s'.status? key = s.status? key) :
    PieceMove key s stood (throws s' e) :=
  .still h not_ends_done

/-- What goes before a piece's move and leaves the statuses may be counted to the piece. -/
theorem PieceMove.of_status (h : s'.status? = s.status?) (hmove : PieceMove key s' stood e) : PieceMove key s stood e := by
  cases hmove with
  | still hstatus hpc => exact .still (hstatus.trans (congrFun h key)) hpc
  | decides happlies hold htarget hnew hpc =>
    obtain ⟨t, caller, a, ht, he⟩ := happlies
    exact .decides ⟨t, caller, a, ht.trans h, he⟩ ((congrFun h key).symm.trans hold) htarget hnew hpc
  | resolves hpc hends hold hnew htarget hpc' =>
    exact .resolves hpc hends ((congrFun h key).symm.trans hold) hnew htarget hpc'

theorem persistOutcome_status : (persistOutcome s ok key' decision status caller).store.status? = s.status? := by
  simp only [persistOutcome]
  split
  · next hpersist => exact SentinelStore.persistDecisionAndViolations_ok hpersist
  · rfl

theorem not_ends_persistOutcome : ¬ (persistOutcome s ok key' decision status caller).pc.Ends key := by
  simp only [persistOutcome]
  split
  · exact not_ends_applied
  · exact not_ends_done

/-- A claim of the termination is what an operation goes on from to its containment call. -/
theorem ends_applyOutcome (key : Text × Text) (caller : Caller) {claim : SentinelStore.ClaimResult}
    (hclaim : s.reconcileAndClaim a.claimOk a.now key' decision.decision = .ok (s', claim)) :
    (applyOutcome s key' decision caller a).store.status? = s'.status? ∧
      ((applyOutcome s key' decision caller a).pc.Ends key ↔
        claim.kind ≠ .noOpAlreadyStronger ∧ claim.claimedStatus = .terminating ∧ key' = key) := by
  simp only [applyOutcome, hclaim]
  split
  · next hnoop => exact ⟨persistOutcome_status, iff_of_false not_ends_persistOutcome fun h => h.1 hnoop⟩
  next hclaimed =>
  split
  · next hheld =>
    refine ⟨rfl, iff_of_false (fun h => ?_) fun h => ?_⟩
    · cases (ends_containing.1 h).1
    · cases hheld.1.symm.trans h.2.1
  split
  · next hterminating =>
    refine ⟨rfl, ends_containing.trans ?_⟩
    simp [hclaimed, hterminating]
  · next hother => exact ⟨persistOutcome_status, iff_of_false not_ends_persistOutcome fun h => hother h.2.1⟩

/-- **The outcome of a decision.** It is written against the fresh status. -/
theorem move_applyOutcome : PieceMove key s stood (applyOutcome s key' decision caller a) := by
  cases hclaim : s.reconcileAndClaim a.claimOk a.now key' decision.decision with
  | error e =>
    have heq : applyOutcome s key' decision caller a = throws s e := by simp only [applyOutcome, hclaim]
    rw [heq]
    exact move_throws e rfl
  | ok claimed =>
    obtain ⟨s', claim⟩ := claimed
    obtain ⟨row, hrow, -, htarget, -⟩ := SentinelStore.reconcileAndClaim_ok hclaim
    obtain ⟨hstore, hends⟩ := ends_applyOutcome key caller hclaim
    have hstatus := SentinelStore.reconcileAndClaim_status hclaim
    by_cases hkey : key' = key
    · subst hkey
      refine .decides ⟨s, caller, a, rfl, rfl⟩ (SentinelStore.status?_of_lookup hrow) htarget.symm ?_ (hends.trans ?_)
      · rw [hstore, hstatus, Function.update_self]
      · rw [Ne, kind_of_target htarget.symm]
        constructor
        · rintro ⟨hopen, hterminating, -⟩
          exact ⟨fun h => hopen (.inr h), hterminating⟩
        · rintro ⟨hold, hterminating⟩
          refine ⟨fun hended => hold ?_, hterminating, rfl⟩
          -- a decision on a session that has ended leaves its status, which is not `TERMINATING`
          rw [reconcileDecisionTarget_of_ended hended] at htarget
          exact (congrArg Prod.fst htarget).symm.trans hterminating
    · refine .still ?_ fun h => hkey (hends.1 h).2.2
      rw [hstore, hstatus, Function.update_of_ne (Ne.symm hkey)]

theorem move_evaluateAndApply {session : SentinelSession} {policy : SentinelPolicy}
    {authorityStatus : Option AuthorityStatus} :
    PieceMove key s stood (evaluateAndApply rt s session policy authorityStatus caller a) := by
  simp only [evaluateAndApply]
  split
  · exact move_throws _ rfl
  · exact move_applyOutcome

theorem move_runEvaluation {tenantId : Text} : PieceMove key s stood (runEvaluation rt s tenantId sessionId caller a) := by
  unfold runEvaluation
  split
  · exact move_throws _ rfl
  split
  · split
    · exact .still rfl not_ends_done
    · exact move_throws _ rfl
  split
  · exact move_throws _ rfl
  split
  · exact move_evaluateAndApply
  split
  · refine .still rfl ?_
    rintro ⟨_, _, h⟩
    cases h
  · exact move_evaluateAndApply

theorem move_submitObservation {input : SentinelObservationInput} :
    PieceMove key s stood (submitObservation rt s principal sessionId input a) := by
  simp only [submitObservation]
  split
  · exact move_throws _ rfl
  next s' observation isNew hchecked =>
  obtain ⟨_, -, hchecked⟩ := bind_ok hchecked
  obtain ⟨_, -, hchecked⟩ := bind_ok hchecked
  split at hchecked
  · cases hchecked
  have hstatus : s'.status? = s.status? := funext (SentinelStore.saveObservation_ok hchecked)
  split
  · exact move_runEvaluation.of_status hstatus
  · exact .still (congrFun hstatus key) not_ends_done

theorem move_control {message : Text} {type : SentinelDecisionType} :
    PieceMove key s stood (control s principal sessionId message type a) := by
  unfold control
  split
  · exact move_throws _ rfl
  split
  · exact move_throws _ rfl
  · exact move_applyOutcome

/-- **The first piece of an operation.** -/
theorem move_beginOp (request : OpRequest) : PieceMove key s stood (beginOp rt s a request) := by
  cases request with
  | submitObservation principal sessionId input => exact move_submitObservation
  | evaluateSession principal sessionId =>
    simp only [beginOp]
    split
    · exact move_throws _ rfl
    · exact move_runEvaluation
  | hold principal sessionId message => exact move_control
  | terminate principal sessionId message => exact move_control

/-- The pieces after a containment call that let the claim be or give it up. -/
theorem move_persistOutcome (h : s'.status? = s.status?) :
    PieceMove key s stood (persistOutcome s' ok key' decision status caller) :=
  .still (congrFun (persistOutcome_status.trans h) key) not_ends_persistOutcome

/-- The claim resolved, and the decision persisted. -/
theorem move_resolved {resolved : Bool} {target : SessionStatus} (htarget : target = .terminated ∨ target = .indeterminate)
    (hresolve : s.resolveClaim resolved a.now key' target = .ok s') :
    PieceMove key s (· = .containing .terminate key' decision caller)
      (persistOutcome s' ok key' decision status caller) := by
  rcases SentinelStore.resolveClaim_status hresolve with hsame | ⟨hold, hnew⟩
  · exact move_persistOutcome hsame
  by_cases hkey : key' = key
  · subst hkey
    refine .resolves rfl ⟨_, _, rfl⟩ hold ?_ htarget not_ends_persistOutcome
    rw [persistOutcome_status, hnew, Function.update_self]
  · refine .still ?_ not_ends_persistOutcome
    rw [persistOutcome_status, hnew, Function.update_of_ne (Ne.symm hkey)]

/-- The piece after a containment call. -/
theorem move_afterContainment {confirmed : Bool} :
    PieceMove key s (· = .containing action key' decision caller)
      (afterContainment s action key' decision caller confirmed a) := by
  refine afterContainment_cases (P := PieceMove key s (· = .containing action key' decision caller))
    (fun _ _ _ => move_persistOutcome rfl) (fun _ hterminate hresolve htarget _ => ?_) fun _ => move_throws _ rfl
  subst hterminate
  exact move_resolved htarget hresolve

/-- **A later piece of an operation.** -/
theorem move_opStep {pc : OpPc} {answer : OpAnswer} (h : opStep rt s pc answer = some e) : PieceMove key s (· = pc) e := by
  unfold opStep at h
  split at h
  · cases h
    exact move_evaluateAndApply
  · cases h
    exact move_throws _ rfl
  · cases h
    exact move_afterContainment
  · cases h
    exact .still rfl not_ends_done
  · cases h

end

/-! ## What a step does to a status -/

/-- An operation applies a decision to the session in this step. -/
def AppliesDecision (key : Text × Text) (decision : SentinelDecision) (x : System) (l : SystemLabel) (y : System) :
    Prop :=
  ∃ i e, l = .op i e.called ∧ Applies x.store key decision e ∧ y = x.setOp i e

/-- A controller resumes the session in this step. -/
def ResumesSession (key : Text × Text) (x : System) (l : SystemLabel) (y : System) : Prop :=
  l = .sync ∧ ∃ ok principal sessionId input now,
    key = (principal.tenantId, sessionId) ∧ x.store.resume ok principal sessionId input now = .ok y.store

/-- Operation `i` claims the termination of the session in this step. -/
def ClaimsTermination (key : Text × Text) (i : ℕ) (_ : List SystemLabel) (x : System) (l : SystemLabel) (y : System) :
    Prop :=
  (∃ called, l = .op i called) ∧ x.store.status? key ≠ some .terminating ∧ y.store.status? key = some .terminating

/-- Operation `i` has claimed the termination of the session and not resolved it. -/
def System.Holds (x : System) (key : Text × Text) (i : ℕ) : Prop := ∃ pc, x.ops i = some pc ∧ pc.Ends key

/-- What a step may do to the status of a session. -/
inductive StatusMove (key : Text × Text) (x : System) (l : SystemLabel) (y : System) : Prop where
  | still (h : y.store.status? key = x.store.status? key)
  | creates (hold : x.store.status? key = none)
  | decides {decision : SentinelDecision} {old target : SessionStatus} {kind : TransitionResult}
    (happlies : AppliesDecision key decision x l y) (hold : x.store.status? key = some old)
    (htarget : SentinelStore.reconcileDecisionTarget old decision.decision = (target, kind))
    (hnew : y.store.status? key = some target)
  | resolves {i : ℕ} {target : SessionStatus} (hl : ∃ called, l = .op i called) (hi : x.Holds key i)
    (hold : x.store.status? key = some .terminating) (hnew : y.store.status? key = some target)
    (htarget : target = .terminated ∨ target = .indeterminate) (hi' : ¬ y.Holds key i)
  | resumes (hresumes : ResumesSession key x l y) (hold : x.store.status? key = some .held)
    (hnew : y.store.status? key = some .monitoring)
  | completes {old : SessionStatus} (hl : l = .sync) (hold : x.store.status? key = some old)
    (hopen : old = .monitoring ∨ old = .warned) (hnew : y.store.status? key = some .completed)

section
variable {rt : SentinelRuntime} {x y : System} {l : SystemLabel} {key : Text × Text}

/-- A step is a piece of an operation, or an operation without an await. -/
theorem systemStep_cases (h : SystemStep rt x l y) :
    (∃ i e stood, l = .op i e.called ∧ y = x.setOp i e ∧ (∀ pc, stood pc → x.ops i = some pc) ∧
        ∀ key, PieceMove key x.store stood e) ∨
      l = .sync ∧ SyncStep x.store y.store ∧ y.ops = x.ops := by
  cases h with
  | @begin i request a hi =>
    refine .inl ⟨i, _, fun _ => False, rfl, rfl, ?_, fun _ => move_beginOp request⟩
    rintro _ ⟨⟩
  | @step i pc a e hi h =>
    refine .inl ⟨i, e, (· = pc), rfl, rfl, ?_, fun _ => move_opStep h⟩
    rintro _ rfl
    exact hi
  | sync h => exact .inr ⟨rfl, h, rfl⟩

variable {i : ℕ} {s s' : SentinelStore} {status : SessionStatus}

theorem holds_setOp {j : ℕ} {e : OpEffect} : (x.setOp i e).Holds key j ↔ if j = i then e.pc.Ends key else x.Holds key j := by
  have hops : (x.setOp i e).ops j = if j = i then some e.pc else x.ops j := Function.update_apply ..
  rw [System.Holds, hops]
  split
  · simp
  · rfl

theorem status_update {key' : Text × Text} (h : s'.status? = Function.update s.status? key' (some status)) (key : Text × Text) :
    s'.status? key = s.status? key ∨ key = key' ∧ s'.status? key = some status := by
  by_cases hkey : key = key'
  · subst hkey
    exact .inr ⟨rfl, by rw [h, Function.update_self]⟩
  · exact .inl (by rw [h, Function.update_of_ne hkey])

theorem status_of_sessions (h : s'.sessions = s.sessions) (key : Text × Text) : s'.status? key = s.status? key := by
  rw [SentinelStore.status?, SentinelStore.status?, h]

/-- Operations without an await. -/
theorem move_sync (h : SyncStep x.store y.store) : StatusMove key x .sync y := by
  cases h with
  | createSession h =>
    obtain ⟨hnone, hnew⟩ := SentinelStore.createSession_status h
    rcases status_update hnew key with hsame | ⟨rfl, -⟩
    · exact .still hsame
    · exact .creates hnone
  | resume h =>
    obtain ⟨hheld, hnew⟩ := SentinelStore.resume_status h
    rcases status_update hnew key with hsame | ⟨rfl, hmonitoring⟩
    · exact .still hsame
    · exact .resumes ⟨rfl, _, _, _, _, _, rfl, h⟩ hheld hmonitoring
  | completeSession h =>
    obtain ⟨⟨old, hold, hopen⟩, hnew⟩ := SentinelStore.completeSession_status h
    rcases status_update hnew key with hsame | ⟨rfl, hcompleted⟩
    · exact .still hsame
    · exact .completes rfl hold hopen hcompleted
  | activateStop h =>
    obtain ⟨_, -, h⟩ := bind_ok h
    split at h
    · exact .still (status_of_sessions (congrArg SentinelStore.sessions (Except.ok.inj h)).symm key)
    · cases h
  | releaseStop h =>
    obtain ⟨_, -, h⟩ := bind_ok h
    split at h
    · cases h
    · split at h
      · exact .still (status_of_sessions (congrArg SentinelStore.sessions (Except.ok.inj h)).symm key)
      · cases h
  | setPolicy h =>
    obtain ⟨_, -, h⟩ := bind_ok h
    obtain ⟨_, -, h⟩ := bind_ok h
    split at h
    · exact .still (status_of_sessions (congrArg SentinelStore.sessions (Except.ok.inj h)).symm key)
    · cases h

/-- **What a step may do to a status.** -/
theorem move_systemStep (key : Text × Text) (h : SystemStep rt x l y) : StatusMove key x l y := by
  obtain ⟨i, e, stood, rfl, rfl, hstood, hmove⟩ | ⟨rfl, hsync, -⟩ := systemStep_cases h
  · cases hmove key with
    | still hstatus _ => exact .still hstatus
    | decides happlies hold htarget hnew _ => exact .decides ⟨i, e, rfl, happlies, rfl⟩ hold htarget hnew
    | @resolves pc _ hpc hends hold hnew htarget hpc' =>
      refine .resolves ⟨_, rfl⟩ ⟨pc, hstood pc hpc, hends⟩ hold hnew htarget ?_
      rw [holds_setOp, if_pos rfl]
      exact hpc'
  · exact move_sync hsync

/-- An operation comes to hold a termination by claiming it. -/
theorem holds_step (h : SystemStep rt x l y) (hi : y.Holds key i) (labels : List SystemLabel) :
    x.Holds key i ∨ ClaimsTermination key i labels x l y := by
  obtain ⟨j, e, stood, rfl, rfl, -, hmove⟩ | ⟨-, -, hops⟩ := systemStep_cases h
  · rw [holds_setOp] at hi
    split at hi
    · next heq =>
      subst heq
      cases hmove key with
      | still _ hpc => exact absurd hi hpc
      | decides _ hold _ hnew hpc =>
        obtain ⟨hopen, rfl⟩ := hpc.1 hi
        exact .inr ⟨⟨_, rfl⟩, fun hterminating => hopen (Option.mem_unique hold hterminating), hnew⟩
      | resolves _ _ _ _ _ hpc' => exact absurd hi hpc'
    · exact .inl hi
  · left
    rw [System.Holds, hops] at hi
    exact hi

/-- An operation that claims a termination then holds it. -/
theorem holds_of_claims {labels : List SystemLabel} (h : SystemStep rt x l y) (hclaims : ClaimsTermination key i labels x l y) :
    y.Holds key i := by
  obtain ⟨⟨called, hl⟩, hopen, hterminating⟩ := hclaims
  obtain ⟨j, e, stood, rfl, rfl, -, hmove⟩ | ⟨rfl, -, -⟩ := systemStep_cases h
  · cases hl
    rw [holds_setOp, if_pos rfl]
    cases hmove key with
    | still hstatus _ => exact absurd (hstatus.symm.trans hterminating) hopen
    | decides _ hold _ hnew hpc =>
      refine hpc.2 ⟨?_, Option.mem_unique hnew hterminating⟩
      rintro rfl
      exact hopen hold
    | resolves _ _ hold _ _ _ => exact absurd hold hopen
  · cases hl

/-- **A terminal status stays.** -/
theorem terminal_step (hterminal : isTerminalStatus status = true) (x : System) (l : SystemLabel) (y : System)
    (h : SystemStep rt x l y) (hx : x.store.status? key = some status) : y.store.status? key = some status := by
  cases move_systemStep key h with
  | still hsame => exact hsame.trans hx
  | creates hnone => cases hnone.symm.trans hx
  | decides _ hold htarget hnew =>
    cases hold.symm.trans hx
    rw [reconcileDecisionTarget_of_ended (.inl hterminal)] at htarget
    cases htarget
    exact hnew
  | resolves _ _ hold _ _ _ =>
    cases hold.symm.trans hx
    cases hterminal
  | resumes _ hheld _ =>
    cases hheld.symm.trans hx
    cases hterminal
  | completes _ hold hopen _ =>
    cases hold.symm.trans hx
    rcases hopen with rfl | rfl <;> cases hterminal

/-- A session that is being terminated stays so until an operation that holds its termination resolves it. -/
theorem terminating_step (h : SystemStep rt x l y) (hx : x.store.status? key = some .terminating) :
    y.store.status? key = some .terminating ∨
      ∃ i target, (∃ called, l = .op i called) ∧ x.Holds key i ∧ ¬ y.Holds key i ∧ y.store.status? key = some target ∧
        (target = .terminated ∨ target = .indeterminate) := by
  cases move_systemStep key h with
  | still hsame => exact .inl (hsame.trans hx)
  | creates hnone => cases hnone.symm.trans hx
  | decides _ hold htarget hnew =>
    cases hold.symm.trans hx
    rw [reconcileDecisionTarget_of_ended (.inr rfl)] at htarget
    cases htarget
    exact .inl hnew
  | @resolves i target hl hi _ hnew htarget hi' => exact .inr ⟨i, target, hl, hi, hi', hnew, htarget⟩
  | resumes _ hheld _ => cases hheld.symm.trans hx
  | completes _ hold hopen _ =>
    cases hold.symm.trans hx
    simp at hopen

end

end Tna.Sentinel
