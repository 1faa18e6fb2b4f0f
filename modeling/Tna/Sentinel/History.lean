import Tna.Sentinel.Statuses

/-!
# The history of a runtime

A run written down step by step: each piece of an operation with where the operation
stood, the store the piece found and what came of it. The process may stop between two
pieces; a new runtime on the same file finds the store and none of the operations.
-/

namespace Tna.Sentinel

open Tna.Js Tna.Lib

/-! ## Steps -/

/-- What a piece begins with: a request, or an answer to what the operation awaits. -/
inductive PieceOrigin where
  | first (request : OpRequest) (a : PieceAnswer)
  | later (pc : OpPc) (answer : OpAnswer)

def PieceOrigin.stood : PieceOrigin → Option OpPc
  | .first .. => none
  | .later pc _ => some pc

def PieceOrigin.run (rt : SentinelRuntime) (s : SentinelStore) : PieceOrigin → Option OpEffect
  | .first request a => some (beginOp rt s a request)
  | .later pc answer => opStep rt s pc answer

/-- A piece of operation `op` as it was done. -/
structure Piece where
  op : ℕ
  origin : PieceOrigin
  before : SentinelStore
  effect : OpEffect

inductive Act where
  | piece (p : Piece)
  | sync (before after : SentinelStore)
  /-- The process stops, and a new runtime is constructed on the file. -/
  | stop

inductive HistoryStep (rt : SentinelRuntime) (x : System) : Act → System → Prop where
  | piece {p : Piece} (hi : x.ops p.op = p.origin.stood) (hbefore : p.before = x.store)
    (h : p.origin.run rt p.before = some p.effect) : HistoryStep rt x (.piece p) (x.setOp p.op p.effect)
  | sync {s : SentinelStore} (h : SyncStep x.store s) : HistoryStep rt x (.sync x.store s) ⟨s, x.ops⟩
  | stop : HistoryStep rt x .stop ⟨x.store, fun _ => none⟩

/-- A new file. -/
def SentinelStore.empty : SentinelStore where
  sessions := ∅
  observations := []
  decisions := []
  violations := []
  stops := ∅
  policies := fun _ => none
  sessions_key := sessions_key_empty

/-- A runtime on a new file. -/
def System.start : System := ⟨SentinelStore.empty, fun _ => none⟩

variable {l : Act} {rt : SentinelRuntime} {x y : System}

/-- A step that is no stop is one of the operations among each other. -/
theorem systemStep_of_history (h : HistoryStep rt x l y) :
    (∃ l', SystemStep rt x l' y) ∨ l = .stop ∧ y = ⟨x.store, fun _ => none⟩ := by
  cases h with
  | @piece p hi hbefore h =>
    left
    obtain ⟨i, origin, before, effect⟩ := p
    simp only at hi hbefore h
    subst hbefore
    cases origin with
    | first request a =>
      obtain rfl : beginOp rt x.store a request = effect := Option.some.inj h
      exact ⟨_, .begin request a hi⟩
    | later pc answer => exact ⟨_, .step hi h⟩
  | sync h => exact .inl ⟨_, .sync h⟩
  | stop => exact .inr ⟨rfl, rfl⟩

/-- What is done next. -/
inductive HistoryMove where
  | begin (i : ℕ) (request : OpRequest) (a : PieceAnswer)
  | step (i : ℕ) (answer : OpAnswer)
  | create (principal : SentinelPrincipal) (input : SentinelSessionInput) (sessionId : Text) (now : Int)
  | complete (principal : SentinelPrincipal) (sessionId : Text) (now : Int)
  | setPolicy (principal : SentinelPrincipal) (policy : SentinelPolicy)
  | stop

/-- The step a move is, when it is one, with the system after it. -/
def System.perform (rt : SentinelRuntime) (x : System) : HistoryMove → Option (Act × System)
  | .begin i request a =>
    let e := beginOp rt x.store a request
    if (x.ops i).isNone then some (.piece ⟨i, .first request a, x.store, e⟩, x.setOp i e) else none
  | .step i answer =>
    (x.ops i).bind fun pc => (opStep rt x.store pc answer).map fun e =>
      (.piece ⟨i, .later pc answer, x.store, e⟩, x.setOp i e)
  | .create principal input sessionId now =>
    match x.store.createSession true principal input sessionId now with
    | .ok (s, _) => some (.sync x.store s, ⟨s, x.ops⟩)
    | .error _ => none
  | .complete principal sessionId now =>
    match x.store.completeSession true principal sessionId now with
    | .ok s => some (.sync x.store s, ⟨s, x.ops⟩)
    | .error _ => none
  | .setPolicy principal policy =>
    match x.store.setPolicy true principal policy with
    | .ok s => some (.sync x.store s, ⟨s, x.ops⟩)
    | .error _ => none
  | .stop => some (.stop, ⟨x.store, fun _ => none⟩)

theorem historyStep_of_perform {m : HistoryMove} (h : x.perform rt m = some (l, y)) : HistoryStep rt x l y := by
  cases m with
  | begin i request a =>
    simp only [System.perform] at h
    split at h
    · next hfree =>
      cases h
      exact .piece (Option.isNone_iff_eq_none.1 hfree) rfl rfl
    · cases h
  | step i answer =>
    obtain ⟨pc, hpc, h⟩ := Option.bind_eq_some_iff.1 h
    obtain ⟨e, he, heq⟩ := Option.map_eq_some_iff.1 h
    cases heq
    exact .piece hpc rfl he
  | create principal input sessionId now =>
    simp only [System.perform] at h
    split at h
    · next hcreate =>
      cases h
      exact .sync (.createSession hcreate)
    · cases h
  | complete principal sessionId now =>
    simp only [System.perform] at h
    split at h
    · next hcomplete =>
      cases h
      exact .sync (.completeSession hcomplete)
    · cases h
  | setPolicy principal policy =>
    simp only [System.perform] at h
    split at h
    · next hset =>
      cases h
      exact .sync (.setPolicy hset)
    · cases h
  | stop =>
    cases h
    exact .stop

/-- The system after a move whose step meets a condition. -/
def System.performing (rt : SentinelRuntime) (C : Act → Bool) (x : System) (m : HistoryMove) : Option System :=
  (x.perform rt m).bind fun r => if C r.1 then some r.2 else none

/-- What a test says of the system after some moves it says of the end of a run. -/
theorem historyRun_of_test (rt : SentinelRuntime) (C : Act → Bool) (moves : List HistoryMove) (test : System → Bool)
    (h : (replay (System.performing rt C) System.start moves).any test = true) :
    ∃ labels y, Run (fun x l y => HistoryStep rt x l y ∧ C l = true) System.start labels y ∧ test y = true := by
  obtain ⟨y, hrun, htest⟩ := run_of_test h
  obtain ⟨labels, hrun⟩ := hrun.relabel (fun x l y => HistoryStep rt x l y ∧ C l = true) fun x m y hxy => by
    obtain ⟨⟨l, z⟩, hperform, hC⟩ := Option.bind_eq_some_iff.1 hxy
    split at hC
    · next hl =>
      cases hC
      exact ⟨l, historyStep_of_perform hperform, hl⟩
    · cases hC
  exact ⟨labels, y, hrun, htest⟩

/-! ## What a piece comes down to -/

/-- The store a piece goes on with: a submission has saved its observation by then. -/
inductive Entered (rt : SentinelRuntime) (s : SentinelStore) : PieceOrigin → SentinelStore → Prop where
  | same {origin : PieceOrigin} : Entered rt s origin s
  | saved {principal : SentinelPrincipal} {sessionId : Text} {input : SentinelObservationInput} {a : PieceAnswer}
    {s' : SentinelStore} {observation : SentinelObservation} {isNew : Bool}
    (h : s.saveObservation rt a.saveOk input a.now = .ok (s', observation, isNew)) :
    Entered rt s (.first (.submitObservation principal sessionId input) a) s'

/-- A piece ends without a decision, or applies one, or goes on after a containment call. -/
inductive PieceShape (rt : SentinelRuntime) (s : SentinelStore) : PieceOrigin → OpEffect → Prop where
  | stays {origin : PieceOrigin} {s' : SentinelStore} {pc : OpPc} (hs : Entered rt s origin s')
    (hpc : (∃ r, pc = .done r) ∨ ∃ session policy caller, pc = .revalidating session policy caller) :
    PieceShape rt s origin (.quiet s' pc)
  | applies {origin : PieceOrigin} {s' : SentinelStore} {key : Text × Text} {decision : SentinelDecision} {caller : Caller}
    {a : PieceAnswer} (hs : Entered rt s origin s') : PieceShape rt s origin (applyOutcome s' key decision caller a)
  | contained {action : ContainmentAction} {key : Text × Text} {decision : SentinelDecision} {caller : Caller}
    {confirmed : Bool} {a : PieceAnswer} :
    PieceShape rt s (.later (.containing action key decision caller) (.contained confirmed a))
      (afterContainment s action key decision caller confirmed a)

section
variable {rt : SentinelRuntime} {s s' : SentinelStore} {origin : PieceOrigin} {caller : Caller} {a : PieceAnswer}

theorem shape_throws (hs : Entered rt s origin s') (e : SentinelThrown) : PieceShape rt s origin (throws s' e) :=
  .stays hs (.inl ⟨_, rfl⟩)

theorem shape_evaluateAndApply {session : SentinelSession} {policy : SentinelPolicy}
    {authorityStatus : Option AuthorityStatus} (hs : Entered rt s origin s') :
    PieceShape rt s origin (evaluateAndApply rt s' session policy authorityStatus caller a) := by
  simp only [evaluateAndApply]
  split
  · exact shape_throws hs _
  · exact .applies hs

variable {sessionId : Text} {principal : SentinelPrincipal}

theorem shape_runEvaluation {tenantId : Text} (hs : Entered rt s origin s') :
    PieceShape rt s origin (runEvaluation rt s' tenantId sessionId caller a) := by
  unfold runEvaluation
  split
  · exact shape_throws hs _
  split
  · split
    · exact .stays hs (.inl ⟨_, rfl⟩)
    · exact shape_throws hs _
  split
  · exact shape_throws hs _
  split
  · exact shape_evaluateAndApply hs
  split
  · exact .stays hs (.inr ⟨_, _, _, rfl⟩)
  · exact shape_evaluateAndApply hs

theorem shape_control {message : Text} {type : SentinelDecisionType} :
    PieceShape rt s origin (control s principal sessionId message type a) := by
  unfold control
  split
  · exact shape_throws .same _
  split
  · exact shape_throws .same _
  · exact .applies .same

theorem shape_submitObservation {input : SentinelObservationInput} :
    PieceShape rt s (.first (.submitObservation principal sessionId input) a)
      (submitObservation rt s principal sessionId input a) := by
  simp only [submitObservation]
  split
  · exact shape_throws .same _
  next s' observation isNew hchecked =>
  obtain ⟨_, -, hchecked⟩ := bind_ok hchecked
  obtain ⟨_, -, hchecked⟩ := bind_ok hchecked
  split at hchecked
  · cases hchecked
  split
  · exact shape_runEvaluation (.saved hchecked)
  · exact .stays (.saved hchecked) (.inl ⟨_, rfl⟩)

/-- **Every piece has one of the shapes.** -/
theorem shape_of_run {e : OpEffect} (h : origin.run rt s = some e) : PieceShape rt s origin e := by
  cases origin with
  | first request a =>
    obtain rfl : beginOp rt s a request = e := Option.some.inj h
    cases request with
    | submitObservation principal sessionId input => exact shape_submitObservation
    | evaluateSession principal sessionId =>
      simp only [beginOp]
      split
      · exact shape_throws .same _
      · exact shape_runEvaluation .same
    | hold principal sessionId message => exact shape_control
    | terminate principal sessionId message => exact shape_control
  | later pc answer =>
    simp only [PieceOrigin.run] at h
    unfold opStep at h
    split at h
    · cases h
      exact shape_evaluateAndApply .same
    · cases h
      exact shape_throws .same _
    · cases h
      exact .contained
    · cases h
      exact .stays .same (.inl ⟨_, rfl⟩)
    · cases h

theorem Entered.status (h : Entered rt s origin s') : s'.status? = s.status? := by
  cases h with
  | same => rfl
  | saved h => exact funext (SentinelStore.saveObservation_ok h)

end

end Tna.Sentinel
