import Tna.Sentinel.Moves

/-!
# The status of a session in a run

However operations are interleaved, a terminal status stays. A session that is being
terminated waits for the operation that claimed its termination, and a session on hold
for a controller or for a decision to terminate it. A decision lowers the severity of a
status only where it takes back a warning, which it may never have seen.
-/

namespace Tna.Sentinel

open Tna.Js Tna.Lib

/-! ## The operation that claimed a termination -/

section
variable {rt : SentinelRuntime} {x y : System} {l : SystemLabel} {key : Text × Text}

/-- A termination is held by one operation at most, and while the session is `TERMINATING`. -/
structure Tended (key : Text × Text) (x : System) : Prop where
  terminating : ∀ i, x.Holds key i → x.store.status? key = some .terminating
  alone : ∀ i j, x.Holds key i → x.Holds key j → i = j

theorem tended_start (h : ∀ i, x.ops i = none) : Tended key x := by
  have hnone : ∀ i, ¬ x.Holds key i := by
    rintro i ⟨pc, hpc, -⟩
    cases (h i).symm.trans hpc
  exact ⟨fun i hi => (hnone i hi).elim, fun i j hi => (hnone i hi).elim⟩

/-- A claim is made where no operation holds the termination. -/
theorem Tended.not_holds_of_claims {i j : ℕ} {labels : List SystemLabel} (hx : Tended key x)
    (hclaims : ClaimsTermination key i labels x l y) : ¬ x.Holds key j :=
  fun hj => hclaims.2.1 (hx.terminating j hj)

theorem tended_step (x : System) (l : SystemLabel) (y : System) (h : SystemStep rt x l y) (hx : Tended key x) :
    Tended key y := by
  constructor
  · intro i hi
    rcases holds_step h hi [] with hxi | hclaims
    · rcases terminating_step h (hx.terminating i hxi) with hnew | ⟨j, _, -, hj, hj', -⟩
      · exact hnew
      · cases hx.alone i j hxi hj
        exact absurd hi hj'
    · exact hclaims.2.2
  · intro i j hi hj
    rcases holds_step h hi [] with hxi | hclaimsi <;> rcases holds_step h hj [] with hxj | hclaimsj
    · exact hx.alone i j hxi hxj
    · exact absurd hxi (hx.not_holds_of_claims hclaimsj)
    · exact absurd hxj (hx.not_holds_of_claims hclaimsi)
    · obtain ⟨_, hli⟩ := hclaimsi.1
      obtain ⟨_, hlj⟩ := hclaimsj.1
      cases hli.symm.trans hlj
      rfl

/-- The session has ended or is being ended. -/
def SentinelStore.Ending (s : SentinelStore) (key : Text × Text) : Prop :=
  s.status? key = some .terminating ∨ ∃ status, s.status? key = some status ∧ isTerminalStatus status = true

/-- No termination is claimed of a session that has ended or is being ended. -/
theorem not_claims_of_ending {i : ℕ} {labels : List SystemLabel} (h : SystemStep rt x l y) (hx : x.store.Ending key) :
    ¬ ClaimsTermination key i labels x l y := by
  rintro ⟨-, hopen, hterminating⟩
  rcases hx with hold | ⟨status, hold, hterminal⟩
  · exact hopen hold
  · cases (terminal_step hterminal x l y h hold).symm.trans hterminating
    cases hterminal

theorem ending_step (h : SystemStep rt x l y) (hx : x.store.Ending key) : y.store.Ending key := by
  rcases hx with hterminating | ⟨status, hold, hterminal⟩
  · rcases terminating_step h hterminating with hnew | ⟨_, target, -, -, -, hnew, htarget⟩
    · exact .inl hnew
    · refine .inr ⟨target, hnew, ?_⟩
      rcases htarget with rfl | rfl <;> rfl
  · exact .inr ⟨status, terminal_step hterminal x l y h hold, hterminal⟩

section
variable {x₀ : System} {labels : List SystemLabel}

/-- Whoever holds a termination has claimed it. -/
theorem claimed_of_holds {i : ℕ} (hstart : ∀ i, x₀.ops i = none) (hrun : Run (SystemStep rt) x₀ labels x)
    (hi : x.Holds key i) : Took (SystemStep rt) (ClaimsTermination key i) x₀ labels x := by
  induction hrun with
  | nil =>
    obtain ⟨pc, hpc, -⟩ := hi
    cases (hstart i).symm.trans hpc
  | snoc hfirst hlast ih =>
    rcases holds_step hlast hi _ with hbefore | hclaims
    · exact (ih hbefore).snoc hlast
    · exact hfirst.took hlast hclaims

/-- Once an operation has claimed a termination no other comes to hold it. -/
theorem holds_of_claimed {i j : ℕ} (hstart : Tended key x₀)
    (hclaimed : Took (SystemStep rt) (ClaimsTermination key i) x₀ labels x) (hj : x.Holds key j) : j = i := by
  obtain ⟨before, u, l, v, after, rfl, hbefore, hstep, hafter, hclaims⟩ := hclaimed
  have hv : Tended key v := tended_step u l v hstep (hbefore.invariant tended_step hstart)
  have halone : v.store.Ending key ∧ ∀ j, v.Holds key j → j = i := by
    refine ⟨.inl hclaims.2.2, fun j hj => ?_⟩
    exact hv.alone j i hj (holds_of_claims hstep hclaims)
  refine (hafter.invariant (I := fun x => x.store.Ending key ∧ ∀ j, x.Holds key j → j = i) ?_ halone).2 j hj
  rintro x l y h ⟨hending, hx⟩
  refine ⟨ending_step h hending, fun j hj => ?_⟩
  rcases holds_step h hj [] with hxj | hclaims
  · exact hx j hxj
  · exact absurd hclaims (not_claims_of_ending h hending)

end

/-! ## What becomes of a status in a run -/

/-- What a step after a run from `x₀` does to a session whose status was `old` and now is `new`. -/
structure Disciplined (rt : SentinelRuntime) (key : Text × Text) (x₀ : System) (labels : List SystemLabel) (x : System)
    (l : SystemLabel) (y : System) (old new : SessionStatus) : Prop where
  absorbing : isTerminalStatus old = true → new = old
  /-- Of the operations, the one that claimed the termination in the run, and no other, ends it. -/
  terminating : old = .terminating → new ≠ old → (new = .terminated ∨ new = .indeterminate) ∧
    ∃ i, (∃ called, l = .op i called) ∧ ∀ j, Took (SystemStep rt) (ClaimsTermination key j) x₀ labels x ↔ j = i
  held : old = .held → new ≠ old →
    ResumesSession key x l y ∨ ∃ decision, AppliesDecision key decision x l y ∧ decision.decision = .terminate
  /-- Whatever the operation has read before, the severity falls only where a warning has cleared. -/
  severity : ∀ i called, l = .op i called → SentinelStore.statusTier old ≤ SentinelStore.statusTier new ∨
    old = .warned ∧ new = .monitoring ∧
      ∃ decision, AppliesDecision key decision x l y ∧ decision.decision = .continue

theorem held_step (h : SystemStep rt x l y) (hx : x.store.status? key = some .held) :
    y.store.status? key = some .held ∨ ResumesSession key x l y ∨
      ∃ decision, AppliesDecision key decision x l y ∧ decision.decision = .terminate := by
  cases move_systemStep key h with
  | still hsame => exact .inl (hsame.trans hx)
  | creates hnone => cases hnone.symm.trans hx
  | @decides decision _ _ _ happlies hold htarget hnew =>
    cases hold.symm.trans hx
    rcases target_of_held htarget with rfl | hterminate
    · exact .inl hnew
    · exact .inr (.inr ⟨decision, happlies, hterminate⟩)
  | resolves _ _ hold _ _ _ => cases hold.symm.trans hx
  | resumes hresumes _ _ => exact .inr (.inl hresumes)
  | completes _ hold hopen _ =>
    cases hold.symm.trans hx
    simp at hopen

theorem severity_step {old new : SessionStatus} {i : ℕ} {called : Option ContainmentCall}
    (h : SystemStep rt x (.op i called) y) (hx : x.store.status? key = some old) (hy : y.store.status? key = some new) :
    SentinelStore.statusTier old ≤ SentinelStore.statusTier new ∨ old = .warned ∧ new = .monitoring ∧
      ∃ decision, AppliesDecision key decision x (.op i called) y ∧ decision.decision = .continue := by
  cases move_systemStep key h with
  | still hsame =>
    cases hx.symm.trans (hsame.symm.trans hy)
    exact .inl le_rfl
  | creates hnone => cases hnone.symm.trans hx
  | @decides decision _ _ _ happlies hold htarget hnew =>
    cases hold.symm.trans hx
    cases hnew.symm.trans hy
    rcases statusTier_le_target htarget with hle | ⟨hwarned, hmonitoring, hcontinue⟩
    · exact .inl hle
    · exact .inr ⟨hwarned, hmonitoring, decision, happlies, hcontinue⟩
  | resolves _ _ hold hnew htarget _ =>
    cases hold.symm.trans hx
    cases hnew.symm.trans hy
    left
    rcases htarget with rfl | rfl <;> decide
  | resumes hresumes _ _ => cases hresumes.1
  | completes hl _ _ _ => cases hl

/-- A session stays in the store. -/
theorem exists_status_step {old : SessionStatus} (h : SystemStep rt x l y) (hx : x.store.status? key = some old) :
    ∃ new, y.store.status? key = some new := by
  cases move_systemStep key h with
  | still hsame => exact ⟨old, hsame.trans hx⟩
  | creates hnone => cases hnone.symm.trans hx
  | decides _ _ _ hnew => exact ⟨_, hnew⟩
  | resolves _ _ _ hnew _ _ => exact ⟨_, hnew⟩
  | resumes _ _ hnew => exact ⟨_, hnew⟩
  | completes _ _ _ hnew => exact ⟨_, hnew⟩

/-- **The status of a session, however its operations are interleaved.** From a store with
no operation under way, every step of every run leaves a terminal status; takes a session
from `TERMINATING` only to `TERMINATED` or `INDETERMINATE`, by the operation that claimed
its termination; takes it from `HELD` only by `resume` or a `TERMINATE` decision; and no
operation replaces a status by a less severe one, but for a `CONTINUE` decision that
returns `WARNED` to `MONITORING`. -/
theorem disciplined_of_run {x₀ : System} {labels : List SystemLabel} {old : SessionStatus}
    (hstart : ∀ i, x₀.ops i = none) (hrun : Run (SystemStep rt) x₀ labels x) (hstep : SystemStep rt x l y)
    (hx : x.store.status? key = some old) :
    ∃ new, y.store.status? key = some new ∧ Disciplined rt key x₀ labels x l y old new := by
  obtain ⟨new, hy⟩ := exists_status_step hstep hx
  refine ⟨new, hy, ?_, ?_, ?_, ?_⟩
  · intro hterminal
    exact Option.some.inj (hy.symm.trans (terminal_step hterminal x l y hstep hx))
  · rintro rfl hne
    rcases terminating_step hstep hx with hsame | ⟨i, target, hl, hi, -, hnew, htarget⟩
    · exact absurd (Option.mem_unique hy hsame) hne
    · cases hnew.symm.trans hy
      refine ⟨htarget, i, hl, fun j => ⟨fun hclaimed => ?_, ?_⟩⟩
      · exact (holds_of_claimed (tended_start hstart) hclaimed hi).symm
      · rintro rfl
        exact claimed_of_holds hstart hrun hi
  · rintro rfl hne
    rcases held_step hstep hx with hsame | hleft
    · exact absurd (Option.mem_unique hy hsame) hne
    · exact hleft
  · rintro i called rfl
    exact severity_step hstep hx hy

end

/-! ## A warning replaced by a decision made before it -/

/-- What is done next: an operation begins, or goes on with an answer. -/
inductive OpMove where
  | begin (i : ℕ) (request : OpRequest) (a : PieceAnswer)
  | step (i : ℕ) (answer : OpAnswer)

/-- The system after a move, when the move is one of its steps. -/
def System.act (rt : SentinelRuntime) (x : System) : OpMove → Option System
  | .begin i request a => if (x.ops i).isNone then some (x.setOp i (beginOp rt x.store a request)) else none
  | .step i answer => (x.ops i).bind fun pc => (opStep rt x.store pc answer).map fun e => x.setOp i e

theorem systemStep_of_act {rt : SentinelRuntime} {x y : System} {m : OpMove} (h : x.act rt m = some y) :
    ∃ l, SystemStep rt x l y := by
  cases m with
  | begin i request a =>
    simp only [System.act] at h
    split at h
    · next hfree =>
      cases h
      exact ⟨_, .begin request a (Option.isNone_iff_eq_none.1 hfree)⟩
    · cases h
  | step i answer =>
    obtain ⟨pc, hpc, h⟩ := Option.bind_eq_some_iff.1 h
    obtain ⟨e, he, rfl⟩ := Option.map_eq_some_iff.1 h
    exact ⟨_, .step hpc he⟩

/-- What a test says of the system after some moves it says of the end of a run. -/
theorem systemRun_of_test (rt : SentinelRuntime) (x : System) (moves : List OpMove) (test : System → Bool)
    (h : (replay (System.act rt) x moves).any test = true) :
    ∃ labels y, Run (SystemStep rt) x labels y ∧ test y = true := by
  obtain ⟨y, hrun, htest⟩ := run_of_test h
  obtain ⟨labels, hrun⟩ := hrun.relabel (SystemStep rt) fun x m y hxy => systemStep_of_act hxy
  exact ⟨labels, y, hrun, htest⟩

/-- A runtime whose one rule warns unless the authority is found valid. -/
def warningRuntime : SentinelRuntime where
  evaluateRule _ context :=
    ⟨if context.authorityStatus = some ⟨.valid, none, none, none⟩ then .noMatch else .matched, "AUTHORITY_EXPIRED", "expired",
      emptyObject, none, none, none⟩
  revalidator := true
  reportedCost _ := none

def sampleSession : SentinelSession where
  tenantId := "t"
  agentId := "a"
  executionId := "e"
  decisionId := none
  capabilityId := none
  correlationId := "corr"
  authoritySnapshotHash := "h"
  policySnapshotHash := "h"
  expectedAction := "read"
  expectedTool := "fs"
  expectedResource := "f"
  allowedDestinations := []
  allowedOperations := [.read]
  allowedProcesses := none
  allowedSecrets := none
  authorityExpiry := 1000
  runtimeLimits := ⟨60, none, none⟩
  maxCost := 0
  capabilityContext := none
  sentinelSessionId := "s"
  startedAt := 0
  updatedAt := 0
  status := .monitoring
  observationSequence := 0
  toolCallCount := 0
  networkRequestCount := 0
  processSpawnCount := 0
  sessionCost := 0
  lastHeartbeatAt := none

def samplePolicy : SentinelPolicy :=
  ⟨"p", "t", [⟨"r", .authorityExpired, .medium, true, .warn, none⟩], none, "h"⟩

/-- A store with the sample session, before any operation. -/
def sampleSystem : System where
  store :=
    SentinelStore.put
      { sessions := ∅
        observations := []
        decisions := []
        violations := []
        stops := ∅
        policies := fun _ => some samplePolicy
        sessions_key := sessions_key_empty } ⟨sampleSession, 0⟩
  ops := fun _ => none

def sampleController : SentinelPrincipal := ⟨"controller", .controller, "t", []⟩

def sampleKey : Text × Text := ("t", "s")

def sampleReader : SentinelPrincipal := ⟨"reader", .reader, "t", []⟩

def System.sampleIs (x : System) (status : SessionStatus) : Bool := decide (x.store.status? sampleKey = some status)

def sampleAnswer : PieceAnswer := ⟨0, fun _ => "d", true, true, true, true, true⟩

/-- A termination claimed by operation 0, whose containment call is confirmed. -/
theorem disciplined_of_run_terminated :
    ∃ labels x l y, Run (SystemStep warningRuntime) sampleSystem labels x ∧ SystemStep warningRuntime x l y ∧
      x.store.status? sampleKey = some .terminating ∧ y.store.status? sampleKey = some .terminated ∧
      Disciplined warningRuntime sampleKey sampleSystem labels x l y .terminating .terminated := by
  obtain ⟨labels, x, hrun, htest⟩ := systemRun_of_test warningRuntime sampleSystem
    [.begin 0 (.terminate sampleController "s" "stop") sampleAnswer]
    (fun x => x.sampleIs .terminating &&
      (x.act warningRuntime (.step 0 (.contained true sampleAnswer))).any fun y => y.sampleIs .terminated)
    (by decide +kernel)
  rw [Bool.and_eq_true] at htest
  obtain ⟨y, hy, hterminated⟩ := (Option.any_eq_true ..).1 htest.2
  have hx := of_decide_eq_true htest.1
  have hy' := of_decide_eq_true hterminated
  obtain ⟨l, hstep⟩ := systemStep_of_act hy
  obtain ⟨new, hnew, hdisciplined⟩ := disciplined_of_run (fun _ => rfl) hrun hstep hx
  cases hnew.symm.trans hy'
  exact ⟨labels, x, l, y, hrun, hstep, hx, hy', hdisciplined⟩

/-- The revalidator's answer, of an authority that has the status. -/
def sampleRevalidated (status : AuthorityStatusKind) : OpAnswer := .revalidated (some ⟨status, none, none, none⟩) sampleAnswer

/-- The first operation has read the session while it was monitored, and puts it back there. -/
def System.lowers (x : System) : Bool :=
  match x.ops 0 with
  | some (.revalidating session policy caller) =>
    decide (session.key = sampleKey ∧ session.status = .monitoring) &&
      (opStep warningRuntime x.store (.revalidating session policy caller) (sampleRevalidated .valid)).any fun e =>
        (x.setOp 0 e).sampleIs .monitoring
  | _ => false

/-- Of two evaluations of a monitored session, one warns, and then the other, which has read
the session before the warning, puts it back to `MONITORING`. -/
theorem stale_decision_lowers_severity :
    ¬ ∀ (rt : SentinelRuntime) (x₀ x : System) (labels : List SystemLabel) (i : ℕ) (session : SentinelSession)
      (policy : SentinelPolicy) (caller : Caller) (answer : OpAnswer) (e : OpEffect) (old new : SessionStatus),
      (∀ i, x₀.ops i = none) → Run (SystemStep rt) x₀ labels x → x.ops i = some (.revalidating session policy caller) →
      opStep rt x.store (.revalidating session policy caller) answer = some e →
      x.store.status? session.key = some old → session.status ≠ old → e.store.status? session.key = some new →
      SentinelStore.statusTier old ≤ SentinelStore.statusTier new := by
  intro h
  obtain ⟨labels, x, hrun, htest⟩ := systemRun_of_test warningRuntime sampleSystem
    [.begin 0 (.evaluateSession sampleReader "s") sampleAnswer, .begin 1 (.evaluateSession sampleReader "s") sampleAnswer,
      .step 1 (sampleRevalidated .expired)]
    (fun x => x.sampleIs .warned && x.lowers) (by decide +kernel)
  rw [Bool.and_eq_true] at htest
  obtain ⟨hwarned, htest⟩ := htest
  unfold System.lowers at htest
  split at htest
  · next session policy caller hops =>
    rw [Bool.and_eq_true, decide_eq_true_eq] at htest
    obtain ⟨⟨hkey, hread⟩, htest⟩ := htest
    obtain ⟨e, he, hmonitoring⟩ := (Option.any_eq_true ..).1 htest
    have hle := h warningRuntime sampleSystem x labels 0 session policy caller _ e .warned .monitoring (fun _ => rfl) hrun
      hops he (by rw [hkey]; exact of_decide_eq_true hwarned) (by rw [hread]; decide)
      (by rw [hkey]; exact of_decide_eq_true hmonitoring)
    exact absurd hle (by decide)
  · cases htest

end Tna.Sentinel
