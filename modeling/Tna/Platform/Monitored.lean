import Tna.Platform.Run
import Tna.Sentinel.System

/-!
# A run and the Sentinel that monitors it

The run of an action opens a session of its own, submits the pre-action observation
and awaits it. Meanwhile other operations of the same runtime act on the session. The
run goes by the decision its own observation brought back, and reads the session's
status only to confirm a termination.
-/

namespace Tna.Platform

open Tna.Js Tna.Gate Tna.Lib Tna.Broker

/-! ## What the run gives Sentinel -/

def toSentinelResource (resource : Text) : Text :=
  let stripped := resource.dropWhile fun c => c == unit '/'
  if stripped = [] then resource else stripped

def sentinelOperations (operation : Text) : List Sentinel.Operation :=
  if operation = Text.ofAscii "read" then [.read]
  else if operation = Text.ofAscii "write" then [.write]
  else if operation = Text.ofAscii "create" then [.create]
  else if operation = Text.ofAscii "delete" then [.delete]
  else []

/-- What Sentinel is given of an action that the model of the action leaves out. -/
structure SessionTerms where
  correlationId : Text
  policyHash : Text
  decidedAt : Int
  runtimeSeconds : Nat
  maxCost : Nat

/-- The session of an action. -/
def sessionInput (a : PlatformAction) (terms : SessionTerms) : Sentinel.SentinelSessionInput where
  tenantId := a.tenantId
  agentId := a.request.agentId
  executionId := a.platformActionId
  decisionId := a.gateDecision.map fun gate => gate.decisionId
  capabilityId := a.capabilityId
  correlationId := terms.correlationId
  authoritySnapshotHash := terms.policyHash
  policySnapshotHash := terms.policyHash
  expectedAction := a.request.action
  expectedTool := a.request.tool
  expectedResource := toSentinelResource a.request.resource
  allowedDestinations := []
  allowedOperations := sentinelOperations a.request.operation
  allowedProcesses := none
  allowedSecrets := none
  authorityExpiry := terms.decidedAt + terms.runtimeSeconds * 1000
  runtimeLimits := ⟨terms.runtimeSeconds, none, none⟩
  maxCost := terms.maxCost
  capabilityContext := none

/-- The key of the run's session. -/
def RunContext.sessionKey (r : RunContext) : Text × Text := (r.action.tenantId, r.sessionId)

/-- The pre-action observation of a run. -/
def RunContext.preObservation (r : RunContext) (observationId : Text) (timestamp : Int) :
    Sentinel.SentinelObservationInput where
  observationId := Text.ofAscii "obs_pre_" ++ observationId
  tenantId := r.action.tenantId
  sentinelSessionId := r.sessionId
  timestamp
  source := .executionBroker
  observationType := .toolCallRequested
  payload :=
    some ⟨[("tool", .str r.action.request.tool), ("resource", .str (toSentinelResource r.action.request.resource))], rfl⟩

/-! ## The two together -/

/-- The parts a run is put together from. -/
structure Orchestrator where
  broker : ExecutionBroker
  sentinel : Sentinel.SentinelRuntime
  controller : Sentinel.SentinelPrincipal
  observer : Sentinel.SentinelPrincipal

/-- A run, the operations of Sentinel, and which of them submits the run's observation. -/
structure Monitored where
  world : World
  pc : RunPc
  sentinel : Sentinel.System
  check : Option ℕ

/-- Where the submission of the run's observation stands. -/
def Monitored.check? (x : Monitored) : Option Sentinel.OpPc := x.check.bind x.sentinel.ops

inductive MonitoredAnswer where
  /-- The beginning of the run, and the first piece of its submission as operation `i`. -/
  | begin (a : RunBegin) (terms : SessionTerms) (i : ℕ) (observationId : Text) (timestamp : Int)
    (p : Sentinel.PieceAnswer)
  /-- A later piece of the submission. -/
  | check (a : Sentinel.OpAnswer)
  /-- The submission has resolved and the run goes on; which writes go through. -/
  | checked (failOk finishOk : Bool)
  /-- A later piece of the run. -/
  | own (a : RunAnswer)

def violationNames (violations : List Sentinel.Violation) : Text :=
  (Text.ofAscii ", ").intercalate (violations.map fun v => v.ruleType.name)

/-- The beginning of the run, with the session it creates once it has come that far. A
session that is created for a run that then fails is one of the other operations. -/
def Orchestrator.begin (o : Orchestrator) (x : Monitored) (a : RunBegin) (terms : SessionTerms) (i : ℕ)
    (observationId : Text) (timestamp : Int) (p : Sentinel.PieceAnswer) : Option Monitored :=
  match runStep o.broker x.world x.pc (.begin a) with
  | none => none
  | some e =>
    match e.pc with
    | .preChecking r =>
      match x.sentinel.ops i, x.sentinel.store.createSession true o.controller (sessionInput r.action terms) r.sessionId
          p.now with
      | none, .ok (s, _) =>
        let submitted := Sentinel.submitObservation o.sentinel s o.observer r.sessionId
          (r.preObservation observationId timestamp) p
        some ⟨e.world, e.pc, x.sentinel.setOp i submitted, some i⟩
      | _, _ => none
    | pc => some ⟨e.world, pc, x.sentinel, none⟩

/-- The run goes on with what its submission brought back. -/
def Orchestrator.checked (o : Orchestrator) (x : Monitored) (r : RunContext) (failOk finishOk : Bool) :
    Option Monitored :=
  let answer : Option RunAnswer :=
    match x.check? with
    | some (.done (.submitted _ decision)) =>
      some (.checked (decision.map fun d => d.decision)
        (decide (x.sentinel.store.status? r.sessionKey = some .terminated))
        (violationNames ((decision.map fun d => d.violations).getD [])) failOk finishOk)
    | some (.done (.threw _)) => some .checkFailed
    | _ => none
  match answer.bind fun a => runStep o.broker x.world x.pc a with
  | some e => some { x with world := e.world, pc := e.pc }
  | none => none

/-- A piece of the run, or of the submission it awaits. -/
def Orchestrator.next (o : Orchestrator) (x : Monitored) (answer : MonitoredAnswer) : Option Monitored :=
  match x.pc, answer with
  | .start .., .begin a terms i observationId timestamp p => o.begin x a terms i observationId timestamp p
  | .preChecking _, .check a =>
    match x.check, x.check? with
    | some i, some pc =>
      (Sentinel.opStep o.sentinel x.sentinel.store pc a).map fun e => { x with sentinel := x.sentinel.setOp i e }
    | _, _ => none
  | .preChecking r, .checked failOk finishOk => o.checked x r failOk finishOk
  | .start .., _ => none
  | .preChecking _, _ => none
  | _, .own a => (runStep o.broker x.world x.pc a).map fun e => { x with world := e.world, pc := e.pc }
  | _, _ => none

inductive MonitoredLabel where
  | own (a : MonitoredAnswer)
  | other

/-- A step of the run and its submission, or one of the rest of the system. -/
inductive MonitoredStep (o : Orchestrator) (env : Monitored → Monitored → Prop) (x : Monitored) :
    MonitoredLabel → Monitored → Prop where
  | own {a : MonitoredAnswer} {y : Monitored} (h : o.next x a = some y) : MonitoredStep o env x (.own a) y
  /-- Another operation of Sentinel. -/
  | sentinel {l : Sentinel.SystemLabel} {s : Sentinel.System} (h : Sentinel.SystemStep o.sentinel x.sentinel l s)
    (hother : ∀ i called, x.check = some i → l ≠ .op i called) (henv : env x { x with sentinel := s }) :
    MonitoredStep o env x .other { x with sentinel := s }
  /-- Anything else that works on the stores of the run. -/
  | world {w : World} (henv : env x { x with world := w }) : MonitoredStep o env x .other { x with world := w }

/-! ## What a piece can do -/

/-- The kinds of pieces of a run and its submission. -/
inductive OwnPiece (o : Orchestrator) (x : Monitored) : Monitored → Prop where
  | begun {principal : PlatformPrincipal} {actionId : Text} {r : RunContext} {w : World} {s : Sentinel.SentinelStore} {i : ℕ}
    {terms : SessionTerms} {session : Sentinel.SentinelSession} {observationId : Text} {timestamp : Int}
    {p : Sentinel.PieceAnswer} (hpc : x.pc = .start principal actionId)
    (h : x.sentinel.store.createSession true o.controller (sessionInput r.action terms) r.sessionId p.now =
      .ok (s, session)) :
    OwnPiece o x ⟨w, .preChecking r, x.sentinel.setOp i (Sentinel.submitObservation o.sentinel s o.observer r.sessionId
      (r.preObservation observationId timestamp) p), some i⟩
  | submission {r : RunContext} {i : ℕ} {pc : Sentinel.OpPc} {a : Sentinel.OpAnswer} {e : Sentinel.OpEffect}
    (hpc : x.pc = .preChecking r) (hi : x.check = some i) (hop : x.sentinel.ops i = some pc)
    (h : Sentinel.opStep o.sentinel x.sentinel.store pc a = some e) :
    OwnPiece o x { x with sentinel := x.sentinel.setOp i e }
  /-- The run goes on with the result of its submission. -/
  | wentOn {r : RunContext} {res : Sentinel.OpResult} {w : World} {pc : RunPc} (hpc : x.pc = .preChecking r)
    (hcheck : x.check? = some (.done res)) (hnext : ∀ r, pc ≠ .preChecking r)
    (hstops : res.StopsRun → pc.past = true) : OwnPiece o x { x with world := w, pc }
  /-- The run is beyond the check, or will not come to it. -/
  | beyond {y : Monitored} (hnext : ∀ r, y.pc ≠ .preChecking r) (hpast : x.pc.past = true → y.pc.past = true)
    (hnot : ∀ r, x.pc ≠ .preChecking r) : OwnPiece o x y

section
variable {o : Orchestrator} {x y : Monitored}

variable {pc : RunPc} {i : ℕ} {r : RunContext}

theorem not_preChecking_of_past (h : pc.past = true) (r : RunContext) : pc ≠ .preChecking r := by
  rintro rfl
  cases h

theorem ownPiece_begin {principal : PlatformPrincipal} {actionId : Text} {a : RunBegin} {terms : SessionTerms}
    {observationId : Text} {timestamp : Int} {p : Sentinel.PieceAnswer} (hpc : x.pc = .start principal actionId)
    (h : o.begin x a terms i observationId timestamp p = some y) : OwnPiece o x y := by
  have hnot : ∀ r, x.pc ≠ .preChecking r := by
    intro r hr
    cases hpc.symm.trans hr
  unfold Orchestrator.begin at h
  split at h
  · cases h
  next e he =>
  split at h
  · next r hr =>
    split at h
    · next s session hi hsession =>
      cases h
      rw [hr]
      exact .begun hpc hsession
    · cases h
  · next hnext =>
    cases h
    refine .beyond hnext ?_ hnot
    intro hpast
    rw [hpc] at hpast
    cases hpast

/-- The run goes on past the broker when what came back stops it. -/
theorem ownPiece_checked {failOk finishOk : Bool} (hpc : x.pc = .preChecking r) (h : o.checked x r failOk finishOk = some y) :
    OwnPiece o x y := by
  unfold Orchestrator.checked at h
  simp only at h
  split at h
  · next e he =>
    cases h
    obtain ⟨answer, hanswer, hstep⟩ := Option.bind_eq_some_iff.1 he
    rw [hpc] at hstep
    have hnext : ∀ r, e.pc ≠ .preChecking r := by
      intro r' hr'
      cases runPiece_of_step hstep with
      | checked _ => cases hr'
      | past hpast => exact not_preChecking_of_past hpast r' hr'
    split at hanswer
    · next observation decision hcheck =>
      cases hanswer
      cases hstep
      refine .wentOn hpc hcheck hnext ?_
      intro hstops
      cases decision with
      | none => exact hstops.elim
      | some d =>
        have hdecision : some d.decision = some .terminate ∨ some d.decision = some .hold :=
          hstops.imp (congrArg some) (congrArg some)
        exact afterCheck_stops hdecision
    · next hcheck =>
      cases hanswer
      cases hstep
      exact .wentOn hpc hcheck hnext fun _ => rfl
    · cases hanswer
  · cases h

theorem ownPiece_of_next {a : MonitoredAnswer} (h : o.next x a = some y) : OwnPiece o x y := by
  unfold Orchestrator.next at h
  split at h
  · next hpc => exact ownPiece_begin hpc h
  · next hpc =>
    split at h
    · next i pc hi hop =>
      obtain ⟨e, he, rfl⟩ := Option.map_eq_some_iff.1 h
      refine .submission hpc hi ?_ he
      simpa [Monitored.check?, hi] using hop
    · cases h
  · next hpc => exact ownPiece_checked hpc h
  · cases h
  · cases h
  · next hstart hnot =>
    obtain ⟨e, he, rfl⟩ := Option.map_eq_some_iff.1 h
    have hpiece := runPiece_of_step he
    have hnotx : ∀ r, x.pc ≠ .preChecking r := fun r hr => hnot r hr
    generalize hpc : x.pc = pc at hstart hnot hpiece
    cases hpiece with
    | claimed _ => exact (hstart _ _ rfl).elim
    | checked _ => exact (hnot _ rfl).elim
    | redeem _ =>
      refine .beyond (fun r hr => by cases hr) ?_ hnotx
      intro hpast
      rw [hpc] at hpast
      cases hpast
    | past hpast => exact .beyond (not_preChecking_of_past hpast) (fun _ => hpast) hnotx
  · cases h

/-! ## The session stops while the check is awaited -/

/-- The submission of a run has not resolved. -/
def Monitored.Pending (x : Monitored) (r : RunContext) : Prop :=
  x.pc = .preChecking r ∧ ∃ pc, x.check? = some pc ∧ pc.isDone = false

/-- The submission of a run has resolved, and the run has not gone on yet. -/
def Monitored.Resolved (x : Monitored) (r : RunContext) (res : Sentinel.OpResult) : Prop :=
  x.pc = .preChecking r ∧ x.check? = some (.done res)

/-- The run's session is in a status that stops. -/
def Monitored.Stopped (x : Monitored) (r : RunContext) : Prop := x.sentinel.store.Stopped r.sessionKey

/-- Nothing else brings the session of a pending submission into a status that stops. -/
def SparesSession (x y : Monitored) : Prop := ∀ r, x.Pending r → y.Stopped r → x.Stopped r

/-- What is known of a run that awaits its check. -/
def CheckSound (x : Monitored) : Prop :=
  ∀ r, x.pc = .preChecking r → ∃ pc, x.check? = some pc ∧
    (pc.isDone = false → Sentinel.Verdict r.sessionKey (x.Stopped r) pc)

theorem check?_setOp {e : Sentinel.OpEffect} {w : World} :
    Monitored.check? ⟨w, pc, x.sentinel.setOp i e, some i⟩ = some e.pc := by
  simp [Monitored.check?, Sentinel.System.setOp]

/-- **A step of the run or of its submission.** When the submission has not resolved before
it, what is known of the submission after it is its verdict. -/
theorem verdict_ownPiece (h : OwnPiece o x y) (hx : CheckSound x) (hy : y.pc = .preChecking r)
    (hpending : ∀ res, ¬ x.Resolved r res) : ∃ pc, y.check? = some pc ∧ Sentinel.Verdict r.sessionKey (y.Stopped r) pc := by
  cases h with
  | @begun _ _ r' w s i terms session observationId timestamp p _ hsession =>
    cases hy
    exact ⟨_, check?_setOp, Sentinel.verdict_submitObservation (Sentinel.not_stopped_of_create hsession)⟩
  | @submission r' i pc a e hpc hi hop hstep =>
    obtain ⟨pc', hpc', hverdict⟩ := hx r hy
    have hcheck : x.check? = some pc := by
      rw [Monitored.check?, hi]
      exact hop
    cases hpc'.symm.trans hcheck
    have hdone : pc.isDone = false := by
      cases pc with
      | done res => exact (hpending res ⟨hy, hcheck⟩).elim
      | _ => rfl
    refine ⟨e.pc, ?_, Sentinel.verdict_opStep hstep (hverdict hdone)⟩
    simp [Monitored.check?, hi, Sentinel.System.setOp]
  | wentOn _ _ hnext _ => exact (hnext r hy).elim
  | beyond hnext _ _ => exact (hnext r hy).elim

/-- Once its submission has resolved, the run's next piece is beyond the check. -/
theorem resolved_ownPiece {res : Sentinel.OpResult} (h : OwnPiece o x y) (hx : x.Resolved r res) :
    (∀ r', y.pc ≠ .preChecking r') ∧ (res.StopsRun → y.pc.past = true) := by
  obtain ⟨hpc, hcheck⟩ := hx
  cases h with
  | begun hstart _ => cases hpc.symm.trans hstart
  | submission _ hi hop hstep =>
    rw [Monitored.check?, hi] at hcheck
    cases hop.symm.trans hcheck
    cases hstep
  | wentOn _ hcheck' hnext hstops =>
    cases hcheck.symm.trans hcheck'
    exact ⟨hnext, hstops⟩
  | beyond _ _ hnot => exact (hnot r hpc).elim

/-- Another operation leaves the submission where it stands. -/
theorem check?_sentinel {l : Sentinel.SystemLabel} {s : Sentinel.System}
    (h : Sentinel.SystemStep o.sentinel x.sentinel l s) (hother : ∀ i called, x.check = some i → l ≠ .op i called) :
    Monitored.check? { x with sentinel := s } = x.check? := by
  unfold Monitored.check?
  cases hi : x.check with
  | none => rfl
  | some i => exact Sentinel.systemStep_ops h fun called => hother i called hi

theorem CheckSound.other (hx : CheckSound x) (hpc : y.pc = x.pc) (hcheck : y.check? = x.check?)
    (hspares : SparesSession x y) : CheckSound y := by
  intro r hr
  rw [hpc] at hr
  obtain ⟨pc, hpc', hverdict⟩ := hx r hr
  refine ⟨pc, hcheck.trans hpc', fun hdone => ?_⟩
  exact (hverdict hdone).mono (hspares r ⟨hr, pc, hpc', hdone⟩)

theorem checkSound_step (x : Monitored) (l : MonitoredLabel) (y : Monitored) (h : MonitoredStep o SparesSession x l y)
    (hx : CheckSound x) : CheckSound y := by
  cases h with
  | own h =>
    intro r hr
    have hpiece := ownPiece_of_next h
    have hpending : ∀ res, ¬ x.Resolved r res := fun res hres => (resolved_ownPiece hpiece hres).1 r hr
    obtain ⟨pc, hpc, hverdict⟩ := verdict_ownPiece hpiece hx hr hpending
    exact ⟨pc, hpc, fun _ => hverdict⟩
  | sentinel h hother henv => exact hx.other rfl (check?_sentinel h hother) henv
  | world henv => exact hx.other rfl rfl henv

/-- A run that will not call the broker: what its submission brought back stops it. -/
def Stays (r : RunContext) (x : Monitored) : Prop :=
  x.pc.past = true ∨ ∃ res, x.Resolved r res ∧ res.StopsRun

theorem stays_step {env : Monitored → Monitored → Prop} (x : Monitored) (l : MonitoredLabel) (y : Monitored)
    (h : MonitoredStep o env x l y) (hx : Stays r x) : Stays r y := by
  rcases hx with hpast | ⟨res, hres, hstops⟩
  · left
    cases h with
    | own h =>
      cases ownPiece_of_next h with
      | begun hpc _ =>
        rw [hpc] at hpast
        cases hpast
      | submission hpc _ _ _ => exact (not_preChecking_of_past hpast _ hpc).elim
      | wentOn hpc _ _ _ => exact (not_preChecking_of_past hpast _ hpc).elim
      | beyond _ hkeep _ => exact hkeep hpast
    | sentinel _ _ _ => exact hpast
    | world _ => exact hpast
  · cases h with
    | own h => exact .inl ((resolved_ownPiece (ownPiece_of_next h) hres).2 hstops)
    | sentinel h hother _ => exact .inr ⟨res, ⟨hres.1, (check?_sentinel h hother).trans hres.2⟩, hstops⟩
    | world _ => exact .inr ⟨res, hres, hstops⟩

/-- **A stopped session stops the run.** In a run during whose pending check nothing else
brings its session into a status that stops: if the session is held, being terminated,
terminated or indeterminate when the submission of the pre-action observation resolves,
the run never calls the broker, whatever happens afterwards. -/
theorem stopped_not_redeemed {x₀ z : Monitored} {principal : PlatformPrincipal} {actionId : Text}
    {labels labels' : List MonitoredLabel} {l : MonitoredLabel} {r : RunContext} {res : Sentinel.OpResult}
    (hstart : x₀.pc = .start principal actionId) (hrun : Run (MonitoredStep o SparesSession) x₀ labels x)
    (hstep : MonitoredStep o SparesSession x l y) (hpending : ∀ res, ¬ x.Resolved r res) (hresolved : y.Resolved r res)
    (hstopped : y.Stopped r) (hrest : Run (MonitoredStep o fun _ _ => True) y labels' z) :
    ∀ r' pc, z.pc ≠ .redeeming r' pc := by
  have hx : CheckSound x := by
    refine hrun.invariant checkSound_step ?_
    intro r' hr'
    cases hstart.symm.trans hr'
  have hstops : res.StopsRun := by
    cases hstep with
    | own h =>
      obtain ⟨pc, hpc, hverdict⟩ := verdict_ownPiece (ownPiece_of_next h) hx hresolved.1 hpending
      cases hpc.symm.trans hresolved.2
      exact hverdict hstopped
    | sentinel h hother _ =>
      exact (hpending res ⟨hresolved.1, (check?_sentinel h hother).symm.trans hresolved.2⟩).elim
    | world _ => exact (hpending res hresolved).elim
  have hz : Stays r z := hrest.invariant stays_step (.inr ⟨res, hresolved, hstops⟩)
  intro r' pc hpc
  rcases hz with hpast | ⟨_, hres, -⟩
  · rw [hpc] at hpast
    cases hpast
  · cases hpc.symm.trans hres.1

end

/-! ## A session held while the check is awaited -/

/-- What a test says of a replay it says of the end of a run among others. -/
theorem monitoredRun_of_test (o : Orchestrator) (env : Monitored → Monitored → Prop) (x : Monitored)
    (as : List MonitoredAnswer) (test : Monitored → Bool) (h : (replay o.next x as).any test = true) :
    ∃ labels y, Run (MonitoredStep o env) x labels y ∧ test y = true := by
  obtain ⟨y, hrun, htest⟩ := run_of_test h
  obtain ⟨labels, hrun⟩ := hrun.relabel (MonitoredStep o env) fun x a y hxy => ⟨_, .own hxy⟩
  exact ⟨labels, y, hrun, htest⟩

/-- The submission is under way. -/
def Monitored.awaits (x : Monitored) : Bool := x.check?.any fun pc => !pc.isDone

theorem not_resolved_of_awaits {x : Monitored} (h : x.awaits = true) (r : RunContext) (res : Sentinel.OpResult) :
    ¬ x.Resolved r res := by
  rintro ⟨-, hcheck⟩
  rw [Monitored.awaits, hcheck] at h
  cases h

/-- The submission has resolved and the session is in a status that stops. -/
def Monitored.stopsNow (y : Monitored) : Bool :=
  match y.pc, y.check? with
  | .preChecking r, some (.done _) => (y.sentinel.store.status? r.sessionKey).any Sentinel.SessionStatus.stops
  | _, _ => false

theorem of_stopsNow {y : Monitored} (h : y.stopsNow = true) : ∃ r res, y.Resolved r res ∧ y.Stopped r := by
  unfold Monitored.stopsNow at h
  split at h
  · next r res hpc hcheck => exact ⟨r, res, ⟨hpc, hcheck⟩, (Option.any_eq_true ..).1 h⟩
  · cases h

/-- A policy without rules, whose evaluation is `CONTINUE` unless there is an emergency stop. -/
def samplePolicy : Sentinel.SentinelPolicy := ⟨"p", "t", [], none, "h"⟩

def sampleOrchestrator : Orchestrator where
  broker := readerBroker
  sentinel := ⟨fun _ _ => ⟨.noMatch, [], [], Sentinel.emptyObject, none, none, none⟩, true, fun _ => none⟩
  controller := ⟨"controller", .controller, "t", []⟩
  observer := ⟨"observer", .observer, "t", [.executionBroker]⟩

/-- The sample run before it begins, under the given emergency stops. -/
def sampleMonitored (stops : Table (Text × Sentinel.StopScopeType × Text) Sentinel.EmergencyStop) : Monitored where
  world := sampleWorld
  pc := .start sampleAgent "pa1"
  sentinel :=
    ⟨{ sessions := ∅
       observations := []
       decisions := []
       violations := []
       stops
       policies := fun tenantId => if tenantId = Text.ofAscii "t" then some samplePolicy else none
       sessions_key := Sentinel.sessions_key_empty }, fun _ => none⟩
  check := none

def samplePiece : Sentinel.PieceAnswer := ⟨0, fun _ => "d", true, true, true, true, true⟩

def monitoredBegin : MonitoredAnswer := .begin sampleRunBegin ⟨"corr", "h", 0, 60, 1000000⟩ 0 "o1" 0 samplePiece

/-- The revalidator finds nothing. -/
def monitoredRevalidated : MonitoredAnswer := .check (.revalidated (some ⟨.valid, none, none, none⟩) samplePiece)

def tenantStop : Table (Text × Sentinel.StopScopeType × Text) Sentinel.EmergencyStop :=
  AList.insert ("t", .tenant, "t") ⟨"t", .tenant, "t", true, "incident", "admin", 0, none, none⟩ ∅

/-- Under an emergency stop the session is terminated and the broker never called. -/
theorem stopped_not_redeemed_emergency :
    ∃ labels x y l r res, Run (MonitoredStep sampleOrchestrator SparesSession) (sampleMonitored tenantStop) labels x ∧
      MonitoredStep sampleOrchestrator SparesSession x l y ∧ y.Resolved r res ∧ y.Stopped r ∧
      ∀ labels' z, Run (MonitoredStep sampleOrchestrator fun _ _ => True) y labels' z →
        ∀ r' pc, z.pc ≠ .redeeming r' pc := by
  obtain ⟨labels, x, hrun, htest⟩ := monitoredRun_of_test sampleOrchestrator SparesSession (sampleMonitored tenantStop)
    [monitoredBegin, monitoredRevalidated, .check (.contained true samplePiece)]
    (fun x => x.awaits && (sampleOrchestrator.next x (.check .resumed)).any Monitored.stopsNow) (by decide +kernel)
  rw [Bool.and_eq_true] at htest
  obtain ⟨hawaits, htest⟩ := htest
  obtain ⟨y, hy, hstops⟩ := (Option.any_eq_true ..).1 htest
  obtain ⟨r, res, hresolved, hstopped⟩ := of_stopsNow hstops
  refine ⟨labels, x, y, _, r, res, hrun, .own hy, hresolved, hstopped, fun labels' z hrest => ?_⟩
  exact stopped_not_redeemed rfl hrun (.own hy) (not_resolved_of_awaits hawaits r) hresolved hstopped hrest

/-- The session of a run once a controller has begun to hold it as operation 1. -/
def Monitored.held (x : Monitored) : Monitored :=
  { x with
    sentinel := x.sentinel.setOp 1 (Sentinel.beginOp sampleOrchestrator.sentinel x.sentinel.store samplePiece
      (.hold sampleOrchestrator.controller "s1" "stop")) }

def Monitored.redeems (z : Monitored) : Bool :=
  match z.pc with
  | .redeeming .. => true
  | _ => false

/-- A session held while the revalidator is awaited does not keep the run from the broker. -/
theorem held_redeemed :
    ¬ ∀ (o : Orchestrator) (x₀ x y z : Monitored) (principal : PlatformPrincipal) (actionId : Text)
      (labels labels' : List MonitoredLabel) (l : MonitoredLabel) (r : RunContext) (res : Sentinel.OpResult),
      x₀.pc = .start principal actionId → Run (MonitoredStep o fun _ _ => True) x₀ labels x →
      MonitoredStep o (fun _ _ => True) x l y → (∀ res, ¬ x.Resolved r res) → y.Resolved r res → y.Stopped r →
      Run (MonitoredStep o fun _ _ => True) y labels' z → ∀ r' pc, z.pc ≠ .redeeming r' pc := by
  intro h
  obtain ⟨labels, x₁, hrun₁, htest⟩ := monitoredRun_of_test sampleOrchestrator (fun _ _ => True) (sampleMonitored ∅)
    [monitoredBegin]
    (fun x₁ => decide (x₁.check = some 0) && (x₁.sentinel.ops 1).isNone &&
      (replay sampleOrchestrator.next x₁.held [monitoredRevalidated]).any fun x => x.awaits &&
        (sampleOrchestrator.next x (.check .resumed)).any fun y => y.stopsNow &&
          (sampleOrchestrator.next y (.checked true true)).any Monitored.redeems) (by decide +kernel)
  rw [Bool.and_eq_true, Bool.and_eq_true, decide_eq_true_eq, Option.isNone_iff_eq_none] at htest
  obtain ⟨⟨hcheck, hfree⟩, htest⟩ := htest
  -- the hold is operation 1 and the submission operation 0
  have hheld : MonitoredStep sampleOrchestrator (fun _ _ => True) x₁ .other x₁.held := by
    refine .sentinel (.begin _ _ hfree) ?_ trivial
    intro i called hi heq
    cases hcheck.symm.trans hi
    cases heq
  obtain ⟨labels₂, x, hrun₂, htest⟩ := monitoredRun_of_test sampleOrchestrator (fun _ _ => True) _ _ _ htest
  rw [Bool.and_eq_true] at htest
  obtain ⟨hawaits, htest⟩ := htest
  obtain ⟨y, hy, htest⟩ := (Option.any_eq_true ..).1 htest
  rw [Bool.and_eq_true] at htest
  obtain ⟨hstops, htest⟩ := htest
  obtain ⟨z, hz, hredeeming⟩ := (Option.any_eq_true ..).1 htest
  obtain ⟨r, res, hresolved, hstopped⟩ := of_stopsNow hstops
  have hnever := h sampleOrchestrator _ x y z sampleAgent "pa1" _ _ _ r res rfl ((hrun₁.snoc hheld).trans hrun₂)
    (.own hy) (not_resolved_of_awaits hawaits r) hresolved hstopped (.snoc (.nil y) (.own hz))
  unfold Monitored.redeems at hredeeming
  split at hredeeming
  · next r' pc hpc => exact hnever r' pc hpc
  · cases hredeeming

end Tna.Platform
