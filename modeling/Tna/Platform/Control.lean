import Tna.Platform.Run

/-!
# Operator control of a running action

An operator can terminate an action that is held, monitored or executing. The run
of the action does not read its row again after the pre-action check, so a
termination during that check decides whether the broker is called in time.
-/

namespace Tna.Platform

open Tna.Js Tna.Gate Tna.Lib Tna.Broker

/-- `PlatformControlOrchestrator.terminate`. -/
def terminate (s : PlatformStore) (ok : Bool) (principal : PlatformPrincipal) (actionId reason : Text) :
    Except PlatformError (PlatformStore × PlatformAction) :=
  if !principal.canControl then 
    .error (.platform .forbidden
      (Text.ofAscii "Role " ++ principal.role.name ++ Text.ofAscii " may not terminate a platform action"))
  else
    match s.get principal.tenantId actionId with
    | .error e => .error e
    | .ok action =>
      if action.state = .held then s.transition ok action.tenantId actionId action.stateVersion .terminated
      else if action.state ≠ .monitoring ∧ action.state ≠ .executing then
        .error (.platform .invalidTransition
          (Text.ofAscii "Action cannot be terminated from state " ++ action.state.name))
      else
        s.recordFailure ok action.tenantId actionId action.stateVersion action.state .terminated "SENTINEL_TERMINATED"
          reason

/-- The row of an action says that it is executing. -/
def PlatformStore.Executing (s : PlatformStore) (key : Text × Text) : Prop :=
  ∃ a, s.actions.lookup key = some a ∧ a.state = .executing

/-- The rest of the system during the run of an action: operators terminate it, the
Gate and other calls of the broker change the broker's store. -/
inductive OperatorStep : World → World → Prop where
  | terminate (w : World) {ok : Bool} {principal : PlatformPrincipal} {actionId reason : Text} {p : PlatformStore}
    {action : PlatformAction} (h : terminate w.platform ok principal actionId reason = .ok (p, action)) :
    OperatorStep w { w with platform := p }
  | broker (w : World) (s : Broker.Store) : OperatorStep w { w with broker := s }

/-- What the rest of the system does while a run has yielded. -/
def WhileYielded (env : RunPc → World → World → Prop) (pc : RunPc) (w w' : World) : Prop :=
  pc.isAwait = true ∧ env pc w w'

/-- No termination of the action commits during its pre-action check. -/
def SparesCheck (pc : RunPc) (w w' : World) : Prop :=
  OperatorStep w w' ∧
    match pc with
    | .preChecking r => w'.platform.actions.lookup r.action.key = w.platform.actions.lookup r.action.key
    | _ => True

/-- What is known of the durable state up to the call of the connector. A connector's
tool needs no lease and no workspace. -/
def ExecutingAt (x : World × RunPc) : Prop :=
  match x.2 with
  | .preChecking r => x.1.platform.Executing r.action.key
  | .redeeming r (.start ..) => x.1.platform.Executing r.action.key
  | .redeeming r (.consuming c) =>
    x.1.platform.Executing r.action.key ∧ c.tool.credentialsRequired = [] ∧ c.tool.isolated = none
  | .redeeming r (.preparing c _) => x.1.platform.Executing r.action.key ∧ c.tool.isolated = none
  | .redeeming _ (.leasing _) => False
  | .redeeming _ (.makingWorkspace ..) => False
  | _ => True

section
variable {b : ExecutionBroker} {connectors : List ToolConnector} {tenantId : Text}

theorem executingAt_of_past {w : World} {pc : RunPc} (h : pc.past = true) : ExecutingAt (w, pc) := by
  cases pc <;> trivial

theorem executingAt_of_ends {w : World} {r : RunContext} {pc : Broker.Pc} (h : pc.ends = true) :
    ExecutingAt (w, .redeeming r pc) := by
  cases pc <;> trivial

/-- A piece of the run keeps it. -/
theorem executingAt_runStep (hb : b.registry = buildToolRegistry connectors tenantId) {w : World} {pc : RunPc}
    {a : RunAnswer} {e : RunEffect} (h : runStep b w pc a = some e) (hw : ExecutingAt (w, pc)) :
    ExecutingAt (e.world, e.pc) := by
  cases runPiece_of_step h with
  | claimed hclaimed => exact ⟨_, hclaimed.row, hclaimed.executing⟩
  | checked _ => exact hw
  | past hpast => exact executingAt_of_past hpast
  | redeem hredeem =>
    cases piece_of_step hredeem with
    | ends hpc _ _ => exact executingAt_of_ends hpc
    | @advance c _ hadv =>
      cases hadv with
      | checked hp =>
        obtain ⟨connector, -, -, hdefinition⟩ := buildToolRegistry_some (hb ▸ hp.registered)
        exact ⟨hw, by rw [hdefinition]; rfl, by rw [hdefinition]; rfl⟩
      | consumed _ =>
        obtain ⟨hexecuting, hcredentials, hisolated⟩ := hw
        rw [hcredentials, if_pos rfl]
        exact ⟨hexecuting, hisolated⟩
      | leased _ => exact hw.elim
      | requested hadapter => cases hw.2.symm.trans hadapter
      | handled _ => trivial
      | ran => exact hw.elim

/-- A step of the rest of the system keeps it. -/
theorem executingAt_env {w w' : World} {pc : RunPc} (h : WhileYielded SparesCheck pc w w') (hw : ExecutingAt (w, pc)) :
    ExecutingAt (w', pc) := by
  obtain ⟨hawait, -, hspares⟩ := h
  cases pc with
  | preChecking r =>
    obtain ⟨a, ha, hstate⟩ := hw
    exact ⟨a, hspares.trans ha, hstate⟩
  | redeeming r pc => cases pc <;> trivial
  | _ => trivial

theorem executingAt_step (hb : b.registry = buildToolRegistry connectors tenantId) (x : World × RunPc) (l : RunLabel)
    (y : World × RunPc) (h : RunStep b (WhileYielded SparesCheck) x l y) (hx : ExecutingAt x) : ExecutingAt y := by
  cases h with
  | own h => exact executingAt_runStep hb h hx
  | env h => exact executingAt_env h hx

/-- **No connector for a terminated action.** In a run during whose pre-action check no
termination of the action commits, the broker is called, and a connector invoked, only
while the row of the action says that it is executing. -/
theorem redeem_executing (hb : b.registry = buildToolRegistry connectors tenantId) {w₀ w : World} {pc : RunPc}
    {principal : PlatformPrincipal} {actionId : Text} {labels : List RunLabel} {a : RunAnswer} {e : RunEffect}
    (hrun : Run (RunStep b (WhileYielded SparesCheck)) (w₀, .start principal actionId) labels (w, pc))
    (h : runStep b w pc a = some e) :
    (∀ r agent input, pc = .preChecking r → e.pc = .redeeming r (.start agent input) →
      w.platform.Executing r.action.key) ∧
    (∀ r bpc inv, pc = .redeeming r bpc → e.invoked = some inv → w.platform.Executing r.action.key) := by
  have hx : ExecutingAt (w, pc) := hrun.invariant (executingAt_step hb) trivial
  constructor
  · rintro r agent input rfl -
    exact hx
  · rintro r bpc inv rfl hinv
    cases runPiece_of_step h with
    | past _ => cases hinv
    | redeem hredeem =>
      cases piece_of_step hredeem with
      | ends _ _ _ => cases hinv
      | advance hadv =>
        cases hadv with
        | handled _ => exact hx.1
        | ran => exact hx.elim
        | _ => cases hinv

end

/-! ## A termination during the check -/

def sampleOperator : PlatformPrincipal := ⟨.operator, "t", none⟩

theorem redeem_executing_reader :
    ∃ labels w r c, Run (RunStep readerBroker (WhileYielded SparesCheck)) (sampleWorld, .start sampleAgent "pa1") labels
        (w, .redeeming r (.preparing c [])) ∧
      ∃ e, runStep readerBroker w (.redeeming r (.preparing c [])) (.redeem (.go true)) = some e ∧
        (∀ r' agent input, RunPc.redeeming r (.preparing c []) = .preChecking r' →
          e.pc = .redeeming r' (.start agent input) → w.platform.Executing r'.action.key) ∧
        ∀ r' bpc inv, RunPc.redeeming r (.preparing c []) = .redeeming r' bpc → e.invoked = some inv →
          w.platform.Executing r'.action.key := by
  obtain ⟨labels, w, r, c, hrun, e, inv, he, -, -⟩ := readerRun_invokes (WhileYielded SparesCheck)
  exact ⟨labels, w, r, c, hrun, e, he, redeem_executing rfl hrun he⟩

/-- The call waits for its check, and an operator can terminate the action meanwhile. -/
def terminable (x : World × RunPc) : Bool :=
  match x.2 with
  | .preChecking r =>
    decide (computeInputHash readerBroker.sha256 r.action.request = r.action.inputHash) &&
      match terminate x.1.platform true sampleOperator "pa1" "stop" with
      | .ok (p, _) => (p.actions.lookup r.action.key).any fun a => a.state = .terminated
      | .error _ => false
  | _ => false

/-- An action terminated during its pre-action check is redeemed all the same. -/
theorem redeem_terminated :
    ¬ ∀ (b : ExecutionBroker) (connectors : List ToolConnector) (tenantId : Text) (w₀ w : World) (pc : RunPc)
      (principal : PlatformPrincipal) (actionId : Text) (labels : List RunLabel) (a : RunAnswer) (e : RunEffect),
      b.registry = buildToolRegistry connectors tenantId →
      Run (RunStep b (WhileYielded fun _ => OperatorStep)) (w₀, .start principal actionId) labels (w, pc) →
      runStep b w pc a = some e →
      ∀ r agent input, pc = .preChecking r → e.pc = .redeeming r (.start agent input) →
        w.platform.Executing r.action.key := by
  intro h
  obtain ⟨labels, ⟨w, pc⟩, hrun, htest⟩ := runRun_of_test readerBroker (WhileYielded fun _ => OperatorStep)
    (sampleWorld, .start sampleAgent "pa1") [sampleBegin]
    terminable (by decide +kernel)
  simp only [terminable] at htest
  split at htest
  · next r =>
    rw [Bool.and_eq_true, decide_eq_true_eq] at htest
    obtain ⟨hbound, htest⟩ := htest
    split at htest
    · next p action hterminate =>
      have hrun' := hrun.snoc (.env ⟨rfl, .terminate w hterminate⟩)
      have hexecuting := h readerBroker [readerConnector] "t" _ _ _ _ _ _ sampleCheck _ rfl hrun' rfl r
        (.agent r.agentId) (r.redeemInput readerBroker.sha256) rfl (by simp [afterCheck, hbound, RunEffect.quiet])
      obtain ⟨a, ha, hstate⟩ := hexecuting
      rw [ha, Option.any_some, decide_eq_true_eq, hstate] at htest
      cases htest
    · cases htest
  · cases htest

end Tna.Platform
