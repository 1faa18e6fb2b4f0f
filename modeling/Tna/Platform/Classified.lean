import Tna.Platform.Run

/-!
# How an error of the broker is recorded

A run that gets an error from the broker records its action `INDETERMINATE` or `FAILED`,
going by the text of the error. What the broker knows is kept here beside the run, as
the list of its steps: whether the handler was called, and whether it completed.
-/

namespace Tna.Platform

open Tna.Js Tna.Gate Tna.Lib Tna.Broker

/-! ## What happened -/

/-- A step of a run, with the counter it was taken at. -/
structure Traced where
  pc : RunPc
  label : RunLabel

/-- A step of a run among others, traced. -/
def TracedStep (b : ExecutionBroker) (env : RunPc → World → World → Prop) (x : World × RunPc) (l : Traced)
    (y : World × RunPc) : Prop :=
  l.pc = x.2 ∧ RunStep b env x l.label y

/-- The handler or the isolated child has been called and is awaited. -/
def RunPc.invoked : RunPc → Bool
  | .redeeming _ (.handling ..) | .redeeming _ (.running ..) => true
  | _ => false

/-- The handler returned, or the isolated child succeeded. -/
def RunLabel.completes : RunLabel → Bool
  | .own (.redeem (.returned _)) => true
  | .own (.redeem (.ran r)) => r.state = .succeeded
  | _ => false

def Invoked (trace : List Traced) : Prop := ∃ step ∈ trace, step.pc.invoked = true

def Completed (trace : List Traced) : Prop := ∃ step ∈ trace, step.label.completes = true

/-- The error says that the outcome of the execution is not known. -/
def unknownOutcome : Thrown → Bool
  | .broker status message =>
    status == 503 &&
      (message = Text.ofAscii "Evidence persistence failed after successful handler execution" ||
        message = Text.ofAscii "Execution outcome is indeterminate; capability remains consumed")
  | .other _ => false

def isBrokerError : Thrown → Bool
  | .broker .. => true
  | .other _ => false

/-- The error is a definite failure or refusal: nothing completed, the outcome is not called unknown, and the
broker reports it, or nothing was called. -/
structure Definite (trace : List Traced) (e : Thrown) : Prop where
  incomplete : ¬ Completed trace
  known : unknownOutcome e = false
  reported : isBrokerError e = true ∨ ¬ Invoked trace

/-- A step by which the error comes to say less than the broker knew: the `FAILED` of the `catch` block is
lost, the `SUCCEEDED` of an isolated child is lost, or a lease cannot be released after the invocation. -/
def Obscures (before : List Traced) : Traced → Prop
  | ⟨.redeeming _ (.settling _ _ (.failed _)), .own (.redeem (.go false))⟩ => True
  | ⟨.redeeming _ (.finishing _ _ f), .own (.redeem (.go false))⟩ => f.handlerCompleted = false ∧ f.next = .return
  | ⟨.redeeming _ (.releasing ..), .own (.redeem (.released false))⟩ => Invoked before
  | _ => False

/-- No step of the run obscures what the broker knew. -/
def Clear (trace : List Traced) : Prop := ∀ before step, before ++ [step] <+: trace → ¬ Obscures before step

section
variable {trace : List Traced} {step : Traced}

theorem clear_snoc (h : Clear (trace ++ [step])) : Clear trace ∧ ¬ Obscures trace step := by
  refine ⟨?_, h trace step (List.prefix_refl _)⟩
  intro before step' hgrows
  exact h before step' (hgrows.trans (List.prefix_append _ _))

theorem invoked_snoc : Invoked (trace ++ [step]) ↔ Invoked trace ∨ step.pc.invoked = true := by
  simp only [Invoked, List.mem_append, List.mem_singleton, or_and_right, exists_or, exists_eq_left]

theorem completed_snoc : Completed (trace ++ [step]) ↔ Completed trace ∨ step.label.completes = true := by
  simp only [Completed, List.mem_append, List.mem_singleton, or_and_right, exists_or, exists_eq_left]

end

/-! ## What the errors say -/

def evidenceLost : Thrown := .broker 503 "Evidence persistence failed after successful handler execution"

/-- An error that tells what the broker knew. -/
structure Tells (trace : List Traced) (e : Thrown) : Prop where
  completed : Completed trace → e = evidenceLost
  known : unknownOutcome e = true → e = evidenceLost
  reported : isBrokerError e = true ∨ ¬ Invoked trace

def OutcomeTells (trace : List Traced) : Outcome → Prop
  | .returned .. => True
  | .threw e => Tells trace e

/-- What is known at each counter of the broker. -/
def BrokerKnows (trace : List Traced) : Broker.Pc → Prop
  | .start .. | .consuming _ | .leasing _ | .preparing .. | .makingWorkspace .. => ¬ Completed trace ∧ ¬ Invoked trace
  | .handling .. | .running .. => ¬ Completed trace
  | .finishing _ _ f => Completed trace → f.next = .return
  | .settling _ _ .indeterminate => True
  | .settling _ _ (.failed _) => ¬ Completed trace
  | .releasing _ o | .done o => OutcomeTells trace o

/-- What is known at each counter of the run. -/
def Knows (trace : List Traced) : RunPc → Prop
  | .start .. | .preChecking _ => ¬ Completed trace ∧ ¬ Invoked trace
  | .redeeming _ pc => (Completed trace → Invoked trace) ∧ BrokerKnows trace pc
  | .postChecking .. | .verifying _ | .done _ => True

section
variable {trace : List Traced} {c : RedeemCall} {leases : List Text} {o : Outcome} {e : Thrown}

theorem knows_finally (h : OutcomeTells trace o) : BrokerKnows trace (finallyPc leases o) := by
  unfold finallyPc
  split
  · exact h
  · exact h

/-- An error that passes the `catch` block as it is comes from the broker, and calls nothing unknown. -/
theorem tells_of_rethrown (hincomplete : ¬ Completed trace) (h : e.rethrown = true) : Tells trace e := by
  cases e with
  | other h' => cases h
  | broker status message =>
    refine ⟨fun hc => absurd hc hincomplete, ?_, .inl rfl⟩
    intro hunknown
    simp only [unknownOutcome, Bool.and_eq_true, beq_iff_eq, Bool.or_eq_true, decide_eq_true_eq] at hunknown
    obtain ⟨rfl, hmessage⟩ := hunknown
    simp only [Thrown.rethrown, Bool.or_eq_true, decide_eq_true_eq] at h
    rcases hmessage with rfl | rfl <;> simp at h

theorem knows_catch {completed : Bool} (h : Completed trace → completed = true ∧ e.rethrown = false) :
    BrokerKnows trace (catchPc c leases completed e) := by
  unfold catchPc
  split
  · next hrethrown =>
    refine knows_finally (tells_of_rethrown ?_ hrethrown)
    intro hc
    rw [(h hc).2] at hrethrown
    cases hrethrown
  · split
    · trivial
    · next hcompleted =>
      intro hc
      exact hcompleted (h hc).1

theorem knows_afterFinish {f : Finish} (h : Completed trace → f.next = .return) :
    BrokerKnows trace (afterFinish c leases f) := by
  unfold afterFinish
  split
  · exact knows_finally trivial
  · next message hnext =>
    refine knows_catch fun hc => ?_
    cases hnext.symm.trans (h hc)

/-- What the checks before the consumption throw. -/
theorem known_of_precheck {b : ExecutionBroker} {g : GateState} {principal : Principal} {i : RedeemInput}
    (h : redeemPrecheck b g principal i = .throw e) : unknownOutcome e = false ∧ isBrokerError e = true := by
  unfold redeemPrecheck at h
  split at h
  · cases h
    exact ⟨rfl, rfl⟩
  split at h
  · cases h
    exact ⟨rfl, rfl⟩
  split at h
  · cases h
    exact ⟨rfl, rfl⟩
  split at h
  · cases h
    exact ⟨rfl, rfl⟩
  split at h
  · cases h
    exact ⟨rfl, rfl⟩
  split at h
  · cases h
    exact ⟨rfl, rfl⟩
  split at h
  · cases h
    exact ⟨rfl, rfl⟩
  simp only at h
  split at h
  · cases h
  split at h
  · cases h
    exact ⟨by decide, rfl⟩
  · cases h

/-- What is thrown before anything is called tells what there is to tell. -/
theorem tells_before (hincomplete : ¬ Completed trace) (huninvoked : ¬ Invoked trace)
    (hknown : unknownOutcome e = false) : Tells trace e := by
  refine ⟨fun hc => absurd hc hincomplete, ?_, .inr huninvoked⟩
  intro hunknown
  rw [hknown] at hunknown
  cases hunknown

theorem unknownOutcome_block (s : Store) (ok : Bool) (p : CapabilityPayload) (reason : Text) :
    unknownOutcome (s.block ok p reason).2 = false := by
  cases ok with
  | true => rfl
  | false => rfl

theorem unknownOutcome_consume {s : Store} {ok : Bool} {p : CapabilityPayload} (h : s.consume ok p = .error e) :
    unknownOutcome e = false := by
  unfold Store.consume at h
  split at h
  · split at h
    · cases h
      rfl
    · split at h
      · cases h
      · cases h
        rfl
  · cases h
    rfl

end

/-! ## What a step keeps -/

section
variable {trace : List Traced} {step : Traced}

theorem incomplete_snoc (h : ¬ Completed trace) (hstep : step.label.completes = false) : ¬ Completed (trace ++ [step]) := by
  rw [completed_snoc, hstep]
  simpa using h

theorem uninvoked_snoc (h : ¬ Invoked trace) (hstep : step.pc.invoked = false) : ¬ Invoked (trace ++ [step]) := by
  rw [invoked_snoc, hstep]
  simpa using h

theorem completed_of_snoc (h : Completed (trace ++ [step])) (hstep : step.label.completes = false) : Completed trace := by
  rw [completed_snoc, hstep] at h
  simpa using h

theorem outcomeTells_snoc {o : Outcome} (h : OutcomeTells trace o) (hlabel : step.label.completes = false)
    (hpc : step.pc.invoked = false) : OutcomeTells (trace ++ [step]) o := by
  cases o with
  | returned executionId resultHash => trivial
  | threw e =>
    refine ⟨fun hc => h.completed (completed_of_snoc hc hlabel), h.known, ?_⟩
    exact h.reported.imp_right fun h => uninvoked_snoc h hpc

variable {a : Broker.Answer} {b : ExecutionBroker} {e : Effect} {pc : Broker.Pc} {r : RunContext} {s : Store}

/-- A piece of the broker's call keeps what is known, unless it obscures it. -/
theorem knows_redeemStep (h : redeemStep b s pc a = some e) (hx : BrokerKnows trace pc)
    (hinvoked : Completed trace → Invoked trace) (hclear : ¬ Obscures trace ⟨.redeeming r pc, .own (.redeem a)⟩) :
    BrokerKnows (trace ++ [⟨.redeeming r pc, .own (.redeem a)⟩]) e.pc := by
  unfold redeemStep at h
  split at h
  -- the synchronous beginning
  · next principal input storeOk =>
    have hc' : ¬ Completed (_ ++ [⟨.redeeming r (.start principal input), .own (.redeem (.go storeOk))⟩]) := incomplete_snoc hx.1 rfl
    have hi' : ¬ Invoked (_ ++ [⟨.redeeming r (.start principal input), .own (.redeem (.go storeOk))⟩]) := uninvoked_snoc hx.2 rfl
    split at h
    · next hthrow =>
      cases h
      exact tells_before hc' hi' (known_of_precheck hthrow).1
    · cases h
      exact tells_before hc' hi' (unknownOutcome_block ..)
    · cases h
      exact ⟨hc', hi'⟩
  -- consumption
  · next c storeOk =>
    have hc' : ¬ Completed (_ ++ [⟨.redeeming r (.consuming c), .own (.redeem (.go storeOk))⟩]) := incomplete_snoc hx.1 rfl
    have hi' : ¬ Invoked (_ ++ [⟨.redeeming r (.consuming c), .own (.redeem (.go storeOk))⟩]) := uninvoked_snoc hx.2 rfl
    split at h
    · next herror =>
      cases h
      exact tells_before hc' hi' (unknownOutcome_consume herror)
    · cases h
      simp only [Effect.quiet]
      split
      · exact ⟨hc', hi'⟩
      · exact ⟨hc', hi'⟩
  -- the leases
  · next c names storeOk =>
    have hc' : ¬ Completed (_ ++ [⟨.redeeming r (.leasing c), .own (.redeem (.leased names storeOk))⟩]) := incomplete_snoc hx.1 rfl
    split at h
    · cases h
      exact knows_catch fun h => absurd h hc'
    · cases h
      exact ⟨hc', uninvoked_snoc hx.2 rfl⟩
  · cases h
    exact knows_catch fun h => absurd h (incomplete_snoc hx.1 rfl)
  -- the request for the runner, or the call of the handler
  · split at h
    · cases h
      exact ⟨incomplete_snoc hx.1 rfl, uninvoked_snoc hx.2 rfl⟩
    · cases h
  · split at h
    · cases h
      exact knows_catch fun h => absurd h (incomplete_snoc hx.1 rfl)
    · cases h
  · next c leases storeOk =>
    have hc' : ¬ Completed (_ ++ [⟨.redeeming r (.preparing c leases), .own (.redeem (.go storeOk))⟩]) := incomplete_snoc hx.1 rfl
    split at h
    · cases h
    · split at h
      · cases h
        exact hc'
      · cases h
        simp only [Effect.quiet]
        exact knows_catch fun h => absurd h hc'
  -- the workspace
  · cases h
    exact incomplete_snoc hx.1 rfl
  · cases h
    exact knows_catch fun h => absurd h (incomplete_snoc hx.1 rfl)
  -- the answers of the runner and of the handler
  · next result =>
    cases h
    intro hcompleted
    rcases completed_snoc.1 hcompleted with hcompleted | hcompleted
    · exact absurd hcompleted hx
    · have hsucceeded : result.state = .succeeded := of_decide_eq_true hcompleted
      simp [isolatedFinish, hsucceeded]
  · cases h
    exact knows_catch fun h => absurd h (incomplete_snoc hx rfl)
  · cases h
    exact fun _ => rfl
  · cases h
    exact knows_catch (e := .other none) fun _ => ⟨rfl, rfl⟩
  · cases h
    exact knows_catch fun h => absurd h (incomplete_snoc hx rfl)
  -- the writes
  · next c leases f ok =>
    split at h
    · cases h
      exact knows_afterFinish fun h => hx (completed_of_snoc h rfl)
    · next hlost =>
      cases h
      obtain rfl : ok = false := by
        cases ok with
        | true => cases hlost
        | false => rfl
      refine knows_catch (e := .other none) fun hcompleted => ⟨?_, rfl⟩
      have hnext := hx (completed_of_snoc hcompleted rfl)
      cases hcompletes : f.handlerCompleted with
      | true => rfl
      | false => exact absurd ⟨hcompletes, hnext⟩ hclear
  · cases h
    refine knows_finally ⟨fun _ => rfl, fun _ => rfl, .inl rfl⟩
  · next c leases result ok =>
    split at h
    · cases h
      refine knows_finally ⟨fun hcompleted => ?_, fun hunknown => ?_, .inl rfl⟩
      · exact absurd (completed_of_snoc hcompleted rfl) hx
      · cases hunknown
    · next hlost =>
      cases ok with
      | true => cases hlost
      | false => exact absurd trivial hclear
  -- the release
  · next leases o ok =>
    cases h
    cases ok with
    | true => exact outcomeTells_snoc hx rfl rfl
    | false =>
      have huninvoked : ¬ Invoked trace := hclear
      have hincomplete : ¬ Completed trace := fun hc => huninvoked (hinvoked hc)
      exact tells_before (incomplete_snoc hincomplete rfl) (uninvoked_snoc huninvoked rfl) rfl
  · cases h

/-- What completes was called before. -/
theorem invoked_of_completes (h : redeemStep b s pc a = some e) (hcompletes : (RunLabel.own (.redeem a)).completes = true) :
    (RunPc.redeeming r pc).invoked = true := by
  cases a with
  | ran result =>
    cases pc with
    | running _ _ _ _ => rfl
    | settling _ _ w => cases w <;> cases h
    | _ => cases h
  | returned resultHash =>
    cases pc with
    | handling _ _ => rfl
    | settling _ _ w => cases w <;> cases h
    | _ => cases h
  | _ => cases hcompletes

end

/-! ## Whole runs -/

section
variable {b : ExecutionBroker} {env : RunPc → World → World → Prop} {trace : List Traced}

variable {pc : RunPc}

theorem knows_of_past (h : pc.past = true) : Knows trace pc := by
  cases pc with
  | postChecking _ _ _ => trivial
  | verifying _ => trivial
  | done _ => trivial
  | _ => cases h

/-- The counters before the call of the broker. -/
theorem knows_before {l : RunLabel} (hx : Knows trace pc) (hpc : ∀ r bpc, pc ≠ .redeeming r bpc) (hpast : pc.past = false)
    (hl : l.completes = false) : ¬ Completed (trace ++ [⟨pc, l⟩]) ∧ ¬ Invoked (trace ++ [⟨pc, l⟩]) := by
  have hknows : ¬ Completed trace ∧ ¬ Invoked trace := by
    cases pc with
    | start _ _ => exact hx
    | preChecking _ => exact hx
    | redeeming r bpc => exact absurd rfl (hpc r bpc)
    | _ => cases hpast
  refine ⟨incomplete_snoc hknows.1 hl, uninvoked_snoc hknows.2 ?_⟩
  cases pc with
  | redeeming r bpc => exact absurd rfl (hpc r bpc)
  | _ => rfl

theorem knows_env (hx : Knows trace pc) : Knows (trace ++ [⟨pc, .env⟩]) pc := by
  cases pc with
  | start principal actionId => exact ⟨incomplete_snoc hx.1 rfl, uninvoked_snoc hx.2 rfl⟩
  | preChecking r => exact ⟨incomplete_snoc hx.1 rfl, uninvoked_snoc hx.2 rfl⟩
  | redeeming r bpc =>
    obtain ⟨hinvoked, hknows⟩ := hx
    refine ⟨fun hc => invoked_snoc.2 (.inl (hinvoked (completed_of_snoc hc rfl))), ?_⟩
    cases bpc with
    | start _ _ => exact ⟨incomplete_snoc hknows.1 rfl, uninvoked_snoc hknows.2 rfl⟩
    | consuming _ => exact ⟨incomplete_snoc hknows.1 rfl, uninvoked_snoc hknows.2 rfl⟩
    | leasing _ => exact ⟨incomplete_snoc hknows.1 rfl, uninvoked_snoc hknows.2 rfl⟩
    | preparing _ _ => exact ⟨incomplete_snoc hknows.1 rfl, uninvoked_snoc hknows.2 rfl⟩
    | makingWorkspace _ _ _ _ => exact ⟨incomplete_snoc hknows.1 rfl, uninvoked_snoc hknows.2 rfl⟩
    | running _ _ _ _ => exact incomplete_snoc hknows rfl
    | handling _ _ => exact incomplete_snoc hknows rfl
    | finishing _ _ f => exact fun hc => hknows (completed_of_snoc hc rfl)
    | settling _ _ w =>
      cases w with
      | indeterminate => trivial
      | failed _ => exact incomplete_snoc hknows rfl
    | releasing _ o => exact outcomeTells_snoc hknows rfl rfl
    | done o => exact outcomeTells_snoc hknows rfl rfl
  | postChecking _ _ _ => trivial
  | verifying _ => trivial
  | done _ => trivial

theorem knows_own {w : World} {a : RunAnswer} {e : RunEffect} (h : runStep b w pc a = some e) (hx : Knows trace pc)
    (hclear : ¬ Obscures trace ⟨pc, .own a⟩) : Knows (trace ++ [⟨pc, .own a⟩]) e.pc := by
  cases pc with
  | start principal actionId =>
    cases a with
    | begin a =>
      cases runPiece_of_step h with
      | claimed _ => exact knows_before hx (by simp) rfl rfl
      | past hpast => exact knows_of_past hpast
    | _ => cases h
  | preChecking r =>
    cases a with
    | checked decision confirmed violations failOk finishOk =>
      have hknows := knows_before (l := .own (.checked decision confirmed violations failOk finishOk)) hx (by simp) rfl rfl
      cases runPiece_of_step h with
      | checked _ => exact ⟨fun hc => absurd hc hknows.1, hknows⟩
      | past hpast => exact knows_of_past hpast
    | checkFailed =>
      cases h
      trivial
    | _ => cases h
  | redeeming r bpc =>
    cases a with
    | redeemed failOk finishOk =>
      cases bpc with
      | done o =>
        cases h
        cases o with
        | returned executionId resultHash => trivial
        | threw e =>
          simp only [afterRedeem, endWith]
          split
          · trivial
          · trivial
      | _ => cases h
    | redeem a =>
      have h : (redeemStep b w.broker bpc a).map
          (fun e => (⟨{ w with broker := e.store }, .redeeming r e.pc, e.invoked⟩ : RunEffect)) = some e := by
        cases bpc <;> exact h
      obtain ⟨e', he', rfl⟩ := Option.map_eq_some_iff.1 h
      obtain ⟨hinvoked, hknows⟩ := hx
      refine ⟨fun hc => invoked_snoc.2 ?_, knows_redeemStep he' hknows hinvoked hclear⟩
      rcases completed_snoc.1 hc with hc | hc
      · exact .inl (hinvoked hc)
      · exact .inr (invoked_of_completes he' hc)
    | _ => cases bpc <;> cases h
  | postChecking r executionId resultHash =>
    cases runPiece_of_step h with
    | past hpast => exact knows_of_past hpast
  | verifying action =>
    cases runPiece_of_step h with
    | past hpast => exact knows_of_past hpast
  | done o => cases h

theorem knows_step (as : List Traced) (x : World × RunPc) (l : Traced) (y : World × RunPc) (h : TracedStep b env x l y)
    (hx : Clear as → Knows as x.2) (hclear : Clear (as ++ [l])) : Knows (as ++ [l]) y.2 := by
  obtain ⟨pc, label⟩ := l
  obtain ⟨hbefore, hlast⟩ := clear_snoc hclear
  obtain ⟨rfl, hstep⟩ := h
  cases hstep with
  | own hown => exact knows_own hown (hx hbefore) hlast
  | env _ => exact knows_env (hx hbefore)

/-- **How an error of the broker is recorded.** In a run in which no step obscures what the broker knew, an
action whose handler completed, or whose outcome is called unknown, is recorded `INDETERMINATE`; `FAILED` is
recorded of a definite failure or refusal only. -/
theorem recorded_of_threw {w₀ w : World} {principal : PlatformPrincipal} {actionId : Text} {r : RunContext} {e : Thrown}
    {failOk finishOk : Bool} {effect : RunEffect} {action : PlatformAction}
    (hrun : Run (TracedStep b env) (w₀, .start principal actionId) trace (w, .redeeming r (.done (.threw e))))
    (hclear : Clear trace)
    (hstep : runStep b w (.redeeming r (.done (.threw e))) (.redeemed failOk finishOk) = some effect)
    (hpc : effect.pc = .done (.returned action false)) :
    effect.world.platform.actions.lookup action.key = some action ∧
      (Completed trace ∨ unknownOutcome e = true → action.state = .indeterminate) ∧
      (action.state = .failed → Definite trace e) := by
  have hstart : Knows [] (.start principal actionId) := ⟨by simp [Completed], by simp [Invoked]⟩
  have hknows : Knows trace (.redeeming r (.done (.threw e))) :=
    hrun.trace_invariant (I := fun as x => Clear as → Knows as x.2) knows_step (fun _ => hstart) hclear
  have htells : Tells trace e := hknows.2
  cases hstep
  simp only [afterRedeem, endWith] at hpc ⊢
  split at hpc
  · next p action' hrecord =>
    cases hpc
    obtain ⟨current, hrow, -, rfl, rfl⟩ := PlatformStore.update_ok hrecord
    refine ⟨?_, ?_, ?_⟩
    · simp only [RunEffect.quiet]
      rw [PlatformStore.finishRunQuietly_actions]
      exact PlatformStore.lookup_put ..
    · intro h
      have he : e = evidenceLost := h.elim htells.completed htells.known
      subst he
      rfl
    · intro hfailed
      have hdegraded : degraded e = false := by
        by_contra h
        simp [h] at hfailed
      have hne : e ≠ evidenceLost := by
        rintro rfl
        cases hdegraded
      refine ⟨fun hc => hne (htells.completed hc), ?_, htells.reported⟩
      by_contra h
      exact hne (htells.known (by simpa using h))
  · cases hpc

end

/-! ## Runs whose broker fails -/

/-- The step loses nothing the broker knew, whatever came before it. -/
def keepsKnowledge : RunPc → RunAnswer → Bool
  | .redeeming _ (.settling _ _ (.failed _)), .redeem (.go false) => false
  | .redeeming _ (.finishing _ _ f), .redeem (.go false) => f.handlerCompleted
  | .redeeming _ (.releasing ..), .redeem (.released false) => false
  | _, _ => true

variable {pc : RunPc}

theorem not_obscures {before : List Traced} {a : RunAnswer} (h : keepsKnowledge pc a = true) :
    ¬ Obscures before ⟨pc, .own a⟩ := by
  unfold Obscures
  split
  · next heq =>
    cases heq
    cases h
  · next heq =>
    cases heq
    rintro ⟨hcompleted, -⟩
    cases hcompleted.symm.trans h
  · next heq =>
    cases heq
    cases h
  · exact id

/-- A run that has the process to itself, traced, given the answers it gets. -/
def replayTraced (b : ExecutionBroker) : World × RunPc → List RunAnswer → Option (World × RunPc) :=
  replay fun x a =>
    if keepsKnowledge x.2 a then (runStep b x.1 x.2 a).map fun e => (e.world, e.pc) else none

theorem tracedRun_of_test (b : ExecutionBroker) (env : RunPc → World → World → Prop) (x : World × RunPc)
    (as : List RunAnswer) (test : World × RunPc → Bool) (h : (replayTraced b x as).any test = true) :
    ∃ trace y, Run (TracedStep b env) x trace y ∧ Clear trace ∧ test y = true := by
  obtain ⟨y, hrun, htest⟩ := run_of_test h
  obtain ⟨trace, hrun⟩ := hrun.relabel
    (fun x l y => TracedStep b env x l y ∧ ∀ before, ¬ Obscures before l) fun x a y hxy => by
      split at hxy
      · next hkeeps =>
        obtain ⟨e, he, rfl⟩ := Option.map_eq_some_iff.1 hxy
        exact ⟨⟨x.2, .own a⟩, ⟨rfl, .own he⟩, fun before => not_obscures hkeeps⟩
      · cases hxy
  refine ⟨trace, y, hrun.mono fun _ _ _ h => h.1, ?_, htest⟩
  intro before step hgrows
  have hmem : step ∈ trace := hgrows.subset (List.mem_append_right _ (List.mem_singleton_self step))
  exact hrun.forall_labels (P := fun l => ∀ before, ¬ Obscures before l) (fun _ _ _ h => h.2) step hmem before

/-- The answers up to the call of the handler. -/
def answersToHandler : List RunAnswer :=
  [sampleBegin, sampleCheck, .redeem (.go true), .redeem (.go true), .redeem (.go true)]

/-- The test of a run at its recording step: the error of the broker, and the action recorded. -/
def recordsAs (unknown : Bool) (state : PlatformActionState) (x : World × RunPc) : Bool :=
  match x.2 with
  | .redeeming r (.done (.threw e)) =>
    match (afterRedeem x.1 r true true (.threw e)).pc with
    | .done (.returned action false) => unknownOutcome e == unknown && decide (action.state = state)
    | _ => false
  | _ => false

theorem recordsAs_iff {unknown : Bool} {state : PlatformActionState} {w : World} (h : recordsAs unknown state (w, pc) = true) :
    ∃ r e action, pc = .redeeming r (.done (.threw e)) ∧
      (afterRedeem w r true true (.threw e)).pc = .done (.returned action false) ∧ unknownOutcome e = unknown ∧
      action.state = state := by
  unfold recordsAs at h
  split at h
  · next r e hpc =>
    split at h
    · next action haction =>
      rw [Bool.and_eq_true, beq_iff_eq, decide_eq_true_eq] at h
      exact ⟨r, e, action, hpc, haction, h.1, h.2⟩
    · cases h
  · cases h

/-- A handler completed and neither of the writes that follow goes through. -/
theorem recorded_of_threw_evidenceLost :
    ∃ trace w r e action, Run (TracedStep readerBroker fun _ _ _ => False) (sampleWorld, .start sampleAgent "pa1") trace
        (w, .redeeming r (.done (.threw e))) ∧ unknownOutcome e = true ∧
      (afterRedeem w r true true (.threw e)).pc = .done (.returned action false) ∧ action.state = .indeterminate := by
  obtain ⟨trace, ⟨w, pc⟩, hrun, hclear, htest⟩ := tracedRun_of_test readerBroker (fun _ _ _ => False)
    (sampleWorld, .start sampleAgent "pa1")
    (answersToHandler ++ [.redeem (.returned (some "h")), .redeem (.go false), .redeem (.go false)])
    (recordsAs true .indeterminate) (by decide +kernel)
  obtain ⟨r, e, action, rfl, hpc, hunknown, -⟩ := recordsAs_iff htest
  obtain ⟨-, hindeterminate, -⟩ := recorded_of_threw hrun hclear rfl hpc
  exact ⟨trace, w, r, e, action, hrun, hunknown, hpc, hindeterminate (.inr hunknown)⟩

/-- A handler fails and its `FAILED` is lost: the broker says that the outcome is not known, and the action is
recorded `FAILED`. -/
theorem recorded_failed_unknown :
    ¬ ∀ (b : ExecutionBroker) (env : RunPc → World → World → Prop) (w₀ w : World) (principal : PlatformPrincipal)
      (actionId : Text) (trace : List Traced) (r : RunContext) (e : Thrown) (failOk finishOk : Bool) (effect : RunEffect)
      (action : PlatformAction),
      Run (TracedStep b env) (w₀, .start principal actionId) trace (w, .redeeming r (.done (.threw e))) →
      runStep b w (.redeeming r (.done (.threw e))) (.redeemed failOk finishOk) = some effect →
      effect.pc = .done (.returned action false) → Completed trace ∨ unknownOutcome e = true →
      action.state = .indeterminate := by
  intro h
  obtain ⟨labels, ⟨w, pc⟩, hrun, htest⟩ := runRun_of_test readerBroker (fun _ _ _ => False)
    (sampleWorld, .start sampleAgent "pa1")
    (answersToHandler ++ [.redeem (.failed (.other none)), .redeem (.go false)]) (recordsAs true .failed)
    (by decide +kernel)
  obtain ⟨r, e, action, rfl, hpc, hunknown, hfailed⟩ := recordsAs_iff htest
  obtain ⟨trace, hrun⟩ := hrun.relabel (TracedStep readerBroker fun _ _ _ => False) fun x l y h => ⟨⟨x.2, l⟩, rfl, h⟩
  have hindeterminate := h _ _ _ _ _ _ _ r e true true _ action hrun rfl hpc (.inr hunknown)
  rw [hfailed] at hindeterminate
  cases hindeterminate

end Tna.Platform
