import Tna.Broker.Interleaving

/-!
# The evidence of an execution

The transitions of an execution are appended to one log by three helpers: the
transaction of `issue`, the `finish` of a call, and `block`. The second also keeps the
summary; `block` only appends. Each call of the broker is read here for what it appends.
-/

namespace Tna.Broker

open Tna.Js Tna.Gate Tna.Lib

/-! ## The log by execution -/

/-- The states of an execution, in evidence order. -/
def statesOf (evidence : List Transition) (executionId : Text) : List ExecutionState :=
  (evidence.filter fun t => t.executionId = executionId).map Transition.state

/-- The states without the refusals. -/
def progress (states : List ExecutionState) : List ExecutionState := states.filter (· ≠ .blocked)

/-- What the transaction of `issue` appends. -/
def issuePath : List ExecutionState := [.requested, .authorized, .capabilityIssued]

def ExecutionState.terminal : ExecutionState → Bool
  | .succeeded | .failed | .terminated | .indeterminate => true
  | _ => false

section
variable (l l' : List Transition) (executionId : Text)

@[simp] theorem statesOf_nil : statesOf [] executionId = [] := rfl

@[simp] theorem statesOf_append : statesOf (l ++ l') executionId = statesOf l executionId ++ statesOf l' executionId := by
  simp [statesOf]

variable {t : Transition}

theorem statesOf_snoc_self (h : t.executionId = executionId) :
    statesOf (l ++ [t]) executionId = statesOf l executionId ++ [t.state] := by
  simp [statesOf, h]

theorem statesOf_snoc_of_ne (h : t.executionId ≠ executionId) : statesOf (l ++ [t]) executionId = statesOf l executionId := by
  simp [statesOf, h]

theorem statesOf_eq_nil (h : ∀ t ∈ l, t.executionId ≠ executionId) : statesOf l executionId = [] := by
  simpa [statesOf] using h

@[simp] theorem progress_append (s s' : List ExecutionState) : progress (s ++ s') = progress s ++ progress s' := by
  simp [progress]

@[simp] theorem progress_blocked : progress [.blocked] = [] := rfl

theorem progress_of_ne {state : ExecutionState} (h : state ≠ .blocked) : progress [state] = [state] := by
  simp [progress, h]

@[simp] theorem progress_issuePath : progress issuePath = issuePath := rfl

end

theorem ne_blocked_of_terminal {state : ExecutionState} (h : state.terminal = true) : state ≠ .blocked := by
  rintro rfl
  cases h

/-! ## What a piece of a call appends -/

/-- A write of the `try` block ends the call, or throws an error its `catch` block lets pass. -/
def Finish.Sound (f : Finish) : Prop :=
  f.state.terminal = true ∧ (f.next = .return ∨ ∃ state, f.next = .throw (isolatedMessage state))

def Pc.Sound : Pc → Prop
  | .finishing _ _ f => f.Sound
  | _ => True

/-- The call is about this payload: it opened its token, or holds its capability. -/
inductive Pc.About (b : ExecutionBroker) (p : CapabilityPayload) : Pc → Prop where
  | opened {principal : Principal} {input : RedeemInput} (h : b.codec.openToken input.token = some p) :
    Pc.About b p (.start principal input)
  | held {pc : Pc} {c : RedeemCall} (h : pc.held? = some c) (hp : c.payload = p) : Pc.About b p pc

/-- What a piece of a call appends to the evidence. -/
inductive Appends (b : ExecutionBroker) (s : Store) (pc : Pc) : Effect → Prop where
  | nothing {pc' : Pc} {invoked : Option Invocation} (hheld : ∀ c, pc'.held? = some c → pc.held? = some c) :
    Appends b s pc ⟨s, pc', invoked⟩
  | blocked {p : CapabilityPayload} {reason : Text} {pc' : Pc} (h : pc.About b p)
    (hheld : ∀ c, pc'.held? = some c → pc.held? = some c) :
    Appends b s pc (.quiet (s.append (transition s.gate.now p .blocked reason none)) pc')
  | started {c : RedeemCall} {ok : Bool} {s' : Store} {pc' : Pc} (hpc : pc = .consuming c)
    (hs : s.consume ok c.payload = .ok s') (hheld : ∀ c', pc'.held? = some c' → c' = c) :
    Appends b s pc (.quiet s' pc')
  | ended {c : RedeemCall} {state : ExecutionState} {reason : Text} {resultHash : Option Text}
    {isolation : Option IsolationEvidence} {pc' : Pc} (h : pc.held? = some c) (hstate : state.terminal = true)
    (hheld : pc'.held? = none) :
    Appends b s pc (.quiet (s.record c.payload state reason resultHash isolation) pc')

section
variable {b : ExecutionBroker} {s : Store} {pc : Pc} {c : RedeemCall} {leases : List Text}

@[simp] theorem finallyPc_held? (o : Outcome) : (finallyPc leases o).held? = none := by
  unfold finallyPc
  split <;> rfl

@[simp] theorem finallyPc_sound (o : Outcome) : (finallyPc leases o).Sound := by
  unfold finallyPc
  split <;> trivial

variable {completed : Bool} {e : Thrown} {pc' : Pc} {p : CapabilityPayload} {reason : Text}

theorem catchPc_held? {c' : RedeemCall} (h : (catchPc c leases completed e).held? = some c') : c = c' := by
  rw [writer?_of_ends (catchPc_ends ..)] at h
  exact catchPc_writer? h

@[simp] theorem catchPc_sound (completed : Bool) (e : Thrown) : (catchPc c leases completed e).Sound := by
  unfold catchPc
  split
  · exact finallyPc_sound _
  · split <;> trivial

theorem rethrown_isolatedMessage (state : IsolationState) : (Thrown.broker 500 (isolatedMessage state)).rethrown = true := by
  cases state <;> simp [Thrown.rethrown, isolatedMessage]

/-- After a write of the `try` block that went through the call is over. -/
theorem afterFinish_held? {f : Finish} (h : f.Sound) : (afterFinish c leases f).held? = none := by
  unfold afterFinish
  split
  · exact finallyPc_held? _
  · next message hnext =>
    rcases h.2 with hreturn | ⟨state, hthrow⟩
    · cases hnext.symm.trans hreturn
    · cases hnext.symm.trans hthrow
      rw [catchPc, rethrown_isolatedMessage, if_pos rfl]
      exact finallyPc_held? _

@[simp] theorem afterFinish_sound (f : Finish) : (afterFinish c leases f).Sound := by
  unfold afterFinish
  split
  · exact finallyPc_sound _
  · exact catchPc_sound _ _

theorem isolatedFinish_sound (sha256 : Text → Text) (adapter : IsolatedToolAdapter) (workspaceId : Text)
    (r : IsolatedExecutionResult) : (isolatedFinish sha256 c adapter workspaceId r).Sound := by
  constructor
  · simp only [isolatedFinish]
    cases r.state <;> rfl
  · simp only [isolatedFinish]
    split
    · exact .inl rfl
    · exact .inr ⟨r.state, rfl⟩

/-- A piece that gets to the `catch` block appends nothing. -/
theorem appends_catch (h : pc.held? = some c) :
    Appends b s pc (.quiet s (catchPc c leases completed e)) ∧ (Effect.quiet s (catchPc c leases completed e)).pc.Sound :=
  ⟨.nothing (fun _ hc => catchPc_held? hc ▸ h), catchPc_sound _ _⟩

/-- A piece that ends a call without a write. -/
theorem appends_free (h : pc'.held? = none) (hsound : pc'.Sound) :
    Appends b s pc (.quiet s pc') ∧ (Effect.quiet s pc').pc.Sound :=
  ⟨.nothing (fun _ hc => by cases h.symm.trans hc), hsound⟩

theorem Appends.of_block {ok : Bool} (h : pc.About b p) (hheld : ∀ c, pc'.held? = some c → pc.held? = some c) :
    Appends b s pc (.quiet (s.block ok p reason).1 pc') := by
  cases ok with
  | true => exact .blocked h hheld
  | false => exact .nothing hheld

/-- A call whose payload is blocked at its beginning opened its token. -/
theorem openToken_of_block {g : GateState} {principal : Principal} {i : RedeemInput}
    (h : redeemPrecheck b g principal i = .block p reason) : b.codec.openToken i.token = some p := by
  unfold redeemPrecheck at h
  split at h
  · cases h
  split at h
  · cases h
  next q hq =>
  split at h
  · cases h
  split at h
  · cases h
  split at h
  · cases h
  split at h
  · cases h
  split at h
  · cases h
  simp only at h
  split at h
  · cases h
    exact openToken_of_verify hq
  split at h
  · cases h
  · cases h

theorem statesOf_transition (l : List Transition) (now : Nat) (p : CapabilityPayload) (state : ExecutionState) (reason : Text)
    (isolation : Option IsolationEvidence) :
    statesOf (l ++ [transition now p state reason isolation]) p.executionId = statesOf l p.executionId ++ [state] :=
  statesOf_snoc_self _ _ rfl

/-- **What a piece of `redeem` appends.** -/
theorem appends_of_step {a : Answer} {e : Effect} (h : redeemStep b s pc a = some e) (hsound : pc.Sound) :
    Appends b s pc e ∧ e.pc.Sound := by
  unfold redeemStep at h
  split at h
  -- the synchronous beginning
  · split at h
    · cases h
      exact appends_free rfl trivial
    · next hblock =>
      cases h
      exact ⟨.of_block (.opened (openToken_of_block hblock)) (fun _ hc => by cases hc), trivial⟩
    · cases h
      exact appends_free rfl trivial
  -- consumption
  · next c ok =>
    split at h
    · cases h
      exact appends_free rfl trivial
    · next hs =>
      cases h
      refine ⟨.started rfl hs fun c' hc => ?_, ?_⟩
      · split at hc
        · exact (Option.some.inj hc).symm
        · exact (Option.some.inj hc).symm
      · simp only [Effect.quiet]
        split
        · trivial
        · trivial
  -- the leases
  · split at h
    · cases h
      exact ⟨.of_block (.held rfl rfl) fun _ hc => catchPc_held? hc ▸ rfl, catchPc_sound _ _⟩
    · cases h
      exact ⟨.nothing fun _ hc => hc, trivial⟩
  · cases h
    exact appends_catch rfl
  -- the request for the runner, or the call of the handler
  · split at h
    · cases h
      exact ⟨.nothing fun _ hc => hc, trivial⟩
    · cases h
  · split at h
    · cases h
      exact appends_catch rfl
    · cases h
  · split at h
    · cases h
    · split at h
      · cases h
        exact ⟨.nothing fun _ hc => hc, trivial⟩
      · cases h
        exact appends_catch rfl
  -- the workspace
  · cases h
    exact ⟨.nothing fun _ hc => hc, trivial⟩
  · cases h
    exact appends_catch rfl
  -- the answers of the runner and of the handler
  · cases h
    exact ⟨.nothing fun _ hc => hc, isolatedFinish_sound ..⟩
  · cases h
    exact appends_catch rfl
  · cases h
    exact ⟨.nothing fun _ hc => hc, rfl, .inl rfl⟩
  · cases h
    exact appends_catch rfl
  · cases h
    exact appends_catch rfl
  -- the writes
  · next c leases f ok =>
    split at h
    · next hfinish =>
      cases h
      cases ok with
      | true =>
        cases hfinish
        exact ⟨.ended rfl hsound.1 (afterFinish_held? hsound), afterFinish_sound _⟩
      | false => cases hfinish
    · cases h
      exact appends_catch rfl
  · next c leases ok =>
    cases h
    refine ⟨?_, finallyPc_sound _⟩
    cases ok with
    | true => exact .ended rfl rfl (finallyPc_held? _)
    | false => exact (appends_free (finallyPc_held? _) (finallyPc_sound _)).1
  · next c leases resultHash ok =>
    split at h
    · next hfinish =>
      cases h
      cases ok with
      | true =>
        cases hfinish
        exact ⟨.ended rfl rfl (finallyPc_held? _), finallyPc_sound _⟩
      | false => cases hfinish
    · cases h
      exact appends_free (finallyPc_held? _) (finallyPc_sound _)
  -- the release
  · cases h
    exact appends_free rfl trivial
  · cases h

end

/-! ## What `issue` appends -/

/-- The execution ids a call of `issue` may draw. -/
def IssueRandom.executionIds (r : IssueRandom) : List Text := [r.blockedId, r.blockedAgainId, r.executionId]

/-- Refusals, each under an id of its own. -/
structure Refusals (r : IssueRandom) (events : List Transition) : Prop where
  ids : (events.map Transition.executionId).Sublist [r.blockedId, r.blockedAgainId]
  blocked : ∀ t ∈ events, t.state = .blocked

/-- The cases of `issue`, with what it appends. -/
inductive IssueAppends (s : Store) (r : IssueRandom) : IssueEffect → Prop where
  | refused {events : List Transition} {e : Thrown} (h : Refusals r events) :
    IssueAppends s r ⟨{ s with evidence := s.evidence ++ events }, none, .error e⟩
  | rolledBack {p : CapabilityPayload} {e : Thrown} : IssueAppends s r ⟨s, some p, .error e⟩
  | stored {p : CapabilityPayload} {token : Text} (hexecution : p.executionId = r.executionId)
    (hcapability : p.capabilityId = r.capabilityId) : IssueAppends s r ⟨s.issued token p, some p, .ok (token, p)⟩

section
variable {s : Store} {r : IssueRandom}

theorem refusals_nil : Refusals r [] := ⟨List.nil_sublist _, fun _ h => by cases h⟩

theorem IssueAppends.of_none {e : Thrown} : IssueAppends s r ⟨s, none, .error e⟩ := by
  have h := IssueAppends.refused (s := s) (e := e) (refusals_nil (r := r))
  rwa [List.append_nil] at h

/-- The event of one refusal, if it can be written. -/
theorem blockDecision_appends (s : Store) (ok : Bool) (executionId : Text) (d : Decision) (reason : Text) :
    ∃ events : List Transition, (s.blockDecision ok executionId d reason).1 = { s with evidence := s.evidence ++ events } ∧
      (events.map Transition.executionId).Sublist [executionId] ∧ ∀ t ∈ events, t.state = .blocked := by
  cases ok with
  | true => exact ⟨_, rfl, List.Sublist.refl _, fun t ht => by rw [List.mem_singleton.1 ht]⟩
  | false => exact ⟨[], by simp [Store.blockDecision], List.nil_sublist _, fun _ h => by cases h⟩

theorem blockReasons_appends (s : Store) (w : IssueWrites) (r : IssueRandom) (d : Decision) (reasons : List Text) :
    ∃ events, (s.blockReasons w r d reasons).1 = { s with evidence := s.evidence ++ events } ∧ Refusals r events := by
  match reasons with
  | [] => exact ⟨[], by simp [Store.blockReasons], refusals_nil⟩
  | [reason] =>
    obtain ⟨events, hs, hids, hblocked⟩ := blockDecision_appends s w.blocked r.blockedId d reason
    exact ⟨events, hs, hids.trans (List.sublist_append_left _ _), hblocked⟩
  | reason :: again :: _ =>
    obtain ⟨events, hs, hids, hblocked⟩ := blockDecision_appends s w.blocked r.blockedId d reason
    obtain ⟨events', hs', hids', hblocked'⟩ := blockDecision_appends (s.blockDecision w.blocked r.blockedId d reason).1
      w.blockedAgain r.blockedAgainId d again
    refine ⟨events ++ events', ?_, ?_, ?_⟩
    · rw [Store.blockReasons, hs', hs]
      simp
    · rw [List.map_append]
      exact hids.append hids'
    · intro t ht
      rcases List.mem_append.1 ht with ht | ht
      · exact hblocked t ht
      · exact hblocked' t ht

/-- **What `issue` appends.** -/
theorem appends_of_issue (b : ExecutionBroker) (r : IssueRandom) (w : IssueWrites) (s : Store) (principal : Principal)
    (decisionId : Text) : IssueAppends s r (issue b r w s principal decisionId) := by
  unfold issue
  split
  · exact .of_none
  next d hd =>
  split
  · exact .of_none
  split
  · next reasons _ =>
    obtain ⟨events, hs, hrefusals⟩ := blockReasons_appends s w r d reasons
    simp only [hs]
    exact .refused hrefusals
  · next parsed _ =>
    unfold issueTransaction
    split
    · exact .of_none
    split
    · exact .of_none
    next token p hcodec =>
    have hinput := (codec_issue_ok hcodec).2
    split
    · exact .stored (by rw [hinput]; rfl) (by rw [hinput]; rfl)
    · exact .rolledBack

/-- Refusals under different ids: at most one of an execution. -/
theorem statesOf_refusals {events : List Transition} (h : Refusals r events) (hdistinct : r.executionIds.Nodup)
    (executionId : Text) : statesOf events executionId = [] ∨ statesOf events executionId = [.blocked] := by
  have hnodup : (events.map Transition.executionId).Nodup := by
    refine h.ids.nodup (hdistinct.sublist ?_)
    exact List.sublist_append_left [r.blockedId, r.blockedAgainId] [r.executionId]
  have hblocked := h.blocked
  clear h
  induction events with
  | nil => exact .inl rfl
  | cons t events ih =>
    rw [List.map_cons, List.nodup_cons] at hnodup
    have hrest : statesOf (t :: events) executionId = statesOf [t] executionId ++ statesOf events executionId :=
      statesOf_append [t] events executionId
    rw [hrest]
    by_cases ht : t.executionId = executionId
    · have hnone : statesOf events executionId = [] := by
        refine statesOf_eq_nil _ _ fun t' ht' heq => hnodup.1 ?_
        rw [ht, ← heq]
        exact List.mem_map_of_mem ht'
      rw [hnone, List.append_nil]
      refine .inr ?_
      simp [statesOf, ht, hblocked t (List.mem_cons_self ..)]
    · have hnone : statesOf [t] executionId = [] := by simp [statesOf, ht]
      rw [hnone, List.nil_append]
      exact ih hnodup.2 fun t' ht' => hblocked t' (List.mem_cons_of_mem _ ht')

end

end Tna.Broker
