import Tna.Sentinel.Contained

/-!
# What a submission is answered with

An observation is saved in one transaction and evaluated after it, with awaits in
between. A submission that saved its observation comes back only with the decision that
was persisted for it. One that found its observation stored comes back at once, from the
table of observations alone.
-/

namespace Tna.Sentinel

open Tna.Js Tna.Lib

/-! ## Decisions on an observation -/

/-- The session an observation is of. -/
def SentinelObservationInput.sessionKey (o : SentinelObservationInput) : Text × Text := (o.tenantId, o.sentinelSessionId)

/-- An evaluation that the observation triggered came to the decision. Its outcome is written into it later. -/
def ComputedFor (rt : SentinelRuntime) (o : SentinelObservation) (decision : SentinelDecision) : Prop :=
  ∃ newId policy session now authorityStatus stopped, ∃ computed : SentinelDecision,
    session.key = o.sessionKey ∧
      evaluateSession rt.evaluateRule newId policy ⟨session, now, some o, authorityStatus⟩ stopped = .ok computed ∧
      decision = { computed with
        containmentStatus := decision.containmentStatus
        transitionResult := decision.transitionResult }

/-- A decision is stored for the session that was computed with its stored observation as the trigger. -/
def Decided (rt : SentinelRuntime) (s : SentinelStore) (key : Text × Text) (observationId : Text) : Prop :=
  ∃ row ∈ s.decisions, (row.tenantId, row.sentinelSessionId) = key ∧
    ∃ o ∈ s.observations, o.sessionKey = key ∧ o.observationId = observationId ∧ ComputedFor rt o row.record

/-- The session is in the store and has not ended. -/
def SentinelStore.IsOpen (s : SentinelStore) (key : Text × Text) : Prop :=
  ∃ status, s.status? key = some status ∧ isTerminalStatus status = false

/-- A submission that comes back from a session that has not ended has a decision persisted for its observation. -/
def Act.Answered (rt : SentinelRuntime) : Act → Prop
  | .piece p => ∀ (observation : SentinelObservation) decision, p.effect.pc = .done (.submitted observation decision) →
      p.effect.store.IsOpen observation.sessionKey → Decided rt p.effect.store observation.sessionKey observation.observationId
  | _ => True

/-- The submission is taken, and its observation is stored with the same text. -/
def Resubmits (s : SentinelStore) (principal : SentinelPrincipal) (sessionId : Text) (input : SentinelObservationInput) :
    Prop :=
  assertCanObserve principal input.observationType = .ok () ∧ assertTenant principal input.tenantId = .ok () ∧
    input.sentinelSessionId = sessionId ∧ s.IsOpen input.sessionKey ∧
    ∃ existing, s.observations.find? input.names = some existing ∧
      existing.toSentinelObservationInput.sameText input = true

/-- No submission repeats an observation before a decision on it is stored. -/
def Act.RepeatsDecided (rt : SentinelRuntime) : Act → Prop
  | .piece p => ∀ principal sessionId input a, p.origin = .first (.submitObservation principal sessionId input) a →
      Resubmits p.before principal sessionId input → Decided rt p.before input.sessionKey input.observationId
  | _ => True

section
variable {rt : SentinelRuntime} {s s' : SentinelStore} {key : Text × Text} {caller : Caller} {a : PieceAnswer}
  {decision : SentinelDecision} {o : SentinelObservation}

theorem ComputedFor.outcome (h : ComputedFor rt o decision) (status : ContainmentStatus)
    (kind : TransitionResult) :
    ComputedFor rt o { decision with containmentStatus := status, transitionResult := kind } := by
  obtain ⟨newId, policy, session, now, authorityStatus, stopped, computed, hkey, heval, heq⟩ := h
  refine ⟨newId, policy, session, now, authorityStatus, stopped, computed, hkey, heval, ?_⟩
  rw [heq]

/-- What was stored stays stored. -/
structure SentinelStore.Grows (s s' : SentinelStore) : Prop where
  observations : s.observations ⊆ s'.observations
  decisions : s.decisions ⊆ s'.decisions

/-- What an operation stands at is about the observation it was submitted with. -/
def StandsFor (rt : SentinelRuntime) (s : SentinelStore) (o : SentinelObservation) : OpPc → Prop
  | .revalidating session _ _ => session.key = o.sessionKey
  | .containing _ key decision _ => key = o.sessionKey ∧ ComputedFor rt o decision
  | .applied decision _ => ∃ row ∈ s.decisions, (row.tenantId, row.sentinelSessionId) = o.sessionKey ∧
      row.record = decision ∧ ComputedFor rt o decision
  | .done _ => True

def OpPc.observation : OpPc → Option SentinelObservation
  | .revalidating _ _ caller => caller.observation
  | .containing _ _ _ caller => caller.observation
  | .applied _ caller => caller.observation
  | .done _ => none

/-- An operation of a submission goes on with its stored observation. -/
def Follows (rt : SentinelRuntime) (s : SentinelStore) (pc : OpPc) : Prop :=
  ∀ o, pc.observation = some o → o ∈ s.observations ∧ StandsFor rt s o pc

variable {pc : OpPc} {ok confirmed : Bool} {status : ContainmentStatus} {action : ContainmentAction}
  {authorityStatus : Option AuthorityStatus} {policy : SentinelPolicy} {session : SentinelSession}
  {sessionId tenantId message : Text} {input : SentinelObservationInput} {principal : SentinelPrincipal}
  {type : SentinelDecisionType} {e : OpEffect} {origin : PieceOrigin} {d : Option SentinelDecision}

theorem Follows.grows (h : Follows rt s pc) (hgrows : s.Grows s') : Follows rt s' pc := by
  intro o ho
  obtain ⟨hmem, hfor⟩ := h o ho
  refine ⟨hgrows.observations hmem, ?_⟩
  cases pc with
  | revalidating => exact hfor
  | containing => exact hfor
  | applied =>
    obtain ⟨row, hrow, hfor⟩ := hfor
    exact ⟨row, hgrows.decisions hrow, hfor⟩
  | done => trivial

/-! ## A piece goes on with its observation -/

/-- What `submitObservation` comes to: it throws, or answers from the table, or goes on to its evaluation. -/
inductive Submitted (rt : SentinelRuntime) (s : SentinelStore) (principal : SentinelPrincipal) (sessionId : Text)
    (input : SentinelObservationInput) (a : PieceAnswer) : OpEffect → Prop where
  | threw (e : SentinelThrown) : Submitted rt s principal sessionId input a (throws s e)
  | repeated {existing : SentinelObservation} (h : Resubmits s principal sessionId input)
    (hexisting : s.observations.find? input.names = some existing) :
    Submitted rt s principal sessionId input a (.quiet s (.done (.submitted
      { input with sequence := existing.sequence, receivedAt := existing.receivedAt } none)))
  | saved {s' : SentinelStore} {o : SentinelObservation} (hsaved : Saved rt s input a.now s' o true)
    (hkey : (principal.tenantId, sessionId) = o.sessionKey) (hmem : o ∈ s'.observations) :
    Submitted rt s principal sessionId input a (runEvaluation rt s' principal.tenantId sessionId (.submit o) a)

theorem submitted_submitObservation :
    Submitted rt s principal sessionId input a (submitObservation rt s principal sessionId input a) := by
  simp only [submitObservation]
  split
  · exact .threw _
  next s' o isNew hchecked =>
  obtain ⟨_, hobserve, hchecked⟩ := bind_ok hchecked
  obtain ⟨_, htenant, hchecked⟩ := bind_ok hchecked
  split at hchecked
  · cases hchecked
  next hid =>
  rw [not_not] at hid
  have hkey : (principal.tenantId, sessionId) = input.sessionKey := by
    rw [assertTenant_ok htenant, ← hid]
    rfl
  cases saved_of_ok hchecked with
  | again hrow hopen hexisting hsame =>
    refine .repeated ⟨hobserve, htenant, hid, ⟨_, SentinelStore.status?_of_lookup hrow, hopen⟩, ?_⟩ hexisting
    exact ⟨_, hexisting, hsame⟩
  | new hrow hopen hnew =>
    exact .saved (.new hrow hopen hnew) hkey (List.mem_append_right _ (List.mem_singleton_self _))

/-- A repeated submission is answered from the table. -/
theorem submitObservation_of_resubmits (rt : SentinelRuntime) (a : PieceAnswer) (h : Resubmits s principal sessionId input) :
    ∃ o : SentinelObservation, o.toSentinelObservationInput = input ∧
      submitObservation rt s principal sessionId input a = .quiet s (.done (.submitted o none)) := by
  obtain ⟨hobserve, htenant, hid, ⟨status, hstatus, hopen⟩, existing, hexisting, hsame⟩ := h
  obtain ⟨row, hrow, rfl⟩ := Option.map_eq_some_iff.1 hstatus
  have hsaved : s.saveObservation rt a.saveOk input a.now =
      .ok (s, { input with sequence := existing.sequence, receivedAt := existing.receivedAt }, false) := by
    unfold SentinelStore.saveObservation
    rw [show s.sessions.lookup (input.tenantId, input.sentinelSessionId) = some row from hrow]
    simp only [hopen, Bool.false_eq_true, if_false]
    rw [show (s.observations.find? fun o => o.tenantId = input.tenantId &&
      o.sentinelSessionId = input.sentinelSessionId && o.observationId = input.observationId) = some existing from hexisting]
    simp only [hsame, if_true]
  refine ⟨{ input with sequence := existing.sequence, receivedAt := existing.receivedAt }, rfl, ?_⟩
  unfold submitObservation
  simp only [hobserve, htenant, hid, hsaved, bind, Except.bind, ne_eq, not_true_eq_false, if_false, Bool.false_eq_true]

/-! ## What a piece answers -/

/-! ## Runs -/

theorem grows_of_run (h : origin.run rt s = some e) : s.Grows e.store := by
  obtain ⟨s', hentered, hkept, hrecorded⟩ := recorded_of_run h
  constructor
  · rw [hkept.observations]
    cases hentered with
    | same => exact List.Subset.refl _
    | saved hsaved =>
      cases saved_of_ok hsaved with
      | again => exact List.Subset.refl _
      | new => exact List.subset_append_left _ _
  · rw [← hentered.decisions]
    cases hrecorded with
    | nothing heq _ => rw [heq]; exact List.Subset.refl _
    | row _ heq _ => rw [heq]; exact List.subset_append_left _ _

theorem grows_of_step {x y : System} {l : Act} (h : HistoryStep rt x l y) : x.store.Grows y.store := by
  cases h with
  | piece _ hbefore h =>
    rw [← hbefore]
    exact grows_of_run h
  | sync h =>
    obtain ⟨hobservations, hdecisions, -⟩ := kept_sync h
    exact ⟨hobservations ▸ List.Subset.refl _, hdecisions ▸ List.Subset.refl _⟩
  | stop => exact ⟨List.Subset.refl _, List.Subset.refl _⟩

/-- Every operation that is under way goes on with the observation of its submission. -/
def System.Following (rt : SentinelRuntime) (x : System) : Prop := ∀ i pc, x.ops i = some pc → Follows rt x.store pc

end

/-! ## A retry after an evaluation that failed -/

def sampleObserver : SentinelPrincipal := ⟨"observer", .observer, "t", [.executionBroker]⟩

def sampleInput : SentinelObservationInput := ⟨"o", "t", "s", 0, .executionBroker, .toolCallRequested, none⟩

def submitSample (i : ℕ) : HistoryMove := .begin i (.submitObservation sampleObserver "s" sampleInput) sampleAnswer

/-- A step that answers a submission with nothing, of a session that goes on and has no decision. -/
def Act.answersWithout : Act → Bool
  | .piece p =>
    match p.effect.pc with
    | .done (.submitted o none) =>
      decide (o.sessionKey = sampleKey) && decide (p.effect.store.status? sampleKey = some .monitoring) &&
        p.effect.store.decisions.isEmpty
    | _ => false
  | _ => false

end Tna.Sentinel
