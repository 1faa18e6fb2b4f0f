import Tna.Broker.Interleaving

/-!
# What is written after a completed call

Once the handler has returned or the runner has reported, the rest of `redeem` is
synchronous, and all that can go wrong is a write or the release of a lease. A
pattern says which of these go through; the rest of the call is a function of it.
-/

namespace Tna.Broker

open Tna.Js Tna.Gate Tna.Lib

/-! ## The rest of a call -/

/-- Which writes after the completion go through: that of `finish` in the `try` block,
that of the `catch` block, and the release of the leases. -/
structure WritePattern where
  finish : Bool
  settle : Bool
  release : Bool
deriving DecidableEq

/-- What a pattern answers at the counters that follow the completion. -/
def WritePattern.answer (w : WritePattern) : Pc → Option Answer
  | .finishing .. => some (.go w.finish)
  | .settling .. => some (.go w.settle)
  | .releasing .. => some (.released w.release)
  | _ => none

/-- The call run on to its end under a pattern. -/
def complete (b : ExecutionBroker) (w : WritePattern) : Nat → Store → Pc → Option (Store × Outcome)
  | _, s, .done o => some (s, o)
  | 0, _, _ => none
  | fuel + 1, s, pc =>
    match w.answer pc with
    | none => none
    | some a =>
      match redeemStep b s pc a with
      | none => none
      | some e => complete b w fuel e.store e.pc

/-- The call after an answer. There are three counters at most from there to its end. -/
def completeAfter (b : ExecutionBroker) (w : WritePattern) (s : Store) (pc : Pc) (a : Answer) : Option (Store × Outcome) :=
  match redeemStep b s pc a with
  | none => none
  | some e => complete b w 3 e.store e.pc

section
variable {b : ExecutionBroker} {w : WritePattern} {c : RedeemCall} {leases : List Text}

/-- The outcome after the leases have been released. -/
def WritePattern.released (w : WritePattern) (leases : List Text) (o : Outcome) : Outcome :=
  if leases = [] ∨ w.release = true then o else .threw (.other none)

theorem complete_finally (n : Nat) (s : Store) (o : Outcome) :
    complete b w (n + 1) s (finallyPc leases o) = some (s, w.released leases o) := by
  unfold finallyPc
  split
  next h => simp [complete, WritePattern.released, h]
  next h => cases hr : w.release <;> simp [complete, WritePattern.answer, redeemStep, Effect.quiet,
      WritePattern.released, h, hr]

/-- The `catch` block of a completed handler. -/
theorem complete_indeterminate (n : Nat) (s : Store) :
    complete b w (n + 2) s (.settling c leases .indeterminate) =
      some (if w.settle then
          s.record c.payload .indeterminate "Handler completed; evidence persistence failed" none none
        else s, w.released leases
          (.threw (.broker 503 "Evidence persistence failed after successful handler execution"))) := by
  cases hs : w.settle <;>
    simp [complete, WritePattern.answer, redeemStep, Effect.quiet, Store.finish, hs, complete_finally]

/-- The `catch` block of any other failure. -/
theorem complete_failed (n : Nat) (s : Store) (h : Option Text) :
    complete b w (n + 2) s (.settling c leases (.failed h)) =
      if w.settle then
        some (s.record c.payload .failed "Protected handler failed" h none,
          w.released leases (.threw (.broker 500 "Handler failed")))
      else
        some (s, w.released leases
          (.threw (.broker 503 "Execution outcome is indeterminate; capability remains consumed"))) := by
  cases hs : w.settle <;>
    simp [complete, WritePattern.answer, redeemStep, Effect.quiet, Store.finish, hs, complete_finally]

/-- The write of the `try` block. -/
theorem complete_finishing (n : Nat) (s : Store) (f : Finish) :
    complete b w (n + 1) s (.finishing c leases f) =
      if w.finish then
        complete b w n (s.record c.payload f.state f.reason (some f.resultHash) f.isolation) (afterFinish c leases f)
      else complete b w n s (catchPc c leases f.handlerCompleted (.other none)) := by
  cases hf : w.finish <;>
    simp [complete, WritePattern.answer, redeemStep, Effect.quiet, Store.finish, hf]

end

/-! ## What is recorded before the completion -/

/-- The rest of the system leaves the row of an execution that is under way alone. -/
def KeepsRow (pc : Pc) (s s' : Store) : Prop :=
  ∀ c, pc.held? = some c → s'.executions.lookup c.payload.executionId = s.executions.lookup c.payload.executionId

/-- What the call has written to the evidence along a run. -/
def written (labels : List CallLabel) : List Transition := labels.flatMap CallLabel.written

/-- The call has written that it started, and its row says so. -/
structure Begun (labels : List CallLabel) (s : Store) (c : RedeemCall) : Prop where
  evidence : ∀ t ∈ written labels, t.state = .started
  row : ∃ row, s.executions.lookup c.payload.executionId = some row ∧ row.state = .started

/-- What is recorded at each counter up to the completion, and which kind of tool gets there. -/
def RecordedAt (labels : List CallLabel) (x : Store × Pc) : Prop :=
  match x.2 with
  | .start .. => written labels = []
  | .consuming _ => written labels = []
  | .leasing c => Begun labels x.1 c
  | .preparing c _ => Begun labels x.1 c
  | .makingWorkspace c _ adapter _ => Begun labels x.1 c ∧ c.tool.isolated = some adapter
  | .running c _ adapter _ => Begun labels x.1 c ∧ c.tool.isolated = some adapter
  | .handling c _ => Begun labels x.1 c ∧ c.tool.isolated = none
  | _ => True

section
variable {b : ExecutionBroker} {labels : List CallLabel}

theorem written_snoc (l : CallLabel) : written (labels ++ [l]) = written labels ++ l.written := by
  simp [written]

@[simp] theorem written_quiet (s : Store) (pc : Pc) : (Effect.quiet s pc).written s = [] := by
  simp [Effect.quiet, Effect.written]

variable {c : RedeemCall} {s s' : Store} {pc : Pc} {a : Answer}

theorem Begun.snoc {l : CallLabel} (h : Begun labels s c) (hl : l.written = []) : Begun (labels ++ [l]) s c :=
  ⟨by rw [written_snoc, hl, List.append_nil]; exact h.evidence, h.row⟩

theorem recordedAt_of_ends (h : pc.ends = true) : RecordedAt labels (s, pc) := by
  cases pc <;> trivial

theorem begun_of_consume {ok : Bool} (pc : Pc) (h : s.consume ok c.payload = .ok s') (hw : written labels = []) :
    Begun (labels ++ [.own a ((Effect.quiet s' pc).written s)]) s' c := by
  obtain ⟨record, -, -, rfl⟩ := consume_ok h
  constructor
  · rw [written_snoc, hw, List.nil_append]
    simp [CallLabel.written, Effect.written, Effect.quiet, Store.record, Store.append, transition]
  · exact ⟨_, record_lookup .., rfl⟩

/-- A piece of the call keeps what is known of the records. -/
theorem recordedAt_redeemStep {e : Effect} (h : redeemStep b s pc a = some e) (hs : RecordedAt labels (s, pc)) :
    RecordedAt (labels ++ [.own a (e.written s)]) (e.store, e.pc) := by
  cases piece_of_step h with
  | ends hpc _ _ => exact recordedAt_of_ends hpc
  | @advance c e hadv =>
    cases hadv with
    | checked _ =>
      have hw : written labels = [] := hs
      simp [RecordedAt, Effect.quiet, written_snoc, hw, CallLabel.written, Effect.written]
    | consumed hcons =>
      have hbegun := fun pc => begun_of_consume (a := a) pc hcons hs
      simp only [Effect.quiet] at hbegun ⊢
      split
      · exact hbegun _
      · exact hbegun _
    | leased _ => exact Begun.snoc hs (written_quiet _ _)
    | requested hadapter => exact ⟨Begun.snoc hs (written_quiet _ _), hadapter⟩
    | handled hnone => exact ⟨Begun.snoc hs (by simp [CallLabel.written, Effect.written]), hnone⟩
    | ran => exact ⟨Begun.snoc hs.1 (by simp [CallLabel.written, Effect.written]), hs.2⟩

theorem Begun.keep (h : Begun labels s c)
    (hrow : s'.executions.lookup c.payload.executionId = s.executions.lookup c.payload.executionId) :
    Begun (labels ++ [.env]) s' c := by
  have hsnoc := h.snoc (l := .env) rfl
  exact ⟨hsnoc.evidence, hrow ▸ hsnoc.row⟩

/-- A step of the rest of the process keeps it. -/
theorem recordedAt_env (h : KeepsRow pc s s') (hs : RecordedAt labels (s, pc)) : RecordedAt (labels ++ [.env]) (s', pc) := by
  cases pc with
  | start p i => simpa [RecordedAt, written_snoc, CallLabel.written] using hs
  | consuming c => simpa [RecordedAt, written_snoc, CallLabel.written] using hs
  | leasing c => exact Begun.keep hs (h c rfl)
  | preparing c leases => exact Begun.keep hs (h c rfl)
  | makingWorkspace c leases adapter workspaceId => exact ⟨hs.1.keep (h c rfl), hs.2⟩
  | running c leases adapter workspaceId => exact ⟨hs.1.keep (h c rfl), hs.2⟩
  | handling c leases => exact ⟨hs.1.keep (h c rfl), hs.2⟩
  | _ => trivial

theorem recordedAt_step (labels : List CallLabel) (x : Store × Pc) (l : CallLabel) (y : Store × Pc)
    (h : CallStep b KeepsRow x l y) (hx : RecordedAt labels x) : RecordedAt (labels ++ [l]) y := by
  cases h with
  | own h => exact recordedAt_redeemStep h hx
  | env henv => exact recordedAt_env henv hx

end

/-! ## What a completed call tells -/

/-- The handler returned, or the runner reported success. -/
inductive Completed : Pc → Answer → RedeemCall → List Text → Prop where
  | handler {c : RedeemCall} {leases : List Text} {resultHash : Option Text} :
    Completed (.handling c leases) (.returned resultHash) c leases
  | runner {c : RedeemCall} {leases : List Text} {adapter : IsolatedToolAdapter} {w : Text}
    {r : IsolatedExecutionResult} (h : r.state = .succeeded) :
    Completed (.running c leases adapter w) (.ran r) c leases

/-- Store and caller are told of the completion, or that the outcome is unknown. -/
structure TellsCompletion (w : WritePattern) (executionId : Text) (evidence : List Transition) (s : Store)
    (o : Outcome) : Prop where
  row : ∃ row, s.executions.lookup executionId = some row ∧
    (row.state = .succeeded ∨ row.state = .indeterminate ∨ row.state = .started ∧ w.settle = false)
  evidence : ∀ t ∈ evidence, t.state = .succeeded ∨ t.state = .indeterminate ∨ t.state = .started
  caller : (∃ resultHash, o = .returned executionId resultHash) ∨ ∃ message, o = .threw (.broker 503 message)

/-- The success of an isolated run is not overwritten, and the leases can be released. -/
def WritePattern.tells (w : WritePattern) (c : RedeemCall) (leases : List Text) : Prop :=
  (c.tool.isolated = none ∨ w.finish = true ∨ w.settle = false) ∧ (leases = [] ∨ w.release = true)

section
variable {b : ExecutionBroker} {labels : List CallLabel} {w : WritePattern} {c : RedeemCall} {leases : List Text}

theorem released_of_tells (h : leases = [] ∨ w.release = true) (o : Outcome) : w.released leases o = o := if_pos h

theorem released_of_not (h : ¬(leases = [] ∨ w.release = true)) (o : Outcome) :
    w.released leases o = .threw (.other none) := if_neg h

/-- What is added to the evidence by one record. -/
theorem record_evidence (s : Store) (p : CapabilityPayload) (state : ExecutionState) (reason : Text)
    (resultHash : Option Text) (isolation : Option IsolationEvidence) :
    (s.record p state reason resultHash isolation).evidence =
      s.evidence ++ [transition s.gate.now p state reason isolation] := rfl

/-- The stores a completed call can leave behind, and what its caller is told before the leases are released. -/
inductive Ending (w : WritePattern) (s : Store) (c : RedeemCall) : Store → Outcome → Prop where
  | recorded {reason resultHash : Text} {isolation : Option IsolationEvidence} (h : w.finish = true) :
    Ending w s c (s.record c.payload .succeeded reason (some resultHash) isolation)
      (.returned c.payload.executionId resultHash)
  | indeterminate {reason message : Text} (hnone : c.tool.isolated = none) (h : w.settle = true) :
    Ending w s c (s.record c.payload .indeterminate reason none none) (.threw (.broker 503 message))
  | unwritten {message : Text} (h : w.settle = false) : Ending w s c s (.threw (.broker 503 message))
  | overwritten {reason message : Text} (hsome : c.tool.isolated ≠ none) (hf : w.finish = false) (h : w.settle = true) :
    Ending w s c (s.record c.payload .failed reason none none) (.threw (.broker 500 message))

/-- The `catch` block of a completed handler ends in one of these ways. -/
theorem ending_indeterminate (n : Nat) (s : Store) (hnone : c.tool.isolated = none) :
    ∃ s' o, complete b w (n + 2) s (.settling c leases .indeterminate) = some (s', w.released leases o) ∧
      Ending w s c s' o := by
  rw [complete_indeterminate]
  cases hs : w.settle with
  | true => exact ⟨_, _, rfl, .indeterminate hnone hs⟩
  | false => exact ⟨_, _, rfl, .unwritten hs⟩

variable {resultHash : Option Text} {s : Store} {o : Outcome}

theorem completeAfter_handler (hnone : c.tool.isolated = none) :
    ∃ s' o, completeAfter b w s (.handling c leases) (.returned resultHash) = some (s', w.released leases o) ∧
      Ending w s c s' o := by
  cases resultHash with
  | none => exact ending_indeterminate 1 s hnone
  | some h =>
    have hstep : completeAfter b w s (.handling c leases) (.returned (some h)) =
        complete b w 3 s (.finishing c leases (handlerFinish h)) := rfl
    rw [hstep, complete_finishing]
    cases hf : w.finish with
    | true =>
      refine ⟨_, _, complete_finally 1 _ _, .recorded hf⟩
    | false => exact ending_indeterminate 0 s hnone

theorem completeAfter_runner {adapter : IsolatedToolAdapter} {workspaceId : Text} {r : IsolatedExecutionResult}
    (hsome : c.tool.isolated = some adapter) (hr : r.state = .succeeded) :
    ∃ s' o, completeAfter b w s (.running c leases adapter workspaceId) (.ran r) = some (s', w.released leases o) ∧
      Ending w s c s' o := by
  have hstep : completeAfter b w s (.running c leases adapter workspaceId) (.ran r) =
      complete b w 3 s (.finishing c leases (isolatedFinish b.sha256 c adapter workspaceId r)) := rfl
  have hnext : afterFinish c leases (isolatedFinish b.sha256 c adapter workspaceId r) =
      finallyPc leases (.returned c.payload.executionId (isolatedResultHash b.sha256 r)) := by
    simp [afterFinish, isolatedFinish, hr]
  have hstate : (isolatedFinish b.sha256 c adapter workspaceId r).state = .succeeded := by
    simp [isolatedFinish, hr, IsolationState.execution]
  rw [hstep, complete_finishing, hnext, hstate]
  cases hf : w.finish with
  | true => exact ⟨_, _, complete_finally 1 _ _, .recorded hf⟩
  | false =>
    have hcatch : complete b w 2 s (catchPc c leases (isolatedFinish b.sha256 c adapter workspaceId r).handlerCompleted
        (.other none)) = complete b w 2 s (.settling c leases (.failed none)) := rfl
    simp only [Bool.false_eq_true, if_false, hcatch, complete_failed]
    cases hs : w.settle with
    | true => exact ⟨_, _, rfl, .overwritten (by simp [hsome]) hf hs⟩
    | false => exact ⟨_, _, rfl, .unwritten hs⟩

/-- A record of the completion tells of it. -/
theorem tellsCompletion_record {state : ExecutionState} {reason : Text} {isolation : Option IsolationEvidence}
    (hbegun : Begun labels s c) (hstate : state = .succeeded ∨ state = .indeterminate)
    (hcaller : (∃ h, o = .returned c.payload.executionId h) ∨ ∃ message, o = .threw (.broker 503 message)) :
    TellsCompletion w c.payload.executionId
      (written labels ++ (s.record c.payload state reason resultHash isolation).evidence.drop s.evidence.length)
      (s.record c.payload state reason resultHash isolation) o := by
  refine ⟨⟨_, record_lookup .., ?_⟩, fun t ht => ?_, hcaller⟩
  · exact hstate.imp id .inl
  · simp only [record_evidence, List.drop_left, List.mem_append, List.mem_singleton] at ht
    rcases ht with ht | rfl
    · exact .inr (.inr (hbegun.evidence t ht))
    · exact hstate.imp id .inl

/-- When the leases cannot be released the caller gets neither. -/
theorem not_tellsCompletion_release {x : Text} {evidence : List Transition} :
    ¬ TellsCompletion w x evidence s (.threw (.other none)) := by
  intro h
  rcases h.caller with ⟨_, ho⟩ | ⟨_, ho⟩ <;> cases ho

/-- What an ending tells. -/
theorem Ending.tellsCompletion_iff {s' : Store} (h : Ending w s c s' o) (hbegun : Begun labels s c) :
    TellsCompletion w c.payload.executionId (written labels ++ s'.evidence.drop s.evidence.length) s'
      (w.released leases o) ↔ w.tells c leases := by
  by_cases hrel : leases = [] ∨ w.release = true
  · rw [released_of_tells hrel]
    simp only [WritePattern.tells, hrel, and_true]
    cases h with
    | recorded hf => exact iff_of_true (tellsCompletion_record hbegun (.inl rfl) (.inl ⟨_, rfl⟩)) (.inr (.inl hf))
    | indeterminate hnone _ => exact iff_of_true (tellsCompletion_record hbegun (.inr rfl) (.inr ⟨_, rfl⟩)) (.inl hnone)
    | unwritten hs =>
      refine iff_of_true ⟨?_, fun t ht => ?_, .inr ⟨_, rfl⟩⟩ (.inr (.inr hs))
      · obtain ⟨row, hrow, hstate⟩ := hbegun.row
        exact ⟨row, hrow, .inr (.inr ⟨hstate, hs⟩)⟩
      · rw [List.drop_length, List.append_nil] at ht
        exact .inr (.inr (hbegun.evidence t ht))
    | overwritten hsome hf hs =>
      refine iff_of_false (fun htells => ?_) (by simp [hsome, hf, hs])
      obtain ⟨row, hrow, hstate⟩ := htells.row
      rw [record_lookup] at hrow
      cases hrow
      simp [summary, transition] at hstate
  · rw [released_of_not hrel]
    exact iff_of_false not_tellsCompletion_release fun htells => hrel htells.2

/-- A call among others that leave its row alone. -/
theorem completeAfter_of_callRun {s₀ : Store} {principal : Principal} {input : RedeemInput} {pc : Pc} {a : Answer}
    (hrun : Run (CallStep b KeepsRow) (s₀, .start principal input) labels (s, pc)) (hc : Completed pc a c leases) :
    ∃ s' o, completeAfter b w s pc a = some (s', o) ∧
      (TellsCompletion w c.payload.executionId (written labels ++ s'.evidence.drop s.evidence.length) s' o ↔
        w.tells c leases) := by
  have hs : RecordedAt labels (s, pc) := hrun.trace_invariant recordedAt_step rfl
  cases hc with
  | handler =>
    obtain ⟨s', o, hcomplete, hending⟩ := completeAfter_handler hs.2
    exact ⟨s', _, hcomplete, hending.tellsCompletion_iff hs.1⟩
  | runner hr =>
    obtain ⟨s', o, hcomplete, hending⟩ := completeAfter_runner hs.2 hr
    exact ⟨s', _, hcomplete, hending.tellsCompletion_iff hs.1⟩

end

/-! ## A call in the system -/

section
variable {ι : Type} {brokers : ι → ExecutionBroker} {labels : List SystemLabel} {log : List Invocation} {x : System ι}

/-- Two calls under way run under different execution ids. -/
theorem Once.executionId_ne (h : Once log x) {c c' : RedeemCall} (hc : c.payload ∈ x.signed) (hc' : c'.payload ∈ x.signed)
    (hne : c.payload.capabilityId ≠ c'.payload.capabilityId) : c.payload.executionId ≠ c'.payload.executionId := by
  intro heq
  exact hne (congrArg (·.capabilityId) (h.executionIds _ hc _ hc' heq))

variable {i : ℕ} {l : SystemLabel} {s : Store}

/-- A piece of one call leaves the row of every other call that is under way alone. -/
theorem keepsRow_of_piece {j : ℕ} {k k' : ι} {pc pc' : Pc} {a : Answer} {e : Effect} (h : Once log x) (hij : i ≠ j)
    (hi : x.calls i = some (k, pc)) (hj : x.calls j = some (k', pc')) (hstep : redeemStep (brokers k') x.store pc' a = some e) :
    KeepsRow pc x.store e.store := by
  intro c hc
  have hheld : x.at Pc.held? i = some c := (at_of_calls hi _).trans hc
  have hsigned : c.payload ∈ x.signed := h.carried i c (at_mono carried?_of_held? hheld)
  cases piece_of_step hstep with
  | ends _ _ hs =>
    cases hs with
    | nothing => rfl
    | blocked => rfl
    | @recorded c' hwriter =>
      have hheld' : x.at Pc.held? j = some c' := (at_of_calls hj _).trans (held?_of_writer? hwriter)
      refine AList.lookup_insert_ne (h.executionId_ne hsigned (h.carried j c' (at_mono carried?_of_held? hheld')) ?_)
      exact fun heq => hij (h.apart i j c c' hheld hheld' heq)
  | @advance c' e hadv =>
    cases hadv with
    | consumed hs =>
      obtain ⟨record, hrecord, hunconsumed, rfl⟩ := consume_ok hs
      refine AList.lookup_insert_ne (h.executionId_ne hsigned (h.carried j c' (at_of_calls hj _)) fun heq => ?_)
      obtain ⟨record', hrecord', hconsumed⟩ := h.held i c hheld
      rw [heq] at hrecord'
      cases hrecord.symm.trans hrecord'
      cases hunconsumed.symm.trans hconsumed
    | _ => rfl

/-- What the system did to one call: nothing yet, or a run of it among others that leave its row alone. -/
def ProjectsTo (brokers : ι → ExecutionBroker) (i : ℕ) (labels : List SystemLabel) (s : Store) : Option (ι × Pc) → Prop
  | none => writtenBy i labels = []
  | some (k, pc) => ∃ s₀ principal input ls,
    Run (CallStep (brokers k) KeepsRow) (s₀, .start principal input) ls (s, pc) ∧ written ls = writtenBy i labels

theorem writtenBy_snoc (i : ℕ) (l : SystemLabel) : writtenBy i (labels ++ [l]) = writtenBy i labels ++ writtenBy i [l] := by
  simp [writtenBy]

/-- A step of the rest of the system. -/
theorem ProjectsTo.env {s' : Store} {call : Option (ι × Pc)} (h : ProjectsTo brokers i labels s call)
    (hl : writtenBy i [l] = []) (hkeep : ∀ k pc, call = some (k, pc) → KeepsRow pc s s') :
    ProjectsTo brokers i (labels ++ [l]) s' call := by
  match call, h with
  | none, h => exact (writtenBy_snoc i l).trans (by rw [hl, List.append_nil]; exact h)
  | some (k, pc), ⟨s₀, principal, input, ls, hrun, hwritten⟩ =>
    refine ⟨s₀, principal, input, _, hrun.snoc (.env (hkeep k pc rfl)), ?_⟩
    rw [written_snoc, writtenBy_snoc, hl, hwritten]
    rfl

/-- **Every call of the system is a run of that call.** -/
theorem projectsTo_step {y : System ι} (hstep : SystemStep brokers x l y) (hx : Once log x)
    (h : ∀ i, ProjectsTo brokers i labels x.store (x.calls i)) (i : ℕ) :
    ProjectsTo brokers i (labels ++ [l]) y.store (y.calls i) := by
  cases hstep with
  | issue k r w principal decisionId _ _ =>
    have hexecutions := (issued_of_issue (brokers k) r w x.store principal decisionId).executions
    exact (h i).env rfl fun _ _ _ _ _ => by rw [System.issued, hexecutions]
  | @begin j k principal input hfree =>
    by_cases hij : i = j
    · subst hij
      have hnone := h i
      rw [hfree] at hnone
      rw [setCall_calls_self]
      exact ⟨_, principal, input, [], .nil _, ((writtenBy_snoc i _).trans (by rw [show writtenBy i labels = [] from hnone]; rfl)).symm⟩
    · rw [setCall_calls_of_ne x hij]
      exact (h i).env rfl fun _ _ _ _ _ => rfl
  | @call j k pc a e hj _ hredeem =>
    by_cases hij : i = j
    · subst hij
      have hcall := h i
      rw [hj] at hcall
      obtain ⟨s₀, principal, input, ls, hrun, hwritten⟩ := hcall
      rw [setCall_calls_self]
      refine ⟨s₀, principal, input, _, hrun.snoc (.own hredeem), ?_⟩
      rw [written_snoc, writtenBy_snoc, hwritten]
      simp [writtenBy, CallLabel.written]
    · rw [setCall_calls_of_ne x hij]
      refine (h i).env (by simp [writtenBy, Ne.symm hij]) fun k' pc' hi => ?_
      exact keepsRow_of_piece hx hij hi hj hredeem
  | process s _ hexecutions => exact (h i).env rfl fun _ _ _ _ _ => by rw [hexecutions]

theorem projectsTo_of_run (hrun : Run (SystemStep brokers) (System.init s) labels x) (i : ℕ) :
    ProjectsTo brokers i labels x.store (x.calls i) := by
  have hboth : Once (invocations labels) x ∧ ∀ i, ProjectsTo brokers i labels x.store (x.calls i) :=
    hrun.trace_invariant (I := fun labels x => Once (invocations labels) x ∧
      ∀ i, ProjectsTo brokers i labels x.store (x.calls i))
      (fun labels x l y hstep hx => ⟨once_step labels x l y hstep hx.1, projectsTo_step hstep hx.1 hx.2⟩)
      ⟨once_init s, fun _ => rfl⟩
  exact hboth.2 i

/-- **A completed call tells so.** Whatever other calls ran before and whatever writes
fail after the handler returned or the runner reported success, the call comes to its
end. Its row and what it wrote to the evidence say `SUCCEEDED`, `INDETERMINATE` or
still `STARTED`, and its caller gets a success or a 503, exactly when no `FAILED` is
written over the success of an isolated run and the leases can be released. -/
theorem completeAfter_tells_iff {s : Store} {i : ℕ} {k : ι} {pc : Pc} {a : Answer} {c : RedeemCall} {leases : List Text}
    (w : WritePattern) (hrun : Run (SystemStep brokers) (System.init s) labels x) (hi : x.calls i = some (k, pc))
    (hc : Completed pc a c leases) :
    ∃ s' o, completeAfter (brokers k) w x.store pc a = some (s', o) ∧
      (TellsCompletion w c.payload.executionId (writtenBy i labels ++ s'.evidence.drop x.store.evidence.length) s' o ↔
        w.tells c leases) := by
  have hcall := projectsTo_of_run hrun i
  rw [hi] at hcall
  obtain ⟨s₀, principal, input, ls, hcallRun, hwritten⟩ := hcall
  rw [← hwritten]
  exact completeAfter_of_callRun hcallRun hc

end

/-! ## A success overwritten -/

def isHandling (z : Store × Pc) : Bool :=
  match z.2 with
  | .handling _ [] => true
  | _ => false

theorem completeAfter_tells_iff_handlerTool :
    ∃ labels x c, Run (SystemStep fun _ => sampleBroker handlerTool) (System.init (ι := Unit) sampleStore) labels x ∧
      x.calls 0 = some ((), .handling c []) ∧
      ∃ s' o, completeAfter (sampleBroker handlerTool) ⟨false, true, true⟩ x.store (.handling c [])
          (.returned (some "h")) = some (s', o) ∧
        (TellsCompletion ⟨false, true, true⟩ c.payload.executionId
            (writtenBy 0 labels ++ s'.evidence.drop x.store.evidence.length) s' o ↔
          WritePattern.tells ⟨false, true, true⟩ c []) := by
  obtain ⟨labels, x, pc, hrun, hcall, htest⟩ := sampleSystem_of_test handlerTool [.go true, .go true, .go true]
    isHandling (by decide +kernel) (by decide +kernel)
  simp only [isHandling] at htest
  split at htest
  · next c => exact ⟨labels, x, c, hrun, hcall, completeAfter_tells_iff ⟨false, true, true⟩ hrun hcall .handler⟩
  · cases htest

/-- The report of a child that exited with 0 and printed nothing. -/
def cleanExit : IsolatedExecutionResult := ⟨.succeeded, "exit", some 0, ⟨0, "h"⟩, ⟨0, "h"⟩⟩

/-- A clean exit leaves the execution failed when the workspace is not released. -/
def completesFailed (z : Store × Pc) : Bool :=
  match z.2 with
  | .running c [] _ _ =>
    (completeAfter (sampleBroker isolatedTool) ⟨false, true, true⟩ z.1 z.2 (.ran cleanExit)).any fun y =>
      (y.1.executions.lookup c.payload.executionId).any fun row => row.state = .failed
  | _ => false

/-- An isolated run that succeeded is recorded as failed when the first write fails
and the second does not. -/
theorem completeAfter_isolated_failed :
    ¬ ∀ (brokers : Unit → ExecutionBroker) (s : Store) (labels : List SystemLabel) (x : System Unit) (i : ℕ) (pc : Pc)
      (a : Answer) (c : RedeemCall) (leases : List Text) (w : WritePattern), w.release = true →
      Run (SystemStep brokers) (System.init s) labels x → x.calls i = some ((), pc) → Completed pc a c leases →
      ∃ s' o, completeAfter (brokers ()) w x.store pc a = some (s', o) ∧
        TellsCompletion w c.payload.executionId (writtenBy i labels ++ s'.evidence.drop x.store.evidence.length) s'
          o := by
  intro h
  obtain ⟨labels, x, pc, hrun, hcall, htest⟩ := sampleSystem_of_test isolatedTool
    [.go true, .go true, .request "w", .workspaceMade]
    completesFailed (by decide +kernel) (by decide +kernel)
  simp only [completesFailed] at htest
  split at htest
  · next c adapter workspaceId =>
    obtain ⟨s', o, hcomplete, htells⟩ := h _ _ _ _ _ _ _ _ _ ⟨false, true, true⟩ rfl hrun hcall
      (.runner (r := cleanExit) rfl)
    rw [hcomplete, Option.any_some] at htest
    obtain ⟨row, hrow, hstate⟩ := htells.row
    rw [hrow, Option.any_some, decide_eq_true_eq] at htest
    simp [htest] at hstate
  · cases htest

end Tna.Broker
