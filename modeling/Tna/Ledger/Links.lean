import Tna.Ledger.GateAdapter
import Tna.Ledger.Predecessors

/-!
# The links between the events of an action

Each method of the adapter puts its event id together from the ids it is given, and names
its cause the same way. The cause of a start is named by the execution where the redemption
is named by the capability.
-/

namespace Tna.Ledger

open Tna.Js

/-! ## What an event id is put together from -/

/-- What an event id tells: the decision or the agent, the kind of event, and what of the decision or when. -/
structure Subject where
  left : Text
  kind : EventType
  right : Option Text
deriving DecidableEq

namespace Subject

/-- What follows the kind. -/
def tail (s : Subject) : Text :=
  match s.right with
  | none => []
  | some right => unit '.' :: right

def spelled (s : Subject) : Text := s.left ++ unit '.' :: (s.kind.name ++ s.tail)

/-- The other subject goes on where the kind of the first one stands, and the two spell the same. -/
def Spliced (a b : Subject) : Prop :=
  ∃ w, b.left = a.left ++ unit '.' :: (a.kind.name ++ w) ∧ a.tail = w ++ unit '.' :: (b.kind.name ++ b.tail)

theorem tail_injective {a b : Subject} (h : a.tail = b.tail) : a.right = b.right := by
  unfold tail at h
  cases ha : a.right <;> cases hb : b.right <;> rw [ha, hb] at h <;> simp_all

theorem dot_notMem_name (kind : EventType) : unit '.' ∉ kind.name := by
  cases kind <;> decide

/-- A kind ends where the first stop stands. -/
theorem kind_tail_inj {a b : Subject} (h : a.kind.name ++ a.tail = b.kind.name ++ b.tail) :
    a.kind = b.kind ∧ a.tail = b.tail := by
  have hname : ∀ s : Subject, (s.kind.name ++ s.tail).takeWhile (fun c => c != unit '.') = s.kind.name := by
    intro s
    rw [List.takeWhile_append_of_pos]
    · have htail : s.tail.takeWhile (fun c => c != unit '.') = [] := by
        unfold tail
        cases s.right <;> simp
      rw [htail, List.append_nil]
    · intro c hc
      have hne : c ≠ unit '.' := fun heq => dot_notMem_name s.kind (heq ▸ hc)
      simpa using hne
  have hkind : a.kind.name = b.kind.name := by rw [← hname a, ← hname b, h]
  rw [hkind] at h
  exact ⟨EventType.name_injective hkind, List.append_cancel_left h⟩

theorem Spliced.spelled {a b : Subject} (h : Spliced a b) : a.spelled = b.spelled := by
  obtain ⟨w, hleft, htail⟩ := h
  unfold Subject.spelled
  rw [hleft, htail]
  simp [List.append_assoc]

/-- Subjects that spell the same are the same when neither begins before the other ends. -/
theorem eq_or_spliced {a b : Subject} {u : Text} (hleft : b.left = a.left ++ u)
    (h : unit '.' :: (a.kind.name ++ a.tail) = u ++ unit '.' :: (b.kind.name ++ b.tail)) : a = b ∨ Spliced a b := by
  cases u with
  | nil =>
    obtain ⟨hkind, htail⟩ := kind_tail_inj (List.cons.inj h).2
    rw [List.append_nil] at hleft
    refine .inl ?_
    obtain ⟨left, kind, right⟩ := a
    obtain ⟨left', kind', right'⟩ := b
    cases hleft
    cases hkind
    cases tail_injective htail
    rfl
  | cons c u =>
    rw [List.cons_append] at h
    obtain ⟨rfl, happend⟩ := List.cons.inj h
    refine .inr ?_
    rcases List.append_eq_append_iff.1 happend with ⟨w, rfl, htail⟩ | ⟨w, hname, hrest⟩
    · exact ⟨w, hleft, htail⟩
    · cases w with
      | nil =>
        rw [List.append_nil] at hname
        refine ⟨[], ?_, hrest.symm⟩
        rw [hleft, hname, List.append_nil]
      | cons d w =>
        rw [List.cons_append] at hrest
        obtain ⟨rfl, -⟩ := List.cons.inj hrest
        exact absurd (hname ▸ List.mem_append_right _ (List.mem_cons_self ..)) (dot_notMem_name a.kind)

/-- **When two subjects spell the same.** -/
theorem spelled_eq_iff {a b : Subject} : a.spelled = b.spelled ↔ a = b ∨ Spliced a b ∨ Spliced b a := by
  constructor
  · intro h
    rcases List.append_eq_append_iff.1 h with ⟨u, hleft, hrest⟩ | ⟨u, hleft, hrest⟩
    · exact (eq_or_spliced hleft hrest).imp_right .inl
    · exact (eq_or_spliced hleft hrest).imp Eq.symm .inr
  · rintro (rfl | h | h)
    · rfl
    · exact h.spelled
    · exact h.spelled.symm

end Subject

namespace GateCall

def subject : GateCall → Subject
  | .agentRegistered agentId => ⟨Text.ofAscii "agent." ++ agentId, .agentRegistered, none⟩
  | .authorizationAllowed _ decisionId .. => ⟨decisionId, .authorizationAllowed, none⟩
  | .capabilityIssued _ decisionId capabilityId .. => ⟨decisionId, .capabilityIssued, some capabilityId⟩
  | .capabilityRedeemed _ decisionId capabilityId _ => ⟨decisionId, .capabilityRedeemed, some capabilityId⟩
  | .executionStarted _ decisionId executionId .. => ⟨decisionId, .executionStarted, some executionId⟩
  | .executionSucceeded _ decisionId executionId _ => ⟨decisionId, .executionSucceeded, some executionId⟩
  | .executionFailed _ decisionId executionId _ => ⟨decisionId, .executionFailed, some executionId⟩
  | .agentRevoked agentId _ millis => ⟨Text.ofAscii "agent." ++ agentId, .agentRevoked, some (decimal millis)⟩

/-- The decision whose action a call reports on. -/
def decision? : GateCall → Option Text
  | .agentRegistered _ => none
  | .authorizationAllowed _ decisionId .. => some decisionId
  | .capabilityIssued _ decisionId .. => some decisionId
  | .capabilityRedeemed _ decisionId .. => some decisionId
  | .executionStarted _ decisionId .. => some decisionId
  | .executionSucceeded _ decisionId .. => some decisionId
  | .executionFailed _ decisionId .. => some decisionId
  | .agentRevoked .. => none

variable {tenantId : Text} {a b c : GateCall}

theorem eventId_eq (tenantId : Text) (c : GateCall) : (c.input tenantId).eventId = c.subject.spelled := by
  cases c <;>
    simp only [GateCall.input, gateEvent, subject, Subject.spelled, Subject.tail, List.append_assoc] <;> rfl

theorem left_of_decision {d : Text} (h : c.decision? = some d) : c.subject.left = d := by
  cases c <;> cases h <;> rfl

/-- Calls with one event are about one decision or one agent. -/
theorem left_of_input (h : a.input tenantId = b.input tenantId) : a.subject.left = b.subject.left := by
  have htype : (a.input tenantId).eventType = (b.input tenantId).eventType := congrArg _ h
  have hcorrelation : (a.input tenantId).correlationId = (b.input tenantId).correlationId := congrArg _ h
  cases a <;> cases b <;> first | cases htype | skip
  all_goals simp only [GateCall.input, gateEvent] at hcorrelation
  all_goals first
    | exact hcorrelation
    | exact congrArg (Text.ofAscii "agent." ++ ·) (List.append_cancel_left hcorrelation)

theorem not_spliced_of_input (h : a.input tenantId = b.input tenantId) : ¬ a.subject.Spliced b.subject := by
  rintro ⟨w, hleft, -⟩
  have hlength := congrArg List.length hleft
  rw [left_of_input h, List.length_append, List.length_cons] at hlength
  omega

end GateCall

/-! ## Reports -/

/-- The calls before one, when they are made in order. -/
inductive Follows (before : List GateCall) : GateCall → Prop where
  | registered {agentId : Text} : Follows before (.agentRegistered agentId)
  | allowed {agentId decisionId policyHash action : Text} {tool resource : Option Text}
      (h : .agentRegistered agentId ∈ before) :
      Follows before (.authorizationAllowed agentId decisionId policyHash action tool resource)
  | issued {agentId decisionId capabilityId expiresAt policyHash action : Text} {tool resource tool' resource' : Option Text}
      (h : .authorizationAllowed agentId decisionId policyHash action tool' resource' ∈ before) :
      Follows before (.capabilityIssued agentId decisionId capabilityId expiresAt tool resource)
  | redeemed {agentId decisionId capabilityId executionId expiresAt : Text} {tool resource : Option Text}
      (h : .capabilityIssued agentId decisionId capabilityId expiresAt tool resource ∈ before) :
      Follows before (.capabilityRedeemed agentId decisionId capabilityId executionId)
  | started {agentId decisionId capabilityId executionId tool resource : Text}
      (h : .capabilityRedeemed agentId decisionId capabilityId executionId ∈ before) :
      Follows before (.executionStarted agentId decisionId executionId tool resource)
  | succeeded {agentId decisionId executionId resultHash tool resource : Text}
      (h : .executionStarted agentId decisionId executionId tool resource ∈ before) :
      Follows before (.executionSucceeded agentId decisionId executionId resultHash)
  | failed {agentId decisionId executionId terminationReason tool resource : Text}
      (h : .executionStarted agentId decisionId executionId tool resource ∈ before) :
      Follows before (.executionFailed agentId decisionId executionId terminationReason)
  | revoked {agentId reason : Text} {millis : ℕ} : Follows before (.agentRevoked agentId reason millis)

/-- Every action of the calls is reported in order: registered, allowed, issued, redeemed, started, finished. The
actions may overlap. -/
def InOrder (calls : List GateCall) : Prop :=
  ∀ before c after, calls = before ++ c :: after → Follows before c

theorem InOrder.nil : InOrder [] := by
  rintro before c after h
  simp at h

theorem InOrder.snoc {calls : List GateCall} {c : GateCall} (h : InOrder calls) (hc : Follows calls c) :
    InOrder (calls ++ [c]) := by
  rintro before d after heq
  rcases List.eq_nil_or_concat after with rfl | ⟨after, last, rfl⟩
  · obtain ⟨rfl, hlast⟩ := List.append_inj' heq rfl
    obtain rfl := List.head_eq_of_cons_eq hlast
    exact hc
  · rw [List.concat_eq_append, ← List.cons_append, ← List.append_assoc] at heq
    exact h before d after (List.append_inj' heq rfl).1

section
variable (tenantId : Text) (calls : List GateCall)

/-- The cause an event names is an event reported earlier for the same decision. -/
def CausedBy (b c : GateCall) : Prop :=
  (c.input tenantId).causationId = .id (b.input tenantId).eventId ∧ b.decision? = c.decision?

/-- From an event back to the authorization of its decision, one cause at a time. -/
inductive LeadsBack : GateCall → Prop where
  | allowed {agentId decisionId policyHash action : Text} {tool resource : Option Text} :
      LeadsBack (.authorizationAllowed agentId decisionId policyHash action tool resource)
  | cause {b c : GateCall} (hmem : b ∈ calls) (hcause : CausedBy tenantId b c) (h : LeadsBack b) : LeadsBack c

/-- Every cause that is named was reported, every action leads back to its authorization, and no event id is given to
two events. -/
structure Linked : Prop where
  causes : ∀ before c after t, calls = before ++ c :: after → (c.input tenantId).causationId = .id t →
    ∃ b ∈ before, CausedBy tenantId b c
  leadsBack : ∀ c ∈ calls, c.decision?.isSome = true → LeadsBack tenantId calls c
  unique : ∀ a ∈ calls, ∀ b ∈ calls, (a.input tenantId).eventId = (b.input tenantId).eventId →
    a.input tenantId = b.input tenantId

/-- What the ids have to keep to. -/
structure Consistent : Prop where
  /-- An execution has the id of a capability that its decision redeemed before. -/
  executions : ∀ before after agentId decisionId executionId tool resource,
    calls = before ++ .executionStarted agentId decisionId executionId tool resource :: after →
      ∃ agentId' executionId', .capabilityRedeemed agentId' decisionId executionId executionId' ∈ before
  /-- What is reported twice is reported alike. -/
  alike : ∀ a ∈ calls, ∀ b ∈ calls, a.subject = b.subject → a.input tenantId = b.input tenantId
  /-- No id goes on like an event id of another decision. -/
  apart : ∀ a ∈ calls, ∀ b ∈ calls, ¬ a.subject.Spliced b.subject

end

section
variable {tenantId : Text} {calls : List GateCall}

/-- A cause of a start that is of its decision is a redemption by the id of the execution. -/
theorem redeemed_of_cause {b : GateCall} {agentId decisionId executionId tool resource : Text}
    (h : CausedBy tenantId b (.executionStarted agentId decisionId executionId tool resource)) :
    ∃ agentId' executionId', b = .capabilityRedeemed agentId' decisionId executionId executionId' := by
  obtain ⟨hcause, hdecision⟩ := h
  have hleft := GateCall.left_of_decision hdecision
  have hspelled : (GateCall.capabilityRedeemed agentId decisionId executionId executionId).subject.spelled =
      b.subject.spelled := by
    rw [← GateCall.eventId_eq tenantId, ← GateCall.eventId_eq tenantId]
    exact OptionalId.id.inj hcause
  have hrest := hspelled
  unfold Subject.spelled at hrest
  rw [hleft] at hrest
  obtain ⟨hkind, htail⟩ := Subject.kind_tail_inj (List.cons.inj (List.append_cancel_left hrest)).2
  have hright := Subject.tail_injective htail
  cases b <;> cases hkind
  cases hdecision
  cases hright
  exact ⟨_, _, rfl⟩

/-- In order, every cause but that of a start is there. -/
theorem causes_of_consistent (horder : InOrder calls) (h : Consistent tenantId calls) {before after : List GateCall}
    {c : GateCall} {t : Text} (hcalls : calls = before ++ c :: after) (hcause : (c.input tenantId).causationId = .id t) :
    ∃ b ∈ before, CausedBy tenantId b c := by
  cases horder before c after hcalls with
  | registered => cases hcause
  | allowed _ => cases hcause
  | issued hmem => exact ⟨_, hmem, rfl, rfl⟩
  | redeemed hmem => exact ⟨_, hmem, rfl, rfl⟩
  | started _ =>
    obtain ⟨agentId', executionId', hmem⟩ := h.executions _ _ _ _ _ _ _ hcalls
    exact ⟨_, hmem, rfl, rfl⟩
  | succeeded hmem => exact ⟨_, hmem, rfl, rfl⟩
  | failed hmem => exact ⟨_, hmem, rfl, rfl⟩
  | revoked => cases hcause

/-- When every cause that is named was reported before, every action leads back. -/
theorem leadsBack_of_causes
    (h : ∀ before c after t, calls = before ++ c :: after → (c.input tenantId).causationId = .id t →
      ∃ b ∈ before, CausedBy tenantId b c) (before after : List GateCall) (hcalls : calls = before ++ after) :
    ∀ c ∈ before, c.decision?.isSome = true → LeadsBack tenantId calls c := by
  induction before using List.reverseRecOn generalizing after with
  | nil => exact fun c hc => nomatch hc
  | append_singleton before last ih =>
    rw [List.append_assoc] at hcalls
    intro c hc hdecision
    rcases List.mem_append.1 hc with hc | hc
    · exact ih _ hcalls c hc hdecision
    obtain rfl := List.mem_singleton.1 hc
    have hback : ∀ t, (c.input tenantId).causationId = .id t → LeadsBack tenantId calls c := by
      intro t ht
      obtain ⟨b, hb, hcaused⟩ := h before c after t hcalls ht
      refine .cause ?_ hcaused (ih _ hcalls b hb ?_)
      · rw [hcalls]
        exact List.mem_append_left _ hb
      · rw [hcaused.2]
        exact hdecision
    cases c with
    | agentRegistered _ => cases hdecision
    | agentRevoked _ _ _ => cases hdecision
    | authorizationAllowed _ _ _ _ _ _ => exact .allowed
    | capabilityIssued _ _ _ _ _ _ => exact hback _ rfl
    | capabilityRedeemed _ _ _ _ => exact hback _ rfl
    | executionStarted _ _ _ _ _ => exact hback _ rfl
    | executionSucceeded _ _ _ _ => exact hback _ rfl
    | executionFailed _ _ _ _ => exact hback _ rfl

end

/-- **When the events of actions are linked**: each execution has the id of a redeemed capability of its decision, what is
reported twice is reported alike, and the ids do not run into each other. -/
theorem linked_iff (tenantId : Text) (calls : List GateCall) (horder : InOrder calls) :
    Linked tenantId calls ↔ Consistent tenantId calls := by
  constructor
  · intro h
    refine ⟨fun before after agentId decisionId executionId tool resource hcalls => ?_, fun a ha b hb heq => ?_,
      fun a ha b hb hspliced => ?_⟩
    · obtain ⟨b, hb, hcaused⟩ := h.causes _ _ _ _ hcalls rfl
      obtain ⟨agentId', executionId', rfl⟩ := redeemed_of_cause hcaused
      exact ⟨agentId', executionId', hb⟩
    · refine h.unique a ha b hb ?_
      rw [GateCall.eventId_eq, GateCall.eventId_eq, heq]
    · refine GateCall.not_spliced_of_input (h.unique a ha b hb ?_) hspliced
      rw [GateCall.eventId_eq, GateCall.eventId_eq, hspliced.spelled]
  · intro h
    have hcauses : ∀ before c after t, calls = before ++ c :: after → (c.input tenantId).causationId = .id t →
        ∃ b ∈ before, CausedBy tenantId b c := fun before c after t => causes_of_consistent horder h
    refine ⟨hcauses, leadsBack_of_causes hcauses calls [] (List.append_nil _).symm, fun a ha b hb heq => ?_⟩
    rw [GateCall.eventId_eq, GateCall.eventId_eq] at heq
    rcases Subject.spelled_eq_iff.1 heq with heq | hspliced | hspliced
    · exact h.alike a ha b hb heq
    · exact absurd hspliced (h.apart a ha b hb)
    · exact absurd hspliced (h.apart b hb a ha)

/-! ## An execution with an id of its own -/

/-- One action, whose execution has the given id. -/
def reportedAction (executionId : Text) : List GateCall :=
  [.agentRegistered "a", .authorizationAllowed "a" "d" "p" "read" none none, .capabilityIssued "a" "d" "c" "x" none none,
    .capabilityRedeemed "a" "d" "c" executionId, .executionStarted "a" "d" executionId "t" "r",
    .executionSucceeded "a" "d" executionId "h"]

theorem reportedAction_inOrder (executionId : Text) : InOrder (reportedAction executionId) := by
  have hlast : ∀ (before : List GateCall) (c : GateCall), c ∈ before ++ [c] := fun before c =>
    List.mem_append_right _ (List.mem_singleton_self c)
  have h := InOrder.nil.snoc (c := .agentRegistered "a") .registered
  have h := h.snoc (c := .authorizationAllowed "a" "d" "p" "read" none none) (.allowed (hlast ..))
  have h := h.snoc (c := .capabilityIssued "a" "d" "c" "x" none none) (.issued (hlast ..))
  have h := h.snoc (c := .capabilityRedeemed "a" "d" "c" executionId) (.redeemed (hlast ..))
  have h := h.snoc (c := .executionStarted "a" "d" executionId "t" "r") (.started (hlast ..))
  exact h.snoc (c := .executionSucceeded "a" "d" executionId "h") (.succeeded (hlast ..))

/-- The execution goes by the id of its capability. -/
theorem linked_iff_capability :
    Linked "tenant" (reportedAction "c") ↔ Consistent "tenant" (reportedAction "c") :=
  linked_iff "tenant" (reportedAction "c") (reportedAction_inOrder "c")

/-- The execution has an id of its own. Its start names a redemption that was never reported. -/
theorem not_linked : ¬ ∀ (tenantId : Text) (calls : List GateCall), InOrder calls → Linked tenantId calls := by
  intro h
  have hcauses := (h "tenant" _ (reportedAction_inOrder "e")).causes
  obtain ⟨b, hb, hcaused⟩ := hcauses
    [.agentRegistered "a", .authorizationAllowed "a" "d" "p" "read" none none, .capabilityIssued "a" "d" "c" "x" none none,
      .capabilityRedeemed "a" "d" "c" "e"] (.executionStarted "a" "d" "e" "t" "r")
    [.executionSucceeded "a" "d" "e" "h"] _ rfl rfl
  obtain ⟨agentId', executionId', rfl⟩ := redeemed_of_cause hcaused
  simp at hb

end Tna.Ledger
