import Tna.Ledger.Content
import Tna.Ledger.Pages

/-!
# What a reconstruction describes

`reconstructGateAction` takes the first authorization, the first capability, the first execution
and the last outcome among the events of a correlation. These are of one action where the
correlation is that of one decision with one execution. In any other they are where they agree.
-/

namespace Tna.Ledger

open Tna.Js Tna.Lib Value

/-! ## Decisions and executions -/

/-- The decision that an event names. -/
def decisionOf (e : LedgerEvent) : Value := prop e.authorityContext "decision_id"

def capabilityOf (e : LedgerEvent) : Value := prop e.authorityContext "capability_id"

def executionOf (e : LedgerEvent) : Value := prop e.executionContext "execution_id"

/-- The events that end an execution. -/
def terminalTypes : List EventType := [.executionSucceeded, .executionFailed, .executionTerminated, .executionIndeterminate]

/-- The event belongs to the decision: the one that it names. Where it names none, the one that an event of its execution names,
or the one that its correlation is. -/
inductive BelongsTo (events : List LedgerEvent) (decisionId : Value) (e : LedgerEvent) : Prop where
  | named (h : decisionOf e = decisionId)
  | executed (hnone : (decisionOf e).truthy = false) {other : LedgerEvent} (hother : other ∈ events)
    (hsame : executionOf other = executionOf e) (h : decisionOf other = decisionId)
  | correlated (hnone : (decisionOf e).truthy = false) (h : decisionId = .str e.correlationId)

/-- An event of the type and the decision has the id. -/
def Under (events : List LedgerEvent) (decisionId : Value) (type : EventType) (idOf : LedgerEvent → Value) (id : Value) : Prop :=
  ∃ e ∈ events, e.eventType = type.name ∧ idOf e = id ∧ BelongsTo events decisionId e

/-- The events of an execution. -/
def ofExecution (events : List LedgerEvent) (executionId : Value) : List LedgerEvent :=
  events.filter fun e => (executionOf e).canonical = executionId.canonical

/-- The outcome that a last event stands for. -/
def outcomeName : Option Text → Text
  | some eventType => removeFirst "EXECUTION_" eventType
  | none => "UNKNOWN"

/-- The type of the last event that ends an execution. -/
def lastTerminal (events : List LedgerEvent) : Option Text := (lastOf events terminalTypes).map fun e => e.eventType

/-- What is claimed: the capability and the execution are of the decision, and the outcome is that of the execution. -/
structure DescribesOneAction (events : List LedgerEvent) (r : GateActionReconstruction) : Prop where
  capability : ∀ u id, r.authorizedUnder = some u → r.capability = some id →
    Under events u.decisionId .capabilityIssued capabilityOf id
  execution : ∀ u id, r.authorizedUnder = some u → r.execution = some id →
    Under events u.decisionId .executionStarted executionOf id
  outcome : ∀ id, r.execution = some id → r.outcome = outcomeName (lastTerminal (ofExecution events id))

/-! ## The picks -/

/-- The event is an authorization under which an action is reported. -/
def Authorizes (e : LedgerEvent) : Prop := (decisionOf e).truthy = true ∧ (prop e.authorityContext "policy_hash").truthy = true

/-- **The condition**: what is picked agrees. The first capability and the first execution are found under the decision of the
first authorization, and the last event that ends an execution is as the last one of the first execution. -/
structure PicksAgree (events : List LedgerEvent) : Prop where
  capability : ∀ a c, firstOf events [.authorizationAllowed] = some a → Authorizes a →
    firstOf events [.capabilityIssued] = some c → (capabilityOf c).truthy = true →
    Under events (decisionOf a) .capabilityIssued capabilityOf (capabilityOf c)
  execution : ∀ a x, firstOf events [.authorizationAllowed] = some a → Authorizes a →
    firstOf events [.executionStarted] = some x → (executionOf x).truthy = true →
    Under events (decisionOf a) .executionStarted executionOf (executionOf x)
  outcome : ∀ x, firstOf events [.executionStarted] = some x → (executionOf x).truthy = true →
    lastTerminal events = lastTerminal (ofExecution events (executionOf x))

/-- The answer that is put together from the events. -/
structure PickedFrom (events : List LedgerEvent) (r : GateActionReconstruction) : Prop where
  authorized : ∀ u, r.authorizedUnder = some u ↔ ∃ a, firstOf events [.authorizationAllowed] = some a ∧ Authorizes a ∧
    u = ⟨decisionOf a, prop a.authorityContext "policy_hash"⟩
  capability : ∀ id, r.capability = some id ↔ ∃ c, firstOf events [.capabilityIssued] = some c ∧ (capabilityOf c).truthy = true ∧
    id = capabilityOf c
  execution : ∀ id, r.execution = some id ↔ ∃ x, firstOf events [.executionStarted] = some x ∧ (executionOf x).truthy = true ∧
    id = executionOf x
  outcome : r.outcome = outcomeName (lastTerminal events)

section
variable {events : List LedgerEvent} {r : GateActionReconstruction}

theorem whenTruthy_eq_some {e : Option LedgerEvent} {context : LedgerEvent → Value} {name : String} {id : Value} :
    whenTruthy (prop (contextOf e context) name) = some id ↔
      ∃ x, e = some x ∧ (prop (context x) name).truthy = true ∧ id = prop (context x) name := by
  unfold whenTruthy
  cases e with
  | none => exact iff_of_false nofun nofun
  | some x =>
    rw [contextOf]
    split
    · next htruthy => exact ⟨fun h => ⟨x, rfl, htruthy, (Option.some.inj h).symm⟩, fun ⟨_, hx, _, hid⟩ => by cases hx; rw [hid]⟩
    · next hfalse => exact iff_of_false nofun fun ⟨_, hx, htruthy, _⟩ => by cases hx; exact hfalse htruthy

/-- What is under an authorization, when both its ids are there. -/
theorem authority_eq_some {a : Option LedgerEvent} {u : AuthorizedUnder} :
    (if (prop (contextOf a (·.authorityContext)) "decision_id").truthy && (prop (contextOf a (·.authorityContext)) "policy_hash").truthy then
        some (⟨prop (contextOf a (·.authorityContext)) "decision_id", prop (contextOf a (·.authorityContext)) "policy_hash"⟩ :
          AuthorizedUnder)
      else none) = some u ↔
      ∃ e, a = some e ∧ Authorizes e ∧ u = ⟨decisionOf e, prop e.authorityContext "policy_hash"⟩ := by
  cases a with
  | none => exact iff_of_false nofun nofun
  | some e =>
    rw [contextOf]
    split
    · next h =>
      have hauthorizes : Authorizes e := by rwa [Bool.and_eq_true] at h
      exact ⟨fun hu => ⟨e, rfl, hauthorizes, (Option.some.inj hu).symm⟩, fun ⟨_, he, _, hu⟩ => by cases he; rw [hu]; rfl⟩
    · next h =>
      refine iff_of_false nofun fun ⟨_, he, hauthorizes, _⟩ => h ?_
      cases he
      rw [Bool.and_eq_true]
      exact hauthorizes

theorem terminalTypes_distinct : ((none :: terminalTypes.map fun t => some t.name).map outcomeName).Nodup := by decide +kernel

/-- Outcomes are named apart. -/
theorem outcomeName_lastTerminal {events events' : List LedgerEvent}
    (h : outcomeName (lastTerminal events) = outcomeName (lastTerminal events')) : lastTerminal events = lastTerminal events' := by
  have hmem : ∀ l : List LedgerEvent, lastTerminal l ∈ none :: terminalTypes.map fun t => some t.name := by
    intro l
    unfold lastTerminal
    cases hlast : lastOf l terminalTypes with
    | none => exact List.mem_cons_self ..
    | some e =>
      have htype := List.find?_some hlast
      obtain ⟨t, ht, hname⟩ := List.mem_map.1 (of_decide_eq_true htype)
      exact List.mem_cons_of_mem _ (List.mem_map.2 ⟨t, ht, congrArg some hname⟩)
  exact List.inj_on_of_nodup_map terminalTypes_distinct (hmem events) (hmem events') h

/-- **What is put together is of one action exactly where the picks agree.** -/
theorem PickedFrom.oneAction_iff (h : PickedFrom events r) : DescribesOneAction events r ↔ PicksAgree events := by
  constructor
  · intro hone
    refine ⟨fun a c ha hauthorizes hc htruthy => ?_, fun a x ha hauthorizes hx htruthy => ?_, fun x hx htruthy => ?_⟩
    · exact hone.capability _ _ ((h.authorized _).2 ⟨a, ha, hauthorizes, rfl⟩) ((h.capability _).2 ⟨c, hc, htruthy, rfl⟩)
    · exact hone.execution _ _ ((h.authorized _).2 ⟨a, ha, hauthorizes, rfl⟩) ((h.execution _).2 ⟨x, hx, htruthy, rfl⟩)
    · have houtcome := hone.outcome _ ((h.execution _).2 ⟨x, hx, htruthy, rfl⟩)
      rw [h.outcome] at houtcome
      exact outcomeName_lastTerminal houtcome
  · intro hagree
    refine ⟨fun u id hu hid => ?_, fun u id hu hid => ?_, fun id hid => ?_⟩
    · obtain ⟨a, ha, hauthorizes, rfl⟩ := (h.authorized u).1 hu
      obtain ⟨c, hc, htruthy, rfl⟩ := (h.capability id).1 hid
      exact hagree.capability a c ha hauthorizes hc htruthy
    · obtain ⟨a, ha, hauthorizes, rfl⟩ := (h.authorized u).1 hu
      obtain ⟨x, hx, htruthy, rfl⟩ := (h.execution id).1 hid
      exact hagree.execution a x ha hauthorizes hx htruthy
    · obtain ⟨x, hx, htruthy, rfl⟩ := (h.execution id).1 hid
      rw [h.outcome, hagree.outcome x hx htruthy]

/-! ## One decision with one execution -/

theorem mem_of_firstOf {types : List EventType} {e : LedgerEvent} (h : firstOf events types = some e) :
    e ∈ events ∧ e.eventType ∈ types.map EventType.name := by
  have htype := List.find?_some h
  exact ⟨List.mem_of_find?_eq_some h, of_decide_eq_true htype⟩

/-- An event of the correlation that names no other decision belongs to the one that the correlation is. -/
theorem belongsTo_of_single {correlationId : Text} {e : LedgerEvent} (hcorrelation : e.correlationId = correlationId)
    (hsingle : (decisionOf e).truthy = true → decisionOf e = .str correlationId) : BelongsTo events (.str correlationId) e := by
  cases hnamed : (decisionOf e).truthy with
  | true => exact .named (hsingle hnamed)
  | false => exact .correlated hnamed (by rw [hcorrelation])

/-- The events of a correlation that is a decision: they name no other, and what ends is the execution that started. -/
structure OfOneAction (correlationId : Text) (events : List LedgerEvent) : Prop where
  decision : ∀ e ∈ events, (decisionOf e).truthy = true → decisionOf e = .str correlationId
  execution : ∀ x ∈ events, x.eventType = EventType.executionStarted.name → ∀ e ∈ events,
    e.eventType ∈ terminalTypes.map EventType.name → executionOf e = executionOf x

/-- **The correlation of one decision with one execution**: its picks agree. -/
theorem OfOneAction.picksAgree {correlationId : Text} (h : OfOneAction correlationId events)
    (hcorrelation : ∀ e ∈ events, e.correlationId = correlationId) : PicksAgree events := by
  have hunder : ∀ {a e : LedgerEvent} {type : EventType} (idOf : LedgerEvent → Value),
      firstOf events [.authorizationAllowed] = some a → Authorizes a → firstOf events [type] = some e →
      Under events (decisionOf a) type idOf (idOf e) := by
    intro a e type idOf ha hauthorizes he
    obtain ⟨he, htype⟩ := mem_of_firstOf he
    rw [h.decision a (mem_of_firstOf ha).1 hauthorizes.1]
    exact ⟨e, he, List.mem_singleton.1 htype, rfl, belongsTo_of_single (hcorrelation e he) (h.decision e he)⟩
  refine ⟨fun a c ha hauthorizes hc _ => hunder capabilityOf ha hauthorizes hc,
    fun a x ha hauthorizes hx _ => hunder executionOf ha hauthorizes hx, fun x hx _ => ?_⟩
  obtain ⟨hmem, htype⟩ := mem_of_firstOf hx
  have hsame : ∀ e ∈ events, e.eventType ∈ terminalTypes.map EventType.name →
      (executionOf e).canonical = (executionOf x).canonical :=
    fun e he hterminal => congrArg canonical (h.execution x hmem (List.mem_singleton.1 htype) e he hterminal)
  rw [lastTerminal, lastTerminal, lastOf, lastOf, firstOf, firstOf, ofExecution, ← List.filter_reverse, List.find?_filter]
  rw [← List.head?_filter, ← List.head?_filter]
  refine congrArg (fun l => (List.head? l).map _) (List.filter_congr fun e he => decide_eq_decide.2 ⟨fun hterminal => ?_, fun h => ?_⟩)
  · exact ⟨decide_eq_true (hsame e (List.mem_reverse.1 he) hterminal), decide_eq_true hterminal⟩
  · exact of_decide_eq_true h.2

end

/-! ## A reconstruction -/

section
variable {s : LedgerStore} {tenantId correlationId : Text}

/-- What a correlation is asked for. -/
def ofCorrelation (correlationId : Text) : Filters := { Filters.none with correlationId := some correlationId }

theorem correlationEvents_ok {events : List LedgerEvent} {truncated : Bool}
    (h : correlationEvents s tenantId correlationId = .ok (events, truncated)) :
    truncated = false → List.Forall₂ ReadAs (queried s tenantId (ofCorrelation correlationId)) events := by
  obtain ⟨rows, hrows, h⟩ := bind_ok h
  have hread := query_ok hrows
  rw [List.drop_zero] at hread
  have hlength := hread.length_eq
  rw [List.length_take] at hlength
  split at h
  · rintro rfl
    cases h
  · next hshort =>
    rintro rfl
    cases h
    rwa [List.take_of_length_le (by omega)] at hread

theorem correlationId_of_read {events : List LedgerEvent}
    (h : List.Forall₂ ReadAs (queried s tenantId (ofCorrelation correlationId)) events) : ∀ e ∈ events, e.correlationId = correlationId := by
  intro e he
  obtain ⟨row, hrow, hevent⟩ := exists_of_mem_mapped (mapM_eq_some_iff.2 h) he
  obtain ⟨-, -, hadmits⟩ := mem_queried.1 hrow
  rw [(toLedgerEvent_readsAs hevent).correlationId]
  simpa [ofCorrelation, Filters.admits, Filters.none] using hadmits

theorem reconstruct_of_events {p : List LedgerEvent × Bool} (h : correlationEvents s tenantId correlationId = .ok p) :
    ∃ r, reconstructGateAction s tenantId correlationId = .ok r := by
  unfold reconstructGateAction
  rw [h]
  exact ⟨_, rfl⟩

theorem pickedFrom_of_reconstruct {r : GateActionReconstruction} (h : reconstructGateAction s tenantId correlationId = .ok r) :
    ∃ events, correlationEvents s tenantId correlationId = .ok (events, r.truncated) ∧ PickedFrom events r := by
  obtain ⟨⟨events, truncated⟩, hevents, h⟩ := bind_ok h
  cases h
  refine ⟨events, hevents, fun u => ?_, fun id => whenTruthy_eq_some, fun id => whenTruthy_eq_some, ?_⟩
  · exact authority_eq_some
  · rw [lastTerminal]
    dsimp only
    split
    · next e hlast =>
      rw [show lastOf events terminalTypes = some e from hlast]
      rfl
    · next hnone =>
      rw [show lastOf events terminalTypes = none from hnone]
      rfl

end

/-- **What is reconstructed** from all the events of a correlation is picked from them, and describes one action exactly where the
picks agree. They do in the correlation of one decision with one execution. -/
theorem describesOneAction_iff (sha256 : Text → Text) (calls : List AppendCall) (tenantId correlationId : Text) :
    ∃ r, reconstructGateAction (runAppends sha256 calls) tenantId correlationId = .ok r ∧
      (r.truncated = false → ∃ events,
        List.Forall₂ ReadAs (queried (runAppends sha256 calls) tenantId (ofCorrelation correlationId)) events ∧
        PickedFrom events r ∧ (DescribesOneAction events r ↔ PicksAgree events) ∧
        (OfOneAction correlationId events → DescribesOneAction events r)) := by
  obtain ⟨rows, hrows⟩ : ∃ rows, (runAppends sha256 calls).query tenantId (ofCorrelation correlationId) (maxReconstructionEvents + 1) 0 =
    .ok rows := query_of_readable (readable_run calls) _ _
  obtain ⟨p, hp⟩ : ∃ p, correlationEvents (runAppends sha256 calls) tenantId correlationId = .ok p := by
    unfold correlationEvents
    rw [ofCorrelation] at hrows
    rw [hrows]
    exact ⟨_, rfl⟩
  obtain ⟨r, hr⟩ := reconstruct_of_events hp
  refine ⟨r, hr, fun htruncated => ?_⟩
  obtain ⟨events, hevents, hpicked⟩ := pickedFrom_of_reconstruct hr
  have hread := correlationEvents_ok hevents htruncated
  exact ⟨events, hread, hpicked, hpicked.oneAction_iff, fun hone =>
    hpicked.oneAction_iff.2 (hone.picksAgree (correlationId_of_read hread))⟩

/-! ## Two executions in one correlation -/

/-- An event of an execution. -/
def executionEvent (type : EventType) (executionId : Text) : Value :=
  .obj [("version", .str "1.0"), ("event_id", .str (type.name ++ Text.ofAscii "." ++ executionId)), ("event_type", .str type.name),
    ("tenant_id", .str "t"), ("stream_id", .str executionId), ("actor", .obj [("type", .str "SYSTEM"), ("id", .str "a")]),
    ("correlation_id", .str "c"), ("source_component", .str "ledger"),
    ("execution_context", .obj [("execution_id", .str executionId), ("result_hash", .str "h")])]

def executionCall (type : EventType) (executionId now : Text) : AppendCall :=
  ⟨sampleWriter, ⟨executionEvent type executionId, rfl⟩, now⟩

/-- The one execution fails, the other succeeds after it. -/
def twoExecutions : List AppendCall :=
  [executionCall .executionStarted "x" "2026-01-01T00:00:00.000Z", executionCall .executionStarted "y" "2026-01-01T00:00:01.000Z",
    executionCall .executionFailed "x" "2026-01-01T00:00:02.000Z", executionCall .executionSucceeded "y" "2026-01-01T00:00:03.000Z"]

/-- The execution that failed is reported with the outcome of the other. -/
theorem not_describesOneAction_twoExecutions :
    ∃ r events, reconstructGateAction (runAppends id twoExecutions) "t" "c" = .ok r ∧ r.truncated = false ∧
      List.Forall₂ ReadAs (queried (runAppends id twoExecutions) "t" (ofCorrelation "c")) events ∧ ¬ DescribesOneAction events r := by
  have htest : (correlationEvents (runAppends id twoExecutions) "t" "c").toOption.any (fun p =>
      !p.2 && decide (lastTerminal p.1 = some "EXECUTION_SUCCEEDED") && (firstOf p.1 [.executionStarted]).any fun x =>
        (executionOf x).truthy && decide (lastTerminal (ofExecution p.1 (executionOf x)) = some "EXECUTION_FAILED")) = true := by
    decide +kernel
  obtain ⟨⟨events, truncated⟩, hevents, htest⟩ := (Option.any_eq_true ..).1 htest
  simp only [Bool.and_eq_true, Bool.not_eq_true', decide_eq_true_eq] at htest
  obtain ⟨⟨rfl, hlast⟩, hfirst⟩ := htest
  obtain ⟨x, hx, htest⟩ := (Option.any_eq_true ..).1 hfirst
  rw [Bool.and_eq_true, decide_eq_true_eq] at htest
  obtain ⟨r, hr⟩ := reconstruct_of_events (ok_of_toOption hevents)
  obtain ⟨events', hevents', hpicked⟩ := pickedFrom_of_reconstruct hr
  have hsame := Except.ok.inj (hevents'.symm.trans (ok_of_toOption hevents))
  obtain ⟨rfl, htruncated⟩ := Prod.mk.inj hsame
  refine ⟨r, events', hr, htruncated, correlationEvents_ok hevents' htruncated, fun hone => ?_⟩
  have houtcome := (hpicked.oneAction_iff.1 hone).outcome x hx htest.1
  rw [hlast, htest.2] at houtcome
  exact absurd houtcome (by decide +kernel)

end Tna.Ledger
