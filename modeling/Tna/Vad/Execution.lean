import Tna.Auditor.Schema
import Tna.Lib.Double
import Tna.Lib.Table
import Tna.Vad.Core

/-!
# The execution of an atom

A lifecycle, a budget that the runtime owns, and a decision that is final once its evidence
is persisted. A call that throws leaves what it has written so far. `decide` awaits the
evidence store, so other calls come between its persistence and its transition.
-/

namespace Tna.Vad

open Tna.Js Tna.Ledger Tna.Lib
open Tna.Auditor (toIsoString)

/-! ## The lifecycle -/

inductive LifecycleState where
  | created | ready | producing | validating | retrying | verifying | awaitingHuman | accepted | rejected | escalated
  | failed
deriving DecidableEq

def LifecycleState.name : LifecycleState → Text
  | .created => "CREATED"
  | .ready => "READY"
  | .producing => "PRODUCING"
  | .validating => "VALIDATING"
  | .retrying => "RETRYING"
  | .verifying => "VERIFYING"
  | .awaitingHuman => "AWAITING_HUMAN"
  | .accepted => "ACCEPTED"
  | .rejected => "REJECTED"
  | .escalated => "ESCALATED"
  | .failed => "FAILED"

/-- The states a state may be left for. -/
def transitions : LifecycleState → List LifecycleState
  | .created => [.ready, .failed]
  | .ready => [.producing, .failed]
  | .producing => [.validating, .failed]
  | .validating => [.retrying, .verifying, .awaitingHuman, .escalated, .failed]
  | .retrying => [.producing, .escalated, .failed]
  | .verifying => [.awaitingHuman, .rejected, .failed]
  | .awaitingHuman => [.accepted, .rejected, .escalated]
  | .accepted | .rejected | .escalated | .failed => []

structure TransitionRecord where
  atomId : Text
  fromState : LifecycleState
  toState : LifecycleState
  timestamp : Text
  actor : Text
  reason : Text
  attemptId : Option Text
  specHash : Text

structure Lifecycle where
  atomId : Text
  specHash : Text
  history : List TransitionRecord
  current : LifecycleState

/-- What the runtime is composed of: the digest, `Date.parse` succeeding, and the date of the transition that has so many
before it. -/
structure VadParts where
  sha256 : Text → Text
  isDate : Text → Bool
  dateOf : Nat → Text

/-- What a transition is given besides its state. -/
structure TransitionNote where
  reason : Text
  actor : Text
  attemptId : Option Text

def note (reason : Text) : TransitionNote := ⟨reason, "system", none⟩

/-- `Lifecycle.transition`. -/
def Lifecycle.transition (p : VadParts) (spec : AtomSpec) (l : Lifecycle) (toState : LifecycleState) (n : TransitionNote) :
    Except Text Lifecycle :=
  if toState ∉ transitions l.current then
    .error ("Illegal lifecycle transition " ++ l.current.name ++ " -> " ++ toState.name)
  else if computeSpecHash p.sha256 spec ≠ l.specHash then .error "Spec hash mismatch after execution start"
  else if n.reason.trim = [] then .error "Transition reason is required"
  else
    let record : TransitionRecord :=
      ⟨l.atomId, l.current, toState, p.dateOf l.history.length, n.actor, n.reason, n.attemptId, l.specHash⟩
    .ok { l with
      history := l.history ++ [record]
      current := toState }

/-! ## The budget -/

/-- The double that a number is, when it is finite. -/
def finiteValue : Number → Option ℚ
  | .finite n => toDouble n.value
  | .negZero => some 0
  | _ => none

/-- `a + b`, when it is finite. -/
def plus (a b : ℚ) : Option ℚ := toDouble (a + b)

/-- `value > limit`. -/
def exceeds (value : ℚ) (limit : Number) : Bool :=
  match limit with
  | .finite n => (toDouble n.value).any fun l => decide (l < value)
  | .negZero => decide (0 < value)
  | .infinite negative => negative
  | .nan => false

/-- `value >= limit`. -/
def reaches (value : ℚ) (limit : Number) : Bool :=
  match limit with
  | .finite n => (toDouble n.value).any fun l => decide (l ≤ value)
  | .negZero => decide (0 ≤ value)
  | .infinite negative => negative
  | .nan => false

/-- `assertCanAttempt` of an attempt number, of a cost and of a time, where `none` is no finite number. -/
def RuntimeBudget.assertCanAttempt (spec : AtomSpec) (attemptNumber : Nat) (cumulativeCostUsd elapsedSeconds : Option ℚ) :
    Except Text Unit :=
  if attemptNumber < 1 then .error "Invalid attempt number"
  else
    match cumulativeCostUsd with
    | none => .error "Invalid cost value"
    | some cost =>
      if cost < 0 then .error "Invalid cost value"
      else
        match elapsedSeconds with
        | none => .error "Invalid runtime value"
        | some elapsed =>
          if elapsed < 0 then .error "Invalid runtime value"
          else if exceeds attemptNumber spec.limits.maxAttempts then .error "Attempt limit exhausted"
          else if exceeds cost spec.limits.maxCostUsd then .error "Cost limit exhausted"
          else if exceeds elapsed spec.limits.maxRuntimeSeconds then .error "Runtime limit exhausted"
          else .ok ()

/-! ## Decisions and evidence -/

inductive DecisionKind where
  | merge | reject | overrideAccept | overrideReject
deriving DecidableEq

def DecisionKind.name : DecisionKind → Text
  | .merge => "MERGE"
  | .reject => "REJECT"
  | .overrideAccept => "OVERRIDE_ACCEPT"
  | .overrideReject => "OVERRIDE_REJECT"

def DecisionKind.isOverride : DecisionKind → Bool
  | .overrideAccept | .overrideReject => true
  | _ => false

/-- `decision === 'MERGE' || decision === 'OVERRIDE_ACCEPT'`. -/
def DecisionKind.accepts : DecisionKind → Bool
  | .merge | .overrideAccept => true
  | _ => false

inductive AutomatedOutcome where
  | accept | reject | requestChanges

def AutomatedOutcome.name : AutomatedOutcome → Text
  | .accept => "ACCEPT"
  | .reject => "REJECT"
  | .requestChanges => "REQUEST_CHANGES"

structure HumanDecision where
  decision : DecisionKind
  actor : Text
  timestamp : Text
  rationale : Option Text
  automatedOutcome : AutomatedOutcome
  specHash : Text

def HumanDecision.toValue (d : HumanDecision) : Value :=
  .obj [("decision", .str d.decision.name), ("actor", .str d.actor), ("timestamp", .str d.timestamp),
    ("rationale", textOrUndefined d.rationale), ("automatedOutcome", .str d.automatedOutcome.name),
    ("specHash", .str d.specHash)]

def validateHumanDecision (p : VadParts) (input : HumanDecision) : Except Text HumanDecision :=
  if input.actor.trim = [] then .error "Human decision actor is required"
  else if input.timestamp = [] ∨ p.isDate input.timestamp = false then .error "Human decision timestamp is required"
  else if input.decision.isOverride ∧ (input.rationale.getD []).trim = [] then .error "Override rationale is required"
  else if input.specHash.trim = [] then .error "Human decision spec hash is required"
  else .ok input

inductive ExecutionVerdict where
  | accept | reject
deriving DecidableEq

def ExecutionVerdict.name : ExecutionVerdict → Text
  | .accept => "ACCEPT"
  | .reject => "REJECT"

structure AttemptRecord where
  attemptNumber : Nat
  passed : Bool
  artifactHash : Text
  costUsd : Number
  cost : ℚ
  startedAt : Text
  completedAt : Text

def AttemptRecord.toValue (a : AttemptRecord) : Value :=
  .obj [("attemptNumber", .ofNat a.attemptNumber), ("outcome", .str (if a.passed then "PASS" else "FAIL")),
    ("artifactHash", .str a.artifactHash), ("costUsd", .num a.costUsd), ("startedAt", .str a.startedAt),
    ("completedAt", .str a.completedAt)]

/-- The records of an evidence store, by atom, as they were cloned into it. -/
abbrev EvidenceStore := Table Text Value

/-- `EvidenceStore.persist`. -/
def EvidenceStore.persist (store : EvidenceStore) (atomId : Text) (record : Value) : Except Text EvidenceStore :=
  match store.lookup atomId with
  | some existing =>
    if existing.stringify ≠ record.stringify then .error "Conflicting final evidence" else .ok (store.insert atomId record)
  | none => .ok (store.insert atomId record)

/-! ## The execution -/

/-- The private fields of an execution; its events are only ever written. -/
structure VadExecution where
  lifecycle : Lifecycle
  attemptCount : Nat
  aggregateCostUsd : ℚ
  executionStartedAt : Option Numeric
  attempts : List AttemptRecord
  verifierVerdict : Option ExecutionVerdict
  latestArtifactHash : Option Text

def VadExecution.new (p : VadParts) (spec : AtomSpec) : VadExecution where
  lifecycle := ⟨spec.atomId, computeSpecHash p.sha256 spec, [], .created⟩
  attemptCount := 0
  aggregateCostUsd := 0
  executionStartedAt := none
  attempts := []
  verifierVerdict := none
  latestArtifactHash := none

structure AttemptResult where
  passed : Bool
  artifactHash : Text
  costUsd : Number

/-- `(now - startedAt) / 1000`, when it is finite. -/
def elapsedSeconds (now startedAt : Numeric) : Option ℚ :=
  match now, startedAt with
  | .finite a, .finite b => (toDouble (a - b)).bind fun elapsed => toDouble (elapsed / 1000)
  | _, _ => none

/-- `new Date(reading).toISOString()`, which throws outside the range of time values. -/
def isoDate : Numeric → Except Text Text
  | .finite q =>
    if -8640000000000000 ≤ q ∧ q ≤ 8640000000000000 then .ok (toIsoString (q.num.tdiv q.den)) else .error "Invalid time value"
  | _ => .error "Invalid time value"

namespace VadExecution

variable (p : VadParts) (spec : AtomSpec)

/-- What a call answers and leaves. -/
abbrev Outcome (α : Type) := Except Text α × VadExecution

/-- The rest of a call after something that may throw and then leaves `x`. -/
def andThen {α β : Type} (x : VadExecution) (r : Except Text β) (rest : β → Outcome α) : Outcome α :=
  match r with
  | .ok b => rest b
  | .error e => (.error e, x)

/-- A transition of the lifecycle. -/
def move {α : Type} (x : VadExecution) (toState : LifecycleState) (n : TransitionNote) (rest : VadExecution → Outcome α) :
    Outcome α :=
  x.andThen (x.lifecycle.transition p spec toState n) fun lifecycle => rest { x with lifecycle }

def ready (x : VadExecution) : Outcome Unit := x.move p spec .ready (note "atom spec accepted") fun x => (.ok (), x)

/-- `attempt-${n}`, on a note of the system. -/
def attemptNote (reason : Text) (attemptNumber : Nat) : TransitionNote :=
  ⟨reason, "system", some ("attempt-" ++ decimal attemptNumber)⟩

/-- What follows a recorded attempt. -/
def concludeAttempt (x : VadExecution) (attemptNumber : Nat) (passed : Bool) : Outcome Nat :=
  if passed then
    x.move p spec .verifying (attemptNote "deterministic gate passed" attemptNumber) fun x => (.ok attemptNumber, x)
  else if reaches attemptNumber spec.limits.maxAttempts then
    x.move p spec .escalated (attemptNote "retry limit reached" attemptNumber) fun x => (.ok attemptNumber, x)
  else x.move p spec .retrying (attemptNote "fresh retry required" attemptNumber) fun x => (.ok attemptNumber, x)

/-- `attempt`, with the two readings of the clock. -/
def attempt (now completed : Numeric) (result : AttemptResult) (x : VadExecution) : Outcome Nat :=
  match finiteValue result.costUsd with
  | none => (.error "Invalid cost value", x)
  | some cost =>
    if cost < 0 then (.error "Invalid cost value", x)
    else
      let attemptNumber := x.attemptCount + 1
      let startedAt := x.executionStartedAt.getD now
      let x := { x with executionStartedAt := some startedAt }
      let projectedCost := plus x.aggregateCostUsd cost
      x.andThen (RuntimeBudget.assertCanAttempt spec attemptNumber projectedCost (elapsedSeconds now startedAt)) fun _ =>
        let x := { x with
          attemptCount := attemptNumber
          aggregateCostUsd := projectedCost.getD 0 }
        x.andThen (isoDate now) fun startedAt =>
          x.move p spec .producing (attemptNote ("producer attempt " ++ decimal attemptNumber) attemptNumber) fun x =>
            x.move p spec .validating (attemptNote "producer completed" attemptNumber) fun x =>
              x.andThen (isoDate completed) fun completedAt =>
                concludeAttempt p spec { x with
                  attempts := x.attempts ++
                    [⟨attemptNumber, result.passed, result.artifactHash, result.costUsd, cost, startedAt, completedAt⟩]
                  latestArtifactHash := some result.artifactHash } attemptNumber result.passed

def verify (verdict : ExecutionVerdict) (x : VadExecution) : Outcome Unit :=
  if x.lifecycle.current ≠ .verifying then (.error "Verification requires VALIDATING success", x)
  else
    { x with verifierVerdict := some verdict }.move p spec .awaitingHuman (note "independent verifier completed") fun x =>
      (.ok (), x)

/-- What a decision comes to, up to its persistence: the record of its evidence. -/
structure Decided where
  decision : HumanDecision
  evidence : Value

/-- The state a decision ends in. -/
def Decided.finalState (d : Decided) : LifecycleState := if d.decision.decision.accepts then .accepted else .rejected

/-- The evidence of a decision, in the order its properties are written. -/
def evidenceOf (x : VadExecution) (artifactHash : Text) (verdict : ExecutionVerdict) (d : HumanDecision) (completedAt : Text) :
    Value :=
  .obj [("atomId", .str x.lifecycle.atomId), ("specHash", .str x.lifecycle.specHash), ("artifactHash", .str artifactHash),
    ("finalState", .str (if d.decision.accepts then "ACCEPTED" else "REJECTED")),
    ("attempts", .arr (x.attempts.map AttemptRecord.toValue)), ("humanDecision", d.toValue),
    ("verifierVerdict", .str verdict.name), ("completedAt", .str completedAt)]

/-- `finalizeAcceptance`. -/
def finalizeAcceptance (store : EvidenceStore) (x : VadExecution) (artifactHash : Text) (verdict : ExecutionVerdict)
    (d : HumanDecision) (completedAt : Text) : Except Text (Decided × EvidenceStore) :=
  if d.decision.accepts ∧ (x.lifecycle.specHash = [] ∨ artifactHash = []) then .error "Acceptance evidence is incomplete"
  else
    let evidence := x.evidenceOf artifactHash verdict d completedAt
    (store.persist x.lifecycle.atomId evidence).map fun store => (⟨d, evidence⟩, store)

/-- `decide` up to what it awaits. -/
def decide (store : EvidenceStore) (decision : HumanDecision) (completedAt : Text) (x : VadExecution) :
    Except Text (Decided × EvidenceStore) :=
  if x.lifecycle.current ≠ .awaitingHuman then .error "Human decision requires verifier completion"
  else
    match x.latestArtifactHash, x.verifierVerdict with
    | some artifactHash, some verdict =>
      if artifactHash = [] then .error "Final evidence is incomplete"
      else do
        let validated ← validateHumanDecision p decision
        if validated.specHash ≠ x.lifecycle.specHash then .error "Human decision spec hash mismatch"
        else if validated.decision.accepts ∧ verdict ≠ .accept then
          .error "Human acceptance conflicts with verifier rejection"
        else if ¬ validated.decision.accepts ∧ verdict ≠ .reject then
          .error "Human rejection conflicts with verifier acceptance"
        else finalizeAcceptance store x artifactHash verdict validated completedAt
    | _, _ => .error "Final evidence is incomplete"

/-- What `decide` does once its evidence is persisted. -/
def settle (d : Decided) (x : VadExecution) : Outcome Unit :=
  x.move p spec d.finalState ⟨"final evidence persisted", d.decision.actor, none⟩ fun x => (.ok (), x)

end VadExecution

end Tna.Vad
