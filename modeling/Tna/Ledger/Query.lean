import Tna.Js.Buffer
import Tna.Js.Number
import Tna.Ledger.Core
import Tna.Ledger.Integrity

/-!
# Queries, reconstructions and exports

The read side of the Ledger. Every function takes the tenant and hands it to the store with each
lookup. A page is asked for with one row more than it holds, to see whether there is another.
The texts of cursors are parameters there. A cursor is the base64url form of the number of rows that
come before a page: whatever text is given as one is read as a number, and refused unless that is a
whole one.
-/

namespace Tna.Ledger

open Tna.Js Value

def maxQueryPageSize : Nat := 200

def defaultQueryPageSize : Nat := 50

def maxReconstructionEvents : Nat := 500

def maxExportEvents : Nat := 5000

/-! ## The query of the store -/

/-- What a query filters by; a filter that is left out lets everything through. -/
structure Filters where
  actorId : Option Text
  correlationId : Option Text
  eventType : Option Text
  streamId : Option Text
  fromTime : Option Text
  toTime : Option Text

def Filters.none : Filters := ⟨.none, .none, .none, .none, .none, .none⟩

def Filters.admits (f : Filters) (r : RawEventRow) : Bool :=
  f.actorId.all (r.actorId = ·) && f.correlationId.all (r.correlationId = ·) && f.eventType.all (r.eventType = ·) &&
    f.streamId.all (r.streamId = ·) && f.fromTime.all (· ≤ r.receivedAt) && f.toTime.all (r.receivedAt ≤ ·)

/-- `ORDER BY received_at, stream_id, sequence, event_id`. -/
def rowLe (a b : RawEventRow) : Prop :=
  a.receivedAt < b.receivedAt ∨ a.receivedAt = b.receivedAt ∧
    (a.streamId < b.streamId ∨ a.streamId = b.streamId ∧
      (a.sequence < b.sequence ∨ a.sequence = b.sequence ∧ a.eventId ≤ b.eventId))

instance : DecidableRel rowLe := fun a b => by unfold rowLe; infer_instance

namespace LedgerStore

def getByEventId (s : LedgerStore) (tenantId eventId : Text) : Except StoreError (Option LedgerEvent) :=
  match s.rowByEventId tenantId eventId with
  | none => .ok none
  | some row =>
    match toLedgerEvent row with
    | none => .error .syntaxError
    | some e => .ok (some e)

def query (s : LedgerStore) (tenantId : Text) (filters : Filters) (limit offset : Nat) :
    Except StoreError (List LedgerEvent) :=
  let rows := (s.events.filter fun r => r.tenantId = tenantId ∧ filters.admits r).insertionSort rowLe
  match ((rows.drop offset).take limit).mapM toLedgerEvent with
  | none => .error .syntaxError
  | some events => .ok events

end LedgerStore

/-! ## Pages -/

structure Page where
  items : List LedgerEvent
  nextCursor : Option Text

/-- How cursors are written. -/
structure Cursors where
  encode : Nat → Text
  decode : Text → Option Nat

/-- The number given as a limit. -/
inductive Limit where
  | absent
  | integer (n : Int)
  /-- A number that is no integer. -/
  | other

def Cursors.decodeCursor (cursors : Cursors) : Option Text → Except StoreError Nat
  | none => .ok 0
  | some cursor =>
    match cursors.decode cursor with
    | some n => .ok n
    | none => .error (.ledger (invalid "Invalid pagination cursor"))

def boundedLimit : Limit → Except StoreError Nat
  | .absent => .ok (min defaultQueryPageSize maxQueryPageSize)
  | .integer n =>
    if n ≤ 0 then .error (.ledger (invalid "limit must be a positive integer")) else .ok (min n.toNat maxQueryPageSize)
  | .other => .error (.ledger (invalid "limit must be a positive integer"))

section
variable (cursors : Cursors) (s : LedgerStore) (tenantId : Text)

/-- One page of a query, in a deterministic order. -/
def page (filters : Filters) (limit : Limit) (cursor : Option Text) : Except StoreError Page := do
  let bounded ← boundedLimit limit
  let offset ← cursors.decodeCursor cursor
  let rows ← s.query tenantId filters (bounded + 1) offset
  if rows.length > bounded then .ok ⟨rows.take bounded, some (cursors.encode (offset + bounded))⟩
  else .ok ⟨rows, none⟩

def getEvent (eventId : Text) : Except StoreError LedgerEvent :=
  match s.getByEventId tenantId eventId with
  | .error e => .error e
  | .ok (some e) => .ok e
  | .ok none => .error (.ledger ⟨.notFound, Text.ofAscii "No event " ++ eventId⟩)

def getStream (streamId : Text) (limit : Limit) (cursor : Option Text) : Except StoreError Page :=
  page cursors s tenantId { Filters.none with streamId := some streamId } limit cursor

def getEventsByActor (actorId : Text) (limit : Limit) (cursor : Option Text) : Except StoreError Page :=
  page cursors s tenantId { Filters.none with actorId := some actorId } limit cursor

def getEventsByCorrelation (correlationId : Text) (limit : Limit) (cursor : Option Text) : Except StoreError Page :=
  page cursors s tenantId { Filters.none with correlationId := some correlationId } limit cursor

def getEventsByType (eventType : Text) (limit : Limit) (cursor : Option Text) : Except StoreError Page :=
  page cursors s tenantId { Filters.none with eventType := some eventType } limit cursor

def getEventsByTimeRange (fromTime toTime : Text) (limit : Limit) (cursor : Option Text) : Except StoreError Page :=
  page cursors s tenantId { Filters.none with fromTime := some fromTime, toTime := some toTime } limit cursor

def search (filters : Filters) (limit : Limit) (cursor : Option Text) : Except StoreError Page :=
  page cursors s tenantId filters limit cursor

/-- The events of a tenant that have the text in a field of a context. -/
def eventsByContext (column : ContextColumn) (name : String) (value : Text) : Except StoreError (List LedgerEvent) :=
  match s.findByContextField tenantId column name (.str value) [] with
  | none => .error .syntaxError
  | some events => .ok events

def getEventsByDecision (decisionId : Text) : Except StoreError (List LedgerEvent) :=
  eventsByContext s tenantId .authority "decision_id" decisionId

def getEventsByExecution (executionId : Text) : Except StoreError (List LedgerEvent) :=
  eventsByContext s tenantId .execution "execution_id" executionId

def getEventsByAtom (atomId : Text) : Except StoreError (List LedgerEvent) :=
  eventsByContext s tenantId .spec "atom_id" atomId

end

/-! ## Reconstructions -/

/-- `value?.name`. -/
def prop (v : Value) (name : String) : Value :=
  match v with
  | .obj fields => Value.get fields name
  | _ => .undefined

/-- The first event of one of the types. -/
def firstOf (events : List LedgerEvent) (types : List EventType) : Option LedgerEvent :=
  events.find? fun e => e.eventType ∈ types.map EventType.name

/-- The last event of one of the types. -/
def lastOf (events : List LedgerEvent) (types : List EventType) : Option LedgerEvent := firstOf events.reverse types

/-- A context of an event that may not be there. -/
def contextOf (e : Option LedgerEvent) (context : LedgerEvent → Value) : Value :=
  match e with
  | some e => context e
  | none => .undefined

/-- `text.replace(needle, '')`. -/
def removeFirst (needle : Text) : Text → Text
  | [] => []
  | c :: rest => if needle.isPrefixOf (c :: rest) then (c :: rest).drop needle.length else c :: removeFirst needle rest

structure EvidenceRef where
  eventId : Text
  eventType : Text
  streamId : Text
  sequence : Nat

def evidenceRef (e : LedgerEvent) : EvidenceRef := ⟨e.eventId, e.eventType, e.streamId, e.sequence⟩

structure ActorName where
  actorType : Value
  actorId : Value

def actorName (e : LedgerEvent) : ActorName := ⟨prop e.actor "type", prop e.actor "id"⟩

/-- The events of a correlation, and whether there are more than are reconstructed from. -/
def correlationEvents (s : LedgerStore) (tenantId correlationId : Text) :
    Except StoreError (List LedgerEvent × Bool) := do
  let rows ← s.query tenantId { Filters.none with correlationId := some correlationId } (maxReconstructionEvents + 1) 0
  .ok (if rows.length > maxReconstructionEvents then (rows.take maxReconstructionEvents, true) else (rows, false))

structure AuthorizedUnder where
  decisionId : Value
  policyHash : Value

structure GateActionReconstruction where
  correlationId : Text
  truncated : Bool
  who : Option ActorName
  authorizedUnder : Option AuthorizedUnder
  what : Value
  tool : Value
  resource : Value
  approval : Option ActorName
  capability : Option Value
  execution : Option Value
  outcome : Text
  evidence : List EvidenceRef

/-- The value when it is truthy. -/
def whenTruthy (v : Value) : Option Value := if v.truthy then some v else none

/-- Reconstructs an authorized Gate action from Ledger evidence alone. -/
def reconstructGateAction (s : LedgerStore) (tenantId correlationId : Text) :
    Except StoreError GateActionReconstruction := do
  let (events, truncated) ← correlationEvents s tenantId correlationId
  let allowed := firstOf events [.authorizationAllowed]
  let capability := firstOf events [.capabilityIssued]
  let execution := firstOf events [.executionStarted]
  let outcomeEvent :=
    lastOf events [.executionSucceeded, .executionFailed, .executionTerminated, .executionIndeterminate]
  let authority := contextOf allowed (·.authorityContext)
  let issued := contextOf capability (·.authorityContext)
  .ok
    { correlationId
      truncated
      who := allowed.map actorName
      authorizedUnder :=
        if (prop authority "decision_id").truthy && (prop authority "policy_hash").truthy then
          some ⟨prop authority "decision_id", prop authority "policy_hash"⟩
        else none
      what := (prop authority "action").orElse .null
      tool := (prop authority "tool").orElse ((prop issued "tool").orElse .null)
      resource := (prop authority "resource").orElse ((prop issued "resource").orElse .null)
      approval := (firstOf events [.approvalGranted]).map actorName
      capability := whenTruthy (prop issued "capability_id")
      execution := whenTruthy (prop (contextOf execution (·.executionContext)) "execution_id")
      outcome :=
        match outcomeEvent with
        | some e => removeFirst "EXECUTION_" e.eventType
        | none => "UNKNOWN"
      evidence := events.map evidenceRef }

structure Attempt where
  eventType : Text
  attemptNumber : Value
  sequence : Nat

structure AtomName where
  atomId : Value
  specHash : Value

structure HumanDecision where
  decision : Value
  actorId : Value

structure VadAtomReconstruction where
  correlationId : Text
  truncated : Bool
  atom : Option AtomName
  attempts : List Attempt
  /-- Whether the validation passed, when there was one. -/
  validation : Option Bool
  verification : Option Value
  humanDecision : Option HumanDecision
  finalState : Text
  evidence : List EvidenceRef

/-- Reconstructs a VAD atom's lifecycle from Ledger evidence alone. -/
def reconstructVadAtom (s : LedgerStore) (tenantId correlationId : Text) : Except StoreError VadAtomReconstruction := do
  let (events, truncated) ← correlationEvents s tenantId correlationId
  let created := contextOf (firstOf events [.atomCreated]) (·.specContext)
  let attempts := events.filter fun e =>
    e.eventType ∈ [EventType.atomAttemptStarted, EventType.atomAttemptFailed].map EventType.name
  let verification :=
    contextOf (lastOf events [.atomVerificationAccepted, .atomVerificationRejected]) (·.specContext)
  let decision := lastOf events [.atomHumanDecision]
  .ok
    { correlationId
      truncated
      atom :=
        if (prop created "atom_id").truthy && (prop created "spec_hash").truthy then
          some ⟨prop created "atom_id", prop created "spec_hash"⟩
        else none
      attempts := attempts.map fun e => ⟨e.eventType, (prop e.specContext "attempt_number").orElse .null, e.sequence⟩
      validation :=
        if (firstOf events [.atomValidationPassed]).isSome then some true
        else if (lastOf events [.atomValidationFailed]).isSome then some false
        else none
      verification := whenTruthy (prop verification "verifier_verdict")
      humanDecision := decision.bind fun e =>
        (whenTruthy (prop e.specContext "human_decision")).map fun d => ⟨d, prop e.actor "id"⟩
      finalState :=
        match lastOf events [.atomAccepted, .atomRejected, .atomEscalated] with
        | some e => removeFirst "ATOM_" e.eventType
        | none => "UNKNOWN"
      evidence := events.map evidenceRef }

/-! ## Cursors -/

def encodeCursor (offset : Nat) : Text := toBase64url (decimal offset).utf8

/-- `decodeCursor` of a text; `none` where it throws. -/
def decodeCursor (cursor : Text) : Option Nat :=
  match numberOf (fromUtf8 (fromBase64url cursor)) with
  | .finite v => if v.isInt && decide (0 ≤ v) then some v.num.toNat else none
  | _ => none

def offsetCursors : Cursors := ⟨encodeCursor, decodeCursor⟩

theorem decodeCursor_encodeCursor (offset : Nat) : decodeCursor (encodeCursor offset) = some offset := by
  have hwellFormed : (decimal offset).isWellFormed = true := isWellFormed_of_units fun c hc => by
    have h := forall_digit (p := fun c => !isSurrogate c) (by decide) ((decimal_digits offset).2 c hc)
    simpa using h
  rw [decodeCursor, encodeCursor, fromBase64url_toBase64url, fromUtf8_utf8 hwellFormed, numberOf_decimal]
  simp [Rat.isInt]

/-- **A cursor is read back.** -/
theorem decode_encode (offset : Nat) : offsetCursors.decode (offsetCursors.encode offset) = some offset := by
  simp only [offsetCursors, decodeCursor_encodeCursor]

end Tna.Ledger
