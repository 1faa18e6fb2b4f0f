import Tna.Js.Decimal
import Tna.Ledger.Validate

/-!
# The Ledger store

Tables are lists of rows in insertion order; a JSON column holds text. `append`
hashes the caller's objects and stores columns, everything that reads an event
later parses the columns. A statement that fails rolls the transaction back, so
`append` returns a new store only when it commits.
-/

namespace Tna.Ledger

open Tna.Js

def genesisHash : Text := "GENESIS"

inductive IntegrityStatus where
  | valid | invalid
deriving DecidableEq

/-- A row of `ledger_streams`. -/
structure StreamHead where
  tenantId : Text
  streamId : Text
  latestSequence : Nat
  latestEventHash : Text
  updatedAt : Text
  integrityStatus : IntegrityStatus

/-- A row of `ledger_events`. -/
structure RawEventRow where
  tenantId : Text
  streamId : Text
  sequence : Nat
  eventId : Text
  eventType : Text
  version : Text
  actorType : Text
  actorId : Text
  correlationId : Text
  causationId : Option Text
  parentEventId : Option Text
  sourceComponent : Text
  occurredAt : Option Text
  receivedAt : Text
  persistedAt : Text
  authorityContext : Option Text
  specContext : Option Text
  executionContext : Option Text
  artifactContext : Option Text
  classification : Option Text
  retention : Option Text
  payload : Option Text
  payloadHash : Text
  previousEventHash : Text
  eventHash : Text

/-- A row of `ledger_integrity_checks`. -/
structure IntegrityCheck where
  tenantId : Text
  streamId : Option Text
  status : IntegrityStatus
  detail : Text
  checkedAt : Text

structure LedgerStore where
  events : List RawEventRow
  streams : List StreamHead
  integrityChecks : List IntegrityCheck

def LedgerStore.empty : LedgerStore := ⟨[], [], []⟩

/-! ## Events -/

/-- The caller's part of an event. A field that is not there is `undefined`. -/
structure EventContent where
  version : Text
  eventId : Text
  eventType : Text
  tenantId : Text
  streamId : Text
  actor : Value
  correlationId : Text
  sourceComponent : Text
  causationId : OptionalId
  parentEventId : OptionalId
  occurredAt : Option Text
  authorityContext : Value
  specContext : Value
  executionContext : Value
  artifactContext : Value
  payload : Value
  classification : Option Text
  retention : Value

/-- An event as the store and the queries return it. -/
structure LedgerEvent extends EventContent where
  sequence : Nat
  receivedAt : Text
  persistedAt : Text
  payloadHash : Text
  previousEventHash : Text
  eventHash : Text

def optObject : Option JsObject → Value
  | some o => o.toValue
  | none => .undefined

def LedgerEventInput.content (i : LedgerEventInput) : EventContent where
  version := ledgerEventVersion
  eventId := i.eventId
  eventType := i.eventType.name
  tenantId := i.tenantId
  streamId := i.streamId
  actor := i.actor.object.toValue
  correlationId := i.correlationId
  sourceComponent := i.sourceComponent.name
  causationId := i.causationId
  parentEventId := i.parentEventId
  occurredAt := i.occurredAt
  authorityContext := optObject i.authorityContext
  specContext := optObject i.specContext
  executionContext := optObject i.executionContext
  artifactContext := optObject i.artifactContext
  payload := optObject i.payload
  classification := i.classification.map Classification.name
  retention := optObject i.retention

def textOrNull : Option Text → Value
  | some t => .str t
  | none => .null

def textOrUndefined : Option Text → Value
  | some t => .str t
  | none => .undefined

def OptionalId.toValue : OptionalId → Value
  | .absent => .undefined
  | .null => .null
  | .id t => .str t

/-! ## Hashes -/

/-- What the event hash binds. `occurred_at` and the two causal ids are always
there, as `null` when absent; a context is there only when the event has one. -/
structure EventHashCore where
  version : Text
  tenantId : Text
  streamId : Text
  sequence : Nat
  eventId : Text
  eventType : Text
  occurredAt : Option Text
  actor : Value
  correlationId : Text
  causationId : Option Text
  parentEventId : Option Text
  sourceComponent : Text
  authorityContext : Value
  specContext : Value
  executionContext : Value
  artifactContext : Value
  payloadHash : Text
  previousEventHash : Text

def EventHashCore.toValue (c : EventHashCore) : Value :=
  .obj [("version", .str c.version), ("tenant_id", .str c.tenantId), ("stream_id", .str c.streamId),
    ("sequence", .ofNat c.sequence), ("event_id", .str c.eventId), ("event_type", .str c.eventType),
    ("occurred_at", textOrNull c.occurredAt), ("actor", c.actor), ("correlation_id", .str c.correlationId),
    ("causation_id", textOrNull c.causationId), ("parent_event_id", textOrNull c.parentEventId),
    ("source_component", .str c.sourceComponent), ("authority_context", c.authorityContext),
    ("spec_context", c.specContext), ("execution_context", c.executionContext),
    ("artifact_context", c.artifactContext), ("payload_hash", .str c.payloadHash),
    ("previous_event_hash", .str c.previousEventHash)]

/-- The core of an event at a place in a stream. -/
def EventContent.hashCore (c : EventContent) (sequence : Nat) (payloadHash previousEventHash : Text) :
    EventHashCore where
  version := c.version
  tenantId := c.tenantId
  streamId := c.streamId
  sequence := sequence
  eventId := c.eventId
  eventType := c.eventType
  occurredAt := c.occurredAt
  actor := c.actor
  correlationId := c.correlationId
  causationId := c.causationId.orNull
  parentEventId := c.parentEventId.orNull
  sourceComponent := c.sourceComponent
  authorityContext := c.authorityContext
  specContext := c.specContext
  executionContext := c.executionContext
  artifactContext := c.artifactContext
  payloadHash := payloadHash
  previousEventHash := previousEventHash

def computeEventHash (sha256 : Text → Text) (core : EventHashCore) : Text := hash sha256 core.toValue

def computePayloadHash (sha256 : Text → Text) (payload : Value) : Text :=
  hash sha256 (match payload with
    | .undefined => .null
    | p => p)

/-! ## Columns -/

/-- `ctx !== undefined ? JSON.stringify(ctx) : null`. -/
def stringifyColumn (o : Option JsObject) : Option Text := o.map fun o => o.toValue.stringify

/-- A column parsed back; `none` is a `SyntaxError`. -/
def parseColumn : Option Text → Option Value
  | none => some .undefined
  | some t => parse t

def optionalId : Option Text → OptionalId
  | some t => .id t
  | none => .absent

def toLedgerEvent (row : RawEventRow) : Option LedgerEvent := do
  let authorityContext ← parseColumn row.authorityContext
  let specContext ← parseColumn row.specContext
  let executionContext ← parseColumn row.executionContext
  let artifactContext ← parseColumn row.artifactContext
  let retention ← parseColumn row.retention
  let payload ← parseColumn row.payload
  some
    { version := row.version
      eventId := row.eventId
      eventType := row.eventType
      tenantId := row.tenantId
      streamId := row.streamId
      actor := .obj [("type", .str row.actorType), ("id", .str row.actorId)]
      correlationId := row.correlationId
      sourceComponent := row.sourceComponent
      causationId := optionalId row.causationId
      parentEventId := optionalId row.parentEventId
      occurredAt := row.occurredAt
      authorityContext, specContext, executionContext, artifactContext, payload
      classification := row.classification
      retention
      sequence := row.sequence
      receivedAt := row.receivedAt
      persistedAt := row.persistedAt
      payloadHash := row.payloadHash
      previousEventHash := row.previousEventHash
      eventHash := row.eventHash }

/-- The row `append` inserts. -/
def LedgerEventInput.toRow (i : LedgerEventInput) (sequence : Nat) (now payloadHash previousEventHash eventHash : Text) :
    RawEventRow where
  tenantId := i.tenantId
  streamId := i.streamId
  sequence := sequence
  eventId := i.eventId
  eventType := i.eventType.name
  version := ledgerEventVersion
  actorType := i.actor.type.name
  actorId := i.actor.id
  correlationId := i.correlationId
  causationId := i.causationId.orNull
  parentEventId := i.parentEventId.orNull
  sourceComponent := i.sourceComponent.name
  occurredAt := i.occurredAt
  receivedAt := now
  persistedAt := now
  authorityContext := stringifyColumn i.authorityContext
  specContext := stringifyColumn i.specContext
  executionContext := stringifyColumn i.executionContext
  artifactContext := stringifyColumn i.artifactContext
  classification := i.classification.map Classification.name
  retention := stringifyColumn i.retention
  payload := stringifyColumn i.payload
  payloadHash := payloadHash
  previousEventHash := previousEventHash
  eventHash := eventHash

/-- An event without the fields the store assigns. -/
def EventContent.toValue (c : EventContent) : Value :=
  .obj [("version", .str c.version), ("event_id", .str c.eventId), ("event_type", .str c.eventType),
    ("tenant_id", .str c.tenantId), ("stream_id", .str c.streamId), ("actor", c.actor),
    ("correlation_id", .str c.correlationId), ("source_component", .str c.sourceComponent),
    ("causation_id", c.causationId.toValue), ("parent_event_id", c.parentEventId.toValue),
    ("occurred_at", textOrUndefined c.occurredAt), ("authority_context", c.authorityContext),
    ("spec_context", c.specContext), ("execution_context", c.executionContext),
    ("artifact_context", c.artifactContext), ("payload", c.payload),
    ("classification", textOrUndefined c.classification), ("retention", c.retention)]

def sameCanonicalContent (existing input : EventContent) : Bool :=
  existing.toValue.canonical = input.toValue.canonical

/-! ## Reading -/

/-- The head is that of the stream. -/
def StreamHead.isOf (tenantId streamId : Text) (h : StreamHead) : Bool := h.tenantId = tenantId ∧ h.streamId = streamId

/-- The row is in the stream. -/
def RawEventRow.isOf (tenantId streamId : Text) (r : RawEventRow) : Bool := r.tenantId = tenantId ∧ r.streamId = streamId

namespace LedgerStore

variable (s : LedgerStore)

/-- The row a tenant stored under an event id. -/
def rowByEventId (tenantId eventId : Text) : Option RawEventRow :=
  s.events.find? fun r => r.tenantId = tenantId ∧ r.eventId = eventId

def streamHead (tenantId streamId : Text) : Option StreamHead :=
  s.streams.find? (·.isOf tenantId streamId)

/-- The rows of a stream, in order of sequence. -/
def streamRows (tenantId streamId : Text) : List RawEventRow :=
  (s.events.filter (·.isOf tenantId streamId)).insertionSort fun a b => a.sequence ≤ b.sequence

/-- The events of a stream; `none` when a column cannot be parsed. -/
def listStream (tenantId streamId : Text) : Option (List LedgerEvent) :=
  (s.streamRows tenantId streamId).mapM toLedgerEvent

end LedgerStore

/-! ## Writing -/

inductive StoreError where
  | ledger (e : LedgerError)
  /-- A stored column is not JSON. -/
  | syntaxError
  /-- A `PRIMARY KEY` or `UNIQUE` constraint failed. -/
  | constraint

namespace LedgerStore

def insertEvent (s : LedgerStore) (row : RawEventRow) : Option LedgerStore :=
  if s.events.any fun r => r.tenantId = row.tenantId ∧
      (r.eventId = row.eventId ∨ r.streamId = row.streamId ∧ r.sequence = row.sequence) then none
  else some { s with events := s.events ++ [row] }

/-- `INSERT … ON CONFLICT DO UPDATE` of the stream head; the status of an existing head stays. -/
def upsertHead (s : LedgerStore) (tenantId streamId : Text) (sequence : Nat) (eventHash now : Text) : LedgerStore :=
  if (s.streamHead tenantId streamId).isSome then
    { s with
      streams := s.streams.map fun h =>
        if h.isOf tenantId streamId then
          { h with latestSequence := sequence, latestEventHash := eventHash, updatedAt := now }
        else h }
  else { s with streams := s.streams ++ [⟨tenantId, streamId, sequence, eventHash, now, .valid⟩] }

/-- Persistently marks a stream `INVALID`. -/
def markStreamInvalid (s : LedgerStore) (tenantId streamId detail now : Text) : LedgerStore :=
  { s with
    streams := s.streams.map fun h =>
      if h.isOf tenantId streamId then { h with integrityStatus := .invalid } else h
    integrityChecks := s.integrityChecks ++ [⟨tenantId, some streamId, .invalid, detail, now⟩] }

/-- Appends one event to a stream, or finds it stored already. -/
def append (sha256 : Text → Text) (now : Text) (s : LedgerStore) (input : LedgerEventInput) :
    Except StoreError (LedgerEvent × LedgerStore) :=
  match s.rowByEventId input.tenantId input.eventId with
  | some existing =>
    match toLedgerEvent existing with
    | none => .error .syntaxError
    | some existingEvent =>
      if sameCanonicalContent existingEvent.toEventContent input.content then .ok (existingEvent, s)
      else .error (.ledger ⟨.eventConflict,
        Text.ofAscii "event_id " ++ input.eventId ++ Text.ofAscii " already exists with different content"⟩)
  | none =>
    let head := s.streamHead input.tenantId input.streamId
    if head.any fun h => h.integrityStatus = .invalid then
      .error (.ledger ⟨.integrityFailure, Text.ofAscii "Stream " ++ input.streamId ++
        Text.ofAscii " has failed integrity verification; writes are blocked (fail-closed)"⟩)
    else
      let previousSequence := (head.map StreamHead.latestSequence).getD 0
      let previousHash := (head.map StreamHead.latestEventHash).getD genesisHash
      let sequence := previousSequence + 1
      let payloadHash := computePayloadHash sha256 input.content.payload
      let eventHash := computeEventHash sha256 (input.content.hashCore sequence payloadHash previousHash)
      match s.insertEvent (input.toRow sequence now payloadHash previousHash eventHash) with
      | none => .error .constraint
      | some s' =>
        .ok ({ input.content with sequence, receivedAt := now, persistedAt := now, payloadHash,
                                  previousEventHash := previousHash, eventHash },
          s'.upsertHead input.tenantId input.streamId sequence eventHash now)

end LedgerStore

end Tna.Ledger
