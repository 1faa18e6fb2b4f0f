import Tna.Ledger.Query

/-!
# Exports and the Ledger facade

An export holds the events of one correlation, the heads of their streams and whether each
stream verifies, under one hash. It can be checked later from its own contents. The methods of
`Ledger` are each for a principal: reading takes the role of a reader or an admin, verifying
every stream that of an admin; the tenant is always the principal's own.
-/

namespace Tna.Ledger

open Tna.Js Value

/-! ## Evidence exports -/

def IntegrityStatus.name : IntegrityStatus → Text
  | .valid => "VALID"
  | .invalid => "INVALID"

def StreamHead.toValue (h : StreamHead) : Value :=
  .obj [("tenant_id", .str h.tenantId), ("stream_id", .str h.streamId), ("latest_sequence", .ofNat h.latestSequence),
    ("latest_event_hash", .str h.latestEventHash), ("updated_at", .str h.updatedAt),
    ("integrity_status", .str h.integrityStatus.name)]

/-- An event with the fields the store assigned. -/
def LedgerEvent.toValue (e : LedgerEvent) : Value :=
  match e.toEventContent.toValue with
  | .obj fields =>
    .obj (fields ++ [(("sequence" : Text), .ofNat e.sequence), ("received_at", .str e.receivedAt),
      ("persisted_at", .str e.persistedAt), ("payload_hash", .str e.payloadHash),
      ("previous_event_hash", .str e.previousEventHash), ("event_hash", .str e.eventHash)])
  | v => v

structure StreamVerdict where
  streamId : Text
  valid : Bool

def StreamVerdict.toValue (v : StreamVerdict) : Value := .obj [("streamId", .str v.streamId), ("valid", .bool v.valid)]

structure EvidenceExportBundle where
  tenantId : Text
  correlationId : Text
  exportedAt : Text
  events : List LedgerEvent
  streamHeads : List StreamHead
  verification : List StreamVerdict
  exportHash : Text

/-- What the hash of an export is taken of. -/
def EvidenceExportBundle.withoutHash (b : EvidenceExportBundle) : Value :=
  .obj [("version", .str "1.0"), ("tenantId", .str b.tenantId), ("correlationId", .str b.correlationId),
    ("exportedAt", .str b.exportedAt), ("events", .arr (b.events.map LedgerEvent.toValue)),
    ("streamHeads", .arr (b.streamHeads.map StreamHead.toValue)),
    ("verification", .arr (b.verification.map StreamVerdict.toValue))]

section
variable (sha256 : Text → Text)

/-- Whether a stream verifies, without marking it. -/
def probeStream (now : Text) (s : LedgerStore) (tenantId streamId : Text) : Option StreamVerdict :=
  (verifyStream sha256 now s tenantId streamId false).map fun r => ⟨streamId, r.1.valid⟩

/-- Deterministic, self-contained, portable evidence export for one correlation. -/
def exportEvidence (now exportedAt : Text) (s : LedgerStore) (tenantId correlationId : Text) :
    Except StoreError EvidenceExportBundle := do
  let rows ← s.query tenantId { Filters.none with correlationId := some correlationId } maxExportEvents 0
  let streamIds := (rows.map fun e => e.streamId).dedup.insertionSort (· ≤ ·)
  let streamHeads := streamIds.filterMap fun streamId => s.streamHead tenantId streamId
  match streamIds.mapM (probeStream sha256 now s tenantId) with
  | none => .error .syntaxError
  | some verification =>
    let bundle : EvidenceExportBundle := ⟨tenantId, correlationId, exportedAt, rows, streamHeads, verification, []⟩
    .ok { bundle with exportHash := hash sha256 bundle.withoutHash }

inductive ExportFailure where
  | exportHashMismatch
  | chainBroken
  | payloadHashMismatch
  | eventHashMismatch

/-- `ordered`: by stream, and by sequence within a stream. -/
def exportLe (a b : LedgerEvent) : Prop := a.streamId < b.streamId ∨ a.streamId = b.streamId ∧ a.sequence ≤ b.sequence

instance : DecidableRel exportLe := fun a b => by unfold exportLe; infer_instance

/-- The first thing wrong with the events of an export, the last event of each stream so far being known. -/
def checkExported (lastSeenByStream : List (Text × LedgerEvent)) : List LedgerEvent → Option ExportFailure
  | [] => none
  | event :: rest =>
    let previousIncluded := lastSeenByStream.lookup event.streamId
    if previousIncluded.any fun p => p.sequence + 1 = event.sequence ∧ event.previousEventHash ≠ p.eventHash then
      some .chainBroken
    else if computePayloadHash sha256 event.payload ≠ event.payloadHash then some .payloadHashMismatch
    else if recomputeEventHash sha256 event ≠ event.eventHash then some .eventHashMismatch
    else checkExported ((event.streamId, event) :: lastSeenByStream) rest

/-- Verifies a previously exported bundle using only its own contents: what is wrong with it, if anything. -/
def verifyExportedBundle (bundle : EvidenceExportBundle) : Option ExportFailure :=
  if hash sha256 bundle.withoutHash ≠ bundle.exportHash then some .exportHashMismatch
  else checkExported sha256 [] (bundle.events.insertionSort exportLe)

end

/-! ## The facade -/

/-- What a call uses besides the store: the hash, the form of cursors, and the clocks. -/
structure Environment where
  sha256 : Text → Text
  cursors : Cursors
  now : Text
  exportedAt : Text
  start : Int
  finish : Int

/-- A call of a method of the facade. -/
inductive LedgerCall where
  | append (raw : JsValue)
  | getEvent (eventId : Text)
  | getStream (streamId : Text) (limit : Limit) (cursor : Option Text)
  | getEventsByActor (actorId : Text) (limit : Limit) (cursor : Option Text)
  | getEventsByCorrelation (correlationId : Text) (limit : Limit) (cursor : Option Text)
  | getEventsByType (eventType : Text) (limit : Limit) (cursor : Option Text)
  | getEventsByTimeRange (fromTime toTime : Text) (limit : Limit) (cursor : Option Text)
  | getEventsByDecision (decisionId : Text)
  | getEventsByExecution (executionId : Text)
  | getEventsByAtom (atomId : Text)
  | search (filters : Filters) (limit : Limit) (cursor : Option Text)
  | verifyStream (streamId : Text)
  | verifyAll
  | reconstructGateAction (correlationId : Text)
  | reconstructVadAtom (correlationId : Text)
  | exportEvidence (correlationId : Text)
  | verifyExportedBundle (bundle : EvidenceExportBundle)

/-- What a call returns. -/
inductive LedgerReply where
  | event (e : LedgerEvent)
  | page (p : Page)
  | events (es : List LedgerEvent)
  | stream (r : StreamVerificationResult)
  | full (r : FullVerificationResult)
  | gateAction (r : GateActionReconstruction)
  | vadAtom (r : VadAtomReconstruction)
  | bundle (b : EvidenceExportBundle)
  | bundleCheck (failure : Option ExportFailure)

def assertCanRead (p : LedgerPrincipal) : Except StoreError Unit :=
  if p.role ≠ .reader ∧ p.role ≠ .admin then
    .error (.ledger (forbidden (Text.ofAscii "Principal " ++ p.id ++ Text.ofAscii " does not hold read authority")))
  else .ok ()

def assertIsAdmin (p : LedgerPrincipal) : Except StoreError Unit :=
  if p.role ≠ .admin then
    .error (.ledger (forbidden (Text.ofAscii "Principal " ++ p.id ++ Text.ofAscii " does not hold admin authority")))
  else .ok ()

/-- A method that only reads, for a principal that may. -/
def reading {α : Type} (p : LedgerPrincipal) (reply : α → LedgerReply) (result : Except StoreError α) :
    Except StoreError LedgerReply :=
  match assertCanRead p with
  | .error e => .error e
  | .ok () => reply <$> result

/-- The answer of `verifyAll`. -/
def fullReply : Option FullVerificationResult → Except StoreError LedgerReply
  | some r => .ok (.full r)
  | none => .error .syntaxError

/-- A call of the facade: its answer, and the store after it. -/
def LedgerCall.run (env : Environment) (p : LedgerPrincipal) (call : LedgerCall) (s : LedgerStore) :
    Except StoreError LedgerReply × LedgerStore :=
  match call with
  | .append raw =>
    match Ledger.append env.sha256 env.now s p raw with
    | .ok (e, s) => (.ok (.event e), s)
    | .error e => (.error e, s)
  | .getEvent eventId => (reading p .event (Ledger.getEvent s p.tenantId eventId), s)
  | .getStream streamId limit cursor =>
    (reading p .page (Ledger.getStream env.cursors s p.tenantId streamId limit cursor), s)
  | .getEventsByActor actorId limit cursor =>
    (reading p .page (Ledger.getEventsByActor env.cursors s p.tenantId actorId limit cursor), s)
  | .getEventsByCorrelation correlationId limit cursor =>
    (reading p .page (Ledger.getEventsByCorrelation env.cursors s p.tenantId correlationId limit cursor), s)
  | .getEventsByType eventType limit cursor =>
    (reading p .page (Ledger.getEventsByType env.cursors s p.tenantId eventType limit cursor), s)
  | .getEventsByTimeRange fromTime toTime limit cursor =>
    (reading p .page (Ledger.getEventsByTimeRange env.cursors s p.tenantId fromTime toTime limit cursor), s)
  | .getEventsByDecision decisionId => (reading p .events (Ledger.getEventsByDecision s p.tenantId decisionId), s)
  | .getEventsByExecution executionId => (reading p .events (Ledger.getEventsByExecution s p.tenantId executionId), s)
  | .getEventsByAtom atomId => (reading p .events (Ledger.getEventsByAtom s p.tenantId atomId), s)
  | .search filters limit cursor => (reading p .page (Ledger.search env.cursors s p.tenantId filters limit cursor), s)
  | .verifyStream streamId =>
    match assertCanRead p with
    | .error e => (.error e, s)
    | .ok () =>
      match Ledger.verifyStream env.sha256 env.now s p.tenantId streamId true with
      | some (r, s) => (.ok (.stream r), s)
      | none => (.error .syntaxError, s)
  | .verifyAll =>
    match assertIsAdmin p with
    | .error e => (.error e, s)
    | .ok () =>
      let verified := Ledger.verifyAll env.sha256 env.now env.start env.finish s (some p.tenantId) true
      (fullReply verified.1, verified.2)
  | .reconstructGateAction correlationId =>
    (reading p .gateAction (Ledger.reconstructGateAction s p.tenantId correlationId), s)
  | .reconstructVadAtom correlationId =>
    (reading p .vadAtom (Ledger.reconstructVadAtom s p.tenantId correlationId), s)
  | .exportEvidence correlationId =>
    (reading p .bundle (Ledger.exportEvidence env.sha256 env.now env.exportedAt s p.tenantId correlationId), s)
  | .verifyExportedBundle bundle => (reading p .bundleCheck (.ok (Ledger.verifyExportedBundle env.sha256 bundle)), s)

end Tna.Ledger
