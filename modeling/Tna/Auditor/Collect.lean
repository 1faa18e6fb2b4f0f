import Tna.Auditor.Evidence
import Tna.Ledger.Query

/-!
# The collection of evidence

`LedgerEvidenceProvider.collect`, for a reader of the tenant: pages of the Ledger up to a bound,
the bounds of the scope, one of each event in the order of the streams, a verification of each
stream and the conflicts. The collection does not wait, so its timeout never cuts it short.
-/

namespace Tna.Auditor

open Tna.Js Tna.Ledger

/-! ## Scopes -/

structure TimeRange where
  fromTime : Text
  toTime : Text

/-- The part of `AssessmentScope` that is collected by. -/
structure AssessmentScope where
  tenantWide : Bool
  agentIds : List Text
  correlationIds : List Text
  timeRange : TimeRange

structure EvidenceRequest where
  tenantId : Text
  scope : AssessmentScope
  evidenceCutoffAt : Text

/-- What a collection uses besides the Ledger: the hash of the Ledger, and the clocks. -/
structure CollectContext where
  sha256 : Text → Text
  /-- When a stream that does not verify is marked. -/
  now : Text
  checkedAt : Text
  collectedAt : Text

def maxCollectedEvents : Nat := 5000

def maxPagesPerQuery : Nat := 25

def withinCutoff (e : LedgerEvent) (cutoffAt : Text) : Bool := isAtOrAfter cutoffAt e.receivedAt

def withinTimeRange (e : LedgerEvent) (range : TimeRange) : Bool :=
  let moment := e.occurredAt.getD e.receivedAt
  isAtOrAfter moment range.fromTime && isAtOrAfter range.toTime moment

/-! ## Pages -/

/-- What was collected so far. -/
structure Collected where
  events : List LedgerEvent
  truncated : Bool

/-- `collectPaged`, with the pages that are left. -/
def collectPages (fetchPage : Limit → Option Text → Except StoreError Page) :
    Nat → Option Text → Collected → Except StoreError Collected
  | 0, _, c => .ok { c with truncated := true }
  | pages + 1, cursor, c =>
    if maxCollectedEvents ≤ c.events.length then .ok { c with truncated := true }
    else
      match fetchPage (.integer maxQueryPageSize) cursor with
      | .error e => .error e
      | .ok page =>
        let c := { c with events := c.events ++ page.items }
        match page.nextCursor with
        | none => .ok c
        | some next => collectPages fetchPage pages (some next) c

def collectPaged (c : Collected) (fetchPage : Limit → Option Text → Except StoreError Page) : Except StoreError Collected :=
  collectPages fetchPage maxPagesPerQuery none c

/-- The distinct texts, each where it is first. -/
def distinctTexts (texts : List Text) : List Text := texts.reverse.dedup.reverse

section
variable (s : LedgerStore) (tenantId : Text)

/-- The stream of an agent and the events it acted in. -/
def collectAgent (c : Collected) (agentId : Text) : Except StoreError Collected := do
  let c ← collectPaged c (getStream offsetCursors s tenantId (Text.ofAscii "agent:" ++ agentId))
  collectPaged c (getEventsByActor offsetCursors s tenantId agentId)

/-- The events of decisions, in turn. -/
def collectDecisions : List Text → Collected → Except StoreError Collected
  | [], c => .ok c
  | decisionId :: rest, c =>
    if maxCollectedEvents ≤ c.events.length then .ok { c with truncated := true }
    else
      match getEventsByDecision s tenantId decisionId with
      | .error e => .error e
      | .ok events => collectDecisions rest { c with events := c.events ++ events }

/-- The queries of a scope. -/
def collectScope (scope : AssessmentScope) : Except StoreError Collected :=
  if scope.tenantWide then
    collectPaged ⟨[], false⟩ (getEventsByTimeRange offsetCursors s tenantId scope.timeRange.fromTime scope.timeRange.toTime)
  else do
    let c ← scope.agentIds.foldlM (collectAgent s tenantId) ⟨[], false⟩
    let c ← scope.correlationIds.foldlM
      (fun c correlationId => collectPaged c (getEventsByCorrelation offsetCursors s tenantId correlationId)) c
    collectDecisions s tenantId (distinctTexts (c.events.filterMap (authority "decision_id"))) c

end

/-! ## One of each event -/

/-- `byId.set(event.event_id, event)`. -/
def setById (events : List LedgerEvent) (e : LedgerEvent) : List LedgerEvent :=
  if events.any fun e' => e'.eventId = e.eventId then events.map fun e' => if e'.eventId = e.eventId then e else e'
  else events ++ [e]

/-- The order of the streams, and in each of the sequence. -/
def eventLe (a b : LedgerEvent) : Prop := if a.streamId = b.streamId then a.sequence ≤ b.sequence else a.streamId < b.streamId

instance : DecidableRel eventLe := fun a b => by unfold eventLe; infer_instance

def dedupeAndSort (events : List LedgerEvent) : List LedgerEvent := (events.foldl setById []).insertionSort eventLe

/-! ## Conflicts -/

/-- `detectConflicts`: decisions with more than one outcome. -/
def detectConflicts (events : List LedgerEvent) : List EvidenceConflictRecord :=
  let outcomes := [EventType.authorizationAllowed, .authorizationBlocked, .authorizationHeld].map EventType.name
  let decided := events.filter fun e => (authority "decision_id" e).isSome && decide (e.eventType ∈ outcomes)
  (distinctTexts (decided.filterMap (authority "decision_id"))).filterMap fun decisionId =>
    let list := decided.filter fun e => authority "decision_id" e = some decisionId
    let distinct := distinctTexts (list.map (·.eventType))
    if distinct.length > 1 then
      some ⟨Text.ofAscii "decision " ++ decisionId ++ Text.ofAscii " has contradictory authorization outcomes: " ++
        List.intercalate (Text.ofAscii ", ") distinct, list.map (·.eventId)⟩
    else none

/-! ## Streams -/

/-- The verification of streams in turn. Each that does not verify is marked in the Ledger. -/
def checkStreams (k : CollectContext) (tenantId : Text) :
    LedgerStore → List Text → List (Text × StreamIntegritySummary) × LedgerStore
  | s, [] => ([], s)
  | s, streamId :: rest =>
    match verifyStream k.sha256 k.now s tenantId streamId true with
    | none =>
      let (summaries, s) := checkStreams k tenantId s rest
      ((streamId, ⟨.unavailable, some "VERIFICATION_ERROR", k.checkedAt⟩) :: summaries, s)
    | some (result, s) =>
      let (summaries, s) := checkStreams k tenantId s rest
      ((streamId, ⟨if result.valid then .valid else .invalid, result.reason.map IntegrityFailureReason.name, k.checkedAt⟩) ::
        summaries, s)

/-! ## The collection -/

/-- `collect`: the bundle, and the Ledger after it. -/
def collect (k : CollectContext) (s : LedgerStore) (request : EvidenceRequest) : Except StoreError (EvidenceBundle × LedgerStore) :=
  match collectScope s request.tenantId request.scope with
  | .error e => .error e
  | .ok c =>
    let events := dedupeAndSort (c.events.filter fun e =>
      withinCutoff e request.evidenceCutoffAt && withinTimeRange e request.scope.timeRange)
    let (streamIntegrity, t) := checkStreams k request.tenantId s (distinctTexts (events.map (·.streamId)))
    .ok (⟨request.tenantId, request.evidenceCutoffAt, k.collectedAt, events, streamIntegrity, detectConflicts events, c.truncated⟩, t)

end Tna.Auditor
