import Tna.Ledger.Schema

/-!
# `validateEventInput`

The checks run in the order of the source and the first that fails is reported.
Unknown top-level fields are dropped; what is inside the actor, the contexts,
the payload and the retention object is not looked at, except for the shape of
a secret and the fields an event type requires.
-/

namespace Tna.Ledger

open Tna.Js

def invalid (message : Text) : LedgerError := ⟨.invalidEvent, message⟩

def isSafeIdUnit (c : CodeUnit) : Bool := isAlnum c || c == unit '.' || c == unit '_' || c == unit ':' || c == unit '-'

/-- `safeId`, with the identifier it accepted. -/
def safeId (v : JsValue) (maxLen : Nat) : Option Text :=
  match v.asText? with
  | some (c :: rest) =>
    if (c :: rest).length ≤ maxLen ∧ isAlnum c = true ∧ rest.all isSafeIdUnit = true then some (c :: rest) else none
  | _ => none

/-! ## Timestamps -/

/-- `dddd-dd-ddTdd:dd:dd.dddZ`, where `d` stands for a digit. -/
def timestampShape : Text := "dddd-dd-ddTdd:dd:dd.dddZ"

def matchesShape : Text → Text → Bool
  | [], [] => true
  | s :: shape, c :: t => (if s = unit 'd' then isDigit c else c == s) && matchesShape shape t
  | _, _ => false

/-- The number in the `len` digits from position `start`. -/
def numberAt (t : Text) (start len : Nat) : Nat :=
  ((t.drop start).take len).foldl (fun n c => n * 10 + (c.toNat - 48)) 0

def daysInMonth (year month : Nat) : Nat :=
  if month = 2 then if year % 4 = 0 ∧ (year % 100 ≠ 0 ∨ year % 400 = 0) then 29 else 28
  else if month = 4 ∨ month = 6 ∨ month = 9 ∨ month = 11 then 30
  else 31

/-- A timestamp that `Date.parse` accepts and `toISOString` gives back: a day of
the calendar and a time of day. -/
def isIsoTimestamp (t : Text) : Bool :=
  let year := numberAt t 0 4
  let month := numberAt t 5 2
  let day := numberAt t 8 2
  matchesShape timestampShape t && decide (1 ≤ month ∧ month ≤ 12 ∧ 1 ≤ day ∧ day ≤ daysInMonth year month) &&
    decide (numberAt t 11 2 ≤ 23 ∧ numberAt t 14 2 ≤ 59 ∧ numberAt t 17 2 ≤ 59)

example : isIsoTimestamp "2024-02-29T23:59:59.000Z" = true ∧ isIsoTimestamp "2023-02-29T23:59:59.000Z" = false := by
  decide

/-! ## Secrets -/

/-- `first[_-]?second`. -/
def joined (first second : String) : List Text := [first ++ "_" ++ second, first ++ "-" ++ second, first ++ second]

/-- The words of `SECRET_KEY_PATTERN`. -/
def secretKeyWords : List Text :=
  List.flatten [joined "api" "key", ["apikey", "secret", "password"], joined "private" "key", joined "access" "token",
    joined "refresh" "token", joined "client" "secret", ["bearer", "authorization"]]

/-- `SECRET_KEY_PATTERN.test(key)`. -/
def secretKey (key : Text) : Bool := secretKeyWords.any fun w => w.includes (key.map foldCase)

/-- `Bearer\s+\S+` at the head of the text. -/
def bearerHere (t : Text) : Bool :=
  (Text.ofAscii "bearer").isPrefixOf ((t.take 6).map foldCase) &&
    ((t.drop 6).head?.any isSpace && !((t.drop 6).dropWhile isSpace).isEmpty)

/-- `SECRET_VALUE_PATTERN.test(text)`. -/
def secretValue : Text → Bool
  | [] => false
  | c :: t => bearerHere (c :: t) || secretValue t

mutual

/-- The first secret-shaped field or value, as a reason. -/
def findSecretShapedField : Value → Option Text
  | .str s => if secretValue s then some "value matches a bearer-token pattern" else none
  | .arr items => findSecretItems items
  | .obj fields => findSecretFields fields
  | _ => none

def findSecretItems : List Value → Option Text
  | [] => none
  | v :: rest =>
    match findSecretShapedField v with
    | some reason => some reason
    | none => findSecretItems rest

def findSecretFields : List (Text × Value) → Option Text
  | [] => none
  | (k, v) :: rest =>
    if secretKey k then
      some (Text.ofAscii "field name \"" ++ k ++ Text.ofAscii "\" is a disallowed secret-shaped field")
    else
      match findSecretShapedField v with
      | some reason => some reason
      | none => findSecretFields rest

end

/-- The search in a context, where a missing one is clean. -/
def findSecretIn (ctx : Option JsObject) : Option Text := ctx.bind fun o => findSecretFields o.fields

/-! ## Completeness -/

/-- `ctx?.field`. -/
def field (ctx : Option JsObject) (name : String) : Value :=
  match ctx with
  | some o => (o.get name).val
  | none => .undefined

/-- Every named field of the context is truthy. -/
def hasFields (ctx : Option JsObject) (names : List String) : Bool := names.all fun n => (field ctx n).truthy

def require (ok : Bool) (message : Text) : Except LedgerError Unit := if ok then .ok () else .error (invalid message)

/-- Event-specific completeness rules. -/
def assertComplete (eventType : EventType) (ac sc ec art : Option JsObject) : Except LedgerError Unit :=
  match eventType with
  | .authorizationAllowed =>
    require (hasFields ac ["decision_id", "agent_id", "policy_hash", "action"])
      "AUTHORIZATION_ALLOWED requires authority_context.\x7bdecision_id,agent_id,policy_hash,action\x7d"
  | .capabilityIssued =>
    require (hasFields ac ["capability_id", "decision_id", "authority_expiry"])
      "CAPABILITY_ISSUED requires authority_context.\x7bcapability_id,decision_id,authority_expiry\x7d"
  | .capabilityRedeemed =>
    require (hasFields ac ["capability_id"]) "CAPABILITY_REDEEMED requires authority_context.capability_id"
  | .executionStarted =>
    require (hasFields ec ["execution_id"]) "EXECUTION_STARTED requires execution_context.execution_id"
  | .executionSucceeded =>
    require (hasFields ec ["execution_id", "result_hash"])
      "EXECUTION_SUCCEEDED requires execution_context.\x7bexecution_id,result_hash\x7d"
  | .executionFailed | .executionTerminated | .executionIndeterminate =>
    require (hasFields ec ["execution_id"])
      (eventType.name ++ Text.ofAscii " requires execution_context.execution_id")
  | .atomCreated =>
    require (hasFields sc ["atom_id", "spec_hash"]) "ATOM_CREATED requires spec_context.\x7batom_id,spec_hash\x7d"
  | .atomAccepted =>
    require (hasFields sc ["atom_id", "spec_hash", "verifier_verdict", "human_decision"] && hasFields art ["artifact_hash"])
      (Text.ofAscii
        "ATOM_ACCEPTED requires spec_context.\x7batom_id,spec_hash,verifier_verdict,human_decision\x7d and artifact_context.artifact_hash")
  | .agentRevoked => require (hasFields ac ["agent_id"]) "AGENT_REVOKED requires authority_context.agent_id"
  | _ => .ok ()

/-! ## The checks on one field -/

def idField (o : JsObject) (name : String) (maxLen : Nat) (message : Text) : Except LedgerError Text :=
  match safeId (o.get name) maxLen with
  | some t => .ok t
  | none => .error (invalid message)

def optionalIdField (o : JsObject) (name : String) (message : Text) : Except LedgerError OptionalId :=
  match (o.get name).val with
  | .undefined => .ok .absent
  | .null => .ok .null
  | _ => .id <$> idField o name 200 message

/-- `assertContext`, with the object it accepted. -/
def assertContext (o : JsObject) (name : String) : Except LedgerError (Option JsObject) :=
  match (o.get name).val with
  | .undefined => .ok none
  | _ =>
    match (o.get name).asObject? with
    | some ctx => .ok (some ctx)
    | none => .error (invalid (Text.ofAscii name ++ Text.ofAscii " must be an object"))

/-- The member of an enumeration a value names. -/
def member {α : Type} (all : List α) (name : α → Text) (v : JsValue) : Option α :=
  match v.asText? with
  | some t => all.find? fun a => name a = t
  | none => none

theorem member_name {α : Type} {all : List α} {name : α → Text} {v : JsValue} {a : α} (h : member all name v = some a) :
    v.val = .str (name a) := by
  unfold member at h
  split at h
  · next t ht =>
    have hn := List.find?_some h
    rw [JsValue.asText?_eq_some ht, of_decide_eq_true hn]
  · cases h

theorem safeId_val {v : JsValue} {n : Nat} {t : Text} (h : safeId v n = some t) : v.val = .str t := by
  unfold safeId at h
  split at h
  · next hv =>
    split at h
    · cases h
      exact JsValue.asText?_eq_some hv
    · cases h
  · cases h

def actorField (o : JsObject) : Except LedgerError Actor :=
  let bad := invalid "actor requires a controlled type and a safe id"
  match (o.get "actor").asObject? with
  | none => .error bad
  | some a =>
    match ht : member actorTypes ActorType.name (a.get "type") with
    | none => .error bad
    | some t =>
      match hi : safeId (a.get "id") 200 with
      | none => .error bad
      | some i => .ok ⟨a, t, i, member_name ht, safeId_val hi⟩

def versionField (o : JsObject) : Except LedgerError Unit :=
  if (o.get "version").asText? = some ledgerEventVersion then .ok ()
  else .error ⟨.unsupportedVersion, Text.ofAscii "Unsupported event version: " ++ (o.get "version").val.toText⟩

def eventTypeField (o : JsObject) : Except LedgerError EventType :=
  match member eventTypes EventType.name (o.get "event_type") with
  | some t => .ok t
  | none => .error ⟨.unknownEventType, Text.ofAscii "Unknown event type: " ++ (o.get "event_type").val.toText⟩

def sourceComponentField (o : JsObject) : Except LedgerError SourceComponent :=
  match member sourceComponents SourceComponent.name (o.get "source_component") with
  | some c => .ok c
  | none =>
    .error (invalid (Text.ofAscii "Unknown or untrusted source_component: " ++ (o.get "source_component").val.toText))

def occurredAtField (o : JsObject) : Except LedgerError (Option Text) :=
  match (o.get "occurred_at").val with
  | .undefined => .ok none
  | .str t =>
    if isIsoTimestamp t then .ok (some t) else .error (invalid "occurred_at must be a valid ISO-8601 UTC timestamp")
  | _ => .error (invalid "occurred_at must be a valid ISO-8601 UTC timestamp")

def classificationField (o : JsObject) : Except LedgerError (Option Classification) :=
  match (o.get "classification").val with
  | .undefined => .ok none
  | _ =>
    match member classifications Classification.name (o.get "classification") with
    | some c => .ok (some c)
    | none => .error (invalid "Unknown classification")

def isBool : Value → Bool
  | .bool _ => true
  | _ => false

def retentionField (o : JsObject) : Except LedgerError (Option JsObject) :=
  match (o.get "retention").val with
  | .undefined => .ok none
  | _ =>
    match (o.get "retention").asObject? with
    | some r =>
      if (r.get "retention_class").asText?.isSome ∧ isBool (r.get "legal_hold").val = true then .ok (some r)
      else .error (invalid "retention metadata is malformed")
    | none => .error (invalid "retention metadata is malformed")

def payloadField (o : JsObject) : Except LedgerError (Option JsObject) :=
  match (o.get "payload").val with
  | .undefined => .ok none
  | _ =>
    match (o.get "payload").asObject? with
    | none => .error (invalid "payload must be an object")
    | some p =>
      let size := p.toValue.canonical.byteLength
      if size > maxPayloadBytes then
        .error ⟨.payloadTooLarge, Text.ofAscii ("Payload of " ++ toString size ++ " bytes exceeds the " ++
          toString maxPayloadBytes ++ "-byte limit")⟩
      else .ok (some p)

/-- The first secret found, in the order in which the parts are scanned. -/
def findSecret (payload authority execution spec artifact : Option JsObject) : Option Text :=
  (findSecretIn payload).orElse fun _ => (findSecretIn authority).orElse fun _ =>
    (findSecretIn execution).orElse fun _ => (findSecretIn spec).orElse fun _ => findSecretIn artifact

/-! ## The whole -/

/-- Validates and normalizes caller input. -/
def validateEventInput (raw : JsValue) : Except LedgerError LedgerEventInput :=
  match raw.asObject? with
  | none => .error (invalid "Event must be an object")
  | some input => do
    versionField input
    let eventId ← idField input "event_id" 200 "event_id must be a safe, bounded identifier"
    let eventType ← eventTypeField input
    let tenantId ← idField input "tenant_id" 100 "tenant_id is required"
    let streamId ← idField input "stream_id" 200 "stream_id is required"
    let actor ← actorField input
    let correlationId ← idField input "correlation_id" 200 "correlation_id is required"
    let causationId ← optionalIdField input "causation_id" "causation_id must be a safe identifier"
    let parentEventId ← optionalIdField input "parent_event_id" "parent_event_id must be a safe identifier"
    let sourceComponent ← sourceComponentField input
    let occurredAt ← occurredAtField input
    let authorityContext ← assertContext input "authority_context"
    let specContext ← assertContext input "spec_context"
    let executionContext ← assertContext input "execution_context"
    let artifactContext ← assertContext input "artifact_context"
    let classification ← classificationField input
    let retention ← retentionField input
    let payload ← payloadField input
    match findSecret payload authorityContext executionContext specContext artifactContext with
    | some secretHit => .error (invalid (Text.ofAscii "Rejected: " ++ secretHit))
    | none =>
      assertComplete eventType authorityContext specContext executionContext artifactContext
      .ok { eventId, eventType, tenantId, streamId, actor, correlationId, causationId, parentEventId, sourceComponent,
            occurredAt, authorityContext, specContext, executionContext, artifactContext, classification, retention,
            payload }

end Tna.Ledger
