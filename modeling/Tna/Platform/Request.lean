import Tna.Js.Number
import Tna.Ledger.Stored
import Tna.Platform.Durable

/-!
# `validatePlatformActionRequestInput`

What a caller supplies of an action. The checks run in the order of the source and the
first that fails is reported; what is accepted is a new object of the fields that were
checked. The resource is any text, and only the input and the metadata are searched for
secrets.
-/

namespace Tna.Platform

open Tna.Js Tna.Gate Tna.Lib

def invalidInput (message : Text) : PlatformError := .platform .invalidInput message

def platformActionRequestVersion : Text := "1.0"

def maxMetadataBytes : Nat := 4096

def maxInputBytes : Nat := 65536

/-- `byteLength`. -/
def byteLength (o : JsObject) : Nat := o.toValue.stringify.byteLength

/-- What the runtime owns, and a caller may not supply. -/
def forbiddenCallerFields : List Text :=
  ["platform_action_id", "correlation_id", "decision_id", "capability_id", "sentinel_session_id", "execution_id", "status",
    "state_version", "result", "result_hash", "sentinel_decision", "vad_result", "vad_final_state", "ledger_hash",
    "ledger_event_id", "audit_result", "evidence_status", "input_hash", "created_at", "created_by"]

def requestTopLevelFields : List Text :=
  ["version", "request_id", "tenant_id", "agent_id", "action", "tool", "operation", "resource", "input",
    "requested_runtime_limits", "requested_cost_limits", "requires_verification", "verification_spec_id", "metadata"]

/-! ## The checks on one field -/

/-- Every field is known. -/
def knownFields (o : JsObject) : Except PlatformError Unit :=
  match (o.fields.map Prod.fst).find? (· ∉ requestTopLevelFields) with
  | some field => .error (invalidInput (Text.ofAscii "Unknown platform action request field \"" ++ field ++ Text.ofAscii "\""))
  | none => .ok ()

def requestVersion (o : JsObject) : Except PlatformError Unit :=
  if (o.get "version").asText? = some platformActionRequestVersion then .ok ()
  else .error (.platform .unsupportedVersion
    (Text.ofAscii "Unsupported request version: " ++ (o.get "version").val.toText))

/-- No field is the runtime's. -/
def callerFields (o : JsObject) : Except PlatformError Unit :=
  match forbiddenCallerFields.find? (· ∈ o.fields.map Prod.fst) with
  | some field => .error (invalidInput (Text.ofAscii "Field \"" ++ field ++
      Text.ofAscii "\" is runtime-owned and may not be supplied by the caller"))
  | none => .ok ()

def idField (o : JsObject) (name : String) (maxLen : Nat) (message : Text) : Except PlatformError Text :=
  match Ledger.safeId (o.get name) maxLen with
  | some t => .ok t
  | none => .error (invalidInput message)

def resourceField (o : JsObject) : Except PlatformError Text :=
  match (o.get "resource").asText? with
  | some t => if t.length = 0 ∨ t.length > 512 then .error (invalidInput "resource is required") else .ok t
  | none => .error (invalidInput "resource is required")

def inputField (o : JsObject) : Except PlatformError JsObject :=
  match (o.get "input").asObject? with
  | some input =>
    if byteLength input > maxInputBytes then
      .error (.platform .payloadTooLarge (Text.ofAscii ("input exceeds " ++ toString maxInputBytes ++ " bytes")))
    else .ok input
  | none => .error (invalidInput "input must be an object")

def requiresVerificationField (o : JsObject) : Except PlatformError Bool :=
  match (o.get "requires_verification").val with
  | .bool b => .ok b
  | _ => .error (invalidInput "requires_verification is required and must be a boolean")

/-- The specification, which is looked at only where verification is required. -/
def verificationSpecField (o : JsObject) (requiresVerification : Bool) : Except PlatformError (Option Text) :=
  if requiresVerification then
    match (o.get "verification_spec_id").val with
    | .undefined => .ok none
    | _ => some <$> idField o "verification_spec_id" 200 "verification_spec_id must be a safe identifier"
  else .ok none

/-- A limit, which is an object with one number that is read. -/
def limitField (o : JsObject) (name limit : String) (allowed : ℚ → Bool) (message : Text) :
    Except PlatformError (Option JsValue) :=
  match (o.get name).val with
  | .undefined => .ok none
  | _ =>
    match (o.get name).asObject? with
    | none => .error (invalidInput message)
    | some limits =>
      match finiteNumber (limits.get limit).val with
      | none => .error (invalidInput message)
      | some (n, q) =>
        if allowed q then .ok (some ⟨.obj [(Text.ofAscii limit, .num n)], rfl⟩) else .error (invalidInput message)

def runtimeLimitsField (o : JsObject) : Except PlatformError (Option JsValue) :=
  limitField o "requested_runtime_limits" "max_runtime_seconds" (fun q => 0 < q && q ≤ 3600)
    "requested_runtime_limits.max_runtime_seconds must be a positive number <= 3600"

def costLimitsField (o : JsObject) : Except PlatformError (Option JsValue) :=
  limitField o "requested_cost_limits" "max_cost_usd" (fun q => 0 ≤ q && q ≤ 1000000)
    "requested_cost_limits.max_cost_usd must be a non-negative number"

def metadataField (o : JsObject) : Except PlatformError (Option JsObject) :=
  match (o.get "metadata").val with
  | .undefined => .ok none
  | _ =>
    match (o.get "metadata").asObject? with
    | some metadata =>
      if byteLength metadata > maxMetadataBytes then
        .error (.platform .payloadTooLarge (Text.ofAscii ("metadata exceeds " ++ toString maxMetadataBytes ++ " bytes")))
      else .ok (some metadata)
    | none => .error (invalidInput "metadata must be an object")

/-- The search for secrets, with the detector that the Ledger has as well. -/
def secretFree (input : JsObject) (metadata : Option JsObject) : Except PlatformError Unit :=
  match (Ledger.findSecretIn (some input)).orElse fun _ => Ledger.findSecretIn metadata with
  | some secretHit => .error (invalidInput (Text.ofAscii "Rejected: " ++ secretHit))
  | none => .ok ()

/-! ## The whole -/

/-- The fields every accepted request has. -/
def requestFields (r : PlatformActionRequestInput) : List (Text × Value) :=
  [("version", .str platformActionRequestVersion), ("request_id", .str r.requestId), ("tenant_id", .str r.tenantId),
    ("agent_id", .str r.agentId), ("action", .str r.action), ("tool", .str r.tool), ("operation", .str r.operation),
    ("resource", .str r.resource), ("input", r.input.toValue), ("requires_verification", .bool r.requiresVerification)]

theorem distinct_requestFields (r : PlatformActionRequestInput) : (Value.obj (requestFields r)).distinct = true := by
  have hkeys : (["version", "request_id", "tenant_id", "agent_id", "action", "tool", "operation", "resource", "input",
    "requires_verification"] : List Text).Nodup := by decide +kernel
  have hinput : r.input.toValue.distinct = true := r.input.distinct
  rw [Value.distinct, Bool.and_eq_true, decide_eq_true_eq]
  refine ⟨hkeys, ?_⟩
  simp only [requestFields, Value.distinctFields, Value.distinct, hinput, Bool.and_self]

/-- `if (v !== undefined) o[k] = v`. -/
def setIfDefined (o : JsObject) (k : Text) : Option JsValue → JsObject
  | some v => o.set k v
  | none => o

/-- Validates and normalizes a caller-supplied request. -/
def validatePlatformActionRequestInput (raw : JsValue) : Except PlatformError ValidatedRequest :=
  match raw.asObject? with
  | none => .error (invalidInput "Platform action request must be an object")
  | some o => do
    knownFields o
    requestVersion o
    callerFields o
    let requestId ← idField o "request_id" 200 "request_id is required and must be a safe identifier"
    let tenantId ← idField o "tenant_id" 100 "tenant_id is required"
    let agentId ← idField o "agent_id" 200 "agent_id is required"
    let action ← idField o "action" 200 "action is required"
    let tool ← idField o "tool" 200 "tool is required"
    let operation ← idField o "operation" 100 "operation is required"
    let resource ← resourceField o
    let input ← inputField o
    let requiresVerification ← requiresVerificationField o
    let verificationSpecId ← verificationSpecField o requiresVerification
    let runtimeLimits ← runtimeLimitsField o
    let costLimits ← costLimitsField o
    let metadata ← metadataField o
    secretFree input metadata
    let request : PlatformActionRequestInput :=
      { requestId, tenantId, agentId, action, tool, operation, resource, input, requiresVerification }
    let base : JsObject := ⟨requestFields request, distinct_requestFields request⟩
    let limited := setIfDefined (setIfDefined base "requested_runtime_limits" runtimeLimits) "requested_cost_limits" costLimits
    let specified := setIfDefined limited "verification_spec_id" (verificationSpecId.map .ofText)
    .ok { request with document := setIfDefined specified "metadata" (metadata.map fun m => ⟨m.toValue, m.distinct⟩) }

/-! ## What is known of an accepted request -/

/-- The request was accepted. -/
def ValidatedRequest.Accepted (request : ValidatedRequest) : Prop :=
  ∃ raw, validatePlatformActionRequestInput raw = .ok request

/-- The ids of an accepted request are safe identifiers within their bounds. -/
structure PlatformActionRequestInput.SafeIds (r : PlatformActionRequestInput) : Prop where
  requestId : Ledger.safeId (.ofText r.requestId) 200 = some r.requestId
  tenantId : Ledger.safeId (.ofText r.tenantId) 100 = some r.tenantId
  agentId : Ledger.safeId (.ofText r.agentId) 200 = some r.agentId
  action : Ledger.safeId (.ofText r.action) 200 = some r.action
  tool : Ledger.safeId (.ofText r.tool) 200 = some r.tool
  operation : Ledger.safeId (.ofText r.operation) 100 = some r.operation

theorem idField_safe {o : JsObject} {name : String} {maxLen : Nat} {message t : Text} (h : idField o name maxLen message = .ok t) :
    Ledger.safeId (.ofText t) maxLen = some t := by
  unfold idField at h
  split at h
  · next id hid =>
    cases h
    have hval := Ledger.safeId_val hid
    have hsame : o.get name = .ofText t := by
      rw [JsValue.ofText]
      cases hget : o.get name
      simp only [hget] at hval
      subst hval
      rfl
    rw [← hsame]
    exact hid
  · cases h

theorem validate_ok {raw : JsValue} {request : ValidatedRequest} (h : validatePlatformActionRequestInput raw = .ok request) :
    request.SafeIds := by
  unfold validatePlatformActionRequestInput at h
  split at h
  · cases h
  · next o ho =>
    iterate 3 obtain ⟨_, -, h⟩ := bind_ok h
    obtain ⟨requestId, hrequestId, h⟩ := bind_ok h
    obtain ⟨tenantId, htenantId, h⟩ := bind_ok h
    obtain ⟨agentId, hagentId, h⟩ := bind_ok h
    obtain ⟨action, haction, h⟩ := bind_ok h
    obtain ⟨tool, htool, h⟩ := bind_ok h
    obtain ⟨operation, hoperation, h⟩ := bind_ok h
    iterate 8 obtain ⟨_, -, h⟩ := bind_ok h
    cases h
    exact ⟨idField_safe hrequestId, idField_safe htenantId, idField_safe hagentId, idField_safe haction, idField_safe htool,
      idField_safe hoperation⟩

theorem get_setIfDefined_of_ne (o : JsObject) {k k' : Text} (v : Option JsValue) (h : k' ≠ k) :
    Value.get (setIfDefined o k v).fields k' = Value.get o.fields k' := by
  cases v with
  | none => rfl
  | some v => exact Value.get_setFields_of_ne o.fields v.val h

/-- The optional fields are no others. -/
theorem get_setIfDefineds (o : JsObject) (runtimeLimits costLimits specification metadata : Option JsValue) {k : Text}
    (hk : k ∉ (["requested_runtime_limits", "requested_cost_limits", "verification_spec_id", "metadata"] : List Text)) :
    Value.get (setIfDefined (setIfDefined (setIfDefined (setIfDefined o "requested_runtime_limits" runtimeLimits)
      "requested_cost_limits" costLimits) "verification_spec_id" specification) "metadata" metadata).fields k =
      Value.get o.fields k := by
  simp only [List.mem_cons, List.not_mem_nil, or_false, not_or] at hk
  rw [get_setIfDefined_of_ne _ _ hk.2.2.2, get_setIfDefined_of_ne _ _ hk.2.2.1, get_setIfDefined_of_ne _ _ hk.2.1,
    get_setIfDefined_of_ne _ _ hk.1]

/-- What the input hash is computed of is in the document as it is in the request. -/
structure ValidatedRequest.Bound (r : ValidatedRequest) : Prop where
  tool : Value.get r.document.fields "tool" = .str r.tool
  operation : Value.get r.document.fields "operation" = .str r.operation
  resource : Value.get r.document.fields "resource" = .str r.resource
  input : Value.get r.document.fields "input" = r.input.toValue

theorem validate_bound {raw : JsValue} {request : ValidatedRequest} (h : validatePlatformActionRequestInput raw = .ok request) :
    request.Bound := by
  unfold validatePlatformActionRequestInput at h
  split at h
  · cases h
  · next o ho =>
    iterate 17 obtain ⟨_, -, h⟩ := bind_ok h
    cases h
    have hbase : ∀ {r : PlatformActionRequestInput} {k : Text} {v : Value}, (k, v) ∈ requestFields r →
        Value.get (requestFields r) k = v :=
      Value.get_of_mem (JsObject.keys_nodup ⟨_, distinct_requestFields _⟩)
    constructor <;> rw [get_setIfDefineds _ _ _ _ _ (by decide)]
    · exact hbase (by simp [requestFields])
    · exact hbase (by simp [requestFields])
    · exact hbase (by simp [requestFields])
    · exact hbase (by simp [requestFields])

end Tna.Platform
