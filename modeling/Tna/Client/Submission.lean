import Tna.Client.Discovery
import Tna.Client.TenantEnvelope
import Tna.Js.Sorted
import Tna.Platform.Request
import Tna.Platform.Requested

/-!
# Submitting an action

The handler of `POST /v1/client/actions`. What a service identity sends is recorded under
an id that is drawn anew, and where a tool is governed it is made into a request of the
platform, whose metadata names that id. The snapshot of the configuration is left out.
-/

namespace Tna.Client

open Tna.Js Tna.Gate Tna.Lib Tna.Platform

/-- An authenticated service identity, and the body it sends. -/
structure ClientRequest where
  tenantId : Text
  serviceId : Text
  body : JsValue

/-! ## The record -/

/-- The tool a body names. -/
def toolIdOf (o : JsObject) : Option Text := (o.get "tool_id").asText?

/-- The tool that governs an action, if its body names one. -/
def governedTool (tenantId : Text) (toolId : Option Text) : ClientStatement (Option GovernedToolDefinition) :=
  match toolId.filter (· ≠ []) with
  | none => return none
  | some toolId => do
    let tool ← getTool tenantId toolId
    demand tool.enabled (.client .toolNotEnabled (Text.ofAscii "Tool " ++ toolId ++ Text.ofAscii " is not enabled"))
    demand (tool.reviewStatus ≠ .policyReviewRequired)
      (.client .toolPolicyReviewRequired (Text.ofAscii "Tool " ++ toolId ++ Text.ofAscii " requires policy review"))
    return some tool

/-- What the client store is asked to do, under the id of the record. -/
def recordSubmission (clientActionId : Text) (r : ClientRequest) (o : JsObject) :
    ClientStatement (Option GovernedToolDefinition) := do
  assertActionEligible r.tenantId
  let tool ← governedTool r.tenantId (toolIdOf o)
  recordClientAction ⟨r.tenantId, clientActionId, r.serviceId, tool.map GovernedToolDefinition.providerId, toolIdOf o⟩
  return tool

/-! ## The request of the platform -/

/-- A string, or what stands for one that is missing. -/
def textOr (v : JsValue) (other : Text) : Text := v.asText?.getD other

/-- A plain object, or an empty one. -/
def objectOr (v : JsValue) : JsObject := v.asObject?.getD ⟨[], Value.distinct_nil⟩

/-- `value === true`. -/
def isTrue (v : JsValue) : Bool :=
  match v.val with
  | .bool b => b
  | _ => false

/-- The metadata of the body, with what identifies the submission written over it. -/
def submissionMetadata (clientActionId serviceId : Text) (tool : GovernedToolDefinition) (metadata : JsObject) : JsObject :=
  let identified := (metadata.set "client_action_id" (.ofText clientActionId)).set "client_service_id" (.ofText serviceId)
  let served := if tool.providerId = [] then identified else identified.set "mcp_server_id" (.ofText tool.providerId)
  served.set "governed_tool_id" (.ofText tool.toolId)

def platformRequestFields (clientActionId : Text) (r : ClientRequest) (o : JsObject) (tool : GovernedToolDefinition) :
    List (Text × Value) :=
  [("version", .str "1.0"), ("request_id", .str (textOr (o.get "request_id") clientActionId)), ("tenant_id", .str r.tenantId),
    ("agent_id", .str r.serviceId), ("action", .str (textOr (o.get "action") (executeAction tool.toolId))),
    ("tool", .str (toolPlatformId tool.toolId)), ("operation", .str (textOr (o.get "operation") "read")),
    ("resource", .str (textOr (o.get "resource") "*")), ("input", (objectOr (o.get "input")).toValue),
    ("requires_verification", .bool (isTrue (o.get "requires_verification"))),
    ("metadata", (submissionMetadata clientActionId r.serviceId tool (objectOr (o.get "metadata"))).toValue)]

theorem distinct_platformRequestFields (clientActionId : Text) (r : ClientRequest) (o : JsObject) (tool : GovernedToolDefinition) :
    (Value.obj (platformRequestFields clientActionId r o tool)).distinct = true := by
  have hkeys : (["version", "request_id", "tenant_id", "agent_id", "action", "tool", "operation", "resource", "input",
    "requires_verification", "metadata"] : List Text).Nodup := by decide +kernel
  have hinput : (objectOr (o.get "input")).toValue.distinct = true := JsObject.distinct _
  have hmetadata : (submissionMetadata clientActionId r.serviceId tool (objectOr (o.get "metadata"))).toValue.distinct = true :=
    JsObject.distinct _
  rw [Value.distinct, Bool.and_eq_true, decide_eq_true_eq]
  refine ⟨hkeys, ?_⟩
  simp only [platformRequestFields, Value.distinctFields, Value.distinct, hinput, hmetadata, Bool.and_self]

/-- What the platform is asked for. -/
def platformRequest (clientActionId : Text) (r : ClientRequest) (o : JsObject) (tool : GovernedToolDefinition) : JsObject :=
  ⟨platformRequestFields clientActionId r o tool, distinct_platformRequestFields clientActionId r o tool⟩

/-- It, as the value that is handed over. -/
def asked (clientActionId : Text) (r : ClientRequest) (o : JsObject) (tool : GovernedToolDefinition) : JsValue :=
  ⟨(platformRequest clientActionId r o tool).toValue, (platformRequest clientActionId r o tool).distinct⟩

/-! ## The handler -/

inductive SubmissionAnswer where
  /-- The action that the facade returned. -/
  | platform (clientActionId platformActionId : Text) (state : PlatformActionState)
  /-- Status 201 as well, with the state `FAILED` and the error that was caught. -/
  | failed (clientActionId : Text) (e : PlatformError)
  | recorded (clientActionId : Text)
  | refused (e : ClientError)

inductive SubmissionPc where
  /-- In `submitAndRun`. -/
  | running (clientActionId : Text) (pc : OrchestratorPc)
  | answered (answer : SubmissionAnswer)
  /-- The process stopped before it answered. -/
  | lost

/-- What a submission draws, and what the synchronization of the tenant or the construction of its facade threw. -/
structure SubmissionContext where
  uuid : Text
  failure : Option PlatformError

def SubmissionContext.clientActionId (c : SubmissionContext) : Text := Text.ofAscii "cact_" ++ c.uuid

/-- The governed branch, up to where `submitAndRun` has validated the request. -/
def submitGoverned (c : SubmissionContext) (r : ClientRequest) (o : JsObject) (tool : GovernedToolDefinition) : SubmissionPc :=
  match c.failure with
  | some e => .answered (.failed c.clientActionId e)
  | none =>
    match validatePlatformActionRequestInput (asked c.clientActionId r o tool) with
    | .error e => .answered (.failed c.clientActionId e)
    | .ok request => .running c.clientActionId (.submitting ⟨.agent, r.tenantId, some r.serviceId⟩ request)

/-- `handleClientRoute`, with whether there is a facade, up to where it waits for it. -/
def handleSubmission (facade : Bool) (c : SubmissionContext) (r : ClientRequest) (s : ClientStore) : ClientStore × SubmissionPc :=
  match r.body.asObject? with
  | none => (s, .answered (.refused (.http 400 "Action body must be an object")))
  | some o =>
    match recordSubmission c.clientActionId r o s with
    | .error e t => (t, .answered (.refused e))
    | .ok (some tool) t => (t, if facade then submitGoverned c r o tool else .answered (.recorded c.clientActionId))
    | .ok none t => (t, .answered (.recorded c.clientActionId))

/-- What a submission answers with what `submitAndRun` came to. -/
def answerOf (clientActionId : Text) : RunOutcome → SubmissionAnswer
  | .returned action _ => .platform clientActionId action.platformActionId action.state
  | .threw e => .failed clientActionId e

/-! ## What identifies a request -/

section
variable {raw : JsValue} {o : JsObject} {request : ValidatedRequest}

theorem idField_val {name : String} {maxLen : Nat} {message t : Text} (h : idField o name maxLen message = .ok t) :
    (o.get name).val = .str t := by
  unfold idField at h
  split at h
  · next id hid =>
    cases h
    exact Ledger.safeId_val hid
  · cases h

theorem metadataField_of_object {metadata : JsObject} (hmetadata : (o.get "metadata").asObject? = some metadata)
    {m : Option JsObject} (h : metadataField o = .ok m) : m = some metadata := by
  unfold metadataField at h
  rw [hmetadata] at h
  split at h
  · next hundefined =>
    unfold JsValue.asObject? at hmetadata
    split at hmetadata
    · next heq =>
      rw [heq] at hundefined
      cases hundefined
    · cases hmetadata
  · split at h
    · next heq =>
      cases heq
      split_ifs at h
      cases h
      rfl
    · next heq => cases heq

/-- What a request is identified by, and its metadata, are what was asked for. -/
theorem validated_identity (ho : raw.asObject? = some o) (h : validatePlatformActionRequestInput raw = .ok request) :
    (o.get "request_id").val = .str request.requestId ∧ (o.get "tenant_id").val = .str request.tenantId := by
  unfold validatePlatformActionRequestInput at h
  rw [ho] at h
  iterate 3 obtain ⟨_, -, h⟩ := bind_ok h
  obtain ⟨requestId, hrequestId, h⟩ := bind_ok h
  obtain ⟨tenantId, htenantId, h⟩ := bind_ok h
  iterate 12 obtain ⟨_, -, h⟩ := bind_ok h
  cases h
  exact ⟨idField_val hrequestId, idField_val htenantId⟩

theorem validated_metadata (ho : raw.asObject? = some o) (h : validatePlatformActionRequestInput raw = .ok request)
    {metadata : JsObject} (hmetadata : (o.get "metadata").asObject? = some metadata) :
    Value.get request.document.fields "metadata" = metadata.toValue := by
  unfold validatePlatformActionRequestInput at h
  rw [ho] at h
  iterate 15 obtain ⟨_, -, h⟩ := bind_ok h
  obtain ⟨m, hm, h⟩ := bind_ok h
  obtain ⟨_, -, h⟩ := bind_ok h
  cases h
  obtain rfl := metadataField_of_object hmetadata hm
  exact JsObject.get_set_self _ _ _

/-! ## Two submissions -/

variable {r r' : ClientRequest} {clientActionId clientActionId' : Text}

/-- The submission of a client request, under an id, asks the platform for this request. -/
def ClientRequest.Asks (r : ClientRequest) (clientActionId : Text) (request : ValidatedRequest) : Prop :=
  ∃ o tool, r.body.asObject? = some o ∧ validatePlatformActionRequestInput (asked clientActionId r o tool) = .ok request

/-- The request id that a client request names. -/
def ClientRequest.requestId (r : ClientRequest) : Option Text :=
  r.body.asObject?.bind fun o => (o.get "request_id").asText?

theorem tenantId_of_asks (h : r.Asks clientActionId request) : request.tenantId = r.tenantId := by
  obtain ⟨o, tool, -, hvalidated⟩ := h
  obtain ⟨-, htenant⟩ := validated_identity (o := platformRequest clientActionId r o tool) rfl hvalidated
  exact (Value.str.inj htenant).symm

theorem requestId_of_asks (h : r.Asks clientActionId request) {requestId : Text} (hnamed : r.requestId = some requestId) :
    request.requestId = requestId := by
  obtain ⟨o, tool, ho, hvalidated⟩ := h
  obtain ⟨hid, -⟩ := validated_identity (o := platformRequest clientActionId r o tool) rfl hvalidated
  have hdue : textOr (o.get "request_id") clientActionId = request.requestId := Value.str.inj hid
  rw [ClientRequest.requestId, ho, Option.bind_some] at hnamed
  rw [← hdue, textOr, hnamed, Option.getD_some]

/-- The metadata of a submission name its record. -/
theorem clientActionId_of_metadata (clientActionId serviceId : Text) (tool : GovernedToolDefinition) (metadata : JsObject) :
    Value.get (submissionMetadata clientActionId serviceId tool metadata).fields "client_action_id" = .str clientActionId := by
  have hservice : (Text.ofAscii "client_action_id") ≠ Text.ofAscii "client_service_id" := by decide +kernel
  have hserver : (Text.ofAscii "client_action_id") ≠ Text.ofAscii "mcp_server_id" := by decide +kernel
  have htool : (Text.ofAscii "client_action_id") ≠ Text.ofAscii "governed_tool_id" := by decide +kernel
  unfold submissionMetadata
  refine (Value.get_setFields_of_ne _ _ htool).trans ?_
  have hidentified : Value.get ((metadata.set "client_action_id" (.ofText clientActionId)).set "client_service_id"
      (.ofText serviceId)).fields "client_action_id" = .str clientActionId :=
    (Value.get_setFields_of_ne _ _ hservice).trans (JsObject.get_set_self _ _ _)
  split
  · exact hidentified
  · exact (Value.get_setFields_of_ne _ _ hserver).trans hidentified

/-- **No two submissions ask for the same**: what they ask for names their records. -/
theorem clientActionId_of_canonical {request' : ValidatedRequest} (h : r.Asks clientActionId request)
    (h' : r'.Asks clientActionId' request') (hsame : request.document.toValue.canonical = request'.document.toValue.canonical) :
    clientActionId = clientActionId' := by
  obtain ⟨o, tool, -, hvalidated⟩ := h
  obtain ⟨o', tool', -, hvalidated'⟩ := h'
  have hmetadata := validated_metadata (o := platformRequest clientActionId r o tool) rfl hvalidated rfl
  have hmetadata' := validated_metadata (o := platformRequest clientActionId' r' o' tool') rfl hvalidated' rfl
  have hdocuments := Value.sameData_of_canonical request.document.distinct request'.document.distinct hsame "metadata"
  rw [hmetadata, hmetadata'] at hdocuments
  have hnamed := clientActionId_of_metadata clientActionId r.serviceId tool (objectOr (o.get "metadata"))
  have hnamed' := clientActionId_of_metadata clientActionId' r'.serviceId tool' (objectOr (o'.get "metadata"))
  have hmem := Value.mem_of_get (k := "client_action_id") (by rw [hnamed]; rfl)
  rw [hnamed] at hmem
  obtain ⟨w, hw, hdefined, hdata⟩ := Value.mem_of_data_eq hdocuments.data hmem rfl
  rw [← Value.get_of_mem (JsObject.keys_nodup _) hw, hnamed'] at hdefined hdata
  exact Value.SameData.str_eq ⟨hdefined.symm, hdata⟩

end

end Tna.Client
