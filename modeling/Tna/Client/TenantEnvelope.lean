import Mathlib.Data.List.Nodup
import Tna.Client.Tool
import Tna.Gate.Policy

/-!
# The envelope of a tenant

`buildTenantGateEnvelope` pools the resource patterns of all enabled tools into
one list for reading and one for writing. The Gate matches a tool's request
against the pool of its operation, so what a tool may reach is what any tool of
the tenant with the same operation may reach.
-/

namespace Tna.Client

open Tna.Js Tna.Gate

/-- The operation a tool is bound with: `write` when it may write at all. -/
def toolOperation (tool : GovernedToolDefinition) : Operation :=
  if Text.ofAscii "write" ∈ tool.allowedOperations then .write else .read

def toolOutcome (tool : GovernedToolDefinition) : Text := Text.ofAscii "invoke " ++ toolPlatformId tool.toolId

def toolBinding (tool : GovernedToolDefinition) : ActionBinding where
  action := executeAction tool.toolId
  outcome := toolOutcome tool
  tool := toolPlatformId tool.toolId
  resourceKind := .files
  operation := toolOperation tool
  destinationRequired := false

/-- The patterns of all the tools bound with an operation. -/
def pooledPatterns (tools : List GovernedToolDefinition) (op : Operation) : List Text :=
  (tools.filter fun tool => toolOperation tool = op).flatMap GovernedToolDefinition.resourcePatterns

/-- `buildTenantGateEnvelope`, at the time `now`. -/
def buildTenantGateEnvelope (agentId tenantId : Text) (enabledTools : List GovernedToolDefinition) (now : Nat) :
    Envelope where
  agent :=
    { id := agentId
      name := agentId
      role := "client-service-identity"
      owner := tenantId
      environment := "client-integration"
      expiresAt := now + 3600000 }
  objective :=
    { taskId := Text.ofAscii "client-gateway-" ++ tenantId
      goal := "Execute governed MCP tool calls on behalf of a TNA client tenant"
      allowedOutcomes := enabledTools.map toolOutcome
      forbiddenOutcomes := [] }
  resources :=
    { repositories := .none
      files := ⟨pooledPatterns enabledTools .read, pooledPatterns enabledTools .write⟩
      databases := .none
      infrastructure := .none }
  tools := ⟨enabledTools.map fun tool => toolPlatformId tool.toolId, []⟩
  network := ⟨[], ["*"]⟩
  communicateWith := []
  limits :=
    { maxRuntimeSeconds := 600
      maxToolCalls := 1000
      maxExternalRequests := 0
      maxCost := 1000000000
      maxRetriesPerAction := 20 }
  approvalsRequiredFor := []
  actionBindings := enabledTools.map toolBinding

/-- The enabled tools of a tenant: no two have one id, and every id is one that
the envelope schema lets through in an action binding. -/
structure TenantTools where
  tools : List GovernedToolDefinition
  distinct : (tools.map GovernedToolDefinition.toolId).Nodup
  ids : ∀ tool ∈ tools, isId (executeAction tool.toolId) = true

section
variable {agentId tenantId : Text} {tools : TenantTools} {now : Nat}

/-- A tool is known by its id. -/
theorem TenantTools.eq_of_toolId {a b : GovernedToolDefinition} (ha : a ∈ tools.tools) (hb : b ∈ tools.tools)
    (h : a.toolId = b.toolId) : a = b :=
  List.inj_on_of_nodup_map tools.distinct ha hb h

variable {tool : GovernedToolDefinition} {resource : Text} {context : PolicyContext} {request : AuthorizationRequest}

/-- The binding an action finds is that of the tool it names. -/
theorem find_binding (hmem : tool ∈ tools.tools) :
    (buildTenantGateEnvelope agentId tenantId tools.tools now).actionBindings.find?
      (fun b => b.action = executeAction tool.toolId) = some (toolBinding tool) := by
  have hsome : ((buildTenantGateEnvelope agentId tenantId tools.tools now).actionBindings.find?
      (fun b => b.action = executeAction tool.toolId)).isSome = true := by
    rw [List.find?_isSome]
    exact ⟨toolBinding tool, List.mem_map_of_mem hmem, by simp [toolBinding]⟩
  obtain ⟨b, hb⟩ := Option.isSome_iff_exists.1 hsome
  have haction := List.find?_some hb
  obtain ⟨other, hother, rfl⟩ := List.mem_map.1 (List.mem_of_find?_eq_some hb)
  have hid : other.toolId = tool.toolId := executeAction_inj (of_decide_eq_true haction)
  rw [hb, tools.eq_of_toolId hother hmem hid]

theorem matchesResource_pooled {ts : List GovernedToolDefinition} {op : Operation} :
    matchesResource resource (pooledPatterns ts op) true = true ↔
      ∃ tool ∈ ts, toolOperation tool = op ∧ matchesResource resource tool.resourcePatterns true = true := by
  simp only [matchesResource, pooledPatterns, Bool.not_true, Bool.false_or, Bool.and_eq_true, List.any_flatMap,
    List.any_eq_true, List.mem_filter, decide_eq_true_eq]
  constructor
  · rintro ⟨hfile, tool, ⟨hmem, hop⟩, hany⟩
    exact ⟨tool, hmem, hop, hfile, hany⟩
  · rintro ⟨tool, hmem, hop, hfile, hany⟩
    exact ⟨hfile, tool, ⟨hmem, hop⟩, hany⟩

theorem toolOperation_cases (tool : GovernedToolDefinition) : toolOperation tool = .read ∨ toolOperation tool = .write := by
  unfold toolOperation
  split
  · exact .inr rfl
  · exact .inl rfl

/-- A tool's binding is satisfied exactly by what the pool of its operation matches. -/
theorem resourceVerdict_tool (tool : GovernedToolDefinition) :
    resourceVerdict request (buildTenantGateEnvelope agentId tenantId tools.tools now) context (toolBinding tool) = none ↔
      matchesResource request.resource (pooledPatterns tools.tools (toolOperation tool)) true = true := by
  rcases toolOperation_cases tool with hop | hop
  · simp [resourceVerdict, toolBinding, hop, buildTenantGateEnvelope, Resources.of]
  · simp [resourceVerdict, toolBinding, hop, buildTenantGateEnvelope, Resources.of]

/-! ## Whose patterns authorize a tool -/

/-- An `ALLOW` for a tool means some tool with its operation matches the resource. -/
theorem pooled_of_allow (hmem : tool ∈ tools.tools) (htool : request.tool = toolPlatformId tool.toolId)
    (h : (evaluate request (some (buildTenantGateEnvelope agentId tenantId tools.tools now)) context).decision = .allow) :
    matchesResource request.resource (pooledPatterns tools.tools (toolOperation tool)) true = true := by
  obtain ⟨binding, hfind, hbt, hres, -⟩ := evaluate_allow h
  obtain ⟨other, hother, rfl⟩ := List.mem_map.1 (List.mem_of_find?_eq_some hfind)
  have hid : other.toolId = tool.toolId := toolPlatformId_inj (hbt.trans htool)
  rw [tools.eq_of_toolId hother hmem hid] at hres
  exact (resourceVerdict_tool tool).1 hres

/-- The request of a tool for a resource, and the context of its first use. -/
def toolRequest (agentId : Text) (hagent : isId agentId = true) (tools : TenantTools) (tool : GovernedToolDefinition)
    (hmem : tool ∈ tools.tools) (resource : Text) (hres : isLabel resource = true) : AuthorizationRequest where
  agentId := agentId
  action := executeAction tool.toolId
  tool := toolPlatformId tool.toolId
  resource := resource
  destination := none
  estimatedCost := 0
  approvalId := none
  agentId_id := hagent
  action_id := tools.ids tool hmem
  tool_id := isId_toolPlatformId (tools.ids tool hmem)
  resource_label := hres

def firstUse (now : Nat) : PolicyContext := ⟨now, false, emptyUsage, false, []⟩

/-- On its first use a tool is allowed every resource the pool of its operation matches. -/
theorem evaluate_toolRequest {hagent : isId agentId = true} {hmem : tool ∈ tools.tools} {hres : isLabel resource = true}
    (h : matchesResource resource (pooledPatterns tools.tools (toolOperation tool)) true = true) :
    (evaluate (toolRequest agentId hagent tools tool hmem resource hres)
      (some (buildTenantGateEnvelope agentId tenantId tools.tools now)) (firstUse now)).decision = .allow := by
  have hverdict := evaluate_local (toolRequest agentId hagent tools tool hmem resource hres)
    (buildTenantGateEnvelope agentId tenantId tools.tools now) (firstUse now) rfl rfl
    (show now < now + 3600000 by omega) (find_binding hmem) rfl (List.mem_map_of_mem hmem) List.not_mem_nil
    ((resourceVerdict_tool tool).2 h) rfl rfl
  rw [hverdict]
  rfl

/-- No tool can reach through another: what the patterns of one tool match, the
patterns of every tool bound with the same operation match too. -/
def SamePatterns (tools : List GovernedToolDefinition) : Prop :=
  ∀ tool ∈ tools, ∀ other ∈ tools, toolOperation other = toolOperation tool → ∀ resource, isLabel resource = true →
    matchesResource resource other.resourcePatterns true = true →
    matchesResource resource tool.resourcePatterns true = true

/-- **Own patterns.** Every tool the Gate allows is allowed by a pattern of its own
exactly when tools bound with one operation reach the same resources. -/
theorem evaluate_own_patterns_iff (agentId : { t : Text // isId t = true }) (tenantId : Text) (tools : TenantTools)
    (now : Nat) :
    (∀ (request : AuthorizationRequest) (context : PolicyContext) (tool : GovernedToolDefinition), tool ∈ tools.tools →
      request.tool = toolPlatformId tool.toolId →
      (evaluate request (some (buildTenantGateEnvelope agentId.1 tenantId tools.tools now)) context).decision = .allow →
      matchesResource request.resource tool.resourcePatterns true = true) ↔ SamePatterns tools.tools := by
  constructor
  · intro h tool hmem other hother hop resource hres hmatch
    refine h (toolRequest agentId.1 agentId.2 tools tool hmem resource hres) (firstUse now) tool hmem rfl ?_
    exact evaluate_toolRequest (matchesResource_pooled.2 ⟨other, hother, hop, hmatch⟩)
  · intro h request context tool hmem htool hallow
    obtain ⟨other, hother, hop, hmatch⟩ := matchesResource_pooled.1 (pooled_of_allow hmem htool hallow)
    exact h tool hmem other hother hop request.resource request.resource_label hmatch

end

/-- A read-only tool with one pattern. -/
def sampleTool (toolId pattern : Text) : GovernedToolDefinition where
  tenantId := "t"
  toolId := toolId
  providerId := "mcps_1"
  externalToolName := "read_file"
  schemaHash := "h"
  riskClass := some .low
  allowedOperations := ["read"]
  resourcePatterns := [pattern]
  enabled := true
  requiresHumanApproval := false
  requiresVad := false
  reviewStatus := .enabled
  stateVersion := 1
  inputSchemaJson := "\x7b\x7d"
  createdAt := ""

def samplePair : TenantTools where
  tools := [sampleTool "gt_a" "/a/**", sampleTool "gt_b" "/b/**"]
  distinct := by decide
  ids := by decide

/-- Of two tools that read, the one bound to `/a` is allowed a file under `/b`. -/
theorem evaluate_other_tools_pattern :
    ¬ ∀ (agentId : { t : Text // isId t = true }) (tenantId : Text) (tools : TenantTools) (now : Nat)
      (request : AuthorizationRequest) (context : PolicyContext) (tool : GovernedToolDefinition), tool ∈ tools.tools →
      request.tool = toolPlatformId tool.toolId →
      (evaluate request (some (buildTenantGateEnvelope agentId.1 tenantId tools.tools now)) context).decision = .allow →
      matchesResource request.resource tool.resourcePatterns true = true := by
  intro h
  have hmem : sampleTool "gt_a" "/a/**" ∈ samplePair.tools := List.mem_cons_self ..
  have hown := h ⟨"svc_1", by decide⟩ "t" samplePair 0
    (toolRequest "svc_1" (by decide) samplePair (sampleTool "gt_a" "/a/**") hmem "/b/secret" (by decide)) (firstUse 0)
    (sampleTool "gt_a" "/a/**") hmem rfl (evaluate_toolRequest (by decide +kernel))
  have hnot : matchesResource "/b/secret" ["/a/**"] true = false := by decide
  exact absurd (hown.symm.trans hnot) (by decide)

end Tna.Client
