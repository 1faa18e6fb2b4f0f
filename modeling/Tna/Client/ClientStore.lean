import Tna.Client.Tool
import Tna.Js.Decimal
import Tna.Js.Object
import Tna.Lib.Handler
import Tna.Lib.Rows

/-!
# The client store

Tenants, their service identities, MCP servers and governed tools, and the policy
bindings of the tools. A tool has the flags of the binding it was enabled with; what
disables a tool leaves its flags and its bindings alone.
-/

namespace Tna.Client

open Tna.Js Tna.Lib

/-! ## Tables -/

inductive ClientTenantStatus where
  | pending | active | suspended | offboarding | offboarded
deriving DecidableEq

def ClientTenantStatus.name : ClientTenantStatus → Text
  | .pending => "PENDING"
  | .active => "ACTIVE"
  | .suspended => "SUSPENDED"
  | .offboarding => "OFFBOARDING"
  | .offboarded => "OFFBOARDED"

structure ClientTenant where
  tenantId : Text
  status : ClientTenantStatus
  stateVersion : Nat
  suspendedReason : Option Text
  offboardingReason : Option Text
  configurationHash : Text

inductive ClientServiceRole where
  | agentClient | toolProvider | operator | readOnlyAuditor
deriving DecidableEq

def ClientServiceRole.name : ClientServiceRole → Text
  | .agentClient => "agent-client"
  | .toolProvider => "tool-provider"
  | .operator => "operator"
  | .readOnlyAuditor => "read-only-auditor"

structure ClientServiceIdentity where
  serviceId : Text
  tenantId : Text
  revoked : Bool
  credentialHash : Text
  stateVersion : Nat
  role : ClientServiceRole
  createdAt : Text

inductive McpServerStatus where
  | registered | reachable | unreachable | disabled
deriving DecidableEq

def McpServerStatus.name : McpServerStatus → Text
  | .registered => "REGISTERED"
  | .reachable => "REACHABLE"
  | .unreachable => "UNREACHABLE"
  | .disabled => "DISABLED"

/-- What a server is registered with. Its transport is always `stdio`; the reference to its credential is left out, as
nothing modelled reads it. -/
structure McpServerRegisterInput where
  name : Text
  executable : Text
  args : List Text
  envAllowlist : List Text
deriving DecidableEq

/-- A registration, with the columns of its input. -/
structure McpServerRegistration where
  mcpServerId : Text
  tenantId : Text
  status : McpServerStatus
  stateVersion : Nat
  input : McpServerRegisterInput
  configHash : Text
  createdAt : Text

inductive ApprovalMode where
  | none | humanApproval
deriving DecidableEq

inductive VerificationRequirement where
  | none | vad
deriving DecidableEq

structure ToolPolicyBinding where
  bindingId : Text
  tenantId : Text
  toolId : Text
  policyId : Text
  riskClass : RiskClass
  approvalMode : ApprovalMode
  verificationRequirement : VerificationRequirement
  boundBy : Text

structure ClientActionRecord where
  tenantId : Text
  clientActionId : Text
  serviceId : Text
  mcpServerId : Option Text
  governedToolId : Option Text

/-- The primary key of a tool. -/
def GovernedToolDefinition.key (t : GovernedToolDefinition) : Text × Text := (t.tenantId, t.toolId)

/-- The tables, with their rows in the order they were written. -/
structure ClientStore where
  tenants : List ClientTenant
  services : List ClientServiceIdentity
  servers : List McpServerRegistration
  tools : List GovernedToolDefinition
  bindings : List ToolPolicyBinding
  actions : List ClientActionRecord

def ClientStore.empty : ClientStore := ⟨[], [], [], [], [], []⟩

/-! ## Errors -/

inductive ClientErrorCode where
  | notFound | conflict | tenantNotActive | serviceIdentityRevoked | toolNotEnabled | toolPolicyReviewRequired
deriving DecidableEq

inductive ClientError where
  | client (code : ClientErrorCode) (message : Text)
  /-- An `McpError` with the code `MCP_PROTOCOL_ERROR`. -/
  | mcp (message : Text)
  | http (status : Nat) (message : Text)
  /-- A statement or its transaction failed. -/
  | storage

/-- Two parts of a message, with a dash between them. -/
def dashed (first second : Text) : Text := first ++ [0x20, 0x2014, 0x20] ++ second

def conflict (message : Text) : ClientError := .client .conflict message

/-! ## Statements -/

abbrev ClientStatement (α : Type) := EStateM ClientError ClientStore α

/-- `UPDATE client_tenants`, with the number of rows it changed. -/
def updateTenants (selected : ClientTenant → Bool) (change : ClientTenant → ClientTenant) : ClientStatement Nat := do
  let s ← get
  set { s with tenants := Rows.update selected change s.tenants }
  return s.tenants.countP selected

/-- `UPDATE client_service_identities`. -/
def updateServices (selected : ClientServiceIdentity → Bool) (change : ClientServiceIdentity → ClientServiceIdentity) :
    ClientStatement Nat := do
  let s ← get
  set { s with services := Rows.update selected change s.services }
  return s.services.countP selected

/-- `UPDATE mcp_servers`. -/
def updateServers (selected : McpServerRegistration → Bool) (change : McpServerRegistration → McpServerRegistration) :
    ClientStatement Nat := do
  let s ← get
  set { s with servers := Rows.update selected change s.servers }
  return s.servers.countP selected

/-- `UPDATE governed_tools`. -/
def updateTools (selected : GovernedToolDefinition → Bool) (change : GovernedToolDefinition → GovernedToolDefinition) :
    ClientStatement Nat := do
  let s ← get
  set { s with tools := Rows.update selected change s.tools }
  return s.tools.countP selected

def insertTenant (row : ClientTenant) : ClientStatement Unit := do
  let s ← get
  demand (s.tenants.all fun r => r.tenantId ≠ row.tenantId) .storage
  set { s with tenants := s.tenants ++ [row] }

def insertService (row : ClientServiceIdentity) : ClientStatement Unit := do
  let s ← get
  demand (s.services.all fun r => r.serviceId ≠ row.serviceId && r.credentialHash ≠ row.credentialHash) .storage
  set { s with services := s.services ++ [row] }

def insertServer (row : McpServerRegistration) : ClientStatement Unit := do
  let s ← get
  demand (s.servers.all fun r => r.mcpServerId ≠ row.mcpServerId) .storage
  set { s with servers := s.servers ++ [row] }

def insertTool (row : GovernedToolDefinition) : ClientStatement Unit := do
  let s ← get
  demand (s.tools.all fun r => r.key ≠ row.key) .storage
  set { s with tools := s.tools ++ [row] }

def insertBinding (row : ToolPolicyBinding) : ClientStatement Unit := do
  let s ← get
  demand (s.bindings.all fun r => r.bindingId ≠ row.bindingId) .storage
  set { s with bindings := s.bindings ++ [row] }

def recordClientAction (row : ClientActionRecord) : ClientStatement Unit := do
  let s ← get
  demand (s.actions.all fun r => (r.tenantId, r.clientActionId) ≠ (row.tenantId, row.clientActionId)) .storage
  set { s with actions := s.actions ++ [row] }

def getTenant (tenantId : Text) : ClientStatement ClientTenant := do
  let s ← get
  demandSome (Rows.row ClientTenant.tenantId s.tenants tenantId) (.client .notFound (Text.ofAscii "No tenant " ++ tenantId))

def getServiceIdentity (tenantId serviceId : Text) : ClientStatement ClientServiceIdentity := do
  let s ← get
  demandSome (Rows.row (fun r => (r.tenantId, r.serviceId)) s.services (tenantId, serviceId))
    (.client .notFound (Text.ofAscii "No service identity " ++ serviceId))

def getMcpServer (tenantId serverId : Text) : ClientStatement McpServerRegistration := do
  let s ← get
  demandSome (Rows.row (fun r => (r.tenantId, r.mcpServerId)) s.servers (tenantId, serverId))
    (.client .notFound (Text.ofAscii "No MCP server " ++ serverId))

def getTool (tenantId toolId : Text) : ClientStatement GovernedToolDefinition := do
  let s ← get
  demandSome (Rows.row GovernedToolDefinition.key s.tools (tenantId, toolId))
    (.client .notFound (Text.ofAscii "No governed tool " ++ toolId))

/-! ## Tenants -/

/-- `createTenant`, with the id it draws and the hash of its input. -/
def createTenant (tenantId configurationHash : Text) : ClientStatement Unit :=
  insertTenant ⟨tenantId, .pending, 0, none, none, configurationHash⟩

/-- `transitionTenantInTx`. -/
def transitionTenant (tenantId : Text) (expectedVersion : Nat) (allowedFrom : List ClientTenantStatus)
    (target : ClientTenantStatus) (reasons : ClientTenant → ClientTenant) : ClientStatement Unit := do
  let current ← getTenant tenantId
  demand (current.stateVersion = expectedVersion)
    (conflict (dashed "Tenant state has changed" "retry with the current version"))
  demand (allowedFrom.contains current.status)
    (conflict (Text.ofAscii "Tenant cannot move to " ++ target.name ++ Text.ofAscii " from " ++ current.status.name))
  let changed ← updateTenants (fun r => r.tenantId = tenantId && r.stateVersion = expectedVersion)
    fun r => { reasons r with status := target, stateVersion := r.stateVersion + 1 }
  demand (changed = 1) (conflict "Tenant state changed concurrently")

def activateTenant (tenantId : Text) (expectedVersion : Nat) : ClientStatement Unit :=
  transitionTenant tenantId expectedVersion [.pending] .active fun r => { r with suspendedReason := none }

def suspendTenant (tenantId : Text) (expectedVersion : Nat) (reason : Text) : ClientStatement Unit :=
  transitionTenant tenantId expectedVersion [.active] .suspended fun r => { r with suspendedReason := some reason }

def resumeTenant (tenantId : Text) (expectedVersion : Nat) : ClientStatement Unit :=
  transitionTenant tenantId expectedVersion [.suspended] .active fun r => { r with suspendedReason := none }

def beginOffboarding (tenantId : Text) (expectedVersion : Nat) (reason : Text) : ClientStatement Unit := do
  transitionTenant tenantId expectedVersion [.active, .suspended] .offboarding
    fun r => { r with offboardingReason := some reason }
  let _ ← updateServices (fun r => r.tenantId = tenantId && !r.revoked)
    fun r => { r with revoked := true, stateVersion := r.stateVersion + 1 }
  let _ ← updateTools (fun r => r.tenantId = tenantId && r.enabled)
    fun r => { r with enabled := false, reviewStatus := .disabled, stateVersion := r.stateVersion + 1 }
  let _ ← updateServers (fun r => r.tenantId = tenantId && r.status ≠ .disabled)
    fun r => { r with status := .disabled, stateVersion := r.stateVersion + 1 }

def completeOffboarding (tenantId : Text) (expectedVersion : Nat) : ClientStatement Unit :=
  transitionTenant tenantId expectedVersion [.offboarding] .offboarded id

def assertActionEligible (tenantId : Text) : ClientStatement Unit := do
  let tenant ← getTenant tenantId
  demand (tenant.status = .active)
    (.client .tenantNotActive (Text.ofAscii "Tenant " ++ tenantId ++ Text.ofAscii " is " ++ tenant.status.name ++
      dashed "" "new consequential actions are refused"))

/-- `assertActionEligible2`: a tenant that is still onboarding is eligible too. -/
def assertActionEligible2 (tenantId : Text) : ClientStatement Unit := do
  let tenant ← getTenant tenantId
  demand (tenant.status = .pending || tenant.status = .active)
    (.client .tenantNotActive (Text.ofAscii "Tenant " ++ tenantId ++ Text.ofAscii " is " ++ tenant.status.name ++
      dashed "" "onboarding changes are refused"))

/-! ## Service identities -/

/-- `createServiceIdentity`, with the id and the credential it draws. -/
def createServiceIdentity (sha256 : Text → Text) (tenantId serviceId token : Text) (role : ClientServiceRole) (now : Text) :
    ClientStatement Unit := do
  assertActionEligible2 tenantId
  insertService ⟨serviceId, tenantId, false, sha256 token, 0, role, now⟩

/-- `rotateCredential`, with the credential it draws. -/
def rotateCredential (sha256 : Text → Text) (tenantId serviceId : Text) (expectedVersion : Nat) (token : Text) :
    ClientStatement Unit := do
  let current ← getServiceIdentity tenantId serviceId
  demand (current.stateVersion = expectedVersion)
    (conflict (dashed "Service identity state has changed" "retry with the current version"))
  demand (!current.revoked)
    (.client .serviceIdentityRevoked "Cannot rotate credentials for a revoked service identity")
  let s ← get
  demand (s.services.all fun r => r.serviceId = serviceId || r.credentialHash ≠ sha256 token) .storage
  let changed ← updateServices
    (fun r => r.tenantId = tenantId && r.serviceId = serviceId && r.stateVersion = expectedVersion)
    fun r => { r with credentialHash := sha256 token, stateVersion := r.stateVersion + 1 }
  demand (changed = 1) (conflict "Service identity changed concurrently")

def revokeServiceIdentity (tenantId serviceId : Text) (expectedVersion : Nat) : ClientStatement Unit := do
  let current ← getServiceIdentity tenantId serviceId
  demand (current.stateVersion = expectedVersion)
    (conflict (dashed "Service identity state has changed" "retry with the current version"))
  let changed ← updateServices
    (fun r => r.tenantId = tenantId && r.serviceId = serviceId && r.stateVersion = expectedVersion)
    fun r => { r with revoked := true, stateVersion := r.stateVersion + 1 }
  demand (changed = 1) (conflict "Service identity changed concurrently")

/-- `authenticateService`. -/
def ClientStore.authenticateService (sha256 : Text → Text) (s : ClientStore) (token : Text) : Option ClientServiceIdentity :=
  (Rows.row ClientServiceIdentity.credentialHash s.services (sha256 token)).filter fun r => !r.revoked

/-! ## MCP servers -/

def maxMcpServersPerTenant : Nat := 10

/-- What a server is started with, as it is hashed. -/
def McpServerRegisterInput.configValue (input : McpServerRegisterInput) : Value :=
  .obj [("name", .str input.name), ("transport", .str "stdio"), ("executable", .str input.executable),
    ("args", .arr (input.args.map .str)), ("env_allowlist", .arr (input.envAllowlist.map .str))]

/-- `hashConfig`. -/
def McpServerRegisterInput.configHash (sha256 : Text → Text) (input : McpServerRegisterInput) : Text :=
  sha256 input.configValue.canonical

/-- `registerMcpServer`, with the id it draws. -/
def registerMcpServer (sha256 : Text → Text) (tenantId serverId : Text) (input : McpServerRegisterInput) (now : Text) :
    ClientStatement Unit := do
  assertActionEligible2 tenantId
  let s ← get
  demand (s.servers.countP (fun r => r.tenantId = tenantId) < maxMcpServersPerTenant)
    (.mcp "Tenant already has the maximum of 10 MCP servers registered")
  insertServer ⟨serverId, tenantId, .registered, 0, input, input.configHash sha256, now⟩

def setMcpServerStatus (tenantId serverId : Text) (expectedVersion : Nat) (status : McpServerStatus) :
    ClientStatement Unit := do
  let changed ← updateServers
    (fun r => r.tenantId = tenantId && r.mcpServerId = serverId && r.stateVersion = expectedVersion)
    fun r => { r with status := status, stateVersion := r.stateVersion + 1 }
  demand (changed = 1) (conflict "MCP server state changed concurrently")

/-- `reconfigureMcpServer`: the tools of the server go back into review. -/
def reconfigureMcpServer (sha256 : Text → Text) (tenantId serverId : Text) (expectedVersion : Nat)
    (input : McpServerRegisterInput) : ClientStatement Unit := do
  let current ← getMcpServer tenantId serverId
  demand (current.stateVersion = expectedVersion)
    (conflict (dashed "MCP server state has changed" "retry with the current version"))
  let changed ← updateServers
    (fun r => r.tenantId = tenantId && r.mcpServerId = serverId && r.stateVersion = expectedVersion)
    fun r => { r with
      status := .registered, stateVersion := r.stateVersion + 1, input := input, configHash := input.configHash sha256 }
  demand (changed = 1) (conflict "MCP server changed concurrently")
  let _ ← updateTools (fun r => r.tenantId = tenantId && r.providerId = serverId && r.enabled)
    fun r => { r with enabled := false, reviewStatus := .policyReviewRequired, stateVersion := r.stateVersion + 1 }

/-! ## Discovery -/

def maxToolsPerServer : Nat := 200

/-- A tool a server advertises. -/
structure DiscoveredMcpTool where
  name : Text
  inputSchema : JsValue

/-- What a discovery is given besides the tools: the hash of a schema, the ids it draws, one for each tool, and the time. -/
structure DiscoveryContext where
  schemaHash : JsValue → Text
  newToolId : Nat → Text
  now : Text

/-- The row of an advertised tool that is new. -/
def newTool (c : DiscoveryContext) (tenantId serverId : Text) (tool : DiscoveredMcpTool × Nat) : GovernedToolDefinition where
  tenantId := tenantId
  toolId := c.newToolId tool.2
  providerId := serverId
  externalToolName := tool.1.name
  schemaHash := c.schemaHash tool.1.inputSchema
  riskClass := none
  allowedOperations := []
  resourcePatterns := []
  enabled := false
  requiresHumanApproval := false
  requiresVad := false
  reviewStatus := .discovered
  stateVersion := 0
  inputSchemaJson := tool.1.inputSchema.val.stringify
  createdAt := c.now

/-- The columns written when a schema changed. -/
def GovernedToolDefinition.drifted (r : GovernedToolDefinition) (schemaHash inputSchemaJson : Text) : GovernedToolDefinition :=
  { r with
    inputSchemaJson, schemaHash, enabled := false, reviewStatus := .policyReviewRequired, stateVersion := r.stateVersion + 1 }

/-- The columns written when a tool is gone. -/
def GovernedToolDefinition.gone (r : GovernedToolDefinition) : GovernedToolDefinition :=
  { r with enabled := false, reviewStatus := .removed, stateVersion := r.stateVersion + 1 }

/-- `new Map(existing.map(row => [row.external_tool_name, row])).get(name)`: the last row of a name. -/
def existingByName (existing : List GovernedToolDefinition) (name : Text) : Option GovernedToolDefinition :=
  existing.reverse.find? fun row => row.externalToolName = name

/-- One advertised tool: it is new, or its schema changed, or nothing is done. -/
def discoverTool (c : DiscoveryContext) (tenantId serverId : Text) (existing : List GovernedToolDefinition)
    (tool : DiscoveredMcpTool × Nat) : ClientStatement Unit :=
  let newHash := c.schemaHash tool.1.inputSchema
  match existingByName existing tool.1.name with
  | none => insertTool (newTool c tenantId serverId tool)
  | some row =>
    if row.schemaHash = newHash then return ()
    else do
      let _ ← updateTools (fun r => r.key = (tenantId, row.toolId)) fun r => r.drifted newHash tool.1.inputSchema.val.stringify
      return ()

/-- One known tool: removed when it is no longer advertised. -/
def dropTool (tenantId : Text) (discovered : List DiscoveredMcpTool) (row : GovernedToolDefinition) : ClientStatement Unit :=
  if discovered.any (fun tool => tool.name = row.externalToolName) || row.reviewStatus = .removed then return ()
  else do
    let _ ← updateTools (fun r => r.key = (tenantId, row.toolId)) GovernedToolDefinition.gone
    return ()

/-- One after the other. -/
def forEach {α : Type} (body : α → ClientStatement Unit) : List α → ClientStatement Unit
  | [] => return ()
  | a :: rest => do
    body a
    forEach body rest

def recordDiscovery (c : DiscoveryContext) (tenantId serverId : Text) (discovered : List DiscoveredMcpTool) :
    ClientStatement Unit := do
  demand (discovered.length ≤ maxToolsPerServer)
    (.mcp (Text.ofAscii "MCP server advertised " ++ decimal discovered.length ++
      Text.ofAscii " tools, exceeding the 200 bound"))
  let s ← get
  let existing := s.tools.filter fun r => r.tenantId = tenantId && r.providerId = serverId
  forEach (discoverTool c tenantId serverId existing) discovered.zipIdx
  forEach (dropTool tenantId discovered) existing
  let _ ← updateServers (fun r => r.tenantId = tenantId && r.mcpServerId = serverId)
    fun r => { r with status := .reachable, stateVersion := r.stateVersion + 1 }
  return ()

/-! ## Governed tools -/

/-- What an operator decides when a tool is enabled. -/
structure ToolDecision where
  riskClass : RiskClass
  allowedOperations : List Text
  resourcePatterns : List Text
  requiresHumanApproval : Bool
  requiresVad : Bool
  policyId : Text
  boundBy : Text

def ToolDecision.binding (d : ToolDecision) (tenantId toolId bindingId : Text) : ToolPolicyBinding where
  bindingId := bindingId
  tenantId := tenantId
  toolId := toolId
  policyId := d.policyId
  riskClass := d.riskClass
  approvalMode := if d.requiresHumanApproval then .humanApproval else .none
  verificationRequirement := if d.requiresVad then .vad else .none
  boundBy := d.boundBy

/-- The columns an `enableTool` writes. -/
def ToolDecision.apply (d : ToolDecision) (r : GovernedToolDefinition) : GovernedToolDefinition :=
  { r with
    riskClass := some d.riskClass, allowedOperations := d.allowedOperations, resourcePatterns := d.resourcePatterns
    enabled := true, requiresHumanApproval := d.requiresHumanApproval, requiresVad := d.requiresVad
    reviewStatus := .enabled, stateVersion := r.stateVersion + 1 }

/-- `enableTool`, with the id of the binding it draws. -/
def enableTool (tenantId toolId : Text) (expectedVersion : Nat) (decision : ToolDecision) (bindingId : Text) :
    ClientStatement Unit := do
  let current ← getTool tenantId toolId
  demand (current.stateVersion = expectedVersion)
    (conflict (dashed "Tool state has changed" "retry with the current version"))
  demand (current.reviewStatus ≠ .removed)
    (conflict "This tool is no longer advertised by its MCP server and cannot be enabled")
  insertBinding (decision.binding tenantId toolId bindingId)
  let changed ← updateTools (fun r => r.key = (tenantId, toolId) && r.stateVersion = expectedVersion) decision.apply
  demand (changed = 1) (conflict "Tool changed concurrently")

def disableTool (tenantId toolId : Text) (expectedVersion : Nat) : ClientStatement Unit := do
  let changed ← updateTools (fun r => r.key = (tenantId, toolId) && r.stateVersion = expectedVersion)
    fun r => { r with enabled := false, reviewStatus := .disabled, stateVersion := r.stateVersion + 1 }
  demand (changed = 1) (conflict "Tool changed concurrently")

end Tna.Client
