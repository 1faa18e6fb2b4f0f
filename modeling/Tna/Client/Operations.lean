import Tna.Client.ClientStore

/-!
# The operations of the client store

Every operation that writes, as a label. An operation is a transaction: it leaves what its
statements come to, or what was there. Each statement has a rule for what it answers.
-/

namespace Tna.Client

open Tna.Js Tna.Lib

inductive ClientOp where
  | createTenant (tenantId configurationHash : Text)
  | activateTenant (tenantId : Text) (expectedVersion : Nat)
  | suspendTenant (tenantId : Text) (expectedVersion : Nat) (reason : Text)
  | resumeTenant (tenantId : Text) (expectedVersion : Nat)
  | beginOffboarding (tenantId : Text) (expectedVersion : Nat) (reason : Text)
  | completeOffboarding (tenantId : Text) (expectedVersion : Nat)
  | createServiceIdentity (tenantId serviceId token : Text) (role : ClientServiceRole) (now : Text)
  | rotateCredential (tenantId serviceId : Text) (expectedVersion : Nat) (token : Text)
  | revokeServiceIdentity (tenantId serviceId : Text) (expectedVersion : Nat)
  | registerMcpServer (tenantId serverId : Text) (input : McpServerRegisterInput) (now : Text)
  | setMcpServerStatus (tenantId serverId : Text) (expectedVersion : Nat) (status : McpServerStatus)
  | reconfigureMcpServer (tenantId serverId : Text) (expectedVersion : Nat) (input : McpServerRegisterInput)
  | recordDiscovery (c : DiscoveryContext) (tenantId serverId : Text) (discovered : List DiscoveredMcpTool)
  | enableTool (tenantId toolId : Text) (expectedVersion : Nat) (decision : ToolDecision) (bindingId : Text)
  | disableTool (tenantId toolId : Text) (expectedVersion : Nat)
  | recordClientAction (record : ClientActionRecord)

/-- The statements of an operation. -/
def ClientOp.body (sha256 : Text → Text) : ClientOp → ClientStatement Unit
  | .createTenant tenantId configurationHash => Client.createTenant tenantId configurationHash
  | .activateTenant tenantId expectedVersion => Client.activateTenant tenantId expectedVersion
  | .suspendTenant tenantId expectedVersion reason => Client.suspendTenant tenantId expectedVersion reason
  | .resumeTenant tenantId expectedVersion => Client.resumeTenant tenantId expectedVersion
  | .beginOffboarding tenantId expectedVersion reason => Client.beginOffboarding tenantId expectedVersion reason
  | .completeOffboarding tenantId expectedVersion => Client.completeOffboarding tenantId expectedVersion
  | .createServiceIdentity tenantId serviceId token role now =>
    Client.createServiceIdentity sha256 tenantId serviceId token role now
  | .rotateCredential tenantId serviceId expectedVersion token =>
    Client.rotateCredential sha256 tenantId serviceId expectedVersion token
  | .revokeServiceIdentity tenantId serviceId expectedVersion => Client.revokeServiceIdentity tenantId serviceId expectedVersion
  | .registerMcpServer tenantId serverId input now => Client.registerMcpServer sha256 tenantId serverId input now
  | .setMcpServerStatus tenantId serverId expectedVersion status =>
    Client.setMcpServerStatus tenantId serverId expectedVersion status
  | .reconfigureMcpServer tenantId serverId expectedVersion input =>
    Client.reconfigureMcpServer sha256 tenantId serverId expectedVersion input
  | .recordDiscovery c tenantId serverId discovered => Client.recordDiscovery c tenantId serverId discovered
  | .enableTool tenantId toolId expectedVersion decision bindingId =>
    Client.enableTool tenantId toolId expectedVersion decision bindingId
  | .disableTool tenantId toolId expectedVersion => Client.disableTool tenantId toolId expectedVersion
  | .recordClientAction record => Client.recordClientAction record

/-- An operation was attempted: its transaction committed, or left everything as it was. -/
def ClientOp.Step (sha256 : Text → Text) (s : ClientStore) (op : ClientOp) (t : ClientStore) : Prop :=
  ∃ commits, t = after (tx commits .storage (op.body sha256)) s

section
variable {s t : ClientStore} {sha256 : Text → Text}

variable {op : ClientOp} {r : ClientStore} {row : GovernedToolDefinition} {tenantId toolId serverId serviceId now token : Text}
  {version : Nat} {input : McpServerRegisterInput}

theorem body_or_same (h : op.Step sha256 s t) : op.body sha256 s = .ok () t ∨ t = s := by
  obtain ⟨commits, rfl⟩ := h
  unfold after
  split
  · next u t' hok => exact .inl (body_of_tx hok)
  · next e t' herror => exact .inr (eq_of_tx_error herror)

/-- What an operation leaves when it answers. -/
def ClientOp.next (sha256 : Text → Text) (s : ClientStore) (op : ClientOp) : Option ClientStore :=
  match op.body sha256 s with
  | .ok _ t => some t
  | .error _ _ => none

theorem step_of_body (h : op.body sha256 s = .ok () t) : op.Step sha256 s t := by
  refine ⟨true, ?_⟩
  simp [after, tx, h]

theorem body_of_next (h : op.next sha256 s = some t) : op.body sha256 s = .ok () t := by
  unfold ClientOp.next at h
  split at h
  · next hbody =>
    cases h
    exact hbody
  · cases h

/-! ## Statements -/

variable {u : Unit} {n : Nat}

theorem get_ok : (get : ClientStatement ClientStore) s = .ok r t ↔ r = s ∧ t = s := by
  constructor
  · intro h
    cases h
    exact ⟨rfl, rfl⟩
  · rintro ⟨rfl, rfl⟩
    rfl

theorem pure_ok {α : Type} {a b : α} : (pure a : ClientStatement α) s = .ok b t ↔ b = a ∧ t = s := by
  constructor
  · intro h
    cases h
    exact ⟨rfl, rfl⟩
  · rintro ⟨rfl, rfl⟩
    rfl

theorem set_ok : (set r : ClientStatement PUnit) s = .ok u t ↔ t = r := by
  constructor
  · intro h
    cases h
    rfl
  · rintro rfl
    rfl

theorem updateTenants_ok {selected : ClientTenant → Bool} {change : ClientTenant → ClientTenant} :
    updateTenants selected change s = .ok n t ↔
      n = s.tenants.countP selected ∧ t = { s with tenants := Rows.update selected change s.tenants } := by
  simp only [updateTenants, bind_eq_ok, get_ok, set_ok, pure_ok]
  grind

theorem updateServices_ok {selected : ClientServiceIdentity → Bool} {change : ClientServiceIdentity → ClientServiceIdentity} :
    updateServices selected change s = .ok n t ↔
      n = s.services.countP selected ∧ t = { s with services := Rows.update selected change s.services } := by
  simp only [updateServices, bind_eq_ok, get_ok, set_ok, pure_ok]
  grind

theorem updateServers_ok {selected : McpServerRegistration → Bool} {change : McpServerRegistration → McpServerRegistration} :
    updateServers selected change s = .ok n t ↔
      n = s.servers.countP selected ∧ t = { s with servers := Rows.update selected change s.servers } := by
  simp only [updateServers, bind_eq_ok, get_ok, set_ok, pure_ok]
  grind

theorem updateTools_ok {selected : GovernedToolDefinition → Bool} {change : GovernedToolDefinition → GovernedToolDefinition} :
    updateTools selected change s = .ok n t ↔
      n = s.tools.countP selected ∧ t = { s with tools := Rows.update selected change s.tools } := by
  simp only [updateTools, bind_eq_ok, get_ok, set_ok, pure_ok]
  grind

theorem insertTool_ok :
    insertTool row s = .ok u t ↔ (∀ r ∈ s.tools, r.key ≠ row.key) ∧ t = { s with tools := s.tools ++ [row] } := by
  simp only [insertTool, bind_eq_ok, get_ok, set_ok, demand_eq_ok, List.all_eq_true, decide_eq_true_eq]
  grind

theorem insertTenant_ok {row : ClientTenant} :
    insertTenant row s = .ok u t ↔ (∀ r ∈ s.tenants, r.tenantId ≠ row.tenantId) ∧ t = { s with tenants := s.tenants ++ [row] } := by
  simp only [insertTenant, bind_eq_ok, get_ok, set_ok, demand_eq_ok, List.all_eq_true, decide_eq_true_eq]
  grind

theorem insertService_ok {row : ClientServiceIdentity} (h : insertService row s = .ok u t) :
    (∀ r ∈ s.services, r.serviceId ≠ row.serviceId ∧ r.credentialHash ≠ row.credentialHash) ∧
      t = { s with services := s.services ++ [row] } := by
  simp only [insertService, bind_eq_ok, get_ok, set_ok, demand_eq_ok, List.all_eq_true, Bool.and_eq_true,
    decide_eq_true_eq] at h
  grind

theorem insertServer_ok {row : McpServerRegistration} (h : insertServer row s = .ok u t) :
    t = { s with servers := s.servers ++ [row] } := by
  simp only [insertServer, bind_eq_ok, get_ok, set_ok] at h
  grind

theorem insertBinding_ok {row : ToolPolicyBinding} (h : insertBinding row s = .ok u t) :
    t = { s with bindings := s.bindings ++ [row] } := by
  simp only [insertBinding, bind_eq_ok, get_ok, set_ok] at h
  grind

theorem recordClientAction_ok {row : ClientActionRecord} (h : recordClientAction row s = .ok u t) :
    t = { s with actions := s.actions ++ [row] } := by
  simp only [recordClientAction, bind_eq_ok, get_ok, set_ok] at h
  grind

theorem getTenant_ok {row : ClientTenant} : getTenant tenantId s = .ok row t ↔
    Rows.row ClientTenant.tenantId s.tenants tenantId = some row ∧ t = s := by
  simp only [getTenant, bind_eq_ok, get_ok, demandSome_eq_ok]
  grind

theorem getTool_ok : getTool tenantId toolId s = .ok row t ↔
    Rows.row GovernedToolDefinition.key s.tools (tenantId, toolId) = some row ∧ t = s := by
  simp only [getTool, bind_eq_ok, get_ok, demandSome_eq_ok]
  grind

theorem getMcpServer_ok {row : McpServerRegistration} :
    getMcpServer tenantId serverId s = .ok row t ↔
      Rows.row (fun r : McpServerRegistration => (r.tenantId, r.mcpServerId)) s.servers (tenantId, serverId) = some row ∧ t = s := by
  simp only [getMcpServer, bind_eq_ok, get_ok, demandSome_eq_ok]
  grind

theorem getServiceIdentity_ok {row : ClientServiceIdentity} :
    getServiceIdentity tenantId serviceId s = .ok row t ↔
      Rows.row (fun r : ClientServiceIdentity => (r.tenantId, r.serviceId)) s.services (tenantId, serviceId) = some row ∧ t = s := by
  simp only [getServiceIdentity, bind_eq_ok, get_ok, demandSome_eq_ok]
  grind

/-! ## What an operation does -/

/-- The tenant is being offboarded or was. -/
def ClientTenantStatus.leaving : ClientTenantStatus → Bool
  | .offboarding => true
  | .offboarded => true
  | _ => false

theorem transitionTenant_ok {allowedFrom : List ClientTenantStatus} {target : ClientTenantStatus}
    {reasons : ClientTenant → ClientTenant} (h : transitionTenant tenantId version allowedFrom target reasons s = .ok u t) :
    ∃ current, Rows.row ClientTenant.tenantId s.tenants tenantId = some current ∧ current.stateVersion = version ∧
      current.status ∈ allowedFrom ∧ t = { s with
        tenants := Rows.update (fun r => r.tenantId = tenantId && r.stateVersion = version)
          (fun r => { reasons r with status := target, stateVersion := r.stateVersion + 1 }) s.tenants } := by
  simp only [transitionTenant, bind_eq_ok, getTenant_ok, demand_eq_ok, updateTenants_ok] at h
  obtain ⟨current, _, ⟨hrow, rfl⟩, _, _, ⟨hversion, rfl⟩, _, _, ⟨hallowed, rfl⟩, _, _, ⟨-, rfl⟩, -, rfl⟩ := h
  exact ⟨current, hrow, of_decide_eq_true hversion, by simpa using hallowed, rfl⟩

theorem assertActionEligible2_ok (h : assertActionEligible2 tenantId s = .ok u t) :
    (∃ current, Rows.row ClientTenant.tenantId s.tenants tenantId = some current ∧ current.status.leaving = false) ∧ t = s := by
  simp only [assertActionEligible2, bind_eq_ok, getTenant_ok, demand_eq_ok] at h
  obtain ⟨current, _, ⟨hrow, rfl⟩, heligible, rfl⟩ := h
  refine ⟨⟨current, hrow, ?_⟩, rfl⟩
  revert heligible
  cases current.status <;> simp [ClientTenantStatus.leaving]

theorem beginOffboarding_ok {reason : Text} (h : beginOffboarding tenantId version reason s = .ok u t) :
    (∃ current, Rows.row ClientTenant.tenantId s.tenants tenantId = some current ∧ current.stateVersion = version) ∧
    t = { s with
      tenants := Rows.update (fun r => r.tenantId = tenantId && r.stateVersion = version)
        (fun r => { r with status := .offboarding, stateVersion := r.stateVersion + 1, offboardingReason := some reason }) s.tenants
      services := Rows.update (fun r => r.tenantId = tenantId && !r.revoked)
        (fun r => { r with revoked := true, stateVersion := r.stateVersion + 1 }) s.services
      tools := Rows.update (fun r => r.tenantId = tenantId && r.enabled)
        (fun r => { r with enabled := false, reviewStatus := .disabled, stateVersion := r.stateVersion + 1 }) s.tools
      servers := Rows.update (fun r => r.tenantId = tenantId && r.status ≠ .disabled)
        (fun r => { r with status := .disabled, stateVersion := r.stateVersion + 1 }) s.servers } := by
  unfold beginOffboarding at h
  obtain ⟨_, _, htenant, h⟩ := bind_eq_ok.1 h
  obtain ⟨current, hrow, hversion, -, rfl⟩ := transitionTenant_ok htenant
  simp only [bind_eq_ok, updateServices_ok, updateTools_ok, updateServers_ok, pure_ok] at h
  obtain ⟨_, _, ⟨-, rfl⟩, _, _, ⟨-, rfl⟩, _, _, ⟨-, rfl⟩, -, rfl⟩ := h
  exact ⟨⟨current, hrow, hversion⟩, rfl⟩

theorem createServiceIdentity_ok {role : ClientServiceRole}
    (h : createServiceIdentity sha256 tenantId serviceId token role now s = .ok u t) :
    (∃ current, Rows.row ClientTenant.tenantId s.tenants tenantId = some current ∧ current.status.leaving = false) ∧
      (∀ r ∈ s.services, r.serviceId ≠ serviceId ∧ r.credentialHash ≠ sha256 token) ∧
      t = { s with services := s.services ++ [⟨serviceId, tenantId, false, sha256 token, 0, role, now⟩] } := by
  obtain ⟨_, _, hassert, hinsert⟩ := bind_eq_ok.1 h
  obtain ⟨heligible, rfl⟩ := assertActionEligible2_ok hassert
  obtain ⟨hnew, hinserted⟩ := insertService_ok hinsert
  exact ⟨heligible, hnew, hinserted⟩

theorem rotateCredential_ok (h : rotateCredential sha256 tenantId serviceId version token s = .ok u t) :
    (∃ current, Rows.row (fun r : ClientServiceIdentity => (r.tenantId, r.serviceId)) s.services (tenantId, serviceId) =
        some current ∧ current.stateVersion = version) ∧
    (∀ r ∈ s.services, r.serviceId = serviceId ∨ r.credentialHash ≠ sha256 token) ∧
    t = { s with
      services := Rows.update (fun r => r.tenantId = tenantId && r.serviceId = serviceId && r.stateVersion = version)
        (fun r => { r with credentialHash := sha256 token, stateVersion := r.stateVersion + 1 }) s.services } := by
  simp only [rotateCredential, bind_eq_ok, getServiceIdentity_ok, demand_eq_ok, get_ok, updateServices_ok] at h
  obtain ⟨_, _, ⟨hrow, rfl⟩, _, _, ⟨hversion, rfl⟩, _, _, ⟨-, rfl⟩, _, _, ⟨rfl, rfl⟩, _, _, ⟨hnew, rfl⟩, _, _, ⟨-, rfl⟩, -, rfl⟩ := h
  exact ⟨⟨_, hrow, of_decide_eq_true hversion⟩, by simpa using hnew, rfl⟩

theorem revokeServiceIdentity_ok (h : revokeServiceIdentity tenantId serviceId version s = .ok u t) :
    (∃ current, Rows.row (fun r : ClientServiceIdentity => (r.tenantId, r.serviceId)) s.services (tenantId, serviceId) =
        some current ∧ current.stateVersion = version) ∧
    t = { s with
      services := Rows.update (fun r => r.tenantId = tenantId && r.serviceId = serviceId && r.stateVersion = version)
        (fun r => { r with revoked := true, stateVersion := r.stateVersion + 1 }) s.services } := by
  simp only [revokeServiceIdentity, bind_eq_ok, getServiceIdentity_ok, demand_eq_ok, updateServices_ok] at h
  obtain ⟨_, _, ⟨hrow, rfl⟩, _, _, ⟨hversion, rfl⟩, _, _, ⟨-, rfl⟩, -, rfl⟩ := h
  exact ⟨⟨_, hrow, of_decide_eq_true hversion⟩, rfl⟩

theorem registerMcpServer_ok (h : registerMcpServer sha256 tenantId serverId input now s = .ok u t) :
    (∃ current, Rows.row ClientTenant.tenantId s.tenants tenantId = some current ∧ current.status.leaving = false) ∧
      t = { s with servers := s.servers ++ [⟨serverId, tenantId, .registered, 0, input, input.configHash sha256, now⟩] } := by
  obtain ⟨_, _, hassert, hrest⟩ := bind_eq_ok.1 h
  obtain ⟨heligible, rfl⟩ := assertActionEligible2_ok hassert
  simp only [bind_eq_ok, get_ok, demand_eq_ok] at hrest
  obtain ⟨_, _, ⟨rfl, rfl⟩, _, _, ⟨-, rfl⟩, hinsert⟩ := hrest
  exact ⟨heligible, insertServer_ok hinsert⟩

theorem setMcpServerStatus_ok {status : McpServerStatus} (h : setMcpServerStatus tenantId serverId version status s = .ok u t) :
    s.servers.countP (fun r => r.tenantId = tenantId && r.mcpServerId = serverId && r.stateVersion = version) = 1 ∧
      t = { s with
        servers := Rows.update (fun r => r.tenantId = tenantId && r.mcpServerId = serverId && r.stateVersion = version)
          (fun r => { r with status := status, stateVersion := r.stateVersion + 1 }) s.servers } := by
  simp only [setMcpServerStatus, bind_eq_ok, demand_eq_ok, updateServers_ok] at h
  obtain ⟨_, _, ⟨rfl, rfl⟩, hone, rfl⟩ := h
  exact ⟨of_decide_eq_true hone, rfl⟩

theorem reconfigureMcpServer_ok (h : reconfigureMcpServer sha256 tenantId serverId version input s = .ok u t) :
    s.servers.countP (fun r => r.tenantId = tenantId && r.mcpServerId = serverId && r.stateVersion = version) = 1 ∧
      t = { s with
        servers := Rows.update (fun r => r.tenantId = tenantId && r.mcpServerId = serverId && r.stateVersion = version)
          (fun r => { r with
            status := .registered, stateVersion := r.stateVersion + 1, input := input, configHash := input.configHash sha256 })
          s.servers
        tools := Rows.update (fun r => r.tenantId = tenantId && r.providerId = serverId && r.enabled)
          (fun r => { r with enabled := false, reviewStatus := .policyReviewRequired, stateVersion := r.stateVersion + 1 })
          s.tools } := by
  simp only [reconfigureMcpServer, bind_eq_ok, getMcpServer_ok, demand_eq_ok, updateServers_ok, updateTools_ok, pure_ok] at h
  obtain ⟨_, _, ⟨-, rfl⟩, _, _, ⟨-, rfl⟩, _, _, ⟨rfl, rfl⟩, _, _, ⟨hone, rfl⟩, _, _, ⟨-, rfl⟩, -, rfl⟩ := h
  exact ⟨of_decide_eq_true hone, rfl⟩

theorem enableTool_ok {bindingId : Text} {decision : ToolDecision}
    (h : enableTool tenantId toolId version decision bindingId s = .ok u t) :
    (∃ current ∈ s.tools, current.key = (tenantId, toolId) ∧ current.stateVersion = version ∧ current.reviewStatus ≠ .removed) ∧
      t = { s with
        bindings := s.bindings ++ [decision.binding tenantId toolId bindingId]
        tools := Rows.update (fun r => r.key = (tenantId, toolId) && r.stateVersion = version) decision.apply s.tools } := by
  simp only [enableTool, bind_eq_ok, getTool_ok, demand_eq_ok, updateTools_ok] at h
  obtain ⟨current, _, ⟨hrow, rfl⟩, _, _, ⟨hversion, rfl⟩, _, _, ⟨hstatus, rfl⟩, _, _, hbinding, _, _, ⟨-, rfl⟩, -, rfl⟩ := h
  obtain rfl := insertBinding_ok hbinding
  exact ⟨⟨current, Rows.mem_of_row hrow, Rows.key_of_row hrow, of_decide_eq_true hversion, of_decide_eq_true hstatus⟩, rfl⟩

theorem disableTool_ok (h : disableTool tenantId toolId version s = .ok u t) :
    t = { s with
      tools := Rows.update (fun r => r.key = (tenantId, toolId) && r.stateVersion = version)
        (fun r => { r with enabled := false, reviewStatus := .disabled, stateVersion := r.stateVersion + 1 }) s.tools } := by
  simp only [disableTool, bind_eq_ok, demand_eq_ok, updateTools_ok] at h
  obtain ⟨_, _, ⟨-, rfl⟩, -, rfl⟩ := h
  rfl

end

end Tna.Client
