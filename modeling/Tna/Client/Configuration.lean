import Tna.Client.Ghost
import Tna.Js.Sorted

/-!
# The configuration an action is recorded with

An action is recorded with a hash of its tenant's integration: the service identities, the
servers and the tools, each as a few of its columns. What the hash tells is what these
columns tell. The listings are sorted by creation time, and neither that nor the order in
which rows of one time come ever changes, so a configuration hashes as it did before.
-/

namespace Tna.Client

open Tna.Js Tna.Lib

/-! ## Listings -/

/-- `ORDER BY created_at, service_id`. -/
def serviceLe (a b : ClientServiceIdentity) : Prop :=
  a.createdAt < b.createdAt ∨ a.createdAt = b.createdAt ∧ a.serviceId ≤ b.serviceId

instance : DecidableRel serviceLe := fun a b => by unfold serviceLe; infer_instance

/-- `ORDER BY created_at`: the index of the tenant has servers of one time in the order they were written. -/
def serverLe (a b : McpServerRegistration) : Prop := a.createdAt ≤ b.createdAt

instance : DecidableRel serverLe := fun a b => inferInstanceAs (Decidable (a.createdAt ≤ b.createdAt))

/-- What the tools of a tenant are read through: the table, or one of its two indices. -/
inductive ToolScan where
  | table | primaryKey | provider

/-- The order it has, up to the order in which rows were written. -/
def ToolScan.le : ToolScan → GovernedToolDefinition → GovernedToolDefinition → Prop
  | .table, _, _ => True
  | .primaryKey, a, b => a.toolId ≤ b.toolId
  | .provider, a, b => a.providerId ≤ b.providerId

instance (scan : ToolScan) : DecidableRel scan.le := fun a b => by cases scan <;> unfold ToolScan.le <;> infer_instance

/-- `ORDER BY created_at`, with the tools of one time as they are read. -/
def toolLe (scan : ToolScan) (a b : GovernedToolDefinition) : Prop :=
  a.createdAt < b.createdAt ∨ a.createdAt = b.createdAt ∧ scan.le a b

instance (scan : ToolScan) : DecidableRel (toolLe scan) := fun a b => by unfold toolLe; infer_instance

def ClientStore.servicesOf (s : ClientStore) (tenantId : Text) : List ClientServiceIdentity :=
  s.services.filter fun r => r.tenantId = tenantId

def ClientStore.serversOf (s : ClientStore) (tenantId : Text) : List McpServerRegistration :=
  s.servers.filter fun r => r.tenantId = tenantId

def ClientStore.toolsOf (s : ClientStore) (tenantId : Text) : List GovernedToolDefinition :=
  s.tools.filter fun r => r.tenantId = tenantId

/-- `listServiceIdentities`: its first page. -/
def ClientStore.listServiceIdentities (s : ClientStore) (tenantId : Text) (limit : Nat) : List ClientServiceIdentity :=
  ((s.servicesOf tenantId).insertionSort serviceLe).take limit

def ClientStore.listMcpServers (s : ClientStore) (tenantId : Text) : List McpServerRegistration :=
  (s.serversOf tenantId).insertionSort serverLe

/-- `listTools`, of all servers. -/
def ClientStore.listTools (s : ClientStore) (scan : ToolScan) (tenantId : Text) : List GovernedToolDefinition :=
  (s.toolsOf tenantId).insertionSort (toolLe scan)

/-! ## The hash -/

def ClientServiceIdentity.snapshot (r : ClientServiceIdentity) : Value :=
  .obj [("service_id", .str r.serviceId), ("role", .str r.role.name),
    ("status", .str (if r.revoked then "REVOKED" else "ACTIVE"))]

def McpServerRegistration.snapshot (r : McpServerRegistration) : Value :=
  .obj [("mcp_server_id", .str r.mcpServerId), ("config_hash", .str r.configHash), ("status", .str r.status.name)]

/-- A risk class, or `null`. -/
def riskValue (c : Option RiskClass) : Value := c.elim .null fun c => .str c.name

def GovernedToolDefinition.snapshot (r : GovernedToolDefinition) : Value :=
  .obj [("tool_id", .str r.toolId), ("enabled", .bool r.enabled), ("schema_hash", .str r.schemaHash),
    ("risk_class", riskValue r.riskClass), ("review_status", .str r.reviewStatus.name)]

/-- How many service identities a snapshot has at most. -/
def snapshotLimit : Nat := 200

/-- What is hashed. -/
def ClientStore.integrationSnapshot (s : ClientStore) (scan : ToolScan) (tenantId configurationHash : Text) : Value :=
  .obj [("tenant_id", .str tenantId), ("tenant_config_hash", .str configurationHash),
    ("services", .arr ((s.listServiceIdentities tenantId snapshotLimit).map ClientServiceIdentity.snapshot)),
    ("servers", .arr ((s.listMcpServers tenantId).map McpServerRegistration.snapshot)),
    ("tools", .arr ((s.listTools scan tenantId).map GovernedToolDefinition.snapshot))]

def computeIntegrationConfigHash (sha256 : Text → Text) (scan : ToolScan) (tenantId : Text) : ClientStatement Text := do
  let tenant ← getTenant tenantId
  let s ← get
  return sha256 (s.integrationSnapshot scan tenantId tenant.configurationHash).canonical

/-- `hashSchema`. -/
def hashSchema (sha256 : Text → Text) (schema : JsValue) : Text := sha256 schema.val.canonical

/-! ## The configuration -/

structure ServiceConfiguration where
  serviceId : Text
  role : ClientServiceRole
  revoked : Bool

def ClientServiceIdentity.configuration (r : ClientServiceIdentity) : ServiceConfiguration := ⟨r.serviceId, r.role, r.revoked⟩

structure ServerConfiguration where
  mcpServerId : Text
  input : McpServerRegisterInput
  status : McpServerStatus

def McpServerRegistration.configuration (r : McpServerRegistration) : ServerConfiguration := ⟨r.mcpServerId, r.input, r.status⟩

/-- The schema of a tool as it is read back, whatever the order of its properties. -/
def GovernedToolDefinition.schema (r : GovernedToolDefinition) : Option Text := (parse r.inputSchemaJson).map Value.canonical

structure ToolConfiguration where
  toolId : Text
  enabled : Bool
  schema : Option Text
  riskClass : Option RiskClass
  reviewStatus : ToolReviewStatus

def GovernedToolDefinition.configuration (r : GovernedToolDefinition) : ToolConfiguration :=
  ⟨r.toolId, r.enabled, r.schema, r.riskClass, r.reviewStatus⟩

/-- Two states of a tenant in which the integration is configured alike. -/
structure SameConfiguration (tenantId : Text) (s t : ClientStore) : Prop where
  services : ∀ c, c ∈ (s.servicesOf tenantId).map ClientServiceIdentity.configuration ↔
    c ∈ (t.servicesOf tenantId).map ClientServiceIdentity.configuration
  servers : ∀ c, c ∈ (s.serversOf tenantId).map McpServerRegistration.configuration ↔
    c ∈ (t.serversOf tenantId).map McpServerRegistration.configuration
  tools : ∀ c, c ∈ (s.toolsOf tenantId).map GovernedToolDefinition.configuration ↔
    c ∈ (t.toolsOf tenantId).map GovernedToolDefinition.configuration

/-! ## What never changes -/

/-- Schemas are hashed with `hashSchema`, as the gateway does. -/
def ClientOp.hashesSchemas (sha256 : Text → Text) : ClientOp → Prop
  | .recordDiscovery c _ _ _ => c.schemaHash = hashSchema sha256
  | _ => True

def HashedStep (sha256 : Text → Text) (s : ClientStore) (op : ClientOp) (t : ClientStore) : Prop :=
  op.Step sha256 s t ∧ op.hashesSchemas sha256

def ClientTenant.fixed (r : ClientTenant) : Text × Text := (r.tenantId, r.configurationHash)

def ClientServiceIdentity.fixed (r : ClientServiceIdentity) : Text × Text × Text := (r.serviceId, r.tenantId, r.createdAt)

def McpServerRegistration.fixed (r : McpServerRegistration) : Text × Text × Text := (r.mcpServerId, r.tenantId, r.createdAt)

def GovernedToolDefinition.fixed (r : GovernedToolDefinition) : (Text × Text) × Text × Text := (r.key, r.providerId, r.createdAt)

/-- The hash of a server is that of what it is registered with. -/
def McpServerRegistration.Hashed (sha256 : Text → Text) (r : McpServerRegistration) : Prop :=
  r.configHash = r.input.configHash sha256

/-- The hash of a tool is that of its schema. -/
def GovernedToolDefinition.Hashed (sha256 : Text → Text) (r : GovernedToolDefinition) : Prop :=
  ∃ schema, r.schema = some schema ∧ r.schemaHash = sha256 schema

/-- What a history does to the tables. -/
structure Grows (sha256 : Text → Text) (s t : ClientStore) : Prop where
  tenants : Rows.Grown ClientTenant.fixed (fun _ => True) s.tenants t.tenants
  services : Rows.Grown ClientServiceIdentity.fixed (fun _ => True) s.services t.services
  servers : Rows.Grown McpServerRegistration.fixed (McpServerRegistration.Hashed sha256) s.servers t.servers
  tools : Rows.Grown GovernedToolDefinition.fixed (GovernedToolDefinition.Hashed sha256) s.tools t.tools

section
variable {sha256 : Text → Text} {s t u : ClientStore} {op : ClientOp}

theorem Grows.refl (s : ClientStore) : Grows sha256 s s := ⟨.same, .same, .same, .same⟩

theorem Grows.trans (h : Grows sha256 s t) (h' : Grows sha256 t u) : Grows sha256 s u :=
  ⟨h.tenants.trans h'.tenants, h.services.trans h'.services, h.servers.trans h'.servers, h.tools.trans h'.tools⟩

variable {r r' : GovernedToolDefinition} {c : DiscoveryContext} {serverId : Text} {discovered : List DiscoveredMcpTool}
  {input : McpServerRegisterInput} {ops : List ClientOp} {V : Type} {rows : List V} {snapshot : V → Value}

/-- Columns of a tool that are no matter of its schema. -/
theorem hashed_of_columns (hschema : r'.inputSchemaJson = r.inputSchemaJson) (hhash : r'.schemaHash = r.schemaHash)
    (h : r.Hashed sha256) : r'.Hashed sha256 := by
  obtain ⟨schema, hread, hhashed⟩ := h
  exact ⟨schema, by rw [GovernedToolDefinition.schema, hschema]; exact hread, hhash.trans hhashed⟩

/-- A schema that is written with its hash. -/
theorem hashed_of_schema {schema : JsValue} (hschema : r.inputSchemaJson = schema.val.stringify)
    (hhash : r.schemaHash = hashSchema sha256 schema) : r.Hashed sha256 := by
  refine ⟨schema.val.canonical, ?_, hhash⟩
  rw [GovernedToolDefinition.schema, hschema, parse_stringify schema.distinct, Option.map_some, Value.canonical_normal]

theorem grown_of_discovery (hc : c.schemaHash = hashSchema sha256) {tenantId : Text}
    (hok : recordDiscovery c tenantId serverId discovered s = .ok () t) :
    Rows.Grown GovernedToolDefinition.fixed (GovernedToolDefinition.Hashed sha256) s.tools t.tools := by
  let I : ClientStore → Prop := fun u =>
    Rows.Grown GovernedToolDefinition.fixed (GovernedToolDefinition.Hashed sha256) s.tools u.tools
  refine keeps_of_discovery (I := I) hok (fun u v tool hins hu => ?_) (fun u _ schema hu => ?_) (fun u _ hu => ?_)
    (fun _ _ hu => hu) .same
  · obtain ⟨hnew, rfl⟩ := insertTool_ok.1 hins
    exact .added hu hnew (hashed_of_schema rfl (congrFun hc _))
  · exact .updated hu _ (fun _ => rfl) fun _ _ => hashed_of_schema rfl (congrFun hc _)
  · exact .updated hu _ (fun _ => rfl) fun _ => hashed_of_columns rfl rfl

/-- The id of a server that is registered is new. -/
theorem new_of_registerMcpServer {tenantId now : Text} (h : registerMcpServer sha256 tenantId serverId input now s = .ok () t) :
    ∀ r ∈ s.servers, r.mcpServerId ≠ serverId := by
  simp only [registerMcpServer, bind_eq_ok, get_ok, demand_eq_ok, insertServer] at h
  obtain ⟨_, _, hassert, _, _, ⟨rfl, rfl⟩, _, _, ⟨-, rfl⟩, _, _, ⟨rfl, rfl⟩, _, _, ⟨hnew, -⟩, -⟩ := h
  obtain ⟨-, rfl⟩ := assertActionEligible2_ok hassert
  simpa using hnew

/-- **Every operation lets the tables grow.** -/
theorem grows_of_body (hok : op.body sha256 s = .ok () t) (hhashes : op.hashesSchemas sha256) : Grows sha256 s t := by
  cases op with
  | createTenant =>
    obtain ⟨hnew, rfl⟩ := insertTenant_ok.1 hok
    exact ⟨.added .same hnew trivial, .same, .same, .same⟩
  | activateTenant | suspendTenant | resumeTenant | completeOffboarding =>
    obtain ⟨-, -, -, -, rfl⟩ := transitionTenant_ok hok
    exact ⟨.updated .same _ (fun _ => rfl) fun _ _ => trivial, .same, .same, .same⟩
  | beginOffboarding =>
    obtain ⟨-, rfl⟩ := beginOffboarding_ok hok
    exact ⟨.updated .same _ (fun _ => rfl) fun _ _ => trivial, .updated .same _ (fun _ => rfl) fun _ _ => trivial,
      .updated .same _ (fun _ => rfl) fun _ h => h, .updated .same _ (fun _ => rfl) fun _ => hashed_of_columns rfl rfl⟩
  | createServiceIdentity =>
    obtain ⟨-, hnew, rfl⟩ := createServiceIdentity_ok hok
    exact ⟨.same, .added .same (fun r hr => (hnew r hr).1) trivial, .same, .same⟩
  | rotateCredential =>
    obtain ⟨-, -, rfl⟩ := rotateCredential_ok hok
    exact ⟨.same, .updated .same _ (fun _ => rfl) fun _ _ => trivial, .same, .same⟩
  | revokeServiceIdentity =>
    obtain ⟨-, rfl⟩ := revokeServiceIdentity_ok hok
    exact ⟨.same, .updated .same _ (fun _ => rfl) fun _ _ => trivial, .same, .same⟩
  | registerMcpServer =>
    have hnew := new_of_registerMcpServer hok
    obtain ⟨-, rfl⟩ := registerMcpServer_ok hok
    exact ⟨.same, .same, .added .same hnew rfl, .same⟩
  | setMcpServerStatus =>
    obtain ⟨-, rfl⟩ := setMcpServerStatus_ok hok
    exact ⟨.same, .same, .updated .same _ (fun _ => rfl) fun _ h => h, .same⟩
  | reconfigureMcpServer =>
    obtain ⟨-, rfl⟩ := reconfigureMcpServer_ok hok
    exact ⟨.same, .same, .updated .same _ (fun _ => rfl) fun _ _ => rfl,
      .updated .same _ (fun _ => rfl) fun _ => hashed_of_columns rfl rfl⟩
  | recordDiscovery =>
    have htools := grown_of_discovery hhashes hok
    obtain ⟨rfl, -⟩ := recordDiscovery_ok hok
    exact ⟨.same, .same, .updated .same _ (fun _ => rfl) fun _ h => h, htools⟩
  | enableTool =>
    obtain ⟨-, rfl⟩ := enableTool_ok hok
    exact ⟨.same, .same, .same, .updated .same _ (fun _ => rfl) fun _ => hashed_of_columns rfl rfl⟩
  | disableTool =>
    obtain rfl := disableTool_ok hok
    exact ⟨.same, .same, .same, .updated .same _ (fun _ => rfl) fun _ => hashed_of_columns rfl rfl⟩
  | recordClientAction =>
    obtain rfl := recordClientAction_ok hok
    exact ⟨.same, .same, .same, .same⟩

theorem grows_of_step (h : HashedStep sha256 s op t) : Grows sha256 s t := by
  obtain ⟨hstep, hhashes⟩ := h
  rcases body_or_same hstep with hok | rfl
  · exact grows_of_body hok hhashes
  · exact Grows.refl _

/-- **Every history lets the tables grow.** -/
theorem grows_of_run (h : Run (HashedStep sha256) s ops t) : Grows sha256 s t :=
  h.invariant (I := Grows sha256 s) (fun _ _ _ hstep hs => hs.trans (grows_of_step hstep)) (Grows.refl s)

/-- What holds of the tables of every state. -/
structure Hashed (sha256 : Text → Text) (s : ClientStore) : Prop where
  services : (s.services.map fun r => r.fixed.1).Nodup
  servers : (s.servers.map fun r => r.fixed.1).Nodup
  tools : (s.tools.map fun r => r.fixed.1).Nodup
  serverHash : ∀ r ∈ s.servers, r.Hashed sha256
  toolHash : ∀ r ∈ s.tools, r.Hashed sha256

theorem hashed_of_run (h : Run (HashedStep sha256) .empty ops s) : Hashed sha256 s := by
  have hgrows := grows_of_run h
  exact ⟨hgrows.services.nodup List.nodup_nil, hgrows.servers.nodup List.nodup_nil, hgrows.tools.nodup List.nodup_nil,
    hgrows.servers.holds (List.forall_mem_nil _), hgrows.tools.holds (List.forall_mem_nil _)⟩

/-! ## What the hash tells -/

theorem ClientServiceRole.name_inj {a b : ClientServiceRole} (h : a.name = b.name) : a = b := by
  revert h
  cases a <;> cases b <;> decide

theorem McpServerStatus.name_inj {a b : McpServerStatus} (h : a.name = b.name) : a = b := by
  revert h
  cases a <;> cases b <;> decide

theorem ToolReviewStatus.name_inj {a b : ToolReviewStatus} (h : a.name = b.name) : a = b := by
  revert h
  cases a <;> cases b <;> decide

theorem RiskClass.name_inj {a b : RiskClass} (h : a.name = b.name) : a = b := by
  revert h
  cases a <;> cases b <;> decide

theorem riskValue_inj {a b : Option RiskClass} (h : Value.SameData (riskValue a) (riskValue b)) : a = b := by
  have hdata := h.data
  cases a with
  | none =>
    cases b with
    | none => rfl
    | some b => cases hdata
  | some a =>
    cases b with
    | none => cases hdata
    | some b => rw [RiskClass.name_inj h.str_eq]

/-- Arrays of texts with one canonical form. -/
theorem texts_eq_of_sameData {l l' : List Text} (h : Value.SameData (.arr (l.map .str)) (.arr (l'.map .str))) : l = l' := by
  have hdata := h.data
  rw [Value.data_arr, Value.data_arr, Value.arr.injEq, List.map_map, List.map_map] at hdata
  exact List.map_injective_iff.2 (fun _ _ => Value.str.inj) hdata

theorem distinct_rows (h : ∀ r, (snapshot r).distinct = true) : (Value.arr (rows.map snapshot)).distinct = true := by
  refine Value.distinctItems_iff.2 fun v hv => ?_
  obtain ⟨r, -, rfl⟩ := List.mem_map.1 hv
  exact h r

theorem distinct_configValue (input : McpServerRegisterInput) : input.configValue.distinct = true := by
  rw [McpServerRegisterInput.configValue, Value.distinct, Bool.and_eq_true]
  refine ⟨rfl, ?_⟩
  simp only [Value.distinctFields, Bool.and_eq_true]
  exact ⟨rfl, rfl, rfl, distinct_rows fun _ => rfl, distinct_rows fun _ => rfl, trivial⟩

theorem configHash_inj (hsha : Function.Injective sha256) {input' : McpServerRegisterInput}
    (h : input.configHash sha256 = input'.configHash sha256) : input = input' := by
  have hfields := Value.sameData_of_canonical (distinct_configValue input) (distinct_configValue input') (hsha h)
  obtain ⟨name, executable, args, env⟩ := input
  obtain ⟨name', executable', args', env'⟩ := input'
  obtain rfl : name = name' := (hfields "name").str_eq
  obtain rfl : executable = executable' := (hfields "executable").str_eq
  obtain rfl : args = args' := texts_eq_of_sameData (hfields "args")
  obtain rfl : env = env' := texts_eq_of_sameData (hfields "env_allowlist")
  rfl

theorem distinct_toolSnapshot (r : GovernedToolDefinition) : r.snapshot.distinct = true := by
  unfold GovernedToolDefinition.snapshot riskValue
  cases r.riskClass <;> rfl

theorem service_of_snapshot {r r' : ClientServiceIdentity} (h : r.snapshot.data = r'.snapshot.data) :
    r.configuration = r'.configuration := by
  have hfields := Value.sameData_of_data rfl rfl h
  have hid : r.serviceId = r'.serviceId := (hfields "service_id").str_eq
  have hrole : r.role = r'.role := ClientServiceRole.name_inj (hfields "role").str_eq
  have hstatus := (hfields "status").str_eq
  have hrevoked : r.revoked = r'.revoked := by
    revert hstatus
    cases r.revoked <;> cases r'.revoked <;> decide
  rw [ClientServiceIdentity.configuration, hid, hrole, hrevoked]
  rfl

theorem server_of_snapshot (hsha : Function.Injective sha256) {r r' : McpServerRegistration} (hr : r.Hashed sha256)
    (hr' : r'.Hashed sha256) (h : r.snapshot.data = r'.snapshot.data) : r.configuration = r'.configuration := by
  have hfields := Value.sameData_of_data rfl rfl h
  have hid : r.mcpServerId = r'.mcpServerId := (hfields "mcp_server_id").str_eq
  have hstatus : r.status = r'.status := McpServerStatus.name_inj (hfields "status").str_eq
  have hhash : r.configHash = r'.configHash := (hfields "config_hash").str_eq
  have hinput : r.input = r'.input := configHash_inj hsha (hr.symm.trans (hhash.trans hr'))
  rw [McpServerRegistration.configuration, hid, hinput, hstatus]
  rfl

theorem tool_of_snapshot (hsha : Function.Injective sha256) (hr : r.Hashed sha256) (hr' : r'.Hashed sha256)
    (h : r.snapshot.data = r'.snapshot.data) : r.configuration = r'.configuration := by
  have hfields := Value.sameData_of_data (distinct_toolSnapshot r) (distinct_toolSnapshot r') h
  have hid : r.toolId = r'.toolId := (hfields "tool_id").str_eq
  have henabled : r.enabled = r'.enabled := Value.bool.inj (hfields "enabled").data
  have hhash : r.schemaHash = r'.schemaHash := (hfields "schema_hash").str_eq
  have hrisk : r.riskClass = r'.riskClass := riskValue_inj (hfields "risk_class")
  have hstatus : r.reviewStatus = r'.reviewStatus := ToolReviewStatus.name_inj (hfields "review_status").str_eq
  have hschema : r.schema = r'.schema := by
    obtain ⟨schema, hread, hhashed⟩ := hr
    obtain ⟨schema', hread', hhashed'⟩ := hr'
    rw [hread, hread', hsha (hhashed.symm.trans (hhash.trans hhashed'))]
  rw [GovernedToolDefinition.configuration, hid, henabled, hschema, hrisk, hstatus]
  rfl

/-- And the other way: the configuration of a row tells its part of the snapshot. -/
theorem snapshot_of_service {r r' : ClientServiceIdentity} (h : r.configuration = r'.configuration) : r.snapshot = r'.snapshot := by
  simp only [ClientServiceIdentity.configuration, ServiceConfiguration.mk.injEq] at h
  simp only [ClientServiceIdentity.snapshot, h]

theorem snapshot_of_server {r r' : McpServerRegistration} (hr : r.Hashed sha256) (hr' : r'.Hashed sha256)
    (h : r.configuration = r'.configuration) : r.snapshot = r'.snapshot := by
  simp only [McpServerRegistration.configuration, ServerConfiguration.mk.injEq] at h
  have hhash : r.configHash = r'.configHash := by rw [hr, hr', h.2.1]
  simp only [McpServerRegistration.snapshot, h, hhash]

theorem snapshot_of_tool (hr : r.Hashed sha256) (hr' : r'.Hashed sha256) (h : r.configuration = r'.configuration) :
    r.snapshot = r'.snapshot := by
  simp only [GovernedToolDefinition.configuration, ToolConfiguration.mk.injEq] at h
  have hhash : r.schemaHash = r'.schemaHash := by
    obtain ⟨schema, hread, hhashed⟩ := hr
    obtain ⟨schema', hread', hhashed'⟩ := hr'
    rw [hhashed, hhashed', Option.some.inj (hread.symm.trans (h.2.2.1.trans hread'))]
  simp only [GovernedToolDefinition.snapshot, h, hhash]

variable {scan : ToolScan} {tenantId : Text}

theorem computeIntegrationConfigHash_ok {hash : Text} (h : computeIntegrationConfigHash sha256 scan tenantId s = .ok hash t) :
    ∃ tenant, Rows.row ClientTenant.tenantId s.tenants tenantId = some tenant ∧
      hash = sha256 (s.integrationSnapshot scan tenantId tenant.configurationHash).canonical := by
  simp only [computeIntegrationConfigHash, bind_eq_ok, getTenant_ok, get_ok, pure_ok] at h
  obtain ⟨tenant, _, ⟨hrow, rfl⟩, _, _, ⟨rfl, rfl⟩, rfl, -⟩ := h
  exact ⟨tenant, hrow, rfl⟩

/-- A tenant with no more service identities than a page has. -/
def ClientStore.OnePage (s : ClientStore) (tenantId : Text) : Prop := (s.servicesOf tenantId).length ≤ snapshotLimit

theorem listServiceIdentities_of_onePage (h : s.OnePage tenantId) :
    s.listServiceIdentities tenantId snapshotLimit = (s.servicesOf tenantId).insertionSort serviceLe := by
  refine List.take_of_length_le ?_
  rw [List.length_insertionSort]
  exact h

theorem data_of_arrays {rows' : List V} (h : Value.SameData (.arr (rows.map snapshot)) (.arr (rows'.map snapshot))) :
    rows.map (fun r => (snapshot r).data) = rows'.map fun r => (snapshot r).data := by
  have hdata := h.data
  rwa [Value.data_arr, Value.data_arr, Value.arr.injEq, List.map_map, List.map_map] at hdata

theorem distinct_snapshot (configurationHash : Text) : (s.integrationSnapshot scan tenantId configurationHash).distinct = true := by
  rw [ClientStore.integrationSnapshot, Value.distinct, Bool.and_eq_true]
  refine ⟨rfl, ?_⟩
  simp only [Value.distinctFields, Bool.and_eq_true]
  exact ⟨rfl, rfl, distinct_rows fun _ => rfl, distinct_rows fun _ => rfl, distinct_rows distinct_toolSnapshot, trivial⟩

/-- **The snapshot tells the configuration**, of tenants with no more service identities than a page has. -/
theorem sameConfiguration_of_canonical (hsha : Function.Injective sha256) (hs : Hashed sha256 s) (ht : Hashed sha256 t)
    (hpage : s.OnePage tenantId) (hpage' : t.OnePage tenantId) {c c' : Text}
    (h : (s.integrationSnapshot scan tenantId c).canonical = (t.integrationSnapshot scan tenantId c').canonical) :
    SameConfiguration tenantId s t := by
  have hfields := Value.sameData_of_canonical (distinct_snapshot c) (distinct_snapshot c') h
  have hservices := data_of_arrays (hfields "services")
  rw [listServiceIdentities_of_onePage hpage, listServiceIdentities_of_onePage hpage'] at hservices
  have hservers := data_of_arrays (hfields "servers")
  have htools := data_of_arrays (hfields "tools")
  exact
    { services := fun c =>
        ⟨Rows.shown_of_listed hservices (fun _ _ _ _ => service_of_snapshot) c,
          Rows.shown_of_listed hservices.symm (fun _ _ _ _ => service_of_snapshot) c⟩
      servers := fun c =>
        ⟨Rows.shown_of_listed hservers (fun r hr r' hr' => server_of_snapshot hsha
            (hs.serverHash r (List.mem_of_mem_filter hr)) (ht.serverHash r' (List.mem_of_mem_filter hr'))) c,
          Rows.shown_of_listed hservers.symm (fun r hr r' hr' => server_of_snapshot hsha
            (ht.serverHash r (List.mem_of_mem_filter hr)) (hs.serverHash r' (List.mem_of_mem_filter hr'))) c⟩
      tools := fun c =>
        ⟨Rows.shown_of_listed htools (fun r hr r' hr' => tool_of_snapshot hsha
            (hs.toolHash r (List.mem_of_mem_filter hr)) (ht.toolHash r' (List.mem_of_mem_filter hr'))) c,
          Rows.shown_of_listed htools.symm (fun r hr r' hr' => tool_of_snapshot hsha
            (ht.toolHash r (List.mem_of_mem_filter hr)) (hs.toolHash r' (List.mem_of_mem_filter hr'))) c⟩ }

theorem serviceLe_iff (a a' b b' : ClientServiceIdentity) (ha : a.fixed = a'.fixed) (hb : b.fixed = b'.fixed) :
    serviceLe a b ↔ serviceLe a' b' := by
  simp only [ClientServiceIdentity.fixed, Prod.mk.injEq] at ha hb
  simp only [serviceLe, ha, hb]

theorem serverLe_iff (a a' b b' : McpServerRegistration) (ha : a.fixed = a'.fixed) (hb : b.fixed = b'.fixed) :
    serverLe a b ↔ serverLe a' b' := by
  simp only [McpServerRegistration.fixed, Prod.mk.injEq] at ha hb
  simp only [serverLe, ha, hb]

theorem toolLe_iff (a a' b b' : GovernedToolDefinition) (ha : a.fixed = a'.fixed) (hb : b.fixed = b'.fixed) :
    toolLe scan a b ↔ toolLe scan a' b' := by
  simp only [GovernedToolDefinition.fixed, GovernedToolDefinition.key, Prod.mk.injEq] at ha hb
  cases scan <;> simp only [toolLe, ToolScan.le, ha, hb]

/-- **A configuration that came back has its snapshot back.** -/
theorem snapshot_of_sameConfiguration (hs : Hashed sha256 s) (hgrows : Grows sha256 s t) (h : SameConfiguration tenantId s t)
    (c : Text) : t.integrationSnapshot scan tenantId c = s.integrationSnapshot scan tenantId c := by
  have hservices : (t.listServiceIdentities tenantId snapshotLimit).map ClientServiceIdentity.snapshot =
      (s.listServiceIdentities tenantId snapshotLimit).map ClientServiceIdentity.snapshot := by
    rw [ClientStore.listServiceIdentities, ClientStore.listServiceIdentities, List.map_take, List.map_take]
    congr 1
    refine hgrows.services.listed_of_shown hs.services ?_ ?_ (fun c => (h.services c).2) serviceLe_iff
      fun _ _ _ _ => snapshot_of_service
    · intro r r' hfixed
      simp only [ClientServiceIdentity.fixed, Prod.mk.injEq] at hfixed
      simp only [hfixed]
    · exact fun r r' _ _ hshown => congrArg ServiceConfiguration.serviceId hshown
  have hservers : (t.listMcpServers tenantId).map McpServerRegistration.snapshot =
      (s.listMcpServers tenantId).map McpServerRegistration.snapshot := by
    refine hgrows.servers.listed_of_shown hs.servers ?_ ?_ (fun c => (h.servers c).2) serverLe_iff
      fun r hr r' hr' => snapshot_of_server (hgrows.servers.holds hs.serverHash r' hr') (hs.serverHash r hr)
    · intro r r' hfixed
      simp only [McpServerRegistration.fixed, Prod.mk.injEq] at hfixed
      simp only [hfixed]
    · exact fun r r' _ _ hshown => congrArg ServerConfiguration.mcpServerId hshown
  have htools : (t.listTools scan tenantId).map GovernedToolDefinition.snapshot =
      (s.listTools scan tenantId).map GovernedToolDefinition.snapshot := by
    refine hgrows.tools.listed_of_shown hs.tools ?_ ?_ (fun c => (h.tools c).2) toolLe_iff
      fun r hr r' hr' => snapshot_of_tool (hgrows.tools.holds hs.toolHash r' hr') (hs.toolHash r hr)
    · intro r r' hfixed
      simp only [GovernedToolDefinition.fixed, GovernedToolDefinition.key, Prod.mk.injEq] at hfixed
      simp only [hfixed]
    · intro r r' hr hr' hshown
      have htenant : r.tenantId = r'.tenantId := (of_decide_eq_true hr).trans (of_decide_eq_true hr').symm
      have hid : r.toolId = r'.toolId := congrArg ToolConfiguration.toolId hshown
      show r.key = r'.key
      rw [GovernedToolDefinition.key, GovernedToolDefinition.key, htenant, hid]
  rw [ClientStore.integrationSnapshot, ClientStore.integrationSnapshot, hservices, hservers, htools]

/-- **The hash tells the configuration** of tenants with no more service identities than a page has, and a configuration that
came back hashes as it did. -/
theorem integrationConfigHash_tells_configuration (hsha : Function.Injective sha256) {ops ops' : List ClientOp}
    (hs : Run (HashedStep sha256) .empty ops s) (ht : Run (HashedStep sha256) .empty ops' t) {hash hash' : Text}
    (hhash : computeIntegrationConfigHash sha256 scan tenantId s = .ok hash s)
    (hhash' : computeIntegrationConfigHash sha256 scan tenantId t = .ok hash' t) :
    (s.OnePage tenantId → t.OnePage tenantId → hash = hash' → SameConfiguration tenantId s t) ∧
      ∀ later, Run (HashedStep sha256) s later t → SameConfiguration tenantId s t → hash = hash' := by
  obtain ⟨tenant, hrow, rfl⟩ := computeIntegrationConfigHash_ok hhash
  obtain ⟨tenant', hrow', rfl⟩ := computeIntegrationConfigHash_ok hhash'
  constructor
  · intro hpage hpage' heq
    exact sameConfiguration_of_canonical hsha (hashed_of_run hs) (hashed_of_run ht) hpage hpage' (hsha heq)
  · intro later hlater hsame
    have hgrows := grows_of_run hlater
    obtain ⟨kept, hkept, hfixed⟩ := hgrows.tenants.row_of_row (fun _ => rfl) hrow
    have htenant : tenant'.configurationHash = tenant.configurationHash := by
      cases hrow'.symm.trans hkept
      exact congrArg Prod.snd hfixed
    rw [htenant, snapshot_of_sameConfiguration (hashed_of_run hs) hgrows hsame]

/-- What is replayed with schemas that are hashed so is such a history. -/
theorem hashedRun_of_replay (h : replay (ClientOp.next sha256) s ops = some t) (hhashes : ∀ op ∈ ops, op.hashesSchemas sha256) :
    Run (HashedStep sha256) s ops t :=
  (run_of_replay h).within.mono fun _ op _ hstep => ⟨step_of_body (body_of_next hstep.1), hhashes op hstep.2⟩

end

/-! ## Sample histories -/

/-- Hashes are the texts themselves. -/
def plainDiscovery : DiscoveryContext where
  schemaHash := hashSchema id
  newToolId _ := "tool_1"
  now := "2026-01-02"

def strictDecision : ToolDecision where
  riskClass := .low
  allowedOperations := ["read", "write"]
  resourcePatterns := ["/tmp"]
  requiresHumanApproval := true
  requiresVad := true
  policyId := "p"
  boundBy := "op"

/-- A tenant with a server that has one tool. -/
def integrated : List ClientOp :=
  [.createTenant "t" "c", .createServiceIdentity "t" "svc" "token" .agentClient "2026-01-01",
    .registerMcpServer "t" "srv" sampleInput "2026-01-01", .recordDiscovery plainDiscovery "t" "srv" [advertised "ls" "{}"]]

def enabledOnce : List ClientOp := integrated ++ [.enableTool "t" "tool_1" 0 sampleDecision "b1"]

theorem hashesSchemas_enabledOnce : ∀ op ∈ enabledOnce, op.hashesSchemas id := by
  simp [enabledOnce, integrated, ClientOp.hashesSchemas, plainDiscovery]

/-- The server is out of reach for a while. -/
def outage : List ClientOp := [.setMcpServerStatus "t" "srv" 1 .unreachable, .setMcpServerStatus "t" "srv" 2 .reachable]

/-- The store before and after, which differ in the version of the server. -/
def integratedStore (version : Nat) : ClientStore where
  tenants := [⟨"t", .pending, 0, none, none, "c"⟩]
  services := [⟨"svc", "t", false, "token", 0, .agentClient, "2026-01-01"⟩]
  servers := [⟨"srv", "t", .reachable, version, sampleInput, sampleInput.configHash id, "2026-01-01"⟩]
  tools := [sampleDecision.apply (newTool plainDiscovery "t" "srv" (advertised "ls" "{}", 0))]
  bindings := [sampleDecision.binding "t" "tool_1" "b1"]
  actions := []

theorem integrationConfigHash_tells_configuration_outage :
    ∃ hash hash', Run (HashedStep id) .empty enabledOnce (integratedStore 1) ∧
      Run (HashedStep id) (integratedStore 1) outage (integratedStore 3) ∧
      computeIntegrationConfigHash id .provider "t" (integratedStore 1) = .ok hash (integratedStore 1) ∧
      computeIntegrationConfigHash id .provider "t" (integratedStore 3) = .ok hash' (integratedStore 3) ∧
      SameConfiguration "t" (integratedStore 1) (integratedStore 3) ∧ hash = hash' := by
  have hoperations : ∀ op ∈ outage, op.hashesSchemas id := by simp [outage, ClientOp.hashesSchemas]
  have hrun : Run (HashedStep id) .empty enabledOnce (integratedStore 1) := hashedRun_of_replay rfl hashesSchemas_enabledOnce
  have hlater : Run (HashedStep id) (integratedStore 1) outage (integratedStore 3) := hashedRun_of_replay rfl hoperations
  have hsnapshot : (integratedStore 1).integrationSnapshot .provider "t" "c" =
      (integratedStore 3).integrationSnapshot .provider "t" "c" := rfl
  have hhash : computeIntegrationConfigHash id .provider "t" (integratedStore 1) = .ok _ (integratedStore 1) := rfl
  have hhash' : computeIntegrationConfigHash id .provider "t" (integratedStore 3) = .ok _ (integratedStore 3) := rfl
  have hpage : ∀ version, (integratedStore version).OnePage "t" := by
    intro version
    show 1 ≤ 200
    decide
  obtain ⟨htells, hback⟩ :=
    integrationConfigHash_tells_configuration Function.injective_id hrun (hrun.trans hlater) hhash hhash'
  have hsame := htells (hpage 1) (hpage 3) (congrArg Value.canonical hsnapshot)
  exact ⟨_, _, hrun, hlater, hhash, hhash', hsame, hback outage hlater hsame⟩

/-- **The requirements of a tool are no part of the hash**: it is enabled again, with others, and the hash stays. -/
theorem integrationConfigHash_misses_requirements :
    ∃ s t, Run (HashedStep id) .empty enabledOnce s ∧
      Run (HashedStep id) s [.enableTool "t" "tool_1" 1 strictDecision "b2"] t ∧
      (∀ scan, ∃ hash, computeIntegrationConfigHash id scan "t" s = .ok hash s ∧
        computeIntegrationConfigHash id scan "t" t = .ok hash t) ∧
      ∃ r ∈ s.tools, ∃ r' ∈ t.tools, r.key = r'.key ∧ r.allowedOperations ≠ r'.allowedOperations ∧
        r.resourcePatterns ≠ r'.resourcePatterns ∧ r.requiresHumanApproval ≠ r'.requiresHumanApproval ∧
        r.requiresVad ≠ r'.requiresVad := by
  refine ⟨_, _, hashedRun_of_replay rfl hashesSchemas_enabledOnce, hashedRun_of_replay rfl (by simp [ClientOp.hashesSchemas]), ?_, ?_⟩
  · intro scan
    refine ⟨_, rfl, ?_⟩
    cases scan <;> rfl
  · exact ⟨_, .head _, _, .head _, rfl, by decide, by decide, by decide, by decide⟩

end Tna.Client
