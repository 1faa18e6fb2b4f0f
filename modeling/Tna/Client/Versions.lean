import Tna.Client.Authentication
import Tna.Client.Configuration
import Tna.Client.Ghost
import Tna.Lib.Versions

/-!
# Versions of the client store

Tenants, service identities, servers and tools carry a version that every write raises, and
most operations name the version they expect. Over any run no such row is lost or rewritten
under the version it had, no two operations that succeed expected the same version of one
row, and the version of a tenant counts the steps of its life.
-/

namespace Tna.Client

open Tna.Js Tna.Lib Tna.Lib.Versions

/-! ## What becomes of rows -/

def McpServerRegistration.key (r : McpServerRegistration) : Text × Text := (r.tenantId, r.mcpServerId)

/-- **No row is lost, and none is another under the version it had.** -/
structure RowsAdvance (s t : ClientStore) : Prop where
  tenants : Advances ClientTenant.tenantId ClientTenant.stateVersion s.tenants t.tenants := by exact .refl
  services : Advances ClientServiceIdentity.key ClientServiceIdentity.stateVersion s.services t.services := by exact .refl
  servers : Advances McpServerRegistration.key McpServerRegistration.stateVersion s.servers t.servers := by exact .refl
  tools : Advances GovernedToolDefinition.key GovernedToolDefinition.stateVersion s.tools t.tools := by exact .refl

/-- The steps of a tenant's life. -/
def ClientTenantStatus.becomes : ClientTenantStatus → List ClientTenantStatus
  | .pending => [.active]
  | .active => [.suspended, .offboarding]
  | .suspended => [.active, .offboarding]
  | .offboarding => [.offboarded]
  | .offboarded => []

def ClientTenant.stage (r : ClientTenant) : ClientTenantStatus × Nat := (r.status, r.stateVersion)

def ClientStore.tenant (s : ClientStore) : Text → Option ClientTenant := Rows.row ClientTenant.tenantId s.tenants

/-- Tenants went through their lives step by step. -/
abbrev TenantsLive (s t : ClientStore) : Prop :=
  Keeps (Traces (fun a b => b ∈ ClientTenantStatus.becomes a) ClientTenant.stage) s.tenant t.tenant

/-- A row that carries a version. -/
inductive ClientRow where
  | tenant (tenantId : Text)
  | service (key : Text × Text)
  | server (key : Text × Text)
  | tool (key : Text × Text)

def ClientStore.version (s : ClientStore) : ClientRow → Option Nat
  | .tenant tenantId => (s.tenant tenantId).map ClientTenant.stateVersion
  | .service key => (Rows.row ClientServiceIdentity.key s.services key).map ClientServiceIdentity.stateVersion
  | .server key => (Rows.row McpServerRegistration.key s.servers key).map McpServerRegistration.stateVersion
  | .tool key => (Rows.row GovernedToolDefinition.key s.tools key).map GovernedToolDefinition.stateVersion

/-- The row an operation is about, and the version it expects of it. -/
def ClientOp.expects : ClientOp → Option (ClientRow × Nat)
  | .activateTenant tenantId version => some (.tenant tenantId, version)
  | .suspendTenant tenantId version _ => some (.tenant tenantId, version)
  | .resumeTenant tenantId version => some (.tenant tenantId, version)
  | .beginOffboarding tenantId version _ => some (.tenant tenantId, version)
  | .completeOffboarding tenantId version => some (.tenant tenantId, version)
  | .rotateCredential tenantId serviceId version _ => some (.service (tenantId, serviceId), version)
  | .revokeServiceIdentity tenantId serviceId version => some (.service (tenantId, serviceId), version)
  | .setMcpServerStatus tenantId serverId version _ => some (.server (tenantId, serverId), version)
  | .reconfigureMcpServer tenantId serverId version _ => some (.server (tenantId, serverId), version)
  | .enableTool tenantId toolId version _ _ => some (.tool (tenantId, toolId), version)
  | .disableTool tenantId toolId version => some (.tool (tenantId, toolId), version)
  | _ => none

/-- Ids of servers and keys of tools are distinct. -/
def KeysDistinct (s : ClientStore) : Prop := (s.servers.map McpServerRegistration.mcpServerId).Nodup ∧ ToolTable s

section
variable {s t u : ClientStore} {sha256 : Text → Text} {op : ClientOp} {tenantId serverId : Text} {v : Nat}
  {c : DiscoveryContext} {discovered : List DiscoveredMcpTool}

theorem RowsAdvance.trans (h : RowsAdvance s t) (h' : RowsAdvance t u) : RowsAdvance s u :=
  ⟨h.tenants.trans h'.tenants, h.services.trans h'.services, h.servers.trans h'.servers, h.tools.trans h'.tools⟩

/-- A discovery raises the version of whatever it writes to. -/
theorem advance_of_discovery (hok : recordDiscovery c tenantId serverId discovered s = .ok () t) : RowsAdvance s t := by
  refine keeps_of_discovery (I := RowsAdvance s) hok (fun u v tool hins hu => ?_) (fun u _ _ hu => hu.trans ?_)
    (fun u _ hu => hu.trans ?_) (fun u _ hu => hu.trans ?_) {}
  · obtain ⟨-, rfl⟩ := insertTool_ok.1 hins
    exact hu.trans { tools := .added }
  · exact { tools := .updated (fun _ => rfl) fun _ => rfl }
  · exact { tools := .updated (fun _ => rfl) fun _ => rfl }
  · exact { servers := .updated (fun _ => rfl) fun _ => rfl }

/-! ## What an operation does -/

/-- The effect of an operation on the rows that carry versions. -/
structure Versioned (op : ClientOp) (s t : ClientStore) : Prop where
  live : TenantsLive s t := by exact fun _ r hr => ⟨r, hr, .refl⟩
  advance : RowsAdvance s t
  swaps : KeysDistinct s → ∀ e, op.expects = some e → Swaps s.version t.version e.1 e.2 := by simp [ClientOp.expects]

/-- A transition of a tenant is a step of its life. -/
theorem versioned_of_transition {allowedFrom : List ClientTenantStatus} {target : ClientTenantStatus}
    {reasons : ClientTenant → ClientTenant} (hok : transitionTenant tenantId v allowedFrom target reasons s = .ok () t)
    (hreasons : ∀ r, (reasons r).tenantId = r.tenantId) (hedge : ∀ status ∈ allowedFrom, target ∈ status.becomes)
    (hop : op.expects = some (.tenant tenantId, v)) : Versioned op s t := by
  obtain ⟨current, hrow, rfl, hallowed, rfl⟩ := transitionTenant_ok hok
  refine ⟨keeps_update (fun _ => .refl) hreasons fun k r hr hselected => .single ⟨?_, rfl⟩,
    { tenants := .updated hreasons fun _ => rfl }, fun _ e he => ?_⟩
  · have hid : r.tenantId = tenantId := of_decide_eq_true (Bool.and_eq_true_iff.1 hselected).1
    rw [← Rows.key_of_row hr, hid, hrow] at hr
    cases hr
    exact hedge _ hallowed
  · cases hop.symm.trans he
    exact swaps_update hreasons (fun _ => rfl) hrow (by simp [Rows.key_of_row hrow])

theorem swaps_of_server {f : McpServerRegistration → McpServerRegistration} (hs : KeysDistinct s)
    (hone : s.servers.countP (fun r => r.tenantId = tenantId && r.mcpServerId = serverId && r.stateVersion = v) = 1)
    (ht : t.servers = Rows.update (fun r => r.tenantId = tenantId && r.mcpServerId = serverId && r.stateVersion = v) f s.servers)
    (hkey : ∀ r, (f r).key = r.key) (hversion : ∀ r, (f r).stateVersion = r.stateVersion + 1) :
    Swaps s.version t.version (.server (tenantId, serverId)) v := by
  have hdistinct : (s.servers.map McpServerRegistration.key).Nodup := by
    refine List.Nodup.of_map Prod.snd ?_
    rw [List.map_map]
    exact hs.1
  simp only [Swaps, ClientStore.version, ht]
  refine swaps_of_count hkey hversion hdistinct hone fun r hr => ?_
  simp only [Bool.and_eq_true, decide_eq_true_eq] at hr
  exact ⟨by rw [McpServerRegistration.key, hr.1.1, hr.1.2], hr.2⟩

/-- **What an operation does** to the rows that carry versions. -/
theorem versioned_of_body (hok : op.body sha256 s = .ok () t) : Versioned op s t := by
  cases op with
  | createTenant =>
    obtain ⟨-, rfl⟩ := insertTenant_ok.1 hok
    exact { live := keeps_append fun _ => .refl, advance := { tenants := .added } }
  | activateTenant | suspendTenant | resumeTenant | completeOffboarding =>
    exact versioned_of_transition hok (fun _ => rfl) (by decide) rfl
  | beginOffboarding tenantId version reason =>
    obtain ⟨_, _, htenant, hrest⟩ := bind_eq_ok.1 hok
    have h : Versioned (.beginOffboarding tenantId version reason) s _ :=
      versioned_of_transition htenant (fun _ => rfl) (by decide) rfl
    simp only [bind_eq_ok, updateServices_ok, updateTools_ok, updateServers_ok, pure_ok] at hrest
    obtain ⟨_, _, ⟨-, rfl⟩, _, _, ⟨-, rfl⟩, _, _, ⟨-, rfl⟩, -, rfl⟩ := hrest
    refine ⟨h.live, h.advance.trans ?_, fun hs e he => ?_⟩
    · exact { services := .updated (fun _ => rfl) fun _ => rfl, servers := .updated (fun _ => rfl) fun _ => rfl,
              tools := .updated (fun _ => rfl) fun _ => rfl }
    · cases he
      exact h.swaps hs _ rfl
  | createServiceIdentity =>
    obtain ⟨-, -, rfl⟩ := createServiceIdentity_ok hok
    exact { advance := { services := .added } }
  | rotateCredential =>
    obtain ⟨⟨current, hrow, rfl⟩, -, rfl⟩ := rotateCredential_ok hok
    refine { advance := { services := .updated (fun _ => rfl) fun _ => rfl }, swaps := fun _ e he => ?_ }
    cases he
    cases Rows.key_of_row hrow
    exact swaps_update (fun _ => rfl) (fun _ => rfl) hrow (by simp)
  | revokeServiceIdentity =>
    obtain ⟨⟨current, hrow, rfl⟩, rfl⟩ := revokeServiceIdentity_ok hok
    refine { advance := { services := .updated (fun _ => rfl) fun _ => rfl }, swaps := fun _ e he => ?_ }
    cases he
    cases Rows.key_of_row hrow
    exact swaps_update (fun _ => rfl) (fun _ => rfl) hrow (by simp)
  | registerMcpServer =>
    obtain ⟨-, rfl⟩ := registerMcpServer_ok hok
    exact { advance := { servers := .added } }
  | setMcpServerStatus =>
    obtain ⟨hone, rfl⟩ := setMcpServerStatus_ok hok
    refine { advance := { servers := .updated (fun _ => rfl) fun _ => rfl }, swaps := fun hs e he => ?_ }
    cases he
    exact swaps_of_server hs hone rfl (fun _ => rfl) fun _ => rfl
  | reconfigureMcpServer =>
    obtain ⟨hone, rfl⟩ := reconfigureMcpServer_ok hok
    refine { advance := { servers := .updated (fun _ => rfl) fun _ => rfl, tools := .updated (fun _ => rfl) fun _ => rfl }
             swaps := fun hs e he => ?_ }
    cases he
    exact swaps_of_server hs hone rfl (fun _ => rfl) fun _ => rfl
  | recordDiscovery =>
    have hadvance := advance_of_discovery hok
    obtain ⟨rfl, -⟩ := recordDiscovery_ok hok
    exact { advance := hadvance }
  | enableTool =>
    obtain ⟨⟨current, hmem, hkey, rfl, -⟩, rfl⟩ := enableTool_ok hok
    refine { advance := { tools := .updated (fun _ => rfl) fun _ => rfl }, swaps := fun hs e he => ?_ }
    cases he
    exact swaps_update (fun _ => rfl) (fun _ => rfl) (hkey ▸ Rows.row_of_mem hs.2.distinct hmem) (by simp [hkey])
  | disableTool =>
    simp only [ClientOp.body, Client.disableTool, bind_eq_ok, demand_eq_ok, updateTools_ok] at hok
    obtain ⟨_, _, ⟨rfl, rfl⟩, hone, rfl⟩ := hok
    refine { advance := { tools := .updated (fun _ => rfl) fun _ => rfl }, swaps := fun hs e he => ?_ }
    cases he
    refine swaps_of_count (fun _ => rfl) (fun _ => rfl) hs.2.distinct (of_decide_eq_true hone) fun r hr => ?_
    obtain ⟨hkey, hversion⟩ := Bool.and_eq_true_iff.1 hr
    exact ⟨of_decide_eq_true hkey, of_decide_eq_true hversion⟩
  | recordClientAction =>
    obtain rfl := recordClientAction_ok hok
    exact { advance := {} }

theorem keysDistinct_of_body (hok : op.body sha256 s = .ok () t) (hs : KeysDistinct s) : KeysDistinct t := by
  refine ⟨?_, toolTable_step (step_of_body hok) hs.2⟩
  cases op with
  | recordDiscovery =>
    have hservers : Rows.Grown McpServerRegistration.fixed (fun _ => True) s.servers t.servers := by
      obtain ⟨rfl, -⟩ := recordDiscovery_ok hok
      exact .updated .same _ (fun _ => rfl) fun _ h => h
    exact hservers.nodup hs.1
  | _ => exact (grows_of_body hok trivial).servers.nodup hs.1

/-! ## Runs -/

variable {ops : List ClientOp}

/-- **A row that has the version it had is the row it was**, after any operations, of which some may have failed; and no row
that carries a version is ever lost. -/
theorem rowsAdvance_of_run (hrun : Run (ClientOp.Step sha256) s ops t) : RowsAdvance s t := by
  refine hrun.invariant (I := RowsAdvance s) (fun u op v hstep hu => ?_) {}
  rcases body_or_same hstep with hok | rfl
  · exact hu.trans (versioned_of_body hok).advance
  · exact hu

/-- A server is out of reach for a while. -/
theorem run_outage : Run (ClientOp.Step id) (integratedStore 1) outage (integratedStore 3) :=
  Run.mono (fun _ _ _ h => step_of_body (body_of_next h)) (run_of_replay rfl)

theorem rowsAdvance_of_run_outage : RowsAdvance (integratedStore 1) (integratedStore 3) := rowsAdvance_of_run run_outage

/-- **No update is lost.** The operations that succeed on one row expect ever higher versions of it; so of any that expect
the same version at most one succeeds. -/
theorem swaps_once_of_run (hrun : Run (fun s op t => ClientOp.next sha256 s op = some t) .empty ops s) :
    (ops.filterMap ClientOp.expects).Pairwise fun e e' => e.1 = e'.1 → e.2 < e'.2 := by
  refine pairwise_expected KeysDistinct ClientStore.version ?_ ?_ ?_ hrun ⟨List.nodup_nil, List.nodup_nil, by simp [ClientStore.empty]⟩
  · exact fun s op t h => keysDistinct_of_body (body_of_next h)
  · intro s op t h k
    have hadvance := (versioned_of_body (body_of_next h)).advance
    cases k with
    | tenant => exact version_le hadvance.tenants _
    | service => exact version_le hadvance.services _
    | server => exact version_le hadvance.servers _
    | tool => exact version_le hadvance.tools _
  · exact fun s op t e h hs => (versioned_of_body (body_of_next h)).swaps hs e

theorem swaps_once_of_run_outage : ((enabledOnce ++ outage).filterMap ClientOp.expects).Pairwise fun e e' =>
    e.1 = e'.1 → e.2 < e'.2 := by
  have hrun : Run (fun s op t => ClientOp.next id s op = some t) .empty (enabledOnce ++ outage) (integratedStore 3) :=
    run_of_replay rfl
  exact swaps_once_of_run hrun

end

end Tna.Client
