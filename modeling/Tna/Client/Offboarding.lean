import Tna.Client.Discovery

/-!
# Offboarding

Once a tenant is being offboarded it has no active service identity, no enabled tool and
no server that is not disabled. The offboarding sees to that in its own transaction, and it
stays so as long as no operation brings a tool or a server of the tenant back.
-/

namespace Tna.Client

open Tna.Js Tna.Lib

/-- The tenant is being offboarded or was. -/
def ClientStore.leaving (s : ClientStore) (tenantId : Text) : Prop :=
  ∃ tenant ∈ s.tenants, tenant.tenantId = tenantId ∧ tenant.status.leaving = true

/-- A tenant that leaves, or has left, has nothing that still works. -/
structure Offboarded (s : ClientStore) : Prop where
  services : ∀ r ∈ s.services, s.leaving r.tenantId → r.revoked = true
  tools : ∀ r ∈ s.tools, s.leaving r.tenantId → r.enabled = false
  servers : ∀ r ∈ s.servers, s.leaving r.tenantId → r.status = .disabled

/-- The operation brings nothing of a leaving tenant back: it sets no server of it to another status than `DISABLED`, and
enables no tool of it. -/
def ClientOp.spares (s : ClientStore) : ClientOp → Prop
  | .setMcpServerStatus tenantId serverId expectedVersion status => s.leaving tenantId → status ≠ .disabled →
    ∀ r ∈ s.servers, r.tenantId = tenantId → r.mcpServerId = serverId → r.stateVersion ≠ expectedVersion
  | .reconfigureMcpServer tenantId serverId expectedVersion _ => s.leaving tenantId →
    ∀ r ∈ s.servers, r.tenantId = tenantId → r.mcpServerId = serverId → r.stateVersion ≠ expectedVersion
  | .recordDiscovery _ tenantId serverId discovered => s.leaving tenantId → discovered.length ≤ maxToolsPerServer →
    ∀ r ∈ s.servers, r.tenantId = tenantId → r.mcpServerId ≠ serverId
  | .enableTool tenantId toolId expectedVersion _ _ => s.leaving tenantId →
    ∀ r ∈ s.tools, r.key = (tenantId, toolId) → r.stateVersion = expectedVersion → r.reviewStatus = .removed
  | _ => True

section
variable {s t : ClientStore} {sha256 : Text → Text}

/-- Ids of tenants are distinct, and leaving tenants are offboarded. -/
structure OffboardedRun (s : ClientStore) : Prop where
  distinct : (s.tenants.map ClientTenant.tenantId).Nodup
  offboarded : Offboarded s

theorem not_leaving_of_row (hdistinct : (s.tenants.map ClientTenant.tenantId).Nodup) {tenantId : Text} {current : ClientTenant}
    (hrow : Rows.row ClientTenant.tenantId s.tenants tenantId = some current) (hstays : current.status.leaving = false) :
    ¬ s.leaving tenantId := by
  rintro ⟨tenant, hmem, hid, hleaving⟩
  have hsame : tenant = current := List.inj_on_of_nodup_map hdistinct hmem (Rows.mem_of_row hrow)
    (hid.trans (Rows.key_of_row hrow).symm)
  rw [hsame, hstays] at hleaving
  cases hleaving

/-! ## What the rows of a table may become -/

/-- With the same tenants, rows that work come from rows that worked. -/
theorem OffboardedRun.of_rows (h : OffboardedRun s) (htenants : t.tenants = s.tenants)
    (hservices : ∀ r ∈ t.services, r.revoked = false → s.leaving r.tenantId →
      ∃ r₀ ∈ s.services, r₀.tenantId = r.tenantId ∧ r₀.revoked = false)
    (htools : ∀ r ∈ t.tools, r.enabled = true → s.leaving r.tenantId →
      ∃ r₀ ∈ s.tools, r₀.tenantId = r.tenantId ∧ r₀.enabled = true)
    (hservers : ∀ r ∈ t.servers, r.status ≠ .disabled → s.leaving r.tenantId →
      ∃ r₀ ∈ s.servers, r₀.tenantId = r.tenantId ∧ r₀.status ≠ .disabled) : OffboardedRun t := by
  have hleaving : ∀ tenantId, t.leaving tenantId → s.leaving tenantId := by
    rintro tenantId ⟨tenant, hmem, hrest⟩
    rw [htenants] at hmem
    exact ⟨tenant, hmem, hrest⟩
  refine ⟨htenants ▸ h.distinct, ?_, ?_, ?_⟩
  · intro r hr hl
    by_contra hrevoked
    obtain ⟨r₀, hr₀, hsame, hactive⟩ := hservices r hr (by simpa using hrevoked) (hleaving _ hl)
    rw [h.offboarded.services r₀ hr₀ (hsame ▸ hleaving _ hl)] at hactive
    cases hactive
  · intro r hr hl
    by_contra henabled
    obtain ⟨r₀, hr₀, hsame, hon⟩ := htools r hr (by simpa using henabled) (hleaving _ hl)
    rw [h.offboarded.tools r₀ hr₀ (hsame ▸ hleaving _ hl)] at hon
    cases hon
  · intro r hr hl
    by_contra hstatus
    obtain ⟨r₀, hr₀, hsame, hup⟩ := hservers r hr hstatus (hleaving _ hl)
    exact hup (h.offboarded.servers r₀ hr₀ (hsame ▸ hleaving _ hl))

/-- A new tenant has nothing to end. -/
theorem OffboardedRun.of_new (h : OffboardedRun s) {row : ClientTenant} (hnew : ∀ r ∈ s.tenants, r.tenantId ≠ row.tenantId)
    (hstays : row.status.leaving = false) : OffboardedRun { s with tenants := s.tenants ++ [row] } := by
  have hleaving : ∀ id, ClientStore.leaving { s with tenants := s.tenants ++ [row] } id → s.leaving id := by
    rintro id ⟨tenant, hmem, hid, hl⟩
    rcases List.mem_append.1 hmem with hmem | hmem
    · exact ⟨tenant, hmem, hid, hl⟩
    · rw [List.mem_singleton.1 hmem, hstays] at hl
      cases hl
  refine ⟨?_, fun r hr hl => h.offboarded.services r hr (hleaving _ hl), fun r hr hl => h.offboarded.tools r hr (hleaving _ hl),
    fun r hr hl => h.offboarded.servers r hr (hleaving _ hl)⟩
  rw [List.map_append, List.nodup_append]
  refine ⟨h.distinct, List.nodup_singleton _, ?_⟩
  intro id hid id' hid' heq
  obtain ⟨r, hr, rfl⟩ := List.mem_map.1 hid
  rw [List.map_singleton, List.mem_singleton] at hid'
  exact hnew r hr (heq.trans hid')

/-- A transition of a tenant that is not leaving, to a status that is not, or of one that is. -/
theorem OffboardedRun.of_transition (h : OffboardedRun s) {tenantId : Text} {version : Nat} {target : ClientTenantStatus}
    {reasons : ClientTenant → ClientTenant} (hreasons : ∀ r, (reasons r).tenantId = r.tenantId)
    (htarget : target.leaving = true → s.leaving tenantId) :
    OffboardedRun { s with
      tenants := Rows.update (fun r => r.tenantId = tenantId && r.stateVersion = version)
        (fun r => { reasons r with status := target, stateVersion := r.stateVersion + 1 }) s.tenants } := by
  have hleaving : ∀ id, ClientStore.leaving { s with
      tenants := Rows.update (fun r => r.tenantId = tenantId && r.stateVersion = version)
        (fun r => { reasons r with status := target, stateVersion := r.stateVersion + 1 }) s.tenants } id → s.leaving id := by
    rintro id ⟨tenant, hmem, hid, hl⟩
    obtain ⟨old, hold, ⟨hselected, rfl⟩ | ⟨-, rfl⟩⟩ := Rows.mem_update.1 hmem
    · simp only [Bool.and_eq_true, decide_eq_true_eq] at hselected
      have hsame : id = tenantId := by rw [← hid, ← hselected.1, hreasons]
      exact hsame ▸ htarget hl
    · exact ⟨tenant, hold, hid, hl⟩
  refine ⟨?_, fun r hr hl => h.offboarded.services r hr (hleaving _ hl), fun r hr hl => h.offboarded.tools r hr (hleaving _ hl),
    fun r hr hl => h.offboarded.servers r hr (hleaving _ hl)⟩
  have hids : (Rows.update (fun r => r.tenantId = tenantId && r.stateVersion = version)
      (fun r => { reasons r with status := target, stateVersion := r.stateVersion + 1 }) s.tenants).map ClientTenant.tenantId =
      s.tenants.map ClientTenant.tenantId := Rows.map_update fun r _ _ => hreasons r
  rw [hids]
  exact h.distinct

/-- **The cascade**: an offboarding that begins ends what works of its tenant. -/
theorem OffboardedRun.of_offboarding (h : OffboardedRun s) {tenantId reason : Text} {version : Nat}
    (hok : beginOffboarding tenantId version reason s = .ok () t) : OffboardedRun t := by
  obtain ⟨-, rfl⟩ := beginOffboarding_ok hok
  have hids : (Rows.update (fun r => r.tenantId = tenantId && r.stateVersion = version)
      (fun r => { r with status := .offboarding, stateVersion := r.stateVersion + 1, offboardingReason := some reason })
      s.tenants).map ClientTenant.tenantId = s.tenants.map ClientTenant.tenantId := Rows.map_update fun r _ _ => rfl
  have hleaving : ∀ id, ClientStore.leaving { s with
      tenants := Rows.update (fun r => r.tenantId = tenantId && r.stateVersion = version)
        (fun r => { r with status := .offboarding, stateVersion := r.stateVersion + 1, offboardingReason := some reason })
        s.tenants } id → id = tenantId ∨ s.leaving id := by
    rintro id ⟨tenant, hmem, hid, hl⟩
    obtain ⟨old, hold, ⟨hselected, rfl⟩ | ⟨-, rfl⟩⟩ := Rows.mem_update.1 hmem
    · simp only [Bool.and_eq_true, decide_eq_true_eq] at hselected
      exact .inl (hid.symm.trans hselected.1)
    · exact .inr ⟨tenant, hold, hid, hl⟩
  refine ⟨hids ▸ h.distinct, ?_, ?_, ?_⟩
  · intro r hr hl
    obtain ⟨old, hold, ⟨-, rfl⟩ | ⟨hnot, rfl⟩⟩ := Rows.mem_update.1 hr
    · rfl
    · rcases hleaving _ hl with hsame | hl
      · simpa [hsame] using hnot
      · exact h.offboarded.services r hold hl
  · intro r hr hl
    obtain ⟨old, hold, ⟨-, rfl⟩ | ⟨hnot, rfl⟩⟩ := Rows.mem_update.1 hr
    · rfl
    · rcases hleaving _ hl with hsame | hl
      · simpa [hsame] using hnot
      · exact h.offboarded.tools r hold hl
  · intro r hr hl
    obtain ⟨old, hold, ⟨-, rfl⟩ | ⟨hnot, rfl⟩⟩ := Rows.mem_update.1 hr
    · rfl
    · rcases hleaving _ hl with hsame | hl
      · simpa [hsame] using hnot
      · exact h.offboarded.servers r hold hl

/-- **Every operation that spares leaving tenants** keeps them offboarded. -/
theorem offboardedRun_step {op : ClientOp} (h : op.Step sha256 s t) (hspares : op.spares s) (hs : OffboardedRun s) :
    OffboardedRun t := by
  rcases body_or_same h with hok | rfl
  swap
  · exact hs
  cases op with
  | createTenant tenantId configurationHash =>
    obtain ⟨hnew, rfl⟩ := insertTenant_ok.1 hok
    exact hs.of_new hnew rfl
  | activateTenant tenantId version =>
    obtain ⟨-, -, -, -, rfl⟩ := transitionTenant_ok hok
    exact hs.of_transition (fun _ => rfl) fun h => nomatch h
  | suspendTenant tenantId version reason =>
    obtain ⟨-, -, -, -, rfl⟩ := transitionTenant_ok hok
    exact hs.of_transition (fun _ => rfl) fun h => nomatch h
  | resumeTenant tenantId version =>
    obtain ⟨-, -, -, -, rfl⟩ := transitionTenant_ok hok
    exact hs.of_transition (fun _ => rfl) fun h => nomatch h
  | beginOffboarding tenantId version reason => exact hs.of_offboarding hok
  | completeOffboarding tenantId version =>
    obtain ⟨current, hrow, -, hallowed, rfl⟩ := transitionTenant_ok hok
    refine hs.of_transition (fun _ => rfl) fun _ => ⟨current, Rows.mem_of_row hrow, Rows.key_of_row hrow, ?_⟩
    rw [List.mem_singleton.1 hallowed]
    rfl
  | createServiceIdentity tenantId serviceId token role now =>
    obtain ⟨⟨current, hrow, hstays⟩, -, rfl⟩ := createServiceIdentity_ok hok
    refine hs.of_rows rfl ?_ (fun r hr h _ => ⟨r, hr, rfl, h⟩) fun r hr h _ => ⟨r, hr, rfl, h⟩
    intro r hr hactive hl
    rcases List.mem_append.1 hr with hr | hr
    · exact ⟨r, hr, rfl, hactive⟩
    · rw [List.mem_singleton.1 hr] at hl
      exact absurd hl (not_leaving_of_row hs.distinct hrow hstays)
  | rotateCredential tenantId serviceId version token =>
    obtain ⟨-, -, rfl⟩ := rotateCredential_ok hok
    refine hs.of_rows rfl ?_ (fun r hr h _ => ⟨r, hr, rfl, h⟩) fun r hr h _ => ⟨r, hr, rfl, h⟩
    intro r hr hactive _
    obtain ⟨old, hold, ⟨-, rfl⟩ | ⟨-, rfl⟩⟩ := Rows.mem_update.1 hr
    · exact ⟨old, hold, rfl, hactive⟩
    · exact ⟨r, hold, rfl, hactive⟩
  | revokeServiceIdentity tenantId serviceId version =>
    obtain ⟨-, rfl⟩ := revokeServiceIdentity_ok hok
    refine hs.of_rows rfl ?_ (fun r hr h _ => ⟨r, hr, rfl, h⟩) fun r hr h _ => ⟨r, hr, rfl, h⟩
    intro r hr hactive _
    obtain ⟨old, hold, ⟨-, rfl⟩ | ⟨-, rfl⟩⟩ := Rows.mem_update.1 hr
    · cases hactive
    · exact ⟨r, hold, rfl, hactive⟩
  | registerMcpServer tenantId serverId input now =>
    obtain ⟨⟨current, hrow, hstays⟩, rfl⟩ := registerMcpServer_ok hok
    refine hs.of_rows rfl (fun r hr h _ => ⟨r, hr, rfl, h⟩) (fun r hr h _ => ⟨r, hr, rfl, h⟩) ?_
    intro r hr hup hl
    rcases List.mem_append.1 hr with hr | hr
    · exact ⟨r, hr, rfl, hup⟩
    · rw [List.mem_singleton.1 hr] at hl
      exact absurd hl (not_leaving_of_row hs.distinct hrow hstays)
  | setMcpServerStatus tenantId serverId version status =>
    obtain ⟨-, rfl⟩ := setMcpServerStatus_ok hok
    refine hs.of_rows rfl (fun r hr h _ => ⟨r, hr, rfl, h⟩) (fun r hr h _ => ⟨r, hr, rfl, h⟩) ?_
    intro r hr hup hl
    obtain ⟨old, hold, ⟨hselected, rfl⟩ | ⟨-, rfl⟩⟩ := Rows.mem_update.1 hr
    · simp only [Bool.and_eq_true, decide_eq_true_eq] at hselected
      obtain ⟨⟨htenant, hserver⟩, hversion⟩ := hselected
      exact absurd hversion (hspares (htenant ▸ hl) hup old hold htenant hserver)
    · exact ⟨r, hold, rfl, hup⟩
  | reconfigureMcpServer tenantId serverId version input =>
    obtain ⟨-, rfl⟩ := reconfigureMcpServer_ok hok
    refine hs.of_rows rfl (fun r hr h _ => ⟨r, hr, rfl, h⟩) ?_ ?_
    · intro r hr henabled _
      obtain ⟨old, hold, ⟨-, rfl⟩ | ⟨-, rfl⟩⟩ := Rows.mem_update.1 hr
      · cases henabled
      · exact ⟨r, hold, rfl, henabled⟩
    · intro r hr hup hl
      obtain ⟨old, hold, ⟨hselected, rfl⟩ | ⟨-, rfl⟩⟩ := Rows.mem_update.1 hr
      · simp only [Bool.and_eq_true, decide_eq_true_eq] at hselected
        obtain ⟨⟨htenant, hserver⟩, hversion⟩ := hselected
        exact absurd hversion (hspares (htenant ▸ hl) old hold htenant hserver)
      · exact ⟨r, hold, rfl, hup⟩
  | recordDiscovery c tenantId serverId discovered =>
    have hlength := length_of_recordDiscovery hok
    have htools : ∀ r ∈ t.tools, r.enabled = true → r ∈ s.tools := fun r hr => enabled_of_recordDiscovery hok hr
    obtain ⟨rfl, -⟩ := recordDiscovery_ok hok
    refine hs.of_rows rfl (fun r hr h _ => ⟨r, hr, rfl, h⟩) (fun r hr h _ => ⟨r, htools r hr h, rfl, h⟩) ?_
    intro r hr hup hl
    obtain ⟨old, hold, ⟨hselected, rfl⟩ | ⟨-, rfl⟩⟩ := Rows.mem_update.1 hr
    · simp only [Bool.and_eq_true, decide_eq_true_eq] at hselected
      exact absurd hselected.2 (hspares (hselected.1 ▸ hl) hlength old hold hselected.1)
    · exact ⟨r, hold, rfl, hup⟩
  | enableTool tenantId toolId version decision bindingId =>
    obtain ⟨⟨current, hmem, hkey, hversion, hstatus⟩, rfl⟩ := enableTool_ok hok
    refine hs.of_rows rfl (fun r hr h _ => ⟨r, hr, rfl, h⟩) ?_ fun r hr h _ => ⟨r, hr, rfl, h⟩
    intro r hr henabled hl
    obtain ⟨old, hold, ⟨hselected, rfl⟩ | ⟨-, rfl⟩⟩ := Rows.mem_update.1 hr
    · simp only [Bool.and_eq_true, decide_eq_true_eq] at hselected
      have htenant : old.tenantId = tenantId := congrArg Prod.fst hselected.1
      exact absurd (hspares (htenant ▸ hl) current hmem hkey hversion) hstatus
    · exact ⟨r, hold, rfl, henabled⟩
  | disableTool tenantId toolId version =>
    obtain rfl := disableTool_ok hok
    refine hs.of_rows rfl (fun r hr h _ => ⟨r, hr, rfl, h⟩) ?_ fun r hr h _ => ⟨r, hr, rfl, h⟩
    intro r hr henabled _
    obtain ⟨old, hold, ⟨-, rfl⟩ | ⟨-, rfl⟩⟩ := Rows.mem_update.1 hr
    · cases henabled
    · exact ⟨r, hold, rfl, henabled⟩
  | recordClientAction record =>
    obtain rfl := recordClientAction_ok hok
    exact hs.of_rows rfl (fun r hr h _ => ⟨r, hr, rfl, h⟩) (fun r hr h _ => ⟨r, hr, rfl, h⟩) fun r hr h _ => ⟨r, hr, rfl, h⟩

theorem offboardedRun_empty : OffboardedRun ClientStore.empty where
  distinct := List.nodup_nil
  offboarded :=
    { services := fun _ h => nomatch h
      tools := fun _ h => nomatch h
      servers := fun _ h => nomatch h }

/-- **Offboarding.** In every store that operations lead to which bring nothing of a leaving tenant back, a tenant that is
`OFFBOARDING` or `OFFBOARDED` has no active service identity, no enabled tool and no server that is not `DISABLED`. -/
theorem offboarded_of_run {ops : List ClientOp}
    (hrun : Run (fun s op t => op.Step sha256 s t ∧ op.spares s) ClientStore.empty ops s) : Offboarded s := by
  have hkept : OffboardedRun s := hrun.invariant (I := OffboardedRun)
    (fun _ _ _ hstep => offboardedRun_step hstep.1 hstep.2) offboardedRun_empty
  exact hkept.offboarded

end

/-! ## A tool enabled during an offboarding -/

def offboardedStore : ClientStore := { ClientStore.empty with
  tenants := [⟨"t", .offboarding, 2, none, some "r", "config"⟩]
  services := [⟨"svc", "t", true, "token", 1, .agentClient, "now"⟩] }

/-- A tenant with a service identity is offboarded. -/
theorem offboarded_of_run_service : offboardedStore.leaving "t" ∧ Offboarded offboardedStore := by
  have hrun : Run (fun s op t => ClientOp.Step id s op t ∧ op.spares s) ClientStore.empty [.createTenant "t" "config",
      .activateTenant "t" 0, .createServiceIdentity "t" "svc" "token" .agentClient "now", .beginOffboarding "t" 1 "r"] offboardedStore := ?_
  · exact ⟨⟨_, .head _, rfl, rfl⟩, offboarded_of_run hrun⟩
  refine .cons ⟨step_of_body (t := { ClientStore.empty with tenants := [⟨"t", .pending, 0, none, none, "config"⟩] }) rfl, trivial⟩ ?_
  refine .cons ⟨step_of_body (t := { ClientStore.empty with tenants := [⟨"t", .active, 1, none, none, "config"⟩] }) rfl, trivial⟩ ?_
  refine .cons ⟨step_of_body (t := { ClientStore.empty with
    tenants := [⟨"t", .active, 1, none, none, "config"⟩], services := [⟨"svc", "t", false, "token", 0, .agentClient, "now"⟩] }) rfl, trivial⟩ ?_
  exact .cons ⟨step_of_body rfl, trivial⟩ (.nil _)

/-- A tool is discovered before the offboarding and enabled during it. -/
theorem not_offboarded_of_enableTool : ∃ ops s, Run (ClientOp.Step id) ClientStore.empty ops s ∧ s.leaving "t" ∧
    ¬ Offboarded s := by
  have hreplay : (replay (fun s op => ClientOp.next id s op) ClientStore.empty
      [.createTenant "t" "config", .activateTenant "t" 0, .registerMcpServer "t" "srv" sampleInput "now",
        .recordDiscovery (sampleDiscovery sampleIds) "t" "srv" [advertised "a" "h1"], .beginOffboarding "t" 1 "r",
        .enableTool "t" "tool_1" 0 sampleDecision "bind_1"]).any (fun s =>
      (s.tenants.any fun r => decide (r.tenantId = Text.ofAscii "t") && r.status.leaving) &&
        s.tools.any fun r => decide (r.tenantId = Text.ofAscii "t") && r.enabled) = true := by decide +kernel
  obtain ⟨s, hrun, htest⟩ := run_of_test hreplay
  simp only [Bool.and_eq_true, List.any_eq_true, decide_eq_true_eq] at htest
  obtain ⟨⟨tenant, htenant, hid, hl⟩, tool, htool, hours, henabled⟩ := htest
  have hleaving : s.leaving "t" := ⟨tenant, htenant, hid, hl⟩
  refine ⟨_, s, hrun.mono fun _ _ _ h => step_of_body (body_of_next h), hleaving, fun hoff => ?_⟩
  rw [hoff.tools tool htool (hours ▸ hleaving)] at henabled
  cases henabled

end Tna.Client
