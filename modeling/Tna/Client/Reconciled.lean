import Tna.Client.Discovery

/-!
# What a discovery reconciles

After a discovery the tools of the server should be those it advertises: one row a name,
enabled only with the schema advertised, and what is not advertised removed. It is so
exactly when each advertised name has one row, or has none and is advertised once, and no
removed tool was enabled.
-/

namespace Tna.Client

open Tna.Js Tna.Lib

def GovernedToolDefinition.named (tenantId serverId name : Text) (r : GovernedToolDefinition) : Bool :=
  r.ofServer tenantId serverId && decide (r.externalToolName = name)

/-- The table of tools agrees with what the server advertises, and the discovery has enabled nothing. -/
structure Reconciled (c : DiscoveryContext) (tenantId serverId : Text) (discovered : List DiscoveredMcpTool)
    (before after : List GovernedToolDefinition) : Prop where
  advertised : ∀ r ∈ after, r.ofServer tenantId serverId = true → r.enabled = true →
    ∃ tool ∈ discovered, tool.name = r.externalToolName ∧ c.schemaHash tool.inputSchema = r.schemaHash
  unique : ∀ tool ∈ discovered, after.countP (GovernedToolDefinition.named tenantId serverId tool.name) = 1
  unenabled : ∀ r ∈ after, r.enabled = true → ∃ r₀ ∈ before, r₀.key = r.key ∧ r₀.enabled = true
  removed : ∀ r ∈ after, r.ofServer tenantId serverId = true → (∀ tool ∈ discovered, tool.name ≠ r.externalToolName) →
    r.reviewStatus = .removed ∧ r.enabled = false

/-- Each advertised name has one row, or has none and is advertised once; and a removed tool that is not advertised is not
enabled. -/
structure OneEach (tenantId serverId : Text) (discovered : List DiscoveredMcpTool) (before : List GovernedToolDefinition) : Prop where
  names : ∀ tool ∈ discovered, before.countP (GovernedToolDefinition.named tenantId serverId tool.name) = 1 ∨
    before.countP (GovernedToolDefinition.named tenantId serverId tool.name) = 0 ∧
      discovered.countP (fun other => other.name = tool.name) = 1
  removed : ∀ r ∈ before, r.ofServer tenantId serverId = true → r.reviewStatus = .removed →
    (∀ tool ∈ discovered, tool.name ≠ r.externalToolName) → r.enabled = false

section
variable {c : DiscoveryContext} {tenantId serverId : Text} {rows : List GovernedToolDefinition} {s t : ClientStore}
  {discovered : List DiscoveredMcpTool}

variable {name : Text} {r r' : GovernedToolDefinition} {existing : List GovernedToolDefinition}

/-- Settling a row leaves its name and its server. -/
theorem Settled.named (h : Settled c tenantId serverId discovered existing r r') (name : Text) :
    r'.named tenantId serverId name = r.named tenantId serverId name := by
  cases h with
  | other _ hsame => rw [hsame]
  | known _ _ _ hsame => rw [hsame]
  | drifted hours _ hours' hname =>
    rw [GovernedToolDefinition.named, GovernedToolDefinition.named, hours, hours', hname]
  | stays _ _ _ hsame => rw [hsame]
  | gone hours _ _ hours' hname =>
    rw [GovernedToolDefinition.named, GovernedToolDefinition.named, hours, hours', hname]

/-- A row after a discovery is one that was there, settled, or of a new name. -/
theorem row_of_discovery (hkeys : (s.tools.map GovernedToolDefinition.key).Nodup)
    (h : recordDiscovery c tenantId serverId discovered s = .ok () t) (hr' : r' ∈ t.tools) :
    (∃ r ∈ s.tools, r.key = r'.key ∧ Settled c tenantId serverId discovered (existingTools tenantId serverId s.tools) r r') ∨
      r' ∈ discovered.zipIdx.filterMap (newRow c tenantId serverId (existingTools tenantId serverId s.tools)) := by
  obtain ⟨rfl, -⟩ := recordDiscovery_ok h
  rcases List.mem_append.1 hr' with hold | hnew
  · obtain ⟨r, hr, rfl⟩ := List.mem_map.1 hold
    exact .inl ⟨r, hr, by rw [foldl_dropBy_key, foldl_driftBy_key], settled hkeys hr discovered⟩
  · exact .inr hnew

/-- The other way: what a row that was there became is there. -/
theorem settled_of_row (hkeys : (s.tools.map GovernedToolDefinition.key).Nodup)
    (h : recordDiscovery c tenantId serverId discovered s = .ok () t) (hr : r ∈ s.tools) :
    ∃ r' ∈ t.tools, Settled c tenantId serverId discovered (existingTools tenantId serverId s.tools) r r' := by
  obtain ⟨rfl, -⟩ := recordDiscovery_ok h
  exact ⟨_, List.mem_append_left _ (List.mem_map_of_mem hr), settled hkeys hr discovered⟩

end

/-! ## A name advertised twice -/

/-- A first discovery is recorded. -/
def recordsFirst : Bool :=
  match recordDiscovery (sampleDiscovery sampleIds) "t" "srv" [advertised "a" "h1"] ClientStore.empty with
  | .ok _ _ => true
  | .error _ _ => false

/-- A name is advertised twice, and both tools of the name are enabled. -/
def twiceAdvertised : List ClientOp :=
  [.recordDiscovery (sampleDiscovery sampleIds) "t" "srv" [advertised "a" "h1", advertised "a" "h1"],
    .enableTool "t" "tool_1" 0 sampleDecision "bind_1", .enableTool "t" "tool_2" 0 sampleDecision "bind_2"]

end Tna.Client
