import Tna.Client.Operations

/-!
# Discovery

What a discovery does to the table of tools, row by row: what was there is drifted or gone or
left alone, and the names that were not there get rows at the end. It reads the table once,
at the start, by name; that is enough when no name is there twice and none that is new
comes twice.
-/

namespace Tna.Client

open Tna.Js Tna.Lib

/-- The rows a discovery is about. -/
def GovernedToolDefinition.ofServer (tenantId serverId : Text) (r : GovernedToolDefinition) : Bool :=
  r.tenantId = tenantId && r.providerId = serverId

section
variable (c : DiscoveryContext) (tenantId serverId : Text)

/-- What the rows of the server were when the discovery began. -/
def existingTools (tools : List GovernedToolDefinition) : List GovernedToolDefinition :=
  tools.filter (GovernedToolDefinition.ofServer tenantId serverId)

/-- A row after one advertised tool: it is drifted if it is the last row of the name and its schema changed. -/
def driftBy (existing : List GovernedToolDefinition) (r r' : GovernedToolDefinition) (tool : DiscoveredMcpTool) :
    GovernedToolDefinition :=
  match existingByName existing tool.name with
  | none => r'
  | some row =>
    if row.schemaHash = c.schemaHash tool.inputSchema then r'
    else if r.key = (tenantId, row.toolId) then r'.drifted (c.schemaHash tool.inputSchema) tool.inputSchema.val.stringify else r'

/-- A row after one row of the server was looked at. -/
def dropBy (discovered : List DiscoveredMcpTool) (r r' row : GovernedToolDefinition) : GovernedToolDefinition :=
  if discovered.any (fun tool => tool.name = row.externalToolName) || row.reviewStatus = .removed then r'
  else if r.key = (tenantId, row.toolId) then r'.gone else r'

/-- The row of a name that was not there. -/
def newRow (existing : List GovernedToolDefinition) (tool : DiscoveredMcpTool × Nat) : Option GovernedToolDefinition :=
  match existingByName existing tool.1.name with
  | none => some (newTool c tenantId serverId tool)
  | some _ => none

end

section
variable {c : DiscoveryContext} {tenantId serverId : Text} {existing rows : List GovernedToolDefinition} {s t : ClientStore}

/-! ## One row -/

@[simp] theorem drifted_key (r : GovernedToolDefinition) (h json : Text) : (r.drifted h json).key = r.key := rfl

@[simp] theorem gone_key (r : GovernedToolDefinition) : r.gone.key = r.key := rfl

theorem driftBy_key (r r' : GovernedToolDefinition) (tool : DiscoveredMcpTool) :
    (driftBy c tenantId existing r r' tool).key = r'.key := by
  unfold driftBy
  split
  · rfl
  · split
    · rfl
    · split <;> rfl

theorem foldl_driftBy_key (r r' : GovernedToolDefinition) (discovered : List DiscoveredMcpTool) :
    (discovered.foldl (driftBy c tenantId existing r) r').key = r'.key := by
  induction discovered generalizing r' with
  | nil => rfl
  | cons tool rest ih => rw [List.foldl_cons, ih, driftBy_key]

theorem dropBy_key (discovered : List DiscoveredMcpTool) (r r' row : GovernedToolDefinition) :
    (dropBy tenantId discovered r r' row).key = r'.key := by
  unfold dropBy
  split
  · rfl
  · split <;> rfl

theorem foldl_dropBy_key (discovered : List DiscoveredMcpTool) (r r' : GovernedToolDefinition) (known : List GovernedToolDefinition) :
    (known.foldl (dropBy tenantId discovered r) r').key = r'.key := by
  induction known generalizing r' with
  | nil => rfl
  | cons row rest ih => rw [List.foldl_cons, ih, dropBy_key]

variable {name : Text} {row r : GovernedToolDefinition} {f : GovernedToolDefinition → GovernedToolDefinition}
  {new : List GovernedToolDefinition} {discovered : List DiscoveredMcpTool}

theorem existingByName_some (h : existingByName existing name = some row) : row ∈ existing ∧ row.externalToolName = name := by
  have hname := List.find?_some h
  exact ⟨List.mem_reverse.1 (List.mem_of_find?_eq_some h), of_decide_eq_true hname⟩

theorem key_of_tenant (h : r.tenantId = tenantId) : r.key = (tenantId, r.toolId) := by
  rw [GovernedToolDefinition.key, h]

/-! ## The loops -/

/-- An update of rows that came from others, with rows after them that it does not select. -/
theorem update_map_append {key : Text × Text} {change : GovernedToolDefinition → GovernedToolDefinition}
    (hnew : ∀ n ∈ new, n.key ≠ key) :
    Rows.update (fun r => r.key = key) change (rows.map f ++ new) =
      (rows.map fun r => if (f r).key = key then change (f r) else f r) ++ new := by
  have hsame : Rows.update (fun r : GovernedToolDefinition => r.key = key) change new = new :=
    Rows.update_eq_self fun r hr => decide_eq_false (hnew r hr)
  rw [Rows.update, List.map_append, List.map_map]
  rw [Rows.update] at hsame
  rw [hsame]
  congr 1
  refine List.map_congr_left fun r _ => ?_
  simp

/-- The first loop: each row goes through what is advertised, and the rows of new names come after them. -/
theorem discover_ok {tools : List (DiscoveredMcpTool × Nat)} (hkey : ∀ r, (f r).key = r.key)
    (hexisting : ∀ r ∈ existing, r ∈ rows) (htenant : ∀ r ∈ existing, r.tenantId = tenantId)
    (hnew : ∀ n ∈ new, ∀ r ∈ rows, n.key ≠ r.key) (hs : s.tools = rows.map f ++ new)
    (h : forEach (discoverTool c tenantId serverId existing) tools s = .ok () t) :
    t = { s with
      tools := (rows.map fun r => (tools.map Prod.fst).foldl (driftBy c tenantId existing r) (f r)) ++
        (new ++ tools.filterMap (newRow c tenantId serverId existing)) } ∧
      ∀ n ∈ new ++ tools.filterMap (newRow c tenantId serverId existing), ∀ r ∈ rows, n.key ≠ r.key := by
  induction tools generalizing f new s with
  | nil =>
    obtain ⟨-, rfl⟩ := pure_ok.1 h
    simp only [List.map_nil, List.foldl_nil, List.filterMap_nil, List.append_nil]
    exact ⟨by rw [← hs], hnew⟩
  | cons tool rest ih =>
    obtain ⟨_, u, hfirst, hrest⟩ := bind_eq_ok.1 h
    unfold discoverTool at hfirst
    cases hname : existingByName existing tool.1.name with
    | none =>
      rw [hname] at hfirst
      obtain ⟨hfresh, rfl⟩ := insertTool_ok.1 hfirst
      have hrow : newRow c tenantId serverId existing tool = some (newTool c tenantId serverId tool) := by
        rw [newRow, hname]
      have hnew' : ∀ n ∈ new ++ [newTool c tenantId serverId tool],
          ∀ r ∈ rows, n.key ≠ r.key := by
        intro n hn r hr
        rcases List.mem_append.1 hn with hn | hn
        · exact hnew n hn r hr
        · rw [List.mem_singleton.1 hn, ← hkey r]
          refine (hfresh (f r) ?_).symm
          rw [hs]
          exact List.mem_append_left _ (List.mem_map_of_mem hr)
      obtain ⟨rfl, hkeys⟩ := ih hkey hnew' (by rw [hs, List.append_assoc]) hrest
      rw [List.append_assoc] at hkeys
      rw [List.filterMap_cons_some hrow]
      refine ⟨?_, hkeys⟩
      rw [List.append_assoc new]
      congr 2
      refine List.map_congr_left fun r _ => ?_
      rw [List.map_cons, List.foldl_cons]
      congr 1
      rw [driftBy, hname]
    | some row =>
      rw [hname] at hfirst
      simp only at hfirst
      have hrow : newRow c tenantId serverId existing tool = none := by
        rw [newRow, hname]
      rw [List.filterMap_cons_none hrow]
      split at hfirst
      · next hsame =>
        obtain ⟨-, rfl⟩ := pure_ok.1 hfirst
        obtain ⟨rfl, hkeys⟩ := ih hkey hnew hs hrest
        refine ⟨?_, hkeys⟩
        congr 2
        refine List.map_congr_left fun r _ => ?_
        rw [List.map_cons, List.foldl_cons]
        congr 1
        simp only [driftBy, hname, hsame, if_true]
      · next hchanged =>
        obtain ⟨_, _, hupdate, hpure⟩ := bind_eq_ok.1 hfirst
        obtain ⟨-, rfl⟩ := pure_ok.1 hpure
        obtain ⟨-, hu⟩ := updateTools_ok.1 hupdate
        obtain ⟨hmem, -⟩ := existingByName_some hname
        have hmiss : ∀ n ∈ new, n.key ≠ (tenantId, row.toolId) := by
          intro n hn
          rw [← key_of_tenant (htenant row hmem)]
          exact hnew n hn row (hexisting row hmem)
        have hkey' : ∀ r, (driftBy c tenantId existing r (f r) tool.1).key = r.key := fun r => by
          rw [driftBy_key, hkey]
        have htools : u.tools = (rows.map fun r => driftBy c tenantId existing r (f r) tool.1) ++ new := by
          rw [hu, hs]
          refine (update_map_append hmiss).trans ?_
          congr 1
          refine List.map_congr_left fun r _ => ?_
          simp only [driftBy, hname, if_neg hchanged, hkey]
        obtain ⟨rfl, hkeys⟩ := ih hkey' hnew htools hrest
        rw [hu]
        exact ⟨rfl, hkeys⟩

/-- The second loop: each row goes through the rows of the server. -/
theorem drop_ok {known : List GovernedToolDefinition} (hkey : ∀ r, (f r).key = r.key) (hknown : ∀ r ∈ known, r ∈ rows)
    (htenant : ∀ r ∈ known, r.tenantId = tenantId) (hnew : ∀ n ∈ new, ∀ r ∈ rows, n.key ≠ r.key)
    (hs : s.tools = rows.map f ++ new) (h : forEach (dropTool tenantId discovered) known s = .ok () t) :
    t = { s with tools := (rows.map fun r => known.foldl (dropBy tenantId discovered r) (f r)) ++ new } := by
  induction known generalizing f s with
  | nil =>
    obtain ⟨-, rfl⟩ := pure_ok.1 h
    simp only [List.foldl_nil]
    rw [← hs]
  | cons row rest ih =>
    obtain ⟨_, u, hfirst, hrest⟩ := bind_eq_ok.1 h
    have hknown' : ∀ r ∈ rest, r ∈ rows := fun r hr => hknown r (.tail _ hr)
    have htenant' : ∀ r ∈ rest, r.tenantId = tenantId := fun r hr => htenant r (.tail _ hr)
    unfold dropTool at hfirst
    split at hfirst
    · next hstays =>
      obtain ⟨-, rfl⟩ := pure_ok.1 hfirst
      obtain rfl := ih hkey hknown' htenant' hs hrest
      congr 2
      refine List.map_congr_left fun r _ => ?_
      rw [List.foldl_cons, dropBy, if_pos hstays]
    · next hgone =>
      obtain ⟨_, _, hupdate, hpure⟩ := bind_eq_ok.1 hfirst
      obtain ⟨-, rfl⟩ := pure_ok.1 hpure
      obtain ⟨-, hu⟩ := updateTools_ok.1 hupdate
      have hmiss : ∀ n ∈ new, n.key ≠ (tenantId, row.toolId) := by
        intro n hn
        rw [← key_of_tenant (htenant row (.head _))]
        exact hnew n hn row (hknown row (.head _))
      have htools : u.tools = (rows.map fun r => dropBy tenantId discovered r (f r) row) ++ new := by
        rw [hu, hs]
        refine (update_map_append hmiss).trans ?_
        congr 1
        refine List.map_congr_left fun r _ => ?_
        simp only [dropBy, if_neg hgone, hkey]
      rw [ih (fun r => by rw [dropBy_key, hkey]) hknown' htenant' htools hrest, hu]
      rfl

/-- **What a discovery leaves**: every row that was there goes through both loops, the rows of new names come after them,
and the server is reachable. -/
theorem recordDiscovery_ok (h : recordDiscovery c tenantId serverId discovered s = .ok () t) :
    t = { s with
      tools := (s.tools.map fun r => (existingTools tenantId serverId s.tools).foldl (dropBy tenantId discovered r)
          (discovered.foldl (driftBy c tenantId (existingTools tenantId serverId s.tools) r) r)) ++
        discovered.zipIdx.filterMap (newRow c tenantId serverId (existingTools tenantId serverId s.tools))
      servers := Rows.update (fun r => r.tenantId = tenantId && r.mcpServerId = serverId)
        (fun r => { r with status := .reachable, stateVersion := r.stateVersion + 1 }) s.servers } ∧
      ∀ n ∈ discovered.zipIdx.filterMap (newRow c tenantId serverId (existingTools tenantId serverId s.tools)),
        ∀ r ∈ s.tools, n.key ≠ r.key := by
  have hexisting : ∀ r ∈ existingTools tenantId serverId s.tools, r ∈ s.tools := fun r hr => List.mem_of_mem_filter hr
  have htenant : ∀ r ∈ existingTools tenantId serverId s.tools, r.tenantId = tenantId := by
    intro r hr
    have hours := (List.mem_filter.1 hr).2
    rw [GovernedToolDefinition.ofServer, Bool.and_eq_true] at hours
    exact of_decide_eq_true hours.1
  have hnone : ∀ n ∈ ([] : List GovernedToolDefinition), ∀ r ∈ s.tools, n.key ≠ r.key := List.forall_mem_nil _
  unfold recordDiscovery at h
  simp only [bind_eq_ok, demand_eq_ok, get_ok, updateServers_ok, pure_ok] at h
  obtain ⟨_, _, ⟨-, rfl⟩, _, _, ⟨rfl, rfl⟩, _, u, hdiscover, _, v, hdrop, _, _, ⟨-, rfl⟩, -, rfl⟩ := h
  obtain ⟨rfl, hkeys⟩ := discover_ok (f := id) (fun _ => rfl) hexisting htenant hnone (by simp) hdiscover
  rw [List.nil_append] at hkeys
  rw [drop_ok (fun r => foldl_driftBy_key r r _) hexisting htenant hkeys rfl hdrop]
  rw [List.zipIdx_map_fst]
  exact ⟨rfl, hkeys⟩

theorem length_of_recordDiscovery (h : recordDiscovery c tenantId serverId discovered s = .ok () t) :
    discovered.length ≤ maxToolsPerServer := by
  unfold recordDiscovery at h
  simp only [bind_eq_ok, demand_eq_ok] at h
  obtain ⟨_, _, ⟨hlength, -⟩, -⟩ := h
  exact of_decide_eq_true hlength

/-! ## One row after both loops -/

variable (c tenantId existing) in
/-- What the first loop does to a row. -/
theorem driftAll_cases (r r' : GovernedToolDefinition) (discovered : List DiscoveredMcpTool) :
    let final := discovered.foldl (driftBy c tenantId existing r) r'
    (final = r' ∧ ∀ tool ∈ discovered, ∀ row, existingByName existing tool.name = some row → r.key = (tenantId, row.toolId) →
        row.schemaHash = c.schemaHash tool.inputSchema) ∨
      final.enabled = false ∧ final.tenantId = r'.tenantId ∧ final.providerId = r'.providerId ∧
        final.externalToolName = r'.externalToolName ∧
        ∃ tool ∈ discovered, ∃ row, existingByName existing tool.name = some row ∧ r.key = (tenantId, row.toolId) := by
  induction discovered generalizing r' with
  | nil => exact .inl ⟨rfl, fun _ h => nomatch h⟩
  | cons tool rest ih =>
    intro final
    have hstep : (driftBy c tenantId existing r r' tool = r' ∧ ∀ row, existingByName existing tool.name = some row →
          r.key = (tenantId, row.toolId) → row.schemaHash = c.schemaHash tool.inputSchema) ∨
        (∃ row, existingByName existing tool.name = some row ∧ r.key = (tenantId, row.toolId)) ∧
          driftBy c tenantId existing r r' tool = r'.drifted (c.schemaHash tool.inputSchema) tool.inputSchema.val.stringify := by
      unfold driftBy
      cases hname : existingByName existing tool.name with
      | none => exact .inl ⟨rfl, fun _ h => nomatch h⟩
      | some row =>
        by_cases hsame : row.schemaHash = c.schemaHash tool.inputSchema
        · refine .inl ⟨if_pos hsame, fun row' h _ => ?_⟩
          cases h
          exact hsame
        · by_cases hkey : r.key = (tenantId, row.toolId)
          · refine .inr ⟨⟨row, rfl, hkey⟩, ?_⟩
            simp only [if_neg hsame, if_pos hkey]
          · refine .inl ⟨?_, fun row' h hkey' => ?_⟩
            · simp only [if_neg hsame, if_neg hkey]
            · cases h
              exact absurd hkey' hkey
    have hrest := ih (driftBy c tenantId existing r r' tool)
    rcases hstep with ⟨hsame, hhash⟩ | ⟨⟨row, hrow, hkey⟩, hdrift⟩
    · rw [hsame] at hrest
      have hfinal : final = rest.foldl (driftBy c tenantId existing r) r' := by
        simp only [final, List.foldl_cons, hsame]
      rw [hfinal]
      rcases hrest with ⟨hstays, hall⟩ | ⟨hoff, htenant, hprovider, hname, found, hfound, hrow⟩
      · exact .inl ⟨hstays, List.forall_mem_cons.2 ⟨hhash, hall⟩⟩
      · exact .inr ⟨hoff, htenant, hprovider, hname, found, .tail _ hfound, hrow⟩
    · rw [hdrift] at hrest
      have hfinal : final = rest.foldl (driftBy c tenantId existing r) (r'.drifted (c.schemaHash tool.inputSchema) tool.inputSchema.val.stringify) := by
        simp only [final, List.foldl_cons, hdrift]
      rw [hfinal]
      right
      rcases hrest with ⟨hstays, -⟩ | ⟨hoff, htenant, hprovider, hname, -⟩
      · rw [hstays]
        exact ⟨rfl, rfl, rfl, rfl, tool, .head _, row, hrow, hkey⟩
      · exact ⟨hoff, htenant, hprovider, hname, tool, .head _, row, hrow, hkey⟩

variable (tenantId) in
/-- What the second loop does to a row. -/
theorem dropAll_cases (r r' : GovernedToolDefinition) (discovered : List DiscoveredMcpTool) (known : List GovernedToolDefinition) :
    let final := known.foldl (dropBy tenantId discovered r) r'
    (final = r' ∧ ∀ row ∈ known, r.key = (tenantId, row.toolId) →
        (∃ tool ∈ discovered, tool.name = row.externalToolName) ∨ row.reviewStatus = .removed) ∨
      final.enabled = false ∧ final.reviewStatus = .removed ∧ final.tenantId = r'.tenantId ∧ final.providerId = r'.providerId ∧
        final.externalToolName = r'.externalToolName ∧
        ∃ row ∈ known, r.key = (tenantId, row.toolId) ∧ row.reviewStatus ≠ .removed ∧
          ∀ tool ∈ discovered, tool.name ≠ row.externalToolName := by
  induction known generalizing r' with
  | nil => exact .inl ⟨rfl, fun _ h => nomatch h⟩
  | cons row rest ih =>
    intro final
    have hstep : (dropBy tenantId discovered r r' row = r' ∧ (r.key = (tenantId, row.toolId) →
          (∃ tool ∈ discovered, tool.name = row.externalToolName) ∨ row.reviewStatus = .removed)) ∨
        (r.key = (tenantId, row.toolId) ∧ row.reviewStatus ≠ .removed ∧
            ∀ tool ∈ discovered, tool.name ≠ row.externalToolName) ∧
          dropBy tenantId discovered r r' row = r'.gone := by
      unfold dropBy
      split
      · next hstays =>
        refine .inl ⟨rfl, fun _ => ?_⟩
        simpa [List.any_eq_true] using hstays
      · next hgone =>
        simp only [Bool.or_eq_true, List.any_eq_true, decide_eq_true_eq, not_or, not_exists, not_and] at hgone
        split
        · next hkey => exact .inr ⟨⟨hkey, hgone.2, hgone.1⟩, rfl⟩
        · next hkey => exact .inl ⟨rfl, fun h => absurd h hkey⟩
    have hrest := ih (dropBy tenantId discovered r r' row)
    rcases hstep with ⟨hsame, hstays⟩ | ⟨⟨hkey, hgone⟩, hdrop⟩
    · rw [hsame] at hrest
      have hfinal : final = rest.foldl (dropBy tenantId discovered r) r' := by
        simp only [final, List.foldl_cons, hsame]
      rw [hfinal]
      rcases hrest with ⟨hsame', hall⟩ | ⟨hoff, hremoved, htenant, hprovider, hname, found, hfound, hrow⟩
      · exact .inl ⟨hsame', List.forall_mem_cons.2 ⟨hstays, hall⟩⟩
      · exact .inr ⟨hoff, hremoved, htenant, hprovider, hname, found, .tail _ hfound, hrow⟩
    · rw [hdrop] at hrest
      have hfinal : final = rest.foldl (dropBy tenantId discovered r) r'.gone := by
        simp only [final, List.foldl_cons, hdrop]
      rw [hfinal]
      right
      rcases hrest with ⟨hsame', -⟩ | ⟨hoff, hremoved, htenant, hprovider, hname, -⟩
      · rw [hsame']
        exact ⟨rfl, rfl, rfl, rfl, rfl, row, .head _, hkey, hgone⟩
      · exact ⟨hoff, hremoved, htenant, hprovider, hname, row, .head _, hkey, hgone⟩

/-- A discovery enables nothing. -/
theorem enabled_of_recordDiscovery (h : recordDiscovery c tenantId serverId discovered s = .ok () t) (hr : r ∈ t.tools)
    (henabled : r.enabled = true) : r ∈ s.tools := by
  obtain ⟨rfl, -⟩ := recordDiscovery_ok h
  rcases List.mem_append.1 hr with hold | hnew
  · obtain ⟨old, hmem, rfl⟩ := List.mem_map.1 hold
    rcases dropAll_cases tenantId old (discovered.foldl (driftBy c tenantId (existingTools tenantId serverId s.tools) old) old) discovered
      (existingTools tenantId serverId s.tools) with ⟨hdrop, -⟩ | ⟨hoff, -⟩
    · rw [hdrop] at henabled ⊢
      rcases driftAll_cases c tenantId (existingTools tenantId serverId s.tools) old old discovered with
        ⟨hdrift, -⟩ | ⟨hoff, -⟩
      · rw [hdrift]
        exact hmem
      · rw [hoff] at henabled
        cases henabled
    · rw [hoff] at henabled
      cases henabled
  · obtain ⟨tool, -, hrow⟩ := List.mem_filterMap.1 hnew
    unfold newRow at hrow
    split at hrow
    · cases hrow
      cases henabled
    · cases hrow

/-- What a discovery does to a row that was there. -/
inductive Settled (c : DiscoveryContext) (tenantId serverId : Text) (discovered : List DiscoveredMcpTool)
    (existing : List GovernedToolDefinition) (r r' : GovernedToolDefinition) : Prop where
  | other (hother : r.ofServer tenantId serverId = false) (hsame : r' = r)
  | known (hours : r.ofServer tenantId serverId = true) (hadvertised : ∃ tool ∈ discovered, tool.name = r.externalToolName)
      (hhash : ∀ tool ∈ discovered, existingByName existing tool.name = some r →
        r.schemaHash = c.schemaHash tool.inputSchema) (hsame : r' = r)
  | drifted (hours : r.ofServer tenantId serverId = true) (hadvertised : ∃ tool ∈ discovered, tool.name = r.externalToolName)
      (hours' : r'.ofServer tenantId serverId = true) (hname : r'.externalToolName = r.externalToolName)
      (hoff : r'.enabled = false)
  | stays (hours : r.ofServer tenantId serverId = true) (habsent : ∀ tool ∈ discovered, tool.name ≠ r.externalToolName)
      (hremoved : r.reviewStatus = .removed) (hsame : r' = r)
  | gone (hours : r.ofServer tenantId serverId = true) (habsent : ∀ tool ∈ discovered, tool.name ≠ r.externalToolName)
      (hstood : r.reviewStatus ≠ .removed) (hours' : r'.ofServer tenantId serverId = true)
      (hname : r'.externalToolName = r.externalToolName) (hoff : r'.enabled = false) (hremoved : r'.reviewStatus = .removed)

theorem eq_of_key (hkeys : (rows.map GovernedToolDefinition.key).Nodup) (hr : r ∈ rows) (hrow : row ∈ rows)
    (h : r.key = row.key) : r = row :=
  List.inj_on_of_nodup_map hkeys hr hrow h

theorem mem_existingTools :
    r ∈ existingTools tenantId serverId rows ↔ r ∈ rows ∧ r.ofServer tenantId serverId = true := List.mem_filter

theorem ofServer_iff : r.ofServer tenantId serverId = true ↔ r.tenantId = tenantId ∧ r.providerId = serverId := by
  simp [GovernedToolDefinition.ofServer]

/-- **Every row that was there is settled.** -/
theorem settled (hkeys : (rows.map GovernedToolDefinition.key).Nodup) (hr : r ∈ rows) (discovered : List DiscoveredMcpTool) :
    Settled c tenantId serverId discovered (existingTools tenantId serverId rows) r
      ((existingTools tenantId serverId rows).foldl (dropBy tenantId discovered r)
        (discovered.foldl (driftBy c tenantId (existingTools tenantId serverId rows) r) r)) := by
  have hrow : ∀ row ∈ existingTools tenantId serverId rows, r.key = (tenantId, row.toolId) → row = r := by
    intro row hrow hkey
    obtain ⟨hmem, hours⟩ := mem_existingTools.1 hrow
    rw [← key_of_tenant (ofServer_iff.1 hours).1] at hkey
    exact (eq_of_key hkeys hr hmem hkey).symm
  have hself : r.ofServer tenantId serverId = true → r.key = (tenantId, r.toolId) := fun h => key_of_tenant (ofServer_iff.1 h).1
  cases hours : r.ofServer tenantId serverId with
  | false =>
    have hnot : ∀ row ∈ existingTools tenantId serverId rows, r.key ≠ (tenantId, row.toolId) := by
      intro row hmem hkey
      have heq := hrow row hmem hkey
      subst heq
      rw [(mem_existingTools.1 hmem).2] at hours
      cases hours
    refine .other hours ?_
    rcases dropAll_cases tenantId r (discovered.foldl (driftBy c tenantId (existingTools tenantId serverId rows) r) r) discovered
      (existingTools tenantId serverId rows) with ⟨hdrop, -⟩ | ⟨-, -, -, -, -, row, hmem, hkey, -, -⟩
    · rw [hdrop]
      rcases driftAll_cases c tenantId (existingTools tenantId serverId rows) r r discovered with
        ⟨hdrift, -⟩ | ⟨-, -, -, -, tool, -, row, hname, hkey⟩
      · exact hdrift
      · exact absurd hkey (hnot row (existingByName_some hname).1)
    · exact absurd hkey (hnot row hmem)
  | true =>
    have hmem : r ∈ existingTools tenantId serverId rows := mem_existingTools.2 ⟨hr, hours⟩
    rcases driftAll_cases c tenantId (existingTools tenantId serverId rows) r r discovered with
      ⟨hdrift, hhash⟩ | ⟨hoff, htenant, hprovider, hname, tool, htool, row, hfound, hkey⟩
    · rw [hdrift]
      rcases dropAll_cases tenantId r r discovered (existingTools tenantId serverId rows) with
        ⟨hdrop, hall⟩ | ⟨hoff, hremoved, htenant, hprovider, hname, row, hmem', hkey, hstood, habsent⟩
      · by_cases hadvertised : ∃ tool ∈ discovered, tool.name = r.externalToolName
        · exact .known hours hadvertised (fun tool htool hfound => hhash tool htool r hfound (hself hours)) hdrop
        · have habsent : ∀ tool ∈ discovered, tool.name ≠ r.externalToolName := by simpa using hadvertised
          rcases hall r hmem (hself hours) with hadvertised' | hremoved
          · exact absurd hadvertised' hadvertised
          · exact .stays hours habsent hremoved hdrop
      · obtain rfl := hrow row hmem' hkey
        obtain ⟨hours₁, hours₂⟩ := ofServer_iff.1 hours
        exact .gone hours habsent hstood (ofServer_iff.2 ⟨htenant.trans hours₁, hprovider.trans hours₂⟩) hname hoff hremoved
    · obtain ⟨hmem', htoolName⟩ := existingByName_some hfound
      obtain rfl := hrow row hmem' hkey
      obtain ⟨hours₁, hours₂⟩ := ofServer_iff.1 hours
      have hdrop : ∀ r', (existingTools tenantId serverId rows).foldl (dropBy tenantId discovered row) r' = r' := by
        intro r'
        rcases dropAll_cases tenantId row r' discovered (existingTools tenantId serverId rows) with
          ⟨hdrop, -⟩ | ⟨-, -, -, -, -, row', hmem'', hkey', -, habsent⟩
        · exact hdrop
        · obtain rfl := hrow row' hmem'' hkey'
          exact absurd htoolName.symm (habsent tool htool)
      rw [hdrop]
      exact .drifted hours ⟨tool, htool, htoolName.symm⟩
        (ofServer_iff.2 ⟨htenant.trans hours₁, hprovider.trans hours₂⟩) hname hoff

end

/-! ## Sample tools -/

/-- Schemas are texts that are their own hashes. -/
def sampleDiscovery (ids : Nat → Text) : DiscoveryContext where
  schemaHash schema := match schema.val with
    | .str hash => hash
    | _ => []
  newToolId := ids
  now := []

def advertised (name hash : Text) : DiscoveredMcpTool := ⟨name, JsValue.ofText hash⟩

def sampleIds (i : Nat) : Text := if i = 0 then Text.ofAscii "tool_1" else Text.ofAscii "tool_2"

def sampleInput : McpServerRegisterInput := ⟨"srv", "/bin/mcp", ["--v1"], []⟩

def sampleDecision : ToolDecision where
  riskClass := .low
  allowedOperations := ["read"]
  resourcePatterns := ["*"]
  requiresHumanApproval := false
  requiresVad := false
  policyId := "p"
  boundBy := "op"

end Tna.Client
