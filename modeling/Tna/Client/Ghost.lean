import Tna.Client.Reconciled

/-!
# Tools that are gone

A tool that is no longer advertised is marked `REMOVED` and cannot be enabled. The mark is a
status like any other: it stays until its server advertises the name again or, which is the
one way around, the tool is disabled by hand.
-/

namespace Tna.Client

open Tna.Js Tna.Lib

/-- The operation is a discovery in which the server advertises the name. -/
def ClientOp.advertises (tenantId serverId name : Text) : ClientOp → Prop
  | .recordDiscovery _ tenantId' serverId' discovered =>
    tenantId' = tenantId ∧ serverId' = serverId ∧ ∃ tool ∈ discovered, tool.name = name
  | _ => False

/-- The operation disables no tool that is `REMOVED`. -/
def ClientOp.leavesRemoved (s : ClientStore) : ClientOp → Prop
  | .disableTool tenantId toolId expectedVersion =>
    ∀ r ∈ s.tools, r.key = (tenantId, toolId) → r.stateVersion = expectedVersion → r.reviewStatus ≠ .removed
  | _ => True

section
variable {s t : ClientStore} {sha256 : Text → Text} {op : ClientOp}

/-! ## The table of tools -/

/-- Keys of tools are distinct, and no removed tool is enabled. -/
structure ToolTable (s : ClientStore) : Prop where
  distinct : (s.tools.map GovernedToolDefinition.key).Nodup
  removed : ∀ r ∈ s.tools, r.reviewStatus = .removed → r.enabled = false

theorem forEach_keeps {α : Type} {body : α → ClientStatement Unit} {I : ClientStore → Prop}
    (hbody : ∀ a s t, body a s = .ok () t → I s → I t) {l : List α} (h : forEach body l s = .ok () t) (hs : I s) : I t := by
  induction l generalizing s with
  | nil =>
    obtain ⟨-, rfl⟩ := pure_ok.1 h
    exact hs
  | cons a rest ih =>
    obtain ⟨_, u, hfirst, hrest⟩ := bind_eq_ok.1 h
    exact ih hrest (hbody a s u hfirst hs)

variable {change : GovernedToolDefinition → GovernedToolDefinition} {selected : GovernedToolDefinition → Bool}
  {row : GovernedToolDefinition} {c : DiscoveryContext} {tenantId : Text} {discovered : List DiscoveredMcpTool}

/-- **What a discovery keeps**: whatever is kept when a tool is inserted, drifts or goes, and when the server is reachable. -/
theorem keeps_of_discovery {I : ClientStore → Prop} {serverId : Text}
    (hok : recordDiscovery c tenantId serverId discovered s = .ok () t)
    (hinsert : ∀ u v tool, insertTool (newTool c tenantId serverId tool) u = .ok () v → I u → I v)
    (hdrift : ∀ u selected (schema : JsValue), I u →
      I { u with tools := Rows.update selected (fun r => r.drifted (c.schemaHash schema) schema.val.stringify) u.tools })
    (hgone : ∀ u selected, I u → I { u with tools := Rows.update selected GovernedToolDefinition.gone u.tools })
    (hreach : ∀ u selected, I u → I { u with servers := Rows.update selected (fun r =>
      { r with status := .reachable, stateVersion := r.stateVersion + 1 }) u.servers }) (hs : I s) : I t := by
  unfold recordDiscovery at hok
  simp only [bind_eq_ok, demand_eq_ok, get_ok, updateServers_ok, pure_ok] at hok
  obtain ⟨_, _, ⟨-, rfl⟩, _, _, ⟨rfl, rfl⟩, _, u, hdiscover, _, v, hdrop, _, _, ⟨-, rfl⟩, -, rfl⟩ := hok
  refine hreach _ _ (forEach_keeps (I := I) (fun row v w hbody hv => ?_) hdrop
    (forEach_keeps (I := I) (fun tool v w hbody hv => ?_) hdiscover hs))
  · unfold dropTool at hbody
    split at hbody
    · obtain ⟨-, rfl⟩ := pure_ok.1 hbody
      exact hv
    · simp only [bind_eq_ok, updateTools_ok, pure_ok] at hbody
      obtain ⟨_, _, ⟨-, rfl⟩, -, rfl⟩ := hbody
      exact hgone _ _ hv
  · unfold discoverTool at hbody
    generalize existingByName _ tool.1.name = found at hbody
    cases found with
    | none => exact hinsert v w tool hbody hv
    | some row =>
      simp only at hbody
      split at hbody
      · obtain ⟨-, rfl⟩ := pure_ok.1 hbody
        exact hv
      · simp only [bind_eq_ok, updateTools_ok, pure_ok] at hbody
        obtain ⟨_, _, ⟨-, rfl⟩, -, rfl⟩ := hbody
        exact hdrift _ _ _ hv

/-- Columns that keep the keys distinct, and remove nothing that they leave enabled. -/
theorem ToolTable.of_update (h : ToolTable s) (ht : t.tools = Rows.update selected change s.tools)
    (hkey : ∀ r, (change r).key = r.key) (hremoved : ∀ r, (change r).reviewStatus = .removed → (change r).enabled = false) :
    ToolTable t := by
  constructor
  · rw [ht, Rows.map_update fun r _ _ => hkey r]
    exact h.distinct
  · intro r hr hstatus
    rw [ht] at hr
    obtain ⟨old, hold, ⟨-, rfl⟩ | ⟨-, rfl⟩⟩ := Rows.mem_update.1 hr
    · exact hremoved old hstatus
    · exact h.removed r hold hstatus

theorem ToolTable.of_tools (h : ToolTable s) (ht : t.tools = s.tools) : ToolTable t := ⟨ht ▸ h.distinct, ht ▸ h.removed⟩

theorem ToolTable.of_insert (h : ToolTable s) {u : Unit} (hoff : row.enabled = false) (hok : insertTool row s = .ok u t) :
    ToolTable t := by
  obtain ⟨hnew, rfl⟩ := insertTool_ok.1 hok
  constructor
  · rw [List.map_append, List.nodup_append]
    refine ⟨h.distinct, List.nodup_singleton _, ?_⟩
    intro key hkey key' hkey' heq
    obtain ⟨r, hr, rfl⟩ := List.mem_map.1 hkey
    rw [List.map_singleton, List.mem_singleton] at hkey'
    exact hnew r hr (heq.trans hkey')
  · intro r hr hstatus
    rcases List.mem_append.1 hr with hr | hr
    · exact h.removed r hr hstatus
    · rw [List.mem_singleton.1 hr]
      exact hoff

theorem ToolTable.of_discovery (h : ToolTable s) {serverId : Text}
    (hok : recordDiscovery c tenantId serverId discovered s = .ok () t) : ToolTable t := by
  refine keeps_of_discovery (I := ToolTable) hok (fun _ _ _ hins hu => hu.of_insert rfl hins) (fun u _ _ hu => ?_)
    (fun u _ hu => hu.of_update rfl gone_key fun _ _ => rfl) (fun _ _ hu => hu.of_tools rfl) h
  exact hu.of_update rfl (fun r => drifted_key r _ _) (by simp [GovernedToolDefinition.drifted])

/-- **Every operation keeps the table of tools.** -/
theorem toolTable_step (h : op.Step sha256 s t) (hs : ToolTable s) : ToolTable t := by
  rcases body_or_same h with hok | rfl
  swap
  · exact hs
  cases op with
  | createTenant =>
    obtain ⟨-, rfl⟩ := insertTenant_ok.1 hok
    exact hs.of_tools rfl
  | activateTenant | suspendTenant | resumeTenant | completeOffboarding =>
    obtain ⟨-, -, -, -, rfl⟩ := transitionTenant_ok hok
    exact hs.of_tools rfl
  | beginOffboarding =>
    obtain ⟨-, rfl⟩ := beginOffboarding_ok hok
    exact hs.of_update rfl (fun _ => rfl) fun _ h => nomatch h
  | createServiceIdentity =>
    obtain ⟨-, -, rfl⟩ := createServiceIdentity_ok hok
    exact hs.of_tools rfl
  | rotateCredential =>
    obtain ⟨-, -, rfl⟩ := rotateCredential_ok hok
    exact hs.of_tools rfl
  | revokeServiceIdentity =>
    obtain ⟨-, rfl⟩ := revokeServiceIdentity_ok hok
    exact hs.of_tools rfl
  | registerMcpServer =>
    obtain ⟨-, rfl⟩ := registerMcpServer_ok hok
    exact hs.of_tools rfl
  | setMcpServerStatus =>
    obtain ⟨-, rfl⟩ := setMcpServerStatus_ok hok
    exact hs.of_tools rfl
  | reconfigureMcpServer =>
    obtain ⟨-, rfl⟩ := reconfigureMcpServer_ok hok
    exact hs.of_update rfl (fun _ => rfl) fun _ h => nomatch h
  | recordDiscovery => exact hs.of_discovery hok
  | enableTool =>
    obtain ⟨-, rfl⟩ := enableTool_ok hok
    exact hs.of_update rfl (fun _ => rfl) fun _ h => nomatch h
  | disableTool =>
    obtain rfl := disableTool_ok hok
    exact hs.of_update rfl (fun _ => rfl) fun _ h => nomatch h
  | recordClientAction =>
    obtain rfl := recordClientAction_ok hok
    exact hs.of_tools rfl

theorem toolTable_of_run {ops : List ClientOp} (hrun : Run (ClientOp.Step sha256) ClientStore.empty ops s) : ToolTable s :=
  hrun.invariant (I := ToolTable) (fun _ _ _ hstep => toolTable_step hstep) ⟨List.nodup_nil, fun _ h => nomatch h⟩

/-! ## A tool that is gone -/

/-- The tool of a key is there, and is a removed tool of the server and the name. -/
structure Gone (key : Text × Text) (serverId name : Text) (s : ClientStore) : Prop where
  there : ∃ r ∈ s.tools, r.key = key
  gone : ∀ r ∈ s.tools, r.key = key → r.reviewStatus = .removed ∧ r.enabled = false ∧ r.providerId = serverId ∧
    r.externalToolName = name

variable {key : Text × Text} {serverId name : Text}

theorem Gone.of_tools (h : Gone key serverId name s) (ht : t.tools = s.tools) : Gone key serverId name t :=
  ⟨ht ▸ h.there, ht ▸ h.gone⟩

/-- Columns written to other rows. -/
theorem Gone.of_update (h : Gone key serverId name s) (ht : t.tools = Rows.update selected change s.tools)
    (hkey : ∀ r, (change r).key = r.key) (hmiss : ∀ r ∈ s.tools, r.key = key → selected r = false) :
    Gone key serverId name t := by
  constructor
  · obtain ⟨r, hr, hsame⟩ := h.there
    exact ⟨r, ht ▸ Rows.mem_update_of_unselected hr (hmiss r hr hsame), hsame⟩
  · intro r hr hsame
    rw [ht] at hr
    obtain ⟨old, hold, ⟨hselected, rfl⟩ | ⟨-, rfl⟩⟩ := Rows.mem_update.1 hr
    · rw [hkey] at hsame
      rw [hmiss old hold hsame] at hselected
      cases hselected
    · exact h.gone r hold hsame

/-- A discovery that does not advertise the name leaves a removed tool of it alone. -/
theorem Gone.of_discovery (h : Gone key serverId name s) (hs : ToolTable s) {serverId' : Text}
    (hok : recordDiscovery c tenantId serverId' discovered s = .ok () t)
    (hnot : ¬ (ClientOp.recordDiscovery c tenantId serverId' discovered).advertises key.1 serverId name) :
    Gone key serverId name t := by
  have hsame : ∀ r ∈ s.tools, r.key = key → ∀ r', Settled c tenantId serverId' discovered
      (existingTools tenantId serverId' s.tools) r r' → r' = r := by
    intro r hr hkey r' hsettled
    obtain ⟨hremoved, -, hprovider, hname⟩ := h.gone r hr hkey
    have habsent : r.ofServer tenantId serverId' = true → ¬ ∃ tool ∈ discovered, tool.name = r.externalToolName := by
      intro hours hadvertised
      obtain ⟨htenant, hserver⟩ := ofServer_iff.1 hours
      refine hnot ⟨?_, hserver.symm.trans hprovider, hname ▸ hadvertised⟩
      rw [← htenant, ← hkey]
      rfl
    cases hsettled with
    | other _ hsame => exact hsame
    | known _ _ _ hsame => exact hsame
    | drifted hours hadvertised => exact absurd hadvertised (habsent hours)
    | stays _ _ _ hsame => exact hsame
    | gone _ _ hstood => exact absurd hremoved hstood
  constructor
  · obtain ⟨r, hr, hkey⟩ := h.there
    obtain ⟨r', hr', hsettled⟩ := settled_of_row hs.distinct hok hr
    rw [hsame r hr hkey r' hsettled] at hr'
    exact ⟨r, hr', hkey⟩
  · intro r' hr' hkey
    rcases row_of_discovery hs.distinct hok hr' with ⟨r, hr, hkey', hsettled⟩ | hnew
    · rw [hsame r hr (hkey'.trans hkey) r' hsettled]
      exact h.gone r hr (hkey'.trans hkey)
    · obtain ⟨r, hr, hkey'⟩ := h.there
      obtain ⟨-, hfresh⟩ := recordDiscovery_ok hok
      exact absurd (hkey.trans hkey'.symm) (hfresh r' hnew r hr)

/-- **Every operation that disables no removed tool, and is no discovery of the name**, leaves a removed tool as it is. -/
theorem gone_step (h : op.Step sha256 s t) (hleaves : op.leavesRemoved s) (hnot : ¬ op.advertises key.1 serverId name)
    (hs : ToolTable s) (hgone : Gone key serverId name s) : Gone key serverId name t := by
  rcases body_or_same h with hok | rfl
  swap
  · exact hgone
  cases op with
  | createTenant =>
    obtain ⟨-, rfl⟩ := insertTenant_ok.1 hok
    exact hgone.of_tools rfl
  | activateTenant | suspendTenant | resumeTenant | completeOffboarding =>
    obtain ⟨-, -, -, -, rfl⟩ := transitionTenant_ok hok
    exact hgone.of_tools rfl
  | beginOffboarding =>
    obtain ⟨-, rfl⟩ := beginOffboarding_ok hok
    refine hgone.of_update rfl (fun _ => rfl) fun r hr hkey => ?_
    simp [(hgone.gone r hr hkey).2.1]
  | createServiceIdentity =>
    obtain ⟨-, -, rfl⟩ := createServiceIdentity_ok hok
    exact hgone.of_tools rfl
  | rotateCredential =>
    obtain ⟨-, -, rfl⟩ := rotateCredential_ok hok
    exact hgone.of_tools rfl
  | revokeServiceIdentity =>
    obtain ⟨-, rfl⟩ := revokeServiceIdentity_ok hok
    exact hgone.of_tools rfl
  | registerMcpServer =>
    obtain ⟨-, rfl⟩ := registerMcpServer_ok hok
    exact hgone.of_tools rfl
  | setMcpServerStatus =>
    obtain ⟨-, rfl⟩ := setMcpServerStatus_ok hok
    exact hgone.of_tools rfl
  | reconfigureMcpServer =>
    obtain ⟨-, rfl⟩ := reconfigureMcpServer_ok hok
    refine hgone.of_update rfl (fun _ => rfl) fun r hr hkey => ?_
    simp [(hgone.gone r hr hkey).2.1]
  | recordDiscovery => exact hgone.of_discovery hs hok hnot
  | enableTool tenantId toolId version decision bindingId =>
    obtain ⟨⟨current, hmem, hkey, -, hstatus⟩, rfl⟩ := enableTool_ok hok
    refine hgone.of_update rfl (fun _ => rfl) fun r hr hsame => ?_
    simp only [Bool.and_eq_false_iff, decide_eq_false_iff_not]
    refine .inl fun hselected => hstatus (hgone.gone current hmem ?_).1
    rw [hkey, ← hselected, hsame]
  | disableTool tenantId toolId version =>
    obtain rfl := disableTool_ok hok
    refine hgone.of_update rfl (fun _ => rfl) fun r hr hkey => ?_
    by_contra hselected
    simp only [Bool.not_eq_false, Bool.and_eq_true, decide_eq_true_eq] at hselected
    exact hleaves r hr hselected.1 hselected.2 (hgone.gone r hr hkey).1
  | recordClientAction =>
    obtain rfl := recordClientAction_ok hok
    exact hgone.of_tools rfl

/-- **No ghosts.** As long as no operation disables a tool that is `REMOVED`, such a tool is not enabled again before its
server advertises its name again. -/
theorem not_enabled_of_run {before later : List ClientOp} (hbefore : Run (ClientOp.Step sha256) ClientStore.empty before s)
    {r : GovernedToolDefinition} (hr : r ∈ s.tools) (hremoved : r.reviewStatus = .removed)
    (hrun : Run (fun s op t => op.Step sha256 s t ∧ op.leavesRemoved s) s later t)
    (hnot : ∀ op ∈ later, ¬ op.advertises r.tenantId r.providerId r.externalToolName) :
    ∀ r' ∈ t.tools, r'.key = r.key → r'.enabled = false := by
  have htable : ToolTable s := toolTable_of_run hbefore
  have hgone : Gone r.key r.providerId r.externalToolName s := by
    refine ⟨⟨r, hr, rfl⟩, fun r' hr' hkey => ?_⟩
    rw [eq_of_key htable.distinct hr' hr hkey]
    exact ⟨hremoved, htable.removed r hr hremoved, rfl, rfl⟩
  have hkept : ToolTable t ∧ Gone r.key r.providerId r.externalToolName t := by
    refine hrun.guarded_invariant (I := fun s => ToolTable s ∧ Gone r.key r.providerId r.externalToolName s) ?_
      ⟨htable, hgone⟩ hnot
    intro s op t hstep hnot hs
    exact ⟨toolTable_step hstep.1 hs.1, gone_step hstep.1 hstep.2 hnot hs.1 hs.2⟩
  exact fun r' hr' hkey => (hkept.2.gone r' hr' hkey).2.1

end

/-! ## A removed tool that is disabled -/

/-- A tool that is advertised once and then no longer. -/
def advertisedOnce : List ClientOp :=
  [.recordDiscovery (sampleDiscovery sampleIds) "t" "srv" [advertised "a" "h1"],
    .recordDiscovery (sampleDiscovery sampleIds) "t" "srv" []]

theorem run_advertisedOnce : ∃ s r, Run (ClientOp.Step id) ClientStore.empty advertisedOnce s ∧ r ∈ s.tools ∧
    r.reviewStatus = .removed ∧ r.tenantId = "t" ∧ r.toolId = "tool_1" ∧ r.providerId = "srv" ∧ r.externalToolName = "a" ∧
    replay (ClientOp.next id) ClientStore.empty advertisedOnce = some s := by
  have hreplay : (replay (ClientOp.next id) ClientStore.empty advertisedOnce).any (fun s => s.tools.any fun r =>
      decide (r.reviewStatus = .removed ∧ r.tenantId = Text.ofAscii "t" ∧ r.toolId = Text.ofAscii "tool_1" ∧
        r.providerId = Text.ofAscii "srv" ∧ r.externalToolName = Text.ofAscii "a")) = true := by decide +kernel
  obtain ⟨s, hs, htest⟩ := (Option.any_eq_true ..).1 hreplay
  obtain ⟨r, hr, hfound⟩ := List.any_eq_true.1 htest
  obtain ⟨hremoved, htenant, htool, hserver, hname⟩ := of_decide_eq_true hfound
  exact ⟨s, r, (run_of_replay hs).mono fun _ _ _ h => step_of_body (body_of_next h), hr, hremoved, htenant, htool, hserver,
    hname, hs⟩

/-- Another tool is advertised after it. -/
theorem not_enabled_of_run_other : ∃ s t r, Run (ClientOp.Step id) ClientStore.empty advertisedOnce s ∧ r ∈ s.tools ∧
    r.reviewStatus = .removed ∧ ClientOp.Step id s
      (.recordDiscovery (sampleDiscovery fun _ => "tool_2") "t" "srv" [advertised "b" "h2"]) t ∧
    ∀ r' ∈ t.tools, r'.key = r.key → r'.enabled = false := by
  obtain ⟨s, r, hrun, hr, hremoved, -, -, -, hname, hs⟩ := run_advertisedOnce
  have hanswers : ((replay (ClientOp.next id) ClientStore.empty advertisedOnce).bind fun s => ClientOp.next id s
      (.recordDiscovery (sampleDiscovery fun _ => "tool_2") "t" "srv" [advertised "b" "h2"])).isSome = true := by
    decide +kernel
  rw [hs] at hanswers
  obtain ⟨t, ht⟩ := Option.isSome_iff_exists.1 hanswers
  have hstep := step_of_body (body_of_next ht)
  refine ⟨s, t, r, hrun, hr, hremoved, hstep, not_enabled_of_run hrun hr hremoved (.cons ⟨hstep, trivial⟩ (.nil _)) ?_⟩
  intro op hop
  rw [List.mem_singleton.1 hop]
  rintro ⟨-, -, tool, htool, hsame⟩
  rw [List.mem_singleton.1 htool, hname] at hsame
  exact absurd hsame (by decide)

/-- A removed tool that is disabled can be enabled again, with no discovery in between. -/
theorem enabled_of_disableTool : ∃ s t r, Run (ClientOp.Step id) ClientStore.empty advertisedOnce s ∧ r ∈ s.tools ∧
    r.reviewStatus = .removed ∧ Run (ClientOp.Step id) s
      [.disableTool "t" "tool_1" 1, .enableTool "t" "tool_1" 2 sampleDecision "bind_1"] t ∧
    ¬ ∀ r' ∈ t.tools, r'.key = r.key → r'.enabled = false := by
  obtain ⟨s, r, hrun, hr, hremoved, htenant, htool, -, -, hs⟩ := run_advertisedOnce
  have hreplay : ((replay (ClientOp.next id) ClientStore.empty advertisedOnce).bind fun s => replay (ClientOp.next id) s
      [.disableTool "t" "tool_1" 1, .enableTool "t" "tool_1" 2 sampleDecision "bind_1"]).any (fun t => t.tools.any fun r =>
        decide (r.key = (Text.ofAscii "t", Text.ofAscii "tool_1")) && r.enabled) = true := by decide +kernel
  rw [hs, Option.bind_some] at hreplay
  obtain ⟨t, hlater, htest⟩ := run_of_test hreplay
  obtain ⟨r', hr', hfound⟩ := List.any_eq_true.1 htest
  obtain ⟨hkey, henabled⟩ := Bool.and_eq_true_iff.1 hfound
  refine ⟨s, t, r, hrun, hr, hremoved, hlater.mono fun _ _ _ h => step_of_body (body_of_next h), fun hnot => ?_⟩
  have hsame : r'.key = r.key := by
    rw [of_decide_eq_true hkey, GovernedToolDefinition.key, htenant, htool]
  rw [hnot r' hr' hsame] at henabled
  cases henabled

end Tna.Client
