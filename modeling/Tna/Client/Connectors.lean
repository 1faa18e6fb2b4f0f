import Tna.Client.Discovery
import Tna.Client.Stdio
import Tna.Lib.Table
import Tna.Lib.Transition

/-!
# MCP connectors

The connectors of a server share one client, which is kept in a cache by tenant and server
with the child it spawned. Neither a new registration of the server nor the end of the child
takes the client out of the cache.
-/

namespace Tna.Client

open Tna.Js Tna.Lib

/-! ## Connections -/

/-- The columns of a registration that its child is started with. -/
structure Startup where
  executable : Text
  args : List Text
  envAllowlist : List Text
deriving DecidableEq

def McpServerRegisterInput.startup (input : McpServerRegisterInput) : Startup :=
  ⟨input.executable, input.args, input.envAllowlist⟩

/-- A client that was connected, and its child. -/
structure McpChild where
  /-- The server it was spawned for. -/
  server : Text × Text
  startup : Startup
  /-- `none` when the child could not be spawned. -/
  pid : Option Nat
  alive : Bool
  client : StdioClient

/-- The part of `buildMcpConnector` that `execute` reads. -/
structure McpConnector where
  tenantId : Text
  serverId : Text
  toolId : Text

/-- Where an execution stands, with the key of its server and its client. -/
inductive Execution where
  /-- Awaiting the handshake. -/
  | connecting (key : Text × Text) (client : Nat)
  /-- Before its call is written. -/
  | ready (key : Text × Text) (client : Nat)
deriving DecidableEq

/-- The store, the clients of the process, `clientCache`, and the executions that have not written their call. -/
structure Connections where
  store : ClientStore
  clients : Table Nat McpChild
  cache : Table (Text × Text) Nat
  executions : Table Nat Execution

def Connections.initial : Connections := ⟨.empty, ∅, ∅, ∅⟩

/-- The startup columns of a server. -/
def ClientStore.startup (s : ClientStore) (key : Text × Text) : Option Startup :=
  (Rows.row (fun r : McpServerRegistration => (r.tenantId, r.mcpServerId)) s.servers key).map fun r => r.input.startup

/-! ## An execution -/

inductive ConnectorError where
  | client (e : ClientError)
  | mcp (e : McpError)

/-- The beginning of `execute`: the server it will call, or why it calls none. -/
def McpConnector.server (c : McpConnector) (store : ClientStore) : Except ConnectorError McpServerRegistration :=
  match getMcpServer c.tenantId c.serverId store with
  | .error e _ => .error (.client e)
  | .ok server _ =>
    if server.status = .disabled then
      .error (.mcp ⟨.serverUnavailable, Text.ofAscii "MCP server " ++ c.serverId ++ Text.ofAscii " is disabled"⟩)
    else
      match getTool c.tenantId c.toolId store with
      | .error e _ => .error (.client e)
      | .ok tool _ =>
        if tool.enabled then .ok server
        else .error (.mcp ⟨.toolDisabled, Text.ofAscii "Tool " ++ c.toolId ++ Text.ofAscii " is disabled"⟩)

/-- The client `getOrCreateClient` returns without spawning one: `existing && existing.pid !== null`. -/
def Connections.reused (w : Connections) (key : Text × Text) : Option (Nat × McpChild) := do
  let client ← w.cache.lookup key
  let child ← w.clients.lookup client
  if child.pid.isSome then some (client, child) else none

/-- The client a call is written to, with the key of its server. A client that has heard of the end of its child rejects
the call. -/
def Connections.writesTo (w : Connections) (execution : Nat) : Option ((Text × Text) × McpChild) :=
  match w.executions.lookup execution with
  | some (.ready key client) => ((w.clients.lookup client).filter fun child => !child.client.exited).map fun child => (key, child)
  | _ => none

/-- The server whose startup columns the operation writes, with what it writes. -/
def ClientOp.registers : ClientOp → Option ((Text × Text) × Startup)
  | .registerMcpServer tenantId serverId input _ => some ((tenantId, serverId), input.startup)
  | .reconfigureMcpServer tenantId serverId _ input => some ((tenantId, serverId), input.startup)
  | _ => none

inductive ConnectorLabel where
  /-- An execution begins, with the client it allocates and the process it spawns, should it need them. -/
  | execute (execution : Nat) (connector : McpConnector) (client : Nat) (pid : Option Nat)
  /-- The child answered the handshake. -/
  | connected (execution : Nat)
  | connectFailed (execution : Nat)
  | call (execution : Nat)
  /-- A child ends. -/
  | exit (client : Nat)
  /-- A client hears of its child. -/
  | event (client : Nat) (event : StdioEvent)
  | shutdown
  /-- An operation of the store. -/
  | operate (op : ClientOp)

/-- One step; `none` when there is nothing of the kind to do. -/
def Connections.next (sha256 : Text → Text) (w : Connections) : ConnectorLabel → Option Connections
  | .execute execution connector client pid =>
    if w.executions.lookup execution = none ∧ (w.clients.lookup client).isNone then
      match connector.server w.store with
      | .error _ => some w
      | .ok server =>
        let key := (server.tenantId, server.mcpServerId)
        match w.reused key with
        | some (existing, _) => some { w with executions := w.executions.insert execution (.ready key existing) }
        | none => some { w with
            cache := w.cache.erase key
            clients := w.clients.insert client ⟨key, server.input.startup, pid, pid.isSome, .spawned⟩
            executions := w.executions.insert execution (.connecting key client) }
    else none
  | .connected execution =>
    match w.executions.lookup execution with
    | some (.connecting key client) =>
      match w.clients.lookup client with
      | some child =>
        if child.pid.isSome ∧ !child.client.exited then some { w with
          cache := w.cache.insert key client, executions := w.executions.insert execution (.ready key client) }
        else none
      | none => none
    | _ => none
  | .connectFailed execution =>
    match w.executions.lookup execution with
    | some (.connecting key _) => some { w with cache := w.cache.erase key, executions := w.executions.erase execution }
    | _ => none
  | .call execution =>
    match w.executions.lookup execution with
    | some (.ready _ client) =>
      match w.clients.lookup client with
      | some child =>
        let written := match child.client.request "tools/call" maxMcpCallRuntimeMs with
          | .ok c => w.clients.insert client { child with client := c }
          | .error _ => w.clients
        some { w with clients := written, executions := w.executions.erase execution }
      | none => none
    | _ => none
  | .exit client =>
    (w.clients.lookup client).map fun child => { w with clients := w.clients.insert client { child with alive := false } }
  | .event client event =>
    (w.clients.lookup client).map fun child =>
      { w with clients := w.clients.insert client { child with client := (child.client.handle event).1 } }
  | .shutdown => some { w with cache := ∅ }
  | .operate op => (op.next sha256 w.store).map fun store => { w with store := store }

def ConnectorStep (sha256 : Text → Text) (w : Connections) (label : ConnectorLabel) (w' : Connections) : Prop :=
  w.next sha256 label = some w'

/-! ## Calls that reach the right child -/

/-- A call that is written now reaches a child that is alive and was started as its server is registered, and an execution
that begins now uses no dead child again. -/
structure Connections.Served (w : Connections) : Prop where
  calls : ∀ execution key child, w.writesTo execution = some (key, child) →
    child.alive = true ∧ w.store.startup key = some child.startup
  reuses : ∀ key client child, w.reused key = some (client, child) → child.alive = true

/-- The execution is about to write to a client that is so. -/
def Execution.writes (e : Execution) (p : (Text × Text) × Nat → Bool) : Bool :=
  match e with
  | .ready key client => p (key, client)
  | .connecting .. => false

/-- The client is not in the cache, and no execution is about to write to it. -/
def Connections.unused (w : Connections) (client : Nat) : Bool :=
  !w.cache.any (fun c => c = client) && !w.executions.any fun e => e.writes fun t => t.2 = client

/-- The server has no client in the cache, and no execution is about to write to one. -/
def Connections.idle (w : Connections) (key : Text × Text) : Bool :=
  w.cache.lookup key = none && !w.executions.any fun e => e.writes fun t => t.1 = key

/-- A child ends only while it is unused, a server gets another startup only while it is idle, and a handshake ends while
the child it was made with is alive and is what the server is registered with. -/
def Connections.steady (w : Connections) : ConnectorLabel → Bool
  | .exit client => w.unused client
  | .operate op => op.registers.all fun registered =>
    w.store.startup registered.1 = some registered.2 || w.idle registered.1
  | .connected execution =>
    match w.executions.lookup execution with
    | some (.connecting key client) =>
      (w.clients.lookup client).all fun child => child.alive && w.store.startup key = some child.startup
    | _ => true
  | _ => true

/-- The client of a server is alive and was started as the server is registered. -/
def Connections.Current (w : Connections) (key : Text × Text) (client : Nat) : Prop :=
  ∃ child, w.clients.lookup client = some child ∧ child.alive = true ∧ w.store.startup key = some child.startup

/-- Every client in use is current. -/
structure Connections.Sound (w : Connections) : Prop where
  cached : ∀ key client, w.cache.lookup key = some client → w.Current key client
  ready : ∀ execution key client, w.executions.lookup execution = some (.ready key client) → w.Current key client

section
variable {sha256 : Text → Text} {w w' : Connections} {key : Text × Text} {client : Nat}

/-- A client stays current where it is kept, with its child alive and the startup as it was. -/
theorem Connections.Current.of_kept (h : w.Current key client) (hstartup : w'.store.startup key = w.store.startup key)
    (hkept : ∀ child, w.clients.lookup client = some child → child.alive = true →
      ∃ child', w'.clients.lookup client = some child' ∧ child'.alive = true ∧ child'.startup = child.startup) :
    w'.Current key client := by
  obtain ⟨child, hchild, halive, hregistered⟩ := h
  obtain ⟨child', hchild', halive', hsame⟩ := hkept child hchild halive
  exact ⟨child', hchild', halive', by rw [hstartup, hsame, hregistered]⟩

/-- A client that is written over is kept when its child and its startup are. -/
theorem kept_of_insert {clients : Table Nat McpChild} {written : McpChild} {i : Nat}
    (h : ∀ child, clients.lookup i = some child → child.alive = true → written.alive = true ∧ written.startup = child.startup)
    (j : Nat) (child : McpChild) (hchild : clients.lookup j = some child) (halive : child.alive = true) :
    ∃ child', (clients.insert i written).lookup j = some child' ∧ child'.alive = true ∧ child'.startup = child.startup := by
  by_cases hj : j = i
  · subst hj
    obtain ⟨hwritten, hstartup⟩ := h child hchild halive
    exact ⟨written, AList.lookup_insert _, hwritten, hstartup⟩
  · exact ⟨child, by rw [AList.lookup_insert_ne hj, hchild], halive, rfl⟩

/-- The clients of a state in which no client comes into use are current if they were and are kept. -/
theorem Connections.Sound.of_kept (h : w.Sound)
    (hcache : ∀ key client, w'.cache.lookup key = some client → w.cache.lookup key = some client)
    (hready : ∀ i key client, w'.executions.lookup i = some (.ready key client) →
      w.executions.lookup i = some (.ready key client) ∨ w.cache.lookup key = some client)
    (hkept : ∀ key client, w.Current key client → w'.Current key client) : w'.Sound := by
  refine ⟨fun key client hc => hkept _ _ (h.cached key client (hcache key client hc)), fun i key client hr => hkept _ _ ?_⟩
  exact (hready i key client hr).elim (h.ready i key client) (h.cached key client)

theorem not_ready_of_any {p : (Text × Text) × Nat → Bool} (h : w.executions.any (fun e => e.writes p) = false)
    (hp : p (key, client) = true) (execution : Nat) : w.executions.lookup execution ≠ some (.ready key client) := by
  intro hready
  have hany : w.executions.any (fun e => e.writes p) = true := Table.any_iff.2 ⟨_, _, hready, hp⟩
  rw [h] at hany
  cases hany

theorem not_cached_of_unused (h : w.unused client = true) : w.cache.lookup key ≠ some client := by
  intro hcached
  have hany : w.cache.any (fun c => c = client) = true := Table.any_iff.2 ⟨_, _, hcached, decide_eq_true rfl⟩
  simp [Connections.unused, hany] at h

theorem not_ready_of_unused (h : w.unused client = true) (execution : Nat) :
    w.executions.lookup execution ≠ some (.ready key client) := by
  simp only [Connections.unused, Bool.and_eq_true, Bool.not_eq_true'] at h
  exact not_ready_of_any h.2 (decide_eq_true rfl) execution

theorem of_idle (h : w.idle key = true) :
    w.cache.lookup key = none ∧ ∀ execution client, w.executions.lookup execution ≠ some (.ready key client) := by
  simp only [Connections.idle, Bool.and_eq_true, Bool.not_eq_true', decide_eq_true_eq] at h
  exact ⟨h.1, fun execution client => not_ready_of_any h.2 (decide_eq_true rfl) execution⟩

theorem reused_some {child : McpChild} (h : w.reused key = some (client, child)) :
    w.cache.lookup key = some client ∧ w.clients.lookup client = some child := by
  simp only [Connections.reused, Option.bind_eq_bind, Option.bind_eq_some_iff] at h
  obtain ⟨client', hcached, child', hchild, h⟩ := h
  split at h
  · cases h
    exact ⟨hcached, hchild⟩
  · cases h

variable {execution : Nat} {change : McpServerRegistration → McpServerRegistration} {s t : ClientStore}
  {selected : McpServerRegistration → Bool} {op : ClientOp}

theorem sound_execute {connector : McpConnector} {pid : Option Nat}
    (hstep : ConnectorStep sha256 w (.execute execution connector client pid) w') (h : w.Sound) : w'.Sound := by
  simp only [ConnectorStep, Connections.next] at hstep
  split at hstep
  swap
  · cases hstep
  next hfresh =>
  split at hstep
  · cases hstep
    exact h
  next server _ =>
  split at hstep
  · next existing child hreused =>
    cases hstep
    refine h.of_kept (fun _ _ hc => hc) (fun i key client hr => ?_) fun _ _ hcurrent => hcurrent
    rcases Table.lookup_insert_cases hr with ⟨-, hready⟩ | ⟨-, hr⟩
    · cases hready
      exact .inr (reused_some hreused).1
    · exact .inl hr
  · cases hstep
    refine h.of_kept (fun _ _ hc => (Table.lookup_of_erase hc).2) (fun i key client hr => ?_) fun _ _ hcurrent => ?_
    · rcases Table.lookup_insert_cases hr with ⟨-, hready⟩ | ⟨-, hr⟩
      · cases hready
      · exact .inl hr
    · -- the client that is allocated is none of those there are
      refine hcurrent.of_kept rfl (kept_of_insert (fun child hchild _ => ?_) _)
      rw [hchild] at hfresh
      exact absurd hfresh.2 (by simp)

theorem sound_connected (hstep : ConnectorStep sha256 w (.connected execution) w')
    (hsteady : w.steady (.connected execution) = true) (h : w.Sound) : w'.Sound := by
  simp only [ConnectorStep, Connections.next] at hstep
  split at hstep
  swap
  · cases hstep
  next key client hconnecting =>
  split at hstep
  swap
  · cases hstep
  next child hchild =>
  split at hstep
  swap
  · cases hstep
  cases hstep
  simp only [Connections.steady, hconnecting, hchild, Option.all_some, Bool.and_eq_true, decide_eq_true_eq] at hsteady
  obtain ⟨halive, hregistered⟩ := hsteady
  have hcurrent : w.Current key client := ⟨child, hchild, halive, hregistered⟩
  constructor
  · intro key' client' hc
    rcases Table.lookup_insert_cases hc with ⟨rfl, rfl⟩ | ⟨-, hc⟩
    · exact hcurrent
    · exact h.cached key' client' hc
  · intro i key' client' hr
    rcases Table.lookup_insert_cases hr with ⟨-, hready⟩ | ⟨-, hr⟩
    · cases hready
      exact hcurrent
    · exact h.ready i key' client' hr

theorem sound_call (hstep : ConnectorStep sha256 w (.call execution) w') (h : w.Sound) : w'.Sound := by
  simp only [ConnectorStep, Connections.next] at hstep
  split at hstep
  swap
  · cases hstep
  next key client _ =>
  split at hstep
  swap
  · cases hstep
  next child hchild =>
  cases hstep
  refine h.of_kept (fun _ _ hc => hc) (fun i key client hr => .inl (Table.lookup_of_erase hr).2) fun key' client' hcurrent => ?_
  refine hcurrent.of_kept rfl ?_
  split
  · refine kept_of_insert (fun child' hchild' halive => ?_) _
    cases hchild.symm.trans hchild'
    exact ⟨halive, rfl⟩
  · exact fun child hchild halive => ⟨child, hchild, halive, rfl⟩

theorem sound_exit (hstep : ConnectorStep sha256 w (.exit client) w') (hunused : w.unused client = true) (h : w.Sound) : w'.Sound := by
  obtain ⟨child, -, rfl⟩ := Option.map_eq_some_iff.1 hstep
  have hkept : ∀ key client', client' ≠ client → w.Current key client' →
      Connections.Current { w with clients := w.clients.insert client { child with alive := false } } key client' := by
    intro key client' hne hcurrent
    exact hcurrent.of_kept rfl fun child hchild halive => ⟨child, (AList.lookup_insert_ne hne).trans hchild, halive, rfl⟩
  constructor
  · intro key client' hc
    refine hkept key client' ?_ (h.cached key client' hc)
    rintro rfl
    exact not_cached_of_unused hunused hc
  · intro i key client' hr
    refine hkept key client' ?_ (h.ready i key client' hr)
    rintro rfl
    exact not_ready_of_unused hunused i hr

theorem sound_event {event : StdioEvent} (hstep : ConnectorStep sha256 w (.event client event) w') (h : w.Sound) : w'.Sound := by
  obtain ⟨child, hchild, rfl⟩ := Option.map_eq_some_iff.1 hstep
  refine h.of_kept (fun _ _ hc => hc) (fun _ _ _ hr => .inl hr) fun key client' hcurrent => ?_
  refine hcurrent.of_kept rfl (kept_of_insert (fun child' hchild' halive => ?_) _)
  cases hchild.symm.trans hchild'
  exact ⟨halive, rfl⟩

/-- The startup columns after an update. -/
theorem startup_update (h : t.servers = Rows.update selected change s.servers)
    (hchange : ∀ r, (change r).tenantId = r.tenantId ∧ (change r).mcpServerId = r.mcpServerId) :
    t.startup key = (Rows.row (fun r : McpServerRegistration => (r.tenantId, r.mcpServerId)) s.servers key).map fun r =>
      (if selected r then change r else r).input.startup := by
  rw [ClientStore.startup, h, Rows.row_update fun r => Prod.ext (hchange r).1 (hchange r).2, Option.map_map]
  rfl

/-- What an update leaves of the startup columns it leaves of those of every server. -/
theorem startup_of_update (h : t.servers = Rows.update selected change s.servers)
    (hchange : ∀ r, (change r).tenantId = r.tenantId ∧ (change r).mcpServerId = r.mcpServerId ∧ (change r).input = r.input) :
    t.startup key = s.startup key := by
  rw [startup_update h fun r => ⟨(hchange r).1, (hchange r).2.1⟩, ClientStore.startup]
  congr 1
  funext r
  split
  · rw [(hchange r).2.2]
  · rfl

/-- **The startup columns of a server** are what they were, or what an operation has registered it with. -/
theorem startup_of_body (hok : op.body sha256 s = .ok () t) :
    t.startup key = s.startup key ∨ ∃ startup, op.registers = some (key, startup) ∧ t.startup key = some startup := by
  cases op with
  | createTenant =>
    obtain ⟨-, rfl⟩ := insertTenant_ok.1 hok
    exact .inl rfl
  | activateTenant | suspendTenant | resumeTenant | completeOffboarding =>
    obtain ⟨-, -, -, -, rfl⟩ := transitionTenant_ok hok
    exact .inl rfl
  | beginOffboarding =>
    obtain ⟨-, rfl⟩ := beginOffboarding_ok hok
    exact .inl (startup_of_update rfl fun _ => ⟨rfl, rfl, rfl⟩)
  | createServiceIdentity =>
    obtain ⟨-, -, rfl⟩ := createServiceIdentity_ok hok
    exact .inl rfl
  | rotateCredential =>
    obtain ⟨-, -, rfl⟩ := rotateCredential_ok hok
    exact .inl rfl
  | revokeServiceIdentity =>
    obtain ⟨-, rfl⟩ := revokeServiceIdentity_ok hok
    exact .inl rfl
  | registerMcpServer tenantId serverId input now =>
    obtain ⟨-, rfl⟩ := registerMcpServer_ok hok
    rw [ClientStore.startup, ClientStore.startup, Rows.row_append]
    cases Rows.row (fun r : McpServerRegistration => (r.tenantId, r.mcpServerId)) s.servers key with
    | some r => exact .inl rfl
    | none =>
      rw [Option.none_or]
      split
      · next hkey =>
        subst hkey
        exact .inr ⟨_, rfl, rfl⟩
      · exact .inl rfl
  | setMcpServerStatus =>
    obtain ⟨-, rfl⟩ := setMcpServerStatus_ok hok
    exact .inl (startup_of_update rfl fun _ => ⟨rfl, rfl, rfl⟩)
  | reconfigureMcpServer tenantId serverId version input =>
    obtain ⟨-, ht⟩ := reconfigureMcpServer_ok hok
    rw [startup_update (congrArg ClientStore.servers ht) fun _ => ⟨rfl, rfl⟩, ClientStore.startup]
    cases hrow : Rows.row (fun r : McpServerRegistration => (r.tenantId, r.mcpServerId)) s.servers key with
    | none => exact .inl rfl
    | some r =>
      rw [Option.map_some, Option.map_some]
      split
      · next hselected =>
        simp only [Bool.and_eq_true, decide_eq_true_eq] at hselected
        have hkey : (tenantId, serverId) = key := by
          rw [← Rows.key_of_row hrow, hselected.1.1, hselected.1.2]
        exact .inr ⟨input.startup, by rw [← hkey]; rfl, rfl⟩
      · exact .inl rfl
  | recordDiscovery =>
    obtain ⟨rfl, -⟩ := recordDiscovery_ok hok
    exact .inl (startup_of_update rfl fun _ => ⟨rfl, rfl, rfl⟩)
  | enableTool =>
    obtain ⟨-, rfl⟩ := enableTool_ok hok
    exact .inl rfl
  | disableTool =>
    obtain rfl := disableTool_ok hok
    exact .inl rfl
  | recordClientAction =>
    obtain rfl := recordClientAction_ok hok
    exact .inl rfl

theorem sound_operate (hstep : ConnectorStep sha256 w (.operate op) w') (hsteady : w.steady (.operate op) = true) (h : w.Sound) :
    w'.Sound := by
  obtain ⟨store, hnext, rfl⟩ := Option.map_eq_some_iff.1 hstep
  have hkept : ∀ key client, ¬ w.idle key = true → w.Current key client →
      Connections.Current { w with store := store } key client := by
    intro key client hbusy hcurrent
    refine hcurrent.of_kept ?_ fun child hchild halive => ⟨child, hchild, halive, rfl⟩
    rcases @startup_of_body sha256 key _ _ _ (body_of_next hnext) with hsame | ⟨startup, hregisters, hwritten⟩
    · exact hsame
    · simp only [Connections.steady, hregisters, Option.all_some, Bool.or_eq_true, decide_eq_true_eq] at hsteady
      exact hwritten.trans (hsteady.resolve_right hbusy).symm
  constructor
  · intro key client hc
    refine hkept key client (fun hidle => ?_) (h.cached key client hc)
    rw [(of_idle hidle).1] at hc
    cases hc
  · intro i key client hr
    exact hkept key client (fun hidle => (of_idle hidle).2 i client hr) (h.ready i key client hr)

/-- **A steady step keeps every client in use current.** -/
theorem sound_step {label : ConnectorLabel} (hstep : ConnectorStep sha256 w label w') (hsteady : w.steady label = true)
    (h : w.Sound) : w'.Sound := by
  cases label with
  | execute execution connector client pid => exact sound_execute hstep h
  | connected execution => exact sound_connected hstep hsteady h
  | connectFailed execution =>
    simp only [ConnectorStep, Connections.next] at hstep
    split at hstep
    · cases hstep
      exact h.of_kept (fun _ _ hc => (Table.lookup_of_erase hc).2) (fun _ _ _ hr => .inl (Table.lookup_of_erase hr).2)
        fun _ _ hcurrent => hcurrent
    · cases hstep
  | call execution => exact sound_call hstep h
  | exit client => exact sound_exit hstep hsteady h
  | event client event => exact sound_event hstep h
  | shutdown =>
    cases hstep
    exact h.of_kept (fun _ _ hc => nomatch hc) (fun _ _ _ hr => .inl hr) fun _ _ hcurrent => hcurrent
  | operate op => exact sound_operate hstep hsteady h

theorem sound_initial : Connections.initial.Sound := ⟨fun _ _ h => (nomatch h), fun _ _ _ h => nomatch h⟩

theorem Connections.Sound.served (h : w.Sound) : w.Served := by
  constructor
  · intro execution key child hwrites
    unfold Connections.writesTo at hwrites
    split at hwrites
    · next key' client hready =>
      obtain ⟨child', hfound, heq⟩ := Option.map_eq_some_iff.1 hwrites
      cases heq
      obtain ⟨current, hcurrent, halive, hregistered⟩ := h.ready execution key client hready
      cases (Option.filter_eq_some_iff.1 hfound).1.symm.trans hcurrent
      exact ⟨halive, hregistered⟩
    · cases hwrites
  · intro key client child hreused
    obtain ⟨hcached, hchild⟩ := reused_some hreused
    obtain ⟨current, hcurrent, halive, -⟩ := h.cached key client hcached
    cases hchild.symm.trans hcurrent
    exact halive

/-- **MCP clients.** In a run whose steps are all steady, every call is written to a living child that was started as its
server is registered, and no execution uses a dead child again. -/
theorem served_of_run {labels : List ConnectorLabel}
    (hrun : Run (fun w label w' => ConnectorStep sha256 w label w' ∧ w.steady label = true) .initial labels w) : w.Served :=
  (hrun.invariant (I := Connections.Sound) (fun _ _ _ hstep => sound_step hstep.1 hstep.2) sound_initial).served

end

/-! ## A server that is registered anew -/

def newInput : McpServerRegisterInput := ⟨"srv", "/bin/mcp", ["--v2"], []⟩

def sampleConnector : McpConnector := ⟨"t", "srv", "tool_1"⟩

/-- A tool of a server is enabled and an execution of it connects to the server. -/
def connects : List ConnectorLabel :=
  [.operate (.createTenant "t" "config"), .operate (.registerMcpServer "t" "srv" sampleInput "now"),
    .operate (.recordDiscovery (sampleDiscovery sampleIds) "t" "srv" [advertised "a" "h1"]),
    .operate (.enableTool "t" "tool_1" 0 sampleDecision "bind_1"), .execute 0 sampleConnector 0 (some 7), .connected 0]

/-- After its call the server is reconfigured, the tool is enabled again, and another execution begins. -/
def reconnects : List ConnectorLabel :=
  connects ++ [.call 0, .operate (.reconfigureMcpServer "t" "srv" 1 newInput),
    .operate (.enableTool "t" "tool_1" 2 sampleDecision "bind_2"), .execute 1 sampleConnector 1 (some 8)]

/-- A replay of steady steps. -/
def steadyNext (w : Connections) (label : ConnectorLabel) : Option Connections :=
  if w.steady label then w.next id label else none

theorem served_of_run_connects : ∃ w key child, Run (fun w label w' => ConnectorStep id w label w' ∧ w.steady label = true)
    .initial connects w ∧ w.writesTo 0 = some (key, child) ∧ w.Served := by
  have hreplay : (replay steadyNext .initial connects).any (fun w => (w.writesTo 0).isSome) = true := by decide +kernel
  obtain ⟨w, hrun, htest⟩ := run_of_test hreplay
  obtain ⟨⟨key, child⟩, hwrites⟩ := Option.isSome_iff_exists.1 htest
  have hsteady : Run (fun w label w' => ConnectorStep id w label w' ∧ w.steady label = true) .initial connects w := by
    refine hrun.mono fun w label w' hstep => ?_
    unfold steadyNext at hstep
    split at hstep
    · next hsteady => exact ⟨hstep, hsteady⟩
    · cases hstep
  exact ⟨w, key, child, hsteady, hwrites, served_of_run hsteady⟩

/-- The call of an execution that begins after the server was reconfigured is written to the child of before. -/
theorem not_served_of_run : ¬ ∀ (labels : List ConnectorLabel) (w : Connections), Run (ConnectorStep id) .initial labels w → w.Served := by
  intro h
  have hreplay : (replay (Connections.next id) .initial reconnects).any (fun w => (w.writesTo 1).any fun t =>
      decide (t.2.startup = sampleInput.startup ∧ w.store.startup t.1 = some newInput.startup)) = true := by decide +kernel
  obtain ⟨w, hrun, htest⟩ := run_of_test hreplay
  obtain ⟨⟨key, child⟩, hwrites, htest⟩ := (Option.any_eq_true ..).1 htest
  obtain ⟨hold, hnew⟩ := of_decide_eq_true htest
  have hregistered := ((h reconnects w hrun).calls 1 key child hwrites).2
  rw [hold, hnew] at hregistered
  exact absurd hregistered (by decide)

end Tna.Client
