import Tna.Client.Connectors
import Tna.Client.Requests

/-!
# The children of MCP connectors

An execution that finds no client of its server in the cache spawns a child, and puts the
client into the cache once the child has answered its handshake. `shutdownMcpClients` empties
the cache and ends the children of the clients it found there. A child that no one holds is
never ended.
-/

namespace Tna.Client

open Tna.Js Tna.Lib

/-! ## Shutdowns -/

/-- The connections of a process, and the clients that each `shutdownMcpClients` in progress took out of the cache. -/
structure Processes where
  connections : Connections
  shutdowns : Table Nat (List Nat)

def Processes.initial : Processes := ⟨.initial, ∅⟩

/-- What `shutdown` of a client leaves when it is through: a child that had not ended by the deadline was killed. -/
def McpChild.ended (child : McpChild) : McpChild :=
  { child with
    alive := child.alive && (child.client.exited || child.pid.isNone)
    client := child.client.cleanupPending.1 }

def endAll : Table Nat McpChild → List Nat → Table Nat McpChild
  | children, [] => children
  | children, client :: rest =>
    match children.lookup client with
    | some child => endAll (children.insert client child.ended) rest
    | none => endAll children rest

inductive ProcessLabel where
  | connector (label : ConnectorLabel)
  /-- `shutdownMcpClients` is called. -/
  | shutdown (id : Nat)
  /-- Its promise resolves. -/
  | resolved (id : Nat)

/-- Nothing is heard of the end of a child before it has ended. -/
def Connections.hears (w : Connections) : ConnectorLabel → Bool
  | .event client (.gone _) => (w.clients.lookup client).all fun child => !child.alive
  -- a shutdown is followed from its call to its end, by steps of its own
  | .shutdown => false
  | _ => true

def Processes.next (sha256 : Text → Text) (w : Processes) : ProcessLabel → Option Processes
  | .connector label =>
    if w.connections.hears label then
      (w.connections.next sha256 label).map fun connections => { w with connections := connections }
    else none
  | .shutdown id =>
    if (w.shutdowns.lookup id).isNone then some
      { connections := { w.connections with cache := ∅ }
        shutdowns := w.shutdowns.insert id (w.connections.cache.entries.map fun e => e.2) }
    else none
  | .resolved id =>
    (w.shutdowns.lookup id).map fun clients =>
      { connections := { w.connections with clients := endAll w.connections.clients clients }
        shutdowns := w.shutdowns.erase id }

def ProcessStep (sha256 : Text → Text) (w : Processes) (label : ProcessLabel) (w' : Processes) : Prop :=
  w.next sha256 label = some w'

/-! ## No child is left alone -/

/-- The execution awaits the handshake of a client of the server. -/
def Connections.Connecting (w : Connections) (execution : Nat) (key : Text × Text) (client : Nat) : Prop :=
  w.executions.lookup execution = some (.connecting key client)

/-- A server has one living child at most, and a living child is in the cache, or being connected or shut down. -/
structure Processes.Tended (w : Processes) : Prop where
  one : ∀ client client' child child', w.connections.clients.lookup client = some child →
    w.connections.clients.lookup client' = some child' → child.alive = true → child'.alive = true →
    child.server = child'.server → client = client'
  held : ∀ client child, w.connections.clients.lookup client = some child → child.alive = true →
    w.connections.cache.lookup child.server = some client ∨
    (∃ execution, w.connections.Connecting execution child.server client) ∨
    ∃ id clients, w.shutdowns.lookup id = some clients ∧ client ∈ clients

/-- The label begins an execution. -/
def ProcessLabel.executes : ProcessLabel → Bool
  | .connector (.execute ..) => true
  | _ => false

/-- When a shutdown resolves and no execution was connecting since it was called, no child is left alive. -/
def ShutDown (sha256 : Text → Text) (labels : List ProcessLabel) (w : Processes) : Prop :=
  ∀ before id during u, labels = before ++ .shutdown id :: (during ++ [.resolved id]) →
    Run (ProcessStep sha256) .initial before u → (∀ execution key client, ¬ u.connections.Connecting execution key client) →
    (∀ label ∈ during, label.executes = false) →
    ∀ client child, w.connections.clients.lookup client = some child → child.alive = false

/-! ## Careful steps -/

/-- Some execution awaits the handshake of the server. -/
def Connections.connecting (w : Connections) (key : Text × Text) : Bool :=
  w.executions.any fun e => match e with
    | .connecting key' _ => key' = key
    | .ready .. => false

/-- A shutdown in progress has a living child that is so. -/
def Processes.ending (w : Processes) (p : McpChild → Bool) : Bool :=
  w.shutdowns.any fun clients => clients.any fun client =>
    (w.connections.clients.lookup client).any fun child => child.alive && p child

/-- An execution connects to a server only while no other connects to it and no shutdown still has its child; a handshake
fails only after its child has ended; and no shutdown is called while another still has a child. -/
def Processes.careful (w : Processes) : ProcessLabel → Bool
  | .connector (.execute _ connector _ _) =>
    match connector.server w.connections.store with
    | .error _ => true
    | .ok server =>
      let key := (server.tenantId, server.mcpServerId)
      (w.connections.reused key).isSome || !w.connections.connecting key && !w.ending fun child => child.server = key
  | .connector (.connectFailed execution) =>
    match w.connections.executions.lookup execution with
    | some (.connecting _ client) => (w.connections.clients.lookup client).all fun child => !child.alive
    | _ => true
  | .shutdown _ => !w.ending fun _ => true
  | _ => true

section
variable {sha256 : Text → Text} {w w' : Processes} {key : Text × Text} {client execution : Nat} {child child' : McpChild}

theorem connecting_of (h : w.connections.Connecting execution key client) : w.connections.connecting key = true :=
  Table.any_iff.2 ⟨execution, _, h, decide_eq_true rfl⟩

variable {clients : List Nat} {id : Nat} {children : Table Nat McpChild} {connections : Connections} {label : ConnectorLabel}

theorem ending_of {p : McpChild → Bool} (hid : w.shutdowns.lookup id = some clients) (hclient : client ∈ clients)
    (hchild : w.connections.clients.lookup client = some child) (halive : child.alive = true) (hp : p child = true) :
    w.ending p = true := by
  refine Table.any_iff.2 ⟨id, clients, hid, List.any_eq_true.2 ⟨client, hclient, ?_⟩⟩
  rw [hchild, Option.any_some, halive, hp, Bool.and_self]

/-! ## What becomes of a child -/

/-- A child that is alive has a process, and its client has heard of no end. -/
def McpChild.Sane (child : McpChild) : Prop := child.alive = true → child.client.exited = false ∧ child.pid.isSome = true

/-- A child is never alive again. -/
structure McpChild.Becomes (child child' : McpChild) : Prop where
  server : child'.server = child.server
  pid : child'.pid = child.pid
  alive : child'.alive = true → child.alive = true
  sane : child.Sane → child'.Sane

theorem McpChild.Becomes.refl (child : McpChild) : child.Becomes child := ⟨rfl, rfl, id, id⟩

theorem McpChild.Becomes.trans {child'' : McpChild} (h : child.Becomes child') (h' : child'.Becomes child'') :
    child.Becomes child'' :=
  ⟨h'.server.trans h.server, h'.pid.trans h.pid, fun halive => h.alive (h'.alive halive), fun hsane => h'.sane (h.sane hsane)⟩

/-- The children there are, and what has become of them. -/
structure Descends (children children' : Table Nat McpChild) : Prop where
  onward : ∀ client child, children.lookup client = some child →
    ∃ child', children'.lookup client = some child' ∧ child.Becomes child'
  back : ∀ client child', children'.lookup client = some child' →
    ∃ child, children.lookup client = some child ∧ child.Becomes child'

theorem Descends.refl (children : Table Nat McpChild) : Descends children children :=
  ⟨fun _ child h => ⟨child, h, .refl child⟩, fun _ child h => ⟨child, h, .refl child⟩⟩

theorem Descends.trans {first second third : Table Nat McpChild} (h : Descends first second) (h' : Descends second third) :
    Descends first third := by
  constructor
  · intro client child hchild
    obtain ⟨child', hchild', hbecomes⟩ := h.onward client child hchild
    obtain ⟨child'', hchild'', hbecomes'⟩ := h'.onward client child' hchild'
    exact ⟨child'', hchild'', hbecomes.trans hbecomes'⟩
  · intro client child'' hchild''
    obtain ⟨child', hchild', hbecomes'⟩ := h'.back client child'' hchild''
    obtain ⟨child, hchild, hbecomes⟩ := h.back client child' hchild'
    exact ⟨child, hchild, hbecomes.trans hbecomes'⟩

theorem descends_insert (hchild : children.lookup client = some child) (h : child.Becomes child') :
    Descends children (children.insert client child') := by
  constructor
  · intro other before hbefore
    by_cases hother : other = client
    · subst hother
      cases hchild.symm.trans hbefore
      exact ⟨child', AList.lookup_insert _, h⟩
    · exact ⟨before, (AList.lookup_insert_ne hother).trans hbefore, .refl before⟩
  · intro other after hafter
    rcases Table.lookup_insert_cases hafter with ⟨rfl, rfl⟩ | ⟨-, hsame⟩
    · exact ⟨child, hchild, h⟩
    · exact ⟨after, hsame, .refl after⟩

theorem becomes_ended (child : McpChild) : child.Becomes child.ended := by
  refine ⟨rfl, rfl, fun halive => ?_, fun hsane halive => ?_⟩
  · exact (Bool.and_eq_true _ _ ▸ halive : _ ∧ _).1
  · exact hsane (Bool.and_eq_true _ _ ▸ halive : _ ∧ _).1

theorem alive_ended (h : child.Sane) : child.ended.alive = false := by
  refine Bool.eq_false_of_not_eq_true fun halive => ?_
  simp only [McpChild.ended, Bool.and_eq_true, Bool.or_eq_true] at halive
  obtain ⟨halive, hends⟩ := halive
  obtain ⟨hexited, hpid⟩ := h halive
  rw [hexited] at hends
  simp_all

theorem descends_endAll (children : Table Nat McpChild) (clients : List Nat) : Descends children (endAll children clients) := by
  induction clients generalizing children with
  | nil => exact .refl children
  | cons client rest ih =>
    rw [endAll]
    split
    · next child hchild => exact (descends_insert hchild (becomes_ended child)).trans (ih _)
    · exact ih children

/-- What was ended is not alive. -/
theorem alive_endAll (hclient : client ∈ clients) (hsane : ∀ client child, children.lookup client = some child → child.Sane)
    (hchild : (endAll children clients).lookup client = some child) : child.alive = false := by
  induction clients generalizing children with
  | nil => cases hclient
  | cons first rest ih =>
    rw [endAll] at hchild
    split at hchild
    · next before hbefore =>
      have hinsert := descends_insert hbefore (becomes_ended before)
      have hsane' : ∀ client child, (children.insert first before.ended).lookup client = some child → child.Sane := by
        intro client child h
        obtain ⟨old, hold, hbecomes⟩ := hinsert.back client child h
        exact hbecomes.sane (hsane client old hold)
      rcases List.mem_cons.1 hclient with rfl | hrest
      · obtain ⟨old, hold, hbecomes⟩ := (descends_endAll _ rest).back client child hchild
        rw [AList.lookup_insert] at hold
        cases hold
        refine Bool.eq_false_of_not_eq_true fun halive => ?_
        have hdead := hbecomes.alive halive
        rw [alive_ended (hsane client before hbefore)] at hdead
        cases hdead
      · exact ih hrest hsane' hchild
    · next hnone =>
      rcases List.mem_cons.1 hclient with rfl | hrest
      · obtain ⟨old, hold, -⟩ := (descends_endAll _ rest).back client child hchild
        rw [hnone] at hold
        cases hold
      · exact ih hrest hsane hchild

/-! ## What careful steps keep -/

/-- What carries `Tended` through a run: the client in the cache is one of its server, and no other than the only execution
that connects to a server stands to put one there. -/
structure Processes.Orderly (w : Processes) : Prop extends w.Tended where
  sane : ∀ client child, w.connections.clients.lookup client = some child → child.Sane
  cached : ∀ key client, w.connections.cache.lookup key = some client →
    ∃ child, w.connections.clients.lookup client = some child ∧ child.server = key ∧ child.pid.isSome = true
  connecting : ∀ execution key client, w.connections.Connecting execution key client →
    w.connections.cache.lookup key = none ∧
      ∃ child, w.connections.clients.lookup client = some child ∧ child.server = key
  alone : ∀ execution execution' key client client', w.connections.Connecting execution key client →
    w.connections.Connecting execution' key client' → execution = execution'

/-- Living children that have come out of others are as many a server as those were. -/
theorem one_of_descends (h : w.Tended) (hclients : Descends w.connections.clients w'.connections.clients)
    (client client' : Nat) (child child' : McpChild) (hchild : w'.connections.clients.lookup client = some child)
    (hchild' : w'.connections.clients.lookup client' = some child') (halive : child.alive = true) (halive' : child'.alive = true)
    (hserver : child.server = child'.server) : client = client' := by
  obtain ⟨old, hold, hbecomes⟩ := hclients.back client child hchild
  obtain ⟨old', hold', hbecomes'⟩ := hclients.back client' child' hchild'
  refine h.one client client' old old' hold hold' (hbecomes.alive halive) (hbecomes'.alive halive') ?_
  rw [← hbecomes.server, ← hbecomes'.server, hserver]

/-- A step that only lets children go on, or end. -/
theorem Processes.Orderly.of_descends (h : w.Orderly) (hcache : w'.connections.cache = w.connections.cache)
    (hshutdowns : w'.shutdowns = w.shutdowns)
    (hconnecting : ∀ execution key client, w'.connections.Connecting execution key client ↔
      w.connections.Connecting execution key client)
    (hclients : Descends w.connections.clients w'.connections.clients) : w'.Orderly := by
  refine ⟨⟨one_of_descends h.toTended hclients, ?_⟩, ?_, ?_, ?_, ?_⟩
  · intro client child hchild halive
    obtain ⟨old, hold, hbecomes⟩ := hclients.back client child hchild
    rw [hcache, hshutdowns, hbecomes.server]
    simp only [hconnecting]
    exact h.held client old hold (hbecomes.alive halive)
  · intro client child hchild
    obtain ⟨old, hold, hbecomes⟩ := hclients.back client child hchild
    exact hbecomes.sane (h.sane client old hold)
  · intro key client hc
    rw [hcache] at hc
    obtain ⟨old, hold, hserver, hpid⟩ := h.cached key client hc
    obtain ⟨child, hchild, hbecomes⟩ := hclients.onward client old hold
    exact ⟨child, hchild, hbecomes.server.trans hserver, by rw [hbecomes.pid, hpid]⟩
  · intro execution key client hc
    obtain ⟨hnone, old, hold, hserver⟩ := h.connecting execution key client ((hconnecting _ _ _).1 hc)
    obtain ⟨child, hchild, hbecomes⟩ := hclients.onward client old hold
    exact ⟨by rw [hcache, hnone], child, hchild, hbecomes.server.trans hserver⟩
  · intro execution execution' key client client' hc hc'
    exact h.alone execution execution' key client client' ((hconnecting _ _ _).1 hc) ((hconnecting _ _ _).1 hc')

/-- A server that nothing connects to and whose client is neither in the cache nor being shut down has no living child. -/
theorem dead_of_free (h : w.Orderly) (hreused : w.connections.reused key = none)
    (hconnecting : w.connections.connecting key = false) (hending : w.ending (fun child => child.server = key) = false)
    (hchild : w.connections.clients.lookup client = some child) (hserver : child.server = key) : child.alive = false := by
  refine Bool.eq_false_of_not_eq_true fun halive => ?_
  rcases h.held client child hchild halive with hcached | ⟨execution, hc⟩ | ⟨id, clients, hid, hclient⟩
  · rw [hserver] at hcached
    obtain ⟨held, hheld, -, hpid⟩ := h.cached key client hcached
    simp [Connections.reused, hcached, hheld, hpid] at hreused
  · rw [hserver] at hc
    rw [connecting_of hc] at hconnecting
    cases hconnecting
  · rw [ending_of hid hclient hchild halive (decide_eq_true hserver)] at hending
    cases hending

/-- An execution spawns a child for a server that has none. -/
theorem orderly_spawn (h : w.Orderly) {startup : Startup} {pid : Option Nat}
    (hexecution : w.connections.executions.lookup execution = none) (hclient : w.connections.clients.lookup client = none)
    (hreused : w.connections.reused key = none) (hfree : w.connections.connecting key = false)
    (hending : w.ending (fun child => child.server = key) = false) :
    Processes.Orderly { w with connections := { w.connections with
      cache := w.connections.cache.erase key
      clients := w.connections.clients.insert client ⟨key, startup, pid, pid.isSome, .spawned⟩
      executions := w.connections.executions.insert execution (.connecting key client) } } := by
  have hdead : ∀ {client child}, w.connections.clients.lookup client = some child → child.alive = true → child.server ≠ key := by
    intro client child hchild halive hserver
    rw [dead_of_free h hreused hfree hending hchild hserver] at halive
    cases halive
  have hother : ∀ {other child}, w.connections.clients.lookup other = some child → other ≠ client := by
    rintro other child hchild rfl
    rw [hclient] at hchild
    cases hchild
  -- An execution that connects afterwards is the new one, or one that connected to another server before.
  have hcases : ∀ {e key' client'}, (w.connections.executions.insert execution (.connecting key client)).lookup e =
      some (.connecting key' client') → e = execution ∧ key' = key ∧ client' = client ∨
        e ≠ execution ∧ w.connections.Connecting e key' client' ∧ key' ≠ key := by
    intro e key' client' hc
    rcases Table.lookup_insert_cases hc with ⟨rfl, hnew⟩ | ⟨hne, hold⟩
    · cases hnew
      exact .inl ⟨rfl, rfl, rfl⟩
    · refine .inr ⟨hne, hold, ?_⟩
      rintro rfl
      rw [connecting_of hold] at hfree
      cases hfree
  refine ⟨⟨?_, ?_⟩, ?_, ?_, ?_, ?_⟩
  · intro i i' child child' hchild hchild' halive halive' hserver
    rcases Table.lookup_insert_cases hchild with ⟨rfl, rfl⟩ | ⟨-, hold⟩
    · rcases Table.lookup_insert_cases hchild' with ⟨rfl, rfl⟩ | ⟨-, hold'⟩
      · rfl
      · exact absurd hserver.symm (hdead hold' halive')
    · rcases Table.lookup_insert_cases hchild' with ⟨rfl, rfl⟩ | ⟨-, hold'⟩
      · exact absurd hserver (hdead hold halive)
      · exact h.one i i' child child' hold hold' halive halive' hserver
  · intro i child hchild halive
    rcases Table.lookup_insert_cases hchild with ⟨rfl, rfl⟩ | ⟨-, hold⟩
    · exact .inr (.inl ⟨execution, AList.lookup_insert _⟩)
    · rcases h.held i child hold halive with hcached | ⟨e, hc⟩ | hshut
      · exact .inl ((AList.lookup_erase_ne (hdead hold halive)).trans hcached)
      · refine .inr (.inl ⟨e, (AList.lookup_insert_ne ?_).trans hc⟩)
        rintro rfl
        rw [Connections.Connecting, hexecution] at hc
        cases hc
      · exact .inr (.inr hshut)
  · intro i child hchild
    rcases Table.lookup_insert_cases hchild with ⟨rfl, rfl⟩ | ⟨-, hold⟩
    · exact fun halive => ⟨rfl, halive⟩
    · exact h.sane i child hold
  · intro key' i hc
    obtain ⟨child, hchild, hserver, hpid⟩ := h.cached key' i (Table.lookup_of_erase hc).2
    exact ⟨child, (AList.lookup_insert_ne (hother hchild)).trans hchild, hserver, hpid⟩
  · intro e key' i hc
    rcases hcases hc with ⟨rfl, rfl, rfl⟩ | ⟨-, hold, hkey⟩
    · exact ⟨AList.lookup_erase _ _, _, AList.lookup_insert _, rfl⟩
    · obtain ⟨hnone, child, hchild, hserver⟩ := h.connecting e key' i hold
      exact ⟨(AList.lookup_erase_ne hkey).trans hnone, child, (AList.lookup_insert_ne (hother hchild)).trans hchild, hserver⟩
  · intro e e' key' i i' hc hc'
    rcases hcases hc with ⟨rfl, rfl, -⟩ | ⟨-, hold, hkey⟩
    · rcases hcases hc' with ⟨rfl, -⟩ | ⟨-, -, hkey'⟩
      · rfl
      · exact absurd rfl hkey'
    · rcases hcases hc' with ⟨-, hsame, -⟩ | ⟨-, hold', -⟩
      · exact absurd hsame hkey
      · exact h.alone e e' key' i i' hold hold'

/-- A child answers its handshake. -/
theorem orderly_connected (h : w.Orderly) (hconnects : w.connections.Connecting execution key client)
    (hchild : w.connections.clients.lookup client = some child) (hpid : child.pid.isSome = true) :
    Processes.Orderly { w with connections := { w.connections with
      cache := w.connections.cache.insert key client
      executions := w.connections.executions.insert execution (.ready key client) } } := by
  obtain ⟨hnone, held, hheld, hserver⟩ := h.connecting execution key client hconnects
  cases hchild.symm.trans hheld
  have hcases : ∀ {e key' client'}, (w.connections.executions.insert execution (.ready key client)).lookup e =
      some (.connecting key' client') → w.connections.Connecting e key' client' ∧ key' ≠ key := by
    intro e key' client' hc
    rcases Table.lookup_insert_cases hc with ⟨-, hready⟩ | ⟨hne, hold⟩
    · cases hready
    · refine ⟨hold, ?_⟩
      rintro rfl
      exact hne (h.alone e execution key' client' client hold hconnects)
  refine ⟨⟨h.one, ?_⟩, h.sane, ?_, ?_, ?_⟩
  · intro i living hliving halive
    rcases h.held i living hliving halive with hcached | ⟨e, hc⟩ | hshut
    · refine .inl ((AList.lookup_insert_ne ?_).trans hcached)
      intro hkey
      rw [hkey, hnone] at hcached
      cases hcached
    · by_cases he : e = execution
      · subst he
        cases hconnects.symm.trans hc
        exact .inl (AList.lookup_insert _)
      · exact .inr (.inl ⟨e, (AList.lookup_insert_ne he).trans hc⟩)
    · exact .inr (.inr hshut)
  · intro key' i hc
    rcases Table.lookup_insert_cases hc with ⟨rfl, rfl⟩ | ⟨-, hold⟩
    · exact ⟨child, hchild, hserver, hpid⟩
    · exact h.cached key' i hold
  · intro e key' i hc
    obtain ⟨hold, hkey⟩ := hcases hc
    obtain ⟨hnone', hlives⟩ := h.connecting e key' i hold
    exact ⟨(AList.lookup_insert_ne hkey).trans hnone', hlives⟩
  · intro e e' key' i i' hc hc'
    exact h.alone e e' key' i i' (hcases hc).1 (hcases hc').1

/-- A handshake fails, with its child dead. -/
theorem orderly_connectFailed (h : w.Orderly) (hconnects : w.connections.Connecting execution key client)
    (hdead : ∀ child, w.connections.clients.lookup client = some child → child.alive = false) :
    Processes.Orderly { w with connections := { w.connections with
      cache := w.connections.cache.erase key, executions := w.connections.executions.erase execution } } := by
  obtain ⟨hnone, -⟩ := h.connecting execution key client hconnects
  refine ⟨⟨h.one, ?_⟩, h.sane, fun key' i hc => h.cached key' i (Table.lookup_of_erase hc).2, ?_, ?_⟩
  · intro i living hliving halive
    rcases h.held i living hliving halive with hcached | ⟨e, hc⟩ | hshut
    · refine .inl ((AList.lookup_erase_ne ?_).trans hcached)
      intro hkey
      rw [hkey, hnone] at hcached
      cases hcached
    · refine .inr (.inl ⟨e, (AList.lookup_erase_ne ?_).trans hc⟩)
      rintro rfl
      cases hconnects.symm.trans hc
      rw [hdead living hliving] at halive
      cases halive
    · exact .inr (.inr hshut)
  · intro e key' i hc
    obtain ⟨hnone', hlives⟩ := h.connecting e key' i (Table.lookup_of_erase hc).2
    refine ⟨?_, hlives⟩
    by_cases hkey : key' = key
    · subst hkey
      exact AList.lookup_erase _ _
    · exact (AList.lookup_erase_ne hkey).trans hnone'
  · intro e e' key' i i' hc hc'
    exact h.alone e e' key' i i' (Table.lookup_of_erase hc).2 (Table.lookup_of_erase hc').2

/-- The clients in the cache are shut down. -/
theorem orderly_shutdown (h : w.Orderly) (hid : w.shutdowns.lookup id = none) :
    Processes.Orderly
      { connections := { w.connections with cache := ∅ }
        shutdowns := w.shutdowns.insert id (w.connections.cache.entries.map fun e => e.2) } := by
  refine ⟨⟨h.one, ?_⟩, h.sane, fun key i hc => (nomatch hc), ?_, h.alone⟩
  · intro i child hchild halive
    rcases h.held i child hchild halive with hcached | hconnects | ⟨id', clients, hid', hclient⟩
    · refine .inr (.inr ⟨id, _, AList.lookup_insert _, ?_⟩)
      exact List.mem_map.2 ⟨⟨child.server, i⟩, AList.mem_lookup_iff.1 hcached, rfl⟩
    · exact .inr (.inl hconnects)
    · refine .inr (.inr ⟨id', clients, (AList.lookup_insert_ne ?_).trans hid', hclient⟩)
      rintro rfl
      rw [hid] at hid'
      cases hid'
  · intro e key i hc
    exact ⟨rfl, (h.connecting e key i hc).2⟩

/-- A shutdown is through. -/
theorem orderly_resolved (h : w.Orderly) (hid : w.shutdowns.lookup id = some clients) :
    Processes.Orderly
      { connections := { w.connections with clients := endAll w.connections.clients clients }
        shutdowns := w.shutdowns.erase id } := by
  have hclients := descends_endAll w.connections.clients clients
  have hkept : Processes.Orderly
      { w with connections := { w.connections with clients := endAll w.connections.clients clients } } :=
    h.of_descends rfl rfl (fun _ _ _ => Iff.rfl) hclients
  refine ⟨⟨hkept.one, ?_⟩, hkept.sane, hkept.cached, hkept.connecting, hkept.alone⟩
  intro i child hchild halive
  rcases hkept.held i child hchild halive with hcached | hconnects | ⟨id', clients', hid', hclient⟩
  · exact .inl hcached
  · exact .inr (.inl hconnects)
  · refine .inr (.inr ⟨id', clients', (AList.lookup_erase_ne ?_).trans hid', hclient⟩)
    rintro rfl
    cases hid.symm.trans hid'
    rw [alive_endAll hclient h.sane hchild] at halive
    cases halive

/-! ## The steps of a connector -/

/-- What a client hears of, its child goes on with. -/
theorem becomes_handle {event : StdioEvent} (h : ∀ failure, event = .gone failure → child.alive = false) :
    child.Becomes { child with client := (child.client.handle event).1 } := by
  refine ⟨rfl, rfl, id, fun hsane halive => ⟨?_, (hsane halive).2⟩⟩
  refine Bool.eq_false_of_not_eq_true fun hexited => ?_
  rcases exited_of_handle hexited with hbefore | ⟨failure, hgone⟩
  · rw [(hsane halive).1] at hbefore
    cases hbefore
  · have hdead : child.alive = false := h failure hgone
    rw [show child.alive = true from halive] at hdead
    cases hdead

/-- **What a step of a connector does**: it lets clients and children go on, spawns a child, puts a client into the cache
or gives one up. -/
inductive Connections.Effect (w : Connections) (label : ConnectorLabel) : Connections → Prop where
  | goesOn {w' : Connections} (hcache : w'.cache = w.cache)
    (hconnecting : ∀ execution key client, w'.Connecting execution key client ↔ w.Connecting execution key client)
    (hclients : Descends w.clients w'.clients) : Effect w label w'
  | spawned {execution client : Nat} {connector : McpConnector} {pid : Option Nat} {server : McpServerRegistration}
    (hlabel : label = .execute execution connector client pid)
    (hserver : connector.server w.store = .ok server) (hexecution : w.executions.lookup execution = none)
    (hclient : w.clients.lookup client = none) (hreused : w.reused (server.tenantId, server.mcpServerId) = none) :
    Effect w label { w with
      cache := w.cache.erase (server.tenantId, server.mcpServerId)
      clients := w.clients.insert client
        ⟨(server.tenantId, server.mcpServerId), server.input.startup, pid, pid.isSome, .spawned⟩
      executions := w.executions.insert execution (.connecting (server.tenantId, server.mcpServerId) client) }
  | connected {execution client : Nat} {key : Text × Text} {child : McpChild}
    (hconnects : w.Connecting execution key client) (hchild : w.clients.lookup client = some child)
    (hpid : child.pid.isSome = true) :
    Effect w label { w with
      cache := w.cache.insert key client, executions := w.executions.insert execution (.ready key client) }
  | failed {execution client : Nat} {key : Text × Text} (hlabel : label = .connectFailed execution)
    (hconnects : w.Connecting execution key client) :
    Effect w label { w with cache := w.cache.erase key, executions := w.executions.erase execution }

theorem effect_of_next {connections' : Connections} (hhears : connections.hears label = true)
    (hstep : connections.next sha256 label = some connections') : connections.Effect label connections' := by
  cases label with
  | execute execution connector client pid =>
    simp only [Connections.next] at hstep
    split at hstep
    swap
    · cases hstep
    next hfresh =>
    split at hstep
    · cases hstep
      exact .goesOn rfl (fun _ _ _ => Iff.rfl) (.refl _)
    next server hserver =>
    split at hstep
    · cases hstep
      refine .goesOn rfl (fun e key i => ⟨fun hc => ?_, fun hc => (AList.lookup_insert_ne ?_).trans hc⟩) (.refl _)
      · rcases Table.lookup_insert_cases hc with ⟨-, hready⟩ | ⟨-, hold⟩
        · cases hready
        · exact hold
      · rintro rfl
        rw [Connections.Connecting, hfresh.1] at hc
        cases hc
    · next hreused =>
      cases hstep
      exact .spawned rfl hserver hfresh.1 (by simpa using hfresh.2) hreused
  | connected execution =>
    simp only [Connections.next] at hstep
    split at hstep
    swap
    · cases hstep
    next key client hconnects =>
    split at hstep
    swap
    · cases hstep
    next child hchild =>
    split at hstep
    swap
    · cases hstep
    next hanswers =>
    cases hstep
    exact .connected hconnects hchild hanswers.1
  | connectFailed execution =>
    simp only [Connections.next] at hstep
    split at hstep
    swap
    · cases hstep
    next key client hconnects =>
    cases hstep
    exact .failed rfl hconnects
  | call execution =>
    simp only [Connections.next] at hstep
    split at hstep
    swap
    · cases hstep
    next key client hready =>
    split at hstep
    swap
    · cases hstep
    next child hchild =>
    cases hstep
    refine .goesOn rfl (fun e key' i => ⟨fun hc => (Table.lookup_of_erase hc).2, fun hc => ?_⟩) ?_
    · refine (AList.lookup_erase_ne ?_).trans hc
      rintro rfl
      rw [Connections.Connecting, hready] at hc
      cases hc
    · split
      · next c hrequest =>
        refine descends_insert hchild ⟨rfl, rfl, id, fun hsane halive => ⟨?_, (hsane halive).2⟩⟩
        exact (kept_request hrequest).2.1.trans (hsane halive).1
      · exact .refl _
  | exit client =>
    obtain ⟨child, hchild, rfl⟩ := Option.map_eq_some_iff.1 hstep
    refine .goesOn rfl (fun _ _ _ => Iff.rfl) (descends_insert hchild ?_)
    refine ⟨rfl, rfl, fun halive => ?_, fun _ halive => ?_⟩
    · cases halive
    · cases halive
  | event client event =>
    obtain ⟨child, hchild, rfl⟩ := Option.map_eq_some_iff.1 hstep
    refine .goesOn rfl (fun _ _ _ => Iff.rfl) (descends_insert hchild (becomes_handle ?_))
    rintro failure rfl
    simpa [Connections.hears, hchild] using hhears
  | shutdown => cases hhears
  | operate op =>
    obtain ⟨store, -, rfl⟩ := Option.map_eq_some_iff.1 hstep
    exact .goesOn rfl (fun _ _ _ => Iff.rfl) (.refl _)

theorem orderly_connector (h : w.Orderly) (heffect : w.connections.Effect label connections)
    (hcareful : w.careful (.connector label) = true) : Processes.Orderly { w with connections := connections } := by
  cases heffect with
  | goesOn hcache hconnecting hclients => exact h.of_descends hcache rfl hconnecting hclients
  | spawned hlabel hserver hexecution hclient hreused =>
    subst hlabel
    simp only [Processes.careful, hserver, hreused, Option.isSome_none, Bool.false_or, Bool.and_eq_true,
      Bool.not_eq_true'] at hcareful
    exact orderly_spawn h hexecution hclient hreused hcareful.1 hcareful.2
  | connected hconnects hchild hpid => exact orderly_connected h hconnects hchild hpid
  | failed hlabel hconnects =>
    subst hlabel
    refine orderly_connectFailed h hconnects fun child hchild => ?_
    rw [Connections.Connecting] at hconnects
    simpa [Processes.careful, hconnects, hchild] using hcareful

/-- **A careful step leaves no child alone.** -/
theorem orderly_step {label : ProcessLabel} (hstep : ProcessStep sha256 w label w') (hcareful : w.careful label = true)
    (h : w.Orderly) : w'.Orderly := by
  cases label with
  | connector label =>
    simp only [ProcessStep, Processes.next] at hstep
    split at hstep
    swap
    · cases hstep
    next hhears =>
    obtain ⟨connections, hnext, rfl⟩ := Option.map_eq_some_iff.1 hstep
    exact orderly_connector h (effect_of_next hhears hnext) hcareful
  | shutdown id =>
    simp only [ProcessStep, Processes.next] at hstep
    split at hstep
    · next hfresh =>
      cases hstep
      exact orderly_shutdown h (by simpa using hfresh)
    · cases hstep
  | resolved id =>
    obtain ⟨clients, hid, rfl⟩ := Option.map_eq_some_iff.1 hstep
    exact orderly_resolved h hid

theorem orderly_initial : Processes.initial.Orderly :=
  ⟨⟨fun _ _ _ _ h => (nomatch h), fun _ _ h => (nomatch h)⟩, fun _ _ h => (nomatch h), fun _ _ h => (nomatch h),
    fun _ _ _ h => (nomatch h), fun _ _ _ _ _ h => (nomatch h)⟩

/-! ## A shutdown with no execution in flight -/

/-- While a shutdown is in progress: the cache is empty, nothing connects, and no other shutdown has a living child. -/
structure Processes.Quiet (w : Processes) (id : Nat) : Prop where
  cache : ∀ key, w.connections.cache.lookup key = none
  idle : ∀ execution key client, ¬ w.connections.Connecting execution key client
  others : ∀ id' clients, w.shutdowns.lookup id' = some clients → id' ≠ id → ∀ client ∈ clients, ∀ child,
    w.connections.clients.lookup client = some child → child.alive = false

theorem entries_of_empty {cache : Table (Text × Text) Nat} (h : ∀ key, cache.lookup key = none) : cache.entries = [] := by
  refine List.eq_nil_iff_forall_not_mem.2 fun e he => ?_
  have hlookup : cache.lookup e.1 = some e.2 := AList.mem_lookup_iff.2 he
  rw [h] at hlookup
  cases hlookup

theorem dead_of_descends {children' : Table Nat McpChild} (hclients : Descends children children')
    (hdead : ∀ child, children.lookup client = some child → child.alive = false) (hchild : children'.lookup client = some child) :
    child.alive = false := by
  obtain ⟨old, hold, hbecomes⟩ := hclients.back client child hchild
  refine Bool.eq_false_of_not_eq_true fun halive => ?_
  have hlived := hbecomes.alive halive
  rw [hdead old hold] at hlived
  cases hlived

/-- The shutdown is called. -/
theorem quiet_shutdown (hcalm : w.ending (fun _ => true) = false)
    (hidle : ∀ execution key client, ¬ w.connections.Connecting execution key client)
    (hstep : ProcessStep sha256 w (.shutdown id) w') : w'.Quiet id := by
  simp only [ProcessStep, Processes.next] at hstep
  split at hstep
  swap
  · cases hstep
  cases hstep
  refine ⟨fun _ => rfl, hidle, fun id' clients hid' hne client hclient child hchild => ?_⟩
  rw [AList.lookup_insert_ne hne] at hid'
  refine Bool.eq_false_of_not_eq_true fun halive => ?_
  rw [ending_of hid' hclient hchild halive rfl] at hcalm
  cases hcalm

theorem quiet_step {label : ProcessLabel} (hstep : ProcessStep sha256 w label w') (hlabel : label.executes = false)
    (h : w.Quiet id) : w'.Quiet id := by
  cases label with
  | connector label =>
    simp only [ProcessStep, Processes.next] at hstep
    split at hstep
    swap
    · cases hstep
    next hhears =>
    obtain ⟨connections, hnext, rfl⟩ := Option.map_eq_some_iff.1 hstep
    cases effect_of_next hhears hnext with
    | goesOn hcache hconnecting hclients =>
      refine ⟨fun key => ?_, fun e key i hc => h.idle e key i ((hconnecting e key i).1 hc), ?_⟩
      · rw [hcache]
        exact h.cache key
      · intro id' clients hid' hne client hclient child hchild
        exact dead_of_descends hclients (h.others id' clients hid' hne client hclient) hchild
    | spawned hexecute =>
      subst hexecute
      cases hlabel
    | connected hconnects => exact absurd hconnects (h.idle _ _ _)
    | failed _ hconnects => exact absurd hconnects (h.idle _ _ _)
  | shutdown id' =>
    simp only [ProcessStep, Processes.next] at hstep
    split at hstep
    swap
    · cases hstep
    cases hstep
    refine ⟨fun _ => rfl, h.idle, fun other clients hother hne client hclient => ?_⟩
    rcases Table.lookup_insert_cases hother with ⟨rfl, rfl⟩ | ⟨-, hother⟩
    · rw [entries_of_empty h.cache] at hclient
      cases hclient
    · exact h.others other clients hother hne client hclient
  | resolved id' =>
    obtain ⟨ended, -, rfl⟩ := Option.map_eq_some_iff.1 hstep
    refine ⟨h.cache, h.idle, fun other clients hother hne client hclient child hchild => ?_⟩
    exact dead_of_descends (descends_endAll _ ended) (h.others other clients (Table.lookup_of_erase hother).2 hne client hclient)
      hchild

/-- When the shutdown resolves, no child is left. -/
theorem dead_of_resolved (hquiet : w.Quiet id) (hstep : ProcessStep sha256 w (.resolved id) w') (h : w'.Orderly)
    (hchild : w'.connections.clients.lookup client = some child) : child.alive = false := by
  have hquiet' : w'.Quiet id := quiet_step hstep rfl hquiet
  obtain ⟨ended, -, rfl⟩ := Option.map_eq_some_iff.1 hstep
  refine Bool.eq_false_of_not_eq_true fun halive => ?_
  rcases h.held client child hchild halive with hcached | ⟨execution, hconnects⟩ | ⟨id', clients, hid', hclient⟩
  · rw [hquiet'.cache] at hcached
    cases hcached
  · exact hquiet'.idle _ _ _ hconnects
  · have hdead := hquiet'.others id' clients hid' (Table.lookup_of_erase hid').1 client hclient child hchild
    rw [halive] at hdead
    cases hdead

/-- **The children of connectors.** In a run whose steps are all careful a server has one living child at most, every living
child is in the cache or being connected or shut down, and none is left when a shutdown resolves during which no execution
was in flight. -/
theorem tended_of_run {labels : List ProcessLabel}
    (hrun : Run (fun w label w' => ProcessStep sha256 w label w' ∧ w.careful label = true) .initial labels w) :
    w.Tended ∧ ShutDown sha256 labels w := by
  have horderly : ∀ {labels w}, Run (fun w label w' => ProcessStep sha256 w label w' ∧ w.careful label = true) .initial labels w →
      w.Orderly := fun hrun => hrun.invariant (I := Processes.Orderly) (fun _ _ _ hstep => orderly_step hstep.1 hstep.2)
    orderly_initial
  refine ⟨(horderly hrun).toTended, ?_⟩
  rintro before id during u rfl hbefore hidle hduring client child hchild
  obtain ⟨u', v, hbefore', ⟨hcalled, hcareful⟩, hafter⟩ := hrun.split
  obtain rfl : u = u' := hbefore.unique (hbefore'.mono fun _ _ _ h => h.1)
  obtain ⟨x, hmiddle, hresolved, -⟩ := hafter.of_snoc
  have hquiet : x.Quiet id := by
    refine hmiddle.guarded_invariant (I := fun w => w.Quiet id) (C := fun label => label.executes = false) ?_ ?_ hduring
    · exact fun _ _ _ hstep hlabel h => quiet_step hstep.1 hlabel h
    · exact quiet_shutdown (by simpa [Processes.careful] using hcareful) hidle hcalled
  exact dead_of_resolved hquiet hresolved (horderly hrun) hchild

end

/-! ## Two executions that overlap -/

/-- A tool of a server is enabled, and two executions of it begin before either has a client. -/
def overlaps : List ProcessLabel :=
  [.connector (.operate (.createTenant "t" "config")), .connector (.operate (.registerMcpServer "t" "srv" sampleInput "now")),
    .connector (.operate (.recordDiscovery (sampleDiscovery sampleIds) "t" "srv" [advertised "a" "h1"])),
    .connector (.operate (.enableTool "t" "tool_1" 0 sampleDecision "bind_1")),
    .connector (.execute 0 sampleConnector 0 (some 7)), .connector (.execute 1 sampleConnector 1 (some 8)),
    .connector (.connected 0), .connector (.connected 1), .shutdown 0, .resolved 0]

/-- One execution connects, and what it connected to is shut down. -/
def connectsAlone : List ProcessLabel :=
  overlaps.take 5 ++ [.connector (.connected 0), .connector (.call 0), .shutdown 0, .resolved 0]

theorem tended_of_run_connectsAlone : ∃ w : Processes, w.Tended ∧ ShutDown id connectsAlone w ∧
    (w.connections.clients.lookup 0).any (fun child => !child.alive) = true := by
  have hreplay : (replay (fun w label => if w.careful label = true then w.next id label else none) Processes.initial
      connectsAlone).any (fun w => (w.connections.clients.lookup 0).any fun child => !child.alive) = true := by decide +kernel
  obtain ⟨w, hrun, htest⟩ := run_of_guarded_test hreplay
  obtain ⟨htended, hshut⟩ := tended_of_run hrun
  exact ⟨w, htended, hshut, htest⟩

/-- The child whose client was put into the cache first outlives the shutdown, and nothing holds it. -/
theorem not_tended_of_run : ¬ ∀ (labels : List ProcessLabel) (w : Processes), Run (ProcessStep id) .initial labels w →
    w.Tended ∧ ShutDown id labels w := by
  intro h
  have hreplay : (replay (Processes.next id) .initial overlaps).any (fun w =>
      (w.connections.clients.lookup 0).any (fun child => child.alive &&
        decide (w.connections.cache.lookup child.server = none) && !w.connections.connecting child.server) &&
        !w.shutdowns.any fun clients => clients.contains 0) = true := by decide +kernel
  obtain ⟨w, hrun, htest⟩ := run_of_test hreplay
  simp only [Bool.and_eq_true, Bool.not_eq_true'] at htest
  obtain ⟨hchild, hshutdowns⟩ := htest
  obtain ⟨child, hchild, htest⟩ := (Option.any_eq_true ..).1 hchild
  simp only [Bool.and_eq_true, Bool.not_eq_true', decide_eq_true_eq] at htest
  obtain ⟨⟨halive, huncached⟩, hidle⟩ := htest
  rcases (h overlaps w hrun).1.held 0 child hchild halive with hcached | ⟨execution, hconnects⟩ | ⟨id, clients, hid, hclient⟩
  · rw [huncached] at hcached
    cases hcached
  · rw [connecting_of hconnects] at hidle
    cases hidle
  · have hany : w.shutdowns.any (fun clients => clients.contains 0) = true :=
      Table.any_iff.2 ⟨id, clients, hid, List.contains_iff_mem.2 hclient⟩
    rw [hshutdowns] at hany
    cases hany

end Tna.Client
