import Tna.Ledger.Stored

/-!
# Causal predecessors

An event that refers to a capability, an execution, an atom or an agent is stored after the
events that its type requires, under the same tenant and for the same reference. The
reference is compared as the caller gave it and read back from the columns later, so the
proof follows it through JSON text.
-/

namespace Tna.Ledger

open Tna.Js Tna.Lib Value

/-- The predecessors an event of a type requires: the context and the field of the reference, and their types. -/
def EventType.requires : EventType → Option (ContextColumn × String × List EventType)
  | .capabilityRedeemed => some (.authority, "capability_id", [.capabilityIssued])
  | .executionSucceeded | .executionFailed | .executionTerminated | .executionIndeterminate =>
    some (.execution, "execution_id", [.executionStarted])
  | .atomAccepted => some (.spec, "atom_id", [.atomVerificationAccepted, .atomHumanDecision])
  | .agentRevoked => some (.authority, "agent_id", [.agentRegistered])
  | _ => none

def LedgerEvent.context (e : LedgerEvent) : ContextColumn → Value
  | .authority => e.authorityContext
  | .spec => e.specContext
  | .execution => e.executionContext

/-- What a stored event has in a field of one of its contexts. -/
def RawEventRow.reference (row : RawEventRow) (column : ContextColumn) (name : String) : Option Value :=
  match toLedgerEvent row with
  | none => none
  | some e =>
    match e.context column with
    | .obj fields => some (Value.get fields name)
    | _ => none

def LedgerEventInput.context (input : LedgerEventInput) : ContextColumn → Option JsObject
  | .authority => input.authorityContext
  | .spec => input.specContext
  | .execution => input.executionContext

/-! ## Event types by name -/

theorem mem_eventTypes (t : EventType) : t ∈ eventTypes := by
  cases t <;> decide

/-- A text as one number, which is cheaper to compare. -/
def textCode (t : Text) : Nat := t.foldl (fun n c => n * 65536 + c.toNat) 0

theorem EventType.name_injective : Function.Injective EventType.name := by
  have hnodup : (eventTypes.map fun t => textCode t.name).Nodup := by decide +kernel
  intro a b h
  exact List.inj_on_of_nodup_map hnodup (mem_eventTypes a) (mem_eventTypes b) (congrArg textCode h)

/-! ## References through JSON text -/

variable {v : Value} {column : ContextColumn} {input : LedgerEventInput} {name : String} {priors : List EventType}
  {s : LedgerStore} {raw : JsValue} {row : RawEventRow} {sha256 : Text → Text}

/-- A value that is `===` to a truthy one is that one. -/
theorem eq_of_strictEq {w : Value} (h : strictEq v w = true) (hw : w.truthy = true) : v = w := by
  unfold strictEq at h
  split at h
  · rfl
  · rfl
  · rw [eq_of_beq h]
  · cases h
  · have hzero := of_decide_eq_true h
    rw [truthy, hzero] at hw
    cases hw
  · cases hw
  · rw [of_decide_eq_true h]
  · rw [of_decide_eq_true h]
  · cases h

theorem isUndefined_of_truthy (h : v.truthy = true) : v.isUndefined = false := by
  cases v with
  | undefined => cases h
  | _ => rfl

/-! ## The lookup -/

section
variable {s : LedgerStore} {tenantId : Text} {column : ContextColumn} {name : String} {value : Value}

/-- Every row the lookup goes through can be looked at, and every row it finds can be read. -/
def Scannable (s : LedgerStore) (tenantId : Text) (column : ContextColumn) (name : String) (value : Value)
    (types : List EventType) : Prop :=
  ∀ r ∈ s.contextRows tenantId column types, contextMatches column name value r ≠ none ∧
    (contextMatches column name value r = some true → toLedgerEvent r ≠ none)

/-- There is a row with the value in the field. -/
def Found (s : LedgerStore) (tenantId : Text) (column : ContextColumn) (name : String) (value : Value)
    (types : List EventType) : Prop :=
  ∃ r ∈ s.contextRows tenantId column types, contextMatches column name value r = some true

variable {types : List EventType}

theorem findByContextField_eq_some {found : List LedgerEvent}
    (h : s.findByContextField tenantId column name value types = some found) :
    Scannable s tenantId column name value types ∧ (found ≠ [] ↔ Found s tenantId column name value types) := by
  unfold LedgerStore.findByContextField at h
  simp only at h
  split at h
  · next rows hrows =>
    obtain ⟨hdefined, hkept⟩ := filterM_eq_some hrows
    have hread := mapM_eq_some_iff.1 h
    have hmem : ∀ r, r ∈ rows ↔
        r ∈ s.contextRows tenantId column types ∧ contextMatches column name value r = some true := by
      intro r
      rw [hkept, List.mem_filter, List.mem_insertionSort, decide_eq_true_eq]
    refine ⟨fun r hr => ⟨hdefined r ((List.mem_insertionSort _).2 hr), fun htrue => ?_⟩, ?_⟩
    · obtain ⟨e, -, he⟩ := exists_of_mem_mapM h ((hmem r).2 ⟨hr, htrue⟩)
      simp [he]
    · rw [Found, ← List.length_pos_iff, ← hread.length_eq, List.length_pos_iff_exists_mem]
      exact exists_congr hmem
  · cases h

theorem findByContextField_of_scannable (h : Scannable s tenantId column name value types) :
    ∃ found, s.findByContextField tenantId column name value types = some found := by
  have hdefined : ∀ r ∈ (s.contextRows tenantId column types).insertionSort (fun a b => a.receivedAt ≤ b.receivedAt),
      contextMatches column name value r ≠ none :=
    fun r hr => (h r ((List.mem_insertionSort _).1 hr)).1
  unfold LedgerStore.findByContextField
  simp only [filterM_of_forall hdefined]
  refine mapM_of_forall fun r hr => ?_
  obtain ⟨hr, htrue⟩ := List.mem_filter.1 hr
  exact (h r ((List.mem_insertionSort _).1 hr)).2 (of_decide_eq_true htrue)

/-- What the check of one reference says: the lookup of every required type goes through and finds a row. -/
theorem requirePriors_eq_ok {ctx : Option JsObject} {priors : List EventType} {message : Text}
    (hset : (field ctx name).truthy = true) :
    requirePriors s tenantId ctx column name priors message = .ok () ↔
      ∀ prior ∈ priors, Scannable s tenantId column name (field ctx name) [prior] ∧
        Found s tenantId column name (field ctx name) [prior] := by
  rw [requirePriors, if_pos hset]
  constructor
  · intro h prior hprior
    split at h
    · cases h
    · next found hfound =>
      obtain ⟨events, hmem, hevents⟩ := exists_of_mem_mapM hfound hprior
      obtain ⟨hscan, hnonempty⟩ := findByContextField_eq_some hevents
      refine ⟨hscan, hnonempty.1 ?_⟩
      rintro rfl
      have hany : found.any List.isEmpty = true := List.any_eq_true.2 ⟨[], hmem, rfl⟩
      rw [if_pos hany] at h
      cases h
  · intro h
    obtain ⟨found, hfound⟩ := mapM_of_forall
      (f := fun prior => s.findByContextField tenantId column name (field ctx name) [prior]) (l := priors) (by
        intro prior hprior
        obtain ⟨events, hevents⟩ := findByContextField_of_scannable (h prior hprior).1
        simp [hevents])
    rw [hfound]
    refine if_neg ?_
    intro hany
    obtain ⟨events, hevents, hempty⟩ := List.any_eq_true.1 hany
    obtain ⟨prior, hprior, hread⟩ := exists_of_mem_mapped hfound hevents
    exact (findByContextField_eq_some hread).2.2 (h prior hprior).2 (List.isEmpty_iff.1 hempty)

end

/-- The invariants of an input whose type requires predecessors for a reference it has. -/
theorem assertInvariants_eq_ok (hrequires : input.eventType.requires = some (column, name, priors))
    (hset : (field (input.context column) name).truthy = true) :
    assertInvariants s input = .ok () ↔
      ∀ prior ∈ priors, Scannable s input.tenantId column name (field (input.context column) name) [prior] ∧
        Found s input.tenantId column name (field (input.context column) name) [prior] := by
  unfold assertInvariants
  cases htype : input.eventType <;> rw [htype] at hrequires <;> cases hrequires
  all_goals exact requirePriors_eq_ok hset

/-! ## What an accepted event refers to -/

theorem require_eq_ok {ok : Bool} {message : Text} (h : require ok message = .ok ()) : ok = true := by
  unfold require at h
  split at h
  · next hok => exact hok
  · cases h

/-- The reference of an event that requires predecessors is there. -/
theorem truthy_of_complete (hinput : validateEventInput raw = .ok input)
    (hrequires : input.eventType.requires = some (column, name, priors)) :
    (field (input.context column) name).truthy = true := by
  obtain ⟨-, -, -, -, -, hcomplete⟩ := validateEventInput_checked hinput
  cases htype : input.eventType <;> rw [htype] at hrequires hcomplete <;> cases hrequires
  all_goals
    have hfields := require_eq_ok hcomplete
    simp only [hasFields, List.all_cons, Bool.and_eq_true] at hfields
  · exact hfields.1
  · exact hfields.1
  · exact hfields.1
  · exact hfields.1
  · exact hfields.1
  · exact hfields.1.1
  · exact hfields.1

/-! ## References in the columns -/

/-- A context as the stored row gives it back. -/
theorem parseColumn_stores (h : row.Stores input) (column : ContextColumn) :
    parseColumn (row.context column) = some (readBack (input.context column)) := by
  obtain ⟨n, now, payloadHash, prev, eventHash, rfl⟩ := h
  cases column <;> exact parseColumn_stringifyColumn _

theorem reference_stores (h : row.Stores input) {o : JsObject} (ho : input.context column = some o) (name : String) :
    row.reference column name = some (Value.get (normalFields o.fields) name) := by
  obtain ⟨e, he, hcontent⟩ := toLedgerEvent_stores h
  have hcontext : e.context column = readBack (input.context column) := by
    cases column <;> rw [LedgerEvent.context, LedgerEventInput.context, hcontent]
  rw [RawEventRow.reference, he]
  simp only [hcontext, ho]
  rfl

/-- A row in which the lookup finds a reference has it. -/
theorem reference_of_contextMatches (h : row.Stores input) {value : Value} (hvalue : value.truthy = true)
    (hmatch : contextMatches column name value row = some true) :
    row.reference column name = some value ∧ value.normal = value := by
  rw [contextMatches, parseColumn_stores h column] at hmatch
  cases hctx : input.context column with
  | none =>
    rw [hctx] at hmatch
    cases hmatch
  | some o =>
    have hread : readBack (some o) = .obj (normalFields o.fields) := rfl
    rw [hctx, hread] at hmatch
    have hvalue' : Value.get (normalFields o.fields) name = value := eq_of_strictEq (Option.some.inj hmatch) hvalue
    refine ⟨by rw [reference_stores h hctx, hvalue'], ?_⟩
    rw [get_normalFields o.keys_nodup] at hvalue'
    split at hvalue'
    · rw [← hvalue'] at hvalue
      cases hvalue
    · rw [← hvalue', normal_normal]

/-- The reference of the input is the one that its row has. -/
theorem reference_of_field (h : row.Stores input) (hset : (field (input.context column) name).truthy = true)
    (hnormal : (field (input.context column) name).normal = field (input.context column) name) :
    row.reference column name = some (field (input.context column) name) := by
  cases hctx : input.context column with
  | none =>
    rw [hctx] at hset
    cases hset
  | some o =>
    rw [hctx] at hset hnormal
    have hget : (Value.get o.fields name).isUndefined = false := isUndefined_of_truthy hset
    rw [reference_stores h hctx, get_normalFields o.keys_nodup, if_neg (by simp [hget])]
    exact congrArg some hnormal

/-! ## A run -/

/-- The predecessors that the row requires are among the rows before it. -/
def Preceded (before : List RawEventRow) (row : RawEventRow) : Prop :=
  ∀ (type : EventType) (column : ContextColumn) (name : String) (priors : List EventType),
    row.eventType = type.name → type.requires = some (column, name, priors) →
      ∃ v, v.truthy = true ∧ row.reference column name = some v ∧ ∀ prior ∈ priors, ∃ r ∈ before,
        r.tenantId = row.tenantId ∧ r.eventType = prior.name ∧ r.reference column name = some v

/-- A fresh row is preceded by what it requires, when every row before it stores an input. -/
theorem preceded_freshRow {now : Text} (hstored : ∀ r ∈ s.events, ∃ input, r.Stores input)
    (hinput : validateEventInput raw = .ok input) (hinvariants : assertInvariants s input = .ok ()) :
    Preceded s.events (freshRow sha256 now s input) := by
  intro type column name priors htype hrequires
  obtain rfl : input.eventType = type := EventType.name_injective htype
  have hset := truthy_of_complete hinput hrequires
  have hfound : ∀ prior ∈ priors, ∃ r ∈ s.events, r.tenantId = input.tenantId ∧ r.eventType = prior.name ∧
      r.reference column name = some (field (input.context column) name) ∧
      (field (input.context column) name).normal = field (input.context column) name := by
    intro prior hprior
    obtain ⟨-, r, hr, hmatch⟩ := (assertInvariants_eq_ok hrequires hset).1 hinvariants prior hprior
    obtain ⟨hr, hrow⟩ := List.mem_filter.1 hr
    obtain ⟨htenant, hname, -⟩ := of_decide_eq_true hrow
    obtain ⟨stored, hstores⟩ := hstored r hr
    exact ⟨r, hr, htenant, by simpa using hname, reference_of_contextMatches hstores hset hmatch⟩
  have hnormal : (field (input.context column) name).normal = field (input.context column) name := by
    have hne : priors ≠ [] := by
      rintro rfl
      cases htype : input.eventType <;> rw [htype] at hrequires <;> cases hrequires
    obtain ⟨prior, hprior⟩ := List.exists_mem_of_ne_nil priors hne
    obtain ⟨-, -, -, -, -, h⟩ := hfound prior hprior
    exact h
  refine ⟨_, hset, reference_of_field freshRow_stores hset hnormal, fun prior hprior => ?_⟩
  obtain ⟨r, hr, htenant, hname, href, -⟩ := hfound prior hprior
  exact ⟨r, hr, htenant, hname, href⟩

/-- Every row is preceded by what it requires, and stores an input. -/
structure Causal (events : List RawEventRow) : Prop where
  stored : ∀ r ∈ events, ∃ input, r.Stores input
  preceded : ∀ before row after, events = before ++ row :: after → Preceded before row

theorem Causal.snoc {events : List RawEventRow} (h : Causal events) (hrow : row.Stores input) (hpreceded : Preceded events row) :
    Causal (events ++ [row]) := by
  refine ⟨?_, ?_⟩
  · intro r hr
    rcases List.mem_append.1 hr with hr | hr
    · exact h.stored r hr
    · rw [List.mem_singleton.1 hr]
      exact ⟨input, hrow⟩
  · intro before r after heq
    rcases List.eq_nil_or_concat' after with rfl | ⟨after, last, rfl⟩
    · obtain ⟨rfl, hlast⟩ := List.append_inj' heq rfl
      cases hlast
      exact hpreceded
    · rw [← List.cons_append, ← List.append_assoc] at heq
      exact h.preceded before r after (List.append_inj' heq rfl).1

theorem AppendCall.run_causal (c : AppendCall) (h : Causal s.events) : Causal (c.run sha256 s).events := by
  rcases AppendCall.run_events sha256 s c with hsame | ⟨input, hinput, -, hinvariants, hgrown⟩
  · rw [hsame]
    exact h
  · rw [hgrown]
    exact h.snoc freshRow_stores (preceded_freshRow h.stored hinput hinvariants)

theorem foldl_run_causal (calls : List AppendCall) (h : Causal s.events) :
    Causal (calls.foldl (AppendCall.run sha256) s).events := by
  induction calls generalizing s with
  | nil => exact h
  | cons c rest ih => exact ih (c.run_causal h)

/-- **No orphan is stored**: after any run, the row of an event whose type requires predecessors has the reference,
and a row of each required type stands before it, of the same tenant and with the same reference. -/
theorem preceded_of_run (sha256 : Text → Text) (calls : List AppendCall) {before after : List RawEventRow}
    {row : RawEventRow} (h : (runAppends sha256 calls).events = before ++ row :: after) : Preceded before row :=
  (foldl_run_causal calls ⟨List.forall_mem_nil _, by simp [LedgerStore.empty]⟩).preceded before row after h

/-! ## An agent that is registered and revoked -/

/-- An event of an agent. -/
def agentEvent (id type : String) : Value :=
  .obj [("version", .str "1.0"), ("event_id", .str id), ("event_type", .str type), ("tenant_id", .str "t"),
    ("stream_id", .str "s"), ("actor", .obj [("type", .str "SYSTEM"), ("id", .str "a")]), ("correlation_id", .str "c"),
    ("source_component", .str "ledger"), ("authority_context", .obj [("agent_id", .str "agent-1")])]

def agentCall (id type : String) (h : (agentEvent id type).distinct = true) : AppendCall :=
  ⟨sampleWriter, ⟨agentEvent id type, h⟩, "2026-01-01T00:00:00.000Z"⟩

def agentCalls : List AppendCall :=
  [agentCall "e1" "AGENT_REGISTERED" (by decide), agentCall "e2" "AGENT_REVOKED" (by decide)]

theorem preceded_of_run_revoked_agent :
    ∃ registered revoked, (runAppends id agentCalls).events = [registered, revoked] ∧
      revoked.eventType = EventType.agentRevoked.name ∧ Preceded [registered] revoked := by
  have htypes : (runAppends id agentCalls).events.map RawEventRow.eventType =
      [EventType.agentRegistered.name, EventType.agentRevoked.name] := by
    decide +kernel
  obtain ⟨registered, rest, hevents, -, hrest⟩ := List.map_eq_cons_iff.1 htypes
  obtain ⟨revoked, rest, rfl, hrevoked, hrest⟩ := List.map_eq_cons_iff.1 hrest
  obtain rfl := List.map_eq_nil_iff.1 hrest
  exact ⟨registered, revoked, hevents, hrevoked, preceded_of_run id agentCalls hevents⟩

end Tna.Ledger
