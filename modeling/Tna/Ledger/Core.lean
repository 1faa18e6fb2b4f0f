import Tna.Ledger.Store

/-!
# The Ledger facade: appending

`Ledger.append` validates the input, checks the writer and the cross-event
invariants, and hands the input to the store. A run is a sequence of such calls
by any writers; a call that is rejected leaves the store as it was.
-/

namespace Tna.Ledger

open Tna.Js

inductive LedgerRole where
  | writer | reader | admin
deriving DecidableEq

/-- A service identity bound to the Ledger. -/
structure LedgerPrincipal where
  id : Text
  role : LedgerRole
  tenantId : Text
  allowedSourceComponents : List SourceComponent

def forbidden (message : Text) : LedgerError := ⟨.forbidden, message⟩

def assertCanWrite (p : LedgerPrincipal) (input : LedgerEventInput) : Except LedgerError Unit :=
  let who := Text.ofAscii "Principal " ++ p.id
  if p.role ≠ .writer then .error (forbidden (who ++ Text.ofAscii " does not hold write authority"))
  else if p.tenantId ≠ input.tenantId then
    .error (forbidden (who ++ Text.ofAscii " is not authorized for tenant " ++ input.tenantId))
  else if input.sourceComponent ∉ p.allowedSourceComponents then
    .error (forbidden (who ++ Text.ofAscii " is not bound to source_component \"" ++ input.sourceComponent.name ++
      Text.ofAscii "\""))
  else .ok ()

/-- `a === b`; two objects that are not one object are never equal. -/
def strictEq : Value → Value → Bool
  | .undefined, .undefined => true
  | .null, .null => true
  | .bool a, .bool b => a == b
  | .num .nan, .num _ => false
  | .num .negZero, .num (.finite n) => n.text = Numeral.zero.text
  | .num (.finite n), .num .negZero => n.text = Numeral.zero.text
  | .num a, .num b => a = b
  | .str a, .str b => a = b
  | _, _ => false

inductive ContextColumn where
  | authority | spec | execution

def RawEventRow.context (r : RawEventRow) : ContextColumn → Option Text
  | .authority => r.authorityContext
  | .spec => r.specContext
  | .execution => r.executionContext

/-- Whether the row's context has the value in the field; `none` when the column
cannot be parsed or holds no object to read from. -/
def contextMatches (column : ContextColumn) (name : String) (value : Value) (r : RawEventRow) : Option Bool :=
  match parseColumn (r.context column) with
  | some (.obj fields) => some (strictEq (Value.get fields name) value)
  | some .undefined => none
  | some .null => none
  | some _ => some (strictEq .undefined value)
  | none => none

/-- The rows of a tenant, of one of the types where any are given, that have a context in the column. -/
def LedgerStore.contextRows (s : LedgerStore) (tenantId : Text) (column : ContextColumn) (eventTypes : List EventType) :
    List RawEventRow :=
  s.events.filter fun r =>
    r.tenantId = tenantId ∧ (eventTypes = [] ∨ r.eventType ∈ eventTypes.map EventType.name) ∧
      (r.context column).isSome

/-- The events of a tenant, of one of the types where any are given, whose context has the value in the field. -/
def LedgerStore.findByContextField (s : LedgerStore) (tenantId : Text) (column : ContextColumn) (name : String)
    (value : Value) (eventTypes : List EventType) : Option (List LedgerEvent) :=
  let rows := (s.contextRows tenantId column eventTypes).insertionSort fun a b => a.receivedAt ≤ b.receivedAt
  match rows.filterM (contextMatches column name value) with
  | some found => found.mapM toLedgerEvent
  | none => none

def orphan (message : Text) : StoreError := .ledger ⟨.orphanEvent, message⟩

/-- A causal predecessor of each of the types must exist for the field, when the field is set. -/
def requirePriors (s : LedgerStore) (tenantId : Text) (ctx : Option JsObject) (column : ContextColumn) (name : String)
    (priors : List EventType) (message : Text) : Except StoreError Unit :=
  if (field ctx name).truthy then
    match priors.mapM fun prior => s.findByContextField tenantId column name (field ctx name) [prior] with
    | none => .error .syntaxError
    | some found => if found.any List.isEmpty then .error (orphan message) else .ok ()
  else .ok ()

/-- Cross-event invariants: an event that claims a predecessor must have one. -/
def assertInvariants (s : LedgerStore) (input : LedgerEventInput) : Except StoreError Unit :=
  match input.eventType with
  | .capabilityRedeemed =>
    requirePriors s input.tenantId input.authorityContext .authority "capability_id" [.capabilityIssued]
      "CAPABILITY_REDEEMED has no prior CAPABILITY_ISSUED for this capability_id"
  | .executionSucceeded | .executionFailed | .executionTerminated | .executionIndeterminate =>
    requirePriors s input.tenantId input.executionContext .execution "execution_id" [.executionStarted]
      (input.eventType.name ++ Text.ofAscii " has no prior EXECUTION_STARTED for this execution_id")
  | .atomAccepted =>
    requirePriors s input.tenantId input.specContext .spec "atom_id" [.atomVerificationAccepted, .atomHumanDecision]
      "ATOM_ACCEPTED requires a prior ATOM_VERIFICATION_ACCEPTED and ATOM_HUMAN_DECISION for this atom_id"
  | .agentRevoked =>
    requirePriors s input.tenantId input.authorityContext .authority "agent_id" [.agentRegistered]
      "AGENT_REVOKED references an unknown agent_id"
  | _ => .ok ()

/-- `Ledger.append`. -/
def append (sha256 : Text → Text) (now : Text) (s : LedgerStore) (p : LedgerPrincipal) (raw : JsValue) :
    Except StoreError (LedgerEvent × LedgerStore) :=
  match validateEventInput raw with
  | .error e => .error (.ledger e)
  | .ok input =>
    match assertCanWrite p input with
    | .error e => .error (.ledger e)
    | .ok () =>
      match assertInvariants s input with
      | .error e => .error e
      | .ok () => s.append sha256 now input

/-- One call of `Ledger.append`, at the time its clock shows. -/
structure AppendCall where
  principal : LedgerPrincipal
  raw : JsValue
  now : Text

/-- The store after a call: unchanged when the call throws. -/
def AppendCall.run (sha256 : Text → Text) (s : LedgerStore) (c : AppendCall) : LedgerStore :=
  match append sha256 c.now s c.principal c.raw with
  | .ok (_, s') => s'
  | .error _ => s

/-- The store after a sequence of calls on an empty store. -/
def runAppends (sha256 : Text → Text) (calls : List AppendCall) : LedgerStore :=
  calls.foldl (AppendCall.run sha256) .empty

end Tna.Ledger
