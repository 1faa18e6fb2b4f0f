import Mathlib.Logic.Function.Basic
import Tna.Platform.LedgerEvents
import Tna.Platform.Records

/-!
# Dispatchers of the outbox

Any number of dispatchers on one store and one Ledger. Each claims a record under a lease
and a fresh token, awaits its delivery, and marks what became of it; between any two of
these steps the others go on, leases run out, the store is called and restarted, and a
dispatcher may stop.
-/

namespace Tna.Platform

open Tna.Js Tna.Lib Tna.Ledger

/-! ## Backoff -/

/-- 1s, 2s, 4s and so on, to a minute at most. -/
def computeBackoffMs (attemptCount : Nat) : Nat := min (1000 * 2 ^ min (attemptCount - 1) 6) 60000

def isDeadLetter (attemptCount maxAttempts : Nat) : Bool := attemptCount ≥ maxAttempts

example : [0, 1, 2, 6, 7, 8].map computeBackoffMs = [1000, 1000, 2000, 32000, 60000, 60000] := by decide

/-! ## The system -/

/-- The options of a dispatcher, and the identity under which it writes to the Ledger. -/
structure OutboxDispatcher where
  maxAttempts : Nat
  ownerId : Text
  leaseMs : Nat
  writer : LedgerPrincipal

/-- Where `dispatchOnce` stands. -/
inductive DispatcherPc where
  /-- Before the next claim, or not running. -/
  | idle
  /-- Awaiting the delivery of a record. -/
  | delivering (record : OutboxRecord) (claimToken : Text)
  /-- The delivery has answered with an event id. -/
  | resolved (record : OutboxRecord) (claimToken eventId : Text)
  /-- In the `catch` of the delivery. -/
  | failed (record : OutboxRecord) (claimToken message : Text)

/-- The store, the Ledger, and the dispatchers. -/
structure Outreach (P : Type) where
  store : DurableStore
  ledger : LedgerStore
  pcs : P → DispatcherPc

def Outreach.initial (P : Type) : Outreach P := ⟨.empty, .empty, fun _ => .idle⟩

inductive DispatchLabel (P : Type) where
  /-- `claimNext`, with the token it draws. -/
  | claim (p : P) (c : CallContext) (token : Text)
  /-- The delivery is made and answers. The message is that of an error from elsewhere. -/
  | deliver (p : P) (now message : Text)
  /-- The delivery throws, whether or not it reached the Ledger. -/
  | lose (p : P) (message : Text)
  /-- What follows the delivery is marked. -/
  | mark (p : P) (c : CallContext) (message : Text)
  /-- The dispatcher stops. -/
  | stop (p : P)
  /-- A call of the store by anything but a dispatcher, such as a restart. -/
  | call (c : CallContext) (call : StoreCall)
  /-- An append to the Ledger by anyone, such as one of a delivery that was given up. -/
  | append (call : AppendCall)

/-- `error.message`, where the message of an error from elsewhere is given. -/
def PlatformError.message (elsewhere : Text) : PlatformError → Text
  | .platform _ message => message
  | _ => elsewhere

/-- `error.message` of an error of the Ledger. -/
def storeErrorMessage (elsewhere : Text) : StoreError → Text
  | .ledger e => e.message
  | _ => elsewhere

section
variable {P : Type} [DecidableEq P]

/-- A dispatcher goes on. -/
def Outreach.goto (w : Outreach P) (p : P) (pc : DispatcherPc) : Outreach P := { w with pcs := Function.update w.pcs p pc }

/-- A dispatcher has called the store, and goes on with the answer or with the error. -/
def Outreach.called {α : Type} (w : Outreach P) (p : P) (result : EStateM.Result PlatformError DurableStore α)
    (next : α → DispatcherPc) (caught : PlatformError → DispatcherPc) : Outreach P :=
  match result with
  | .ok a t => ({ w with store := t } : Outreach P).goto p (next a)
  | .error e t => ({ w with store := t } : Outreach P).goto p (caught e)

/-- What `dispatchOnce` does with a claim. -/
def afterClaim : Option OutboxRecord → DispatcherPc
  | some record =>
    match record.claimToken with
    | some token => .delivering record token
    | none => .idle
  | none => .idle

/-- `this.ledger.append(this.toLedgerEvent(record))`. -/
def deliver (sha256 : Text → Text) (d : OutboxDispatcher) (w : Outreach P) (p : P) (record : OutboxRecord)
    (token now message : Text) : Outreach P :=
  match toLedgerEvent w.store record with
  | .error e => w.goto p (.failed record token (e.message message))
  | .ok raw =>
    match append sha256 now w.ledger d.writer raw with
    | .ok (event, ledger) => ({ w with ledger := ledger } : Outreach P).goto p (.resolved record token event.eventId)
    | .error e => w.goto p (.failed record token (storeErrorMessage message e))

/-- What follows a delivery: the record is marked, or the `catch` is entered. -/
def mark (w : Outreach P) (p : P) (record : OutboxRecord) (token eventId message : Text) (c : CallContext) : Outreach P :=
  let expectedEventId := outboxLedgerEventId record.outboxId
  if eventId ≠ expectedEventId then
    w.goto p (.failed record token
      (Text.ofAscii "Outbox delivery must use deterministic ledger event id " ++ expectedEventId))
  else
    w.called p (Durable.markDelivered c record.outboxId record.tenantId token eventId w.store) (fun _ => .idle)
      fun e => .failed record token (e.message message)

/-- The `catch`: the record is given up, or tried again later. -/
def markFailed (d : OutboxDispatcher) (w : Outreach P) (p : P) (record : OutboxRecord) (token message : Text)
    (c : CallContext) : Outreach P :=
  if isDeadLetter record.attemptCount d.maxAttempts then
    w.called p (Durable.markDeadLetter c record.outboxId record.tenantId token message w.store) (fun _ => .idle) fun _ => .idle
  else
    w.called p (Durable.markRetry c record.outboxId record.tenantId token message
      (c.now + computeBackoffMs record.attemptCount) w.store) (fun _ => .idle) fun _ => .idle

/-- One step; `none` where the dispatcher does not stand there. -/
def dispatchStep (sha256 : Text → Text) (dispatchers : P → OutboxDispatcher) (w : Outreach P) :
    DispatchLabel P → Option (Outreach P)
  | .claim p c token =>
    match w.pcs p with
    | .idle =>
      some (w.called p (Durable.claimNext c (dispatchers p).ownerId token (dispatchers p).leaseMs w.store) afterClaim
        fun _ => .idle)
    | _ => none
  | .deliver p now message =>
    match w.pcs p with
    | .delivering record token => some (deliver sha256 (dispatchers p) w p record token now message)
    | _ => none
  | .lose p message =>
    match w.pcs p with
    | .delivering record token | .resolved record token _ => some (w.goto p (.failed record token message))
    | _ => none
  | .mark p c message =>
    match w.pcs p with
    | .resolved record token eventId => some (mark w p record token eventId message c)
    | .failed record token message' => some (markFailed (dispatchers p) w p record token message' c)
    | _ => none
  | .stop p => some (w.goto p .idle)
  | .call c call => if call.ofDispatcher then none else some { w with store := call.next sha256 c w.store }
  | .append call => some { w with ledger := call.run sha256 w.ledger }

/-- The steps, as a transition system. -/
def DispatchStep (sha256 : Text → Text) (dispatchers : P → OutboxDispatcher) (w : Outreach P) (label : DispatchLabel P)
    (w' : Outreach P) : Prop :=
  dispatchStep sha256 dispatchers w label = some w'

end

end Tna.Platform
