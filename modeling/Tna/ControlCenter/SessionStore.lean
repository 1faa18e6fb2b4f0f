import Tna.Auditor.Schema
import Tna.Lib.Rows
import Tna.Lib.Table
import Tna.Lib.Transition

/-!
# The session store of the control center

Users, sessions and single-use tokens, in one database. A call is synchronous and made of
statements; the process may stop between any two of them. What a user authenticated as is
held by the process until a session is created for it.
-/

namespace Tna.ControlCenter

open Tna.Js Tna.Lib Tna.Lib.Rows
open Tna.Auditor (toIsoString dateParse)

/-! ## Rows -/

inductive ControlCenterErrorCode where
  | invalidInput | conflict | notFound
deriving DecidableEq

/-- A refusal, or a statement that broke a constraint of its table. -/
inductive StoreError where
  | refused (code : ControlCenterErrorCode) (message : Text)
  | constraint
deriving DecidableEq

def clientRoles : List Text := ["client-viewer", "client-reviewer", "client-admin", "client-auditor"]

structure UserRow where
  userId : Text
  tenantId : Text
  username : Text
  passwordHash : Text
  role : Text
  createdAt : Text
  disabled : Bool
deriving DecidableEq

structure ControlCenterUser where
  userId : Text
  tenantId : Text
  username : Text
  role : Text
  createdAt : Text
  disabled : Bool
deriving DecidableEq

def rowToUser (row : UserRow) : ControlCenterUser :=
  ⟨row.userId, row.tenantId, row.username, row.role, row.createdAt, row.disabled⟩

/-- A session is answered as its row. -/
structure SessionRow where
  sessionId : Text
  userId : Text
  tenantId : Text
  role : Text
  csrfToken : Text
  createdAt : Text
  expiresAt : Text
deriving DecidableEq

inductive TokenKind where
  | signup | passwordReset
deriving DecidableEq

structure TokenRow where
  token : Text
  kind : TokenKind
  tenantId : Text
  username : Text
  role : Option Text
  createdAt : Text
  expiresAt : Text
  usedAt : Option Text
deriving DecidableEq

/-! ## Passwords -/

/-- `hashPassword`, where `scrypt` is given the password and the salt, and hex texts are compared as they are written. -/
def hashPassword (scrypt : Text → Text → Text) (password salt : Text) : Text := salt ++ ":" ++ scrypt password salt

def verifyPassword (scrypt : Text → Text → Text) (password stored : Text) : Bool :=
  let saltHex := stored.takeWhile (· != unit ':')
  let hashHex := ((stored.dropWhile (· != unit ':')).drop 1).takeWhile (· != unit ':')
  !saltHex.isEmpty && !hashHex.isEmpty && decide (scrypt password saltHex = hashHex)

/-! ## Calls -/

def sessionTtlMs : Int := 8 * 3600000

def signupTokenTtlMs : Int := 7 * 24 * 3600000

def resetTokenTtlMs : Int := 3600000

/-- The tables, in the order of their rows. -/
structure SessionStore where
  users : List UserRow
  sessions : List SessionRow
  tokens : List TokenRow
deriving DecidableEq

/-- What a call answers, and the store after each of its statements that wrote. -/
structure Written (α : Type) where
  result : Except StoreError α
  stores : List SessionStore

/-- The store that a call leaves when the process stops after so many writes, if it does. -/
def Written.left {α : Type} (c : Written α) (store : SessionStore) : Option Nat → SessionStore
  | none => c.stores.getLastD store
  | some n => (c.stores.take n).getLastD store

/-- `Date.parse(expiresAt) <= clock`. -/
def isExpired (expiresAt : Text) (clock : Int) : Bool := (dateParse expiresAt).any (· ≤ clock)

namespace SessionStore

variable (scrypt : Text → Text → Text) (store : SessionStore)

def getUserById (userId : Text) : Except StoreError ControlCenterUser :=
  match row UserRow.userId store.users userId with
  | none => .error (.refused .notFound ("No user " ++ userId))
  | some user => .ok (rowToUser user)

def takenError (username : Text) : StoreError := .refused .conflict ("username " ++ username ++ " is already taken")

def roleError : StoreError := .refused .invalidInput ("role must be one of: " ++ List.intercalate ", " clientRoles)

def passwordError : StoreError := .refused .invalidInput "password must be at least 12 characters"

/-- `createUser`, with the identifier, the salt and the reading of the clock that it draws. -/
def createUser (tenantId username password role userId salt : Text) (now : Int) : Written ControlCenterUser :=
  if role ∉ clientRoles then ⟨.error roleError, []⟩
  else if password.length < 12 then ⟨.error passwordError, []⟩
  else if store.users.any (fun u => decide (u.userId = userId ∨ u.username = username)) then
    ⟨.error (takenError username), []⟩
  else
    let inserted := { store with
      users := store.users ++
        [⟨userId, tenantId, username, hashPassword scrypt password salt, role, toIsoString now, false⟩] }
    ⟨inserted.getUserById userId, [inserted]⟩

def setDisabled (userId : Text) (disabled : Bool) : Written Unit :=
  if (row UserRow.userId store.users userId).isNone then ⟨.error (.refused .notFound ("No user " ++ userId)), []⟩
  else ⟨.ok (), [{ store with
    users := update (fun u => decide (u.userId = userId)) (fun u => { u with disabled }) store.users }]⟩

def findUserByUsernameInTenant (tenantId username : Text) : Option UserRow :=
  store.users.find? fun u => decide (u.tenantId = tenantId ∧ u.username = username)

/-- The insertion of a token. -/
def insertToken (token : TokenRow) : Written (Text × Text) :=
  if store.tokens.any (fun t => decide (t.token = token.token)) then ⟨.error .constraint, []⟩
  else ⟨.ok (token.token, token.expiresAt), [{ store with tokens := store.tokens ++ [token] }]⟩

def createSignupInvite (tenantId username role token : Text) (clock now : Int) : Written (Text × Text) :=
  if role ∉ clientRoles then ⟨.error roleError, []⟩
  else if store.users.any (fun u => decide (u.username = username)) then ⟨.error (takenError username), []⟩
  else
    store.insertToken
      ⟨token, .signup, tenantId, username, some role, toIsoString now, toIsoString (clock + signupTokenTtlMs), none⟩

def createPasswordResetToken (tenantId username token : Text) (clock now : Int) : Written (Text × Text) :=
  if (store.findUserByUsernameInTenant tenantId username).isNone then
    ⟨.error (.refused .notFound ("No user " ++ username ++ " in this tenant")), []⟩
  else
    store.insertToken
      ⟨token, .passwordReset, tenantId, username, none, toIsoString now, toIsoString (clock + resetTokenTtlMs), none⟩

/-- `consumeToken`: its row as it was read, and the store with the token used. -/
def consumeToken (token : Text) (kind : TokenKind) (clock now : Int) : Except StoreError (TokenRow × SessionStore) :=
  match row TokenRow.token store.tokens token with
  | none => .error (.refused .invalidInput "This link is invalid.")
  | some found =>
    if found.kind ≠ kind then .error (.refused .invalidInput "This link is invalid.")
    else if found.usedAt.isSome then .error (.refused .invalidInput "This link has already been used.")
    else if isExpired found.expiresAt clock then .error (.refused .invalidInput "This link has expired.")
    else .ok (found, { store with
      tokens := update (fun t => decide (t.token = token ∧ t.usedAt = none)) (fun t => { t with usedAt := some (toIsoString now) })
        store.tokens })

def redeemSignupInvite (token password userId salt : Text) (clock used now : Int) : Written ControlCenterUser :=
  match store.consumeToken token .signup clock used with
  | .error e => ⟨.error e, []⟩
  | .ok (found, consumed) =>
    let created := consumed.createUser scrypt found.tenantId found.username password (found.role.getD []) userId salt now
    ⟨created.result, consumed :: created.stores⟩

def redeemPasswordReset (token newPassword salt : Text) (clock used : Int) : Written Unit :=
  match store.consumeToken token .passwordReset clock used with
  | .error e => ⟨.error e, []⟩
  | .ok (found, consumed) =>
    if newPassword.length < 12 then ⟨.error passwordError, [consumed]⟩
    else
      match consumed.findUserByUsernameInTenant found.tenantId found.username with
      | none => ⟨.error (.refused .notFound "This account no longer exists."), [consumed]⟩
      | some user =>
        let updated := { consumed with
          users := update (fun u => decide (u.userId = user.userId))
            (fun u => { u with passwordHash := hashPassword scrypt newPassword salt }) consumed.users }
        let deleted := { updated with sessions := updated.sessions.filter fun s => decide (s.userId ≠ user.userId) }
        ⟨.ok (), [consumed, updated, deleted]⟩

def authenticate (username password : Text) : Option ControlCenterUser :=
  match store.users.find? fun u => decide (u.username = username) with
  | none => none
  | some user =>
    if user.disabled then none
    else if verifyPassword scrypt password user.passwordHash then some (rowToUser user)
    else none

def destroySession (sessionId : Text) : SessionStore :=
  { store with sessions := store.sessions.filter fun s => decide (s.sessionId ≠ sessionId) }

/-- `getSession`, which deletes the session when it has expired. -/
def getSession (sessionId : Text) (clock : Int) : Option SessionRow × SessionStore :=
  match row SessionRow.sessionId store.sessions sessionId with
  | none => (none, store)
  | some session => if isExpired session.expiresAt clock then (none, store.destroySession sessionId) else (some session, store)

/-- `createSession`, with the two texts and the three readings of the clock that it draws. -/
def createSession (user : ControlCenterUser) (sessionId csrfToken : Text) (created clock got : Int) :
    Except StoreError (Option SessionRow) × SessionStore :=
  if store.sessions.any (fun s => decide (s.sessionId = sessionId)) then (.error .constraint, store)
  else
    let inserted : SessionStore := { store with
      sessions := store.sessions ++ [⟨sessionId, user.userId, user.tenantId, user.role, csrfToken, toIsoString created,
        toIsoString (clock + sessionTtlMs)⟩] }
    let answer := inserted.getSession sessionId got
    (.ok answer.1, answer.2)

end SessionStore

/-! ## Runs -/

/-- The store, and the users that were authenticated and have no session yet. -/
structure Console where
  store : SessionStore
  pending : Table Nat ControlCenterUser

inductive ConsoleLabel where
  | createsUser (tenantId username password role userId salt : Text) (now : Int)
  | setsDisabled (userId : Text) (disabled : Bool)
  | invites (tenantId username role token : Text) (clock now : Int)
  | issuesReset (tenantId username token : Text) (clock now : Int)
  /-- A redemption, after so many writes of which the process stops, if it does. -/
  | redeemsSignup (token password userId salt : Text) (clock used now : Int) (stop : Option Nat)
  | redeemsReset (token newPassword salt : Text) (clock used : Int) (stop : Option Nat)
  | authenticates (i : Nat) (username password : Text)
  | createsSession (i : Nat) (sessionId csrfToken : Text) (created clock got : Int)
  | gets (sessionId : Text) (clock : Int)
  | destroys (sessionId : Text)
  /-- The process stops, and starts again on the same database. -/
  | stops

/-- What a call leaves; what a process that stops holds is lost. -/
def Console.leave {α : Type} (w : Console) (c : Written α) (stop : Option Nat) : Console where
  store := c.left w.store stop
  pending := if stop.isSome then ∅ else w.pending

def Console.next (scrypt : Text → Text → Text) (w : Console) : ConsoleLabel → Option Console
  | .createsUser tenantId username password role userId salt now =>
    some (w.leave (w.store.createUser scrypt tenantId username password role userId salt now) none)
  | .setsDisabled userId disabled => some (w.leave (w.store.setDisabled userId disabled) none)
  | .invites tenantId username role token clock now =>
    some (w.leave (w.store.createSignupInvite tenantId username role token clock now) none)
  | .issuesReset tenantId username token clock now =>
    some (w.leave (w.store.createPasswordResetToken tenantId username token clock now) none)
  | .redeemsSignup token password userId salt clock used now stop =>
    some (w.leave (w.store.redeemSignupInvite scrypt token password userId salt clock used now) stop)
  | .redeemsReset token newPassword salt clock used stop =>
    some (w.leave (w.store.redeemPasswordReset scrypt token newPassword salt clock used) stop)
  | .authenticates i username password =>
    if (w.pending.lookup i).isSome then none
    else
      match w.store.authenticate scrypt username password with
      | none => some w
      | some user => some { w with pending := w.pending.insert i user }
  | .createsSession i sessionId csrfToken created clock got =>
    (w.pending.lookup i).map fun user =>
      ⟨(w.store.createSession user sessionId csrfToken created clock got).2, w.pending.erase i⟩
  | .gets sessionId clock => some { w with store := (w.store.getSession sessionId clock).2 }
  | .destroys sessionId => some { w with store := w.store.destroySession sessionId }
  | .stops => some { w with pending := ∅ }

def Console.initial : Console := ⟨⟨[], [], []⟩, ∅⟩

abbrev ConsoleStep (scrypt : Text → Text → Text) (w : Console) (l : ConsoleLabel) (w' : Console) : Prop :=
  w.next scrypt l = some w'

end Tna.ControlCenter
