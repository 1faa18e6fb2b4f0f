import Tna.ControlCenter.Access

/-!
# Redemptions of a token

A signup invite and a password reset are redeemed by statements: the token is read and
checked, marked used, and then acted on. A call that throws leaves users and sessions as they
were; what it leaves of the token depends on how far it got. Of redemptions that take turns
at their statements, at most one gets past the marking of a token.
-/

namespace Tna.ControlCenter

open Tna.Js Tna.Lib Tna.Lib.Rows
open Tna.Auditor (toIsoString)

/-! ## The token's statements -/

namespace SessionStore

variable (scrypt : Text → Text → Text) (store : SessionStore)

def usedError : StoreError := .refused .invalidInput "This link has already been used."

/-- The `SELECT` of `consumeToken` and the checks on its row. -/
def selectToken (token : Text) (kind : TokenKind) (clock : Int) : Except StoreError TokenRow :=
  match row TokenRow.token store.tokens token with
  | none => .error (.refused .invalidInput "This link is invalid.")
  | some found =>
    if found.kind ≠ kind then .error (.refused .invalidInput "This link is invalid.")
    else if found.usedAt.isSome then .error usedError
    else if isExpired found.expiresAt clock then .error (.refused .invalidInput "This link has expired.")
    else .ok found

/-- The row that the `UPDATE` of `consumeToken` marks. -/
def isOpen (token : Text) (t : TokenRow) : Bool := decide (t.token = token ∧ t.usedAt = none)

/-- The store after that `UPDATE`. -/
def useToken (token : Text) (now : Int) : SessionStore :=
  { store with tokens := update (isOpen token) (fun t => { t with usedAt := some (toIsoString now) }) store.tokens }

variable {token : Text}

/-- Every row of the token is used, and there is one. -/
def Spent (token : Text) : Prop :=
  (∃ t ∈ store.tokens, t.token = token) ∧ ∀ t ∈ store.tokens, t.token = token → t.usedAt.isSome = true

/-- Marking a token leaves the spent ones spent. -/
theorem Spent.useToken {store : SessionStore} (h : store.Spent token) (other : Text) (now : Int) :
    (store.useToken other now).Spent token := by
  constructor
  · obtain ⟨t, ht, htoken⟩ := h.1
    refine ⟨_, List.mem_map_of_mem ht, ?_⟩
    split
    · exact htoken
    · exact htoken
  · intro t ht htoken
    obtain ⟨t, hmem, rfl⟩ := List.mem_map.1 ht
    by_cases hopen : isOpen other t = true
    · rw [if_pos hopen]
      rfl
    · rw [if_neg hopen] at htoken ⊢
      exact h.2 t hmem htoken

/-- The tokens are as they were, or there is one of a new text. -/
def KeepsTokens (store store' : SessionStore) : Prop :=
  store'.tokens = store.tokens ∨ ∃ new, store'.tokens = store.tokens ++ [new] ∧ ∀ t ∈ store.tokens, t.token ≠ new.token

theorem Spent.kept {store store' : SessionStore} (h : store.Spent token) (hkept : store.KeepsTokens store') :
    store'.Spent token := by
  obtain ⟨t, ht, htoken⟩ := h.1
  rcases hkept with heq | ⟨new, heq, hnew⟩
  · rwa [Spent, heq]
  · rw [Spent, heq]
    refine ⟨⟨t, List.mem_append_left _ ht, htoken⟩, fun t' ht' htoken' => ?_⟩
    rcases List.mem_append.1 ht' with ht' | ht'
    · exact h.2 t' ht' htoken'
    · rw [List.mem_singleton] at ht'
      subst ht'
      exact absurd (htoken.trans htoken'.symm) (hnew t ht)

end SessionStore

/-! ## Statement by statement -/

/-- What a statement draws: the clock, an identifier and a salt. -/
structure Draws where
  clock : Int
  now : Int
  userId : Text
  salt : Text

/-- How far a redemption has got. -/
inductive RedemptionStage where
  | begun
  | selected (found : TokenRow)
  | consumed (found : TokenRow)
  | created (userId : Text)
  | found (user : UserRow)
  | changed (user : UserRow)
  | completed
  | refused (e : StoreError)

structure Redemption where
  kind : TokenKind
  token : Text
  password : Text
  stage : RedemptionStage

namespace Redemption

/-- The next statement of a redemption, with the store it leaves. -/
def next (scrypt : Text → Text → Text) (r : Redemption) (store : SessionStore) (d : Draws) : RedemptionStage × SessionStore :=
  match r.stage with
  | .begun =>
    match store.selectToken r.token r.kind d.clock with
    | .error e => (.refused e, store)
    | .ok found => (.selected found, store)
  | .selected found =>
    (if store.tokens.countP (SessionStore.isOpen r.token) = 1 then .consumed found else .refused SessionStore.usedError,
      store.useToken r.token d.now)
  | .consumed found =>
    match r.kind with
    | .signup =>
      let call := store.createUser scrypt found.tenantId found.username r.password (found.role.getD []) d.userId d.salt d.now
      match call.result with
      | .error e => (.refused e, call.left store none)
      | .ok _ => (.created d.userId, call.left store none)
    | .passwordReset =>
      if r.password.length < 12 then (.refused SessionStore.passwordError, store)
      else
        match store.findUserByUsernameInTenant found.tenantId found.username with
        | none => (.refused (.refused .notFound "This account no longer exists."), store)
        | some user => (.found user, store)
  | .created userId =>
    match store.getUserById userId with
    | .error e => (.refused e, store)
    | .ok _ => (.completed, store)
  | .found user =>
    (.changed user, { store with
      users := update (fun u => decide (u.userId = user.userId))
        (fun u => { u with passwordHash := hashPassword scrypt r.password d.salt }) store.users })
  | .changed user =>
    (.completed, { store with sessions := store.sessions.filter fun s => decide (s.userId ≠ user.userId) })
  | .completed => (.completed, store)
  | .refused e => (.refused e, store)

/-- The redemption is past the marking of its token, and has not been refused. -/
def took (r : Redemption) : Bool :=
  match r.stage with
  | .begun | .selected _ | .refused _ => false
  | _ => true

end Redemption

/-- A store with the redemptions that go on at it, in the order they began. -/
structure Race where
  console : Console
  redemptions : List Redemption

inductive RaceLabel where
  | begins (kind : TokenKind) (token password : Text)
  /-- The next statement of a redemption, by its number. -/
  | goesOn (i : Nat) (d : Draws)
  /-- Another call of the store, whole. -/
  | calls (l : ConsoleLabel)

def ConsoleLabel.redeems : ConsoleLabel → Bool
  | .redeemsSignup .. => true
  | .redeemsReset .. => true
  | _ => false

def Race.next (scrypt : Text → Text → Text) (w : Race) : RaceLabel → Option Race
  | .begins kind token password => some { w with redemptions := w.redemptions ++ [⟨kind, token, password, .begun⟩] }
  | .goesOn i d =>
    w.redemptions[i]?.map fun r =>
      let after := r.next scrypt w.console.store d
      ⟨{ w.console with store := after.2 }, w.redemptions.set i { r with stage := after.1 }⟩
  | .calls l => if l.redeems then none else (w.console.next scrypt l).map fun console => { w with console }

abbrev RaceStep (scrypt : Text → Text → Text) (w : Race) (l : RaceLabel) (w' : Race) : Prop := w.next scrypt l = some w'

/-! ## At most once -/

section
variable {scrypt : Text → Text → Text} {store : SessionStore}

theorem createUser_left (tenantId username password role userId salt : Text) (now : Int) :
    ((store.createUser scrypt tenantId username password role userId salt now).left store none).tokens = store.tokens ∧
      ((store.createUser scrypt tenantId username password role userId salt now).left store none).sessions = store.sessions := by
  unfold SessionStore.createUser
  split_ifs
  · exact ⟨rfl, rfl⟩
  · exact ⟨rfl, rfl⟩
  · exact ⟨rfl, rfl⟩
  · exact ⟨rfl, rfl⟩

/-- **What a statement of a redemption does to the tokens**: it marks its own once it has read it, and nothing else. -/
theorem next_tokens (r : Redemption) (d : Draws) :
    (r.next scrypt store d).2.tokens = store.tokens ∨
      ∃ found, r.stage = .selected found ∧ (r.next scrypt store d).2 = store.useToken r.token d.now := by
  unfold Redemption.next
  cases hstage : r.stage with
  | begun =>
    refine .inl ?_
    dsimp only
    split
    · rfl
    · rfl
  | selected found => exact .inr ⟨found, rfl, rfl⟩
  | consumed found =>
    refine .inl ?_
    dsimp only
    split
    · split
      · exact (createUser_left _ _ _ _ _ _ _).1
      · exact (createUser_left _ _ _ _ _ _ _).1
    · split_ifs
      · rfl
      · split
        · rfl
        · rfl
  | created userId =>
    refine .inl ?_
    dsimp only
    split
    · rfl
    · rfl
  | found user => exact .inl rfl
  | changed user => exact .inl rfl
  | completed => exact .inl rfl
  | refused e => exact .inl rfl

variable {r : Redemption} {token : Text} {w : Race} {clock : Int} {found : TokenRow} {kind : TokenKind}

theorem SessionStore.Spent.next (h : store.Spent token) (r : Redemption) (d : Draws) :
    (r.next scrypt store d).2.Spent token := by
  rcases @next_tokens scrypt store r d with heq | ⟨found, -, heq⟩
  · exact h.kept (.inl heq)
  · rw [heq]
    exact h.useToken r.token d.now

/-- Of the redemptions of a token one at most is past it, and then the token is spent. -/
structure AtMostOnce (w : Race) : Prop where
  once : ∀ (i j : Nat) (r r' : Redemption), w.redemptions[i]? = some r → w.redemptions[j]? = some r' → r.token = r'.token →
    r.took = true → r'.took = true → i = j
  spent : ∀ r ∈ w.redemptions, r.took = true → w.console.store.Spent r.token

/-! ## A call as a whole -/

/-- What a redemption that throws leaves: the accounts as they were, and the token marked if it had passed its checks. -/
structure LeavesAccounts (store after : SessionStore) (token : Text) (used : Int) (passed : Bool) : Prop where
  users : after.users = store.users
  sessions : after.sessions = store.sessions
  tokens : after.tokens = if passed then (store.useToken token used).tokens else store.tokens

/-- What a redeemed invite answers and leaves. -/
def SignupSettles (scrypt : Text → Text → Text) (store : SessionStore) (token password userId salt : Text)
    (clock used now : Int) : Prop :=
  let call := store.redeemSignupInvite scrypt token password userId salt clock used now
  let after := call.left store none
  match call.result with
  | .ok user => ∃ found new, store.selectToken token .signup clock = .ok found ∧ user = rowToUser new ∧
      new = ⟨userId, found.tenantId, found.username, hashPassword scrypt password salt, found.role.getD [], toIsoString now, false⟩ ∧
      after.users = store.users ++ [new] ∧ after.sessions = store.sessions ∧ after.Spent token
  | .error _ => LeavesAccounts store after token used (store.selectToken token .signup clock).isOk

/-- What a redeemed reset answers and leaves. -/
def ResetSettles (scrypt : Text → Text → Text) (store : SessionStore) (token newPassword salt : Text) (clock used : Int) : Prop :=
  let call := store.redeemPasswordReset scrypt token newPassword salt clock used
  let after := call.left store none
  match call.result with
  | .ok _ => ∃ found user, store.selectToken token .passwordReset clock = .ok found ∧
      store.findUserByUsernameInTenant found.tenantId found.username = some user ∧
      after.users = update (fun u => decide (u.userId = user.userId))
        (fun u => { u with passwordHash := hashPassword scrypt newPassword salt }) store.users ∧
      after.sessions = store.sessions.filter (fun s => decide (s.userId ≠ user.userId)) ∧ after.Spent token
  | .error _ => LeavesAccounts store after token used (store.selectToken token .passwordReset clock).isOk

/-! ## A redemption on its own -/

/-- The statements of a redemption, when nothing else happens at the store. -/
def Redemption.alone (scrypt : Text → Text → Text) (r : Redemption) (store : SessionStore) :
    List Draws → RedemptionStage × SessionStore
  | [] => (r.stage, store)
  | d :: rest =>
    let after := r.next scrypt store d
    Redemption.alone scrypt { r with stage := after.1 } after.2 rest

/-- How a call ends. -/
def endOf {α : Type} : Except StoreError α → RedemptionStage
  | .ok _ => .completed
  | .error e => .refused e

end

/-! ## An invite -/

/-- A store with an invite. -/
def invitedStore : SessionStore :=
  ⟨[], [], [⟨"t1", .signup, "ten_a", "amy", some "client-viewer", "1970-01-01T00:00:00.000Z", "1970-01-08T00:00:00.000Z", none⟩]⟩

/-- Two redemptions of it that take turns. -/
def raced : List RaceLabel :=
  [.begins .signup "t1" "correct horse", .begins .signup "t1" "battery staple", .goesOn 0 ⟨1, 1, [], []⟩,
    .goesOn 1 ⟨1, 1, [], []⟩, .goesOn 0 ⟨1, 1, [], []⟩, .goesOn 1 ⟨1, 1, [], []⟩]

def sampleDraws : Draws := ⟨1, 1, "ccu_1", "00"⟩

end Tna.ControlCenter
