import Tna.ControlCenter.SessionStore

/-!
# Access through sessions

A session is answered only for a user that is enabled, while it lasts, and when it was
created after whatever ended the access of its user. Every request reads the sessions alone,
so this takes a condition on the steps that change a user.
-/

namespace Tna.ControlCenter

open Tna.Js Tna.Lib Tna.Lib.Rows

/-! ## What is claimed -/

/-- The user whose password a redemption changes, when it gets that far. -/
def SessionStore.resetUser (store : SessionStore) (token newPassword : Text) (clock used : Int) : Option UserRow :=
  match store.consumeToken token .passwordReset clock used with
  | .error _ => none
  | .ok (found, consumed) =>
    if newPassword.length < 12 then none else consumed.findUserByUsernameInTenant found.tenantId found.username

/-- The process does not stop before so many writes are done. -/
def written (stop : Option Nat) (n : Nat) : Bool := stop.all (n ≤ ·)

/-- The user's row says that it may authenticate. -/
def SessionStore.isEnabled (store : SessionStore) (userId : Text) : Bool :=
  (row UserRow.userId store.users userId).any fun u => !u.disabled

def SessionStore.hasSessions (store : SessionStore) (userId : Text) : Bool := store.sessions.any fun s => decide (s.userId = userId)

/-- A step that ends the access through a session: its user is disabled, or the user's password changes, or the session is
destroyed. -/
inductive Ends (v : Console) (session : SessionRow) : ConsoleLabel → Prop where
  | disabled : Ends v session (.setsDisabled session.userId true)
  | changed {token newPassword salt : Text} {clock used : Int} {stop : Option Nat} {u : UserRow}
      (hreset : v.store.resetUser token newPassword clock used = some u) (huser : u.userId = session.userId)
      (hstop : written stop 2 = true) : Ends v session (.redeemsReset token newPassword salt clock used stop)
  | destroyed : Ends v session (.destroys session.sessionId)

/-- The session came to be stored at a step of the run. -/
def Created (scrypt : Text → Text → Text) (session : SessionRow) : Console → List ConsoleLabel → Console → Prop :=
  Took (ConsoleStep scrypt) fun _ x _ y => session ∉ x.store.sessions ∧ session ∈ y.store.sessions

/-- What an answer of `getSession` is claimed to mean, at the end of a run. -/
structure Rightful (scrypt : Text → Text → Text) (labels : List ConsoleLabel) (w : Console) (sessionId : Text) (clock : Int)
    (session : SessionRow) : Prop where
  stored : session ∈ w.store.sessions ∧ session.sessionId = sessionId
  unexpired : isExpired session.expiresAt clock = false
  enabled : w.store.isEnabled session.userId = true
  created : ∀ before l after v v', labels = before ++ l :: after → Run (ConsoleStep scrypt) .initial before v →
    ConsoleStep scrypt v l v' → Run (ConsoleStep scrypt) v' after w → Ends v session l → Created scrypt session v' after w

/-- A user is disabled while it has no session, a session is created for a user that is enabled, and the process does not
stop between a change of a password and the deletion of the user's sessions, unless it has none. -/
def Orderly (w : Console) : ConsoleLabel → Prop
  | .setsDisabled userId disabled => disabled = true → w.store.hasSessions userId = false
  | .createsSession i _ _ _ _ _ => ((w.pending.lookup i).all fun user => w.store.isEnabled user.userId) = true
  | .redeemsReset token newPassword _ clock used stop =>
    stop = some 2 → ((w.store.resetUser token newPassword clock used).all fun u => !w.store.hasSessions u.userId) = true
  | _ => True

instance (w : Console) : ∀ l, Decidable (Orderly w l)
  | .setsDisabled userId disabled => inferInstanceAs (Decidable (disabled = true → w.store.hasSessions userId = false))
  | .createsSession i _ _ _ _ _ =>
    inferInstanceAs (Decidable (((w.pending.lookup i).all fun user => w.store.isEnabled user.userId) = true))
  | .redeemsReset token newPassword _ clock used stop =>
    inferInstanceAs (Decidable (stop = some 2 →
      ((w.store.resetUser token newPassword clock used).all fun u => !w.store.hasSessions u.userId) = true))
  | .createsUser .. | .invites .. | .issuesReset .. | .redeemsSignup .. | .authenticates .. | .gets .. | .destroys .. | .stops =>
    inferInstanceAs (Decidable True)

abbrev OrderlyStep (scrypt : Text → Text → Text) (w : Console) (l : ConsoleLabel) (w' : Console) : Prop :=
  ConsoleStep scrypt w l w' ∧ Orderly w l

/-! ## What each call writes -/

section
variable {scrypt : Text → Text → Text} {store : SessionStore} {w w' : Console}

variable {userId : Text} {clock : Int} {session : SessionRow} {l : ConsoleLabel}

theorem hasSessions_eq_false (h : store.hasSessions userId = false) : ∀ s ∈ store.sessions, s.userId ≠ userId := by
  intro s hs heq
  have hany : store.hasSessions userId = true := List.any_eq_true.2 ⟨s, hs, decide_eq_true heq⟩
  rw [h] at hany
  cases hany

theorem getSession_some {sessionId : Text} (h : (store.getSession sessionId clock).1 = some session) :
    session ∈ store.sessions ∧ session.sessionId = sessionId ∧ isExpired session.expiresAt clock = false := by
  unfold SessionStore.getSession at h
  split at h
  · cases h
  next found hfound =>
  split_ifs at h with hexpired
  cases h
  exact ⟨mem_of_row hfound, key_of_row hfound, Bool.not_eq_true _ ▸ hexpired⟩

/-- Nobody loses a row or is disabled, and no session comes to be. -/
structure Harmless (store store' : SessionStore) : Prop where
  enabled : ∀ userId, store.isEnabled userId = true → store'.isEnabled userId = true
  sessions : ∀ s ∈ store'.sessions, s ∈ store.sessions

theorem Harmless.refl (store : SessionStore) : Harmless store store := ⟨fun _ => id, fun _ => id⟩

theorem Harmless.trans {a b c : SessionStore} (h : Harmless a b) (h' : Harmless b c) : Harmless a c :=
  ⟨fun userId ha => h'.enabled userId (h.enabled userId ha), fun s hs => h.sessions s (h'.sessions s hs)⟩

/-- Every statement of a call is harmless. -/
def Written.Harmless {α : Type} (c : Written α) (store : SessionStore) : Prop := ∀ s ∈ c.stores, ControlCenter.Harmless store s

theorem Written.Harmless.left {α : Type} {c : Written α} (h : c.Harmless store) (stop : Option Nat) :
    ControlCenter.Harmless store (c.left store stop) := by
  have hlast : ∀ l : List SessionStore, (∀ s ∈ l, ControlCenter.Harmless store s) →
      ControlCenter.Harmless store (l.getLastD store) := by
    intro l hl
    rcases List.eq_nil_or_concat l with rfl | ⟨l, s, rfl⟩
    · exact .refl store
    · rw [List.concat_eq_append, List.getLastD_concat]
      exact hl s (by simp)
  cases stop with
  | none => exact hlast _ h
  | some n => exact hlast _ fun s hs => h s (List.mem_of_mem_take hs)

theorem isEnabled_append {new : UserRow} (h : store.isEnabled userId = true) :
    ({ store with users := store.users ++ [new] } : SessionStore).isEnabled userId = true := by
  obtain ⟨u, hu, henabled⟩ := (Option.any_eq_true ..).1 h
  refine (Option.any_eq_true _ _).2 ⟨u, ?_, henabled⟩
  rw [row_append, hu]
  rfl

/-- An update of users that leaves identifiers alone and disables nobody leaves the enabled enabled. -/
theorem isEnabled_update {selected : UserRow → Bool} {f : UserRow → UserRow} (hkey : ∀ u, (f u).userId = u.userId)
    (hdisabled : ∀ u, u.disabled = false → (f u).disabled = false) (h : store.isEnabled userId = true) :
    ({ store with users := update selected f store.users } : SessionStore).isEnabled userId = true := by
  obtain ⟨u, hu, henabled⟩ := (Option.any_eq_true ..).1 h
  refine (Option.any_eq_true _ _).2 ⟨if selected u then f u else u, ?_, ?_⟩
  · rw [row_update hkey, hu]
    rfl
  · rw [Bool.not_eq_true'] at henabled ⊢
    split
    · exact hdisabled u henabled
    · exact henabled

theorem createUser_harmless (tenantId username password role userId salt : Text) (now : Int) :
    (store.createUser scrypt tenantId username password role userId salt now).Harmless store := by
  unfold SessionStore.createUser
  split_ifs
  · exact List.forall_mem_nil _
  · exact List.forall_mem_nil _
  · exact List.forall_mem_singleton.2 ⟨fun _ => isEnabled_append, fun _ => id⟩
  · exact List.forall_mem_nil _

theorem insertToken_harmless (token : TokenRow) : (store.insertToken token).Harmless store := by
  unfold SessionStore.insertToken
  split_ifs
  · exact List.forall_mem_nil _
  · exact List.forall_mem_singleton.2 ⟨fun _ => id, fun _ => id⟩

theorem consumeToken_ok {token : Text} {kind : TokenKind} {now : Int} {found : TokenRow} {consumed : SessionStore}
    (h : store.consumeToken token kind clock now = .ok (found, consumed)) :
    consumed.users = store.users ∧ consumed.sessions = store.sessions := by
  unfold SessionStore.consumeToken at h
  split at h
  · cases h
  · split_ifs at h
    cases h
    exact ⟨rfl, rfl⟩

theorem harmless_of_eq {store' : SessionStore} (h : store'.users = store.users ∧ store'.sessions = store.sessions) :
    Harmless store store' := by
  refine ⟨fun userId henabled => ?_, fun s hs => ?_⟩
  · unfold SessionStore.isEnabled
    rw [h.1]
    exact henabled
  · rwa [h.2] at hs

theorem redeemSignupInvite_harmless (token password userId salt : Text) (clock used now : Int) :
    (store.redeemSignupInvite scrypt token password userId salt clock used now).Harmless store := by
  unfold SessionStore.redeemSignupInvite
  split
  · exact List.forall_mem_nil _
  · next found consumed hconsume =>
    have hconsumed := harmless_of_eq (consumeToken_ok hconsume)
    refine List.forall_mem_cons.2 ⟨hconsumed, fun s hs => hconsumed.trans ?_⟩
    exact createUser_harmless _ _ _ _ _ _ _ s hs

/-- **What a redemption writes**: the token is used, and then, for the user it changes, the password and the sessions. -/
theorem redeemPasswordReset_stores (token newPassword salt : Text) (clock used : Int) :
    (store.resetUser token newPassword clock used = none ∧
      (store.redeemPasswordReset scrypt token newPassword salt clock used).Harmless store) ∨
    ∃ u consumed updated deleted, store.resetUser token newPassword clock used = some u ∧
      (store.redeemPasswordReset scrypt token newPassword salt clock used).stores = [consumed, updated, deleted] ∧
      Harmless store consumed ∧ Harmless store updated ∧ updated.sessions = store.sessions ∧ Harmless updated deleted ∧
      ∀ s ∈ deleted.sessions, s.userId ≠ u.userId := by
  unfold SessionStore.resetUser SessionStore.redeemPasswordReset
  cases hconsume : store.consumeToken token .passwordReset clock used with
  | error e => exact .inl ⟨rfl, List.forall_mem_nil _⟩
  | ok pair =>
    obtain ⟨found, consumed⟩ := pair
    have hsame := consumeToken_ok hconsume
    have hconsumed := harmless_of_eq hsame
    simp only
    by_cases hlength : newPassword.length < 12
    · rw [if_pos hlength, if_pos hlength]
      exact .inl ⟨rfl, List.forall_mem_singleton.2 hconsumed⟩
    rw [if_neg hlength, if_neg hlength]
    cases hfind : consumed.findUserByUsernameInTenant found.tenantId found.username with
    | none => exact .inl ⟨rfl, List.forall_mem_singleton.2 hconsumed⟩
    | some u =>
      refine .inr ⟨u, _, _, _, rfl, rfl, hconsumed, hconsumed.trans ⟨fun _ => ?_, fun _ => id⟩, hsame.2, ⟨fun _ => id, ?_⟩, ?_⟩
      · exact isEnabled_update (fun _ => rfl) fun _ h => h
      · exact fun s hs => (List.mem_filter.1 hs).1
      · exact fun s hs => of_decide_eq_true (List.mem_filter.1 hs).2

theorem destroySession_harmless (sessionId : Text) : Harmless store (store.destroySession sessionId) :=
  ⟨fun _ => id, fun _ hs => (List.mem_filter.1 hs).1⟩

variable (store) in
theorem getSession_harmless (sessionId : Text) (clock : Int) : Harmless store (store.getSession sessionId clock).2 := by
  unfold SessionStore.getSession
  split
  · exact .refl store
  · split_ifs
    · exact destroySession_harmless sessionId
    · exact .refl store

variable (store) in
/-- A session that is created is of the user it is created for. -/
theorem createSession_cases (user : ControlCenterUser) (sessionId csrfToken : Text) (created clock got : Int) :
    (∀ userId, store.isEnabled userId = true →
      (store.createSession user sessionId csrfToken created clock got).2.isEnabled userId = true) ∧
    ∀ s ∈ (store.createSession user sessionId csrfToken created clock got).2.sessions, s ∈ store.sessions ∨ s.userId = user.userId := by
  unfold SessionStore.createSession
  split_ifs
  · exact ⟨fun _ => id, fun _ => .inl⟩
  · have hget := getSession_harmless { store with sessions := store.sessions ++ [⟨sessionId, user.userId, user.tenantId,
      user.role, csrfToken, Auditor.toIsoString created, Auditor.toIsoString (clock + sessionTtlMs)⟩] } sessionId got
    refine ⟨fun userId h => hget.enabled userId h, fun s hs => ?_⟩
    rcases List.mem_append.1 (hget.sessions s hs) with hs | hs
    · exact .inl hs
    · rw [List.mem_singleton.1 hs]
      exact .inr rfl

/-! ## Steps -/

/-- Every session is of a user that is enabled. -/
def Enabled (w : Console) : Prop := ∀ s ∈ w.store.sessions, w.store.isEnabled s.userId = true

theorem Enabled.harmless (henabled : Enabled w) (h : Harmless w.store w'.store) : Enabled w' :=
  fun s hs => h.enabled _ (henabled s (h.sessions s hs))

theorem setDisabled_left (userId : Text) (disabled : Bool) :
    ((w.store.setDisabled userId disabled).left w.store none).sessions = w.store.sessions ∧
      ∀ other, (disabled = true → other ≠ userId) → w.store.isEnabled other = true →
        ((w.store.setDisabled userId disabled).left w.store none).isEnabled other = true := by
  unfold SessionStore.setDisabled
  split_ifs
  · exact ⟨rfl, fun _ _ => id⟩
  refine ⟨rfl, fun other hother h => ?_⟩
  obtain ⟨u, hu, henabled⟩ := (Option.any_eq_true ..).1 h
  have hrow : row UserRow.userId (update (fun u => decide (u.userId = userId)) (fun u => { u with disabled }) w.store.users) other =
      some (if u.userId = userId then { u with disabled } else u) := by
    rw [row_update (f := fun u : UserRow => { u with disabled := disabled }) (fun _ => rfl), hu]
    simp only [Option.map_some, decide_eq_true_eq]
  refine (Option.any_eq_true _ _).2 ⟨_, hrow, ?_⟩
  split
  · next huser =>
    cases disabled with
    | false => rfl
    | true => exact absurd (huser.symm.trans (key_of_row hu)).symm (hother rfl)
  · exact henabled

theorem enabled_step (h : OrderlyStep scrypt w l w') (henabled : Enabled w) : Enabled w' := by
  obtain ⟨h, horderly⟩ := h
  cases l with
  | createsUser tenantId username password role userId salt now =>
    cases h
    exact henabled.harmless ((createUser_harmless _ _ _ _ _ _ _).left none)
  | setsDisabled userId disabled =>
    cases h
    obtain ⟨hsessions, hleft⟩ := setDisabled_left (w := w) userId disabled
    intro s hs
    have hs' : s ∈ w.store.sessions := by
      rw [← hsessions]
      exact hs
    exact hleft s.userId (fun hdisabled => hasSessions_eq_false (horderly hdisabled) s hs') (henabled s hs')
  | invites tenantId username role token clock now =>
    cases h
    refine henabled.harmless (Written.Harmless.left ?_ none)
    unfold SessionStore.createSignupInvite
    split_ifs
    · exact List.forall_mem_nil _
    · exact insertToken_harmless _
    · exact List.forall_mem_nil _
  | issuesReset tenantId username token clock now =>
    cases h
    refine henabled.harmless (Written.Harmless.left ?_ none)
    unfold SessionStore.createPasswordResetToken
    split_ifs
    · exact List.forall_mem_nil _
    · exact insertToken_harmless _
  | redeemsSignup token password userId salt clock used now stop =>
    cases h
    exact henabled.harmless ((redeemSignupInvite_harmless _ _ _ _ _ _ _).left stop)
  | redeemsReset token newPassword salt clock used stop =>
    cases h
    refine henabled.harmless (Written.Harmless.left ?_ stop)
    rcases @redeemPasswordReset_stores scrypt w.store token newPassword salt clock used with
      ⟨-, hharmless⟩ | ⟨u, consumed, updated, deleted, -, hstores, hconsumed, hupdated, -, hdeleted, -⟩
    · exact hharmless
    · unfold Written.Harmless
      rw [hstores]
      simp only [List.forall_mem_cons]
      exact ⟨hconsumed, hupdated, hupdated.trans hdeleted, List.forall_mem_nil _⟩
  | authenticates i username password =>
    have hstore : w'.store = w.store := by
      unfold ConsoleStep Console.next at h
      simp only at h
      split_ifs at h
      split at h <;> cases h <;> rfl
    exact henabled.harmless (hstore ▸ .refl _)
  | createsSession i sessionId csrfToken created clock got =>
    obtain ⟨user, hpending, rfl⟩ := Option.map_eq_some_iff.1 h
    obtain ⟨hkeeps, hcases⟩ := createSession_cases w.store user sessionId csrfToken created clock got
    intro s hs
    rcases hcases s hs with hs | huser
    · exact hkeeps s.userId (henabled s hs)
    · rw [huser]
      have hall : ((w.pending.lookup i).all fun user => w.store.isEnabled user.userId) = true := horderly
      rw [hpending] at hall
      exact hkeeps user.userId hall
  | gets sessionId clock =>
    cases h
    exact henabled.harmless (getSession_harmless _ sessionId clock)
  | destroys sessionId =>
    cases h
    exact henabled.harmless (destroySession_harmless sessionId)
  | stops =>
    cases h
    exact henabled.harmless (.refl _)

/-- **After a step that ends the access through a session the session is gone.** -/
theorem gone_of_ends (h : OrderlyStep scrypt w l w') (hends : Ends w session l) : session ∉ w'.store.sessions := by
  obtain ⟨h, horderly⟩ := h
  cases hends with
  | disabled =>
    cases h
    intro hs
    have hs' : session ∈ w.store.sessions := (setDisabled_left (w := w) session.userId true).1 ▸ hs
    exact hasSessions_eq_false (horderly rfl) session hs' rfl
  | @changed token newPassword salt clock used stop u hreset huser hstop =>
    cases h
    rcases @redeemPasswordReset_stores scrypt w.store token newPassword salt clock used with
      ⟨hnone, -⟩ | ⟨u', consumed, updated, deleted, hsome, hstores, -, -, hsame, -, hgone⟩
    · rw [hnone] at hreset
      cases hreset
    rw [hreset] at hsome
    cases hsome
    have hdeleted : session ∉ deleted.sessions := fun hs => hgone session hs huser.symm
    simp only [Console.leave, Written.left, hstores]
    rcases stop with - | (- | - | - | n)
    · exact hdeleted
    · cases hstop
    · cases hstop
    · -- the process stops before the deletion
      have hall : ((w.store.resetUser token newPassword clock used).all fun u => !w.store.hasSessions u.userId) = true := horderly rfl
      rw [hreset, Option.all_some, Bool.not_eq_true'] at hall
      exact fun hs => hasSessions_eq_false hall session (hsame ▸ hs) huser.symm
    · simpa using hdeleted
  | destroyed =>
    cases h
    exact fun hs => of_decide_eq_true (List.mem_filter.1 hs).2 rfl

end

/-- **Sessions end with the access of their user**: in every run whose steps meet the condition, what `getSession` answers is
a session that lasts, of an enabled user, created after whatever ended that user's access. -/
theorem rightful_of_run (scrypt : Text → Text → Text) (labels : List ConsoleLabel) (w : Console)
    (hrun : Run (OrderlyStep scrypt) .initial labels w) (sessionId : Text) (clock : Int) (session : SessionRow)
    (h : (w.store.getSession sessionId clock).1 = some session) : Rightful scrypt labels w sessionId clock session := by
  obtain ⟨hstored, hid, hunexpired⟩ := getSession_some h
  have henabled : Enabled w := hrun.invariant (I := Enabled) (fun _ _ _ => enabled_step) (List.forall_mem_nil _)
  have hplain : ∀ {s as t}, Run (OrderlyStep scrypt) s as t → Run (ConsoleStep scrypt) s as t :=
    fun hrun => hrun.mono fun _ _ _ hstep => hstep.1
  refine ⟨⟨hstored, hid⟩, hunexpired, henabled session hstored, ?_⟩
  rintro before l after v v' rfl hbefore hstep hafter hends
  obtain ⟨u, u', hbefore', hstep', hafter'⟩ := hrun.split
  obtain rfl := hbefore.unique (hplain hbefore')
  obtain rfl : v' = u' := Option.mem_unique hstep hstep'.1
  exact hafter.took_change (I := fun x => session ∈ x.store.sessions) (gone_of_ends hstep' hends) hstored

/-! ## A reset, and a user that is disabled -/

/-- A password is told by its hash. -/
def plainScrypt (password salt : Text) : Text := password ++ salt

def loggedInOnce : List ConsoleLabel :=
  [.createsUser "ten_a" "amy" "correct horse" "client-admin" "ccu_1" "00" 0, .authenticates 0 "amy" "correct horse",
    .createsSession 0 "s1" "c1" 1 1 1]

def resetOnce : List ConsoleLabel :=
  loggedInOnce ++ [.issuesReset "ten_a" "amy" "r1" 2 2, .redeemsReset "r1" "battery staple" "01" 3 3 none,
    .authenticates 0 "amy" "battery staple", .createsSession 0 "s2" "c2" 4 4 4]

theorem rightful_of_run_resetOnce : ∃ w session, (w.store.getSession "s2" 5).1 = some session ∧
    Rightful plainScrypt resetOnce w "s2" 5 session := by
  have hreplay : (replay (fun w l => if Orderly w l then w.next plainScrypt l else none) .initial resetOnce).any
      (fun w => (w.store.getSession "s2" 5).1.isSome) = true := by decide +kernel
  obtain ⟨w, hrun, htest⟩ := run_of_guarded_test hreplay
  obtain ⟨session, hsession⟩ := Option.isSome_iff_exists.1 htest
  exact ⟨w, session, hsession, rightful_of_run plainScrypt resetOnce w hrun "s2" 5 session hsession⟩

/-- The session of a user that is disabled is answered all the same. -/
theorem not_rightful_of_run : ¬ ∀ (scrypt : Text → Text → Text) (labels : List ConsoleLabel) (w : Console),
    Run (ConsoleStep scrypt) .initial labels w → ∀ (sessionId : Text) (clock : Int) (session : SessionRow),
      (w.store.getSession sessionId clock).1 = some session → Rightful scrypt labels w sessionId clock session := by
  intro h
  have hreplay : (replay (Console.next plainScrypt) .initial (loggedInOnce ++ [.setsDisabled "ccu_1" true])).any
      (fun w => (w.store.getSession "s1" 2).1.any fun s => !w.store.isEnabled s.userId) = true := by decide +kernel
  obtain ⟨w, hrun, htest⟩ := run_of_test hreplay
  obtain ⟨session, hsession, hdisabled⟩ := (Option.any_eq_true ..).1 htest
  rw [(h plainScrypt _ w hrun "s1" 2 session hsession).enabled] at hdisabled
  cases hdisabled

end Tna.ControlCenter
