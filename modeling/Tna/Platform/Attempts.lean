import Mathlib.Data.Fintype.Basic
import Mathlib.Data.List.Count
import Tna.Platform.Dispatched

/-!
# How often a record is attempted

A claim is counted when it is made, and the count is compared with the limit only in the
`catch` of the dispatcher that made it. A dispatcher that stops before it gets there leaves
a claim behind that expires, and an expired claim is taken up again whatever its count is.
Where no claim expires at the limit, the limit holds.
-/

namespace Tna.Platform

open Tna.Js Tna.Lib Tna.Ledger

/-! ## What is counted -/

/-- The dispatcher awaits the delivery of a record. -/
def DispatcherPc.delivers (key : Text × Text) : DispatcherPc → Bool
  | .delivering record _ => record.key = key
  | _ => false

section
variable {P : Type} [DecidableEq P]

/-- The dispatcher that a step has claim a record. -/
def claimants (key : Text × Text) (_ : Outreach P) (label : DispatchLabel P) (w' : Outreach P) : List P :=
  match label with
  | .claim p _ _ => if (w'.pcs p).delivers key then [p] else []
  | _ => []

/-- The dispatcher that a step has deliver a record. -/
def deliverers (key : Text × Text) (w : Outreach P) (label : DispatchLabel P) (_ : Outreach P) : List P :=
  match label with
  | .deliver p _ _ => if (w.pcs p).delivers key then [p] else []
  | _ => []

/-- The claims of a record in a run, each by its dispatcher. -/
def claims (sha256 : Text → Text) (dispatchers : P → OutboxDispatcher) (key : Text × Text) (w : Outreach P)
    (labels : List (DispatchLabel P)) : List P :=
  observed (dispatchStep sha256 dispatchers) (claimants key) w labels

/-- The deliveries of a record in a run, each by its dispatcher. -/
def deliveries (sha256 : Text → Text) (dispatchers : P → OutboxDispatcher) (key : Text × Text) (w : Outreach P)
    (labels : List (DispatchLabel P)) : List P :=
  observed (dispatchStep sha256 dispatchers) (deliverers key) w labels

/-! ## The steps that keep to the limit -/

/-- The token a claim draws is none that a dispatcher holds. -/
def DispatchLabel.Fresh (w : Outreach P) : DispatchLabel P → Prop
  | .claim _ _ token => ∀ p, ((w.pcs p).held.all fun held => held.2 ≠ token) = true
  | _ => True

/-- No claim at the limit has expired where the step takes up expired claims: a claim takes up the one it comes to
first, a recovery all of them. -/
def DispatchLabel.Timely (limit : Nat) (w : Outreach P) : DispatchLabel P → Prop
  | .claim _ c _ =>
    ((w.store.outbox.find? (claimable c.now)).all fun r => r.status = .delivering → r.attemptCount < limit) = true
  | .call c made => made.isRecovery = true → ∀ r ∈ w.store.outbox, expired c.now r = true → r.attemptCount < limit
  | _ => True

instance decidableFresh [Fintype P] (w : Outreach P) : (label : DispatchLabel P) → Decidable (label.Fresh w)
  | .claim _ _ token => inferInstanceAs (Decidable (∀ p, ((w.pcs p).held.all fun held => held.2 ≠ token) = true))
  | .deliver .. | .lose .. | .mark .. | .stop _ | .call .. | .append _ => .isTrue trivial

instance decidableTimely (limit : Nat) (w : Outreach P) : (label : DispatchLabel P) → Decidable (label.Timely limit w)
  | .claim _ c _ => inferInstanceAs (Decidable
      (((w.store.outbox.find? (claimable c.now)).all fun r => r.status = .delivering → r.attemptCount < limit) = true))
  | .call c made => inferInstanceAs (Decidable
      (made.isRecovery = true → ∀ r ∈ w.store.outbox, expired c.now r = true → r.attemptCount < limit))
  | .deliver .. | .lose .. | .mark .. | .stop _ | .append _ => .isTrue trivial

/-- A step whose token is fresh and that keeps to the limit. -/
def TimelyStep (sha256 : Text → Text) (dispatchers : P → OutboxDispatcher) (limit : Nat) (w : Outreach P)
    (label : DispatchLabel P) (w' : Outreach P) : Prop :=
  DispatchStep sha256 dispatchers w label w' ∧ label.Fresh w ∧ label.Timely limit w

variable {sha256 : Text → Text} {dispatchers : P → OutboxDispatcher} {limit : Nat} {w w' : Outreach P} {label : DispatchLabel P}
  {key : Text × Text} {r : OutboxRecord}

variable {labels : List (DispatchLabel P)} {s t : DurableStore} {token ownerId : Text} {leaseMs now : Nat} {pc : DispatcherPc}
  {p : P}

/-! ## What becomes of a record in a step -/

/-- What a step does to a record that is there. -/
inductive RecordMove (dispatchers : P → OutboxDispatcher) (w : Outreach P) (label : DispatchLabel P) (w' : Outreach P)
    (r r' : OutboxRecord) : Prop where
  | kept (h : r' = r)
  | claimed (p : P) {c : CallContext} {ownerId token : Text} {leaseMs : Nat} (hlabel : label = .claim p c token)
    (hfirst : w.store.outbox.find? (claimable c.now) = some r) (h : r' = r.claimed c.now ownerId token leaseMs)
    (hpc : w'.pcs p = .delivering r' token)
  | settled (hsettled : r'.settled = true) (hcount : r'.attemptCount = r.attemptCount) (htoken : r'.claimToken = r.claimToken)
  | retried (p : P) {record : OutboxRecord} {token : Text} (hheld : (w.pcs p).held = some (record, token))
    (hkey : r.key = record.key) (hown : r.claimToken = some token)
    (hlimit : isDeadLetter record.attemptCount (dispatchers p).maxAttempts = false)
    (hcount : r'.attemptCount = r.attemptCount) (htoken : r'.claimToken = r.claimToken)
  | recovered {c : CallContext} {call : StoreCall} (hlabel : label = .call c call) (hrecovery : call.isRecovery = true)
    (hexpired : expired c.now r = true) (hcount : r'.attemptCount = r.attemptCount) (htoken : r'.claimToken = r.claimToken)

/-- A mark changes the record it is fenced to, or leaves the record as it is. -/
theorem record_fenced {tenantId outboxId : Text} {change : OutboxRecord → OutboxRecord}
    (ht : t = { s with outbox := Rows.update (Durable.fenced tenantId outboxId token) change s.outbox })
    (hkey : ∀ r, (change r).key = r.key) (hr : s.record key = some r) :
    t.record key = some r ∨ t.record key = some (change r) ∧ r.key = (tenantId, outboxId) ∧ r.claimToken = some token := by
  have hrecord := record_update (s := s) (t := t) (by rw [ht]) hkey key
  rw [hr, Option.map_some] at hrecord
  by_cases hfenced : Durable.fenced tenantId outboxId token r = true
  · right
    rw [if_pos hfenced] at hrecord
    rw [Durable.fenced, Bool.and_eq_true, Bool.and_eq_true, decide_eq_true_eq, decide_eq_true_eq, decide_eq_true_eq] at hfenced
    exact ⟨hrecord, hfenced.1.1, hfenced.2⟩
  · left
    rw [if_neg hfenced] at hrecord
    exact hrecord

/-- With distinct ids a claim is not lost: it claims the first record that can be claimed, or there is none. -/
theorem claimNext_distinct {c : CallContext} {claimed : Option OutboxRecord} (hdistinct : (s.outbox.map OutboxRecord.key).Nodup)
    (h : Durable.claimNext c ownerId token leaseMs s = .ok claimed t) :
    claimed = none ∧ t = s ∨
      ∃ row, s.outbox.find? (claimable c.now) = some row ∧ claimed = some (row.claimed c.now ownerId token leaseMs) ∧
        ∀ key r, s.record key = some r →
          t.record key = some (if r.key = row.key then row.claimed c.now ownerId token leaseMs else r) := by
  rcases Durable.claimNext_ok h with ⟨rfl, rfl | ⟨row, hrow, hlost, -⟩⟩ | ⟨row, hrow, rfl, rfl⟩
  · exact .inl ⟨rfl, rfl⟩
  · refine absurd (Rows.countP_eq_one hdistinct (List.mem_of_find?_eq_some hrow) (by simp) ?_) hlost
    intro r' hr'
    rw [Bool.and_eq_true, Bool.and_eq_true, decide_eq_true_eq] at hr'
    exact hr'.1.1
  · refine .inr ⟨row, hrow, rfl, ?_⟩
    intro key r hr
    have hrecord := record_update (s := s) (t := { s with
      outbox := Rows.update (fun r => r.key = row.key && r.status = row.status && r.claimToken = row.claimToken)
        (fun r => r.claimed c.now ownerId token leaseMs) s.outbox }) rfl (fun _ => rfl) key
    rw [hrecord, hr, Option.map_some]
    by_cases hkey : r.key = row.key
    · have hsame : r = row := by
        have hrow' := Rows.row_of_mem hdistinct (List.mem_of_find?_eq_some hrow)
        have hr' := Rows.row_of_mem hdistinct (Rows.mem_of_row hr)
        rw [hkey] at hr'
        exact Option.mem_unique hr' hrow'
      subst hsame
      simp
    · simp [hkey]

/-! ## What a step counts -/

theorem DispatcherPc.Falls.delivers {pc' : DispatcherPc} (h : pc.Falls pc') : pc'.delivers key = false := by
  cases pc' with
  | delivering => exact h.elim
  | idle | resolved | failed => rfl

theorem claimants_eq_nil_of_goto (hactor : label.actor = some p) (hpc : pc.delivers key = false) :
    claimants key w label (w'.goto p pc) = [] := by
  unfold claimants
  split
  · cases hactor
    rw [pcs_goto, if_pos rfl, hpc]
    rfl
  · rfl

/-- What the first record is changed to is the record that is changed to it. -/
theorem delivers_claimed {token' : Text} {row : OutboxRecord}
    (htoken : (row.claimed now ownerId token leaseMs).claimToken = some token') :
    (({ w with store := t } : Outreach P).goto p (afterClaim (some (row.claimed now ownerId token leaseMs)))).pcs p =
      .delivering (row.claimed now ownerId token leaseMs) token' := by
  rw [pcs_goto, if_pos rfl, afterClaim]
  simp only [htoken]

/-- **What a step does to a record**, and that it claims the record exactly when it counts a claim. -/
theorem record_of_step (hstep : DispatchStep sha256 dispatchers w label w')
    (hdistinct : (w.store.outbox.map OutboxRecord.key).Nodup) (hr : w.store.record key = some r) :
    ∃ r', w'.store.record key = some r' ∧ RecordMove dispatchers w label w' r r' ∧
      (claimants key w label w').length + r.attemptCount = r'.attemptCount := by
  have hkey : r.key = key := Rows.key_of_row hr
  cases move_of_step hstep with
  | «local» p hactor hfalls =>
    rw [claimants_eq_nil_of_goto hactor hfalls.delivers]
    exact ⟨r, hr, .kept rfl, Nat.zero_add _⟩
  | @claimed p c ownerId token leaseMs claimed t h =>
    rcases claimNext_distinct hdistinct h with ⟨rfl, rfl⟩ | ⟨row, hrow, rfl, hrecords⟩
    · rw [claimants_eq_nil_of_goto rfl rfl]
      exact ⟨r, hr, .kept rfl, Nat.zero_add _⟩
    · have hnow := hrecords key r hr
      have hpc : (({ w with store := t } : Outreach P).goto p (afterClaim (some (row.claimed c.now ownerId token leaseMs)))).pcs
          p = .delivering (row.claimed c.now ownerId token leaseMs) token := delivers_claimed rfl
      refine ⟨_, hnow, ?_⟩
      by_cases hsame : r.key = row.key
      · have heq : r = row := by
          have hrow' := Rows.row_of_mem hdistinct (List.mem_of_find?_eq_some hrow)
          rw [← hsame, hkey] at hrow'
          exact Option.mem_unique hr hrow'
        subst heq
        rw [if_pos rfl]
        refine ⟨.claimed p rfl hrow rfl hpc, ?_⟩
        have hdelivers : (DispatcherPc.delivering (r.claimed c.now ownerId token leaseMs) token).delivers key = true :=
          decide_eq_true hkey
        simp only [claimants, hpc, hdelivers, if_true, List.length_singleton]
        exact Nat.add_comm _ _
      · rw [if_neg hsame]
        refine ⟨.kept rfl, ?_⟩
        have hother : (DispatcherPc.delivering (row.claimed c.now ownerId token leaseMs) token).delivers key = false := by
          refine decide_eq_false fun h => hsame ?_
          rw [hkey]
          exact h.symm
        simp only [claimants, hpc, hother]
        exact Nat.zero_add _
  | delivered | appended => exact ⟨r, hr, .kept rfl, Nat.zero_add _⟩
  | marked p hpc h =>
    rcases record_fenced (markDelivered_ok h).2 (fun _ => rfl) hr with hnow | ⟨hnow, -, -⟩
    · exact ⟨r, hnow, .kept rfl, Nat.zero_add _⟩
    · exact ⟨_, hnow, .settled rfl rfl rfl, Nat.zero_add _⟩
  | gaveUp p hpc h =>
    rcases record_fenced (markDeadLetter_ok h) (fun _ => rfl) hr with hnow | ⟨hnow, -, -⟩
    · exact ⟨r, hnow, .kept rfl, Nat.zero_add _⟩
    · exact ⟨_, hnow, .settled rfl rfl rfl, Nat.zero_add _⟩
  | @retried p c message message' record token nextAttemptAt t hpc hlimit h =>
    rcases record_fenced (markRetry_ok h) (fun _ => rfl) hr with hnow | ⟨hnow, hfor, hown⟩
    · exact ⟨r, hnow, .kept rfl, Nat.zero_add _⟩
    · have hheld : (w.pcs p).held = some (record, token) := by
        rw [hpc]
        rfl
      exact ⟨_, hnow, .retried p hheld hfor hown hlimit rfl rfl, Nat.zero_add _⟩
  | @called c call hcall =>
    rcases storeStep_next sha256 c call w.store with hok | ⟨e, herror⟩
    · have hgrowth := growth_of_call hcall hok
      cases hgrowth with
      | grown new hnew hgrown =>
        refine ⟨r, ?_, .kept rfl, Nat.zero_add _⟩
        show (call.next sha256 c w.store).record key = some r
        rw [record_append hgrown, hr, Option.some_or]
      | recovered hrecovery new hnew hgrown =>
        have hadded : ({ w.store with outbox := w.store.outbox ++ new } : DurableStore).record key = some r := by
          rw [record_append (s := w.store) rfl, hr, Option.some_or]
        have hnow := record_update (s := { w.store with outbox := w.store.outbox ++ new }) hgrown (fun _ => rfl) key
        rw [hadded, Option.map_some] at hnow
        by_cases hexpired : expired c.now r = true
        · rw [if_pos hexpired] at hnow
          exact ⟨_, hnow, .recovered rfl hrecovery hexpired rfl rfl, Nat.zero_add _⟩
        · rw [if_neg hexpired] at hnow
          exact ⟨r, hnow, .kept rfl, Nat.zero_add _⟩
    · refine ⟨r, ?_, .kept rfl, Nat.zero_add _⟩
      show (call.next sha256 c w.store).record key = some r
      rw [eq_of_call_error herror]
      exact hr

/-- A record that is not there is not claimed, and when it is there it was never claimed. -/
theorem absent_of_step (hstep : DispatchStep sha256 dispatchers w label w')
    (hdistinct : (w.store.outbox.map OutboxRecord.key).Nodup) (hnone : w.store.record key = none) :
    claimants key w label w' = [] ∧ ∀ r', w'.store.record key = some r' → r'.Untried := by
  have hstill : ∀ {t : DurableStore} {selected : OutboxRecord → Bool} {change : OutboxRecord → OutboxRecord},
      t = { w.store with outbox := Rows.update selected change w.store.outbox } → (∀ r, (change r).key = r.key) →
      ∀ r', t.record key = some r' → r'.Untried := by
    intro t selected change ht hkey r' hr'
    rw [record_update (s := w.store) (by rw [ht]) hkey key, hnone] at hr'
    cases hr'
  have hsame : ∀ r', w.store.record key = some r' → r'.Untried := by
    intro r' hr'
    rw [hnone] at hr'
    cases hr'
  cases move_of_step hstep with
  | «local» p hactor hfalls => exact ⟨claimants_eq_nil_of_goto hactor hfalls.delivers, hsame⟩
  | @claimed p c ownerId token leaseMs claimed t h =>
    rcases Durable.claimNext_ok h with ⟨rfl, rfl | ⟨row, hrow, -, ht⟩⟩ | ⟨row, hrow, rfl, ht⟩
    · exact ⟨claimants_eq_nil_of_goto rfl rfl, hsame⟩
    · exact ⟨claimants_eq_nil_of_goto rfl rfl, hstill ht fun _ => rfl⟩
    · refine ⟨?_, hstill ht fun _ => rfl⟩
      refine claimants_eq_nil_of_goto rfl (decide_eq_false ?_)
      intro hkey
      have hthere := Rows.row_of_mem hdistinct (List.mem_of_find?_eq_some hrow)
      have hkey : row.key = key := hkey
      rw [hkey] at hthere
      exact absurd (hnone.symm.trans hthere) (by simp)
  | delivered | appended => exact ⟨rfl, hsame⟩
  | marked p hpc h => exact ⟨rfl, hstill (markDelivered_ok h).2 fun _ => rfl⟩
  | gaveUp p hpc h => exact ⟨rfl, hstill (markDeadLetter_ok h) fun _ => rfl⟩
  | retried p hpc hlimit h => exact ⟨rfl, hstill (markRetry_ok h) fun _ => rfl⟩
  | @called c call hcall =>
    refine ⟨rfl, ?_⟩
    rcases storeStep_next sha256 c call w.store with hok | ⟨e, herror⟩
    · cases growth_of_call hcall hok with
      | grown new hnew hgrown =>
        intro r' hr'
        have hr' : (call.next sha256 c w.store).record key = some r' := hr'
        rw [record_append hgrown, hnone, Option.none_or] at hr'
        exact hnew r' (Rows.mem_of_row hr')
      | recovered hrecovery new hnew hgrown =>
        intro r' hr'
        have hr' : (call.next sha256 c w.store).record key = some r' := hr'
        rw [record_update (s := { w.store with outbox := w.store.outbox ++ new }) hgrown (fun _ => rfl) key,
          record_append (s := w.store) rfl, hnone, Option.none_or] at hr'
        obtain ⟨r, hr, rfl⟩ := Option.map_eq_some_iff.1 hr'
        have huntried := hnew r (Rows.mem_of_row hr)
        have hunexpired : expired c.now r = false := by
          rw [expired, huntried.1]
          rfl
        rw [hunexpired]
        exact huntried
    · show ∀ r', (call.next sha256 c w.store).record key = some r' → r'.Untried
      rw [eq_of_call_error herror]
      exact hsame

/-- A dispatcher is at work on a record it was at work on, or on the one the step has it claim. -/
theorem held_of_step (hstep : DispatchStep sha256 dispatchers w label w') {record : OutboxRecord}
    (hheld : (w'.pcs p).held = some (record, token)) :
    (w.pcs p).held = some (record, token) ∨
      ∃ c row ownerId leaseMs, label = .claim p c token ∧ w.store.outbox.find? (claimable c.now) = some row ∧
        record = row.claimed c.now ownerId token leaseMs ∧ w'.pcs p = .delivering record token := by
  cases move_of_step hstep with
  | @«local» _ q hactor pc hfalls =>
    rw [pcs_goto] at hheld
    split at hheld
    · next heq =>
      subst heq
      left
      cases pc with
      | idle => cases hheld
      | failed =>
        cases hheld
        exact hfalls
      | delivering | resolved => exact hfalls.elim
    · exact .inl hheld
  | @claimed q c ownerId token' leaseMs claimed t h =>
    have hat := hheld
    rw [pcs_goto] at hat
    split at hat
    · next heq =>
      subst heq
      rcases Durable.claimNext_ok h with ⟨rfl, -⟩ | ⟨row, hrow, rfl, -⟩
      · cases hat
      · cases hat
        exact .inr ⟨c, row, ownerId, leaseMs, rfl, hrow, rfl, delivers_claimed rfl⟩
    · exact .inl hat
  | @delivered q d now message record' token' raw event ledger hpc hraw h =>
    rw [pcs_goto] at hheld
    split at hheld
    · next heq =>
      subst heq
      rw [hpc]
      exact .inl hheld
    · exact .inl hheld
  | marked q hpc h =>
    rw [pcs_goto] at hheld
    split at hheld
    · cases hheld
    · exact .inl hheld
  | gaveUp q hpc h =>
    rw [pcs_goto] at hheld
    split at hheld
    · cases hheld
    · exact .inl hheld
  | retried q hpc hlimit h =>
    rw [pcs_goto] at hheld
    split at hheld
    · cases hheld
    · exact .inl hheld
  | called | appended => exact .inl hheld

/-! ## Deliveries follow claims -/

/-- A dispatcher awaits the delivery of a record since this step, or it did before and the step is not its own. -/
theorem delivers_of_step (hstep : DispatchStep sha256 dispatchers w label w') {q : P} (h : (w'.pcs q).delivers key = true) :
    (∃ c token, label = .claim q c token) ∨ (w.pcs q).delivers key = true ∧ label.actor ≠ some q := by
  have hgoto : ∀ {u : Outreach P} {p : P} {pc : DispatcherPc}, u.pcs = w.pcs → pc.delivers key = false → label.actor = some p →
      ((u.goto p pc).pcs q).delivers key = true → (w.pcs q).delivers key = true ∧ label.actor ≠ some q := by
    intro u p pc hpcs hpc hactor hdelivers
    rw [pcs_goto] at hdelivers
    split at hdelivers
    · rw [hpc] at hdelivers
      cases hdelivers
    · next hne =>
      rw [hpcs] at hdelivers
      refine ⟨hdelivers, fun hsame => hne ?_⟩
      exact Option.mem_unique hsame hactor
  cases move_of_step hstep with
  | «local» p hactor hfalls => exact .inr (hgoto rfl hfalls.delivers hactor h)
  | @claimed p c ownerId token leaseMs claimed t hclaim =>
    by_cases heq : q = p
    · subst heq
      exact .inl ⟨c, token, rfl⟩
    · right
      rw [pcs_goto, if_neg heq] at h
      exact ⟨h, fun hsame => heq (Option.some.inj hsame).symm⟩
  | delivered p hpc hraw happend => exact .inr (hgoto (u := { w with ledger := _ }) rfl rfl rfl h)
  | marked p hpc hmark => exact .inr (hgoto (u := { w with store := _ }) rfl rfl rfl h)
  | gaveUp p hpc hmark => exact .inr (hgoto (u := { w with store := _ }) rfl rfl rfl h)
  | retried p hpc hlimit hmark => exact .inr (hgoto (u := { w with store := _ }) rfl rfl rfl h)
  | called | appended => exact .inr ⟨h, nofun⟩

/-- **A dispatcher delivers what it has claimed**: with the delivery it awaits, it has no more deliveries than claims. -/
theorem count_of_step (hstep : DispatchStep sha256 dispatchers w label w') (key : Text × Text) (q : P) :
    (deliverers key w label w').count q + (if (w'.pcs q).delivers key then 1 else 0) ≤
      (claimants key w label w').count q + (if (w.pcs q).delivers key then 1 else 0) := by
  by_cases h : (w'.pcs q).delivers key = true
  · rw [if_pos h]
    rcases delivers_of_step hstep h with ⟨c, token, rfl⟩ | ⟨hbefore, hactor⟩
    · simp only [deliverers, claimants, h, if_true, List.count_nil, List.count_singleton_self]
      omega
    · have hnone : (deliverers key w label w').count q = 0 := by
        unfold deliverers
        split
        · next p now message =>
          have hne : p ≠ q := fun heq => hactor (congrArg some heq)
          split
          · exact List.count_eq_zero.2 (by simpa using hne.symm)
          · rfl
        · rfl
      rw [hnone, if_pos hbefore]
      omega
  · rw [if_neg h]
    unfold deliverers
    split
    · next p now message =>
      by_cases heq : p = q
      · subst heq
        split
        · rw [List.count_singleton_self]
          omega
        · exact Nat.zero_le _
      · split
        · rw [List.count_eq_zero.2 (by simpa using Ne.symm heq)]
          exact Nat.zero_le _
        · exact Nat.zero_le _
    · exact Nat.zero_le _

/-! ## Runs -/

/-- What holds of the states that are reached by steps that keep to the limit. -/
structure Limited (sha256 : Text → Text) (dispatchers : P → OutboxDispatcher) (limit : Nat) (labels : List (DispatchLabel P))
    (w : Outreach P) : Prop where
  run : Run (DispatchStep sha256 dispatchers) (.initial P) labels w
  causal : Causal w.store
  /-- A record has counted its claims, and can be tried again only below the limit. -/
  present : ∀ key r, w.store.record key = some r →
    (claims sha256 dispatchers key (.initial P) labels).length = r.attemptCount ∧ r.attemptCount ≤ limit ∧
      (r.status = .pending ∨ r.status = .failed → r.attemptCount < limit)
  absent : ∀ key, w.store.record key = none → claims sha256 dispatchers key (.initial P) labels = []
  /-- Whose token is the record's, knows the record's count. -/
  held : ∀ p record token, (w.pcs p).held = some (record, token) →
    ∃ r, w.store.record record.key = some r ∧ (r.claimToken = some token → r.attemptCount = record.attemptCount)
  delivered : ∀ key p, (deliveries sha256 dispatchers key (.initial P) labels).count p +
    (if (w.pcs p).delivers key then 1 else 0) ≤ (claims sha256 dispatchers key (.initial P) labels).count p

theorem limited_initial : Limited sha256 dispatchers limit [] (.initial P) where
  run := .nil _
  causal := causal_empty
  present := by
    intro key r hr
    cases hr
  absent _ _ := rfl
  held := by
    intro p record token hheld
    cases hheld
  delivered _ _ := Nat.le_refl _

/-- What can be claimed is pending, failed, or a claim that has expired. -/
theorem open_of_claimable (h : claimable now r = true) : r.status = .pending ∨ r.status = .failed ∨ r.status = .delivering := by
  unfold claimable at h
  cases hstatus : r.status <;> simp_all

/-- A record that a step leaves keeps to the limit. -/
theorem Limited.bound {r' : OutboxRecord} (h : Limited sha256 dispatchers limit labels w)
    (hlimit : ∀ p, (dispatchers p).maxAttempts ≤ limit) (htimely : label.Timely limit w) (hr : w.store.record key = some r)
    (hmove : RecordMove dispatchers w label w' r r') :
    r'.attemptCount ≤ limit ∧ (r'.status = .pending ∨ r'.status = .failed → r'.attemptCount < limit) := by
  obtain ⟨-, hbound, hopen⟩ := h.present key r hr
  cases hmove with
  | kept heq =>
    rw [heq]
    exact ⟨hbound, hopen⟩
  | claimed p hlabel hfirst heq hpc =>
    have hbelow : r.attemptCount < limit := by
      rcases open_of_claimable (List.find?_some hfirst) with hpending | hfailed | hdelivering
      · exact hopen (.inl hpending)
      · exact hopen (.inr hfailed)
      · subst hlabel
        rw [DispatchLabel.Timely, hfirst, Option.all_some, decide_eq_true_eq] at htimely
        exact htimely hdelivering
    rw [heq]
    refine ⟨hbelow, fun hstatus => ?_⟩
    rcases hstatus with hstatus | hstatus <;> cases hstatus
  | settled hsettled hcount htoken =>
    rw [hcount]
    refine ⟨hbound, fun hstatus => ?_⟩
    rw [OutboxRecord.settled] at hsettled
    rcases hstatus with hstatus | hstatus <;> simp [hstatus] at hsettled
  | @retried p record token hheld hkey hown hlow hcount htoken =>
    obtain ⟨r'', hr'', hsame⟩ := h.held p record token hheld
    have hkey' : r.key = key := Rows.key_of_row hr
    rw [← hkey, hkey', hr] at hr''
    cases hr''
    have hbelow : record.attemptCount < (dispatchers p).maxAttempts := by
      rw [isDeadLetter, decide_eq_false_iff_not] at hlow
      omega
    have hmax := hlimit p
    rw [hcount, hsame hown]
    omega
  | recovered hlabel hrecovery hexpired hcount htoken =>
    subst hlabel
    have hbelow := htimely hrecovery r (Rows.mem_of_row hr) hexpired
    rw [hcount]
    exact ⟨hbound, fun _ => hbelow⟩

/-- **Step**: a step that keeps to the limit. -/
theorem Limited.step (h : Limited sha256 dispatchers limit labels w) (hpos : 0 < limit)
    (hlimit : ∀ p, (dispatchers p).maxAttempts ≤ limit) (hstep : TimelyStep sha256 dispatchers limit w label w') :
    Limited sha256 dispatchers limit (labels ++ [label]) w' := by
  obtain ⟨hstep, hfresh, htimely⟩ := hstep
  have hdistinct := h.causal.distinct_keys
  have hclaims : ∀ key, claims sha256 dispatchers key (.initial P) (labels ++ [label]) =
      claims sha256 dispatchers key (.initial P) labels ++ claimants key w label w' :=
    fun key => observed_snoc h.run hstep
  constructor
  case run => exact h.run.snoc hstep
  case causal => exact causal_of_move (move_of_step hstep) h.causal
  case present =>
    intro key r' hr'
    rw [hclaims, List.length_append]
    cases hr : w.store.record key with
    | none =>
      obtain ⟨hnot, huntried⟩ := absent_of_step hstep hdistinct hr
      have hzero := (huntried r' hr').2
      rw [h.absent key hr, hnot, hzero]
      exact ⟨rfl, Nat.zero_le _, fun _ => hpos⟩
    | some r =>
      obtain ⟨r'', hr'', hmove, hcount⟩ := record_of_step hstep hdistinct hr
      rw [hr'] at hr''
      cases hr''
      refine ⟨?_, h.bound hlimit htimely hr hmove⟩
      rw [(h.present key r hr).1, ← hcount]
      exact Nat.add_comm _ _
  case absent =>
    intro key hnone
    cases hr : w.store.record key with
    | none => rw [hclaims, h.absent key hr, (absent_of_step hstep hdistinct hr).1, List.append_nil]
    | some r =>
      obtain ⟨r', hr', -, -⟩ := record_of_step hstep hdistinct hr
      rw [hnone] at hr'
      cases hr'
  case held =>
    intro p record token hheld
    rcases held_of_step hstep hheld with hbefore | ⟨c, row, ownerId, leaseMs, rfl, hfirst, rfl, hpc⟩
    · obtain ⟨r, hr, hsame⟩ := h.held p record token hbefore
      obtain ⟨r', hr', hmove, -⟩ := record_of_step hstep hdistinct hr
      refine ⟨r', hr', fun htoken => ?_⟩
      cases hmove with
      | kept heq =>
        subst heq
        exact hsame htoken
      | @claimed q c ownerId token' leaseMs hlabel hfirst heq hpc =>
        subst hlabel heq
        cases htoken
        have hother := hfresh p
        rw [hbefore, Option.all_some, decide_eq_true_eq] at hother
        exact absurd rfl hother
      | settled _ hcount hown => rw [hcount, hsame (hown.symm.trans htoken)]
      | retried _ _ _ _ _ hcount hown => rw [hcount, hsame (hown.symm.trans htoken)]
      | recovered _ _ _ hcount hown => rw [hcount, hsame (hown.symm.trans htoken)]
    · have hrow := Rows.row_of_mem hdistinct (List.mem_of_find?_eq_some hfirst)
      obtain ⟨r', hr', -, hcount⟩ := record_of_step hstep hdistinct hrow
      refine ⟨r', hr', fun _ => ?_⟩
      have hdelivers : (DispatcherPc.delivering (row.claimed c.now ownerId token leaseMs) token).delivers row.key = true :=
        decide_eq_true rfl
      simp only [claimants, hpc, hdelivers, if_true, List.length_singleton] at hcount
      rw [← hcount]
      exact Nat.add_comm _ _
  case delivered =>
    intro key p
    have hdeliveries : deliveries sha256 dispatchers key (.initial P) (labels ++ [label]) =
        deliveries sha256 dispatchers key (.initial P) labels ++ deliverers key w label w' :=
      observed_snoc h.run hstep
    have hbefore := h.delivered key p
    have hnow := count_of_step hstep key p
    rw [hdeliveries, hclaims, List.count_append, List.count_append]
    omega

theorem limited_of_run (hpos : 0 < limit) (hlimit : ∀ p, (dispatchers p).maxAttempts ≤ limit)
    (hrun : Run (TimelyStep sha256 dispatchers limit) (.initial P) labels w) : Limited sha256 dispatchers limit labels w :=
  hrun.trace_invariant (I := fun labels w => Limited sha256 dispatchers limit labels w)
    (fun _ _ _ _ hstep h => h.step hpos hlimit hstep) limited_initial

theorem Limited.length_claims (h : Limited sha256 dispatchers limit labels w) (key : Text × Text) :
    (claims sha256 dispatchers key (.initial P) labels).length ≤ limit := by
  cases hr : w.store.record key with
  | none =>
    rw [h.absent key hr]
    exact Nat.zero_le _
  | some r =>
    obtain ⟨hcount, hbound, -⟩ := h.present key r hr
    omega

theorem Limited.deliveries_le (h : Limited sha256 dispatchers limit labels w) (key : Text × Text) :
    (deliveries sha256 dispatchers key (.initial P) labels).length ≤ (claims sha256 dispatchers key (.initial P) labels).length := by
  refine (List.subperm_ext_iff.2 fun p _ => ?_).length_le
  exact le_trans (Nat.le_add_right _ _) (h.delivered key p)

/-- **The limit on attempts**: where the steps of a run keep to the limit, no record is claimed more often than the limit
says, nor delivered more often, and one whose count is at the limit is never claimed again. -/
theorem attempts_of_run {labels : List (DispatchLabel P)} (hpos : 0 < limit)
    (hlimit : ∀ p, (dispatchers p).maxAttempts ≤ limit)
    (hrun : Run (TimelyStep sha256 dispatchers limit) (.initial P) labels w) (key : Text × Text) :
    (claims sha256 dispatchers key (.initial P) labels).length ≤ limit ∧
    (deliveries sha256 dispatchers key (.initial P) labels).length ≤ limit ∧
    ∀ r, w.store.record key = some r → limit ≤ r.attemptCount →
      ∀ later w', Run (TimelyStep sha256 dispatchers limit) w later w' → claims sha256 dispatchers key w later = [] := by
  have h := limited_of_run hpos hlimit hrun
  refine ⟨h.length_claims key, le_trans (h.deliveries_le key) (h.length_claims key), ?_⟩
  intro r hr hreached later w' hlater
  have hall := (limited_of_run hpos hlimit (hrun.trans hlater)).length_claims key
  have happend : claims sha256 dispatchers key (.initial P) (labels ++ later) =
      claims sha256 dispatchers key (.initial P) labels ++ claims sha256 dispatchers key w later :=
    observed_append h.run later
  obtain ⟨hcount, -, -⟩ := h.present key r hr
  rw [happend, List.length_append] at hall
  exact List.length_eq_zero_iff.1 (by omega)

end

/-- A dispatcher of the tenant that gives a record two attempts. -/
def twiceDispatcher (_ : Bool) : OutboxDispatcher := ⟨2, "owner", 30000, ⟨"platform", .writer, "t", [.platform]⟩⟩

/-- A dispatcher fails, tries again after its backoff, and gives the record up. -/
def givenUpDispatch : List (DispatchLabel Bool) :=
  [.call sampleCreation.1 sampleCreation.2, .claim false (sampleContext 1 "") "token_1", .lose false "refused",
    .mark false (sampleContext 2 "") "", .claim true (sampleContext 1002 "") "token_2", .lose true "refused",
    .mark true (sampleContext 1003 "") ""]

theorem attempts_of_run_given_up :
    ∃ w, Run (TimelyStep id twiceDispatcher 2) (.initial Bool) givenUpDispatch w ∧
      (w.store.record ("t", "ob_a")).any (fun r => r.status = .deadLetter && r.attemptCount = 2) = true ∧
      (claims id twiceDispatcher ("t", "ob_a") (.initial Bool) givenUpDispatch).length ≤ 2 := by
  have hreplay : (replay (fun (w : Outreach Bool) label => if label.Fresh w ∧ label.Timely 2 w then
      dispatchStep id twiceDispatcher w label else none) (.initial Bool) givenUpDispatch).any (fun w =>
        (w.store.record ("t", "ob_a")).any fun r => r.status = .deadLetter && r.attemptCount = 2) = true := by
    decide +kernel
  obtain ⟨w, hrun, htest⟩ := run_of_guarded_test hreplay
  obtain ⟨hclaims, -, -⟩ := attempts_of_run (by decide) (fun _ => Nat.le_refl 2) hrun ("t", "ob_a")
  exact ⟨w, hrun, htest, hclaims⟩

/-- Dispatchers stop after their claims, one after another, and the leases of their claims expire. -/
def abandonedDispatch : List (DispatchLabel Bool) :=
  [.call sampleCreation.1 sampleCreation.2, .claim false (sampleContext 1 "") "token_1", .stop false,
    .claim true (sampleContext 30001 "") "token_2", .stop true, .claim false (sampleContext 60001 "") "token_3"]

/-- With two attempts, a record is claimed a third time. -/
theorem attempts_of_run_abandoned :
    ¬ ∀ labels w, Run (fun (w : Outreach Bool) label w' => DispatchStep id twiceDispatcher w label w' ∧ label.Fresh w)
      (.initial Bool) labels w → ∀ key, (claims id twiceDispatcher key (.initial Bool) labels).length ≤ 2 := by
  intro h
  have hreplay : (replay (fun (w : Outreach Bool) label => if label.Fresh w then dispatchStep id twiceDispatcher w label
      else none) (.initial Bool) abandonedDispatch).any (fun _ => true) = true := by
    decide +kernel
  have hclaims : (claims id twiceDispatcher ("t", "ob_a") (.initial Bool) abandonedDispatch).length = 3 := by decide +kernel
  obtain ⟨w, hrun, -⟩ := run_of_guarded_test hreplay
  have hle := h abandonedDispatch w hrun ("t", "ob_a")
  rw [hclaims] at hle
  exact absurd hle (by decide)

end Tna.Platform
