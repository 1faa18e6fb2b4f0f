import Tna.Platform.Causality

/-!
# What becomes of a record

The calls that are not a dispatcher's add records, and a recovery takes back the claims
that have expired. A record that was delivered or given up is never touched again.
-/

namespace Tna.Platform

open Tna.Js Tna.Lib

/-- The record is delivered, or given up. -/
def OutboxRecord.settled (r : OutboxRecord) : Bool := r.status = .delivered || r.status = .deadLetter

/-- The call marks a record, under a token. -/
def StoreCall.marks (call : StoreCall) (key : Text × Text) (token : Text) : Prop :=
  match call with
  | .markDelivered outboxId tenantId token' _ | .markRetry outboxId tenantId token' _ _
  | .markDeadLetter outboxId tenantId token' _ => (tenantId, outboxId) = key ∧ token' = token
  | _ => False

/-- A delivery claim that has expired, as a recovery sees it. -/
def expired (now : Nat) (r : OutboxRecord) : Bool :=
  r.status = .delivering && r.claimExpiresAt.all fun expiry => expiry ≤ now

/-- A record as a recovery leaves it. -/
def OutboxRecord.recovered (r : OutboxRecord) (now : Nat) : OutboxRecord :=
  { r with
    status := .failed, nextAttemptAt := now
    lastError := some "Recovered after interrupted or expired delivery claim" }

/-- A record as it is when it is enqueued: it was never claimed. -/
def OutboxRecord.Untried (r : OutboxRecord) : Prop := r.status = .pending ∧ r.attemptCount = 0

/-- The call is the recovery at a start of the store. -/
def StoreCall.isRecovery : StoreCall → Bool
  | .recoverInterruptedWork _ => true
  | _ => false

/-- What a call that is not a dispatcher's does to the records: a recovery, or another. -/
inductive OutboxGrowth (recovery : Bool) (now : Nat) (s t : List OutboxRecord) : Prop where
  | grown (new : List OutboxRecord) (hnew : ∀ r ∈ new, r.Untried) (h : t = s ++ new)
  | recovered (hrecovery : recovery = true) (new : List OutboxRecord) (hnew : ∀ r ∈ new, r.Untried)
    (h : t = Rows.update (expired now) (fun r => r.recovered now) (s ++ new))

section
variable {s t : DurableStore} {c : CallContext} {tenantId actionId : Text}

theorem growth_refl (recovery : Bool) (now : Nat) (s : List OutboxRecord) : OutboxGrowth recovery now s s :=
  .grown [] (List.forall_mem_nil _) (List.append_nil s).symm

/-- An enqueueing adds one record, which was never claimed. -/
theorem growth_enqueued {u : DurableStore} (hsame : u.outbox = s.outbox) (tenantId actionId : Text) (e : Evidence)
    (recovery : Bool) (now now' : Nat) (uuid : Text) : OutboxGrowth recovery now' s.outbox (u.enqueued tenantId actionId e now uuid).outbox := by
  rw [← hsame]
  refine .grown _ ?_ rfl
  intro r hr
  rw [List.mem_singleton.1 hr]
  exact ⟨rfl, rfl⟩

variable {recovery : Bool} {a : Unit} {now : Nat} {uuids : Text × Text → Text} {call : StoreCall} {sha256 : Text → Text}
  {change : OutboxRecord → OutboxRecord} {selected : OutboxRecord → Bool} {new : List OutboxRecord}
  {outboxId token error : Text}

theorem write_growth {guard : PlatformAction → Option PlatformError} {selected : PlatformAction → Bool}
    {change : PlatformAction → PlatformAction} {evidence : ActionRow → Option Evidence} {a : PlatformAction}
    (h : write c tenantId actionId guard selected change evidence s = .ok a t) :
    OutboxGrowth recovery c.now s.outbox t.outbox := by
  obtain ⟨current, -, -, hwritten, -⟩ := write_ok h
  rcases hwritten with ⟨rfl, -⟩ | ⟨e, -, -, rfl⟩
  · exact growth_refl _ _ _
  · apply growth_enqueued
    rfl

theorem recoverAction_outbox {row : ActionRow} (h : Durable.recoverAction now uuids row s = .ok a t) :
    ∃ record : OutboxRecord, record.Untried ∧ t.outbox = s.outbox ++ [record] := by
  obtain ⟨_, u, hupdate, hrest⟩ := bind_answered h
  obtain ⟨-, rfl⟩ := updateActions_ok hupdate
  obtain ⟨_, v, hruns, henqueue⟩ := bind_answered hrest
  obtain ⟨-, rfl⟩ := updateRuns_ok hruns
  obtain ⟨-, rfl⟩ := enqueue_ok henqueue
  exact ⟨_, ⟨rfl, rfl⟩, rfl⟩

theorem recoverActions_outbox {rows : List ActionRow} (h : Durable.recoverActions now uuids rows s = .ok a t) :
    ∃ new : List OutboxRecord, (∀ r ∈ new, r.Untried) ∧ t.outbox = s.outbox ++ new := by
  induction rows generalizing s with
  | nil =>
    cases h
    exact ⟨[], List.forall_mem_nil _, (List.append_nil _).symm⟩
  | cons row rows ih =>
    obtain ⟨_, u, hfirst, hrest⟩ := bind_answered h
    obtain ⟨record, hrecord, hone⟩ := recoverAction_outbox hfirst
    obtain ⟨new, hnew, hgrown⟩ := ih hrest
    refine ⟨record :: new, ?_, ?_⟩
    · intro r hr
      rcases List.mem_cons.1 hr with rfl | hr
      · exact hrecord
      · exact hnew r hr
    · rw [hgrown, hone, List.append_assoc, List.singleton_append]

/-- **What becomes of the records** in a call that is not a dispatcher's. -/
theorem growth_of_call (hcall : call.ofDispatcher = false) (h : call.run sha256 c s = .ok () t) :
    OutboxGrowth call.isRecovery c.now s.outbox t.outbox := by
  have hanswer := answer_of_call h
  clear h
  cases hanswer with
  | created h =>
    rcases createOrReturn_ok h with rfl | ⟨-, -, rfl⟩
    · exact growth_refl _ _ _
    · apply growth_enqueued
      rfl
  | wrote h => exact write_growth h
  | claimed h =>
    obtain ⟨current, -, -, -, -, -, -, rfl⟩ := Durable.claimExecution_ok h
    apply growth_enqueued
    rfl
  | finished h =>
    rw [Durable.finishRun_ok h]
    exact growth_refl _ _ _
  | recovered h =>
    obtain ⟨u, hactions, -, rfl⟩ := Durable.recoverInterruptedWork_ok h
    obtain ⟨new, hnew, hgrown⟩ := recoverActions_outbox hactions
    refine .recovered rfl new hnew ?_
    rw [← hgrown]
    rfl
  | marked hdispatcher =>
    rw [hcall] at hdispatcher
    cases hdispatcher

/-! ## One record -/

/-- An update of records, in place. -/
theorem record_update (ht : t.outbox = Rows.update selected change s.outbox) (hkey : ∀ r, (change r).key = r.key)
    (key : Text × Text) : t.record key = (s.record key).map fun r => if selected r then change r else r := by
  rw [DurableStore.record, ht]
  exact Rows.row_update hkey

variable {key : Text × Text} {r : OutboxRecord}

theorem settled_of_update (ht : t.outbox = Rows.update selected change s.outbox) (hkey : ∀ r, (change r).key = r.key)
    (hopen : ∀ r, selected r = true → r.settled = false) (h : s.record key = some r) (hsettled : r.settled = true) :
    t.record key = some r := by
  have hnot : selected r ≠ true := by
    intro hselected
    rw [hopen r hselected] at hsettled
    cases hsettled
  rw [record_update ht hkey, h, Option.map_some, if_neg hnot]

theorem delivered_of_update (h : t.record key = some r) (ht : t.outbox = Rows.update selected change s.outbox)
    (hkey : ∀ r, (change r).key = r.key) (hother : ∀ r, selected r = true → (change r).status ≠ .delivered)
    (hdelivered : r.status = .delivered) : s.record key = some r := by
  rw [record_update ht hkey, Option.map_eq_some_iff] at h
  obtain ⟨r', hr', rfl⟩ := h
  by_cases hselected : selected r' = true
  · rw [if_pos hselected] at hdelivered
    exact absurd hdelivered (hother r' hselected)
  · rw [if_neg hselected]
    exact hr'

theorem record_append (h : t.outbox = s.outbox ++ new) (key : Text × Text) :
    t.record key = (s.record key).or (Rows.row OutboxRecord.key new key) := by
  rw [DurableStore.record, h]
  exact Rows.row_append_rows new

/-- A record that was added is not delivered. -/
theorem delivered_of_append (hnew : ∀ r ∈ new, r.Untried) (h : t.outbox = s.outbox ++ new) (hr : t.record key = some r)
    (hdelivered : r.status = .delivered) : s.record key = some r := by
  rw [record_append h] at hr
  cases hs : s.record key with
  | some r' =>
    rw [hs, Option.some_or] at hr
    exact hr
  | none =>
    rw [hs, Option.none_or] at hr
    have hpending := (hnew r (Rows.mem_of_row hr)).1
    rw [hdelivered] at hpending
    cases hpending

theorem settled_expired (h : expired now r = true) : r.settled = false := by
  rw [expired, Bool.and_eq_true, decide_eq_true_eq] at h
  rw [OutboxRecord.settled, h.1]
  rfl

theorem settled_of_growth (hgrowth : OutboxGrowth recovery now s.outbox t.outbox) (h : s.record key = some r)
    (hsettled : r.settled = true) : t.record key = some r := by
  cases hgrowth with
  | grown new hnew hgrown => rw [record_append hgrown, h, Option.some_or]
  | recovered hrecovery new hnew hgrown =>
    have hadded : ({ s with outbox := s.outbox ++ new } : DurableStore).record key = some r := by
      rw [record_append (s := s) rfl, h, Option.some_or]
    exact settled_of_update (s := { s with outbox := s.outbox ++ new }) hgrown (fun _ => rfl) (fun _ => settled_expired) hadded
      hsettled

theorem delivered_of_growth (hgrowth : OutboxGrowth recovery now s.outbox t.outbox) (h : t.record key = some r)
    (hdelivered : r.status = .delivered) : s.record key = some r := by
  cases hgrowth with
  | grown new hnew hgrown => exact delivered_of_append hnew hgrown h hdelivered
  | recovered hrecovery new hnew hgrown =>
    have hadded := delivered_of_update (s := { s with outbox := s.outbox ++ new }) h hgrown (fun _ => rfl)
      (fun _ _ hstatus => OutboxStatus.noConfusion hstatus) hdelivered
    exact delivered_of_append hnew rfl hadded hdelivered

/-! ## Dispatchers' calls -/

/-- Only a record that is neither delivered nor given up can be claimed. -/
theorem settled_claimable (h : claimable now r = true) : r.settled = false := by
  unfold claimable at h
  unfold OutboxRecord.settled
  split at h <;> simp_all

/-- What a claim selects can be claimed. -/
theorem settled_selected {row : OutboxRecord} (hrow : s.outbox.find? (claimable now) = some row)
    (h : (r.key = row.key && r.status = row.status && r.claimToken = row.claimToken) = true) : r.settled = false := by
  rw [Bool.and_eq_true, Bool.and_eq_true, decide_eq_true_eq, decide_eq_true_eq] at h
  have hopen := settled_claimable (List.find?_some hrow)
  rw [OutboxRecord.settled, h.1.2]
  exact hopen

theorem settled_fenced (h : Durable.fenced tenantId outboxId token r = true) : r.settled = false := by
  rw [Durable.fenced, Bool.and_eq_true, Bool.and_eq_true, decide_eq_true_eq, decide_eq_true_eq] at h
  rw [OutboxRecord.settled, h.1.2]
  rfl

/-- Under distinct ids, a mark under a token that is not the record's own selects nothing. -/
theorem fenced_stale (hdistinct : (s.outbox.map OutboxRecord.key).Nodup)
    (hstale : ∀ r, s.record (tenantId, outboxId) = some r → r.claimToken ≠ some token) :
    ∀ r ∈ s.outbox, Durable.fenced tenantId outboxId token r = false := by
  intro r hr
  by_contra hfenced
  rw [Bool.not_eq_false, Durable.fenced, Bool.and_eq_true, Bool.and_eq_true, decide_eq_true_eq, decide_eq_true_eq,
    decide_eq_true_eq] at hfenced
  have hrecord : s.record r.key = some r := Rows.row_of_mem hdistinct hr
  rw [hfenced.1.1] at hrecord
  exact hstale r hrecord hfenced.2

theorem eq_of_stale (h : ∀ r ∈ s.outbox, selected r = false) :
    { s with outbox := Rows.update selected change s.outbox } = s := by
  rw [Rows.update_eq_self h]

/-- **Fencing**: under distinct ids, a mark under a token that is not the record's own changes nothing. -/
theorem eq_of_stale_mark (hdistinct : (s.outbox.map OutboxRecord.key).Nodup) (hmarks : call.marks key token)
    (hstale : ∀ r, s.record key = some r → r.claimToken ≠ some token) (h : StoreStep sha256 s (c, call) t) : t = s := by
  rcases h with h | ⟨e, h⟩
  · cases call with
    | markDelivered outboxId tenantId token' ledgerEventId =>
      obtain ⟨rfl, rfl⟩ := hmarks
      rw [(markDelivered_ok h).2]
      exact eq_of_stale (fenced_stale hdistinct hstale)
    | markRetry outboxId tenantId token' error nextAttemptAt =>
      obtain ⟨rfl, rfl⟩ := hmarks
      rw [markRetry_ok h]
      exact eq_of_stale (fenced_stale hdistinct hstale)
    | markDeadLetter outboxId tenantId token' error =>
      obtain ⟨rfl, rfl⟩ := hmarks
      rw [markDeadLetter_ok h]
      exact eq_of_stale (fenced_stale hdistinct hstale)
    | _ => exact absurd hmarks id
  · exact eq_of_call_error h

end

end Tna.Platform
