import Tna.Platform.Dispatch

/-!
# Delivery is fenced, final and idempotent

Across every interleaving of dispatchers: a mark under a token that is not the record's
own changes nothing, a record that was delivered or given up stays as it is, a record is
delivered only after a delivery answered with its event id, and the Ledger has one event
for it at most.
-/

namespace Tna.Platform

open Tna.Js Tna.Lib Tna.Ledger

section
variable {P : Type} [DecidableEq P] {sha256 : Text → Text} {dispatchers : P → OutboxDispatcher} {w w' : Outreach P}

/-! ## What a step can do -/

/-- A dispatcher stands where an answer of a delivery is to be marked. -/
def DispatcherPc.isResolved : DispatcherPc → Bool
  | .resolved .. => true
  | _ => false

/-- The record a dispatcher is at work on, and the token it claimed it under. -/
def DispatcherPc.held : DispatcherPc → Option (OutboxRecord × Text)
  | .idle => none
  | .delivering record token | .resolved record token _ | .failed record token _ => some (record, token)

/-- A dispatcher is done with its record, or enters the `catch`. -/
def DispatcherPc.Falls (pc : DispatcherPc) : DispatcherPc → Prop
  | .idle => True
  | .failed record token _ => pc.held = some (record, token)
  | _ => False

variable {pc : DispatcherPc} {p q : P} {α : Type} {s t : DurableStore} {token now eventId : Text} {label : DispatchLabel P}
  {record : OutboxRecord} {labels : List (DispatchLabel P)}

theorem DispatcherPc.Falls.isResolved {pc' : DispatcherPc} (h : pc.Falls pc') : pc'.isResolved = false := by
  cases pc' with
  | idle | failed => rfl
  | delivering | resolved => exact h.elim

/-- The dispatcher whose step it is. -/
def DispatchLabel.actor : DispatchLabel P → Option P
  | .claim p .. | .deliver p .. | .lose p _ | .mark p .. | .stop p => some p
  | .call .. | .append _ => none

/-- The kinds of steps. -/
inductive DispatchMove (sha256 : Text → Text) (dispatchers : P → OutboxDispatcher) (w : Outreach P) :
    DispatchLabel P → Outreach P → Prop where
  /-- A dispatcher goes on, and nothing else happens. -/
  | local {label : DispatchLabel P} (p : P) (hactor : label.actor = some p) {pc : DispatcherPc} (hfalls : (w.pcs p).Falls pc) :
    DispatchMove sha256 dispatchers w label (w.goto p pc)
  | claimed (p : P) {c : CallContext} {ownerId token : Text} {leaseMs : Nat} {claimed : Option OutboxRecord} {t : DurableStore}
    (h : Durable.claimNext c ownerId token leaseMs w.store = .ok claimed t) :
    DispatchMove sha256 dispatchers w (.claim p c token) (({ w with store := t } : Outreach P).goto p (afterClaim claimed))
  /-- A delivery reached the Ledger and answered. -/
  | delivered (p : P) {d : OutboxDispatcher} {now message : Text} {record : OutboxRecord} {token : Text} {raw : JsValue}
    {event : LedgerEvent} {ledger : LedgerStore} (hpc : w.pcs p = .delivering record token)
    (hraw : toLedgerEvent w.store record = .ok raw) (h : append sha256 now w.ledger d.writer raw = .ok (event, ledger)) :
    DispatchMove sha256 dispatchers w (.deliver p now message)
      (({ w with ledger := ledger } : Outreach P).goto p (.resolved record token event.eventId))
  | marked (p : P) {c : CallContext} {message : Text} {record : OutboxRecord} {token eventId : Text} {t : DurableStore}
    (hpc : w.pcs p = .resolved record token eventId)
    (h : Durable.markDelivered c record.outboxId record.tenantId token eventId w.store = .ok () t) :
    DispatchMove sha256 dispatchers w (.mark p c message) (({ w with store := t } : Outreach P).goto p .idle)
  | gaveUp (p : P) {c : CallContext} {message message' : Text} {record : OutboxRecord} {token : Text} {t : DurableStore}
    (hpc : w.pcs p = .failed record token message')
    (h : Durable.markDeadLetter c record.outboxId record.tenantId token message' w.store = .ok () t) :
    DispatchMove sha256 dispatchers w (.mark p c message) (({ w with store := t } : Outreach P).goto p .idle)
  | retried (p : P) {c : CallContext} {message message' : Text} {record : OutboxRecord} {token : Text} {nextAttemptAt : Nat}
    {t : DurableStore} (hpc : w.pcs p = .failed record token message')
    (hlimit : isDeadLetter record.attemptCount (dispatchers p).maxAttempts = false)
    (h : Durable.markRetry c record.outboxId record.tenantId token message' nextAttemptAt w.store = .ok () t) :
    DispatchMove sha256 dispatchers w (.mark p c message) (({ w with store := t } : Outreach P).goto p .idle)
  | called {c : CallContext} {call : StoreCall} (hcall : call.ofDispatcher = false) :
    DispatchMove sha256 dispatchers w (.call c call) { w with store := call.next sha256 c w.store }
  | appended (call : AppendCall) : DispatchMove sha256 dispatchers w (.append call) { w with ledger := call.run sha256 w.ledger }

/-- A call of the store answered, or it threw and left the store as it was. -/
theorem called_cases {result : EStateM.Result PlatformError DurableStore α} {next : α → DispatcherPc}
    {caught : PlatformError → DispatcherPc} (herror : ∀ e t, result = .error e t → t = w.store) :
    (∃ a t, result = .ok a t ∧ w.called p result next caught = ({ w with store := t } : Outreach P).goto p (next a)) ∨
      ∃ e, w.called p result next caught = w.goto p (caught e) := by
  cases result with
  | ok a t => exact .inl ⟨a, t, rfl, rfl⟩
  | error e t =>
    right
    have hsame := herror e t rfl
    subst hsame
    exact ⟨e, rfl⟩

theorem claimNext_error {c : CallContext} {ownerId : Text} {leaseMs : Nat} {e : PlatformError}
    (h : Durable.claimNext c ownerId token leaseMs s = .error e t) : t = s :=
  eq_of_tx_error h

/-- **Inversion of a step.** -/
theorem move_of_step (h : DispatchStep sha256 dispatchers w label w') : DispatchMove sha256 dispatchers w label w' := by
  unfold DispatchStep dispatchStep at h
  cases label with
  | claim p c token =>
    simp only at h
    split at h
    · cases h
      rcases called_cases (w := w) (p := p) (fun e t => claimNext_error) with ⟨claimed, t, hok, hw⟩ | ⟨e, hw⟩
      · rw [hw]
        exact .claimed p hok
      · rw [hw]
        exact .local p rfl trivial
    · cases h
  | deliver p now message =>
    simp only at h
    split at h
    · next record token hpc =>
      cases h
      have hheld : (w.pcs p).held = some (record, token) := by
        rw [hpc]
        rfl
      unfold deliver
      split
      · exact .local p rfl hheld
      · next raw hraw =>
        split
        · next event ledger happend => exact .delivered p hpc hraw happend
        · exact .local p rfl hheld
    · cases h
  | lose p message =>
    simp only at h
    split at h
    · next record token hpc =>
      cases h
      refine .local p rfl ?_
      rw [hpc]
      rfl
    · next record token eventId hpc =>
      cases h
      refine .local p rfl ?_
      rw [hpc]
      rfl
    · cases h
  | mark p c message =>
    simp only at h
    split at h
    · next record token eventId hpc =>
      cases h
      have hheld : (w.pcs p).held = some (record, token) := by
        rw [hpc]
        rfl
      unfold mark
      simp only
      split
      · exact .local p rfl hheld
      · rcases called_cases (w := w) (p := p) (fun e t => markDelivered_error) with ⟨_, t, hok, hw⟩ | ⟨e, hw⟩
        · rw [hw]
          exact .marked p hpc hok
        · rw [hw]
          exact .local p rfl hheld
    · next record token message' hpc =>
      cases h
      unfold markFailed
      split
      · rcases called_cases (w := w) (p := p) (fun e t => markDeadLetter_error) with ⟨_, t, hok, hw⟩ | ⟨e, hw⟩
        · rw [hw]
          exact .gaveUp p hpc hok
        · rw [hw]
          exact .local p rfl trivial
      · next hlimit =>
        rcases called_cases (w := w) (p := p) (fun e t => markRetry_error) with ⟨_, t, hok, hw⟩ | ⟨e, hw⟩
        · rw [hw]
          exact .retried p hpc (Bool.eq_false_of_not_eq_true hlimit) hok
        · rw [hw]
          exact .local p rfl trivial
    · cases h
  | stop p =>
    cases h
    exact .local p rfl trivial
  | call c call =>
    simp only at h
    split at h
    · cases h
    · next hcall =>
      cases h
      exact .called (Bool.eq_false_of_not_eq_true hcall)
  | append call =>
    cases h
    exact .appended call

/-! ## The store -/

theorem answered_of_ok {m : Statement α} {a : α} (h : m s = .ok a t) : (do let _ ← m : Statement Unit) s = .ok () t := by
  simp only [bind, EStateM.bind, h]
  rfl

/-- What a step does to the store is one call of it. -/
theorem store_of_move (h : DispatchMove sha256 dispatchers w label w') :
    w'.store = w.store ∨ ∃ l, StoreStep sha256 w.store l w'.store := by
  cases h with
  | «local» | delivered | appended => exact .inl rfl
  | @claimed p c ownerId token leaseMs claimed t h =>
    exact .inr ⟨(c, .claimNext ownerId token leaseMs), .inl (answered_of_ok h)⟩
  | @marked p c message record token eventId t hpc h =>
    exact .inr ⟨(c, .markDelivered record.outboxId record.tenantId token eventId), .inl h⟩
  | @gaveUp p c message message' record token t hpc h =>
    exact .inr ⟨(c, .markDeadLetter record.outboxId record.tenantId token message'), .inl h⟩
  | @retried p c message message' record token nextAttemptAt t hpc hlimit h =>
    exact .inr ⟨(c, .markRetry record.outboxId record.tenantId token message' nextAttemptAt), .inl h⟩
  | @called c call hcall => exact .inr ⟨(c, call), storeStep_next sha256 c call w.store⟩

theorem causal_of_move (h : DispatchMove sha256 dispatchers w label w') (hcausal : Causal w.store) : Causal w'.store := by
  rcases store_of_move h with hsame | ⟨l, hstep⟩
  · rw [hsame]
    exact hcausal
  · exact (causal_of_changes (effect_of_step hstep).changes hcausal).1

/-- The ids of records are distinct. -/
theorem Causal.distinct_keys (h : Causal s) : (s.outbox.map OutboxRecord.key).Nodup := by
  have hsame : s.outbox.map OutboxRecord.key = s.written.map Written.key := by
    rw [DurableStore.written, List.map_map]
    rfl
  rw [hsame]
  exact h.distinct

variable {key : Text × Text} {r : OutboxRecord}

/-- **Step**: a record that was delivered or given up stays as it is. -/
theorem settled_of_move (h : DispatchMove sha256 dispatchers w label w') (hr : w.store.record key = some r)
    (hsettled : r.settled = true) : w'.store.record key = some r := by
  cases h with
  | «local» | delivered | appended => exact hr
  | claimed p h =>
    rcases Durable.claimNext_ok h with ⟨-, rfl | ⟨row, hrow, -, rfl⟩⟩ | ⟨row, hrow, -, rfl⟩
    · exact hr
    · exact settled_of_update (s := w.store) rfl (fun _ => rfl) (fun _ => settled_selected hrow) hr hsettled
    · exact settled_of_update (s := w.store) rfl (fun _ => rfl) (fun _ => settled_selected hrow) hr hsettled
  | marked p hpc h =>
    rw [(markDelivered_ok h).2]
    exact settled_of_update (s := w.store) rfl (fun _ => rfl) (fun _ => settled_fenced) hr hsettled
  | gaveUp p hpc h =>
    rw [markDeadLetter_ok h]
    exact settled_of_update (s := w.store) rfl (fun _ => rfl) (fun _ => settled_fenced) hr hsettled
  | retried p hpc hlimit h =>
    rw [markRetry_ok h]
    exact settled_of_update (s := w.store) rfl (fun _ => rfl) (fun _ => settled_fenced) hr hsettled
  | @called c call hcall =>
    rcases storeStep_next sha256 c call w.store with hok | ⟨e, herror⟩
    · exact settled_of_growth (growth_of_call hcall hok) hr hsettled
    · have hsame := eq_of_call_error herror
      show (call.next sha256 c w.store).record key = some r
      rw [hsame]
      exact hr

/-- **Step**: a record is newly delivered only by the mark of an answer with its event id. -/
theorem delivered_of_move (h : DispatchMove sha256 dispatchers w label w') (hr : w'.store.record key = some r)
    (hdelivered : r.status = .delivered) :
    w.store.record key = some r ∨
      ∃ p record token, w.pcs p = .resolved record token (outboxLedgerEventId key.2) ∧ record.key = key := by
  cases h with
  | «local» | delivered | appended => exact .inl hr
  | claimed p h =>
    left
    rcases Durable.claimNext_ok h with ⟨-, rfl | ⟨row, hrow, -, rfl⟩⟩ | ⟨row, hrow, -, rfl⟩
    · exact hr
    · exact delivered_of_update (s := w.store) hr rfl (fun _ => rfl) (fun _ _ hstatus => OutboxStatus.noConfusion hstatus) hdelivered
    · exact delivered_of_update (s := w.store) hr rfl (fun _ => rfl) (fun _ _ hstatus => OutboxStatus.noConfusion hstatus) hdelivered
  | @marked p c message record token eventId t hpc h =>
    obtain ⟨hid, rfl⟩ := markDelivered_ok h
    have hrecord := record_update (s := w.store) (t := { w.store with
      outbox := Rows.update (Durable.fenced record.tenantId record.outboxId token) (fun r => { r with
        status := .delivered, ledgerEventId := eventId, lastError := none, claimExpiresAt := none }) w.store.outbox })
      rfl (fun _ => rfl) key
    have hr' := hrecord.symm.trans hr
    obtain ⟨r', hold, hnow⟩ := Option.map_eq_some_iff.1 hr'
    by_cases hfenced : Durable.fenced record.tenantId record.outboxId token r' = true
    · right
      have hkey : r'.key = (record.tenantId, record.outboxId) := by
        rw [Durable.fenced, Bool.and_eq_true, Bool.and_eq_true, decide_eq_true_eq] at hfenced
        exact hfenced.1.1
      have hkey' : record.key = key := hkey.symm.trans (Rows.key_of_row hold)
      refine ⟨p, record, token, ?_, hkey'⟩
      rw [hpc, hid, ← hkey']
      rfl
    · left
      rw [if_neg hfenced] at hnow
      rw [← hnow]
      exact hold
  | gaveUp p hpc h =>
    left
    rw [markDeadLetter_ok h] at hr
    exact delivered_of_update (s := w.store) hr rfl (fun _ => rfl) (fun _ _ hstatus => OutboxStatus.noConfusion hstatus) hdelivered
  | retried p hpc hlimit h =>
    left
    rw [markRetry_ok h] at hr
    exact delivered_of_update (s := w.store) hr rfl (fun _ => rfl) (fun _ _ hstatus => OutboxStatus.noConfusion hstatus) hdelivered
  | @called c call hcall =>
    left
    rcases storeStep_next sha256 c call w.store with hok | ⟨e, herror⟩
    · exact delivered_of_growth (growth_of_call hcall hok) hr hdelivered
    · have hsame := eq_of_call_error herror
      have hr' : (call.next sha256 c w.store).record key = some r := hr
      rw [hsame] at hr'
      exact hr'

/-! ## The Ledger -/

/-- What a record is known by in the Ledger. -/
def ledgerIdentity (key : Text × Text) : Text × Text := (key.1, outboxLedgerEventId key.2)

/-- **A delivery** that answers: the answer is the event id of the record, an event of it is stored then, and whatever
else is stored was stored before. -/
theorem deliver_identified {ledger ledger' : LedgerStore} {writer : LedgerPrincipal} {raw : JsValue} {event : LedgerEvent}
    (hidentified : Identified ledger) (hraw : toLedgerEvent s record = .ok raw)
    (h : append sha256 now ledger writer raw = .ok (event, ledger')) :
    event.eventId = outboxLedgerEventId record.outboxId ∧ ledger.events <+: ledger'.events ∧
      (∀ e ∈ ledger'.events, e ∈ ledger.events ∨ e.identity = ledgerIdentity record.key) ∧
      (∃ e ∈ ledger'.events, e.identity = ledgerIdentity record.key) ∧ Identified ledger' := by
  obtain ⟨o, identity, ho, hsubmitted, hid, hgrows, hnew, hstored, hidentified'⟩ := append_identified hidentified h
  have hidentity := toLedgerEvent_submitted hraw ho hsubmitted
  subst hidentity
  exact ⟨hid, hgrows, hnew, hstored, hidentified'⟩

theorem ledger_of_move (h : DispatchMove sha256 dispatchers w label w') (hidentified : Identified w.ledger) :
    Identified w'.ledger ∧ w.ledger.events <+: w'.ledger.events := by
  cases h with
  | «local» | claimed | marked | gaveUp | retried | called => exact ⟨hidentified, List.prefix_rfl⟩
  | delivered p hpc hraw happend =>
    obtain ⟨-, hgrows, -, -, hidentified'⟩ := deliver_identified hidentified hraw happend
    exact ⟨hidentified', hgrows⟩
  | appended call => exact identified_run hidentified call

/-- What a delivery stores is an event of its record. -/
theorem stored_of_deliver {message : Text} (h : DispatchStep sha256 dispatchers w (.deliver p now message) w')
    (hidentified : Identified w.ledger) (hpc : w.pcs p = .delivering record token) :
    ∀ e ∈ w'.ledger.events, e ∈ w.ledger.events ∨ e.identity = ledgerIdentity record.key := by
  cases move_of_step h with
  | «local» => exact fun e he => .inl he
  | delivered p hpc' hraw happend =>
    rw [hpc] at hpc'
    cases hpc'
    exact (deliver_identified hidentified hraw happend).2.2.1

/-! ## Answers -/

/-- A delivery of a record answered with an event id, and an event of it was stored then. -/
def Answered (key : Text × Text) (eventId : Text) (_ : List (DispatchLabel P)) (w : Outreach P) (label : DispatchLabel P)
    (w' : Outreach P) : Prop :=
  ∃ p now message record token, label = .deliver p now message ∧ w.pcs p = .delivering record token ∧ record.key = key ∧
    w'.pcs p = .resolved record token eventId ∧ ∃ e ∈ w'.ledger.events, e.identity = (key.1, eventId)

theorem pcs_goto (w : Outreach P) (p q : P) (pc : DispatcherPc) : (w.goto p pc).pcs q = if q = p then pc else w.pcs q :=
  Function.update_apply _ _ _ _

theorem resolved_of_goto (hpc : pc.isResolved = false) (h : (w.goto p pc).pcs q = .resolved record token eventId) :
    w.pcs q = .resolved record token eventId := by
  rw [pcs_goto] at h
  split at h
  · rw [h] at hpc
    cases hpc
  · exact h

theorem isResolved_afterClaim (claimed : Option OutboxRecord) : (afterClaim claimed).isResolved = false := by
  unfold afterClaim
  split
  · split <;> rfl
  · rfl

/-- A dispatcher that is to mark an answer was to mark it before, or the step is the delivery that answered. -/
theorem resolved_of_move (h : DispatchMove sha256 dispatchers w label w') (hidentified : Identified w.ledger)
    (hq : w'.pcs q = .resolved record token eventId) (before : List (DispatchLabel P)) :
    w.pcs q = .resolved record token eventId ∨ Answered record.key eventId before w label w' := by
  cases h with
  | «local» p hactor hfalls => exact .inl (resolved_of_goto hfalls.isResolved hq)
  | claimed p h =>
    left
    exact resolved_of_goto (w := { w with store := _ }) (isResolved_afterClaim _) hq
  | @delivered p d now message record' token' raw event ledger hpc hraw happend =>
    have hat := hq
    rw [pcs_goto] at hat
    split at hat
    · next heq =>
      subst heq
      cases hat
      right
      obtain ⟨hid, -, -, hstored, -⟩ := deliver_identified hidentified hraw happend
      refine ⟨q, now, message, record, token, rfl, hpc, rfl, hq, ?_⟩
      rw [hid]
      exact hstored
    · exact .inl hat
  | marked p _ h =>
    left
    exact resolved_of_goto (w := { w with store := _ }) rfl hq
  | gaveUp p hpc h =>
    left
    exact resolved_of_goto (w := { w with store := _ }) rfl hq
  | retried p hpc hlimit h =>
    left
    exact resolved_of_goto (w := { w with store := _ }) rfl hq
  | called => exact .inl hq
  | appended => exact .inl hq

/-! ## Runs -/

/-- What holds in every state dispatchers reach. -/
structure Dispatched (sha256 : Text → Text) (dispatchers : P → OutboxDispatcher) (labels : List (DispatchLabel P))
    (w : Outreach P) : Prop where
  run : Run (DispatchStep sha256 dispatchers) (.initial P) labels w
  causal : Causal w.store
  identified : Identified w.ledger
  /-- An answer that is to be marked was given. -/
  resolved : ∀ p record token eventId, w.pcs p = .resolved record token eventId →
    Took (DispatchStep sha256 dispatchers) (Answered record.key eventId) (.initial P) labels w
  /-- A record that is delivered was delivered. -/
  delivered : ∀ key r, w.store.record key = some r → r.status = .delivered →
    Took (DispatchStep sha256 dispatchers) (Answered key (outboxLedgerEventId key.2)) (.initial P) labels w

theorem dispatched_initial : Dispatched sha256 dispatchers [] (.initial P) where
  run := .nil _
  causal := causal_empty
  identified := List.nodup_nil
  resolved := by
    intro p record token eventId hpc
    cases hpc
  delivered := by
    intro key r hr
    cases hr

/-- **Step**: what holds of the states that were reached holds of the next. -/
theorem Dispatched.step (h : Dispatched sha256 dispatchers labels w) (hstep : DispatchStep sha256 dispatchers w label w') :
    Dispatched sha256 dispatchers (labels ++ [label]) w' := by
  have hmove := move_of_step hstep
  constructor
  case run => exact h.run.snoc hstep
  case causal => exact causal_of_move hmove h.causal
  case identified => exact (ledger_of_move hmove h.identified).1
  case resolved =>
    intro p record token eventId hpc
    rcases resolved_of_move hmove h.identified hpc labels with hpc | hanswered
    · exact (h.resolved p record token eventId hpc).snoc hstep
    · exact h.run.took hstep hanswered
  case delivered =>
    intro key r hr hdelivered
    rcases delivered_of_move hmove hr hdelivered with hr | ⟨p, record, token, hpc, rfl⟩
    · exact (h.delivered key r hr hdelivered).snoc hstep
    · exact (h.resolved p record token _ hpc).snoc hstep

theorem dispatched_of_run (hrun : Run (DispatchStep sha256 dispatchers) (.initial P) labels w) :
    Dispatched sha256 dispatchers labels w :=
  hrun.trace_invariant (I := fun labels w => Dispatched sha256 dispatchers labels w)
    (fun _ _ _ _ hstep h => h.step hstep) dispatched_initial

/-- What was delivered or given up stays so. -/
theorem settled_of_run (hrun : Run (DispatchStep sha256 dispatchers) w labels w') (hr : w.store.record key = some r)
    (hsettled : r.settled = true) : w'.store.record key = some r :=
  hrun.invariant (I := fun w => w.store.record key = some r)
    (fun _ _ _ hstep hr => settled_of_move (move_of_step hstep) hr hsettled) hr

/-- **Dispatch**, in every state that any interleaving of dispatchers reaches: a mark under a token that is not the
record's own changes nothing; a record that was delivered or given up stays as it is; a record is delivered only after a
delivery of it answered with its event id and was stored; what a delivery stores is an event of its record; and of each
record the Ledger has one event at most. -/
theorem dispatch_of_run {labels : List (DispatchLabel P)}
    (hrun : Run (DispatchStep sha256 dispatchers) (.initial P) labels w) :
    (∀ c call key token t, call.marks key token → (∀ r, w.store.record key = some r → r.claimToken ≠ some token) →
      StoreStep sha256 w.store (c, call) t → t = w.store) ∧
    (∀ key r, w.store.record key = some r → r.status = .delivered ∨ r.status = .deadLetter →
      ∀ later w', Run (DispatchStep sha256 dispatchers) w later w' → w'.store.record key = some r) ∧
    (∀ key r, w.store.record key = some r → r.status = .delivered →
      Took (DispatchStep sha256 dispatchers) (Answered key (outboxLedgerEventId key.2)) (.initial P) labels w) ∧
    (∀ p now message record token w', w.pcs p = .delivering record token →
      DispatchStep sha256 dispatchers w (.deliver p now message) w' →
      ∀ e ∈ w'.ledger.events, e ∈ w.ledger.events ∨ e.identity = ledgerIdentity record.key) ∧
    ∀ key, w.ledger.events.countP (fun e => e.identity = ledgerIdentity key) ≤ 1 := by
  have h := dispatched_of_run hrun
  refine ⟨?_, ?_, h.delivered, ?_, fun key => h.identified.countP_le (ledgerIdentity key)⟩
  · intro c call key token t hmarks hstale hstep
    exact eq_of_stale_mark h.causal.distinct_keys hmarks hstale hstep
  · intro key r hr hstatus later w' hlater
    refine settled_of_run hlater hr ?_
    rw [OutboxRecord.settled, Bool.or_eq_true, decide_eq_true_eq, decide_eq_true_eq]
    exact hstatus
  · intro p now message record token w' hpc hstep
    exact stored_of_deliver hstep h.identified hpc

end

/-- A run of dispatchers that is replayed, with a test of the state at its end. -/
theorem dispatchRun_of_test {P : Type} [DecidableEq P] {sha256 : Text → Text} {dispatchers : P → OutboxDispatcher}
    {labels : List (DispatchLabel P)} {test : Outreach P → Bool}
    (h : (replay (dispatchStep sha256 dispatchers) (.initial P) labels).any test = true) :
    ∃ w, Run (DispatchStep sha256 dispatchers) (.initial P) labels w ∧ test w = true := by
  obtain ⟨w, hrun, htest⟩ := run_of_test h
  exact ⟨w, hrun, htest⟩

/-- A dispatcher of the tenant. -/
def sampleDispatcher (_ : Bool) : OutboxDispatcher := ⟨8, "owner", 30000, ⟨"platform", .writer, "t", [.platform]⟩⟩

/-- One dispatcher claims the record of a new action and stops after its delivery; another claims it again when the lease
has run out, delivers it again, and marks it. -/
def sampleDispatch : List (DispatchLabel Bool) :=
  [.call sampleCreation.1 sampleCreation.2, .claim false (sampleContext 1 "") "token_1", .deliver false "d1" "", .stop false,
    .claim true (sampleContext 30001 "") "token_2", .deliver true "d2" "", .mark true (sampleContext 30002 "") ""]

theorem dispatch_of_run_reclaimed :
    ∃ w, Run (DispatchStep id sampleDispatcher) (.initial Bool) sampleDispatch w ∧
      (w.store.record ("t", "ob_a")).any (fun r => r.status = .delivered && r.attemptCount = 2) = true ∧
      w.ledger.events.length = 1 ∧
      w.ledger.events.countP (fun e => e.identity = ledgerIdentity ("t", "ob_a")) ≤ 1 := by
  have hreplay : (replay (dispatchStep id sampleDispatcher) (.initial Bool) sampleDispatch).any (fun w =>
      (w.store.record ("t", "ob_a")).any (fun r => r.status = .delivered && r.attemptCount = 2) &&
        w.ledger.events.length = 1) = true := by decide +kernel
  obtain ⟨w, hrun, htest⟩ := dispatchRun_of_test hreplay
  rw [Bool.and_eq_true, decide_eq_true_eq] at htest
  obtain ⟨-, -, -, -, hone⟩ := dispatch_of_run hrun
  exact ⟨w, hrun, htest.1, htest.2, hone _⟩

end Tna.Platform
