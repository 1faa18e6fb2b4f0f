import Tna.Ledger.Sequence
import Tna.Platform.Attempts

/-!
# In the order of enqueueing

A claim takes the first record that can be claimed, so a record overtakes those before it
that wait for their backoff or are under a lease. Where no claim overtakes a record of the
same action, the events of an action are numbered in the order their records were enqueued.
-/

namespace Tna.Platform

open Tna.Js Tna.Lib Tna.Ledger

/-- The stream of the events of an action. -/
def platformStream (actionKey : Text × Text) : Text × Text := (actionKey.1, Text.ofAscii "platform:" ++ actionKey.2)

/-- An event of a record is stored in the stream of an action. -/
def StoredIn (events : List RawEventRow) (key actionKey : Text × Text) : Prop :=
  ∃ e ∈ events, e.identity = ledgerIdentity key ∧ e.stream = platformStream actionKey

/-! ## The steps that keep the order -/

/-- The first record that can be claimed has no record of its action before it that is still to be delivered. -/
def claimsInOrder (now : Nat) (outbox : List OutboxRecord) : Bool :=
  (outbox.find? (claimable now)).all fun r =>
    (outbox.takeWhile fun e => !claimable now e).all fun e => e.actionKey ≠ r.actionKey || e.settled

section
variable {P : Type} [DecidableEq P]

/-- A claim overtakes no record of its action, and nobody but a dispatcher appends an event under the id of a record
that was never claimed. -/
def DispatchLabel.InOrder (w : Outreach P) : DispatchLabel P → Prop
  | .claim _ c _ => claimsInOrder c.now w.store.outbox = true
  | .append made => ∀ o key, made.raw.asObject? = some o → submitted o (ledgerIdentity key) →
    ∃ r, w.store.record key = some r ∧ 0 < r.attemptCount
  | _ => True

/-- A step that keeps the order. -/
def OrderedStep (sha256 : Text → Text) (dispatchers : P → OutboxDispatcher) (w : Outreach P) (label : DispatchLabel P)
    (w' : Outreach P) : Prop :=
  DispatchStep sha256 dispatchers w label w' ∧ label.InOrder w

variable {sha256 : Text → Text} {dispatchers : P → OutboxDispatcher} {w w' : Outreach P} {label : DispatchLabel P}
  {key : Text × Text} {r : OutboxRecord}

/-! ## Records -/

theorem ledgerIdentity_injective {key' : Text × Text} (h : ledgerIdentity key = ledgerIdentity key') : key = key' := by
  have htenant : (ledgerIdentity key).1 = (ledgerIdentity key').1 := congrArg Prod.fst h
  have hid : (ledgerIdentity key).2 = (ledgerIdentity key').2 := congrArg Prod.snd h
  exact Prod.ext htenant (List.append_cancel_left hid)

theorem written_of_move (h : DispatchMove sha256 dispatchers w label w') (hcausal : Causal w.store) :
    w.store.written <+: w'.store.written := by
  rcases store_of_move h with hsame | ⟨l, hstep⟩
  · rw [hsame]
  · exact (causal_of_changes (effect_of_step hstep).changes hcausal).2

variable {s : DurableStore} {x y : Written} {α : Type} {r' record : OutboxRecord}

theorem written_of_record (h : s.record key = some r) : r.written ∈ s.written :=
  List.mem_map_of_mem (Rows.mem_of_row h)

/-- What a record says is known by its key. -/
theorem Causal.written_eq (hcausal : Causal s) (hx : x ∈ s.written) (hy : y ∈ s.written) (hkey : x.key = y.key) : x = y :=
  List.inj_on_of_nodup_map hcausal.distinct hx hy hkey

/-- A record stays, says what it said, and counts on; and it is counted only where it is claimed. -/
theorem kept_of_step (hstep : DispatchStep sha256 dispatchers w label w') (hcausal : Causal w.store)
    (hr : w.store.record key = some r) :
    ∃ r', w'.store.record key = some r' ∧ r'.written = r.written ∧ r.attemptCount ≤ r'.attemptCount ∧
      (r.attemptCount < r'.attemptCount →
        ∃ p c token, label = .claim p c token ∧ w.store.outbox.find? (claimable c.now) = some r) := by
  obtain ⟨r', hr', hmove, hcount⟩ := record_of_step hstep hcausal.distinct_keys hr
  have hmove' := move_of_step hstep
  refine ⟨r', hr', ?_, by omega, ?_⟩
  · have hkey : r'.written.key = r.written.key := (Rows.key_of_row hr').trans (Rows.key_of_row hr).symm
    exact (causal_of_move hmove' hcausal).written_eq (written_of_record hr')
      ((written_of_move hmove' hcausal).subset (written_of_record hr)) hkey
  · intro hlt
    cases hmove with
    | claimed p hlabel hfirst heq hpc => exact ⟨p, _, _, hlabel, hfirst⟩
    | kept heq =>
      rw [heq] at hlt
      exact absurd hlt (Nat.lt_irrefl _)
    | settled _ hsame => omega
    | retried _ _ _ _ _ hsame => omega
    | recovered _ _ _ hsame => omega

/-! ## Two records, one before the other -/

/-- A pair in a list is in its first part where its second element is. -/
theorem pair_of_append {x y : α} {l new : List α} (hdistinct : (l ++ new).Nodup) (hy : y ∈ l) (h : [x, y].Sublist (l ++ new)) :
    [x, y].Sublist l := by
  have hnot : y ∉ new := fun hnew => (List.nodup_append.1 hdistinct).2.2 y hy y hnew rfl
  obtain ⟨l₁, l₂, heq, hl, hnew⟩ := List.sublist_append_iff.1 h
  rcases List.eq_nil_or_concat l₂ with rfl | ⟨l₃, z, rfl⟩
  · rw [List.append_nil] at heq
    rw [heq]
    exact hl
  · have hlast : l₁ ++ l₃ ++ [z] = [x] ++ [y] := by
      rw [List.append_assoc, ← List.concat_eq_append, ← heq]
      rfl
    have hz : z = y := List.singleton_injective (List.append_inj' hlast rfl).2
    refine absurd (hnew.subset ?_) hnot
    rw [← hz, List.concat_eq_append]
    exact List.mem_append_right _ (List.mem_singleton_self z)

/-- What is before an element of a list. -/
theorem mem_of_pair {x y : α} {before after : List α} (hdistinct : (before ++ y :: after).Nodup)
    (h : [x, y].Sublist (before ++ y :: after)) : x ∈ before := by
  have hsame : before ++ y :: after = (before ++ [y]) ++ after := by rw [List.append_assoc, List.singleton_append]
  rw [hsame] at h hdistinct
  have hpair := pair_of_append hdistinct (List.mem_append_right _ (List.mem_singleton_self y)) h
  have hnot : x ≠ y := by
    rintro rfl
    have hnodup := (List.nodup_append.1 hdistinct).1.sublist hpair
    simp at hnodup
  have hmem := hpair.subset (List.mem_cons_self ..)
  exact (List.mem_append.1 hmem).resolve_right fun hx => hnot (List.mem_singleton.1 hx)

/-- Where a claim is in order, the records before the one it takes are settled. -/
theorem settled_of_claimsInOrder (hcausal : Causal s) {now : Nat} (hin : claimsInOrder now s.outbox = true)
    (hfirst : s.outbox.find? (claimable now) = some r') (hr : r ∈ s.outbox) (hpair : [r.written, r'.written].Sublist s.written)
    (haction : r.actionKey = r'.actionKey) : r.settled = true := by
  obtain ⟨hclaimable, before, after, hsplit, hnot⟩ := List.find?_eq_some_iff_append.1 hfirst
  have hbefore : s.outbox.takeWhile (fun e => !claimable now e) = before := by
    rw [hsplit, List.takeWhile_append_of_pos fun e he => hnot e he]
    simp [hclaimable]
  rw [claimsInOrder, hfirst, Option.all_some, hbefore, List.all_eq_true] at hin
  have hwritten : s.written = before.map OutboxRecord.written ++ r'.written :: after.map OutboxRecord.written := by
    rw [DurableStore.written, hsplit, List.map_append, List.map_cons]
  have hdistinct : s.written.Nodup := hcausal.distinct.of_map _
  rw [hwritten] at hpair hdistinct
  obtain ⟨e, he, hsame⟩ := List.mem_map.1 (mem_of_pair hdistinct hpair)
  have hkey : e.key = r.key := congrArg Written.key hsame
  have heq : e = r := by
    have hmem : e ∈ s.outbox := by
      rw [hsplit]
      exact List.mem_append_left _ he
    exact List.inj_on_of_nodup_map hcausal.distinct_keys hmem hr hkey
  subst heq
  have hsettled := hin e he
  rw [Bool.or_eq_true, decide_eq_true_eq] at hsettled
  exact hsettled.resolve_left fun hne => hne haction

/-! ## Events -/

/-- The event of a delivery that answers is in the stream of the action. -/
theorem storedIn_of_deliver {ledger ledger' : LedgerStore} {now : Text} {writer : LedgerPrincipal} {raw : JsValue}
    {event : LedgerEvent} (hraw : toLedgerEvent s record = .ok raw)
    (h : append sha256 now ledger writer raw = .ok (event, ledger')) : StoredIn ledger'.events record.key record.actionKey := by
  obtain ⟨input, hinput, -, -, happend⟩ := append_ok h
  obtain ⟨o, ho, hsubmitted⟩ := validateEventInput_submitted hinput
  have hidentity := toLedgerEvent_submitted hraw ho hsubmitted
  obtain ⟨e, he, hid, hstream⟩ := stream_of_append happend
  refine ⟨e, he, hid.trans hidentity, hstream.trans ?_⟩
  have hsubmittedStream := validateEventInput_stream ho hinput
  unfold toLedgerEvent at hraw
  split at hraw
  · cases hraw
  · next action haction =>
    split at hraw
    · cases hraw
    · cases hraw
      cases ho
      have hactionKey := key_of_row haction
      have hvalue : Value.str (Text.ofAscii "platform:" ++ action.platformActionId) = .str input.streamId := hsubmittedStream
      have hstreamId : Text.ofAscii "platform:" ++ action.platformActionId = input.streamId := Value.str.inj hvalue
      have haction : action.platformActionId = record.platformActionId := congrArg Prod.snd hactionKey
      have htenant : input.tenantId = record.tenantId := congrArg Prod.fst hidentity
      rw [platformStream, ← hstreamId, haction, htenant]
      rfl

theorem StoredIn.mono {events events' : List RawEventRow} {actionKey : Text × Text} (h : StoredIn events key actionKey)
    (hgrows : events <+: events') : StoredIn events' key actionKey := by
  obtain ⟨e, he, hid⟩ := h
  exact ⟨e, hgrows.subset he, hid⟩

/-- What a step stores under the id of a record is an event of a record that was claimed. -/
theorem started_of_step (hstep : OrderedStep sha256 dispatchers w label w') (hidentified : Identified w.ledger)
    (hheld : ∀ p record token, (w.pcs p).held = some (record, token) →
      ∃ r, w.store.record record.key = some r ∧ 0 < r.attemptCount)
    {e : RawEventRow} (he : e ∈ w'.ledger.events) (hid : e.identity = ledgerIdentity key) :
    e ∈ w.ledger.events ∨ ∃ r, w.store.record key = some r ∧ 0 < r.attemptCount := by
  obtain ⟨hstep, hin⟩ := hstep
  cases move_of_step hstep with
  | «local» | claimed | marked | gaveUp | retried | called => exact .inl he
  | @delivered p d now message record token raw event ledger hpc hraw happend =>
    rcases (deliver_identified hidentified hraw happend).2.2.1 e he with hold | hnew
    · exact .inl hold
    · right
      have hkey : record.key = key := ledgerIdentity_injective (hnew.symm.trans hid)
      rw [← hkey]
      refine hheld p record token ?_
      rw [hpc]
      rfl
  | appended call =>
    rcases AppendCall.run_events sha256 w.ledger call with hsame | ⟨input, hinput, -, -, hgrown⟩
    · have he : e ∈ (call.run sha256 w.ledger).events := he
      rw [hsame] at he
      exact .inl he
    · have he : e ∈ (call.run sha256 w.ledger).events := he
      rw [hgrown] at he
      rcases List.mem_append.1 he with hold | hnew
      · exact .inl hold
      · right
        obtain ⟨o, ho, hsubmitted⟩ := validateEventInput_submitted hinput
        refine hin o key ho ?_
        rw [← hid, List.mem_singleton.1 hnew]
        exact hsubmitted

theorem sequenced_of_move (h : DispatchMove sha256 dispatchers w label w') (hsequenced : Sequenced w.ledger) :
    Sequenced w'.ledger := by
  cases h with
  | «local» | claimed | marked | gaveUp | retried | called => exact hsequenced
  | delivered p hpc hraw happend =>
    obtain ⟨input, -, -, -, h⟩ := append_ok happend
    exact hsequenced.append h
  | appended call => exact hsequenced.run call

/-- Where an answer is to be marked, an event of the record is stored. -/
theorem resolved_of_step (hstep : DispatchStep sha256 dispatchers w label w') (hidentified : Identified w.ledger) {p : P}
    {token eventId : Text} (hpc : w'.pcs p = .resolved record token eventId) :
    w.pcs p = .resolved record token eventId ∨ StoredIn w'.ledger.events record.key record.actionKey := by
  rcases resolved_of_move (move_of_step hstep) hidentified hpc [] with hbefore | ⟨q, now, message, record', token', rfl,
      hdelivering, hkey, hresolved, -⟩
  · exact .inl hbefore
  · cases move_of_step hstep with
    | @«local» _ q' hactor pc hfalls =>
      cases hactor
      rw [pcs_goto, if_pos rfl] at hresolved
      rw [hresolved] at hfalls
      exact hfalls.elim
    | @delivered _ d _ _ record'' token'' raw event ledger hpc' hraw happend =>
      rw [pcs_goto] at hpc
      split at hpc
      · cases hpc
        exact .inr (storedIn_of_deliver hraw happend)
      · exact .inl hpc

/-! ## Runs -/

/-- What holds of the states that are reached by steps that keep the order. -/
structure Ordered (w : Outreach P) : Prop where
  causal : Causal w.store
  identified : Identified w.ledger
  sequenced : Sequenced w.ledger
  /-- Events are stored of records that were claimed. -/
  started : ∀ key, (∃ e ∈ w.ledger.events, e.identity = ledgerIdentity key) →
    ∃ r, w.store.record key = some r ∧ 0 < r.attemptCount
  held : ∀ p record token, (w.pcs p).held = some (record, token) →
    ∃ r, w.store.record record.key = some r ∧ 0 < r.attemptCount ∧ r.actionKey = record.actionKey
  resolved : ∀ p record token eventId, w.pcs p = .resolved record token eventId →
    StoredIn w.ledger.events record.key record.actionKey
  delivered : ∀ key r, w.store.record key = some r → r.status = .delivered → StoredIn w.ledger.events key r.actionKey
  /-- When a record was first claimed, those of its action before it were settled, and those of them that were
  delivered were stored. -/
  ordered : ∀ x y, [x, y].Sublist w.store.written → x.actionKey = y.actionKey →
    ∀ r r', w.store.record x.key = some r → w.store.record y.key = some r' → 0 < r'.attemptCount →
    r.settled = true ∧ (r.status = .delivered → ∃ before, before <+: w.ledger.events ∧
      StoredIn before x.key x.actionKey ∧ ∀ e ∈ before, e.identity ≠ ledgerIdentity y.key)

omit [DecidableEq P] in
theorem ordered_initial : Ordered (.initial P) where
  causal := causal_empty
  identified := List.nodup_nil
  sequenced := sequenced_empty
  started := by
    rintro key ⟨e, he, -⟩
    cases he
  held := by
    intro p record token hheld
    cases hheld
  resolved := by
    intro p record token eventId hpc
    cases hpc
  delivered := by
    intro key r hr
    cases hr
  ordered := by
    intro x y hpair
    cases hpair

/-- The order of two records that is kept by a step. -/
theorem Ordered.ordered_step (h : Ordered w) (hstep : OrderedStep sha256 dispatchers w label w')
    (hpair : [x, y].Sublist w'.store.written) (haction : x.actionKey = y.actionKey) (hr : w'.store.record x.key = some r)
    (hr' : w'.store.record y.key = some r') (hclaimed : 0 < r'.attemptCount) :
    r.settled = true ∧ (r.status = .delivered → ∃ before, before <+: w'.ledger.events ∧
      StoredIn before x.key x.actionKey ∧ ∀ e ∈ before, e.identity ≠ ledgerIdentity y.key) := by
  obtain ⟨hstep, hin⟩ := hstep
  have hmove := move_of_step hstep
  have hgrows := (ledger_of_move hmove h.identified).2
  have hcausal' := causal_of_move hmove h.causal
  obtain ⟨new, hnew⟩ := written_of_move hmove h.causal
  have hdistinct : (w.store.written ++ new).Nodup := by
    rw [hnew]
    exact hcausal'.distinct.of_map _
  -- the later record was there before the step, for a record that is new was never claimed
  obtain ⟨s', hs'⟩ : ∃ s', w.store.record y.key = some s' := by
    cases hs' : w.store.record y.key with
    | some s' => exact ⟨s', rfl⟩
    | none =>
      have huntried := (absent_of_step hstep h.causal.distinct_keys hs').2 r' hr'
      rw [huntried.2] at hclaimed
      exact absurd hclaimed (Nat.lt_irrefl 0)
  have hy : s'.written = y := by
    have hkey : s'.key = y.key := Rows.key_of_row hs'
    refine hcausal'.written_eq ?_ (hpair.subset (by simp)) hkey
    rw [← hnew]
    exact List.mem_append_left _ (written_of_record hs')
  have hbefore : [x, y].Sublist w.store.written := by
    rw [← hnew] at hpair
    refine pair_of_append hdistinct ?_ hpair
    rw [← hy]
    exact written_of_record hs'
  -- and so was the earlier one
  obtain ⟨s, hs, hx⟩ : ∃ s, w.store.record x.key = some s ∧ s.written = x := by
    obtain ⟨s, hs, rfl⟩ := List.mem_map.1 (hbefore.subset (List.mem_cons_self ..))
    exact ⟨s, Rows.row_of_mem h.causal.distinct_keys hs, rfl⟩
  obtain ⟨s'', hs'', -, -, hcounted⟩ := kept_of_step hstep h.causal hs'
  rw [hr'] at hs''
  cases hs''
  by_cases hpos : 0 < s'.attemptCount
  · obtain ⟨hsettled, hstored⟩ := h.ordered x y hbefore haction s s' hs hs' hpos
    have hsame := settled_of_move hmove hs hsettled
    rw [hr] at hsame
    cases hsame
    refine ⟨hsettled, fun hdelivered => ?_⟩
    obtain ⟨before, hearlier, hstoredIn, hnot⟩ := hstored hdelivered
    exact ⟨before, hearlier.trans hgrows, hstoredIn, hnot⟩
  · obtain ⟨p, c, token, rfl, hfirst⟩ := hcounted (by omega)
    have hsettled : s.settled = true := by
      refine settled_of_claimsInOrder h.causal hin hfirst (Rows.mem_of_row hs) ?_ ?_
      · rw [hx, hy]
        exact hbefore
      · have hxa : s.actionKey = x.actionKey := congrArg Written.actionKey hx
        have hya : s'.actionKey = y.actionKey := congrArg Written.actionKey hy
        rw [hxa, hya, haction]
    have hsame := settled_of_move hmove hs hsettled
    rw [hr] at hsame
    cases hsame
    refine ⟨hsettled, fun hdelivered => ⟨w.ledger.events, hgrows, ?_, ?_⟩⟩
    · have hstored := h.delivered x.key r hs hdelivered
      have hxa : r.actionKey = x.actionKey := congrArg Written.actionKey hx
      rw [hxa] at hstored
      exact hstored
    · intro e he hid
      obtain ⟨s'', hs'', hstarted⟩ := h.started y.key ⟨e, he, hid⟩
      rw [hs'] at hs''
      cases hs''
      exact hpos hstarted

theorem actionKey_of_written (h : r.written = r'.written) : r.actionKey = r'.actionKey :=
  congrArg Written.actionKey h

/-- **Step**: a step that keeps the order. -/
theorem Ordered.step (h : Ordered w) (hstep : OrderedStep sha256 dispatchers w label w') : Ordered w' := by
  have hmove := move_of_step hstep.1
  obtain ⟨hidentified', hgrows⟩ := ledger_of_move hmove h.identified
  have hkept : ∀ {key r}, w.store.record key = some r →
      ∃ r', w'.store.record key = some r' ∧ r'.written = r.written ∧ r.attemptCount ≤ r'.attemptCount := by
    intro key r hr
    obtain ⟨r', hr', hwritten, hcount, -⟩ := kept_of_step hstep.1 h.causal hr
    exact ⟨r', hr', hwritten, hcount⟩
  constructor
  case causal => exact causal_of_move hmove h.causal
  case identified => exact hidentified'
  case sequenced => exact sequenced_of_move hmove h.sequenced
  case started =>
    rintro key ⟨e, he, hid⟩
    have hheld : ∀ p record token, (w.pcs p).held = some (record, token) →
        ∃ r, w.store.record record.key = some r ∧ 0 < r.attemptCount := by
      intro p record token hheld
      obtain ⟨r, hr, hpos, -⟩ := h.held p record token hheld
      exact ⟨r, hr, hpos⟩
    have hbefore : ∃ r, w.store.record key = some r ∧ 0 < r.attemptCount := by
      rcases started_of_step hstep h.identified hheld he hid with hold | hstarted
      · exact h.started key ⟨e, hold, hid⟩
      · exact hstarted
    obtain ⟨r, hr, hpos⟩ := hbefore
    obtain ⟨r', hr', -, hcount⟩ := hkept hr
    exact ⟨r', hr', hpos.trans_le hcount⟩
  case held =>
    intro p record token hheld
    rcases held_of_step hstep.1 hheld with hbefore | ⟨c, row, ownerId, leaseMs, rfl, hfirst, rfl, hpc⟩
    · obtain ⟨r, hr, hpos, haction⟩ := h.held p record token hbefore
      obtain ⟨r', hr', hwritten, hcount⟩ := hkept hr
      exact ⟨r', hr', hpos.trans_le hcount, (actionKey_of_written hwritten).trans haction⟩
    · have hrow := Rows.row_of_mem h.causal.distinct_keys (List.mem_of_find?_eq_some hfirst)
      obtain ⟨r', hr', hwritten, -⟩ := hkept hrow
      obtain ⟨r'', hr'', -, hcount⟩ := record_of_step hstep.1 h.causal.distinct_keys hrow
      rw [hr'] at hr''
      cases hr''
      refine ⟨r', hr', ?_, actionKey_of_written hwritten⟩
      have hdelivers : (DispatcherPc.delivering (row.claimed c.now ownerId token leaseMs) token).delivers row.key = true :=
        decide_eq_true rfl
      simp only [claimants, hpc, hdelivers, if_true, List.length_singleton] at hcount
      omega
  case resolved =>
    intro p record token eventId hpc
    rcases resolved_of_step hstep.1 h.identified hpc with hbefore | hstored
    · exact (h.resolved p record token eventId hbefore).mono hgrows
    · exact hstored
  case delivered =>
    intro key r hr hdelivered
    rcases delivered_of_move hmove hr hdelivered with hbefore | ⟨p, record, token, hpc, rfl⟩
    · exact (h.delivered key r hbefore hdelivered).mono hgrows
    · have hheld : (w.pcs p).held = some (record, token) := by
        rw [hpc]
        rfl
      obtain ⟨r₀, hr₀, -, haction⟩ := h.held p record token hheld
      obtain ⟨r', hr', hwritten, -⟩ := hkept hr₀
      rw [hr] at hr'
      cases hr'
      rw [actionKey_of_written hwritten, haction]
      exact (h.resolved p record token _ hpc).mono hgrows
  case ordered =>
    intro x y hpair haction r r' hr hr' hclaimed
    exact h.ordered_step hstep hpair haction hr hr' hclaimed

theorem ordered_of_run {labels : List (DispatchLabel P)}
    (hrun : Run (OrderedStep sha256 dispatchers) (.initial P) labels w) : Ordered w :=
  hrun.invariant (fun _ _ _ hstep h => h.step hstep) ordered_initial

/-- **The order of enqueueing**: where the steps of a run keep the order, of two records of one action that are delivered
the one that was enqueued first has the smaller sequence, in the stream of the action. -/
theorem order_of_run {labels : List (DispatchLabel P)} (hrun : Run (OrderedStep sha256 dispatchers) (.initial P) labels w)
    {r r' : OutboxRecord} (hpair : [r, r'].Sublist w.store.outbox) (haction : r.actionKey = r'.actionKey)
    (hdelivered : r.status = .delivered) (hdelivered' : r'.status = .delivered) :
    (∃ e ∈ w.ledger.events, e.identity = ledgerIdentity r.key) ∧ (∃ e' ∈ w.ledger.events, e'.identity = ledgerIdentity r'.key) ∧
    ∀ e ∈ w.ledger.events, ∀ e' ∈ w.ledger.events, e.identity = ledgerIdentity r.key → e'.identity = ledgerIdentity r'.key →
      e.stream = platformStream r.actionKey ∧ e'.stream = platformStream r.actionKey ∧ e.sequence < e'.sequence := by
  have h := ordered_of_run hrun
  have hr := Rows.row_of_mem h.causal.distinct_keys (hpair.subset (List.mem_cons_self ..))
  have hr' := Rows.row_of_mem h.causal.distinct_keys (hpair.subset (by simp : r' ∈ [r, r']))
  obtain ⟨e₀', he₀', hid₀', hstream₀'⟩ := h.delivered r'.key r' hr' hdelivered'
  obtain ⟨r'', hr'', hclaimed⟩ := h.started r'.key ⟨e₀', he₀', hid₀'⟩
  rw [DurableStore.record, hr'] at hr''
  cases hr''
  have hwritten : [r.written, r'.written].Sublist w.store.written := hpair.map OutboxRecord.written
  obtain ⟨-, hstored⟩ := h.ordered r.written r'.written hwritten haction r r' hr hr' hclaimed
  obtain ⟨before, hearlier, ⟨e₀, he₀, hid₀, hstream₀⟩, hnot⟩ := hstored hdelivered
  refine ⟨⟨e₀, hearlier.subset he₀, hid₀⟩, ⟨e₀', he₀', hid₀'⟩, ?_⟩
  intro e he e' he' hid hid'
  have hsame : e = e₀ := List.inj_on_of_nodup_map h.identified he (hearlier.subset he₀) (hid.trans hid₀.symm)
  have hsame' : e' = e₀' := List.inj_on_of_nodup_map h.identified he' he₀' (hid'.trans hid₀'.symm)
  subst hsame hsame'
  rw [← haction] at hstream₀'
  exact ⟨hstream₀, hstream₀', h.sequenced.lt hearlier he₀ he' (fun hin => hnot e' hin hid') (hstream₀.trans hstream₀'.symm)⟩

end

/-! ## Two records of one action -/

/-- An action with two records. -/
def twoRecords : List (DispatchLabel Bool) :=
  [.call sampleCreation.1 sampleCreation.2,
    .call (sampleContext 1 "b") (.transition "t" "pa_1" 0 .authorizing "PLATFORM_ACTION_STATE_CHANGED" true)]

/-- A dispatcher claims, delivers and marks the next record. -/
def delivery (p : Bool) (now : Nat) (token : Text) : List (DispatchLabel Bool) :=
  [.claim p (sampleContext now "") token, .deliver p "d" "", .mark p (sampleContext now "") ""]

/-- The oldest record due is the one that is claimed, and nobody else appends. -/
def claimedInOrder (w : Outreach Bool) : DispatchLabel Bool → Bool
  | .claim _ c _ => claimsInOrder c.now w.store.outbox
  | .append _ => false
  | _ => true

/-- Two records of an action are delivered, and the events are those of the records. -/
def deliveredBoth (w : Outreach Bool) : Bool :=
  match w.store.outbox, w.ledger.events with
  | [r, r'], [e, e'] => r.actionKey = r'.actionKey && r.status = .delivered && r'.status = .delivered &&
      e.identity = ledgerIdentity r.key && e'.identity = ledgerIdentity r'.key
  | _, _ => false

theorem order_of_run_two :
    ∃ w r r' e e', Run (OrderedStep id sampleDispatcher) (.initial Bool) (twoRecords ++ delivery false 2 "1" ++ delivery true 3 "2") w ∧
      w.store.outbox = [r, r'] ∧ w.ledger.events = [e, e'] ∧ e.sequence < e'.sequence := by
  have hreplay : (replay (fun (w : Outreach Bool) label =>
      if claimedInOrder w label = true then dispatchStep id sampleDispatcher w label else none) (.initial Bool)
      (twoRecords ++ delivery false 2 "1" ++ delivery true 3 "2")).any deliveredBoth = true := by
    decide +kernel
  obtain ⟨w, hrun, htest⟩ := run_of_guarded_test hreplay
  have hordered : Run (OrderedStep id sampleDispatcher) (.initial Bool) (twoRecords ++ delivery false 2 "1" ++ delivery true 3 "2") w := by
    refine hrun.mono fun u label v hstep => ⟨hstep.1, ?_⟩
    cases label with
    | claim => exact hstep.2
    | append => cases hstep.2
    | _ => trivial
  unfold deliveredBoth at htest
  split at htest
  · next r r' e e' hrecords hevents =>
    simp only [Bool.and_eq_true, decide_eq_true_eq] at htest
    obtain ⟨⟨⟨⟨haction, hr⟩, hr'⟩, hid⟩, hid'⟩ := htest
    obtain ⟨-, -, hsequences⟩ := order_of_run hordered (by rw [hrecords]) haction hr hr'
    rw [hevents] at hsequences
    exact ⟨w, r, r', e, e', hordered, hrecords, hevents, (hsequences e (by simp) e' (by simp) hid hid').2.2⟩
  · cases htest

/-- The first delivery of the first record is lost, and the second record is delivered before it is tried again. -/
def overtakingDispatch : List (DispatchLabel Bool) :=
  twoRecords ++ [.claim false (sampleContext 2 "") "1", .lose false "unavailable", .mark false (sampleContext 2 "") ""] ++
    delivery true 3 "2" ++ delivery false 2000 "3"

/-- The second of two records of an action was stored before the first. -/
def overtook (w : Outreach Bool) : Bool :=
  match w.store.outbox, w.ledger.events with
  | [r, r'], [e', e] => r.actionKey = r'.actionKey && r.status = .delivered && r'.status = .delivered &&
      e.identity = ledgerIdentity r.key && e'.identity = ledgerIdentity r'.key && e'.sequence < e.sequence
  | _, _ => false

/-- Then the second record has the smaller sequence. -/
theorem order_of_run_overtaken :
    ¬ ∀ labels w, Run (DispatchStep id sampleDispatcher) (.initial Bool) labels w →
      ∀ r r', [r, r'].Sublist w.store.outbox → r.actionKey = r'.actionKey → r.status = .delivered → r'.status = .delivered →
      ∀ e ∈ w.ledger.events, ∀ e' ∈ w.ledger.events, e.identity = ledgerIdentity r.key → e'.identity = ledgerIdentity r'.key →
        e.sequence < e'.sequence := by
  intro h
  have hreplay : (replay (dispatchStep id sampleDispatcher) (.initial Bool) overtakingDispatch).any overtook = true := by
    decide +kernel
  obtain ⟨w, hrun, htest⟩ := dispatchRun_of_test hreplay
  unfold overtook at htest
  split at htest
  · next r r' e' e hrecords hevents =>
    simp only [Bool.and_eq_true, decide_eq_true_eq] at htest
    obtain ⟨⟨⟨⟨⟨haction, hr⟩, hr'⟩, hid⟩, hid'⟩, hlt⟩ := htest
    have hforward := h _ w hrun r r' (by rw [hrecords]) haction hr hr' e (by simp [hevents]) e' (by simp [hevents]) hid hid'
    exact absurd hforward (Nat.not_lt_of_gt hlt)
  · cases htest

end Tna.Platform
