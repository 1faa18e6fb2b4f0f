import Tna.Ledger.Ordered
import Tna.Lib.Ordered
import Tna.Lib.Transition

/-!
# Reading while others append

A reader asks for one page after another, and between two requests anyone may append. A cursor
counts the rows that were read. So an event that is put before rows that were read moves the last
of these behind the cursor, and it is read again. Time does not go back, so this takes an event
received at the same time as one that was read, in a stream that comes first.
-/

namespace Tna.Ledger

open Tna.Js Tna.Lib

/-! ## The reader and the writers -/

/-- A store, its clock, and what one reader has been given so far. -/
structure Reading where
  store : LedgerStore
  clock : Text
  delivered : List LedgerEvent
  /-- The cursor of the next request, until the last page was given. -/
  pending : Option (Option Text)

/-- Before the first request. -/
def Reading.start (store : LedgerStore) (clock : Text) : Reading := ⟨store, clock, [], some none⟩

inductive ReadLabel where
  | append (call : AppendCall)
  | request

/-- Someone appends at a time that is not before the last one, or the reader follows its cursor. -/
inductive ReadStep (sha256 : Text → Text) (tenantId : Text) (filters : Filters) (limit : Limit) : Reading → ReadLabel → Reading → Prop where
  | append {w : Reading} (call : AppendCall) (hclock : w.clock ≤ call.now) :
      ReadStep sha256 tenantId filters limit w (.append call) { w with store := call.run sha256 w.store, clock := call.now }
  | request {w : Reading} {cursor : Option Text} {p : Page} (hpending : w.pending = some cursor)
      (hpage : search offsetCursors w.store tenantId filters limit cursor = .ok p) :
      ReadStep sha256 tenantId filters limit w .request
        { w with delivered := w.delivered ++ p.items, pending := p.nextCursor.map some }

/-- What is claimed of a reader, since a store: its requests are answered, it was given no event twice, and after the last page
it was given every event of that store that matches. -/
structure SeenOnce (tenantId : Text) (filters : Filters) (limit : Limit) (since : LedgerStore) (w : Reading) : Prop where
  answered : ∀ cursor, w.pending = some cursor → ∃ p, search offsetCursors w.store tenantId filters limit cursor = .ok p
  notRepeated : (w.delivered.map fun e => e.eventId).Nodup
  notSkipped : w.pending = none → ∀ row ∈ since.events, row.tenantId = tenantId → filters.admits row = true →
    ∃ e ∈ w.delivered, ReadAs row e

/-! ## The condition -/

/-- The call stores the input: it is valid, it may be written, and it is new. -/
structure AppendCall.Adds (s : LedgerStore) (c : AppendCall) (input : LedgerEventInput) : Prop where
  valid : validateEventInput c.raw = .ok input
  allowed : assertCanWrite c.principal input = .ok ()
  preceded : assertInvariants s input = .ok ()
  isNew : s.rowByEventId input.tenantId input.eventId = none

/-- **The condition** on a step: while the reader is under way, an event that matches is not put before one that was given. No
event that was given has been received at the time of the append in a stream that comes after its own. -/
def LandsBehind (sha256 : Text → Text) (tenantId : Text) (filters : Filters) (w : Reading) : ReadLabel → Prop
  | .append call => w.pending ≠ none → ∀ input, call.Adds w.store input → input.tenantId = tenantId →
      filters.admits (freshRow sha256 call.now w.store input) = true →
      ∀ e ∈ w.delivered, e.receivedAt = call.now → e.streamId ≤ input.streamId
  | .request => True

/-! ## One append -/

section
variable {sha256 : Text → Text} {s : LedgerStore} {tenantId : Text} {filters : Filters}

/-- A call stores nothing, or what it adds. -/
theorem AppendCall.run_adds (sha256 : Text → Text) (s : LedgerStore) (c : AppendCall) :
    c.run sha256 s = s ∨ ∃ input, c.Adds s input ∧ (c.run sha256 s).events = s.events ++ [freshRow sha256 c.now s input] := by
  unfold AppendCall.run
  split
  · next e t happend =>
    obtain ⟨input, hvalid, hallowed, hpreceded, h⟩ := append_ok happend
    rcases append_cases h with rfl | rfl
    · exact .inl rfl
    · refine .inr ⟨input, ⟨hvalid, hallowed, hpreceded, ?_⟩, upsertHead_events ..⟩
      rcases (append_events h).2 with ⟨hsame, -⟩ | ⟨row, hidentity, hnew, -⟩
      · rw [upsertHead_events] at hsame
        exact absurd hsame (by simp)
      · refine List.find?_eq_none.2 fun r hr hsame => hnew r hr ?_
        rw [hidentity]
        exact Prod.ext (of_decide_eq_true hsame).1 (of_decide_eq_true hsame).2
  · exact .inl rfl

/-- Rows of a tenant with one place in the order of pages are the same. -/
theorem Identified.rowLe_antisymm (h : Identified s) {a b : RawEventRow} (ha : a ∈ s.events) (hb : b ∈ s.events)
    (htenant : a.tenantId = b.tenantId) (hab : rowLe a b) (hba : rowLe b a) : a = b :=
  List.inj_on_of_nodup_map h ha hb (Prod.ext htenant (Tna.Ledger.rowLe_antisymm hab hba))

variable {row : RawEventRow} {t : LedgerStore}

/-- An event that matches is put into what is queried, any other changes nothing of it. -/
theorem queried_append (hidentified : Identified t) (h : t.events = s.events ++ [row]) :
    queried t tenantId filters =
      if row.tenantId = tenantId ∧ filters.admits row = true then (queried s tenantId filters).orderedInsert rowLe row
      else queried s tenantId filters := by
  unfold queried
  rw [h, List.filter_append]
  split
  · next hmatches =>
    have hput : List.filter (fun r => decide (r.tenantId = tenantId ∧ filters.admits r = true)) [row] = [row] :=
      List.filter_eq_self.2 (List.forall_mem_singleton.2 (decide_eq_true hmatches))
    rw [hput]
    refine insertionSort_append_singleton ?_
    have hstored : ∀ a ∈ (s.events.filter fun r => r.tenantId = tenantId ∧ filters.admits r = true) ++ [row],
        a ∈ t.events ∧ a.tenantId = tenantId := by
      intro a ha
      rw [h]
      rcases List.mem_append.1 ha with ha | ha
      · exact ⟨List.mem_append_left _ (List.mem_filter.1 ha).1, (of_decide_eq_true (List.mem_filter.1 ha).2).1⟩
      · rw [List.mem_singleton.1 ha]
        exact ⟨List.mem_append_right _ (List.mem_singleton_self row), hmatches.1⟩
    intro a ha b hb
    obtain ⟨ha, htenant⟩ := hstored a ha
    obtain ⟨hb, htenant'⟩ := hstored b hb
    exact hidentified.rowLe_antisymm ha hb (htenant.trans htenant'.symm)
  · next hother =>
    have hleft : List.filter (fun r => decide (r.tenantId = tenantId ∧ filters.admits r = true)) [row] = [] :=
      List.filter_eq_nil_iff.2 (List.forall_mem_singleton.2 fun h => hother (of_decide_eq_true h))
    rw [hleft, List.append_nil]

theorem queried_subset (hgrows : s.events ⊆ t.events) (h : row ∈ queried s tenantId filters) :
    row ∈ queried t tenantId filters := by
  obtain ⟨hmem, hmatches⟩ := mem_queried.1 h
  exact mem_queried.2 ⟨hgrows hmem, hmatches⟩

theorem toLedgerEvent_received {e : LedgerEvent} (h : ReadAs row e) :
    e.receivedAt = row.receivedAt ∧ e.streamId = row.streamId := by
  unfold ReadAs toLedgerEvent at h
  simp only [Option.bind_eq_bind, Option.bind_eq_some_iff, Option.some.injEq] at h
  obtain ⟨_, -, _, -, _, -, _, -, _, -, _, -, rfl⟩ := h
  exact ⟨rfl, rfl⟩

/-- An id is that of one row of a query. -/
theorem Identified.ids_queried (h : Identified s) : ((queried s tenantId filters).map RawEventRow.eventId).Nodup := by
  have hrows : (queried s tenantId filters).Nodup :=
    (List.perm_insertionSort rowLe _).nodup_iff.2 ((List.Nodup.of_map _ h).filter _)
  refine hrows.map_on fun a ha b hb hid => ?_
  obtain ⟨ha, htenant, -⟩ := mem_queried.1 ha
  obtain ⟨hb, htenant', -⟩ := mem_queried.1 hb
  exact List.inj_on_of_nodup_map h ha hb (Prod.ext (htenant.trans htenant'.symm) hid)

end

/-! ## What every run keeps -/

/-- The rows that were given, in a store: while there is a cursor they are those that it counts, and after the last page all that
matched at the start are among them. -/
def Given (tenantId : Text) (filters : Filters) (since s : LedgerStore) (rows : List RawEventRow) : Option (Option Text) → Prop
  | some cursor => ∃ k, offsetCursors.decodeCursor cursor = .ok k ∧ k ≤ (queried s tenantId filters).length ∧
      rows = (queried s tenantId filters).take k
  | none => queried since tenantId filters ⊆ rows

structure Accounted (tenantId : Text) (filters : Filters) (since : LedgerStore) (w : Reading) : Prop where
  identified : Identified w.store
  sequenced : Sequenced w.store
  readable : Readable w.store
  received : ∀ row ∈ w.store.events, row.receivedAt ≤ w.clock
  grown : since.events ⊆ w.store.events
  given : ∃ rows, List.Forall₂ ReadAs rows w.delivered ∧ (rows.map RawEventRow.eventId).Nodup ∧
    Given tenantId filters since w.store rows w.pending

section
variable {sha256 : Text → Text} {tenantId : Text} {filters : Filters} {limit : Limit} {bounded : ℕ} {since : LedgerStore}
  {w w' : Reading}

variable {call : AppendCall} {s : LedgerStore} {clock : Text} {calls : List AppendCall}

/-- An event is not put before one that was given. -/
theorem not_rowLe_of_landsBehind {input : LedgerEventInput} (hw : Accounted tenantId filters since w)
    (hsequenced : Sequenced (call.run sha256 w.store)) (hclock : w.clock ≤ call.now)
    (hgrown : (call.run sha256 w.store).events = w.store.events ++ [freshRow sha256 call.now w.store input]) {row : RawEventRow}
    (hrow : row ∈ w.store.events) (htenant : row.tenantId = input.tenantId)
    (hstream : row.receivedAt = call.now → row.streamId ≤ input.streamId) :
    ¬ rowLe (freshRow sha256 call.now w.store input) row := by
  have hpast : row.receivedAt ≤ call.now := List.le_trans (hw.received row hrow) hclock
  rintro (hearlier | ⟨hsame, hstreams | ⟨hstreams, hsequence⟩⟩)
  · exact absurd hpast (List.not_le.2 hearlier)
  · exact absurd (hstream hsame.symm) (List.not_le.2 hstreams)
  · have hincreasing := hsequenced.increasing
    rw [hgrown, List.pairwise_append] at hincreasing
    have hlt := hincreasing.2.2 row hrow _ (List.mem_singleton_self _) (Prod.ext htenant hstreams.symm)
    rcases hsequence with hgt | ⟨heq, -⟩
    · exact Nat.lt_asymm hlt hgt
    · exact absurd heq (Nat.ne_of_gt hlt)

/-- **An append that lands behind** leaves what was given in its place. -/
theorem given_append (hw : Accounted tenantId filters since w) (hidentified : Identified (call.run sha256 w.store))
    (hsequenced : Sequenced (call.run sha256 w.store)) (hclock : w.clock ≤ call.now)
    (hbehind : LandsBehind sha256 tenantId filters w (.append call)) {rows : List RawEventRow}
    (hread : List.Forall₂ ReadAs rows w.delivered) (hgiven : Given tenantId filters since w.store rows w.pending) :
    Given tenantId filters since (call.run sha256 w.store) rows w.pending := by
  rcases call.run_adds sha256 w.store with hsame | ⟨input, hadds, hgrown⟩
  · rwa [hsame]
  cases hpending : w.pending with
  | none =>
    rw [hpending] at hgiven
    exact hgiven
  | some cursor =>
    rw [hpending] at hgiven
    obtain ⟨k, hcursor, hk, hrows⟩ := hgiven
    have hqueried : queried (call.run sha256 w.store) tenantId filters = _ := queried_append hidentified hgrown
    split at hqueried
    · next hmatches =>
      have hfirst : ∀ a ∈ (queried w.store tenantId filters).take k, ¬ rowLe (freshRow sha256 call.now w.store input) a := by
        intro a ha
        obtain ⟨hmem, htenant, -⟩ := mem_queried.1 (List.mem_of_mem_take ha)
        rw [← hrows] at ha
        obtain ⟨e, he, hevent⟩ := exists_of_mem_mapM (mapM_eq_some_iff.2 hread) ha
        obtain ⟨hreceived, hstream⟩ := toLedgerEvent_received hevent
        refine not_rowLe_of_landsBehind hw hsequenced hclock hgrown hmem (htenant.trans hmatches.1.symm) fun hnow => ?_
        rw [← hstream]
        exact hbehind (by rw [hpending]; exact Option.some_ne_none _) input hadds hmatches.1 hmatches.2 e he (hreceived.trans hnow)
      rw [Given, hqueried, List.orderedInsert_length]
      exact ⟨k, hcursor, Nat.le_succ_of_le hk, hrows.trans (take_orderedInsert hk hfirst).symm⟩
    · rw [Given, hqueried]
      exact ⟨k, hcursor, hk, hrows⟩

theorem readable_append (h : Readable s) : Readable (call.run sha256 s) := by
  rcases call.run_adds sha256 s with hsame | ⟨input, -, hgrown⟩
  · rwa [hsame]
  · intro row hrow
    rw [hgrown, List.mem_append, List.mem_singleton] at hrow
    rcases hrow with hrow | rfl
    · exact h row hrow
    · obtain ⟨e, he, -⟩ := toLedgerEvent_stores freshRow_stores
      exact ⟨e, he⟩

theorem received_append (h : ∀ row ∈ s.events, row.receivedAt ≤ clock) (hnow : call.now ≤ clock) :
    ∀ row ∈ (call.run sha256 s).events, row.receivedAt ≤ clock := by
  intro row hrow
  rcases call.run_adds sha256 s with hsame | ⟨input, -, hgrown⟩
  · rw [hsame] at hrow
    exact h row hrow
  · rw [hgrown, List.mem_append, List.mem_singleton] at hrow
    rcases hrow with hrow | rfl
    · exact h row hrow
    · exact hnow

/-- A page gives the rows that come next. -/
theorem given_request (hlimit : boundedLimit limit = .ok bounded) (hw : Accounted tenantId filters since w) {cursor : Option Text}
    (hpending : w.pending = some cursor) {p : Page} (hpage : search offsetCursors w.store tenantId filters limit cursor = .ok p) :
    ∃ rows, List.Forall₂ ReadAs rows (w.delivered ++ p.items) ∧ (rows.map RawEventRow.eventId).Nodup ∧
      Given tenantId filters since w.store rows (p.nextCursor.map some) := by
  obtain ⟨rows, hread, -, hgiven⟩ := hw.given
  rw [hpending] at hgiven
  obtain ⟨k, hcursor, hk, rfl⟩ := hgiven
  obtain ⟨hitems, hnext⟩ := page_ok hlimit hcursor hpage
  refine ⟨(queried w.store tenantId filters).take (k + bounded), ?_, ?_, ?_⟩
  · rw [List.take_add]
    exact List.rel_append hread hitems
  · exact ((List.take_sublist _ _).map _).nodup hw.identified.ids_queried
  · cases hcursor' : p.nextCursor with
    | none =>
      rw [hcursor'] at hnext
      show queried since tenantId filters ⊆ (queried w.store tenantId filters).take (k + bounded)
      rw [List.take_of_length_le (List.drop_eq_nil_iff.1 hnext)]
      exact fun row hrow => queried_subset hw.grown hrow
    | some next =>
      rw [hcursor'] at hnext
      exact ⟨k + bounded, hnext.1, Nat.le_of_lt hnext.2, rfl⟩

/-- **One step.** -/
theorem Accounted.step (hlimit : boundedLimit limit = .ok bounded) (hw : Accounted tenantId filters since w) {label : ReadLabel}
    (h : ReadStep sha256 tenantId filters limit w label w') (hbehind : LandsBehind sha256 tenantId filters w label) :
    Accounted tenantId filters since w' := by
  cases h with
  | append call hclock =>
    obtain ⟨hidentified, hgrows⟩ : Identified (call.run sha256 w.store) ∧ w.store.events <+: (call.run sha256 w.store).events :=
      identified_run hw.identified call
    have hsequenced : Sequenced (call.run sha256 w.store) := hw.sequenced.run call
    obtain ⟨rows, hread, hnodup, hgiven⟩ := hw.given
    exact
      { identified := hidentified
        sequenced := hsequenced
        readable := readable_append hw.readable
        received := received_append (fun row hrow => List.le_trans (hw.received row hrow) hclock) (List.le_refl _)
        grown := List.Subset.trans hw.grown hgrows.subset
        given := ⟨rows, hread, hnodup, given_append hw hidentified hsequenced hclock hbehind hread hgiven⟩ }
  | request hpending hpage => exact { hw with given := given_request hlimit hw hpending hpage }

end

/-! ## Streams in one millisecond -/

/-- Events in two streams, received in one millisecond. -/
def sameMillisecond : List AppendCall :=
  [placedCall "b" "e" "2026-01-01T00:00:00.000Z", placedCall "c" "f" "2026-01-01T00:00:00.000Z"]

end Tna.Ledger
