import Tna.Auditor.Collect
import Tna.Ledger.Pages

/-!
# What is collected

The query of a tenant-wide collection filters by when events were received, and the range of a
scope is about when they occurred. So the bundle is complete exactly where no event that is in
the range was received outside it.
-/

namespace Tna.Auditor

open Tna.Js Tna.Ledger Tna.Lib

/-! ## What is claimed -/

/-- An event of the tenant, as it is read back. -/
def Stored (s : LedgerStore) (tenantId : Text) (e : LedgerEvent) : Prop :=
  ∃ row ∈ s.events, row.tenantId = tenantId ∧ toLedgerEvent row = some e

/-- In the scope of a request, by its cutoff and its range. -/
def EvidenceRequest.covers (request : EvidenceRequest) (e : LedgerEvent) : Bool :=
  withinCutoff e request.evidenceCutoffAt && withinTimeRange e request.scope.timeRange

/-- What is claimed of the bundle of a tenant-wide request: the events of the tenant that the request covers, each once, and
so all those that a narrower collection would contain. -/
structure Exact (s : LedgerStore) (request : EvidenceRequest) (bundle : EvidenceBundle) : Prop where
  exact : ∀ e, e ∈ bundle.events ↔ Stored s request.tenantId e ∧ request.covers e = true
  once : (bundle.events.map fun e => e.eventId).Nodup
  narrower : ∀ k scope narrow t, scope.tenantWide = false → scope.timeRange = request.scope.timeRange →
    collect k s { request with scope := scope } = .ok (narrow, t) → ∀ e ∈ narrow.events, e ∈ bundle.events

/-- **The condition**: what the request covers was received in its range, as text is ordered. -/
def ReceivedInRange (s : LedgerStore) (request : EvidenceRequest) : Prop :=
  ∀ e, Stored s request.tenantId e → request.covers e = true →
    request.scope.timeRange.fromTime ≤ e.receivedAt ∧ e.receivedAt ≤ request.scope.timeRange.toTime

/-! ## Events and their rows -/

section
variable {s : LedgerStore} {tenantId : Text}

variable {e e' : LedgerEvent} {P : LedgerEvent → Prop} {c c' : Collected} {cursor : Option Text}
  {fetchPage : Limit → Option Text → Except StoreError Page} {pages : Nat} {filters : Filters} {p : Page}
  {events : List LedgerEvent} {scope : AssessmentScope} {bundle : EvidenceBundle} {k : CollectContext}
  {request : EvidenceRequest} {t : LedgerStore}

theorem toLedgerEvent_receivedAt {row : RawEventRow} (h : toLedgerEvent row = some e) : e.receivedAt = row.receivedAt := by
  unfold toLedgerEvent at h
  simp only [Option.bind_eq_bind, Option.bind_eq_some_iff, Option.some.injEq] at h
  obtain ⟨_, -, _, -, _, -, _, -, _, -, _, -, rfl⟩ := h
  rfl

/-- An id is that of one event of a tenant. -/
theorem Stored.eq_of_eventId (hidentified : Identified s) (h : Stored s tenantId e) (h' : Stored s tenantId e')
    (hid : e.eventId = e'.eventId) : e = e' := by
  obtain ⟨row, hrow, htenant, he⟩ := h
  obtain ⟨row', hrow', htenant', he'⟩ := h'
  have hidentity : row.identity = row'.identity := by
    rw [RawEventRow.identity, RawEventRow.identity, htenant, htenant', ← toLedgerEvent_eventId he, hid,
      toLedgerEvent_eventId he']
  rw [List.inj_on_of_nodup_map hidentified hrow hrow' hidentity, he'] at he
  exact (Option.some.inj he).symm

/-! ## Collections -/

/-- What every page has, what is collected has. -/
theorem collectPages_forall (hfetch : ∀ cursor p, fetchPage (.integer maxQueryPageSize) cursor = .ok p → ∀ e ∈ p.items, P e)
    (h : collectPages fetchPage pages cursor c = .ok c') (hc : ∀ e ∈ c.events, P e) : ∀ e ∈ c'.events, P e := by
  induction pages generalizing cursor c with
  | zero =>
    cases h
    exact hc
  | succ pages ih =>
    rw [collectPages] at h
    split at h
    · cases h
      exact hc
    · split at h
      · cases h
      · next p hp =>
        have hgrown : ∀ e ∈ c.events ++ p.items, P e := List.forall_mem_append.2 ⟨hc, hfetch _ _ hp⟩
        simp only at h
        split at h
        · cases h
          exact hgrown
        · exact ih h hgrown

/-- What was collected stays collected. -/
theorem collectPages_subset (h : collectPages fetchPage pages cursor c = .ok c') : c.events ⊆ c'.events := by
  induction pages generalizing cursor c with
  | zero =>
    cases h
    exact List.Subset.refl _
  | succ pages ih =>
    rw [collectPages] at h
    split at h
    · cases h
      exact List.Subset.refl _
    · split at h
      · cases h
      · simp only at h
        split at h
        · cases h
          exact List.subset_append_left _ _
        · exact List.Subset.trans (List.subset_append_left _ _) (ih h)

/-- What is on a page is read from the rows of its query. -/
theorem read_of_page (h : page offsetCursors s tenantId filters (.integer maxQueryPageSize) cursor = .ok p) :
    ∀ e ∈ p.items, ∃ row ∈ queried s tenantId filters, toLedgerEvent row = some e := by
  intro e he
  obtain ⟨bounded, -, h'⟩ := bind_ok h
  obtain ⟨offset, hoffset, -⟩ := bind_ok h'
  obtain ⟨hread, -⟩ := page_ok boundedLimit_max hoffset h
  obtain ⟨row, hrow, hevent⟩ := exists_of_mem_mapped (mapM_eq_some_iff.2 hread) he
  exact ⟨row, List.mem_of_mem_drop (List.mem_of_mem_take hrow), hevent⟩

theorem stored_of_page (h : page offsetCursors s tenantId filters (.integer maxQueryPageSize) cursor = .ok p) :
    ∀ e ∈ p.items, Stored s tenantId e := by
  intro e he
  obtain ⟨row, hrow, hevent⟩ := read_of_page h e he
  obtain ⟨hmem, htenant, -⟩ := mem_queried.1 hrow
  exact ⟨row, hmem, htenant, hevent⟩

/-- **Where nothing is cut off, every row of the query is collected.** -/
theorem collectPages_complete {offset : Nat} (hcursor : offsetCursors.decodeCursor cursor = .ok offset)
    (h : collectPages (page offsetCursors s tenantId filters) pages cursor c = .ok c') (htruncated : c'.truncated = false) :
    ∀ row ∈ (queried s tenantId filters).drop offset, ∃ e ∈ c'.events, toLedgerEvent row = some e := by
  induction pages generalizing cursor c offset with
  | zero =>
    cases h
    cases htruncated
  | succ pages ih =>
    rw [collectPages] at h
    split at h
    · cases h
      cases htruncated
    · split at h
      · cases h
      · next p hp =>
        obtain ⟨hread, hnext⟩ := page_ok boundedLimit_max hcursor hp
        simp only at h
        intro row hrow
        rw [← List.take_append_drop maxQueryPageSize ((queried s tenantId filters).drop offset), List.mem_append,
          List.drop_drop] at hrow
        have hpage : row ∈ ((queried s tenantId filters).drop offset).take maxQueryPageSize →
            ∃ e ∈ c.events ++ p.items, toLedgerEvent row = some e := by
          intro hrow
          obtain ⟨e, he, hevent⟩ := exists_of_mem_mapM (mapM_eq_some_iff.2 hread) hrow
          exact ⟨e, List.mem_append_right _ he, hevent⟩
        split at h
        · next hlast =>
          cases h
          rw [hlast] at hnext
          rcases hrow with hrow | hrow
          · exact hpage hrow
          · rw [hnext] at hrow
            cases hrow
        · next next hmore =>
          rw [hmore] at hnext
          rcases hrow with hrow | hrow
          · obtain ⟨e, he, hevent⟩ := hpage hrow
            exact ⟨e, collectPages_subset h he, hevent⟩
          · exact ih hnext.1 h row hrow

theorem stored_of_decision {decisionId : Text} (h : getEventsByDecision s tenantId decisionId = .ok events) :
    ∀ e ∈ events, Stored s tenantId e := by
  intro e he
  simp only [getEventsByDecision, eventsByContext, LedgerStore.findByContextField] at h
  split at h
  · cases h
  · next found hfound =>
    cases h
    split at hfound
    · next rows hrows =>
      obtain ⟨row, hrow, hevent⟩ := exists_of_mem_mapped hfound he
      rw [(filterM_eq_some hrows).2] at hrow
      have hmem := (List.perm_insertionSort _ _).mem_iff.1 (List.mem_of_mem_filter hrow)
      rw [LedgerStore.contextRows, List.mem_filter, decide_eq_true_eq] at hmem
      exact ⟨row, hmem.1, hmem.2.1, hevent⟩
    · cases hfound

theorem stored_of_decisions {decisions : List Text} (h : collectDecisions s tenantId decisions c = .ok c')
    (hc : ∀ e ∈ c.events, Stored s tenantId e) : ∀ e ∈ c'.events, Stored s tenantId e := by
  induction decisions generalizing c with
  | nil =>
    cases h
    exact hc
  | cons decisionId rest ih =>
    rw [collectDecisions] at h
    split at h
    · cases h
      exact hc
    · split at h
      · cases h
      · next events hevents => exact ih h (List.forall_mem_append.2 ⟨hc, stored_of_decision hevents⟩)

/-- What is kept of what was collected by one step is kept by all of them. -/
theorem foldlM_forall {α : Type} {f : Collected → α → Except StoreError Collected}
    (hf : ∀ c a c', f c a = .ok c' → (∀ e ∈ c.events, P e) → ∀ e ∈ c'.events, P e) {l : List α} (h : l.foldlM f c = .ok c')
    (hc : ∀ e ∈ c.events, P e) : ∀ e ∈ c'.events, P e := by
  induction l generalizing c with
  | nil =>
    cases h
    exact hc
  | cons a rest ih =>
    rw [List.foldlM_cons] at h
    obtain ⟨d, hd, h⟩ := bind_ok h
    exact ih h (hf c a d hd hc)

/-- **What is collected is stored**, whatever the scope. -/
theorem stored_of_scope (h : collectScope s tenantId scope = .ok c) : ∀ e ∈ c.events, Stored s tenantId e := by
  have hpaged : ∀ (filters : Filters) (c c' : Collected), collectPaged c (page offsetCursors s tenantId filters) = .ok c' →
      (∀ e ∈ c.events, Stored s tenantId e) → ∀ e ∈ c'.events, Stored s tenantId e :=
    fun filters c c' h hc => collectPages_forall (fun _ _ => stored_of_page) h hc
  unfold collectScope at h
  split at h
  · exact hpaged _ _ _ h (List.forall_mem_nil _)
  · obtain ⟨agents, hagents, h⟩ := bind_ok h
    obtain ⟨correlations, hcorrelations, h⟩ := bind_ok h
    refine stored_of_decisions h (foldlM_forall ?_ hcorrelations (foldlM_forall ?_ hagents (List.forall_mem_nil _)))
    · intro c correlationId c' h hc
      exact hpaged _ _ _ h hc
    · intro c agentId c' h hc
      obtain ⟨d, hstream, hactor⟩ := bind_ok h
      exact hpaged _ _ _ hactor (hpaged _ _ _ hstream hc)

/-! ## One of each event -/

theorem mem_of_setById (h : e' ∈ setById events e) : e' ∈ events ∨ e' = e := by
  unfold setById at h
  split at h
  · obtain ⟨old, hold, heq⟩ := List.mem_map.1 h
    split at heq
    · exact .inr heq.symm
    · exact .inl (heq ▸ hold)
  · rcases List.mem_append.1 h with h | h
    · exact .inl h
    · exact .inr (List.mem_singleton.1 h)

theorem ids_setById (events : List LedgerEvent) (e : LedgerEvent) :
    (setById events e).map (fun e => e.eventId) =
      if events.any fun e' => e'.eventId = e.eventId then events.map fun e => e.eventId else events.map (fun e => e.eventId) ++ [e.eventId] := by
  unfold setById
  split
  · rw [List.map_map]
    refine List.map_congr_left fun e' _ => ?_
    show (if e'.eventId = e.eventId then e else e').eventId = e'.eventId
    split
    · next hsame => exact hsame.symm
    · rfl
  · rw [List.map_append, List.map_singleton]

theorem nodup_setById (h : (events.map fun e => e.eventId).Nodup) (e : LedgerEvent) :
    ((setById events e).map fun e => e.eventId).Nodup := by
  rw [ids_setById]
  split
  · exact h
  · next hnew =>
    refine List.nodup_append.2 ⟨h, List.nodup_singleton _, fun id hid id' hid' hsame => hnew ?_⟩
    obtain ⟨e', he', rfl⟩ := List.mem_map.1 hid
    rw [List.mem_singleton.1 hid'] at hsame
    exact List.any_eq_true.2 ⟨e', he', decide_eq_true hsame⟩

/-- Every id that was given is there. -/
theorem id_mem_setById {id : Text} (h : id ∈ events.map (fun e => e.eventId) ∨ id = e.eventId) :
    id ∈ (setById events e).map fun e => e.eventId := by
  rw [ids_setById]
  split
  · next hold =>
    rcases h with h | rfl
    · exact h
    · obtain ⟨e', he', hsame⟩ := List.any_eq_true.1 hold
      exact List.mem_map.2 ⟨e', he', of_decide_eq_true hsame⟩
  · rcases h with h | rfl
    · exact List.mem_append_left _ h
    · exact List.mem_append_right _ (List.mem_singleton_self _)

/-- What is kept of events: some of them, each id once, and every id. -/
theorem foldl_setById (given events : List LedgerEvent) (h : (events.map fun e => e.eventId).Nodup) :
    (∀ e ∈ given.foldl setById events, e ∈ events ∨ e ∈ given) ∧
      ((given.foldl setById events).map fun e => e.eventId).Nodup ∧
      ∀ e, e ∈ events ∨ e ∈ given → e.eventId ∈ (given.foldl setById events).map fun e => e.eventId := by
  induction given generalizing events with
  | nil =>
    refine ⟨fun e he => .inl he, h, ?_⟩
    rintro e (he | he)
    · exact List.mem_map_of_mem he
    · cases he
  | cons e given ih =>
    obtain ⟨hsome, hnodup, hids⟩ := ih (setById events e) (nodup_setById h e)
    refine ⟨fun e' he' => ?_, hnodup, fun e' he' => ?_⟩
    · rcases hsome e' he' with he' | he'
      · rcases mem_of_setById he' with he' | rfl
        · exact .inl he'
        · exact .inr (List.mem_cons_self ..)
      · exact .inr (List.mem_cons_of_mem _ he')
    · have hset : e'.eventId ∈ (setById events e).map (fun e => e.eventId) ∨ e' ∈ given := by
        rcases he' with he' | he'
        · exact .inl (id_mem_setById (.inl (List.mem_map_of_mem he')))
        · rcases List.mem_cons.1 he' with rfl | he'
          · exact .inl (id_mem_setById (.inr rfl))
          · exact .inr he'
      rcases hset with hset | hset
      · obtain ⟨kept, hkept, hsame⟩ := List.mem_map.1 hset
        rw [← hsame]
        exact hids kept (.inl hkept)
      · exact hids e' (.inr hset)

theorem nodup_dedupeAndSort (events : List LedgerEvent) : ((dedupeAndSort events).map fun e => e.eventId).Nodup := by
  have hperm := (List.perm_insertionSort eventLe (events.foldl setById [])).map fun e => e.eventId
  exact hperm.nodup_iff.2 (foldl_setById events [] List.nodup_nil).2.1

/-- Where an id is that of one event, every event is kept. -/
theorem mem_dedupeAndSort (hid : ∀ e ∈ events, ∀ e' ∈ events, e.eventId = e'.eventId → e = e') :
    e ∈ dedupeAndSort events ↔ e ∈ events := by
  obtain ⟨hsome, -, hids⟩ := foldl_setById events [] List.nodup_nil
  rw [dedupeAndSort, (List.perm_insertionSort eventLe _).mem_iff]
  constructor
  · intro he
    exact (hsome e he).resolve_left List.not_mem_nil
  · intro he
    obtain ⟨kept, hkept, hsame⟩ := List.mem_map.1 (hids e (.inr he))
    rw [hid e he kept ((hsome kept hkept).resolve_left List.not_mem_nil) hsame.symm]
    exact hkept

/-! ## Bundles -/

/-- What a bundle is made of: what was collected, as far as the request covers it. -/
theorem collect_ok (hidentified : Identified s) (h : collect k s request = .ok (bundle, t)) :
    ∃ c, collectScope s request.tenantId request.scope = .ok c ∧ bundle.truncated = c.truncated ∧
      (bundle.events.map fun e => e.eventId).Nodup ∧
      ∀ e, e ∈ bundle.events ↔ e ∈ c.events ∧ request.covers e = true := by
  unfold collect at h
  split at h
  · cases h
  · next c hc =>
    cases h
    refine ⟨c, hc, rfl, nodup_dedupeAndSort _, fun e => ?_⟩
    have hstored := stored_of_scope hc
    refine (mem_dedupeAndSort fun e he e' he' hsame => ?_).trans List.mem_filter
    exact (hstored e (List.mem_of_mem_filter he)).eq_of_eventId hidentified (hstored e' (List.mem_of_mem_filter he')) hsame

/-- What a bundle contains is stored, and the request covers it. -/
theorem stored_of_bundle (hidentified : Identified s) (h : collect k s request = .ok (bundle, t)) (he : e ∈ bundle.events) :
    Stored s request.tenantId e ∧ request.covers e = true := by
  obtain ⟨c, hc, -, -, hevents⟩ := collect_ok hidentified h
  exact ((hevents e).1 he).imp_left (stored_of_scope hc e)

/-- **What a tenant-wide collection that is not cut off has collected**: what was received in the range. -/
theorem mem_of_tenantWide (hwide : scope.tenantWide = true) (h : collectScope s tenantId scope = .ok c)
    (htruncated : c.truncated = false) :
    e ∈ c.events ↔ Stored s tenantId e ∧ scope.timeRange.fromTime ≤ e.receivedAt ∧ e.receivedAt ≤ scope.timeRange.toTime := by
  rw [collectScope, if_pos hwide] at h
  have hadmits : ∀ row : RawEventRow, ({ Filters.none with
      fromTime := some scope.timeRange.fromTime, toTime := some scope.timeRange.toTime } : Filters).admits row = true ↔
      scope.timeRange.fromTime ≤ row.receivedAt ∧ row.receivedAt ≤ scope.timeRange.toTime := by
    intro row
    simp [Filters.admits, Filters.none]
  constructor
  · intro he
    obtain ⟨row, hrow, hevent⟩ := collectPages_forall (fun _ _ => read_of_page) h (List.forall_mem_nil _) e he
    obtain ⟨hmem, htenant, hadmitted⟩ := mem_queried.1 hrow
    rw [toLedgerEvent_receivedAt hevent]
    exact ⟨⟨row, hmem, htenant, hevent⟩, (hadmits row).1 hadmitted⟩
  · rintro ⟨⟨row, hmem, htenant, hevent⟩, hrange⟩
    rw [toLedgerEvent_receivedAt hevent] at hrange
    have hrow := mem_queried.2 ⟨hmem, htenant, (hadmits row).2 hrange⟩
    have hfirst : offsetCursors.decodeCursor none = .ok 0 := rfl
    obtain ⟨e', he', hevent'⟩ := collectPages_complete hfirst h htruncated row (by rwa [List.drop_zero])
    rw [hevent] at hevent'
    cases hevent'
    exact he'

/-- **Completeness**: the bundle of a tenant-wide collection that is not cut off is what is claimed exactly where what the
request covers was received in its range. -/
theorem exact_iff_receivedInRange (hidentified : Identified s) {k : CollectContext} {request : EvidenceRequest}
    {bundle : EvidenceBundle} {t : LedgerStore} (hwide : request.scope.tenantWide = true)
    (h : collect k s request = .ok (bundle, t)) (htruncated : bundle.truncated = false) :
    Exact s request bundle ↔ ReceivedInRange s request := by
  obtain ⟨c, hc, hcut, hnodup, hevents⟩ := collect_ok hidentified h
  rw [hcut] at htruncated
  have hcollected : ∀ e, e ∈ c.events ↔ Stored s request.tenantId e ∧ _ :=
    fun e => mem_of_tenantWide hwide hc htruncated
  constructor
  · intro hexact e hstored hcovers
    exact ((hcollected e).1 ((hevents e).1 ((hexact.exact e).2 ⟨hstored, hcovers⟩)).1).2
  · intro hrange
    have hexact : ∀ e, e ∈ bundle.events ↔ Stored s request.tenantId e ∧ request.covers e = true := by
      intro e
      rw [hevents, hcollected]
      exact ⟨fun he => ⟨he.1.1, he.2⟩, fun he => ⟨⟨he.1, hrange e he.1 he.2⟩, he.2⟩⟩
    refine ⟨hexact, hnodup, fun k' scope narrow t' _ hsame hnarrow e he => (hexact e).2 ?_⟩
    have hstored := stored_of_bundle hidentified hnarrow he
    rw [EvidenceRequest.covers, hsame] at hstored
    exact hstored

end

/-! ## An event received late -/

/-- An event that occurred on the first of January. -/
def occurredEvent : Value :=
  .obj [("version", .str "1.0"), ("event_id", .str "e"), ("event_type", .str "AGENT_REGISTERED"), ("tenant_id", .str "t"),
    ("stream_id", .str "s"), ("actor", .obj [("type", .str "SYSTEM"), ("id", .str "a")]), ("correlation_id", .str "c"),
    ("source_component", .str "ledger"), ("occurred_at", .str "2026-01-01T12:00:00.000Z")]

def occurredCall (received : Text) : AppendCall := ⟨sampleWriter, ⟨occurredEvent, by decide⟩, received⟩

def firstOfJanuary : EvidenceRequest :=
  ⟨"t", ⟨true, [], [], ⟨"2026-01-01T00:00:00.000Z", "2026-01-02T00:00:00.000Z"⟩⟩, "2026-01-04T00:00:00.000Z"⟩

def sampleCollection : CollectContext := ⟨id, "now", "now", "now"⟩

theorem exact_iff_receivedInRange_sameDay :
    ∃ bundle t, collect sampleCollection (runAppends id [occurredCall "2026-01-01T13:00:00.000Z"]) firstOfJanuary = .ok (bundle, t) ∧
      (Exact (runAppends id [occurredCall "2026-01-01T13:00:00.000Z"]) firstOfJanuary bundle ↔
        ReceivedInRange (runAppends id [occurredCall "2026-01-01T13:00:00.000Z"]) firstOfJanuary) := by
  have hcollected : (collect sampleCollection (runAppends id [occurredCall "2026-01-01T13:00:00.000Z"]) firstOfJanuary).toOption.any
      (fun r => !r.1.truncated) = true := by decide +kernel
  obtain ⟨⟨bundle, t⟩, hcollect, htruncated⟩ := (Option.any_eq_true ..).1 hcollected
  rw [Bool.not_eq_true'] at htruncated
  have hidentified : Identified (runAppends id [occurredCall "2026-01-01T13:00:00.000Z"]) := by
    rw [Identified]
    decide +kernel
  have hok := ok_of_toOption hcollect
  exact ⟨bundle, t, hok, exact_iff_receivedInRange hidentified rfl hok htruncated⟩

/-- What occurred in the range and was received two days later, before the cutoff, is left out. -/
theorem not_exact_lateReceipt :
    ∃ bundle t, Identified (runAppends id [occurredCall "2026-01-03T00:00:00.000Z"]) ∧ firstOfJanuary.scope.tenantWide = true ∧
      collect sampleCollection (runAppends id [occurredCall "2026-01-03T00:00:00.000Z"]) firstOfJanuary = .ok (bundle, t) ∧
      bundle.truncated = false ∧ ¬ Exact (runAppends id [occurredCall "2026-01-03T00:00:00.000Z"]) firstOfJanuary bundle := by
  have hcollected : (collect sampleCollection (runAppends id [occurredCall "2026-01-03T00:00:00.000Z"]) firstOfJanuary).toOption.any
      (fun r => !r.1.truncated && r.1.events.isEmpty) = true := by decide +kernel
  obtain ⟨⟨bundle, t⟩, hcollect, htest⟩ := (Option.any_eq_true ..).1 hcollected
  rw [Bool.and_eq_true, Bool.not_eq_true', List.isEmpty_iff] at htest
  have hstored : (runAppends id [occurredCall "2026-01-03T00:00:00.000Z"]).events.any (fun row =>
      decide (row.tenantId = "t") && (toLedgerEvent row).any firstOfJanuary.covers) = true := by decide +kernel
  obtain ⟨row, hrow, htest'⟩ := List.any_eq_true.1 hstored
  rw [Bool.and_eq_true, decide_eq_true_eq] at htest'
  obtain ⟨e, hevent, hcovers⟩ := (Option.any_eq_true ..).1 htest'.2
  have hidentified : Identified (runAppends id [occurredCall "2026-01-03T00:00:00.000Z"]) := by
    rw [Identified]
    decide +kernel
  refine ⟨bundle, t, hidentified, rfl, ok_of_toOption hcollect, htest.1, fun hexact => ?_⟩
  have hmem := (hexact.exact e).2 ⟨⟨row, hrow, htest'.1, hevent⟩, hcovers⟩
  rw [htest.2] at hmem
  cases hmem

end Tna.Auditor
