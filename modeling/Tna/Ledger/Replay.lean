import Tna.Ledger.Content
import Tna.Ledger.Predecessors

/-!
# Appending twice

An append of an event that is stored compares what the columns give back with the input, by
canonical form. The columns keep an event as it was submitted up to three things: a further
property of the actor, and a causal id that is `null`. Without these an append can be repeated
at any later time, and any other content under its id is a conflict.
-/

namespace Tna.Ledger

open Tna.Js Tna.Lib Value

def isNull : Value → Bool
  | .null => true
  | _ => false

/-- Neither causal id of the input is `null`; they may be left out. -/
def causalIdsSet (raw : JsValue) : Bool :=
  match raw.asObject? with
  | none => true
  | some input => !isNull (input.get "causation_id").val && !isNull (input.get "parent_event_id").val

/-- The columns keep all of the input. -/
def replayable (raw : JsValue) : Bool := actorExact raw && causalIdsSet raw

/-- An accepted input of which the columns keep all. -/
structure LedgerEventInput.Plain (i : LedgerEventInput) : Prop where
  actor : i.actor.Exact
  causationId : i.causationId ≠ .null
  parentEventId : i.parentEventId ≠ .null

section
variable {sha256 : Text → Text} {now : Text} {s t : LedgerStore} {p : LedgerPrincipal} {raw : JsValue} {e : LedgerEvent}
  {input : LedgerEventInput} {row : RawEventRow}

/-! ## The condition on an accepted input -/

variable {i : OptionalId} {name : String} {rows : List RawEventRow} {tenantId : Text} {column : ContextColumn}
  {types : List EventType} {value : Value}

theorem optionalIdField_null {o : JsObject} {message : Text} (h : optionalIdField o name message = .ok i) :
    isNull (o.get name).val = true ↔ i = .null := by
  unfold optionalIdField at h
  split at h
  · next hval =>
    cases h
    simp [hval, isNull]
  · next hval =>
    cases h
    simp [hval, isNull]
  · next hnull =>
    cases hid : idField o name 200 message with
    | error err =>
      rw [hid] at h
      cases h
    | ok t =>
      rw [hid] at h
      cases h
      rw [idField_val hid]
      simp [isNull]

theorem validateEventInput_causalIds (h : validateEventInput raw = .ok input) :
    ∃ o, raw.asObject? = some o ∧ (isNull (o.get "causation_id").val = true ↔ input.causationId = .null) ∧
      (isNull (o.get "parent_event_id").val = true ↔ input.parentEventId = .null) := by
  unfold validateEventInput at h
  split at h
  · cases h
  · next o ho =>
    refine ⟨o, ho, ?_⟩
    iterate 7 obtain ⟨_, -, h⟩ := bind_ok h
    obtain ⟨causationId, hcausation, h⟩ := bind_ok h
    obtain ⟨parentEventId, hparent, h⟩ := bind_ok h
    iterate 9 obtain ⟨_, -, h⟩ := bind_ok h
    split at h
    · cases h
    · obtain ⟨_, -, h⟩ := bind_ok h
      cases h
      exact ⟨optionalIdField_null hcausation, optionalIdField_null hparent⟩

theorem actorExact_iff (h : validateEventInput raw = .ok input) : actorExact raw = true ↔ input.actor.Exact := by
  refine ⟨exact_of_actorExact h, fun hexact => ?_⟩
  obtain ⟨o, ho, ha⟩ := validateEventInput_actor h
  simp only [actorExact, ho, ha, List.all_eq_true, Bool.or_eq_true, decide_eq_true_eq]
  intro f hf
  cases hdefined : f.2.isUndefined with
  | true => exact .inl (.inl rfl)
  | false =>
    rcases hexact f hf hdefined with htype | hid
    · exact .inl (.inr htype)
    · exact .inr hid

theorem replayable_iff (h : validateEventInput raw = .ok input) : replayable raw = true ↔ input.Plain := by
  obtain ⟨o, ho, hcausation, hparent⟩ := validateEventInput_causalIds h
  rw [replayable, Bool.and_eq_true, actorExact_iff h]
  simp only [causalIdsSet, ho, Bool.and_eq_true, Bool.not_eq_true', ← Bool.not_eq_true, hcausation, hparent]
  constructor
  · rintro ⟨hactor, hcausation, hparent⟩
    exact ⟨hactor, hcausation, hparent⟩
  · rintro ⟨hactor, hcausation, hparent⟩
    exact ⟨hactor, hcausation, hparent⟩

/-! ## What is stored and what was submitted -/

theorem optionalId_orNull (h : i ≠ .null) : optionalId i.orNull = i := by
  cases i with
  | null => exact absurd rfl h
  | absent => rfl
  | id t => rfl

/-- A row gives back a plain input up to its canonical form. -/
theorem canonical_of_stores (hrow : row.Stores input) (hplain : input.Plain) :
    ∃ e, toLedgerEvent row = some e ∧ e.toEventContent.toValue.canonical = input.content.toValue.canonical := by
  obtain ⟨e, he, hcontent⟩ := toLedgerEvent_stores hrow
  refine ⟨e, he, Eq.symm (Same.canonical (Same.obj ?_))⟩
  rw [hcontent, optionalId_orNull hplain.causationId, optionalId_orNull hplain.parentEventId]
  simp only [List.forall₂_cons, List.forall₂_nil_left_iff, true_and, and_true, Same.refl, LedgerEventInput.content]
  exact ⟨Actor.same_stored hplain.actor, same_readBack _, same_readBack _, same_readBack _, same_readBack _,
    same_readBack _, same_readBack _⟩

theorem ne_null_of_sameData {column : Option Text} (h : SameData (optionalId column).toValue i.toValue) : i ≠ .null := by
  rintro rfl
  cases column with
  | none => cases h.isUndefined
  | some t => cases h.data

/-- An input that has the canonical form of a stored event is plain. -/
theorem plain_of_sameCanonicalContent (hread : toLedgerEvent row = some e)
    (h : sameCanonicalContent e.toEventContent input.content = true) : input.Plain := by
  have hreads := toLedgerEvent_readsAs hread
  obtain ⟨hactor, hcausation, hparent⟩ :=
    sameData_of_sameCanonicalContent hreads.distinct input.content_distinct h
  rw [hreads.causationId] at hcausation
  rw [hreads.parentEventId] at hparent
  refine ⟨?_, ne_null_of_sameData hcausation, ne_null_of_sameData hparent⟩
  intro f hf hdefined
  have hdata := hactor.data
  rw [hreads.actor] at hdata
  obtain ⟨w, hw, -, -⟩ := mem_of_data_eq hdata.symm hf hdefined
  simp only [List.mem_cons, Prod.mk.injEq, List.not_mem_nil, or_false] at hw
  exact hw.imp And.left And.left

/-! ## The row of an accepted append -/

/-- The first row under an identity stays the first when rows are added at the end. -/
theorem rowByEventId_append {eventId : Text} (h : s.rowByEventId tenantId eventId = some row) (ht : t.events = s.events ++ rows) :
    t.rowByEventId tenantId eventId = some row := by
  rw [LedgerStore.rowByEventId] at h ⊢
  rw [ht, List.find?_append, h, Option.some_or]

/-- After an accepted append the event of its id is stored. A row for it is new and stores the input, or it was
there and gives back the canonical form of the input. -/
theorem stored_of_append (h : s.append sha256 now input = .ok (e, t)) :
    ∃ row, t.rowByEventId input.tenantId input.eventId = some row ∧
      (∃ rows, t.events = s.events ++ rows ∧ ∀ r ∈ rows, r.Stores input) ∧
      (row.Stores input ∨
        ∃ e, toLedgerEvent row = some e ∧ sameCanonicalContent e.toEventContent input.content = true) := by
  unfold LedgerStore.append at h
  split at h
  · next existing hexisting =>
    split at h
    · cases h
    · next event hevent =>
      split at h
      · next hsame =>
        cases h
        exact ⟨existing, hexisting, ⟨[], (List.append_nil _).symm, List.forall_mem_nil _⟩, .inr ⟨_, hevent, hsame⟩⟩
      · cases h
  · next hnone =>
    simp only at h
    split at h
    · cases h
    · split at h
      · cases h
      · next u hinsert =>
        cases h
        have hgrown : u.events = s.events ++ [freshRow sha256 now s input] := by
          rw [insertEvent_eq_some hinsert]
          rfl
        refine ⟨freshRow sha256 now s input, ?_, ⟨_, (upsertHead_events ..).trans hgrown, ?_⟩, .inl freshRow_stores⟩
        · have hown : (freshRow sha256 now s input).tenantId = input.tenantId ∧
              (freshRow sha256 now s input).eventId = input.eventId := ⟨rfl, rfl⟩
          rw [LedgerStore.rowByEventId] at hnone ⊢
          rw [upsertHead_events, hgrown, List.find?_append, hnone, Option.none_or]
          exact List.find?_cons_of_pos (decide_eq_true hown)
        · intro r hr
          rw [List.mem_singleton.1 hr]
          exact freshRow_stores

/-- What an append answers when the event of its id is stored. -/
theorem append_of_stored (hrow : s.rowByEventId input.tenantId input.eventId = some row)
    (hread : toLedgerEvent row = some e) :
    s.append sha256 now input =
      if sameCanonicalContent e.toEventContent input.content then .ok (e, s)
      else .error (.ledger ⟨.eventConflict,
        Text.ofAscii "event_id " ++ input.eventId ++ Text.ofAscii " already exists with different content"⟩) := by
  rw [LedgerStore.append, hrow]
  simp only [hread]

/-! ## The invariants are not lost -/

/-- Rows that store inputs can be looked at and read. -/
theorem Scannable.append (h : Scannable s tenantId column name value types) (ht : t.events = s.events ++ rows)
    (hrows : ∀ r ∈ rows, ∃ input, r.Stores input) : Scannable t tenantId column name value types := by
  intro r hr
  rw [LedgerStore.contextRows, ht, List.filter_append, List.mem_append] at hr
  rcases hr with hr | hr
  · exact h r hr
  · obtain ⟨hr, hkept⟩ := List.mem_filter.1 hr
    obtain ⟨-, -, hsome⟩ := of_decide_eq_true hkept
    obtain ⟨stored, hstores⟩ := hrows r hr
    obtain ⟨event, hevent, -⟩ := toLedgerEvent_stores hstores
    refine ⟨?_, fun _ => by simp [hevent]⟩
    have hparse := parseColumn_stores hstores column
    cases hctx : stored.context column with
    | none =>
      rw [hctx] at hparse
      obtain ⟨text, htext⟩ := Option.isSome_iff_exists.1 hsome
      obtain ⟨n, now, payloadHash, prev, eventHash, rfl⟩ := hstores
      have hcolumn : (stored.toRow n now payloadHash prev eventHash).context column = none := by
        cases column <;>
          (simp only [LedgerEventInput.context] at hctx
           simp [RawEventRow.context, LedgerEventInput.toRow, stringifyColumn, hctx])
      rw [hcolumn] at htext
      cases htext
    | some o =>
      rw [hctx] at hparse
      have hread : readBack (some o) = .obj (normalFields o.fields) := rfl
      rw [contextMatches, hparse, hread]
      simp

theorem Found.append (h : Found s tenantId column name value types) (ht : t.events = s.events ++ rows) :
    Found t tenantId column name value types := by
  obtain ⟨r, hr, hmatch⟩ := h
  refine ⟨r, ?_, hmatch⟩
  rw [LedgerStore.contextRows, ht, List.filter_append, List.mem_append]
  exact .inl hr

theorem assertInvariants_of_requires_none (h : input.eventType.requires = none) : assertInvariants s input = .ok () := by
  unfold assertInvariants
  cases htype : input.eventType <;> first
    | rfl
    | rw [htype] at h
      cases h

/-- The predecessors of an accepted event stay where they are. -/
theorem assertInvariants_append (hinput : validateEventInput raw = .ok input) (h : assertInvariants s input = .ok ())
    (ht : t.events = s.events ++ rows) (hrows : ∀ r ∈ rows, ∃ input, r.Stores input) : assertInvariants t input = .ok () := by
  cases hrequires : input.eventType.requires with
  | none => exact assertInvariants_of_requires_none hrequires
  | some required =>
    obtain ⟨column, name, priors⟩ := required
    have hset := truthy_of_complete hinput hrequires
    rw [assertInvariants_eq_ok hrequires hset] at h ⊢
    intro prior hprior
    obtain ⟨hscan, hfound⟩ := h prior hprior
    exact ⟨hscan.append ht hrows, hfound.append ht⟩

/-! ## Any time later -/

/-- The store after later calls. -/
def after (sha256 : Text → Text) (s : LedgerStore) (later : List AppendCall) : LedgerStore :=
  later.foldl (AppendCall.run sha256) s

/-- After any later calls, the same call answers with the event stored under the id it submits and changes nothing. -/
def Repeatable (sha256 : Text → Text) (s : LedgerStore) (p : LedgerPrincipal) (raw : JsValue) : Prop :=
  ∀ (later : List AppendCall) (now : Text), ∃ row ∈ s.events, ∃ o e, raw.asObject? = some o ∧ submitted o row.identity ∧
    toLedgerEvent row = some e ∧ append sha256 now (after sha256 s later) p raw = .ok (e, after sha256 s later)

/-- After any later calls, a call with other canonical content under the same identity fails and changes nothing; it
fails with `EVENT_CONFLICT` where the checks before the store let it through. -/
def Guarded (sha256 : Text → Text) (s : LedgerStore) (raw : JsValue) : Prop :=
  ∀ (later : List AppendCall) (c : AppendCall) (input other : LedgerEventInput),
    validateEventInput raw = .ok input → validateEventInput c.raw = .ok other →
    other.tenantId = input.tenantId → other.eventId = input.eventId →
    other.content.toValue.canonical ≠ input.content.toValue.canonical →
      c.run sha256 (after sha256 s later) = after sha256 s later ∧
      (∃ err, append sha256 c.now (after sha256 s later) c.principal c.raw = .error err) ∧
      (assertCanWrite c.principal other = .ok () → assertInvariants (after sha256 s later) other = .ok () →
        append sha256 c.now (after sha256 s later) c.principal c.raw = .error (.ledger ⟨.eventConflict,
          Text.ofAscii "event_id " ++ other.eventId ++ Text.ofAscii " already exists with different content"⟩))

theorem after_events (sha256 : Text → Text) (s : LedgerStore) (later : List AppendCall) :
    ∃ rows, (after sha256 s later).events = s.events ++ rows ∧ ∀ r ∈ rows, ∃ input, r.Stores input := by
  obtain ⟨rows, hrows, hstored⟩ := foldl_run_events sha256 later s
  refine ⟨rows, hrows, fun r hr => ?_⟩
  obtain ⟨-, -, input, -, hstores⟩ := hstored r hr
  exact ⟨input, hstores⟩

/-- The facade passes an admitted input on to the store. -/
theorem append_admitted (hinput : validateEventInput raw = .ok input) (hwrite : assertCanWrite p input = .ok ())
    (hinvariants : assertInvariants s input = .ok ()) :
    append sha256 now s p raw = s.append sha256 now input := by
  rw [append, hinput]
  simp only [hwrite, hinvariants]

/-- What the store keeps of a plain input has its canonical form, whether it was stored now or before. -/
theorem canonical_of_stored (hplain : input.Plain)
    (h : row.Stores input ∨
      ∃ e, toLedgerEvent row = some e ∧ sameCanonicalContent e.toEventContent input.content = true) :
    ∃ e, toLedgerEvent row = some e ∧ e.toEventContent.toValue.canonical = input.content.toValue.canonical := by
  rcases h with hstores | ⟨e, hread, hsame⟩
  · exact canonical_of_stores hstores hplain
  · exact ⟨e, hread, of_decide_eq_true hsame⟩

theorem repeatable_of_plain (h : append sha256 now s p raw = .ok (e, t)) (hinput : validateEventInput raw = .ok input)
    (hplain : input.Plain) : Repeatable sha256 t p raw := by
  intro later now'
  obtain ⟨input', hinput', hwrite, hinvariants, happend⟩ := append_ok h
  obtain rfl : input' = input := Except.ok.inj (hinput'.symm.trans hinput)
  obtain ⟨row, hrow, ⟨rows, hgrown, hrows⟩, hstored⟩ := stored_of_append happend
  obtain ⟨rest, hafter, hrest⟩ := after_events sha256 t later
  obtain ⟨event, hread, hcanonical⟩ := canonical_of_stored hplain hstored
  obtain ⟨o, ho, hsubmitted⟩ := validateEventInput_submitted hinput
  obtain ⟨hmem, hidentity⟩ := identity_of_rowByEventId hrow
  refine ⟨row, hmem, o, event, ho, hidentity ▸ hsubmitted, hread, ?_⟩
  have hkept : assertInvariants (after sha256 t later) input' = .ok () := by
    have hall : (after sha256 t later).events = s.events ++ (rows ++ rest) := by
      rw [hafter, hgrown, List.append_assoc]
    refine assertInvariants_append hinput hinvariants hall fun r hr => ?_
    rcases List.mem_append.1 hr with hr | hr
    · exact ⟨_, hrows r hr⟩
    · exact hrest r hr
  have hsame : sameCanonicalContent event.toEventContent input'.content = true := decide_eq_true hcanonical
  rw [append_admitted hinput hwrite hkept, append_of_stored (rowByEventId_append hrow hafter) hread, if_pos hsame]

theorem guarded_of_plain (h : append sha256 now s p raw = .ok (e, t)) (hinput : validateEventInput raw = .ok input)
    (hplain : input.Plain) : Guarded sha256 t raw := by
  intro later c input' other hinput' hother htenant hid hne
  obtain rfl : input' = input := Except.ok.inj (hinput'.symm.trans hinput)
  obtain ⟨input'', hinput'', -, -, happend⟩ := append_ok h
  obtain rfl : input'' = input' := Except.ok.inj (hinput''.symm.trans hinput)
  obtain ⟨row, hrow, -, hstored⟩ := stored_of_append happend
  obtain ⟨rest, hafter, -⟩ := after_events sha256 t later
  obtain ⟨event, hread, hcanonical⟩ := canonical_of_stored hplain hstored
  have hfound : (after sha256 t later).rowByEventId other.tenantId other.eventId = some row := by
    rw [htenant, hid]
    exact rowByEventId_append hrow hafter
  have hconflict := @append_of_stored sha256 c.now _ _ _ _ hfound hread
  rw [if_neg (fun hsame => hne ((of_decide_eq_true hsame).symm.trans hcanonical))] at hconflict
  have hfails : ∃ err, append sha256 c.now (after sha256 t later) c.principal c.raw = .error err := by
    cases happend : append sha256 c.now (after sha256 t later) c.principal c.raw with
    | error err => exact ⟨err, rfl⟩
    | ok result =>
      obtain ⟨input', hinput', -, -, hstore⟩ := append_ok happend
      obtain rfl : input' = other := Except.ok.inj (hinput'.symm.trans hother)
      rw [hconflict] at hstore
      cases hstore
  refine ⟨?_, hfails, fun hwrite hinvariants => ?_⟩
  · obtain ⟨err, herr⟩ := hfails
    rw [AppendCall.run, herr]
  · rw [append_admitted hother hwrite hinvariants, hconflict]

/-- An input that can be repeated at once is plain. -/
theorem plain_of_repeatable (h : append sha256 now s p raw = .ok (e, t)) (hinput : validateEventInput raw = .ok input)
    (hrepeat : Repeatable sha256 t p raw) : input.Plain := by
  obtain ⟨input', hinput', -, -, happend⟩ := append_ok h
  obtain rfl : input' = input := Except.ok.inj (hinput'.symm.trans hinput)
  obtain ⟨row, hrow, -, -⟩ := stored_of_append happend
  obtain ⟨-, -, -, event, -, -, -, hagain⟩ := hrepeat [] now
  obtain ⟨input'', hinput'', -, -, hstore⟩ := append_ok hagain
  obtain rfl : input'' = input' := Except.ok.inj (hinput''.symm.trans hinput)
  have hsame : t.rowByEventId input''.tenantId input''.eventId = some row := hrow
  rw [after, List.foldl_nil, LedgerStore.append, hsame] at hstore
  simp only at hstore
  split at hstore
  · cases hstore
  · next existing hread =>
    split at hstore
    · next hcontent => exact plain_of_sameCanonicalContent hread hcontent
    · cases hstore

/-- **When an append can be repeated.** An accepted append can be repeated after any later calls, and other content
under its identity is refused after any later calls, exactly when the columns keep all of the input: its actor has
no property besides the type and the id, and neither causal id is `null`. -/
theorem repeatable_iff (h : append sha256 now s p raw = .ok (e, t)) :
    (Repeatable sha256 t p raw ∧ Guarded sha256 t raw) ↔ replayable raw = true := by
  obtain ⟨input, hinput, -⟩ := append_ok h
  rw [replayable_iff hinput]
  constructor
  · rintro ⟨hrepeat, -⟩
    exact plain_of_repeatable h hinput hrepeat
  · intro hplain
    exact ⟨repeatable_of_plain h hinput hplain, guarded_of_plain h hinput hplain⟩

end

/-! ## A causal id that is `null` -/

/-- An event with the given further properties. -/
def causedEvent (causation : List (Text × Value)) : Value :=
  .obj (([("version", .str "1.0"), ("event_id", .str "e"), ("event_type", .str "AGENT_REGISTERED"),
    ("tenant_id", .str "t"), ("stream_id", .str "s"), ("actor", .obj [("type", .str "SYSTEM"), ("id", .str "a")]),
    ("correlation_id", .str "c"), ("source_component", .str "ledger")] : List (Text × Value)) ++ causation)

def causedRaw (causation : List (Text × Value)) (h : (causedEvent causation).distinct = true) : JsValue :=
  ⟨causedEvent causation, h⟩

theorem repeatable_iff_no_cause :
    ∃ e t, append id "now" .empty sampleWriter (causedRaw [] (by decide)) = .ok (e, t) ∧
      Repeatable id t sampleWriter (causedRaw [] (by decide)) ∧ Guarded id t (causedRaw [] (by decide)) := by
  have hok : (append id "now" .empty sampleWriter (causedRaw [] (by decide))).isOk = true := by decide +kernel
  cases happend : append id "now" .empty sampleWriter (causedRaw [] (by decide)) with
  | error err =>
    rw [happend] at hok
    cases hok
  | ok result => exact ⟨result.1, result.2, rfl, (repeatable_iff happend).2 (by decide)⟩

/-- An event with `causation_id: null` is accepted once, and refused as a conflict with itself the second time. -/
theorem repeatable_iff_null_cause :
    ¬ ∀ (sha256 : Text → Text) (now : Text) (s t : LedgerStore) (p : LedgerPrincipal) (raw : JsValue) (e : LedgerEvent),
      append sha256 now s p raw = .ok (e, t) → Repeatable sha256 t p raw ∧ Guarded sha256 t raw := by
  intro h
  have hok : (append id "now" .empty sampleWriter (causedRaw [("causation_id", .null)] (by decide))).isOk = true := by
    decide +kernel
  have hagain : ((append id "now" .empty sampleWriter (causedRaw [("causation_id", .null)] (by decide))).bind fun r =>
      append id "now" r.2 sampleWriter (causedRaw [("causation_id", .null)] (by decide))).isOk = false := by
    decide +kernel
  cases happend : append id "now" .empty sampleWriter (causedRaw [("causation_id", .null)] (by decide)) with
  | error err =>
    rw [happend] at hok
    cases hok
  | ok result =>
    obtain ⟨-, -, -, e, -, -, -, hrepeat⟩ := (h id "now" .empty result.2 sampleWriter _ result.1 happend).1 [] "now"
    rw [happend] at hagain
    simp only [after, List.foldl_nil] at hrepeat
    simp only [Except.bind, hrepeat] at hagain
    cases hagain

end Tna.Ledger
