import Tna.Ledger.Chain

/-!
# One event an id

A tenant has one event at most under an event id. An append that is accepted answers
with the event of the id that was submitted, which is then stored.
-/

namespace Tna.Ledger

open Tna.Js Tna.Lib

/-- What an event is known by: `PRIMARY KEY(tenant_id, event_id)`. -/
def RawEventRow.identity (r : RawEventRow) : Text × Text := (r.tenantId, r.eventId)

/-- The identity that a caller submits. -/
def submitted (o : JsObject) (identity : Text × Text) : Prop :=
  (o.get "tenant_id").val = .str identity.1 ∧ (o.get "event_id").val = .str identity.2

/-- No two events have one identity. -/
def Identified (s : LedgerStore) : Prop := (s.events.map RawEventRow.identity).Nodup

section
variable {sha256 : Text → Text} {now : Text} {s t : LedgerStore}

theorem idField_val {o : JsObject} {name : String} {maxLen : Nat} {message id : Text}
    (h : idField o name maxLen message = .ok id) : (o.get name).val = .str id := by
  unfold idField at h
  split at h
  · next hid =>
    cases h
    exact safeId_val hid
  · cases h

variable {input : LedgerEventInput} {raw : JsValue} {e : LedgerEvent} {row : RawEventRow}

/-- What is accepted has the identity that was submitted. -/
theorem validateEventInput_submitted (h : validateEventInput raw = .ok input) :
    ∃ o, raw.asObject? = some o ∧ submitted o (input.tenantId, input.eventId) := by
  unfold validateEventInput at h
  split at h
  · cases h
  · next o ho =>
    refine ⟨o, ho, ?_⟩
    obtain ⟨_, -, h⟩ := bind_ok h
    obtain ⟨eventId, hevent, h⟩ := bind_ok h
    obtain ⟨_, -, h⟩ := bind_ok h
    obtain ⟨tenantId, htenant, h⟩ := bind_ok h
    iterate 14 obtain ⟨_, -, h⟩ := bind_ok h
    split at h
    · cases h
    · obtain ⟨_, -, h⟩ := bind_ok h
      cases h
      exact ⟨idField_val htenant, idField_val hevent⟩

/-- A row as it is read back has its id. -/
theorem toLedgerEvent_eventId (h : toLedgerEvent row = some e) : e.eventId = row.eventId := by
  unfold toLedgerEvent at h
  simp only [Option.bind_eq_bind, Option.bind_eq_some_iff, Option.some.injEq] at h
  obtain ⟨_, -, _, -, _, -, _, -, _, -, _, -, rfl⟩ := h
  rfl

theorem identity_of_rowByEventId {tenantId eventId : Text} (h : s.rowByEventId tenantId eventId = some row) :
    row ∈ s.events ∧ row.identity = (tenantId, eventId) := by
  have hids := List.find?_some h
  rw [decide_eq_true_eq] at hids
  exact ⟨List.mem_of_find?_eq_some h, Prod.ext hids.1 hids.2⟩

/-- What an accepted append does to the events: nothing where the id is stored, else one row under a new identity. -/
theorem append_events (h : s.append sha256 now input = .ok (e, t)) :
    e.eventId = input.eventId ∧
      ((t.events = s.events ∧ ∃ row ∈ s.events, row.identity = (input.tenantId, input.eventId)) ∨
        ∃ row, row.identity = (input.tenantId, input.eventId) ∧ (∀ r ∈ s.events, r.identity ≠ row.identity) ∧
          t.events = s.events ++ [row]) := by
  unfold LedgerStore.append at h
  split at h
  · next existing hexisting =>
    obtain ⟨hmem, hid⟩ := identity_of_rowByEventId hexisting
    split at h
    · cases h
    · next event hevent =>
      split at h
      · cases h
        refine ⟨?_, .inl ⟨rfl, existing, hmem, hid⟩⟩
        rw [toLedgerEvent_eventId hevent]
        exact congrArg Prod.snd hid
      · cases h
  · next hnone =>
    simp only at h
    split at h
    · cases h
    · split at h
      · cases h
      · next u hinsert =>
        cases h
        refine ⟨rfl, .inr ⟨freshRow sha256 now s input, rfl, ?_, ?_⟩⟩
        · intro r hr hidentity
          have hne := List.find?_eq_none.1 hnone r hr
          exact hne (decide_eq_true ⟨congrArg Prod.fst hidentity, congrArg Prod.snd hidentity⟩)
        · rw [upsertHead_events, insertEvent_eq_some hinsert]
          rfl

/-- **An accepted append**, of the facade: the identity it answers with is the submitted one, an event of it is stored
afterwards, and events stay identified. -/
theorem append_identified {p : LedgerPrincipal} (hidentified : Identified s) (h : append sha256 now s p raw = .ok (e, t)) :
    ∃ o identity, raw.asObject? = some o ∧ submitted o identity ∧ e.eventId = identity.2 ∧ s.events <+: t.events ∧
      (∀ r ∈ t.events, r ∈ s.events ∨ r.identity = identity) ∧ (∃ r ∈ t.events, r.identity = identity) ∧ Identified t := by
  unfold append at h
  split at h
  · cases h
  · next input hinput =>
    split at h
    · cases h
    · split at h
      · cases h
      · obtain ⟨o, ho, hsubmitted⟩ := validateEventInput_submitted hinput
        obtain ⟨hid, hevents⟩ := append_events h
        refine ⟨o, _, ho, hsubmitted, hid, ?_⟩
        rcases hevents with ⟨hsame, row, hrow, hidentity⟩ | ⟨row, hidentity, hnew, hgrown⟩
        · rw [Identified, hsame]
          exact ⟨List.prefix_rfl, fun r hr => .inl hr, ⟨row, hrow, hidentity⟩, hidentified⟩
        · rw [Identified, hgrown]
          refine ⟨List.prefix_append _ _, ?_, ⟨row, ?_, hidentity⟩, ?_⟩
          · intro r hr
            rcases List.mem_append.1 hr with hr | hr
            · exact .inl hr
            · rw [List.mem_singleton.1 hr]
              exact .inr hidentity
          · exact List.mem_append_right _ (List.mem_singleton_self row)
          · rw [List.map_append, List.nodup_append]
            refine ⟨hidentified, List.nodup_singleton _, ?_⟩
            rintro i hi j hj rfl
            rw [List.map_singleton, List.mem_singleton] at hj
            obtain ⟨r, hr, hr'⟩ := List.mem_map.1 hi
            exact hnew r hr (hr'.trans hj)

/-- A call keeps what is stored, and the identities of events apart. -/
theorem identified_run {ledger : LedgerStore} (h : Identified ledger) (call : AppendCall) :
    Identified (call.run sha256 ledger) ∧ ledger.events <+: (call.run sha256 ledger).events := by
  unfold AppendCall.run
  split
  · next event ledger' happend =>
    obtain ⟨_, _, -, -, -, hgrows, -, -, hidentified⟩ := append_identified h happend
    exact ⟨hidentified, hgrows⟩
  · exact ⟨h, List.prefix_rfl⟩

end

/-- Where events are identified, one at most has an identity. -/
theorem Identified.countP_le {s : LedgerStore} (h : Identified s) (identity : Text × Text) :
    s.events.countP (fun r => r.identity = identity) ≤ 1 := by
  have hcount := List.nodup_iff_count_le_one.1 h identity
  rw [List.count, List.countP_map] at hcount
  have hsame : s.events.countP (fun r => decide (r.identity = identity)) =
      s.events.countP ((fun i => i == identity) ∘ RawEventRow.identity) :=
    List.countP_congr fun r _ => by simp
  rw [hsame]
  exact hcount

end Tna.Ledger
