import Tna.Ledger.Replay

/-!
# Sequences follow the order of storing

An append numbers its event on from the head of its stream. So of two events of one
stream the one that was stored first has the smaller sequence, whatever the writers are.
-/

namespace Tna.Ledger

open Tna.Js Tna.Lib

/-- The stream a row is in. -/
def RawEventRow.stream (r : RawEventRow) : Text × Text := (r.tenantId, r.streamId)

/-- The sequence of the head of a stream. -/
def LedgerStore.latest (s : LedgerStore) (stream : Text × Text) : Nat :=
  ((s.streamHead stream.1 stream.2).map StreamHead.latestSequence).getD 0

/-- The sequences of a stream increase in the order of storing, up to its head. -/
structure Sequenced (s : LedgerStore) : Prop where
  increasing : s.events.Pairwise fun r r' => r.stream = r'.stream → r.sequence < r'.sequence
  bounded : ∀ r ∈ s.events, r.sequence ≤ s.latest r.stream

section
variable {sha256 : Text → Text} {now : Text} {s t : LedgerStore} {input : LedgerEventInput} {e : LedgerEvent}

theorem sequenced_empty : Sequenced .empty := ⟨.nil, List.forall_mem_nil _⟩

theorem latest_upsertHead (now : Text) (rows : List RawEventRow) (stream : Text × Text) (n : Nat) (eventHash : Text)
    (other : Text × Text) :
    (LedgerStore.upsertHead { s with events := rows } stream.1 stream.2 n eventHash now).latest other =
      if other = stream then n else s.latest other := by
  unfold LedgerStore.latest
  split
  · next heq =>
    subst heq
    obtain ⟨head, hhead, hn, -⟩ := streamHead_upsertHead_self { s with events := rows } other.1 other.2 n eventHash now
    rw [hhead, Option.map_some, Option.getD_some, hn]
  · next hne =>
    rw [streamHead_upsertHead_of_ne]
    · rfl
    · rintro ⟨htenant, hstream⟩
      exact hne (Prod.ext htenant hstream)

/-- **One append** numbers its event above all that are stored in its stream. -/
theorem Sequenced.append (hs : Sequenced s) (h : s.append sha256 now input = .ok (e, t)) : Sequenced t := by
  rcases append_cases h with rfl | rfl
  · exact hs
  have hlatest := latest_upsertHead (s := s) now (s.events ++ [freshRow sha256 now s input])
    (input.tenantId, input.streamId) (freshRow sha256 now s input).sequence (freshRow sha256 now s input).eventHash
  have hnext : (freshRow sha256 now s input).sequence = s.latest (input.tenantId, input.streamId) + 1 := rfl
  constructor
  · rw [upsertHead_events, List.pairwise_append]
    refine ⟨hs.increasing, List.pairwise_singleton _ _, ?_⟩
    intro r hr r' hr' hstream
    rw [List.mem_singleton.1 hr'] at hstream ⊢
    have hbound := hs.bounded r hr
    rw [hstream] at hbound
    exact Nat.lt_succ_of_le hbound
  · intro r hr
    rw [upsertHead_events] at hr
    rw [hlatest]
    rcases List.mem_append.1 hr with hr | hr
    · have hbound := hs.bounded r hr
      split
      · next heq =>
        rw [heq] at hbound
        exact Nat.le_succ_of_le hbound
      · exact hbound
    · rw [List.mem_singleton.1 hr]
      exact le_of_eq (if_pos rfl).symm

theorem Sequenced.run (hs : Sequenced s) (c : AppendCall) : Sequenced (c.run sha256 s) := by
  unfold AppendCall.run
  split
  · next e t happend =>
    obtain ⟨input, -, -, -, h⟩ := append_ok happend
    exact hs.append h
  · exact hs

/-- What is stored in a prefix of the events has a smaller sequence than what is not. -/
theorem Sequenced.lt (hs : Sequenced s) {before : List RawEventRow} (hbefore : before <+: s.events) {r r' : RawEventRow}
    (hr : r ∈ before) (hr' : r' ∈ s.events) (hnot : r' ∉ before) (hstream : r.stream = r'.stream) :
    r.sequence < r'.sequence := by
  obtain ⟨after, hafter⟩ := hbefore
  have hin : r' ∈ after := by
    rw [← hafter] at hr'
    exact (List.mem_append.1 hr').resolve_left hnot
  have hpairs := hs.increasing
  rw [← hafter, List.pairwise_append] at hpairs
  exact hpairs.2.2 r hr r' hin hstream

/-! ## The stream of an accepted append -/

/-- What is accepted is in the stream that was submitted. -/
theorem validateEventInput_stream {raw : JsValue} {o : JsObject} (ho : raw.asObject? = some o)
    (h : validateEventInput raw = .ok input) : (o.get "stream_id").val = .str input.streamId := by
  unfold validateEventInput at h
  rw [ho] at h
  obtain ⟨_, -, h⟩ := bind_ok h
  obtain ⟨_, -, h⟩ := bind_ok h
  obtain ⟨_, -, h⟩ := bind_ok h
  obtain ⟨_, -, h⟩ := bind_ok h
  obtain ⟨streamId, hstream, h⟩ := bind_ok h
  iterate 13 obtain ⟨_, -, h⟩ := bind_ok h
  split at h
  · cases h
  · obtain ⟨_, -, h⟩ := bind_ok h
    cases h
    exact idField_val hstream

/-- Whether it is new or was stored before, the event of an accepted append is in the stream that was submitted. -/
theorem stream_of_append (h : s.append sha256 now input = .ok (e, t)) :
    ∃ row ∈ t.events, row.identity = (input.tenantId, input.eventId) ∧ row.stream = (input.tenantId, input.streamId) := by
  obtain ⟨row, hrow, -, hcontent⟩ := stored_of_append h
  obtain ⟨hmem, hidentity⟩ := identity_of_rowByEventId hrow
  have htenant : row.tenantId = input.tenantId := congrArg Prod.fst hidentity
  refine ⟨row, hmem, hidentity, Prod.ext htenant ?_⟩
  rcases hcontent with ⟨_, _, _, _, _, rfl⟩ | ⟨e', hread, hsame⟩
  · rfl
  · have hreads := toLedgerEvent_readsAs hread
    have hstream := Value.sameData_of_canonical (EventContent.distinct_toValue hreads.distinct)
      (EventContent.distinct_toValue input.content_distinct) (of_decide_eq_true hsame) "stream_id"
    have heq : e'.streamId = input.streamId := Value.SameData.str_eq hstream
    rw [← heq]
    exact hreads.streamId.symm

end

end Tna.Ledger
