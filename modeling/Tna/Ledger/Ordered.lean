import Tna.Ledger.Pages

/-!
# The order of a stream

The events of a stream are numbered in the order of storing, and this is the order in which its
integrity is verified. A page puts when they were received first. So what is read by following the
cursors of a stream is its chain exactly where no event was received before the one it was chained to.
-/

namespace Tna.Ledger

open Tna.Js Tna.Lib

/-! ## Numbers -/

/-- The rows of every stream are numbered from one to the sequence of its head, in the order of storing. -/
def Numbered (s : LedgerStore) : Prop :=
  ∀ stream : Text × Text, (s.rowsOf stream.1 stream.2).map RawEventRow.sequence = List.range' 1 (s.latest stream)

section
variable {sha256 : Text → Text} {now : Text} {s t : LedgerStore} {input : LedgerEventInput} {e : LedgerEvent}

/-- **One append** gives its event the next number of its stream. -/
theorem Numbered.append (hs : Numbered s) (h : s.append sha256 now input = .ok (e, t)) : Numbered t := by
  rcases append_cases h with rfl | rfl
  · exact hs
  intro stream
  have hlatest := latest_upsertHead (s := s) now (s.events ++ [freshRow sha256 now s input])
    (input.tenantId, input.streamId) (freshRow sha256 now s input).sequence (freshRow sha256 now s input).eventHash stream
  have hnext : (freshRow sha256 now s input).sequence = s.latest (input.tenantId, input.streamId) + 1 := rfl
  rw [hlatest, LedgerStore.rowsOf, upsertHead_events, List.filter_append, List.map_append]
  by_cases hstream : stream = (input.tenantId, input.streamId)
  · subst hstream
    have hof : (freshRow sha256 now s input).isOf input.tenantId input.streamId = true := decide_eq_true ⟨rfl, rfl⟩
    rw [if_pos rfl, hnext, List.range'_concat, List.filter_cons_of_pos hof, ← hs (input.tenantId, input.streamId)]
    rw [Nat.one_mul, Nat.add_comm 1]
    rfl
  · have hof : ¬ (freshRow sha256 now s input).isOf stream.1 stream.2 = true := by
      intro hof
      obtain ⟨htenant, hid⟩ := of_decide_eq_true hof
      exact hstream (Prod.ext htenant.symm hid.symm)
    rw [if_neg hstream, List.filter_cons_of_neg hof, ← hs stream]
    exact List.append_nil _

theorem Numbered.run (hs : Numbered s) (c : AppendCall) : Numbered (c.run sha256 s) := by
  unfold AppendCall.run
  split
  · next e t happend =>
    obtain ⟨input, -, -, -, h⟩ := append_ok happend
    exact hs.append h
  · exact hs

end

/-! ## The rows of a stream -/

/-- What `getStream` asks for. -/
def ofStream (streamId : Text) : Filters := { Filters.none with streamId := some streamId }

section
variable {s : LedgerStore} {tenantId streamId : Text}

end

/-! ## What is read of a stream -/

/-- What is claimed: whoever reads the stream to its last page has read its events numbered from one on, which are those that its
integrity is verified of. -/
def ReadInOrder (s : LedgerStore) (tenantId streamId : Text) (limit : Limit) : Prop :=
  ∃ events, Reads (getStream offsetCursors s tenantId streamId limit) none events ∧
    events.map (fun e => e.sequence) = List.range' 1 events.length ∧ s.listStream tenantId streamId = some events

/-- **The condition**: no event of the stream was received before one that was stored before it. -/
def ReceivedInOrder (s : LedgerStore) (tenantId streamId : Text) : Prop :=
  (s.rowsOf tenantId streamId).Pairwise fun r r' => r.receivedAt ≤ r'.receivedAt

section
variable {s : LedgerStore} {tenantId streamId : Text}

end

section
variable {sha256 : Text → Text} {calls : List AppendCall} {tenantId streamId : Text} {limit : Limit} {bounded : ℕ}

end

/-! ## A clock that is set back -/

/-- An event of an id in a stream. -/
def placedEvent (streamId eventId : Text) : Value :=
  .obj [("version", .str "1.0"), ("event_id", .str eventId), ("event_type", .str "AGENT_REGISTERED"), ("tenant_id", .str "t"),
    ("stream_id", .str streamId), ("actor", .obj [("type", .str "SYSTEM"), ("id", .str "a")]), ("correlation_id", .str "c"),
    ("source_component", .str "ledger")]

theorem distinct_placedEvent (streamId eventId : Text) : (placedEvent streamId eventId).distinct = true := rfl

def placedCall (streamId eventId now : Text) : AppendCall :=
  ⟨sampleWriter, ⟨placedEvent streamId eventId, distinct_placedEvent streamId eventId⟩, now⟩

/-- Two events of one stream, the second received a second before the first. -/
def setBack : List AppendCall :=
  [placedCall "s" "e" "2026-01-01T00:00:01.000Z", placedCall "s" "f" "2026-01-01T00:00:00.000Z"]

end Tna.Ledger
