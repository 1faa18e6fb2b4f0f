import Tna.Lib.HashChain
import Tna.Lib.Outcome
import Tna.Ledger.Integrity

/-!
# Append keeps every stream verifiable

A stream is sound when its rows, in the order they were inserted, are a hash
chain from genesis, each row verifies, and the head describes the last row.
Appending keeps every stream sound as long as the actors are exact, and a sound
stream is what `verifyStream` accepts.
-/

namespace Tna.Ledger

open Tna.Js Tna.Lib

/-- How a row shows its place in the chain. -/
def rowChain : ChainView RawEventRow Text := ⟨RawEventRow.sequence, RawEventRow.previousEventHash, RawEventRow.eventHash⟩

/-- The rows of a stream in insertion order. -/
def LedgerStore.rowsOf (s : LedgerStore) (tenantId streamId : Text) : List RawEventRow :=
  s.events.filter (·.isOf tenantId streamId)

/-- The hashes recomputed from the stored columns are the stored hashes. -/
def RowSound (sha256 : Text → Text) (r : RawEventRow) : Prop :=
  ∃ e, toLedgerEvent r = some e ∧ e.eventHash = r.eventHash ∧
    eventFailure sha256 r.previousEventHash r.sequence e = none

/-- The head of a stream describes its rows. -/
def HeadSound (rows : List RawEventRow) : Option StreamHead → Prop
  | none => rows = []
  | some h => rows ≠ [] ∧ h.latestSequence = rows.length ∧ h.latestEventHash = rowChain.lastHash genesisHash rows ∧
      h.integrityStatus = .valid

structure StreamSound (sha256 : Text → Text) (s : LedgerStore) (tenantId streamId : Text) : Prop where
  chain : rowChain.ChainFrom genesisHash 1 (s.rowsOf tenantId streamId)
  rows : ∀ r ∈ s.rowsOf tenantId streamId, RowSound sha256 r
  head : HeadSound (s.rowsOf tenantId streamId) (s.streamHead tenantId streamId)

section
variable {sha256 : Text → Text}

/-! ## Verification accepts a sound stream -/

variable {n : Nat} {rows : List RawEventRow} {head : Option StreamHead} {s s' : LedgerStore} {streamId tenantId st t now : Text}
  {row : RawEventRow} {e : LedgerEvent} {input : LedgerEventInput} {raw : JsValue}

/-- The walk along sound rows ends with the hash of the last. -/
theorem checkChain_sound {h : Text} (hc : rowChain.ChainFrom h n rows) (hr : ∀ r ∈ rows, RowSound sha256 r) :
    ∃ events, rows.mapM toLedgerEvent = some events ∧ events.length = rows.length ∧
      checkChain sha256 h n events = .ok (rowChain.lastHash h rows) := by
  induction rows generalizing h n with
  | nil => exact ⟨[], rfl, rfl, rfl⟩
  | cons r rest ih =>
    obtain ⟨hseq, hprev, hrest⟩ := hc
    obtain ⟨e, he, hhash, hok⟩ := hr r (List.mem_cons_self ..)
    obtain ⟨events, hevents, hlen, hcheck⟩ := ih hrest fun x hx => hr x (List.mem_cons_of_mem _ hx)
    have hok : eventFailure sha256 h n e = none := by
      rw [← hseq, ← hprev]
      exact hok
    refine ⟨e :: events, ?_, by rw [List.length_cons, hlen, List.length_cons], ?_⟩
    · rw [List.mapM_cons, he, hevents]
      rfl
    · rw [checkChain, hok, hhash]
      exact hcheck

theorem headFailure_sound (h : HeadSound rows head) :
    headFailure head rows.length (rowChain.lastHash genesisHash rows) = none := by
  cases head with
  | none => rfl
  | some hd =>
    obtain ⟨hne, hseq, hhash, -⟩ := h
    have hpos : rows.length ≠ 0 := by simpa using hne
    simp [headFailure, hseq, hhash, hpos]

theorem streamRows_sound (h : StreamSound sha256 s tenantId streamId) :
    s.streamRows tenantId streamId = s.rowsOf tenantId streamId :=
  h.chain.insertionSort_eq

/-- A sound stream verifies, and verifying it marks nothing. -/
theorem verifyStream_sound (h : StreamSound sha256 s tenantId streamId) (now : Text) (persist : Bool) :
    verifyStream sha256 now s tenantId streamId persist =
      some (⟨true, tenantId, streamId, (s.rowsOf tenantId streamId).length, none, none⟩, s) := by
  obtain ⟨events, hevents, hlen, hcheck⟩ := checkChain_sound h.chain h.rows
  have hlist : s.listStream tenantId streamId = some events := by
    rw [LedgerStore.listStream, streamRows_sound h, hevents]
  have hhead := headFailure_sound h.head
  rw [verifyStream, hlist]
  simp only [hcheck, hlen, hhead]

/-! ## The statements of the append transaction -/

theorem insertEvent_eq_some (h : s.insertEvent row = some s') : s' = { s with events := s.events ++ [row] } := by
  unfold LedgerStore.insertEvent at h
  split at h
  · cases h
  · cases h; rfl

theorem upsertHead_events (s : LedgerStore) (tenantId streamId : Text) (n : Nat) (eventHash now : Text) :
    (s.upsertHead tenantId streamId n eventHash now).events = s.events := by
  unfold LedgerStore.upsertHead
  split <;> rfl

theorem isOf_iff {h : StreamHead} : h.isOf tenantId streamId = true ↔ h.tenantId = tenantId ∧ h.streamId = streamId := by
  simp [StreamHead.isOf]

/-- Updating heads in place moves none of them to another stream. -/
theorem find?_map_isOf (heads : List StreamHead) (t st : Text) {f : StreamHead → StreamHead}
    (hf : ∀ h, (f h).isOf t st = h.isOf t st) :
    (heads.map f).find? (·.isOf t st) = (heads.find? (·.isOf t st)).map f := by
  rw [List.find?_map]
  congr 2
  funext h
  exact hf h

/-- The head a stream has after the update of its own head. -/
theorem streamHead_upsertHead_self (s : LedgerStore) (tenantId streamId : Text) (n : Nat) (eventHash now : Text) :
    ∃ h, (s.upsertHead tenantId streamId n eventHash now).streamHead tenantId streamId = some h ∧
      h.latestSequence = n ∧ h.latestEventHash = eventHash ∧
      h.integrityStatus = ((s.streamHead tenantId streamId).map StreamHead.integrityStatus).getD .valid := by
  unfold LedgerStore.upsertHead
  cases hh : s.streamHead tenantId streamId with
  | none =>
    refine ⟨⟨tenantId, streamId, n, eventHash, now, .valid⟩, ?_, rfl, rfl, rfl⟩
    rw [LedgerStore.streamHead] at hh
    simp only [Option.isSome_none, Bool.false_eq_true, if_false]
    rw [LedgerStore.streamHead, List.find?_append, hh, Option.none_or]
    exact List.find?_cons_of_pos (isOf_iff.2 ⟨rfl, rfl⟩)
  | some h₀ =>
    simp only [Option.isSome_some, if_true]
    rw [LedgerStore.streamHead] at hh
    refine ⟨{ h₀ with latestSequence := n, latestEventHash := eventHash, updatedAt := now }, ?_, rfl, rfl, rfl⟩
    rw [LedgerStore.streamHead, find?_map_isOf, hh, Option.map_some, if_pos (List.find?_some hh)]
    intro h
    split <;> rfl

/-- The head of another stream does not change. -/
theorem streamHead_upsertHead_of_ne (s : LedgerStore) (n : Nat) (eventHash now : Text) (hne : ¬ (t = tenantId ∧ st = streamId)) :
    (s.upsertHead tenantId streamId n eventHash now).streamHead t st = s.streamHead t st := by
  unfold LedgerStore.upsertHead
  split
  · rw [LedgerStore.streamHead, find?_map_isOf, LedgerStore.streamHead]
    · cases hf : s.streams.find? (·.isOf t st) with
      | none => rfl
      | some h =>
        rw [Option.map_some, if_neg]
        intro hof
        obtain ⟨ht, hst⟩ := isOf_iff.1 hof
        obtain ⟨ht', hst'⟩ := isOf_iff.1 (List.find?_some hf)
        exact hne ⟨ht'.symm.trans ht, hst'.symm.trans hst⟩
    · intro h
      split <;> rfl
  · have hf : ¬ (tenantId = t ∧ streamId = st) := fun h => hne ⟨h.1.symm, h.2.symm⟩
    simp [LedgerStore.streamHead, List.find?_append, StreamHead.isOf, hf]

/-- The row a fresh append inserts. -/
def freshRow (sha256 : Text → Text) (now : Text) (s : LedgerStore) (input : LedgerEventInput) : RawEventRow :=
  let head := s.streamHead input.tenantId input.streamId
  let n := (head.map StreamHead.latestSequence).getD 0 + 1
  let prev := (head.map StreamHead.latestEventHash).getD genesisHash
  let payloadHash := computePayloadHash sha256 input.content.payload
  input.toRow n now payloadHash prev (computeEventHash sha256 (input.content.hashCore n payloadHash prev))

/-- What a successful append did: it found the event stored already and left the
store alone, or it added one row at the end of its stream and updated the head. -/
theorem append_cases (h : s.append sha256 now input = .ok (e, s')) :
    s' = s ∨
      s' = LedgerStore.upsertHead { s with events := s.events ++ [freshRow sha256 now s input] }
        input.tenantId input.streamId (freshRow sha256 now s input).sequence (freshRow sha256 now s input).eventHash
        now := by
  unfold LedgerStore.append at h
  split at h
  · split at h
    · cases h
    · split at h
      · cases h
        exact .inl rfl
      · cases h
  · simp only at h
    split at h
    · cases h
    · split at h
      · cases h
      · next s₁ hins =>
        cases h
        rw [insertEvent_eq_some hins]
        exact .inr rfl

theorem freshRow_isOf : (freshRow sha256 now s input).isOf t st = true ↔ input.tenantId = t ∧ input.streamId = st := by
  rw [RawEventRow.isOf]
  exact decide_eq_true_iff

theorem rowSound_freshRow (hactor : input.actor.Exact) : RowSound sha256 (freshRow sha256 now s input) := by
  obtain ⟨e, he, -, hhash, hok⟩ := eventFailure_toRow sha256 hactor
    (((s.streamHead input.tenantId input.streamId).map StreamHead.latestSequence).getD 0 + 1) now
    (((s.streamHead input.tenantId input.streamId).map StreamHead.latestEventHash).getD genesisHash)
  exact ⟨e, he, hhash, hok⟩

/-! ## One append -/

/-- With a sound head, the next sequence and the previous hash continue the chain. -/
theorem headSound_next (h : HeadSound rows head) :
    (head.map StreamHead.latestSequence).getD 0 = rows.length ∧
      (head.map StreamHead.latestEventHash).getD genesisHash = rowChain.lastHash genesisHash rows ∧
      (head.map StreamHead.integrityStatus).getD .valid = .valid := by
  cases head with
  | none =>
    rw [HeadSound] at h
    subst h
    exact ⟨rfl, rfl, rfl⟩
  | some hd => exact ⟨h.2.1, h.2.2.1, h.2.2.2⟩

/-- A row that continues the chain keeps the stream sound. -/
theorem StreamSound.extend (h : StreamSound sha256 s t st) (hof : row.isOf t st = true)
    (hseq : row.sequence = 1 + (s.rowsOf t st).length)
    (hprev : row.previousEventHash = rowChain.lastHash genesisHash (s.rowsOf t st)) (hrow : RowSound sha256 row) :
    StreamSound sha256
      (LedgerStore.upsertHead { s with events := s.events ++ [row] } t st row.sequence row.eventHash now) t st := by
  have hrows : (LedgerStore.upsertHead { s with events := s.events ++ [row] } t st row.sequence row.eventHash
      now).rowsOf t st = s.rowsOf t st ++ [row] := by
    rw [LedgerStore.rowsOf, upsertHead_events, List.filter_append, List.filter_cons_of_pos hof]
    rfl
  obtain ⟨h', hh', hn, hhash, hstatus⟩ :=
    streamHead_upsertHead_self { s with events := s.events ++ [row] } t st row.sequence row.eventHash now
  refine ⟨?_, ?_, ?_⟩
  · rw [hrows]
    exact h.chain.snoc hseq hprev
  · rw [hrows]
    intro r hr
    rcases List.mem_append.1 hr with hr | hr
    · exact h.rows r hr
    · obtain rfl := List.mem_singleton.1 hr
      exact hrow
  · rw [hrows, hh']
    refine ⟨by simp, ?_, ?_, hstatus.trans (headSound_next h.head).2.2⟩
    · rw [hn, hseq, List.length_append, Nat.add_comm]
      rfl
    · rw [ChainView.lastHash_snoc]
      exact hhash

/-- A row of another stream leaves the stream as it was. -/
theorem StreamSound.frame {eventHash : Text} (h : StreamSound sha256 s t st) (hof : row.isOf t st = false)
    (hne : ¬ (t = tenantId ∧ st = streamId)) :
    StreamSound sha256
      (LedgerStore.upsertHead { s with events := s.events ++ [row] } tenantId streamId n eventHash now) t st := by
  have hrows : (LedgerStore.upsertHead { s with events := s.events ++ [row] } tenantId streamId n eventHash
      now).rowsOf t st = s.rowsOf t st := by
    rw [LedgerStore.rowsOf, upsertHead_events, List.filter_append, List.filter_cons_of_neg (by simp [hof])]
    exact List.append_nil _
  refine ⟨by rw [hrows]; exact h.chain, by rw [hrows]; exact h.rows, ?_⟩
  rw [hrows, streamHead_upsertHead_of_ne _ _ _ _ hne]
  exact h.head

/-- **One append keeps every stream sound**, when the actor of its input is exact. -/
theorem append_sound (happ : s.append sha256 now input = .ok (e, s')) (hactor : input.actor.Exact)
    (hs : ∀ t st, StreamSound sha256 s t st) (t st : Text) : StreamSound sha256 s' t st := by
  rcases append_cases happ with rfl | rfl
  · exact hs t st
  by_cases hkey : t = input.tenantId ∧ st = input.streamId
  · obtain ⟨rfl, rfl⟩ := hkey
    obtain ⟨hseq, hhash, -⟩ := headSound_next (hs input.tenantId input.streamId).head
    refine (hs _ _).extend (freshRow_isOf.2 ⟨rfl, rfl⟩) ?_ hhash (rowSound_freshRow hactor)
    rw [Nat.add_comm, ← hseq]
    rfl
  · refine (hs t st).frame ?_ hkey
    rw [Bool.eq_false_iff]
    intro hof
    obtain ⟨ht, hst⟩ := freshRow_isOf.1 hof
    exact hkey ⟨ht.symm, hst.symm⟩

/-! ## A run of appends -/

theorem streamSound_empty (t st : Text) : StreamSound sha256 .empty t st :=
  ⟨trivial, by simp [LedgerStore.rowsOf, LedgerStore.empty], rfl⟩

theorem actorField_object {o : JsObject} {a : Actor} (h : actorField o = .ok a) :
    (o.get "actor").asObject? = some a.object := by
  unfold actorField at h
  split at h
  · cases h
  · next obj hobj =>
    split at h
    · cases h
    · split at h
      · cases h
      · cases h
        exact hobj

/-- The actor an accepted input carries is the one that was submitted. -/
theorem validateEventInput_actor (h : validateEventInput raw = .ok input) :
    ∃ o, raw.asObject? = some o ∧ (o.get "actor").asObject? = some input.actor.object := by
  unfold validateEventInput at h
  split at h
  · cases h
  · next o ho =>
    refine ⟨o, ho, ?_⟩
    iterate 5 obtain ⟨_, -, h⟩ := bind_ok h
    obtain ⟨actor, hactor, h⟩ := bind_ok h
    iterate 12 obtain ⟨_, -, h⟩ := bind_ok h
    split at h
    · cases h
    · obtain ⟨_, -, h⟩ := bind_ok h
      cases h
      exact actorField_object hactor

theorem exact_of_actorExact (h : validateEventInput raw = .ok input) (hraw : actorExact raw = true) : input.actor.Exact := by
  obtain ⟨o, ho, ha⟩ := validateEventInput_actor h
  simp only [actorExact, ho, ha, List.all_eq_true, Bool.or_eq_true, decide_eq_true_eq] at hraw
  intro f hf hdef
  rcases hraw f hf with (hu | ht) | hi
  · rw [hdef] at hu
    cases hu
  · exact .inl ht
  · exact .inr hi

/-- One call of the facade, accepted or rejected. -/
theorem AppendCall.run_sound {c : AppendCall} (hc : actorExact c.raw = true) (hs : ∀ t st, StreamSound sha256 s t st)
    (t st : Text) : StreamSound sha256 (c.run sha256 s) t st := by
  unfold AppendCall.run
  split
  · next e s' happ =>
    unfold append at happ
    split at happ
    · cases happ
    · next input hinput =>
      split at happ
      · cases happ
      · split at happ
        · cases happ
        · exact append_sound happ (exact_of_actorExact hinput hc) hs t st
  · exact hs t st

/-- A run keeps every stream sound, from any store in which they are. -/
theorem foldl_run_sound {calls : List AppendCall} (hc : ∀ c ∈ calls, actorExact c.raw = true)
    (hs : ∀ t st, StreamSound sha256 s t st) (t st : Text) :
    StreamSound sha256 (calls.foldl (AppendCall.run sha256) s) t st := by
  induction calls generalizing s with
  | nil => exact hs t st
  | cons c rest ih =>
    refine ih (fun x hx => hc x (List.mem_cons_of_mem _ hx)) fun t st => ?_
    exact AppendCall.run_sound (hc c (List.mem_cons_self ..)) hs t st

/-- **An honest run verifies.** After any sequence of appends whose actors are
exact, every stream is a chain 1, 2, … from genesis that its head describes, its
rows give back the hashes they were stored with, and `verifyStream` accepts it
and marks nothing. -/
theorem runAppends_verifyStream {calls : List AppendCall} (hc : ∀ c ∈ calls, actorExact c.raw = true)
    (tenantId streamId now : Text) (persist : Bool) :
    StreamSound sha256 (runAppends sha256 calls) tenantId streamId ∧
      verifyStream sha256 now (runAppends sha256 calls) tenantId streamId persist =
        some (⟨true, tenantId, streamId, ((runAppends sha256 calls).rowsOf tenantId streamId).length, none, none⟩,
          runAppends sha256 calls) := by
  have hs : StreamSound sha256 (runAppends sha256 calls) tenantId streamId :=
    foldl_run_sound hc streamSound_empty tenantId streamId
  exact ⟨hs, verifyStream_sound hs now persist⟩

end

/-! ## An actor with a third field -/

/-- A writer of the tenant for events of the Ledger itself. -/
def sampleWriter : LedgerPrincipal := ⟨"w", .writer, "t", [.ledger]⟩

/-- An event whose actor has the given fields. -/
def sampleEvent (actor : List (Text × Value)) : Value :=
  .obj [("version", .str "1.0"), ("event_id", .str "e"), ("event_type", .str "AGENT_REGISTERED"),
    ("tenant_id", .str "t"), ("stream_id", .str "s"), ("actor", .obj actor), ("correlation_id", .str "c"),
    ("source_component", .str "ledger")]

def sampleCall (actor : List (Text × Value)) (h : (sampleEvent actor).distinct = true) : AppendCall :=
  ⟨sampleWriter, ⟨sampleEvent actor, h⟩, "2026-01-01T00:00:00.000Z"⟩

theorem runAppends_verifyStream_exact_actor :
    verifyStream id "now" (runAppends id [sampleCall [("type", .str "SYSTEM"), ("id", .str "a")] (by decide)]) "t" "s" true =
      some (⟨true, "t", "s", 1, none, none⟩,
        runAppends id [sampleCall [("type", .str "SYSTEM"), ("id", .str "a")] (by decide)]) := by
  have h := (@runAppends_verifyStream id
    [sampleCall [("type", .str "SYSTEM"), ("id", .str "a")] (by decide)] (by decide) "t" "s" "now" true).2
  exact h

/-- A field of the actor that is not stored makes the stream it is appended to
invalid, even when the hash never collides. -/
theorem runAppends_verifyStream_extra_field :
    ¬ ∀ sha256 : Text → Text, Function.Injective sha256 → ∀ (calls : List AppendCall) (tenantId streamId now : Text),
      ∃ count store, verifyStream sha256 now (runAppends sha256 calls) tenantId streamId true =
        some (⟨true, tenantId, streamId, count, none, none⟩, store) := by
  intro h
  obtain ⟨count, store, hv⟩ := h id Function.injective_id
    [sampleCall [("type", .str "SYSTEM"), ("id", .str "a"), ("role", .str "r")] (by decide)] "t" "s" "now"
  have hbad : (verifyStream id "now" (runAppends id
      [sampleCall [("type", .str "SYSTEM"), ("id", .str "a"), ("role", .str "r")] (by decide)]) "t" "s" true).map
        (fun r => r.1.valid) = some false := by
    decide +kernel
  rw [hv] at hbad
  cases hbad

end Tna.Ledger
