import Tna.Ledger.Identity

/-!
# What a run stores

A row is only ever written by an accepted append, so whatever `validateEventInput`
guarantees of an input is found again in the columns. A run adds rows at the end of the
table and changes none.
-/

namespace Tna.Ledger

open Tna.Js Tna.Lib

/-- What the caller supplies of an event: the payload, the four contexts, the retention object and the actor. -/
def EventContent.supplied (e : EventContent) : List Value :=
  [e.payload, e.authorityContext, e.specContext, e.executionContext, e.artifactContext, e.retention, e.actor]

/-- The row is one that the input was written to. -/
def RawEventRow.Stores (row : RawEventRow) (input : LedgerEventInput) : Prop :=
  ∃ n now payloadHash prev eventHash, row = input.toRow n now payloadHash prev eventHash

section
variable {sha256 : Text → Text} {now : Text} {s t : LedgerStore} {raw : JsValue} {input : LedgerEventInput}

/-! ## What is known of an accepted input -/

/-- Where the actor and the retention object of an accepted input come from, and what the last two checks say of it. -/
theorem validateEventInput_checked (h : validateEventInput raw = .ok input) :
    ∃ o, raw.asObject? = some o ∧ actorField o = .ok input.actor ∧ retentionField o = .ok input.retention ∧
      findSecret input.payload input.authorityContext input.executionContext input.specContext
        input.artifactContext = none ∧
      assertComplete input.eventType input.authorityContext input.specContext input.executionContext
        input.artifactContext = .ok () := by
  unfold validateEventInput at h
  split at h
  · cases h
  · next o ho =>
    refine ⟨o, ho, ?_⟩
    iterate 5 obtain ⟨_, -, h⟩ := bind_ok h
    obtain ⟨actor, hactor, h⟩ := bind_ok h
    iterate 10 obtain ⟨_, -, h⟩ := bind_ok h
    obtain ⟨retention, hretention, h⟩ := bind_ok h
    obtain ⟨_, -, h⟩ := bind_ok h
    split at h
    · cases h
    · next hclean =>
      obtain ⟨_, hcomplete, h⟩ := bind_ok h
      cases h
      exact ⟨hactor, hretention, hclean, hcomplete⟩

/-! ## One call -/

theorem append_ok {p : LedgerPrincipal} {e : LedgerEvent} (h : append sha256 now s p raw = .ok (e, t)) :
    ∃ input, validateEventInput raw = .ok input ∧ assertCanWrite p input = .ok () ∧ assertInvariants s input = .ok () ∧
      s.append sha256 now input = .ok (e, t) := by
  unfold append at h
  split at h
  · cases h
  · next input hinput =>
    split at h
    · cases h
    · next hwrite =>
      split at h
      · cases h
      · next hinvariants => exact ⟨input, hinput, hwrite, hinvariants, h⟩

/-- What a call does to the events: nothing, or it stores an admitted input in a new row at the end. -/
theorem AppendCall.run_events (sha256 : Text → Text) (s : LedgerStore) (c : AppendCall) :
    c.run sha256 s = s ∨
      ∃ input, validateEventInput c.raw = .ok input ∧ assertCanWrite c.principal input = .ok () ∧
        assertInvariants s input = .ok () ∧
        (c.run sha256 s).events = s.events ++ [freshRow sha256 c.now s input] := by
  unfold AppendCall.run
  split
  · next e t happend =>
    obtain ⟨input, hinput, hwrite, hinvariants, h⟩ := append_ok happend
    rcases append_cases h with rfl | rfl
    · exact .inl rfl
    · refine .inr ⟨input, hinput, hwrite, hinvariants, ?_⟩
      rw [upsertHead_events]
  · exact .inl rfl

theorem freshRow_stores : (freshRow sha256 now s input).Stores input := ⟨_, _, _, _, _, rfl⟩

/-! ## A run -/

/-- **A run only adds rows**, each of which stores an input that one of its calls submitted. -/
theorem foldl_run_events (sha256 : Text → Text) (calls : List AppendCall) (s : LedgerStore) :
    ∃ rows, (calls.foldl (AppendCall.run sha256) s).events = s.events ++ rows ∧
      ∀ row ∈ rows, ∃ c ∈ calls, ∃ input, validateEventInput c.raw = .ok input ∧ row.Stores input := by
  induction calls generalizing s with
  | nil => exact ⟨[], (List.append_nil _).symm, List.forall_mem_nil _⟩
  | cons c rest ih =>
    obtain ⟨rows, hrows, hstored⟩ := ih (c.run sha256 s)
    have hstored : ∀ row ∈ rows, ∃ d ∈ c :: rest, ∃ input, validateEventInput d.raw = .ok input ∧ row.Stores input := by
      intro row hrow
      obtain ⟨d, hd, h⟩ := hstored row hrow
      exact ⟨d, List.mem_cons_of_mem _ hd, h⟩
    rw [List.foldl_cons, hrows]
    rcases AppendCall.run_events sha256 s c with hsame | ⟨input, hinput, -, -, hgrown⟩
    · exact ⟨rows, by rw [hsame], hstored⟩
    · refine ⟨freshRow sha256 c.now s input :: rows, by rw [hgrown, List.append_assoc]; rfl, ?_⟩
      intro row hrow
      rcases List.mem_cons.1 hrow with rfl | hrow
      · exact ⟨c, List.mem_cons_self .., input, hinput, freshRow_stores⟩
      · exact hstored row hrow

/-- Every row of a reached store stores an accepted input. -/
theorem stored_of_run {calls : List AppendCall} {row : RawEventRow} (h : row ∈ (runAppends sha256 calls).events) :
    ∃ c ∈ calls, ∃ input, validateEventInput c.raw = .ok input ∧ row.Stores input := by
  obtain ⟨rows, hrows, hstored⟩ := foldl_run_events sha256 calls .empty
  rw [runAppends, hrows] at h
  exact hstored row h

end

/-! ## Reading a stored row -/

/-- The caller's objects as a stored row gives them back. -/
theorem toLedgerEvent_stores {row : RawEventRow} {input : LedgerEventInput} (h : row.Stores input) :
    ∃ e, toLedgerEvent row = some e ∧ e.toEventContent =
      { input.content with
        actor := input.actor.stored
        causationId := optionalId input.causationId.orNull
        parentEventId := optionalId input.parentEventId.orNull
        authorityContext := readBack input.authorityContext
        specContext := readBack input.specContext
        executionContext := readBack input.executionContext
        artifactContext := readBack input.artifactContext
        payload := readBack input.payload
        retention := readBack input.retention } := by
  obtain ⟨n, now, payloadHash, prev, eventHash, rfl⟩ := h
  simp only [toLedgerEvent, LedgerEventInput.toRow, parseColumn_stringifyColumn, Option.bind_eq_bind, Option.bind_some]
  exact ⟨_, rfl, rfl⟩

end Tna.Ledger
