import Tna.Lib.Confined
import Tna.Ledger.Facade
import Tna.Ledger.Chain

/-!
# Tenants do not interfere

A tenant's view of the store is its rows of the three tables. Every lookup filters by tenant
first, so it gives the same on the whole store and on the view; every statement that writes
touches rows of one tenant only. A call of the facade is therefore confined to the tenant of
its principal.
-/

namespace Tna.Ledger

open Tna.Js Tna.Lib

/-- The rows of a tenant. -/
def LedgerStore.ofTenant (tenantId : Text) (s : LedgerStore) : LedgerStore where
  events := s.events.filter fun r => r.tenantId = tenantId
  streams := s.streams.filter fun h => h.tenantId = tenantId
  integrityChecks := s.integrityChecks.filter fun c => c.tenantId = tenantId

namespace LedgerStore

@[simp] theorem ofTenant_ofTenant (t : Text) (s : LedgerStore) : (s.ofTenant t).ofTenant t = s.ofTenant t := by
  simp [ofTenant]

/-! ## Lookups -/

section
variable (s : LedgerStore) (t : Text)

@[simp] theorem rowByEventId_ofTenant (eventId : Text) :
    (s.ofTenant t).rowByEventId t eventId = s.rowByEventId t eventId :=
  find?_filter_of_imp _ fun r h => by simp_all

@[simp] theorem streamHead_ofTenant (streamId : Text) : (s.ofTenant t).streamHead t streamId = s.streamHead t streamId :=
  find?_filter_of_imp _ fun h hof => by simp [(isOf_iff.1 hof).1]

@[simp] theorem listStream_ofTenant (streamId : Text) :
    (s.ofTenant t).listStream t streamId = s.listStream t streamId := by
  have hrows : (s.ofTenant t).streamRows t streamId = s.streamRows t streamId := by
    rw [streamRows, streamRows, ofTenant, filter_filter_of_imp]
    intro r hof
    simp_all [RawEventRow.isOf]
  rw [listStream, hrows, listStream]

@[simp] theorem contextRows_ofTenant (column : ContextColumn) (types : List EventType) :
    (s.ofTenant t).contextRows t column types = s.contextRows t column types :=
  filter_filter_of_imp _ fun r h => by simp_all

@[simp] theorem findByContextField_ofTenant (column : ContextColumn) (name : String) (value : Value)
    (types : List EventType) :
    (s.ofTenant t).findByContextField t column name value types = s.findByContextField t column name value types := by
  rw [findByContextField, findByContextField, contextRows_ofTenant]

@[simp] theorem query_ofTenant (filters : Filters) (limit offset : Nat) :
    (s.ofTenant t).query t filters limit offset = s.query t filters limit offset := by
  have hrows : ((s.ofTenant t).events.filter fun r => r.tenantId = t ∧ filters.admits r) =
      s.events.filter fun r => r.tenantId = t ∧ filters.admits r :=
    filter_filter_of_imp _ fun r h => by simp_all
  rw [query, query, hrows]

@[simp] theorem getByEventId_ofTenant (eventId : Text) :
    (s.ofTenant t).getByEventId t eventId = s.getByEventId t eventId := by
  rw [getByEventId, getByEventId, rowByEventId_ofTenant]

end

/-! ## Statements that write -/

section
variable {s u : LedgerStore} {t : Text}

theorem insertEvent_ofTenant {row : RawEventRow} (h : row.tenantId = t) :
    (s.ofTenant t).insertEvent row = (s.insertEvent row).map (·.ofTenant t) := by
  have hclash : ((s.ofTenant t).events.any fun r => r.tenantId = row.tenantId ∧
      (r.eventId = row.eventId ∨ r.streamId = row.streamId ∧ r.sequence = row.sequence)) =
      s.events.any fun r => r.tenantId = row.tenantId ∧
        (r.eventId = row.eventId ∨ r.streamId = row.streamId ∧ r.sequence = row.sequence) := by
    rw [ofTenant, List.any_filter]
    congr 1
    funext r
    rw [Bool.eq_iff_iff]
    simp only [Bool.and_eq_true, decide_eq_true_eq, and_iff_right_iff_imp]
    exact fun hr => hr.1.trans h
  rw [insertEvent, insertEvent, hclash]
  split
  · rfl
  · simp [ofTenant, h]

variable {f : StreamHead → StreamHead} {j : Text}

/-- Updating heads in place, none of which changes its tenant. -/
theorem filter_map_heads (heads : List StreamHead) (j : Text) (hf : ∀ h, (f h).tenantId = h.tenantId) :
    (heads.map f).filter (fun h => h.tenantId = j) = (heads.filter fun h => h.tenantId = j).map f := by
  rw [List.filter_map]
  congr 2
  funext h
  simp [hf]

/-- Updating heads of another tenant. -/
theorem map_heads_others {heads : List StreamHead} (hf : ∀ h, h.tenantId = j → f h = h) :
    (heads.filter fun h => h.tenantId = j).map f = heads.filter fun h => h.tenantId = j := by
  conv_rhs => rw [← List.map_id (heads.filter fun h => h.tenantId = j)]
  refine List.map_congr_left fun h hmem => hf h ?_
  simpa using (List.mem_filter.1 hmem).2

theorem upsertHead_ofTenant (s : LedgerStore) (t streamId : Text) (n : Nat) (eventHash now : Text) :
    (s.ofTenant t).upsertHead t streamId n eventHash now = (s.upsertHead t streamId n eventHash now).ofTenant t := by
  rw [upsertHead, upsertHead, streamHead_ofTenant]
  split
  · rw [ofTenant, ofTenant, filter_map_heads]
    intro h
    split <;> rfl
  · simp [ofTenant]

theorem upsertHead_others (hj : j ≠ t) (streamId : Text) (n : Nat) (eventHash now : Text) :
    (s.upsertHead t streamId n eventHash now).ofTenant j = s.ofTenant j := by
  rw [upsertHead]
  split
  · rw [ofTenant, ofTenant, filter_map_heads, map_heads_others]
    · intro h hown
      exact if_neg fun hof => hj (hown.symm.trans (isOf_iff.1 hof).1)
    · intro h
      split <;> rfl
  · simp [ofTenant, hj.symm]

theorem markStreamInvalid_ofTenant (s : LedgerStore) (t streamId detail now : Text) :
    (s.ofTenant t).markStreamInvalid t streamId detail now =
      (s.markStreamInvalid t streamId detail now).ofTenant t := by
  rw [markStreamInvalid, markStreamInvalid, ofTenant, ofTenant, filter_map_heads]
  · simp
  · intro h
    split <;> rfl

theorem markStreamInvalid_others (hj : j ≠ t) (streamId detail now : Text) :
    (s.markStreamInvalid t streamId detail now).ofTenant j = s.ofTenant j := by
  rw [markStreamInvalid, ofTenant, ofTenant, filter_map_heads, map_heads_others]
  · simp [hj.symm]
  · intro h hown
    exact if_neg fun hof => hj (hown.symm.trans (isOf_iff.1 hof).1)
  · intro h
    split <;> rfl

end

end LedgerStore

/-! ## Appending -/

section
variable {sha256 : Text → Text} {now : Text} {s : LedgerStore}

variable {input : LedgerEventInput} {p : LedgerPrincipal} {e : LedgerEvent} {j t : Text} {u : LedgerStore} {persist : Bool}
  {heads : List StreamHead}

theorem tenant_of_canWrite (h : assertCanWrite p input = .ok ()) : input.tenantId = p.tenantId := by
  unfold assertCanWrite at h
  simp only at h
  split at h
  · cases h
  · split at h
    · cases h
    · next htenant => exact (not_not.1 htenant).symm

theorem requirePriors_ofTenant (s : LedgerStore) (t : Text) (ctx : Option JsObject) (column : ContextColumn)
    (name : String) (priors : List EventType) (message : Text) :
    requirePriors (s.ofTenant t) t ctx column name priors message =
      requirePriors s t ctx column name priors message := by
  simp only [requirePriors, LedgerStore.findByContextField_ofTenant]

theorem assertInvariants_ofTenant (s : LedgerStore) (input : LedgerEventInput) :
    assertInvariants (s.ofTenant input.tenantId) input = assertInvariants s input := by
  simp only [assertInvariants, requirePriors_ofTenant]

/-- The append of the store on the rows of the tenant of its input. -/
theorem storeAppend_ofTenant (s : LedgerStore) (input : LedgerEventInput) :
    (s.ofTenant input.tenantId).append sha256 now input =
      (s.append sha256 now input).map fun r => (r.1, r.2.ofTenant input.tenantId) := by
  have hinsert : ∀ n payloadHash prev eventHash,
      (s.ofTenant input.tenantId).insertEvent (input.toRow n now payloadHash prev eventHash) =
        (s.insertEvent (input.toRow n now payloadHash prev eventHash)).map (·.ofTenant input.tenantId) :=
    fun _ _ _ _ => LedgerStore.insertEvent_ofTenant rfl
  rw [LedgerStore.append, LedgerStore.append, LedgerStore.rowByEventId_ofTenant, LedgerStore.streamHead_ofTenant]
  split
  · split
    · rfl
    · split <;> rfl
  · simp only
    split
    · rfl
    · rw [hinsert]
      split
      · next hnone =>
        rw [Option.map_eq_none_iff] at hnone
        rw [hnone]
        rfl
      · next u hsome =>
        obtain ⟨u', hu', rfl⟩ := Option.map_eq_some_iff.1 hsome
        rw [hu', LedgerStore.upsertHead_ofTenant]
        rfl

theorem storeAppend_others (h : s.append sha256 now input = .ok (e, u)) (hj : j ≠ input.tenantId) :
    u.ofTenant j = s.ofTenant j := by
  rcases append_cases h with rfl | rfl
  · rfl
  · rw [LedgerStore.upsertHead_others hj]
    simp [LedgerStore.ofTenant, freshRow, LedgerEventInput.toRow, hj.symm]

/-- The append of the facade on the rows of the tenant of the principal. -/
theorem append_ofTenant (s : LedgerStore) (p : LedgerPrincipal) (raw : JsValue) :
    append sha256 now (s.ofTenant p.tenantId) p raw =
      (append sha256 now s p raw).map fun r => (r.1, r.2.ofTenant p.tenantId) := by
  rw [append, append]
  split
  · rfl
  · next input _ =>
    split
    · rfl
    · next hwrite =>
      have htenant : input.tenantId = p.tenantId := tenant_of_canWrite hwrite
      rw [← htenant, assertInvariants_ofTenant, storeAppend_ofTenant]
      split <;> rfl

theorem append_others {raw : JsValue} (h : append sha256 now s p raw = .ok (e, u)) (hj : j ≠ p.tenantId) :
    u.ofTenant j = s.ofTenant j := by
  unfold append at h
  split at h
  · cases h
  · next input _ =>
    split at h
    · cases h
    · next hwrite =>
      split at h
      · cases h
      · exact storeAppend_others h ((tenant_of_canWrite hwrite).symm ▸ hj)

/-! ## Verifying -/

theorem verifyStream_ofTenant (s : LedgerStore) (t streamId : Text) (persist : Bool) :
    verifyStream sha256 now (s.ofTenant t) t streamId persist =
      (verifyStream sha256 now s t streamId persist).map fun r => (r.1, r.2.ofTenant t) := by
  have hmark : ∀ detail, (if persist then (s.ofTenant t).markStreamInvalid t streamId detail now else s.ofTenant t) =
      (if persist then s.markStreamInvalid t streamId detail now else s).ofTenant t := by
    intro detail
    split
    · exact LedgerStore.markStreamInvalid_ofTenant ..
    · rfl
  rw [verifyStream, verifyStream, LedgerStore.listStream_ofTenant, LedgerStore.streamHead_ofTenant]
  split
  · rfl
  · simp only [hmark]
    split
    · rfl
    · split <;> rfl

theorem verifyStream_others {streamId : Text} {r : StreamVerificationResult}
    (h : verifyStream sha256 now s t streamId persist = some (r, u)) (hj : j ≠ t) : u.ofTenant j = s.ofTenant j := by
  have hmark : ∀ detail, (if persist then s.markStreamInvalid t streamId detail now else s).ofTenant j = s.ofTenant j := by
    intro detail
    split
    · exact LedgerStore.markStreamInvalid_others hj ..
    · rfl
  unfold verifyStream at h
  split at h
  · cases h
  · simp only at h
    split at h
    · cases h
      exact hmark _
    · split at h
      · cases h
        exact hmark _
      · cases h
        rfl

/-- Verifying streams of one tenant in turn. -/
theorem verifyStreams_ofTenant (h : ∀ x ∈ heads, x.tenantId = t) (counted : FullVerificationResult) (s : LedgerStore) :
    verifyStreams sha256 now persist counted (s.ofTenant t) heads =
      ((verifyStreams sha256 now persist counted s heads).1,
        (verifyStreams sha256 now persist counted s heads).2.ofTenant t) := by
  induction heads generalizing counted s with
  | nil => rfl
  | cons x rest ih =>
    obtain ⟨rfl, hrest⟩ := List.forall_mem_cons.1 h
    rw [verifyStreams, verifyStreams, verifyStream_ofTenant]
    cases verifyStream sha256 now s x.tenantId x.streamId persist with
    | none => rfl
    | some r => exact ih hrest _ _

theorem verifyStreams_others (h : ∀ x ∈ heads, x.tenantId = t) (hj : j ≠ t) (counted : FullVerificationResult) (s : LedgerStore) :
    (verifyStreams sha256 now persist counted s heads).2.ofTenant j = s.ofTenant j := by
  induction heads generalizing counted s with
  | nil => rfl
  | cons x rest ih =>
    obtain ⟨rfl, hrest⟩ := List.forall_mem_cons.1 h
    rw [verifyStreams]
    cases hv : verifyStream sha256 now s x.tenantId x.streamId persist with
    | none => rfl
    | some r => exact (ih hrest _ _).trans (verifyStream_others hv hj)

/-- The streams that a tenant's verification goes through. -/
theorem mem_tenantStreams {x : StreamHead} (h : x ∈ s.streams.filter fun x => (some t).all fun u => x.tenantId = u) :
    x.tenantId = t := by
  simpa using (List.mem_filter.1 h).2

theorem tenantStreams_ofTenant (s : LedgerStore) (t : Text) :
    ((s.ofTenant t).streams.filter fun x => (some t).all fun u => x.tenantId = u) =
      s.streams.filter fun x => (some t).all fun u => x.tenantId = u :=
  filter_filter_of_imp _ fun x h => by simpa using h

end

/-! ## The facade -/

/-- A method that only reads, and only the tenant's rows. -/
theorem confined_reading {α : Type} {p : LedgerPrincipal} {reply : α → LedgerReply}
    {f : LedgerStore → Except StoreError α} (h : ∀ s, f (s.ofTenant p.tenantId) = f s) :
    Confined LedgerStore.ofTenant p.tenantId fun s => (reading p reply (f s), s) :=
  .read (fun s => s.ofTenant_ofTenant _) fun s => by rw [h s]

theorem eventsByContext_ofTenant (s : LedgerStore) (t : Text) (column : ContextColumn) (name : String) (value : Text) :
    eventsByContext (s.ofTenant t) t column name value = eventsByContext s t column name value := by
  rw [eventsByContext, eventsByContext, LedgerStore.findByContextField_ofTenant]

theorem exportEvidence_ofTenant {sha256 : Text → Text} {now exportedAt : Text} (s : LedgerStore)
    (t correlationId : Text) :
    exportEvidence sha256 now exportedAt (s.ofTenant t) t correlationId =
      exportEvidence sha256 now exportedAt s t correlationId := by
  have hprobe : probeStream sha256 now (s.ofTenant t) t = probeStream sha256 now s t := by
    funext streamId
    rw [probeStream, probeStream, verifyStream_ofTenant, Option.map_map]
    rfl
  simp only [exportEvidence, LedgerStore.query_ofTenant, LedgerStore.streamHead_ofTenant, hprobe]

/-- Verifying every stream of a tenant. -/
theorem verifyAll_confined (env : Environment) (t : Text) :
    Confined LedgerStore.ofTenant t fun s =>
      verifyAll env.sha256 env.now env.start env.finish s (some t) true := by
  have hown : ∀ s, verifyAll env.sha256 env.now env.start env.finish (s.ofTenant t) (some t) true =
      ((verifyAll env.sha256 env.now env.start env.finish s (some t) true).1,
        (verifyAll env.sha256 env.now env.start env.finish s (some t) true).2.ofTenant t) := by
    intro s
    simp only [verifyAll, tenantStreams_ofTenant]
    exact verifyStreams_ofTenant (fun x hx => mem_tenantStreams hx) _ s
  refine ⟨fun s => ?_, fun s => ?_, fun s j hj => ?_⟩
  · rw [hown]
  · rw [hown]
    exact (LedgerStore.ofTenant_ofTenant ..).symm
  · exact verifyStreams_others (fun x hx => mem_tenantStreams hx) hj _ s

/-- **Every call of the facade is confined to the tenant of its principal.** -/
theorem LedgerCall.run_confined (env : Environment) (p : LedgerPrincipal) (call : LedgerCall) :
    Confined LedgerStore.ofTenant p.tenantId (call.run env p) := by
  cases call with
  | append raw =>
    refine ⟨fun s => ?_, fun s => ?_, fun s j hj => ?_⟩
    · simp only [LedgerCall.run, append_ofTenant]
      cases Ledger.append env.sha256 env.now s p raw <;> rfl
    · simp only [LedgerCall.run, append_ofTenant]
      cases Ledger.append env.sha256 env.now s p raw with
      | error e => exact (s.ofTenant_ofTenant _).symm
      | ok r => exact (r.2.ofTenant_ofTenant _).symm
    · simp only [LedgerCall.run]
      cases h : Ledger.append env.sha256 env.now s p raw with
      | error e => rfl
      | ok r => exact append_others h hj
  | verifyStream streamId =>
    cases hread : assertCanRead p with
    | error e =>
      have hrun : (LedgerCall.verifyStream streamId).run env p = fun s => (.error e, s) := by
        funext s
        simp only [LedgerCall.run, hread]
      rw [hrun]
      exact .read (fun s => s.ofTenant_ofTenant _) fun s => rfl
    | ok _ =>
      refine ⟨fun s => ?_, fun s => ?_, fun s j hj => ?_⟩ <;> simp only [LedgerCall.run, hread]
      · rw [verifyStream_ofTenant]
        cases Ledger.verifyStream env.sha256 env.now s p.tenantId streamId true <;> rfl
      · rw [verifyStream_ofTenant]
        cases Ledger.verifyStream env.sha256 env.now s p.tenantId streamId true with
        | none => exact (s.ofTenant_ofTenant _).symm
        | some r => exact (r.2.ofTenant_ofTenant _).symm
      · cases h : Ledger.verifyStream env.sha256 env.now s p.tenantId streamId true with
        | none => rfl
        | some r => exact verifyStream_others h hj
  | verifyAll =>
    cases hadmin : assertIsAdmin p with
    | error e =>
      have hrun : LedgerCall.verifyAll.run env p = fun s => (.error e, s) := by
        funext s
        simp only [LedgerCall.run, hadmin]
      rw [hrun]
      exact .read (fun s => s.ofTenant_ofTenant _) fun s => rfl
    | ok _ =>
      have hrun : LedgerCall.verifyAll.run env p = fun s =>
          (fullReply (Ledger.verifyAll env.sha256 env.now env.start env.finish s (some p.tenantId) true).1,
            (Ledger.verifyAll env.sha256 env.now env.start env.finish s (some p.tenantId) true).2) := by
        funext s
        simp only [LedgerCall.run, hadmin]
      rw [hrun]
      exact (verifyAll_confined env p.tenantId).map fullReply
  | getEvent eventId => exact confined_reading fun s => by simp only [Ledger.getEvent, LedgerStore.getByEventId_ofTenant]
  | getStream streamId limit cursor =>
    exact confined_reading fun s => by simp only [Ledger.getStream, page, LedgerStore.query_ofTenant]
  | getEventsByActor actorId limit cursor =>
    exact confined_reading fun s => by simp only [Ledger.getEventsByActor, page, LedgerStore.query_ofTenant]
  | getEventsByCorrelation correlationId limit cursor =>
    exact confined_reading fun s => by simp only [Ledger.getEventsByCorrelation, page, LedgerStore.query_ofTenant]
  | getEventsByType eventType limit cursor =>
    exact confined_reading fun s => by simp only [Ledger.getEventsByType, page, LedgerStore.query_ofTenant]
  | getEventsByTimeRange fromTime toTime limit cursor =>
    exact confined_reading fun s => by simp only [Ledger.getEventsByTimeRange, page, LedgerStore.query_ofTenant]
  | getEventsByDecision decisionId => exact confined_reading fun s => eventsByContext_ofTenant s _ _ _ _
  | getEventsByExecution executionId => exact confined_reading fun s => eventsByContext_ofTenant s _ _ _ _
  | getEventsByAtom atomId => exact confined_reading fun s => eventsByContext_ofTenant s _ _ _ _
  | search filters limit cursor =>
    exact confined_reading fun s => by simp only [Ledger.search, page, LedgerStore.query_ofTenant]
  | reconstructGateAction correlationId =>
    exact confined_reading fun s => by
      simp only [Ledger.reconstructGateAction, correlationEvents, LedgerStore.query_ofTenant]
  | reconstructVadAtom correlationId =>
    exact confined_reading fun s => by
      simp only [Ledger.reconstructVadAtom, correlationEvents, LedgerStore.query_ofTenant]
  | exportEvidence correlationId => exact confined_reading fun s => exportEvidence_ofTenant s ..
  | verifyExportedBundle bundle => exact confined_reading fun s => rfl

/-- **Tenant noninterference.** On two stores that agree in the rows of the principal's tenant a call answers the same
and leaves the same rows of the tenant; the rows of every other tenant are what they were. -/
theorem call_noninterference (env : Environment) (p : LedgerPrincipal) (call : LedgerCall) (s s' : LedgerStore)
    (h : s.ofTenant p.tenantId = s'.ofTenant p.tenantId) :
    (call.run env p s).1 = (call.run env p s').1 ∧
      (call.run env p s).2.ofTenant p.tenantId = (call.run env p s').2.ofTenant p.tenantId ∧
      ∀ t, t ≠ p.tenantId → (call.run env p s).2.ofTenant t = s.ofTenant t := by
  have hconfined := call.run_confined env p
  obtain ⟨hanswer, hview⟩ := hconfined.two_runs h
  exact ⟨hanswer, hview, hconfined.others s⟩

/-- A store of which a tenant `u` has nothing: the head of a stream of another tenant. -/
def foreignStore : LedgerStore := ⟨[], [⟨"t", "s", 1, "h", "now", .valid⟩], []⟩

/-- Numbers as cursors, written in decimal. -/
def sampleEnvironment : Environment :=
  ⟨id, ⟨decimal, fun t => if t.all isDigit then some (numberAt t 0 t.length) else none⟩, "now", "now", 0, 0⟩

theorem call_noninterference_foreign :
    (LedgerCall.verifyAll.run sampleEnvironment ⟨"a", .admin, "u", []⟩ foreignStore).1 =
      (LedgerCall.verifyAll.run sampleEnvironment ⟨"a", .admin, "u", []⟩ .empty).1 :=
  (call_noninterference sampleEnvironment ⟨"a", .admin, "u", []⟩ .verifyAll foreignStore .empty rfl).1

/-- One call in a run: when and how it is made, by whom, and which it is. -/
structure RunCall where
  env : Environment
  principal : LedgerPrincipal
  call : LedgerCall

def RunCall.step (c : RunCall) : Text × Operation LedgerStore (Except StoreError LedgerReply) :=
  (c.principal.tenantId, c.call.run c.env c.principal)

/-- **Runs of tenants do not interfere.** Whatever the principals of other tenants do in between, the principals of a
tenant get the answers that they would get if only they made their calls. -/
theorem run_noninterference (calls : List RunCall) (tenantId : Text) (s s' : LedgerStore)
    (h : s.ofTenant tenantId = s'.ofTenant tenantId) :
    answers tenantId s (calls.map RunCall.step) =
      answers tenantId s' ((calls.map RunCall.step).filter fun step => step.1 = tenantId) := by
  refine @answers_alone _ _ _ LedgerStore.ofTenant tenantId s s' _ (calls.map RunCall.step) ?_ h
  intro step hstep
  obtain ⟨c, -, rfl⟩ := List.mem_map.1 hstep
  exact c.call.run_confined c.env c.principal

/-- A call of the tenant among calls of another. -/
def foreignCalls : List RunCall :=
  [⟨sampleEnvironment, ⟨"b", .admin, "t", []⟩, .verifyAll⟩, ⟨sampleEnvironment, ⟨"a", .admin, "u", []⟩, .verifyAll⟩]

theorem run_noninterference_foreign : answers (Text.ofAscii "u") foreignStore (foreignCalls.map RunCall.step) =
    answers (Text.ofAscii "u") .empty ((foreignCalls.map RunCall.step).filter fun step => step.1 = Text.ofAscii "u") :=
  run_noninterference foreignCalls "u" foreignStore .empty rfl

end Tna.Ledger
