import Tna.Platform.Orchestration
import Tna.Platform.Request

/-!
# What was requested

Of a request that was stored its tenant, its request id and its canonical form are never
written again, and rows are only ever added at the end. So what a request id of a tenant
stands for is decided by the first request that is stored under it.
-/

namespace Tna.Platform

open Tna.Js Tna.Gate Tna.Lib Tna.Broker

/-- What of a row is never written again: its keys, its correlation and what was requested. -/
structure ActionOrigin where
  tenantId : Text
  platformActionId : Text
  correlationId : Text
  inputHash : Text
  requestId : Text
  requestJson : Text
  canonicalRequest : Text

def ActionRow.origin (r : ActionRow) : ActionOrigin :=
  ⟨r.tenantId, r.platformActionId, r.correlationId, r.inputHash, r.request.requestId, r.requestJson, r.canonicalRequest⟩

/-- The origin of each action, in the order they were stored. -/
def DurableStore.origins (s : DurableStore) : List ActionOrigin := s.actions.map ActionRow.origin

/-- Tenant, request id and canonical request of each action, in the order they were stored. -/
def DurableStore.requested (s : DurableStore) : List (Text × Text × Text) :=
  s.actions.map fun r => (r.tenantId, r.request.requestId, r.canonicalRequest)

/-- The canonical request that a request id of a tenant stands for. -/
def DurableStore.requestOf (s : DurableStore) (tenantId requestId : Text) : Option Text :=
  (s.actions.find? fun r => r.tenantId = tenantId && r.request.requestId = requestId).map ActionRow.canonicalRequest

section
variable {s t : DurableStore} {c : CallContext} {tenantId actionId requestId : Text}

theorem requested_eq (s : DurableStore) :
    s.requested = s.origins.map fun o => (o.tenantId, o.requestId, o.canonicalRequest) := by
  rw [DurableStore.requested, DurableStore.origins, List.map_map]
  rfl

theorem requestOf_eq (s : DurableStore) (tenantId requestId : Text) : s.requestOf tenantId requestId =
    (s.requested.find? fun r => r.1 = tenantId && r.2.1 = requestId).map fun r => r.2.2 := by
  rw [DurableStore.requestOf, DurableStore.requested, List.find?_map, Option.map_map]
  rfl

/-- **What a request id stands for** does not change while requests are only added. -/
theorem requestOf_of_prefix (h : s.requested <+: t.requested) {canonical : Text}
    (hs : s.requestOf tenantId requestId = some canonical) : t.requestOf tenantId requestId = some canonical := by
  obtain ⟨more, hmore⟩ := h
  rw [requestOf_eq] at hs ⊢
  obtain ⟨r, hr, hcanonical⟩ := Option.map_eq_some_iff.1 hs
  rw [← hmore, List.find?_append, hr, Option.some_or, Option.map_some, hcanonical]

/-! ## Statements -/

theorem origins_enqueued (s : DurableStore) (e : Evidence) (now : Nat) (uuid : Text) :
    (s.enqueued tenantId actionId e now uuid).origins = s.origins :=
  Rows.map_update fun _ _ _ => rfl

variable {change : PlatformAction → PlatformAction} {a : PlatformAction} {request : ValidatedRequest} {ids : NewActionIds}
  {sha256 : Text → Text} {executionId : Text} {expectedVersion : Nat} {label : CallContext × StoreCall}
  {caught : PlatformError → OrchestratorPc} {k : Broker.Store}

theorem origins_moved (hkey : ∀ a, (change a).key = a.key) (horigin : ∀ a, (change a).origin = a.origin)
    (selected : ActionRow → Bool) (s : DurableStore) : (s.moved selected change).origins = s.origins := by
  refine Rows.map_update fun r _ _ => ?_
  have htenant : (change r.toPlatformAction).tenantId = r.tenantId := congrArg Prod.fst (hkey r.toPlatformAction)
  have hid : (change r.toPlatformAction).platformActionId = r.platformActionId := congrArg Prod.snd (hkey r.toPlatformAction)
  have hcorrelation : (change r.toPlatformAction).correlationId = r.correlationId := congrArg Prod.fst (horigin _)
  have hhash : (change r.toPlatformAction).inputHash = r.inputHash := congrArg (fun o => o.2.1) (horigin _)
  have hrequest : (change r.toPlatformAction).request = r.request := congrArg (fun o => o.2.2) (horigin _)
  simp only [ActionRow.origin, htenant, hid, hcorrelation, hhash, hrequest]

theorem origins_write {guard : PlatformAction → Option PlatformError} {selected : PlatformAction → Bool}
    {evidence : ActionRow → Option Evidence} (h : write c tenantId actionId guard selected change evidence s = .ok a t)
    (hkey : ∀ a, (change a).key = a.key) (horigin : ∀ a, (change a).origin = a.origin) : t.origins = s.origins := by
  obtain ⟨current, -, -, hwritten, -⟩ := write_ok h
  rcases hwritten with ⟨rfl, -⟩ | ⟨e, -, -, rfl⟩
  · exact origins_moved hkey horigin _ s
  · rw [origins_enqueued]
    exact origins_moved hkey horigin _ s

/-- What `createOrReturn` does of a request id that is taken. -/
theorem createOrReturn_found (sha256 : Text → Text) (c : CallContext) (ids : NewActionIds) {existing : ActionRow}
    (hfound : s.actions.find? (fun r => r.tenantId = request.tenantId && r.request.requestId = request.requestId) = some existing) :
    createOrReturn sha256 c request ids s =
      if existing.canonicalRequest ≠ request.document.toValue.canonical then
        .error (.platform .conflict
          (Text.ofAscii "request_id " ++ request.requestId ++ Text.ofAscii " already exists with different canonical request")) s
      else if c.commits then .ok existing.toPlatformAction s else .error .storage s := by
  simp only [createOrReturn, CallContext.tx, tx, bind, EStateM.bind, get, getThe, MonadStateOf.get, run_get, hfound]
  by_cases hsame : existing.canonicalRequest = request.document.toValue.canonical
  · rw [if_neg (not_not.2 hsame), if_neg (not_not.2 hsame)]
    rfl
  · rw [if_pos hsame, if_pos hsame]
    rfl

/-- What an answer of `createOrReturn` is: the action that has the request id, or a new one. -/
theorem createOrReturn_answered (h : createOrReturn sha256 c request ids s = .ok a t) :
    let found := s.actions.find? (fun r => r.tenantId = request.tenantId && r.request.requestId = request.requestId)
    (∃ existing, found = some existing ∧ existing.canonicalRequest = request.document.toValue.canonical ∧
      a = existing.toPlatformAction ∧ t = s) ∨
    (found = none ∧ a = (newActionRow sha256 request ids).toPlatformAction ∧
      t.origins = s.origins ++ [(newActionRow sha256 request ids).origin]) := by
  intro found
  cases hfound : found with
  | some existing =>
    rw [createOrReturn_found sha256 c ids hfound] at h
    split_ifs at h with hsame
    cases h
    exact .inl ⟨existing, rfl, not_not.1 hsame, rfl, rfl⟩
  | none =>
    obtain ⟨s', u, hget, hbody⟩ := bind_answered (body_of_tx h)
    cases hget
    simp only [found] at hfound
    simp only [hfound] at hbody
    obtain ⟨_, v, hinsert, hrest⟩ := bind_answered hbody
    obtain ⟨-, rfl⟩ := insertAction_ok hinsert
    obtain ⟨_, w, henqueue, hpure⟩ := bind_answered hrest
    obtain ⟨-, rfl⟩ := enqueue_ok henqueue
    cases hpure
    refine .inr ⟨rfl, rfl, ?_⟩
    rw [origins_enqueued, DurableStore.origins, DurableStore.origins, List.map_append]
    rfl

/-- **What an answer of `createOrReturn` leaves**: every action as it was, or one more, whose request id was free. -/
theorem origins_createOrReturn (h : createOrReturn sha256 c request ids s = .ok a t) :
    t.origins = s.origins ∨ t.origins = s.origins ++ [(newActionRow sha256 request ids).origin] ∧
      ∀ r ∈ s.actions, ¬ (r.tenantId = request.tenantId ∧ r.request.requestId = request.requestId) := by
  rcases createOrReturn_answered h with ⟨_, -, -, -, rfl⟩ | ⟨hfree, -, happended⟩
  · exact .inl rfl
  · refine .inr ⟨happended, fun r hr hsame => ?_⟩
    have hnot := List.find?_eq_none.1 hfree r hr
    simp only [hsame.1, hsame.2, decide_true, Bool.and_self, not_true_eq_false] at hnot

/-- **A request that is answered with an action** is the one its request id stands for. -/
theorem requestOf_createOrReturn (h : createOrReturn sha256 c request ids s = .ok a t) :
    t.requestOf request.tenantId request.requestId = some request.document.toValue.canonical := by
  rcases createOrReturn_answered h with ⟨existing, hfound, hsame, -, rfl⟩ | ⟨hfree, -, happended⟩
  · rw [DurableStore.requestOf, hfound, Option.map_some, hsame]
  · have hnone : s.requestOf request.tenantId request.requestId = none := by
      rw [DurableStore.requestOf, hfree, Option.map_none]
    rw [requestOf_eq, Option.map_eq_none_iff] at hnone
    rw [requestOf_eq, requested_eq, happended, List.map_append, List.find?_append, ← requested_eq, hnone]
    simp [ActionRow.origin, newActionRow]

/-! ## Calls -/

theorem origins_claimExecution {run : RunRow}
    (h : Durable.claimExecution c tenantId actionId expectedVersion executionId s = .ok run t) : t.origins = s.origins := by
  obtain ⟨current, -, -, -, -, -, -, rfl⟩ := Durable.claimExecution_ok h
  rw [origins_enqueued]
  exact @origins_moved (fun a => { a with state := .executing }) (fun _ => rfl) (fun _ => rfl) _ s

theorem origins_recoverActions {now : Nat} {uuids : Text × Text → Text} {rows : List ActionRow} {a : Unit}
    (h : Durable.recoverActions now uuids rows s = .ok a t) : t.origins = s.origins := by
  induction rows generalizing s with
  | nil =>
    cases h
    rfl
  | cons row rows ih =>
    obtain ⟨_, u, hfirst, hrest⟩ := bind_answered h
    rw [ih hrest]
    obtain ⟨n, v, hupdate, hfirst⟩ := bind_answered hfirst
    obtain ⟨-, rfl⟩ := updateActions_ok hupdate
    obtain ⟨m, w, hruns, henqueue⟩ := bind_answered hfirst
    obtain ⟨-, rfl⟩ := updateRuns_ok hruns
    obtain ⟨-, rfl⟩ := enqueue_ok henqueue
    rw [origins_enqueued]
    exact @origins_moved (fun a => { a with state := .indeterminate }) (fun _ => rfl) (fun _ => rfl) _ s

/-- **Every call** of the store leaves what its actions are, or adds the one that was asked for. -/
theorem origins_of_call {call : StoreCall} (h : call.run sha256 c s = .ok () t) :
    t.origins = s.origins ∨ ∃ request ids, call = .createOrReturn request ids ∧
      t.origins = s.origins ++ [(newActionRow sha256 request ids).origin] ∧
      ∀ r ∈ s.actions, ¬ (r.tenantId = request.tenantId ∧ r.request.requestId = request.requestId) := by
  have hanswer := answer_of_call h
  clear h
  cases hanswer with
  | @created request ids a h =>
    rcases origins_createOrReturn h with hsame | ⟨happended, hfree⟩
    · exact .inl hsame
    · exact .inr ⟨request, ids, rfl, happended, hfree⟩
  | wrote h hkey horigin => exact .inl (origins_write h hkey horigin)
  | claimed h => exact .inl (origins_claimExecution h)
  | finished h =>
    refine .inl ?_
    rw [Durable.finishRun_ok h]
    rfl
  | recovered h =>
    obtain ⟨u, hactions, -, rfl⟩ := Durable.recoverInterruptedWork_ok h
    have hkept : u.origins = s.origins := origins_recoverActions hactions
    exact .inl hkept
  | marked _ h =>
    rw [h]
    exact .inl rfl

theorem origins_of_storeStep (h : StoreStep sha256 s label t) : s.origins <+: t.origins := by
  rcases h with h | ⟨e, h⟩
  · rcases origins_of_call h with hsame | ⟨_, _, -, happended, -⟩
    · rw [hsame]
    · rw [happended]
      exact List.prefix_append _ _
  · rw [eq_of_call_error h]

theorem requested_of_storeStep (h : StoreStep sha256 s label t) : s.requested <+: t.requested := by
  rw [requested_eq, requested_eq]
  exact (origins_of_storeStep h).map _

/-! ## Steps of the orchestrators -/

/-- A step of a call left the store alone, or was a call of the store. -/
def OrchestratorEffect.Stored (sha256 : Text → Text) (s : DurableStore) (e : OrchestratorEffect) : Prop :=
  e.store = s ∨ ∃ label, StoreStep sha256 s label e.store

theorem stored_called {α : Type} {m : Statement α} {next : α → OrchestratorPc} (call : StoreCall)
    (h : call.run sha256 c = do let _ ← m) : (OrchestratorEffect.called k (m s) next caught).Stored sha256 s := by
  refine .inr ⟨(c, call), ?_⟩
  unfold StoreStep
  simp only [h, bind, EStateM.bind]
  cases m s with
  | ok a t => exact .inl rfl
  | error e t => exact .inr ⟨e, rfl⟩

theorem stored_finishRun {interrupted : Bool} {next : Unit → OrchestratorPc} :
    (OrchestratorEffect.called k (Durable.finishRun c tenantId executionId interrupted s) next caught).Stored sha256 s := by
  refine .inr ⟨(c, .finishRun tenantId executionId interrupted), ?_⟩
  unfold StoreStep StoreCall.run
  dsimp only
  cases Durable.finishRun c tenantId executionId interrupted s with
  | ok a t => exact .inl rfl
  | error e t => exact .inr ⟨e, rfl⟩

end

variable {a : OrchestratorAnswer} {e : OrchestratorEffect} {k : Broker.Store} {o : OrchestratorProcess} {pc : OrchestratorPc}
  {s : DurableStore} {request : ValidatedRequest} {sha256 : Text → Text}

/-- **A step of a call** is at most one call of the store. -/
theorem stored_of_step (h : orchestratorStep s k o pc a = some e) : e.Stored o.broker.sha256 s := by
  unfold orchestratorStep at h
  split at h
  · split at h
    · cases h
      exact .inl rfl
    · cases h
      exact stored_called (.createOrReturn _ _) rfl
  · cases h
    exact .inl rfl
  · cases h
    exact stored_called (.transition _ _ _ _ _ _) rfl
  · cases h
    exact stored_called (.recordGateDecision _ _ _ _) rfl
  · cases h
    exact .inl rfl
  · cases h
    unfold issueFor
    dsimp only
    split
    · exact .inl rfl
    · exact .inl rfl
  · cases h
    exact stored_called (.recordCapability _ _ _ _) rfl
  · cases h
    exact .inl rfl
  · cases h
    exact .inl rfl
  · cases h
    exact stored_called (.recordSentinelSession _ _ _ _) rfl
  · cases h
    exact stored_called (.claimExecution _ _ _ _) rfl
  · cases h
    exact .inl rfl
  · cases h
    exact stored_called (.recordFailure _ _ _ _ _ _ _) rfl
  · cases h
    exact .inl rfl
  · cases h
    exact .inl rfl
  · obtain ⟨e', -, rfl⟩ := Option.map_eq_some_iff.1 h
    exact .inl rfl
  · cases h
    exact stored_called (.recordFailure _ _ _ _ _ _ _) rfl
  · cases h
    exact stored_finishRun
  · cases h
    exact .inl rfl
  · cases h
    exact stored_called (.recordExecutionResult _ _ _ _ _ _ _) rfl
  · cases h
    exact stored_finishRun
  · cases h
    exact .inl rfl
  · cases h
    exact stored_called (.recordVerificationResult _ _ _ _ _ _ _) rfl
  · cases h
    exact .inl rfl
  · cases h
    exact .inl rfl
  · cases h
    exact .inl rfl
  · cases h
    exact .inl rfl
  · cases h

/-- Whatever a call does next, what was requested stays requested. -/
theorem requested_of_step (h : orchestratorStep s k o pc a = some e) : s.requested <+: e.store.requested := by
  rcases stored_of_step h with hsame | ⟨label, hstep⟩
  · rw [hsame]
  · exact requested_of_storeStep hstep

/-! ## What is read back -/

/-- `JSON.parse(row.request_json)`. -/
def ActionRow.readRequest (r : ActionRow) : Option Value := parse r.requestJson

/-- `computeInputHash` of a request that was read back. -/
def inputHashOf (sha256 : Text → Text) (fields : List (Text × Value)) : Text :=
  sha256 (Value.canonical (.obj [("tool", Value.get fields "tool"), ("operation", Value.get fields "operation"),
    ("resource", Value.get fields "resource"), ("input", Value.get fields "input")]))

/-- The trip through the column changes what is hashed in no canonical respect. -/
theorem inputHashOf_normalFields (sha256 : Text → Text) (h : request.Bound) :
    inputHashOf sha256 (Value.normalFields request.document.fields) =
      computeInputHash sha256 request.toPlatformActionRequestInput := by
  have hget := Value.get_normalFields request.document.keys_nodup
  have hinput : Value.Same request.input.toValue.normal request.input.toValue :=
    ⟨Value.normal_isUndefined _, Value.canonical_normal _⟩
  unfold inputHashOf computeInputHash
  simp only [hget, h.tool, h.operation, h.resource, h.input, Value.isUndefined, JsObject.toValue, Bool.false_eq_true, if_false]
  refine congrArg sha256 (Value.Same.obj ?_).canonical
  exact .cons ⟨rfl, .refl _⟩ (.cons ⟨rfl, .refl _⟩ (.cons ⟨rfl, .refl _⟩ (.cons ⟨rfl, hinput⟩ .nil)))

/-- What is read back of a row has the canonical form of the row, and the input hash. -/
def ActionRow.ReadsBack (sha256 : Text → Text) (r : ActionRow) : Prop :=
  ∃ fields, r.readRequest = some (.obj fields) ∧ (Value.obj fields).canonical = r.canonicalRequest ∧
    r.inputHash = inputHashOf sha256 fields

theorem readsBack_of_origin {r : ActionRow} {ids : NewActionIds} (hbound : request.Bound)
    (h : r.origin = (newActionRow sha256 request ids).origin) : r.ReadsBack sha256 := by
  have hjson : r.requestJson = request.document.toValue.stringify := congrArg ActionOrigin.requestJson h
  have hcanonical : r.canonicalRequest = request.document.toValue.canonical := congrArg ActionOrigin.canonicalRequest h
  have hhash : r.inputHash = computeInputHash sha256 request.toPlatformActionRequestInput := congrArg ActionOrigin.inputHash h
  refine ⟨Value.normalFields request.document.fields, ?_, ?_, ?_⟩
  · have hread : parse request.document.toValue.stringify = some request.document.toValue.normal :=
      parse_stringify request.document.distinct
    rw [ActionRow.readRequest, hjson, hread]
    rfl
  · rw [hcanonical]
    exact Value.canonical_normal request.document.toValue
  · rw [hhash, inputHashOf_normalFields sha256 hbound]

/-! ## Runs of calls -/

/-- `createOrReturn`, of a body as it comes. -/
def createOrReturnRaw (sha256 : Text → Text) (c : CallContext) (raw : JsValue) (ids : NewActionIds) : Statement PlatformAction :=
  match validatePlatformActionRequestInput raw with
  | .ok request => createOrReturn sha256 c request ids
  | .error e => throw e

/-- What a call of `createOrReturn` stores was validated. -/
def StoreCall.Validated : StoreCall → Prop
  | .createOrReturn request _ => request.Accepted
  | _ => True

/-- A step in which one of any number of connections makes a call of its own. -/
def ValidatedStep (sha256 : Text → Text) (s : DurableStore) (label : CallContext × StoreCall) (t : DurableStore) : Prop :=
  label.2.Validated ∧ StoreStep sha256 s label t

/-- What is known of the actions in a run: no two have one request id, and each is as it was created. -/
structure DurableStore.Created (sha256 : Text → Text) (s : DurableStore) : Prop where
  distinct : (s.origins.map fun o => (o.tenantId, o.requestId)).Nodup
  created : ∀ o ∈ s.origins, ∃ request ids, request.Bound ∧ o = (newActionRow sha256 request ids).origin

theorem created_empty (sha256 : Text → Text) : DurableStore.empty.Created sha256 where
  distinct := .nil
  created := List.forall_mem_nil _

theorem created_step {t : DurableStore} {label : CallContext × StoreCall} (h : ValidatedStep sha256 s label t)
    (hs : s.Created sha256) : t.Created sha256 := by
  obtain ⟨hvalidated, h | ⟨e, h⟩⟩ := h
  · rcases origins_of_call h with hsame | ⟨request, ids, hcall, happended, hfree⟩
    · exact ⟨hsame ▸ hs.distinct, hsame ▸ hs.created⟩
    · rw [hcall] at hvalidated
      obtain ⟨raw, hraw⟩ := hvalidated
      constructor
      · rw [happended, List.map_append, List.nodup_append']
        refine ⟨hs.distinct, List.nodup_singleton _, ?_⟩
        intro key hkey hnew
        obtain ⟨o, ho, rfl⟩ := List.mem_map.1 hkey
        obtain ⟨r, hr, rfl⟩ := List.mem_map.1 ho
        obtain ⟨htenant, hrequest⟩ := Prod.mk.inj (List.mem_singleton.1 hnew)
        exact hfree r hr ⟨htenant, hrequest⟩
      · intro o ho
        rw [happended] at ho
        rcases List.mem_append.1 ho with ho | ho
        · exact hs.created o ho
        · exact ⟨request, ids, validate_bound hraw, List.mem_singleton.1 ho⟩
  · rw [eq_of_call_error h]
    exact hs

section
variable {sha256 : Text → Text} {s t : DurableStore} {c : CallContext} {request : ValidatedRequest}

variable {r : ActionRow}

theorem DurableStore.Created.readsBack (h : s.Created sha256) (hr : r ∈ s.actions) : r.ReadsBack sha256 := by
  obtain ⟨request, ids, hbound, horigin⟩ := h.created _ (List.mem_map_of_mem hr)
  exact readsBack_of_origin hbound horigin

/-- A request id that is taken is found. -/
theorem DurableStore.Created.find (h : s.Created sha256) (hr : r ∈ s.actions) (htenant : r.tenantId = request.tenantId)
    (hrequest : r.request.requestId = request.requestId) :
    s.actions.find? (fun r => r.tenantId = request.tenantId && r.request.requestId = request.requestId) = some r := by
  cases hfound : s.actions.find? (fun r => r.tenantId = request.tenantId && r.request.requestId = request.requestId) with
  | none =>
    have hnot := List.find?_eq_none.1 hfound r hr
    simp only [htenant, hrequest, decide_true, Bool.and_self, not_true_eq_false] at hnot
  | some existing =>
    have hmatch := List.find?_some hfound
    rw [Bool.and_eq_true, decide_eq_true_eq, decide_eq_true_eq] at hmatch
    have hdistinct := h.distinct
    rw [DurableStore.origins, List.map_map] at hdistinct
    have hkeys : (existing.tenantId, existing.request.requestId) = (r.tenantId, r.request.requestId) := by
      rw [hmatch.1, hmatch.2, htenant, hrequest]
    rw [List.inj_on_of_nodup_map hdistinct (List.mem_of_find?_eq_some hfound) hr hkeys]

/-- **An answer stays**: whatever is called after it, the action is there with its ids and what was asked for. -/
theorem origin_of_answer {ids : NewActionIds} {a : PlatformAction} (h : createOrReturn sha256 c request ids s = .ok a t) :
    ∃ o ∈ t.origins, (o.tenantId = request.tenantId ∧ o.requestId = request.requestId ∧
      o.canonicalRequest = request.document.toValue.canonical) ∧
      o.platformActionId = a.platformActionId ∧ o.correlationId = a.correlationId ∧ o.inputHash = a.inputHash := by
  rcases createOrReturn_answered h with ⟨existing, hfound, hsame, rfl, rfl⟩ | ⟨-, rfl, happended⟩
  · have hmatch := List.find?_some hfound
    rw [Bool.and_eq_true, decide_eq_true_eq, decide_eq_true_eq] at hmatch
    exact ⟨existing.origin, List.mem_map_of_mem (List.mem_of_find?_eq_some hfound), ⟨hmatch.1, hmatch.2, hsame⟩, rfl, rfl, rfl⟩
  · rw [happended]
    exact ⟨_, List.mem_append_right _ (List.mem_singleton_self _), ⟨rfl, rfl, rfl⟩, rfl, rfl, rfl⟩

end

/-- **Creation is idempotent.** In any run of calls no request id of a tenant has two actions; a body that is canonically
what is stored is answered with that action and nothing changes, any other fails with a conflict and nothing changes; and
what was answered once is there ever after, with its ids, and reads back as what was validated. -/
theorem createOrReturn_idempotent {sha256 : Text → Text} {labels : List (CallContext × StoreCall)} {s : DurableStore}
    (hrun : Run (ValidatedStep sha256) .empty labels s) :
    (s.actions.map fun r => (r.tenantId, r.request.requestId)).Nodup ∧
    ∀ (c : CallContext) (raw : JsValue) (ids : NewActionIds) (request : ValidatedRequest),
      validatePlatformActionRequestInput raw = .ok request →
      (∀ row ∈ s.actions, row.tenantId = request.tenantId → row.request.requestId = request.requestId →
        ∃ stored, row.readRequest = some stored ∧
          (request.document.toValue.canonical = stored.canonical → c.commits = true →
            createOrReturnRaw sha256 c raw ids s = .ok row.toPlatformAction s) ∧
          (request.document.toValue.canonical ≠ stored.canonical →
            ∃ message, createOrReturnRaw sha256 c raw ids s = .error (.platform .conflict message) s)) ∧
      ∀ a t, createOrReturnRaw sha256 c raw ids s = .ok a t → ∀ later u, Run (ValidatedStep sha256) t later u →
        ∃ row ∈ u.actions, (row.tenantId = request.tenantId ∧ row.request.requestId = request.requestId) ∧
          (row.platformActionId = a.platformActionId ∧ row.correlationId = a.correlationId ∧ row.inputHash = a.inputHash) ∧
          ∃ fields, row.readRequest = some (.obj fields) ∧
            (Value.obj fields).canonical = request.document.toValue.canonical ∧ row.inputHash = inputHashOf sha256 fields := by
  have hs : s.Created sha256 := hrun.invariant (I := fun s => s.Created sha256) (fun _ _ _ hstep hs => created_step hstep hs) (created_empty sha256)
  have hdistinct := hs.distinct
  rw [DurableStore.origins, List.map_map] at hdistinct
  refine ⟨hdistinct, fun c raw ids request hraw => ⟨fun row hrow htenant hrequest => ?_, fun a t hanswer later u hlater => ?_⟩⟩
  · obtain ⟨fields, hread, hcanonical, -⟩ := hs.readsBack hrow
    have hcall := createOrReturn_found sha256 c ids (hs.find hrow htenant hrequest)
    rw [← hcanonical] at hcall
    rw [createOrReturnRaw, hraw]
    refine ⟨_, hread, fun hsame hcommits => ?_, fun hne => ?_⟩
    · rw [if_neg (not_not.2 hsame.symm), hcommits] at hcall
      exact hcall
    · rw [if_pos hne.symm] at hcall
      exact ⟨_, hcall⟩
  · rw [createOrReturnRaw, hraw] at hanswer
    have hcall : ValidatedStep sha256 s (c, .createOrReturn request ids) t := by
      refine ⟨⟨raw, hraw⟩, .inl ?_⟩
      simp only [StoreCall.run, bind, EStateM.bind, hanswer]
      rfl
    have hu : u.Created sha256 :=
      hlater.invariant (I := fun u => u.Created sha256) (fun _ _ _ hstep hv => created_step hstep hv) (created_step hcall hs)
    have hkept : t.origins <+: u.origins :=
      hlater.invariant (I := fun v => t.origins <+: v.origins)
        (fun _ _ _ hstep hstarts => hstarts.trans (origins_of_storeStep hstep.2)) (List.prefix_refl _)
    obtain ⟨o, ho, ⟨htenant, hrequest, hcanonical⟩, hids⟩ := origin_of_answer hanswer
    obtain ⟨row, hrow, rfl⟩ := List.mem_map.1 (hkept.subset ho)
    obtain ⟨fields, hread, hfields, hhash⟩ := hu.readsBack hrow
    exact ⟨row, hrow, ⟨htenant, hrequest⟩, hids, fields, hread, hfields.trans hcanonical, hhash⟩

/-- A body whose input has a property that is undefined, and a number that loses its sign. -/
def sampleBody : JsValue :=
  ⟨.obj [("version", .str "1.0"), ("request_id", .str "r1"), ("tenant_id", .str "t"), ("agent_id", .str "agent_1"),
    ("action", .str "database.read"), ("tool", .str "reader"), ("operation", .str "read"), ("resource", .str "docs"),
    ("input", .obj [("page", .num .negZero), ("limit", .undefined)]), ("requires_verification", .bool false)], rfl⟩

/-- The body, sent again, is answered with what was stored. -/
theorem createOrReturn_idempotent_retry :
    ∃ a s, createOrReturnRaw id (sampleContext 0 "a") sampleBody ⟨"1", "1"⟩ .empty = .ok a s ∧
      ∃ row ∈ s.actions, createOrReturnRaw id (sampleContext 1 "b") sampleBody ⟨"2", "2"⟩ s = .ok row.toPlatformAction s := by
  have hvalid : (validatePlatformActionRequestInput sampleBody).isOk = true := by decide +kernel
  have hanswers : (match createOrReturnRaw id (sampleContext 0 "a") sampleBody ⟨"1", "1"⟩ .empty with
      | .ok _ _ => true
      | .error _ _ => false) = true := by decide +kernel
  cases hraw : validatePlatformActionRequestInput sampleBody with
  | error e =>
    rw [hraw] at hvalid
    cases hvalid
  | ok request =>
    cases hfirst : createOrReturnRaw id (sampleContext 0 "a") sampleBody ⟨"1", "1"⟩ .empty with
    | error e s =>
      rw [hfirst] at hanswers
      cases hanswers
    | ok a s =>
      have hcall : ValidatedStep id .empty (sampleContext 0 "a", .createOrReturn request ⟨"1", "1"⟩) s := by
        rw [createOrReturnRaw, hraw] at hfirst
        refine ⟨⟨sampleBody, hraw⟩, .inl ?_⟩
        simp only [StoreCall.run, bind, EStateM.bind, hfirst]
        rfl
      have hlater := (createOrReturn_idempotent (Run.nil DurableStore.empty)).2 _ sampleBody _ request hraw |>.2 a s hfirst [] s (.nil s)
      obtain ⟨row, hrow, ⟨htenant, hrequest⟩, -, fields, hread, hcanonical, -⟩ := hlater
      have hretry := (createOrReturn_idempotent (.cons hcall (.nil s))).2 (sampleContext 1 "b") sampleBody ⟨"2", "2"⟩ request hraw
      obtain ⟨stored, hstored, hsame, -⟩ := hretry.1 row hrow htenant hrequest
      rw [hread] at hstored
      cases hstored
      exact ⟨a, s, rfl, row, hrow, hsame hcanonical.symm rfl⟩

end Tna.Platform
