import Mathlib.Data.List.Chain
import Tna.Platform.Calls

/-!
# The lifecycle and the causal chain of an action

Whatever calls are made of the store, and in whatever order: an action begins as received,
goes along the edges of the state machine, one version at a time, and never leaves a
terminal state.

Its records, in the order they were written, are one chain: the first names no cause, each
later one names the one before it, and the action points to the last. What a record says is
never written again.
-/

namespace Tna.Platform

open Tna.Js Tna.Gate Tna.Lib

/-- What a call may do to the state and the version of an action: nothing, begin it, or take it along one edge. -/
inductive Advances : Option (PlatformActionState × Nat) → Option (PlatformActionState × Nat) → Prop where
  | same (status : Option (PlatformActionState × Nat)) : Advances status status
  | created : Advances none (some (.received, 0))
  | moved {source target : PlatformActionState} (version : Nat) (h : isAllowedTransition source target = true) :
    Advances (some (source, version)) (some (target, version + 1))

section
variable {s t : DurableStore} {key : Text × Text}

/-- The end of an action that was executing is an edge; any other status an interruption leaves alone. -/
theorem advances_interrupted (status : PlatformActionState × Nat) : Advances (some status) (some (interrupted status)) := by
  obtain ⟨state, version⟩ := status
  cases state with
  | executing => exact .moved version rfl
  | _ => exact .same _

/-- **Step**: a call takes every action along one edge at most. -/
theorem advances_of_effect (h : CallEffect s t) (key : Text × Text) : Advances (s.status key) (t.status key) := by
  cases h with
  | quiet h =>
    rw [status_quiets h]
    exact .same _
  | @inserted row hnew hstate hversion hlast h =>
    rw [status_quiets h, DurableStore.status, DurableStore.status, row_inserted]
    by_cases hkey : row.key = key
    · subst hkey
      rw [hnew, Option.none_or, if_pos rfl, Option.map_none, Option.map_some, hstate, hversion]
      exact .created
    · rw [if_neg hkey, Option.or_none]
      exact .same _
  | @moved selected change hmovable h =>
    rw [status_quiets h, status_moved hmovable.key, DurableStore.status]
    cases hrow : s.row key with
    | none => exact .same _
    | some r =>
      rw [Option.map_some, Option.map_some]
      by_cases hselected : selected r = true
      · rw [if_pos hselected]
        exact .moved _ (decide_eq_true (hmovable.allowed r (row_of_row hrow) hselected))
      · rw [if_neg hselected]
        exact .same _
  | recovered h =>
    rcases status_recovered h key with hsame | hended
    · rw [hsame]
      exact .same _
    · rw [hended]
      cases s.status key with
      | none => exact .same _
      | some status => exact advances_interrupted status

/-- No edge leaves a terminal state. -/
theorem eq_of_terminal {status status' : Option (PlatformActionState × Nat)} {state : PlatformActionState} {version : Nat}
    (h : Advances status status') (hstatus : status = some (state, version)) (hterminal : isTerminalState state = true) :
    status' = some (state, version) := by
  cases h with
  | same => exact hstatus
  | created => cases hstatus
  | moved version' hallowed =>
    cases hstatus
    have htarget := of_decide_eq_true hallowed
    rw [(allowedTransitions_eq_nil_iff state).2 hterminal] at htarget
    cases htarget

variable {sha256 : Text → Text}

/-- What has ended stays as it ended. -/
theorem terminal_of_run {labels : List (CallContext × StoreCall)} {state : PlatformActionState} {version : Nat}
    (hrun : Run (StoreStep sha256) s labels t) (hstatus : s.status key = some (state, version))
    (hterminal : isTerminalState state = true) : t.status key = some (state, version) :=
  hrun.invariant (I := fun s => s.status key = some (state, version))
    (fun _ _ _ hstep hstatus => eq_of_terminal (advances_of_effect (effect_of_step hstep) key) hstatus hterminal) hstatus

/-- **The lifecycle of actions**, at any call of any run of the store. The call takes every action along one edge at
most, with its version increased by one; where it throws it changes no table; and an action that has ended by then is as
it is at the end of the run. -/
theorem lifecycle_of_run {before after : List (CallContext × StoreCall)} {label : CallContext × StoreCall}
    (hrun : Run (StoreStep sha256) .empty (before ++ label :: after) t) :
    ∃ u v, Run (StoreStep sha256) .empty before u ∧ StoreStep sha256 u label v ∧ Run (StoreStep sha256) v after t ∧
      (∀ key, Advances (u.status key) (v.status key)) ∧
      (∀ e w, label.2.run sha256 label.1 u = .error e w → w = u) ∧
      ∀ key state version, u.status key = some (state, version) → isTerminalState state = true →
        v.status key = some (state, version) ∧ t.status key = some (state, version) := by
  obtain ⟨u, v, hbefore, hstep, hafter⟩ := hrun.split
  have hadvances : ∀ key, Advances (u.status key) (v.status key) := advances_of_effect (effect_of_step hstep)
  refine ⟨u, v, hbefore, hstep, hafter, hadvances, fun e w => eq_of_call_error, ?_⟩
  intro key state version hstatus hterminal
  have hended := eq_of_terminal (hadvances key) hstatus hterminal
  exact ⟨hended, terminal_of_run hafter hended hterminal⟩

end

/-- An action is submitted, and its authorization begins. -/
def sampleLabels : List (CallContext × StoreCall) :=
  [sampleCreation,
    (sampleContext 1 "b", .transition "t" "pa_1" 0 .authorizing "PLATFORM_ACTION_STATE_CHANGED" true)]

/-- A decision on it. -/
def sampleDecisionCall (decision : VerdictDecision) : CallContext × StoreCall :=
  (sampleContext 2 "c", .recordGateDecision "t" "pa_1" 1 ⟨⟨"dec_1", decision⟩, "r", none, none, none, "2026"⟩)

/-- The action is blocked, and a late call that takes it for one still being authorized changes nothing. -/
theorem lifecycle_of_run_blocked :
    (storeAfter id (sampleLabels ++ [sampleDecisionCall .block, sampleDecisionCall .allow]) .empty).status ("t", "pa_1") =
      some (.blocked, 2) ∧
    ∃ u v, Run (StoreStep id) .empty sampleLabels u ∧ StoreStep id u (sampleDecisionCall .block) v ∧
      ∀ key, Advances (u.status key) (v.status key) := by
  obtain ⟨u, v, hbefore, hstep, -, hadvances, -⟩ :=
    lifecycle_of_run (run_storeAfter id (sampleLabels ++ sampleDecisionCall .block :: [sampleDecisionCall .allow]) .empty)
  exact ⟨by decide, u, v, hbefore, hstep, hadvances⟩

/-! ## What the records say -/

def Written.key (w : Written) : Text × Text := (w.tenantId, w.outboxId)

def Written.actionKey (w : Written) : Text × Text := (w.tenantId, w.platformActionId)

/-- The cause a record names, if it names one. -/
def Written.causationEventId (w : Written) : Option Value := w.payload.fields.lookup causationField

/-- What all records say, in the order they were written. -/
def DurableStore.written (s : DurableStore) : List Written := s.outbox.map OutboxRecord.written

/-- What the records of an action say, in the order they were written. -/
def DurableStore.writtenOf (s : DurableStore) (key : Text × Text) : List Written :=
  s.written.filter fun w => w.actionKey = key

/-- A record names another as its cause. -/
def Causes (cause w : Written) : Prop := w.causationEventId = some (.str (outboxLedgerEventId cause.outboxId))

/-- The records of every action are a causal chain, and the action points to its end. -/
structure Causal (s : DurableStore) : Prop where
  /-- A record is told from all others by its id. -/
  distinct : (s.written.map Written.key).Nodup
  deterministic : ∀ w ∈ s.written, w.ledgerEventId = outboxLedgerEventId w.outboxId
  first : ∀ key w, (s.writtenOf key).head? = some w → w.causationEventId = none
  linked : ∀ key, (s.writtenOf key).IsChain Causes
  last : ∀ key, (s.row key).bind ActionRow.lastOutboxId = (s.writtenOf key).getLast?.map Written.outboxId

theorem causal_empty : Causal .empty where
  distinct := List.nodup_nil
  deterministic := by
    intro w hw
    cases hw
  first := by
    intro key w hw
    cases hw
  linked := fun _ => .nil
  last := fun _ => rfl

/-! ## The payload -/

/-- What is written into the payload is the record before, if there is one. -/
theorem causation_payload (e : Evidence) (prior : Option Text) :
    (e.payload prior).fields.lookup causationField = prior.map fun prior => .str (outboxLedgerEventId prior) := by
  cases prior with
  | none => exact Value.lookup_eq_none_of_not_mem e.uncaused
  | some prior => exact Value.lookup_setFields_of_not_mem _ e.uncaused

/-! ## Steps -/

section
variable {s t : DurableStore}

/-- The record an enqueueing writes. -/
def enqueuedWritten (s : DurableStore) (tenantId actionId : Text) (e : Evidence) (uuid : Text) : Written :=
  let outboxId := Text.ofAscii "ob_" ++ uuid
  ⟨tenantId, outboxId, actionId, e.eventType, e.payload ((s.row (tenantId, actionId)).bind ActionRow.lastOutboxId),
    outboxLedgerEventId outboxId⟩

variable {tenantId actionId uuid : Text} {e : Evidence} {now : Nat}

theorem written_enqueued :
    (s.enqueued tenantId actionId e now uuid).written = s.written ++ [enqueuedWritten s tenantId actionId e uuid] := by
  show (s.outbox ++ [_]).map OutboxRecord.written = s.outbox.map OutboxRecord.written ++ _
  rw [List.map_append]
  rfl

theorem writtenOf_enqueued (key : Text × Text) :
    (s.enqueued tenantId actionId e now uuid).writtenOf key =
      s.writtenOf key ++ if (tenantId, actionId) = key then [enqueuedWritten s tenantId actionId e uuid] else [] := by
  rw [DurableStore.writtenOf, written_enqueued, List.filter_append]
  congr 1
  by_cases hkey : (tenantId, actionId) = key
  · rw [if_pos hkey]
    exact List.filter_cons_of_pos (decide_eq_true hkey)
  · rw [if_neg hkey]
    exact List.filter_cons_of_neg fun h => hkey (of_decide_eq_true h)

/-- The chain of the action grows by a record that names its last, and the action points to the new one. -/
theorem Causal.enqueued (h : Causal s) {row : ActionRow} (hrow : s.row (tenantId, actionId) = some row)
    (hnew : s.record (tenantId, Text.ofAscii "ob_" ++ uuid) = none) : Causal (s.enqueued tenantId actionId e now uuid) := by
  have hcause : (enqueuedWritten s tenantId actionId e uuid).causationEventId =
      ((s.writtenOf (tenantId, actionId)).getLast?.map Written.outboxId).map fun prior => .str (outboxLedgerEventId prior) := by
    rw [← h.last]
    exact causation_payload e _
  constructor
  case distinct =>
    rw [written_enqueued, List.map_append, List.nodup_append]
    refine ⟨h.distinct, List.nodup_singleton _, ?_⟩
    rintro key hold key' hkey' rfl
    rw [List.map_singleton, List.mem_singleton] at hkey'
    obtain ⟨w, hw, hwkey⟩ := List.mem_map.1 hold
    obtain ⟨r, hr, rfl⟩ := List.mem_map.1 hw
    exact Rows.row_eq_none.1 hnew r hr (hwkey.trans hkey')
  case deterministic =>
    intro w hw
    rw [written_enqueued, List.mem_append, List.mem_singleton] at hw
    rcases hw with hw | rfl
    · exact h.deterministic w hw
    · rfl
  case first =>
    intro key w hw
    rw [writtenOf_enqueued] at hw
    by_cases hkey : (tenantId, actionId) = key
    · subst hkey
      rw [if_pos rfl] at hw
      rcases hwritten : s.writtenOf (tenantId, actionId) with _ | ⟨w', rest⟩
      · rw [hwritten, List.nil_append, List.head?_cons, Option.some.injEq] at hw
        rw [← hw, hcause, hwritten]
        rfl
      · have hfirst := h.first (tenantId, actionId) w'
        rw [hwritten] at hw hfirst
        rw [List.cons_append, List.head?_cons, Option.some.injEq] at hw
        rw [← hw]
        exact hfirst rfl
    · rw [if_neg hkey, List.append_nil] at hw
      exact h.first key w hw
  case linked =>
    intro key
    rw [writtenOf_enqueued]
    by_cases hkey : (tenantId, actionId) = key
    · subst hkey
      rw [if_pos rfl]
      refine (h.linked _).append (List.isChain_singleton _) ?_
      intro cause hlast w hw
      rw [List.head?_cons, Option.mem_some_iff] at hw
      rw [← hw]
      rw [Option.mem_def] at hlast
      show (enqueuedWritten s tenantId actionId e uuid).causationEventId = _
      rw [hcause, hlast]
      rfl
    · rw [if_neg hkey, List.append_nil]
      exact h.linked key
  case last =>
    intro key
    rw [row_enqueued, writtenOf_enqueued]
    by_cases hkey : (tenantId, actionId) = key
    · subst hkey
      rw [hrow, Option.map_some, if_pos (key_of_row hrow), if_pos rfl, List.getLast?_append]
      rfl
    · rw [if_neg hkey, List.append_nil, ← h.last key]
      cases hother : s.row key with
      | none => rfl
      | some r =>
        have hne : r.key ≠ (tenantId, actionId) := by
          rw [key_of_row hother]
          exact Ne.symm hkey
        rw [Option.map_some, if_neg hne]

/-- A store that says the same, and whose actions point where they did, is as causal. -/
theorem Causal.of_written (h : Causal s) (hwritten : t.written = s.written)
    (hlast : ∀ key, (t.row key).bind ActionRow.lastOutboxId = (s.row key).bind ActionRow.lastOutboxId) : Causal t := by
  have hof : ∀ key, t.writtenOf key = s.writtenOf key := by
    intro key
    rw [DurableStore.writtenOf, hwritten]
    rfl
  constructor
  case distinct =>
    rw [hwritten]
    exact h.distinct
  case deterministic =>
    rw [hwritten]
    exact h.deterministic
  case first =>
    intro key
    rw [hof]
    exact h.first key
  case linked =>
    intro key
    rw [hof]
    exact h.linked key
  case last =>
    intro key
    rw [hlast, hof]
    exact h.last key

/-- **Step**: a change keeps the chains, and all that was written. -/
theorem causal_of_change (hchange : Change s t) (h : Causal s) : Causal t ∧ s.written <+: t.written := by
  cases hchange with
  | quiet hquiet =>
    cases hquiet with
    | runs => exact ⟨h.of_written rfl fun _ => rfl, List.prefix_rfl⟩
    | enqueued e now uuid hrow hnew =>
      refine ⟨h.enqueued hrow hnew, ?_⟩
      rw [written_enqueued]
      exact List.prefix_append _ _
    | records selected change hwritten =>
      have hsame : (Rows.update selected change s.outbox).map OutboxRecord.written = s.outbox.map OutboxRecord.written := by
        refine Rows.map_update fun r hr hselected => hwritten r hselected ?_
        exact h.deterministic _ (List.mem_map_of_mem hr)
      refine ⟨h.of_written hsame fun _ => rfl, ?_⟩
      rw [DurableStore.written, DurableStore.written, hsame]
  | @inserted row hnew hstate hversion hlast =>
    refine ⟨h.of_written rfl ?_, List.prefix_rfl⟩
    intro key
    rw [row_inserted]
    by_cases hkey : row.key = key
    · subst hkey
      rw [hnew, Option.none_or, if_pos rfl]
      exact hlast
    · rw [if_neg hkey, Option.or_none]
  | @moved selected change hmovable =>
    refine ⟨h.of_written rfl ?_, List.prefix_rfl⟩
    intro key
    rw [row_moved hmovable.key]
    cases s.row key with
    | none => rfl
    | some r =>
      show (if selected r then _ else r : ActionRow).lastOutboxId = r.lastOutboxId
      split <;> rfl

theorem causal_of_changes (hchanges : Relation.ReflTransGen Change s t) (h : Causal s) :
    Causal t ∧ s.written <+: t.written := by
  induction hchanges with
  | refl => exact ⟨h, List.prefix_rfl⟩
  | tail _ hlast ih =>
    obtain ⟨hcausal, hgrows⟩ := ih
    obtain ⟨hcausal', hgrows'⟩ := causal_of_change hlast hcausal
    exact ⟨hcausal', hgrows.trans hgrows'⟩

variable {sha256 : Text → Text}

/-- The chains and the records are kept from any store on. -/
theorem causal_of_steps {labels : List (CallContext × StoreCall)} (hrun : Run (StoreStep sha256) s labels t) (h : Causal s) :
    Causal t ∧ s.written <+: t.written := by
  refine hrun.invariant (I := fun t => Causal t ∧ s.written <+: t.written) ?_ ⟨h, List.prefix_rfl⟩
  rintro u label v hstep ⟨hcausal, hgrows⟩
  obtain ⟨hcausal', hgrows'⟩ := causal_of_changes (effect_of_step hstep).changes hcausal
  exact ⟨hcausal', hgrows.trans hgrows'⟩

/-- **The causal chain**, in every store that calls of it lead to: the records of each action are one chain, and whatever
calls come later, what has been written stays where it is. -/
theorem causality_of_run {labels : List (CallContext × StoreCall)} (hrun : Run (StoreStep sha256) .empty labels s) :
    Causal s ∧ ∀ later t, Run (StoreStep sha256) s later t → s.written <+: t.written := by
  have hcausal : Causal s := (causal_of_steps hrun causal_empty).1
  exact ⟨hcausal, fun later t hlater => (causal_of_steps hlater hcausal).2⟩

end

/-- Three records of one action. -/
theorem causality_of_run_blocked :
    let s := storeAfter id (sampleLabels ++ [sampleDecisionCall .block]) .empty
    Causal s ∧ (s.writtenOf ("t", "pa_1")).map Written.outboxId = ["ob_a", "ob_b", "ob_c"] :=
  ⟨(causality_of_run (run_storeAfter id (sampleLabels ++ [sampleDecisionCall .block]) .empty)).1, by decide⟩

end Tna.Platform
