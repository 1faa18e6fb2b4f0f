import Mathlib.Logic.Relation
import Tna.Platform.Durable

/-!
# What the transactions write

Each transaction of the durable store is a few changes of its tables: a new action, a
move of actions in the state machine, runs, an enqueued record, and a change of records
that leaves what they say alone.
-/

namespace Tna.Platform

open Tna.Js Tna.Gate Tna.Lib

/-! ## Statements -/

section
variable {s t : DurableStore}

/-- The store with a record enqueued. -/
def DurableStore.enqueued (s : DurableStore) (tenantId actionId : Text) (e : Evidence) (now : Nat) (uuid : Text) : DurableStore :=
  let outboxId := Text.ofAscii "ob_" ++ uuid
  let prior := (s.row (tenantId, actionId)).bind ActionRow.lastOutboxId
  { s with
    actions := Rows.update (fun r => r.key = (tenantId, actionId)) (fun r => { r with lastOutboxId := some outboxId }) s.actions
    outbox := s.outbox ++ [newOutboxRecord outboxId tenantId actionId e.eventType (e.payload prior) now] }

variable {actionId tenantId : Text} {row : ActionRow} {n : Nat} {a : Unit}

theorem getAction_ok (h : getAction tenantId actionId s = .ok row t) : t = s ∧ s.row (tenantId, actionId) = some row := by
  obtain ⟨s', u, hget, h⟩ := bind_answered h
  cases hget
  cases hrow : s.row (tenantId, actionId) with
  | none =>
    simp only [hrow] at h
    cases h
  | some row' =>
    simp only [hrow] at h
    cases h
    exact ⟨rfl, rfl⟩

theorem updateActions_ok {selected : ActionRow → Bool} {change : ActionRow → ActionRow}
    (h : updateActions selected change s = .ok n t) :
    n = s.actions.countP selected ∧ t = { s with actions := Rows.update selected change s.actions } := by
  cases h
  exact ⟨rfl, rfl⟩

theorem updateRuns_ok {selected : RunRow → Bool} {status : RunStatus} (h : updateRuns selected status s = .ok n t) :
    n = s.runs.countP selected ∧ t = { s with runs := Rows.update selected (fun r => { r with status := status }) s.runs } := by
  cases h
  exact ⟨rfl, rfl⟩

theorem updateOutbox_ok {selected : OutboxRecord → Bool} {change : OutboxRecord → OutboxRecord}
    (h : updateOutbox selected change s = .ok n t) :
    n = s.outbox.countP selected ∧ t = { s with outbox := Rows.update selected change s.outbox } := by
  cases h
  exact ⟨rfl, rfl⟩

theorem insertAction_ok (h : insertAction row s = .ok a t) :
    s.row row.key = none ∧ t = { s with actions := s.actions ++ [row] } := by
  obtain ⟨s', u, hget, h⟩ := bind_answered h
  cases hget
  split at h
  · cases h
  · next hnone =>
    cases h
    refine ⟨Rows.row_eq_none.2 fun r hr heq => hnone ?_, rfl⟩
    exact List.any_eq_true.2 ⟨r, hr, by simp [heq]⟩

theorem insertRun_ok {row : RunRow} (h : insertRun row s = .ok a t) :
    (∀ r ∈ s.runs, r.tenantId = row.tenantId →
      r.executionId ≠ row.executionId ∧ r.platformActionId ≠ row.platformActionId) ∧
    t = { s with runs := s.runs ++ [row] } := by
  obtain ⟨s', u, hget, h⟩ := bind_answered h
  cases hget
  split at h
  · cases h
  · next hnone =>
    cases h
    refine ⟨fun r hr htenant => ?_, rfl⟩
    by_contra hsame
    refine hnone (List.any_eq_true.2 ⟨r, hr, ?_⟩)
    by_cases hid : r.executionId = row.executionId
    · simp [htenant, hid]
    · have haction : r.platformActionId = row.platformActionId := by
        by_contra hother
        exact hsame ⟨hid, hother⟩
      simp [htenant, haction]

theorem insertOutbox_ok {record : OutboxRecord} (h : insertOutbox record s = .ok a t) :
    s.record record.key = none ∧ t = { s with outbox := s.outbox ++ [record] } := by
  obtain ⟨s', u, hget, h⟩ := bind_answered h
  cases hget
  split at h
  · cases h
  · next hnone =>
    cases h
    refine ⟨Rows.row_eq_none.2 fun r hr heq => hnone ?_, rfl⟩
    exact List.any_eq_true.2 ⟨r, hr, by simp [heq]⟩

theorem enqueue_ok {e : Evidence} {now : Nat} {uuid : Text} (h : enqueue tenantId actionId e now uuid s = .ok a t) :
    s.record (tenantId, Text.ofAscii "ob_" ++ uuid) = none ∧ t = s.enqueued tenantId actionId e now uuid := by
  obtain ⟨s', u, hget, h⟩ := bind_answered h
  cases hget
  obtain ⟨_, u, hinsert, h⟩ := bind_answered h
  obtain ⟨hnew, rfl⟩ := insertOutbox_ok hinsert
  obtain ⟨n, v, hupdate, h⟩ := bind_answered h
  obtain ⟨-, rfl⟩ := updateActions_ok hupdate
  cases h
  exact ⟨hnew, rfl⟩

/-- The store with the selected actions moved on. -/
def DurableStore.moved (s : DurableStore) (selected : ActionRow → Bool) (change : PlatformAction → PlatformAction) :
    DurableStore :=
  { s with
    actions := Rows.update selected
      (fun r => { r with toPlatformAction := { change r.toPlatformAction with stateVersion := r.stateVersion + 1 } }) s.actions }

end

/-! ## Changes -/

/-- What a record says, and who it is. -/
structure Written where
  tenantId : Text
  outboxId : Text
  platformActionId : Text
  eventType : Text
  payload : JsObject
  ledgerEventId : Text

def OutboxRecord.written (r : OutboxRecord) : Written :=
  ⟨r.tenantId, r.outboxId, r.platformActionId, r.eventType, r.payload, r.ledgerEventId⟩

/-- The record has the event id that goes with it. -/
def OutboxRecord.Deterministic (r : OutboxRecord) : Prop := r.ledgerEventId = outboxLedgerEventId r.outboxId

/-- A change that leaves the states of actions alone. -/
inductive Quiet (s : DurableStore) : DurableStore → Prop where
  | runs (runs : List RunRow) : Quiet s { s with runs := runs }
  | enqueued {tenantId actionId : Text} (e : Evidence) (now : Nat) (uuid : Text) {row : ActionRow}
    (hrow : s.row (tenantId, actionId) = some row) (hnew : s.record (tenantId, Text.ofAscii "ob_" ++ uuid) = none) :
    Quiet s (s.enqueued tenantId actionId e now uuid)
  | records (selected : OutboxRecord → Bool) (change : OutboxRecord → OutboxRecord)
    (hwritten : ∀ r, selected r = true → r.Deterministic → (change r).written = r.written) :
    Quiet s { s with outbox := Rows.update selected change s.outbox }

/-- The selected actions can be moved so: each to a state its own allows, and the Gate's
decision and the capability are written where they are due alone. -/
structure Movable (s : DurableStore) (selected : ActionRow → Bool) (change : PlatformAction → PlatformAction) : Prop where
  key : ∀ a, (change a).key = a.key
  allowed : ∀ r, s.row r.key = some r → selected r = true →
    (change r.toPlatformAction).state ∈ allowedTransitions r.state
  decision : ∀ r, s.row r.key = some r → selected r = true → r.state ≠ .authorizing →
    (change r.toPlatformAction).gateDecision = r.gateDecision
  capability : ∀ r, s.row r.key = some r → selected r = true → r.state ≠ .authorized →
    (change r.toPlatformAction).capabilityId = r.capabilityId

/-- A change of the tables. -/
inductive Change (s : DurableStore) : DurableStore → Prop where
  | quiet {t : DurableStore} (h : Quiet s t) : Change s t
  | inserted {row : ActionRow} (hnew : s.row row.key = none) (hstate : row.state = .received) (hversion : row.stateVersion = 0)
    (hlast : row.lastOutboxId = none) : Change s { s with actions := s.actions ++ [row] }
  | moved {selected : ActionRow → Bool} {change : PlatformAction → PlatformAction} (h : Movable s selected change) :
    Change s (s.moved selected change)

/-! ## States -/

/-- The state and the version of an action. -/
def DurableStore.status (s : DurableStore) (key : Text × Text) : Option (PlatformActionState × Nat) :=
  (s.row key).map fun r => (r.state, r.stateVersion)

section
variable {s t : DurableStore} {key : Text × Text}

theorem status_eq_none : s.status key = none ↔ s.row key = none := by
  rw [DurableStore.status, Option.map_eq_none_iff]

variable {r : ActionRow} {change : PlatformAction → PlatformAction}

theorem key_of_row (h : s.row key = some r) : r.key = key :=
  Rows.key_of_row (c := fun r : ActionRow => r.key) h

/-- What is read under the key of what was read is the same. -/
theorem row_of_row (h : s.row key = some r) : s.row r.key = some r := by
  rw [key_of_row h]
  exact h

/-- The row of an action after another was inserted. -/
theorem row_inserted (s : DurableStore) (row : ActionRow) (key : Text × Text) :
    ({ s with actions := s.actions ++ [row] } : DurableStore).row key = (s.row key).or (if row.key = key then some row else none) := by
  have happend : Rows.row (fun r : ActionRow => r.key) (s.actions ++ [row]) key =
      (Rows.row (fun r : ActionRow => r.key) s.actions key).or (if row.key = key then some row else none) := Rows.row_append row
  exact happend

/-- The row of an action after a record was enqueued for it. -/
theorem row_enqueued (s : DurableStore) (tenantId actionId : Text) (e : Evidence) (now : Nat) (uuid : Text)
    (key : Text × Text) :
    (s.enqueued tenantId actionId e now uuid).row key = (s.row key).map fun r =>
      if r.key = (tenantId, actionId) then { r with lastOutboxId := some (Text.ofAscii "ob_" ++ uuid) } else r := by
  have h : (s.enqueued tenantId actionId e now uuid).row key = (s.row key).map fun r =>
      if decide (r.key = (tenantId, actionId)) = true then { r with lastOutboxId := some (Text.ofAscii "ob_" ++ uuid) } else r :=
    Rows.row_update fun _ => rfl
  simp only [decide_eq_true_eq] at h
  exact h

/-- The row of an action that was moved in place is still there. -/
theorem row_moved (hkey : ∀ a, (change a).key = a.key) (selected : ActionRow → Bool) (key : Text × Text) :
    (s.moved selected change).row key = (s.row key).map fun r =>
      if selected r then { r with toPlatformAction := { change r.toPlatformAction with stateVersion := r.stateVersion + 1 } }
      else r :=
  Rows.row_update fun r => hkey r.toPlatformAction

theorem status_quiet (h : Quiet s t) (key : Text × Text) : t.status key = s.status key := by
  cases h with
  | runs => rfl
  | records => rfl
  | enqueued e now uuid hrow hnew =>
    rw [DurableStore.status, row_enqueued, DurableStore.status, Option.map_map]
    congr 1
    funext r
    simp only [Function.comp_apply]
    split <;> rfl

theorem status_quiets (h : Relation.ReflTransGen Quiet s t) (key : Text × Text) : t.status key = s.status key := by
  induction h with
  | refl => rfl
  | tail _ hlast ih => rw [status_quiet hlast, ih]

theorem status_moved (hkey : ∀ a, (change a).key = a.key) (selected : ActionRow → Bool) (key : Text × Text) :
    (s.moved selected change).status key = (s.row key).map fun r =>
      if selected r then ((change r.toPlatformAction).state, r.stateVersion + 1) else (r.state, r.stateVersion) := by
  rw [DurableStore.status, row_moved hkey, Option.map_map]
  congr 1
  funext r
  simp only [Function.comp_apply]
  split <;> rfl

end

/-! ## Interruptions -/

/-- What a recovery does, change by change: actions that were executing end. -/
inductive Interrupts (s : DurableStore) : DurableStore → Prop where
  | quiet {t : DurableStore} (h : Quiet s t) : Interrupts s t
  | moved (selected : ActionRow → Bool) :
    Interrupts s (s.moved (fun r => selected r && r.state = .executing) fun a => { a with state := .indeterminate })

theorem movable_interrupted (s : DurableStore) (selected : ActionRow → Bool) :
    Movable s (fun r => selected r && r.state = .executing) fun a => { a with state := .indeterminate } where
  key := fun _ => rfl
  allowed := by
    intro r _ hr
    have hstate : r.state = .executing := by
      rw [Bool.and_eq_true, decide_eq_true_eq] at hr
      exact hr.2
    rw [hstate]
    show PlatformActionState.indeterminate ∈ allowedTransitions .executing
    decide
  decision := fun _ _ _ _ => rfl
  capability := fun _ _ _ _ => rfl

variable {s t : DurableStore}

theorem Interrupts.change (h : Interrupts s t) : Change s t := by
  cases h with
  | quiet h => exact .quiet h
  | moved selected => exact .moved (movable_interrupted s selected)

/-- The end of an action that was executing. -/
def interrupted : PlatformActionState × Nat → PlatformActionState × Nat
  | (.executing, version) => (.indeterminate, version + 1)
  | status => status

theorem interrupted_interrupted (status : PlatformActionState × Nat) : interrupted (interrupted status) = interrupted status := by
  obtain ⟨state, version⟩ := status
  cases state <;> rfl

theorem status_interrupts (h : Interrupts s t) (key : Text × Text) :
    t.status key = s.status key ∨ t.status key = (s.status key).map interrupted := by
  cases h with
  | quiet h => exact .inl (status_quiet h key)
  | moved selected =>
    have hstatus := status_moved (s := s) (movable_interrupted s selected).key (fun r => selected r && r.state = .executing) key
    rw [hstatus, DurableStore.status]
    cases hrow : s.row key with
    | none => exact .inl rfl
    | some r =>
      by_cases hselected : (selected r && r.state = .executing) = true
      · have hstate : r.state = .executing := by
          rw [Bool.and_eq_true, decide_eq_true_eq] at hselected
          exact hselected.2
        right
        rw [Option.map_some, if_pos hselected, Option.map_some, Option.map_some, hstate]
        rfl
      · left
        rw [Option.map_some, if_neg hselected, Option.map_some]

/-- A recovery leaves an action as it was, or ends it. -/
theorem status_recovered (h : Relation.ReflTransGen Interrupts s t) (key : Text × Text) :
    t.status key = s.status key ∨ t.status key = (s.status key).map interrupted := by
  induction h with
  | refl => exact .inl rfl
  | tail _ hlast ih =>
    rcases status_interrupts hlast key with hsame | hended
    · rw [hsame]
      exact ih
    · right
      rcases ih with ih | ih
      · rw [hended, ih]
      · rw [hended, ih, Option.map_map]
        congr 1
        funext status
        exact interrupted_interrupted status

/-! ## Transactions -/

section
variable {s t : DurableStore} {c : CallContext} {tenantId actionId : Text} {guard : PlatformAction → Option PlatformError}
  {selected : PlatformAction → Bool} {change : PlatformAction → PlatformAction} {evidence : ActionRow → Option Evidence}

/-- **Inversion of a change of state**: the guard let the row through, the row was moved, and the
evidence was enqueued. -/
theorem write_ok {a : PlatformAction} (h : write c tenantId actionId guard selected change evidence s = .ok a t) :
    ∃ current, s.row (tenantId, actionId) = some current ∧ guard current.toPlatformAction = none ∧
      let u := s.moved (fun r => r.key = (tenantId, actionId) && selected r.toPlatformAction) change
      (t = u ∧ evidence current = none ∨
        ∃ e, evidence current = some e ∧ u.record (tenantId, Text.ofAscii "ob_" ++ c.uuid) = none ∧
          t = u.enqueued tenantId actionId e c.now c.uuid) ∧
      ∃ row, t.row (tenantId, actionId) = some row ∧ a = row.toPlatformAction := by
  obtain ⟨current, u, hget, hbody⟩ := bind_answered (body_of_tx h)
  clear h
  obtain ⟨rfl, hrow⟩ := getAction_ok hget
  refine ⟨current, hrow, ?_⟩
  cases hguard : guard current.toPlatformAction with
  | some e =>
    simp only [hguard] at hbody
    cases hbody
  | none =>
    simp only [hguard] at hbody
    obtain ⟨n, v, hupdate, hchecked⟩ := bind_answered hbody
    obtain ⟨-, rfl⟩ := updateActions_ok hupdate
    split at hchecked
    · cases hchecked
    refine ⟨rfl, ?_⟩
    cases hevidence : evidence current with
    | none =>
      simp only [hevidence] at hchecked
      obtain ⟨row, v, hread, hpure⟩ := bind_answered hchecked
      obtain ⟨rfl, hrow'⟩ := getAction_ok hread
      cases hpure
      exact ⟨.inl ⟨rfl, rfl⟩, row, hrow', rfl⟩
    | some e =>
      simp only [hevidence] at hchecked
      obtain ⟨_, v, henqueue, hrest⟩ := bind_answered hchecked
      obtain ⟨hnew, rfl⟩ := enqueue_ok henqueue
      obtain ⟨row, v, hread, hpure⟩ := bind_answered hrest
      obtain ⟨rfl, hrow'⟩ := getAction_ok hread
      cases hpure
      exact ⟨.inr ⟨e, rfl, hnew, rfl⟩, row, hrow', rfl⟩

end

theorem createOrReturn_ok {sha256 : Text → Text} {c : CallContext} {request : ValidatedRequest} {ids : NewActionIds}
    {a : PlatformAction} (h : createOrReturn sha256 c request ids s = .ok a t) :
    t = s ∨
      let row := newActionRow sha256 request ids
      let u : DurableStore := { s with actions := s.actions ++ [row] }
      s.row row.key = none ∧ u.record (row.tenantId, Text.ofAscii "ob_" ++ c.uuid) = none ∧
        t = u.enqueued row.tenantId row.platformActionId (receivedEvidence row) c.now c.uuid := by
  obtain ⟨s', u, hget, hbody⟩ := bind_answered (body_of_tx h)
  clear h
  cases hget
  cases hfound : s.actions.find? (fun r => r.tenantId = request.tenantId && r.request.requestId = request.requestId) with
  | some existing =>
    simp only [hfound] at hbody
    split at hbody
    · cases hbody
    · cases hbody
      exact .inl rfl
  | none =>
    simp only [hfound] at hbody
    right
    obtain ⟨_, v, hinsert, hrest⟩ := bind_answered hbody
    obtain ⟨hnew, rfl⟩ := insertAction_ok hinsert
    obtain ⟨_, w, henqueue, hpure⟩ := bind_answered hrest
    obtain ⟨hrecord, rfl⟩ := enqueue_ok henqueue
    cases hpure
    exact ⟨hnew, hrecord, rfl⟩

namespace Durable

section
variable {s t : DurableStore} {c : CallContext}

variable {executionId tenantId : Text} {a : Unit} {now : Nat} {uuids : Text × Text → Text}

/-- **Inversion of a claim of an execution**: the action was monitored, it moved, and it had no run yet. -/
theorem claimExecution_ok {actionId : Text} {expectedVersion : Nat} {run : RunRow}
    (h : claimExecution c tenantId actionId expectedVersion executionId s = .ok run t) :
    ∃ current, s.row (tenantId, actionId) = some current ∧ current.state = .monitoring ∧
      current.stateVersion = expectedVersion ∧ run = ⟨executionId, tenantId, actionId, .claimed⟩ ∧
      (∀ r ∈ s.runs, r.tenantId = tenantId → r.executionId ≠ executionId ∧ r.platformActionId ≠ actionId) ∧
      let u := s.moved (fun r => r.key = (tenantId, actionId) && stillAt .monitoring expectedVersion r.toPlatformAction)
        fun a => { a with state := .executing }
      let v : DurableStore := { u with runs := u.runs ++ [run] }
      v.record (tenantId, Text.ofAscii "ob_" ++ c.uuid) = none ∧
        t = v.enqueued tenantId actionId (claimedEvidence current executionId) c.now c.uuid := by
  obtain ⟨current, u, hget, hbody⟩ := bind_answered (body_of_tx h)
  clear h
  obtain ⟨rfl, hrow⟩ := getAction_ok hget
  cases hguard : PlatformStore.expects .monitoring expectedVersion "Action is not claimable for execution"
      current.toPlatformAction with
  | some e =>
    simp only [hguard] at hbody
    cases hbody
  | none =>
    simp only [hguard] at hbody
    obtain ⟨hstate, hversion⟩ := PlatformStore.expects_none hguard
    obtain ⟨n, v, hupdate, hchecked⟩ := bind_answered hbody
    obtain ⟨-, rfl⟩ := updateActions_ok hupdate
    split at hchecked
    · cases hchecked
    obtain ⟨_, w, hinsert, hrest⟩ := bind_answered hchecked
    obtain ⟨hfresh, rfl⟩ := insertRun_ok hinsert
    obtain ⟨_, x, henqueue, hpure⟩ := bind_answered hrest
    obtain ⟨hrecord, rfl⟩ := enqueue_ok henqueue
    cases hpure
    exact ⟨current, hrow, hstate, hversion, rfl, hfresh, hrecord, rfl⟩

theorem finishRun_ok {interrupted : Bool} (h : finishRun c tenantId executionId interrupted s = .ok a t) :
    t = { s with
      runs := Rows.update (fun r => r.tenantId = tenantId && r.executionId = executionId && r.status = .claimed)
        (fun r => { r with status := if interrupted then .indeterminate else .finished }) s.runs } := by
  obtain ⟨n, u, hupdate, hchecked⟩ := bind_answered (body_of_tx h)
  obtain ⟨-, rfl⟩ := updateRuns_ok hupdate
  split at hchecked
  · cases hchecked
  · cases hchecked
    rfl

/-- **Inversion of a claim of a record**: it claims nothing, or the first record that can be claimed. -/
theorem claimNext_ok {ownerId token : Text} {leaseMs : Nat} {claimed : Option OutboxRecord}
    (h : claimNext c ownerId token leaseMs s = .ok claimed t) :
    claimed = none ∧ (t = s ∨ ∃ row, s.outbox.find? (claimable c.now) = some row ∧
      s.outbox.countP (fun r => r.key = row.key && r.status = row.status && r.claimToken = row.claimToken) ≠ 1 ∧
      t = { s with
        outbox := Rows.update (fun r => r.key = row.key && r.status = row.status && r.claimToken = row.claimToken)
          (fun r => r.claimed c.now ownerId token leaseMs) s.outbox }) ∨
    ∃ row, s.outbox.find? (claimable c.now) = some row ∧ claimed = some (row.claimed c.now ownerId token leaseMs) ∧
      t = { s with
        outbox := Rows.update (fun r => r.key = row.key && r.status = row.status && r.claimToken = row.claimToken)
          (fun r => r.claimed c.now ownerId token leaseMs) s.outbox } := by
  obtain ⟨s', u, hget, hbody⟩ := bind_answered (body_of_tx h)
  clear h
  cases hget
  cases hrow : s.outbox.find? (claimable c.now) with
  | none =>
    simp only [hrow] at hbody
    cases hbody
    exact .inl ⟨rfl, .inl rfl⟩
  | some row =>
    simp only [hrow] at hbody
    obtain ⟨n, v, hupdate, hchecked⟩ := bind_answered hbody
    obtain ⟨rfl, rfl⟩ := updateOutbox_ok hupdate
    split at hchecked
    · next hlost =>
      cases hchecked
      exact .inl ⟨rfl, .inr ⟨row, rfl, hlost, rfl⟩⟩
    · cases hchecked
      exact .inr ⟨row, rfl, rfl, rfl⟩

/-- A row that was there is there after an interruption. -/
theorem row_interrupts (h : Interrupts s t) {key : Text × Text} (hrow : s.row key ≠ none) : t.row key ≠ none := by
  rw [ne_eq, ← status_eq_none] at hrow ⊢
  rcases status_interrupts h key with hsame | hended
  · rw [hsame]
    exact hrow
  · rw [hended, Option.map_eq_none_iff]
    exact hrow

theorem recoverAction_ok {row : ActionRow} (hrow : s.row row.key ≠ none) (h : recoverAction now uuids row s = .ok a t) :
    Relation.ReflTransGen Interrupts s t ∧ ∀ key, s.row key ≠ none → t.row key ≠ none := by
  obtain ⟨n, u, hupdate, hrest⟩ := bind_answered h
  obtain ⟨-, rfl⟩ := updateActions_ok hupdate
  obtain ⟨m, v, hruns, hrest'⟩ := bind_answered hrest
  obtain ⟨-, rfl⟩ := updateRuns_ok hruns
  obtain ⟨hnew, rfl⟩ := enqueue_ok hrest'
  have hmoved : Interrupts s (s.moved (fun r => r.key = row.key && r.state = .executing) fun a => { a with state := .indeterminate }) :=
    .moved fun r => r.key = row.key
  have hruns' := Interrupts.quiet (Quiet.runs (s := s.moved (fun r => r.key = row.key && r.state = .executing)
    fun a => { a with state := .indeterminate }) (Rows.update
      (fun r => r.tenantId = row.tenantId && r.platformActionId = row.platformActionId && r.status = .claimed)
      (fun r => { r with status := .indeterminate }) s.runs))
  have hthere := row_interrupts hruns' (row_interrupts hmoved hrow)
  obtain ⟨row', hrow'⟩ := Option.ne_none_iff_exists'.1 hthere
  have henqueued := Interrupts.quiet (Quiet.enqueued (recoveryEvidence row) now (uuids row.key) hrow' hnew)
  refine ⟨((Relation.ReflTransGen.single hmoved).tail hruns').tail henqueued, ?_⟩
  intro key hkey
  exact row_interrupts henqueued (row_interrupts hruns' (row_interrupts hmoved hkey))

theorem recoverActions_ok {rows : List ActionRow} (hrows : ∀ row ∈ rows, s.row row.key ≠ none)
    (h : recoverActions now uuids rows s = .ok a t) : Relation.ReflTransGen Interrupts s t := by
  induction rows generalizing s with
  | nil =>
    cases h
    exact .refl
  | cons row rows ih =>
    obtain ⟨_, u, hfirst, hrest⟩ := bind_answered h
    obtain ⟨hinterrupts, hkept⟩ := recoverAction_ok (hrows row (List.mem_cons_self ..)) hfirst
    exact hinterrupts.trans (ih (fun row' hrow' => hkept _ (hrows row' (List.mem_cons_of_mem _ hrow'))) hrest)

/-- **Inversion of a recovery**: interruptions, and then the claims of records that have expired. -/
theorem recoverInterruptedWork_ok (h : recoverInterruptedWork c uuids s = .ok a t) :
    ∃ u, recoverActions c.now uuids (s.actions.filter fun r => r.state = .executing) s = .ok () u ∧
      Relation.ReflTransGen Interrupts s u ∧
      t = { u with
        outbox := Rows.update (fun r => r.status = .delivering && r.claimExpiresAt.all fun expiry => expiry ≤ c.now)
          (fun r => { r with
            status := .failed, nextAttemptAt := c.now
            lastError := some "Recovered after interrupted or expired delivery claim" }) u.outbox } := by
  obtain ⟨s', u, hget, hbody⟩ := bind_answered (body_of_tx h)
  clear h
  cases hget
  obtain ⟨_, v, hactions, hrest⟩ := bind_answered hbody
  obtain ⟨n, w, houtbox, hpure⟩ := bind_answered hrest
  obtain ⟨-, rfl⟩ := updateOutbox_ok houtbox
  cases hpure
  refine ⟨v, hactions, recoverActions_ok ?_ hactions, rfl⟩
  intro row hrow
  exact Rows.row_ne_none_of_mem (List.mem_of_mem_filter hrow)

end

end Durable

end Tna.Platform
