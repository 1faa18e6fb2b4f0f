import Tna.Broker.Interleaving
import Tna.Platform.Orchestration

/-!
# Grants

What stays true of a granted action whatever else is done to the stores: a copy that was
read is the row as long as the row has its version, and the decision and the capability
of an action are fixed once the capability has been recorded.
-/

namespace Tna.Platform

open Tna.Js Tna.Gate Tna.Lib Tna.Broker

/-! ## Rows -/

/-- The capability of the action has been recorded, or never will be. -/
def PlatformActionState.granted : PlatformActionState → Bool
  | .received | .authorizing | .blocked | .held | .authorized => false
  | _ => true

theorem granted_of_allowed {source target : PlatformActionState} (hsource : source.granted = true)
    (h : target ∈ allowedTransitions source) : target.granted = true := by
  have hall : (allowedTransitions source).all PlatformActionState.granted = true := by
    revert hsource
    cases source <;> decide
  exact List.all_eq_true.1 hall target h

/-- What changes of the tables make of the row of an action. -/
structure Onward (row row' : ActionRow) : Prop where
  version : row.stateVersion ≤ row'.stateVersion
  same : row'.stateVersion = row.stateVersion → row'.toPlatformAction = row.toPlatformAction
  granted : row.state.granted = true →
    row'.state.granted = true ∧ row'.gateDecision = row.gateDecision ∧ row'.capabilityId = row.capabilityId

variable {row row' : ActionRow}

theorem Onward.of_eq (h : row'.toPlatformAction = row.toPlatformAction) : Onward row row' where
  version := by rw [h]
  same := fun _ => h
  granted := by
    intro hgranted
    rw [h]
    exact ⟨hgranted, rfl, rfl⟩

theorem Onward.trans {row'' : ActionRow} (h : Onward row row') (h' : Onward row' row'') : Onward row row'' where
  version := h.version.trans h'.version
  same := by
    intro heq
    have hfirst : row'.stateVersion = row.stateVersion := by
      have hle := h.version
      have hle' := h'.version
      omega
    rw [h'.same (by omega), h.same hfirst]
  granted := by
    intro hgranted
    obtain ⟨hgranted', hdecision, hcapability⟩ := h.granted hgranted
    obtain ⟨hgranted'', hdecision', hcapability'⟩ := h'.granted hgranted'
    exact ⟨hgranted'', hdecision'.trans hdecision, hcapability'.trans hcapability⟩

section
variable {s t : DurableStore} {key : Text × Text}

variable {row : ActionRow}

/-- A row that is moved. -/
theorem onward_of_moved {selected : ActionRow → Bool} {change : PlatformAction → PlatformAction} (h : Movable s selected change)
    (hrow : s.row row.key = some row) (hselected : selected row = true) :
    Onward row { row with toPlatformAction := { change row.toPlatformAction with stateVersion := row.stateVersion + 1 } } where
  version := Nat.le_succ _
  same := fun heq => absurd heq (Nat.succ_ne_self _)
  granted := by
    intro hgranted
    refine ⟨granted_of_allowed hgranted (h.allowed row hrow hselected), h.decision row hrow hselected ?_,
      h.capability row hrow hselected ?_⟩
    · intro heq
      rw [heq] at hgranted
      cases hgranted
    · intro heq
      rw [heq] at hgranted
      cases hgranted

theorem onward_of_change (h : Change s t) (hrow : s.row key = some row) : ∃ row', t.row key = some row' ∧ Onward row row' := by
  cases h with
  | quiet h =>
    cases h with
    | runs => exact ⟨row, hrow, .of_eq rfl⟩
    | records => exact ⟨row, hrow, .of_eq rfl⟩
    | enqueued e now uuid _ _ =>
      refine ⟨_, by rw [row_enqueued, hrow, Option.map_some], .of_eq ?_⟩
      split <;> rfl
  | inserted _ _ _ _ =>
    refine ⟨row, ?_, .of_eq rfl⟩
    rw [row_inserted, hrow, Option.some_or]
  | @moved selected change h =>
    refine ⟨_, by rw [row_moved h.key, hrow, Option.map_some], ?_⟩
    split
    · next hselected => exact onward_of_moved h (row_of_row hrow) hselected
    · exact .of_eq rfl

theorem onward_of_changes (h : Relation.ReflTransGen Change s t) (hrow : s.row key = some row) :
    ∃ row', t.row key = some row' ∧ Onward row row' := by
  induction h with
  | refl => exact ⟨row, hrow, .of_eq rfl⟩
  | tail _ hlast ih =>
    obtain ⟨row', hrow', honward⟩ := ih
    obtain ⟨row'', hrow'', hlast⟩ := onward_of_change hlast hrow'
    exact ⟨row'', hrow'', honward.trans hlast⟩

end

/-! ## Capabilities -/

/-- A capability and its token, as the broker has recorded them. -/
def capabilityAt (k : Broker.Store) (capabilityId : Text) : Option (CapabilityPayload × Text) :=
  (k.capabilities.lookup capabilityId).map fun record => (record.capability, record.token)

/-- What calls of the broker do to the capabilities: nothing, or one is issued. -/
inductive Issuance (k k' : Broker.Store) : Prop where
  | same (h : capabilityAt k' = capabilityAt k)
  | issued (p : CapabilityPayload) (token : Text)
    (hfree : capabilityAt k p.capabilityId = none)
    (hnew : ∀ id q, capabilityAt k id = some q → q.1.decisionId ≠ p.decisionId)
    (h : capabilityAt k' = Function.update (capabilityAt k) p.capabilityId (some (p, token)))

/-- No decision has two capabilities. -/
def OneEach (k : Broker.Store) : Prop :=
  ∀ id id' q q', capabilityAt k id = some q → capabilityAt k id' = some q' → q.1.decisionId = q'.1.decisionId → id = id'

section
variable {k k' : Broker.Store}

theorem Issuance.oneEach (h : Issuance k k') (hone : OneEach k) : OneEach k' := by
  cases h with
  | same h =>
    intro id id' q q' hq hq'
    rw [h] at hq hq'
    exact hone id id' q q' hq hq'
  | issued p token hfree hnew h =>
    intro id id' q q' hq hq' heq
    rw [h, Function.update_apply] at hq hq'
    split at hq <;> split at hq'
    · next hid hid' => rw [hid, hid']
    · cases hq
      exact absurd heq.symm (hnew id' q' hq')
    · cases hq'
      exact absurd heq (hnew id q hq)
    · exact hone id id' q q' hq hq' heq

/-- A capability that is recorded stays so. -/
theorem Issuance.kept (h : Issuance k k') {id : Text} {q : CapabilityPayload × Text} (hq : capabilityAt k id = some q) :
    capabilityAt k' id = some q := by
  cases h with
  | same h => rw [h, hq]
  | issued p token hfree hnew h =>
    have hne : id ≠ p.capabilityId := by
      rintro rfl
      rw [hfree] at hq
      cases hq
    rw [h, Function.update_of_ne hne, hq]

theorem capabilityAt_of_capabilities (h : k'.capabilities = k.capabilities) : capabilityAt k' = capabilityAt k := by
  unfold capabilityAt
  rw [h]

theorem capabilityAt_issued (k : Broker.Store) (token : Text) (p : CapabilityPayload) :
    capabilityAt (k.issued token p) = Function.update (capabilityAt k) p.capabilityId (some (p, token)) := by
  funext id
  rw [Function.update_apply]
  unfold capabilityAt Store.issued
  split
  · next hid =>
    subst hid
    simp only [AList.lookup_insert, Option.map_some]
  · next hid => simp only [AList.lookup_insert_ne hid]

theorem capabilityAt_consumed {record : CapabilityRecord} {capabilityId : Text}
    (h : k.capabilities.lookup capabilityId = some record) :
    capabilityAt { k with capabilities := k.capabilities.insert capabilityId { record with consumed := true } } =
      capabilityAt k := by
  funext id
  unfold capabilityAt
  by_cases hid : id = capabilityId
  · subst hid
    simp only [AList.lookup_insert, h, Option.map_some]
  · simp only [AList.lookup_insert_ne hid]

variable {random : IssueRandom} {b : ExecutionBroker}

theorem issuance_of_issue (b : ExecutionBroker) (writes : IssueWrites) (principal : Principal) (decisionId : Text)
    (hfresh : k.capabilities.lookup random.capabilityId = none) :
    Issuance k (issue b random writes k principal decisionId).store := by
  have hissued := issued_of_issue b random writes k principal decisionId
  revert hissued
  generalize issue b random writes k principal decisionId = e
  intro hissued
  cases hissued with
  | refused hextends =>
    obtain ⟨events, rfl⟩ := hextends
    exact .same rfl
  | rolledBack => exact .same rfl
  | @stored p token hp hnew =>
    refine .issued p token ?_ ?_ (capabilityAt_issued k token p)
    · rw [hp.capabilityId, capabilityAt, hfresh, Option.map_none]
    · intro id q hq
      obtain ⟨record, hrecord, rfl⟩ := Option.map_eq_some_iff.1 hq
      rw [hp.decisionId]
      exact hnew id record hrecord

/-- What was issued is recorded under the decision it was issued for. -/
theorem capabilityAt_of_issue {writes : IssueWrites} {principal : Principal} {decisionId token : Text} {p : CapabilityPayload}
    (h : (issue b random writes k principal decisionId).result = .ok (token, p)) :
    p.decisionId = decisionId ∧ capabilityAt (issue b random writes k principal decisionId).store p.capabilityId = some (p, token) := by
  have hissued := issued_of_issue b random writes k principal decisionId
  revert hissued h
  generalize issue b random writes k principal decisionId = e
  intro h hissued
  cases hissued with
  | refused => cases h
  | rolledBack => cases h
  | stored hp hnew =>
    cases h
    refine ⟨hp.decisionId, ?_⟩
    rw [capabilityAt_issued, Function.update_self]

/-- A piece of `redeem` issues nothing. -/
theorem capabilityAt_of_redeem {pc : Broker.Pc} {a : Broker.Answer} {e : Effect} (h : redeemStep b k pc a = some e) :
    capabilityAt e.store = capabilityAt k := by
  cases piece_of_step h with
  | ends hpc hheld hs => exact capabilityAt_of_capabilities (endWrite_capabilities hs)
  | advance hadvance =>
    cases hadvance with
    | consumed hs =>
      obtain ⟨record, hrecord, -, rfl⟩ := consume_ok hs
      exact capabilityAt_consumed hrecord
    | checked _ => rfl
    | leased _ => rfl
    | requested _ => rfl
    | handled _ => rfl
    | ran => rfl

theorem Elsewhere.issuance (h : Elsewhere k k') : Issuance k k' := by
  cases h with
  | issue b random writes principal decisionId hfresh => exact issuance_of_issue b writes principal decisionId hfresh
  | redeem b h => exact .same (capabilityAt_of_redeem h)
  | process k' hcapabilities => exact .same (capabilityAt_of_capabilities hcapabilities)

end

/-! ## What a call knows -/

/-- A copy of an action that was read, while it is authorized. -/
structure Seen (s : DurableStore) (actionId decisionId : Text) (a : PlatformAction) : Prop where
  id : a.platformActionId = actionId
  row : ∃ row, s.row a.key = some row ∧ a.stateVersion ≤ row.stateVersion ∧
    (row.stateVersion = a.stateVersion → row.toPlatformAction = a)
  decision : a.gateDecision = some ⟨decisionId, .allow⟩

/-- The action is bound to a decision to allow it and to the capability that was issued for that decision. -/
def Bound (s : DurableStore) (k : Broker.Store) (key : Text × Text) (token : Text) (capability : CapabilityPayload) : Prop :=
  ∃ row, s.row key = some row ∧ row.state.granted = true ∧
    row.gateDecision = some ⟨capability.decisionId, .allow⟩ ∧ row.capabilityId = some capability.capabilityId ∧
    capabilityAt k capability.capabilityId = some (capability, token)

section
variable {s t : DurableStore} {k k' : Broker.Store} {actionId decisionId token : Text} {a : PlatformAction}

theorem seen_of_read {row : ActionRow} {tenantId : Text} (hrow : s.row (tenantId, actionId) = some row)
    (hdecision : row.gateDecision = some ⟨decisionId, .allow⟩) : Seen s actionId decisionId row.toPlatformAction where
  id := congrArg Prod.snd (key_of_row hrow)
  row := ⟨row, row_of_row hrow, le_refl _, fun _ => rfl⟩
  decision := hdecision

theorem Seen.changes (h : Seen s actionId decisionId a) (hchanges : Relation.ReflTransGen Change s t) :
    Seen t actionId decisionId a where
  id := h.id
  row := by
    obtain ⟨row, hrow, hversion, hsame⟩ := h.row
    obtain ⟨row', hrow', honward⟩ := onward_of_changes hchanges hrow
    have hle := honward.version
    refine ⟨row', hrow', hversion.trans hle, ?_⟩
    intro heq
    rw [honward.same (by omega)]
    exact hsame (by omega)
  decision := h.decision

theorem Bound.changes {key : Text × Text} {capability : CapabilityPayload} (h : Bound s k key token capability)
    (hchanges : Relation.ReflTransGen Change s t) (hissuance : Issuance k k') : Bound t k' key token capability := by
  obtain ⟨row, hrow, hgranted, hdecision, hcapability, hrecorded⟩ := h
  obtain ⟨row', hrow', honward⟩ := onward_of_changes hchanges hrow
  obtain ⟨hgranted', hdecision', hcapability'⟩ := honward.granted hgranted
  exact ⟨row', hrow', hgranted', hdecision'.trans hdecision, hcapability'.trans hcapability, hissuance.kept hrecorded⟩

end

end Tna.Platform
