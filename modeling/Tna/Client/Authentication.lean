import Tna.Client.Offboarding

/-!
# Authentication of services

A token authenticates the identity whose row has its hash, while that row is active. Which
token that is, and whether the row is active, is told by the operations that answered: the
last one that issued a credential of the identity, and whether any revoked it, by itself or
with its tenant.
-/

namespace Tna.Client

open Tna.Js Tna.Lib

/-- The key of an identity. -/
def ClientServiceIdentity.key (r : ClientServiceIdentity) : Text × Text := (r.tenantId, r.serviceId)

/-! ## What the operations told -/

/-- An operation that was attempted, and whether it answered. -/
structure OpReport where
  op : ClientOp
  answered : Bool

/-- An operation that answers leaves what its statements come to; one that throws leaves what was there. -/
def OpReport.Step (sha256 : Text → Text) (s : ClientStore) (report : OpReport) (t : ClientStore) : Prop :=
  if report.answered then report.op.body sha256 s = .ok () t else t = s

/-- The credential an operation issues, with the identity it is for. -/
def ClientOp.issues : ClientOp → Option ((Text × Text) × Text)
  | .createServiceIdentity tenantId serviceId token _ _ => some ((tenantId, serviceId), token)
  | .rotateCredential tenantId serviceId _ token => some ((tenantId, serviceId), token)
  | _ => none

/-- The operation revokes an identity, by itself or with its tenant. -/
def ClientOp.revokes (key : Text × Text) : ClientOp → Prop
  | .revokeServiceIdentity tenantId serviceId _ => (tenantId, serviceId) = key
  | .beginOffboarding tenantId _ _ => tenantId = key.1
  | _ => False

/-- The credentials that were issued, in order. -/
def issuances (reports : List OpReport) : List ((Text × Text) × Text) :=
  reports.filterMap fun report => if report.answered then report.op.issues else none

/-- The most recently issued credential of an identity. -/
def lastIssued (reports : List OpReport) (key : Text × Text) : Option Text :=
  ((issuances reports).reverse.find? fun issued => issued.1 = key).map Prod.snd

/-- The identity was revoked. -/
def Revoked (reports : List OpReport) (key : Text × Text) : Prop :=
  ∃ report ∈ reports, report.answered = true ∧ report.op.revokes key

section
variable {sha256 : Text → Text} {s t : ClientStore} {reports : List OpReport} {op : ClientOp} {key : Text × Text}

theorem issuances_silent : issuances (reports ++ [⟨op, false⟩]) = issuances reports := by
  simp [issuances]

theorem issuances_answered : issuances (reports ++ [⟨op, true⟩]) = issuances reports ++ op.issues.toList := by
  cases h : op.issues <;> simp [issuances, h]

theorem lastIssued_silent : lastIssued (reports ++ [⟨op, false⟩]) key = lastIssued reports key := by
  rw [lastIssued, issuances_silent, lastIssued]

variable {token tenantId serviceId : Text} {version : Nat} {r : ClientServiceIdentity}

theorem lastIssued_issued (h : op.issues = some (key, token)) : lastIssued (reports ++ [⟨op, true⟩]) key = some token := by
  simp [lastIssued, issuances_answered, h]

theorem lastIssued_other (h : ∀ token, op.issues ≠ some (key, token)) :
    lastIssued (reports ++ [⟨op, true⟩]) key = lastIssued reports key := by
  cases hissues : op.issues with
  | none => simp [lastIssued, issuances_answered, hissues]
  | some issued =>
    have hne : issued.1 ≠ key := by
      rintro rfl
      exact h issued.2 hissues
    simp [lastIssued, issuances_answered, hissues, hne]

theorem mem_issuances_of_last (h : lastIssued reports key = some token) : (key, token) ∈ issuances reports := by
  obtain ⟨issued, hfound, rfl⟩ := Option.map_eq_some_iff.1 h
  have hkey := List.find?_some hfound
  have hmem := List.mem_reverse.1 (List.mem_of_find?_eq_some hfound)
  rw [← of_decide_eq_true hkey]
  exact hmem

theorem revoked_append (report : OpReport) : Revoked (reports ++ [report]) key ↔
    Revoked reports key ∨ report.answered = true ∧ report.op.revokes key := by
  simp only [Revoked, List.mem_append, List.mem_singleton, or_and_right, exists_or, exists_eq_left]

/-! ## What an operation does to the tenants -/

/-- A transition of a tenant, which does not bring it back. -/
theorem tenants_of_update (target : ClientTenantStatus) (reasons : ClientTenant → ClientTenant) {current : ClientTenant}
    (hdistinct : (s.tenants.map ClientTenant.tenantId).Nodup)
    (hrow : Rows.row ClientTenant.tenantId s.tenants tenantId = some current) (hversion : current.stateVersion = version)
    (hreasons : ∀ r, (reasons r).tenantId = r.tenantId) (hstays : current.status.leaving = true → target.leaving = true)
    (ht : t.tenants = Rows.update (fun r => r.tenantId = tenantId && r.stateVersion = version)
      (fun r => { reasons r with status := target, stateVersion := r.stateVersion + 1 }) s.tenants) :
    (t.tenants.map ClientTenant.tenantId).Nodup ∧ (∀ id, s.leaving id → t.leaving id) ∧
      (target.leaving = true → t.leaving tenantId) := by
  have hselected : ∀ r ∈ s.tenants, r.tenantId = tenantId →
      { reasons r with status := target, stateVersion := r.stateVersion + 1 } ∈ t.tenants := by
    intro r hr hid
    have hcurrent : r = current := List.inj_on_of_nodup_map hdistinct hr (Rows.mem_of_row hrow)
      (hid.trans (Rows.key_of_row hrow).symm)
    rw [ht]
    refine Rows.mem_update.2 ⟨r, hr, .inl ⟨?_, rfl⟩⟩
    rw [hcurrent, hversion, Rows.key_of_row hrow]
    simp
  refine ⟨?_, ?_, fun htarget => ?_⟩
  · have hids : t.tenants.map ClientTenant.tenantId = s.tenants.map ClientTenant.tenantId := by
      rw [ht]
      exact Rows.map_update fun r _ _ => hreasons r
    rw [hids]
    exact hdistinct
  · rintro id ⟨tenant, hmem, hid, hleaving⟩
    by_cases hsame : tenant.tenantId = tenantId
    · have hcurrent : tenant = current := List.inj_on_of_nodup_map hdistinct hmem (Rows.mem_of_row hrow)
        (hsame.trans (Rows.key_of_row hrow).symm)
      exact ⟨_, hselected tenant hmem hsame, (hreasons tenant).trans hid, hstays (hcurrent ▸ hleaving)⟩
    · refine ⟨tenant, ?_, hid, hleaving⟩
      rw [ht]
      exact Rows.mem_update_of_unselected hmem (by simp [hsame])
  · exact ⟨_, hselected current (Rows.mem_of_row hrow) (Rows.key_of_row hrow), (hreasons current).trans (Rows.key_of_row hrow), htarget⟩

/-- No operation brings back a tenant that leaves, and an offboarding makes it leave. -/
theorem tenants_of_body (hok : op.body sha256 s = .ok () t) (hdistinct : (s.tenants.map ClientTenant.tenantId).Nodup) :
    (t.tenants.map ClientTenant.tenantId).Nodup ∧ (∀ id, s.leaving id → t.leaving id) ∧
      ∀ id version reason, op = .beginOffboarding id version reason → t.leaving id := by
  have hsame : t.tenants = s.tenants → (∀ id version reason, op ≠ .beginOffboarding id version reason) →
      (t.tenants.map ClientTenant.tenantId).Nodup ∧ (∀ id, s.leaving id → t.leaving id) ∧
        ∀ id version reason, op = .beginOffboarding id version reason → t.leaving id := by
    intro htenants hop
    refine ⟨htenants ▸ hdistinct, fun id hid => ?_, fun id version reason h => absurd h (hop id version reason)⟩
    rw [ClientStore.leaving, htenants]
    exact hid
  have htransition : ∀ {tenantId : Text} {version : Nat} {allowedFrom : List ClientTenantStatus} {target : ClientTenantStatus}
      {reasons : ClientTenant → ClientTenant}, transitionTenant tenantId version allowedFrom target reasons s = .ok () t →
      (∀ r, (reasons r).tenantId = r.tenantId) →
      (∀ status ∈ allowedFrom, status.leaving = true → target.leaving = true) →
      (∀ id version reason, op ≠ .beginOffboarding id version reason) →
      (t.tenants.map ClientTenant.tenantId).Nodup ∧ (∀ id, s.leaving id → t.leaving id) ∧
        ∀ id version reason, op = .beginOffboarding id version reason → t.leaving id := by
    intro tenantId version allowedFrom target reasons hok hreasons hstays hop
    obtain ⟨current, hrow, hversion, hallowed, ht⟩ := transitionTenant_ok hok
    obtain ⟨hids, hleaving, -⟩ := tenants_of_update target reasons hdistinct hrow hversion hreasons (hstays _ hallowed)
      (congrArg ClientStore.tenants ht)
    exact ⟨hids, hleaving, fun id version reason h => absurd h (hop id version reason)⟩
  cases op with
  | createTenant tenantId configurationHash =>
    obtain ⟨hnew, rfl⟩ := insertTenant_ok.1 hok
    refine ⟨?_, fun id hid => ?_, by simp⟩
    · rw [List.map_append, List.nodup_append']
      refine ⟨hdistinct, List.nodup_singleton _, ?_⟩
      intro id hid hid'
      obtain ⟨r, hr, rfl⟩ := List.mem_map.1 hid
      exact hnew r hr (List.mem_singleton.1 hid')
    · obtain ⟨tenant, hmem, hrest⟩ := hid
      exact ⟨tenant, List.mem_append_left _ hmem, hrest⟩
  | activateTenant => exact htransition hok (fun _ => rfl) (by simp [ClientTenantStatus.leaving]) (by simp)
  | suspendTenant => exact htransition hok (fun _ => rfl) (by simp [ClientTenantStatus.leaving]) (by simp)
  | resumeTenant => exact htransition hok (fun _ => rfl) (by simp [ClientTenantStatus.leaving]) (by simp)
  | beginOffboarding tenantId version reason =>
    obtain ⟨⟨current, hrow, hversion⟩, ht⟩ := beginOffboarding_ok hok
    obtain ⟨hids, hleaving, hbegun⟩ := tenants_of_update .offboarding (fun r => { r with offboardingReason := some reason })
      hdistinct hrow hversion (fun _ => rfl) (fun _ => rfl) (congrArg ClientStore.tenants ht)
    refine ⟨hids, hleaving, fun _ _ _ h => ?_⟩
    cases h
    exact hbegun rfl
  | completeOffboarding => exact htransition hok (fun _ => rfl) (fun _ _ _ => rfl) (by simp)
  | createServiceIdentity =>
    obtain ⟨-, -, rfl⟩ := createServiceIdentity_ok hok
    exact hsame rfl (by simp)
  | rotateCredential =>
    obtain ⟨-, -, rfl⟩ := rotateCredential_ok hok
    exact hsame rfl (by simp)
  | revokeServiceIdentity =>
    obtain ⟨-, rfl⟩ := revokeServiceIdentity_ok hok
    exact hsame rfl (by simp)
  | registerMcpServer =>
    obtain ⟨-, rfl⟩ := registerMcpServer_ok hok
    exact hsame rfl (by simp)
  | setMcpServerStatus =>
    obtain ⟨-, rfl⟩ := setMcpServerStatus_ok hok
    exact hsame rfl (by simp)
  | reconfigureMcpServer =>
    obtain ⟨-, rfl⟩ := reconfigureMcpServer_ok hok
    exact hsame rfl (by simp)
  | recordDiscovery =>
    obtain ⟨rfl, -⟩ := recordDiscovery_ok hok
    exact hsame rfl (by simp)
  | enableTool =>
    obtain ⟨-, rfl⟩ := enableTool_ok hok
    exact hsame rfl (by simp)
  | disableTool =>
    obtain rfl := disableTool_ok hok
    exact hsame rfl (by simp)
  | recordClientAction =>
    obtain rfl := recordClientAction_ok hok
    exact hsame rfl (by simp)

/-! ## What an operation does to the identities -/

/-- What becomes of an identity: its credential is the one that is issued for it, if one is, and it is revoked if the
operation revokes it. -/
structure ClientOp.Follows (sha256 : Text → Text) (op : ClientOp) (r r' : ClientServiceIdentity) : Prop where
  key : r'.key = r.key
  issued : ∀ token, op.issues = some (r.key, token) → r'.credentialHash = sha256 token
  kept : (∀ token, op.issues ≠ some (r.key, token)) → r'.credentialHash = r.credentialHash
  revoked : r'.revoked = true ↔ r.revoked = true ∨ op.revokes r.key

/-- What an operation that answers does to the identities. -/
inductive IdentityEffect (sha256 : Text → Text) (op : ClientOp) (s t : ClientStore) : Prop where
  | created {tenantId serviceId token now : Text} {role : ClientServiceRole}
    (hop : op = .createServiceIdentity tenantId serviceId token role now)
    (hstays : ∃ current, Rows.row ClientTenant.tenantId s.tenants tenantId = some current ∧ current.status.leaving = false)
    (hnew : ∀ r ∈ s.services, r.serviceId ≠ serviceId ∧ r.credentialHash ≠ sha256 token)
    (h : t.services = s.services ++ [⟨serviceId, tenantId, false, sha256 token, 0, role, now⟩])
  | changed (change : ClientServiceIdentity → ClientServiceIdentity) (h : t.services = s.services.map change)
    (hfollows : ∀ r ∈ s.services, op.Follows sha256 r (change r))
    (hissues : ∀ key token, op.issues = some (key, token) →
      (∃ r ∈ s.services, r.key = key) ∧ ∀ r ∈ s.services, r.key = key ∨ r.credentialHash ≠ sha256 token)
    (hrevokes : ∀ key, op.revokes key → (∃ r ∈ s.services, r.key = key) ∨ t.leaving key.1)

/-- An update that names an identity and the version it has selects that identity. -/
theorem selects_iff {current : ClientServiceIdentity} (hids : (s.services.map ClientServiceIdentity.serviceId).Nodup)
    (hrow : Rows.row (fun r : ClientServiceIdentity => (r.tenantId, r.serviceId)) s.services (tenantId, serviceId) = some current)
    (hversion : current.stateVersion = version) (hr : r ∈ s.services) :
    (r.tenantId = tenantId && r.serviceId = serviceId && r.stateVersion = version) = true ↔ r.key = (tenantId, serviceId) := by
  simp only [Bool.and_eq_true, decide_eq_true_eq, ClientServiceIdentity.key, Prod.mk.injEq]
  refine ⟨And.left, fun hkey => ⟨hkey, ?_⟩⟩
  have hcurrent := Rows.key_of_row hrow
  have hsame : r = current := List.inj_on_of_nodup_map hids hr (Rows.mem_of_row hrow)
    (hkey.2.trans (congrArg Prod.snd hcurrent).symm)
  rw [hsame, hversion]

theorem identityEffect_of_body (hok : op.body sha256 s = .ok () t) (hdistinct : (s.tenants.map ClientTenant.tenantId).Nodup)
    (hids : (s.services.map ClientServiceIdentity.serviceId).Nodup) : IdentityEffect sha256 op s t := by
  have hkept : t.services = s.services → op.issues = none → (∀ key, ¬ op.revokes key) → IdentityEffect sha256 op s t := by
    intro hservices hissues hrevokes
    refine .changed id (by rw [hservices, List.map_id]) (fun r _ => ⟨rfl, fun token h => ?_, fun _ => rfl, ?_⟩) ?_ ?_
    · rw [hissues] at h
      cases h
    · simp [hrevokes]
    · intro key token h
      rw [hissues] at h
      cases h
    · exact fun key h => absurd h (hrevokes key)
  cases op with
  | createServiceIdentity tenantId serviceId token role now =>
    obtain ⟨hstays, hnew, ht⟩ := createServiceIdentity_ok hok
    exact .created rfl hstays hnew (congrArg ClientStore.services ht)
  | rotateCredential tenantId serviceId version token =>
    obtain ⟨⟨current, hrow, hversion⟩, hnew, ht⟩ := rotateCredential_ok hok
    refine .changed _ (congrArg ClientStore.services ht) (fun r hr => ?_) ?_ fun _ h => h.elim
    · have hselects := selects_iff hids hrow hversion hr
      by_cases hkey : r.key = (tenantId, serviceId)
      · rw [if_pos (hselects.2 hkey)]
        refine ⟨rfl, fun token' h => ?_, fun h => absurd (by rw [hkey]; rfl) (h token), by simp [ClientOp.revokes]⟩
        cases h
        rfl
      · rw [if_neg fun h => hkey (hselects.1 h)]
        refine ⟨rfl, fun token' h => ?_, fun _ => rfl, by simp [ClientOp.revokes]⟩
        exact absurd (congrArg Prod.fst (Option.some.inj h)).symm hkey
    · rintro key token' h
      cases h
      refine ⟨⟨current, Rows.mem_of_row hrow, Rows.key_of_row hrow⟩, fun r hr => ?_⟩
      refine (hnew r hr).imp_left fun hid => ?_
      have hcurrent := Rows.key_of_row hrow
      have hsame : r = current := List.inj_on_of_nodup_map hids hr (Rows.mem_of_row hrow)
        (hid.trans (congrArg Prod.snd hcurrent).symm)
      rw [hsame]
      exact hcurrent
  | revokeServiceIdentity tenantId serviceId version =>
    obtain ⟨⟨current, hrow, hversion⟩, ht⟩ := revokeServiceIdentity_ok hok
    refine .changed _ (congrArg ClientStore.services ht) (fun r hr => ?_) (fun _ _ h => nomatch h) ?_
    · have hselects := selects_iff hids hrow hversion hr
      by_cases hkey : r.key = (tenantId, serviceId)
      · rw [if_pos (hselects.2 hkey)]
        exact ⟨rfl, (fun _ h => nomatch h), fun _ => rfl, by simp [ClientOp.revokes, hkey]⟩
      · rw [if_neg fun h => hkey (hselects.1 h)]
        exact ⟨rfl, (fun _ h => nomatch h), fun _ => rfl, by simp [ClientOp.revokes, Ne.symm hkey]⟩
    · intro key hkey
      exact .inl ⟨current, Rows.mem_of_row hrow, (Rows.key_of_row hrow).trans hkey⟩
  | beginOffboarding tenantId version reason =>
    have hleaving := (tenants_of_body hok hdistinct).2.2 tenantId version reason rfl
    obtain ⟨-, ht⟩ := beginOffboarding_ok hok
    refine .changed _ (congrArg ClientStore.services ht) (fun r hr => ?_) (fun _ _ h => nomatch h) ?_
    · split
      · next hselected =>
        rw [Bool.and_eq_true, decide_eq_true_eq] at hselected
        exact ⟨rfl, (fun _ h => nomatch h), fun _ => rfl, by simp [ClientOp.revokes, ClientServiceIdentity.key, hselected.1]⟩
      · next hselected =>
        refine ⟨rfl, (fun _ h => nomatch h), fun _ => rfl, Or.inl, fun h => h.elim id fun htenant => ?_⟩
        by_contra hactive
        exact hselected (by simp [show r.tenantId = tenantId from Eq.symm htenant, hactive])
    · rintro key rfl
      exact .inr hleaving
  | createTenant =>
    obtain ⟨-, rfl⟩ := insertTenant_ok.1 hok
    exact hkept rfl rfl fun _ h => h
  | activateTenant =>
    obtain ⟨-, -, -, -, rfl⟩ := transitionTenant_ok hok
    exact hkept rfl rfl fun _ h => h
  | suspendTenant =>
    obtain ⟨-, -, -, -, rfl⟩ := transitionTenant_ok hok
    exact hkept rfl rfl fun _ h => h
  | resumeTenant =>
    obtain ⟨-, -, -, -, rfl⟩ := transitionTenant_ok hok
    exact hkept rfl rfl fun _ h => h
  | completeOffboarding =>
    obtain ⟨-, -, -, -, rfl⟩ := transitionTenant_ok hok
    exact hkept rfl rfl fun _ h => h
  | registerMcpServer =>
    obtain ⟨-, rfl⟩ := registerMcpServer_ok hok
    exact hkept rfl rfl fun _ h => h
  | setMcpServerStatus =>
    obtain ⟨-, rfl⟩ := setMcpServerStatus_ok hok
    exact hkept rfl rfl fun _ h => h
  | reconfigureMcpServer =>
    obtain ⟨-, rfl⟩ := reconfigureMcpServer_ok hok
    exact hkept rfl rfl fun _ h => h
  | recordDiscovery =>
    obtain ⟨rfl, -⟩ := recordDiscovery_ok hok
    exact hkept rfl rfl fun _ h => h
  | enableTool =>
    obtain ⟨-, rfl⟩ := enableTool_ok hok
    exact hkept rfl rfl fun _ h => h
  | disableTool =>
    obtain rfl := disableTool_ok hok
    exact hkept rfl rfl fun _ h => h
  | recordClientAction =>
    obtain rfl := recordClientAction_ok hok
    exact hkept rfl rfl fun _ h => h

/-! ## What is stored of the identities -/

/-- What is known of a store after operations that were reported: each identity has the hash of its most recently issued
credential, and is revoked where it was revoked. -/
structure Credentialed (sha256 : Text → Text) (reports : List OpReport) (s : ClientStore) : Prop where
  tenants : (s.tenants.map ClientTenant.tenantId).Nodup
  ids : (s.services.map ClientServiceIdentity.serviceId).Nodup
  hashes : (s.services.map ClientServiceIdentity.credentialHash).Nodup
  issued : ∀ r ∈ s.services, ∃ token, lastIssued reports r.key = some token ∧ r.credentialHash = sha256 token
  revoked : ∀ r ∈ s.services, r.revoked = true ↔ Revoked reports r.key
  /-- Of what was issued or revoked there is a row, or its tenant leaves. -/
  known : ∀ key, lastIssued reports key ≠ none → ∃ r ∈ s.services, r.key = key
  ended : ∀ key, Revoked reports key → (∃ r ∈ s.services, r.key = key) ∨ s.leaving key.1

theorem credentialed_empty (sha256 : Text → Text) : Credentialed sha256 [] .empty where
  tenants := .nil
  ids := .nil
  hashes := .nil
  issued := List.forall_mem_nil _
  revoked := List.forall_mem_nil _
  known := fun _ h => absurd rfl h
  ended := fun _ ⟨_, h, _⟩ => nomatch h

theorem revoked_answered (op : ClientOp) : Revoked (reports ++ [⟨op, true⟩]) key ↔ Revoked reports key ∨ op.revokes key := by
  rw [revoked_append]
  simp

/-- A new identity has the credential it was created with. -/
theorem Credentialed.created (hs : Credentialed sha256 reports s) (htenants : (t.tenants.map ClientTenant.tenantId).Nodup)
    (hleaving : ∀ id, s.leaving id → t.leaving id)
    (hstays : ∃ current, Rows.row ClientTenant.tenantId s.tenants tenantId = some current ∧ current.status.leaving = false)
    (hnew : ∀ r ∈ s.services, r.serviceId ≠ serviceId ∧ r.credentialHash ≠ sha256 token)
    (h : t.services = s.services ++ [⟨serviceId, tenantId, false, sha256 token, 0, role, now⟩]) :
    Credentialed sha256 (reports ++ [⟨.createServiceIdentity tenantId serviceId token role now, true⟩]) t := by
  have hother : ∀ r ∈ s.services, r.key ≠ (tenantId, serviceId) := by
    intro r hr hkey
    exact (hnew r hr).1 (congrArg Prod.snd hkey)
  have hold : ∀ r ∈ s.services, r ∈ t.services := fun r hr => h ▸ List.mem_append_left _ hr
  have hcreated : (⟨serviceId, tenantId, false, sha256 token, 0, role, now⟩ : ClientServiceIdentity) ∈ t.services :=
    h ▸ List.mem_append_right _ (List.mem_singleton_self _)
  have hkept : ∀ key, key ≠ (tenantId, serviceId) →
      lastIssued (reports ++ [⟨.createServiceIdentity tenantId serviceId token role now, true⟩]) key = lastIssued reports key := by
    intro key hne
    refine lastIssued_other fun token' hissues => hne ?_
    cases hissues
    rfl
  have hlast : lastIssued (reports ++ [⟨.createServiceIdentity tenantId serviceId token role now, true⟩]) (tenantId, serviceId) =
      some token := lastIssued_issued rfl
  constructor
  · exact htenants
  · rw [h, List.map_append, List.nodup_append']
    refine ⟨hs.ids, List.nodup_singleton _, fun id hid hid' => ?_⟩
    obtain ⟨r, hr, rfl⟩ := List.mem_map.1 hid
    exact (hnew r hr).1 (List.mem_singleton.1 hid')
  · rw [h, List.map_append, List.nodup_append']
    refine ⟨hs.hashes, List.nodup_singleton _, fun hash hhash hhash' => ?_⟩
    obtain ⟨r, hr, rfl⟩ := List.mem_map.1 hhash
    exact (hnew r hr).2 (List.mem_singleton.1 hhash')
  · intro r hr
    rw [h] at hr
    rcases List.mem_append.1 hr with hr | hr
    · rw [hkept _ (hother r hr)]
      exact hs.issued r hr
    · rw [List.mem_singleton.1 hr]
      exact ⟨token, hlast, rfl⟩
  · intro r hr
    rw [revoked_answered, h] at *
    simp only [ClientOp.revokes, or_false]
    rcases List.mem_append.1 hr with hr | hr
    · exact hs.revoked r hr
    · rw [List.mem_singleton.1 hr]
      refine iff_of_false Bool.false_ne_true fun hrevoked => ?_
      rcases hs.ended _ hrevoked with ⟨r', hr', hkey⟩ | hleaves
      · exact hother r' hr' hkey
      · obtain ⟨current, hrow, hactive⟩ := hstays
        exact not_leaving_of_row hs.tenants hrow hactive hleaves
  · intro key hkey
    by_cases hsame : key = (tenantId, serviceId)
    · exact ⟨_, hcreated, hsame.symm⟩
    · rw [hkept key hsame] at hkey
      obtain ⟨r, hr, hrkey⟩ := hs.known key hkey
      exact ⟨r, hold r hr, hrkey⟩
  · intro key hkey
    rw [revoked_answered] at hkey
    rcases hkey with hkey | hkey
    · exact (hs.ended key hkey).imp (fun ⟨r, hr, hrkey⟩ => ⟨r, hold r hr, hrkey⟩) (hleaving key.1)
    · exact hkey.elim

/-- Identities that follow an operation have what it issued, and are revoked where it revokes them. -/
theorem Credentialed.changed (hs : Credentialed sha256 reports s) {change : ClientServiceIdentity → ClientServiceIdentity}
    (htenants : (t.tenants.map ClientTenant.tenantId).Nodup) (hleaving : ∀ id, s.leaving id → t.leaving id)
    (h : t.services = s.services.map change) (hfollows : ∀ r ∈ s.services, op.Follows sha256 r (change r))
    (hissues : ∀ key token, op.issues = some (key, token) →
      (∃ r ∈ s.services, r.key = key) ∧ ∀ r ∈ s.services, r.key = key ∨ r.credentialHash ≠ sha256 token)
    (hrevokes : ∀ key, op.revokes key → (∃ r ∈ s.services, r.key = key) ∨ t.leaving key.1) :
    Credentialed sha256 (reports ++ [⟨op, true⟩]) t := by
  have hthere : ∀ key, (∃ r ∈ s.services, r.key = key) → ∃ r ∈ t.services, r.key = key := by
    rintro key ⟨r, hr, rfl⟩
    exact ⟨change r, h ▸ List.mem_map_of_mem hr, (hfollows r hr).key⟩
  have hids : t.services.map ClientServiceIdentity.serviceId = s.services.map ClientServiceIdentity.serviceId := by
    rw [h, List.map_map]
    exact List.map_congr_left fun r hr => congrArg Prod.snd (hfollows r hr).key
  constructor
  · exact htenants
  · rw [hids]
    exact hs.ids
  · have hnodup : s.services.Nodup := hs.ids.of_map
    rw [h, List.map_map]
    refine hnodup.map_on fun r hr r' hr' hsame => ?_
    rw [Function.comp_apply, Function.comp_apply] at hsame
    have hunique := List.inj_on_of_nodup_map hs.hashes
    have hdiffers : ∀ {r r'}, r ∈ s.services → r' ∈ s.services → (change r).credentialHash = (change r').credentialHash →
        (∃ token, op.issues = some (r.key, token)) → r.key = r'.key := by
      rintro r r' hr hr' hsame ⟨token, hissued⟩
      by_contra hne
      have hnone : ∀ token', op.issues ≠ some (r'.key, token') := by
        intro token' hissued'
        rw [hissued] at hissued'
        exact hne (congrArg Prod.fst (Option.some.inj hissued'))
      rw [(hfollows r hr).issued token hissued, (hfollows r' hr').kept hnone] at hsame
      exact ((hissues r.key token hissued).2 r' hr').elim (fun heq => hne heq.symm) fun hother => hother hsame.symm
    have hof : r.key = r'.key → r = r' := fun hkey => List.inj_on_of_nodup_map hs.ids hr hr' (congrArg Prod.snd hkey)
    by_cases hissued : ∃ token, op.issues = some (r.key, token)
    · exact hof (hdiffers hr hr' hsame hissued)
    · by_cases hissued' : ∃ token, op.issues = some (r'.key, token)
      · exact hof (hdiffers hr' hr hsame.symm hissued').symm
      · rw [(hfollows r hr).kept (not_exists.1 hissued), (hfollows r' hr').kept (not_exists.1 hissued')] at hsame
        exact hunique hr hr' hsame
  · intro r' hr'
    rw [h] at hr'
    obtain ⟨r, hr, rfl⟩ := List.mem_map.1 hr'
    rw [(hfollows r hr).key]
    by_cases hissued : ∃ token, op.issues = some (r.key, token)
    · obtain ⟨token, hissued⟩ := hissued
      exact ⟨token, lastIssued_issued hissued, (hfollows r hr).issued token hissued⟩
    · rw [lastIssued_other (not_exists.1 hissued), (hfollows r hr).kept (not_exists.1 hissued)]
      exact hs.issued r hr
  · intro r' hr'
    rw [h] at hr'
    obtain ⟨r, hr, rfl⟩ := List.mem_map.1 hr'
    rw [(hfollows r hr).key, (hfollows r hr).revoked, revoked_answered, hs.revoked r hr]
  · intro key hkey
    by_cases hissued : ∃ token, op.issues = some (key, token)
    · obtain ⟨token, hissued⟩ := hissued
      exact hthere key (hissues key token hissued).1
    · rw [lastIssued_other (not_exists.1 hissued)] at hkey
      exact hthere key (hs.known key hkey)
  · intro key hkey
    rw [revoked_answered] at hkey
    rcases hkey with hkey | hkey
    · exact (hs.ended key hkey).imp (hthere key) (hleaving key.1)
    · exact (hrevokes key hkey).imp_left (hthere key)

theorem credentialed_step {report : OpReport} (h : report.Step sha256 s t) (hs : Credentialed sha256 reports s) :
    Credentialed sha256 (reports ++ [report]) t := by
  obtain ⟨op, answered⟩ := report
  cases answered with
  | false =>
    obtain rfl : t = s := h
    have hrevoked : ∀ key, Revoked (reports ++ [⟨op, false⟩]) key ↔ Revoked reports key := fun key => by
      rw [revoked_append]
      simp
    constructor
    · exact hs.tenants
    · exact hs.ids
    · exact hs.hashes
    · intro r hr
      rw [lastIssued_silent]
      exact hs.issued r hr
    · intro r hr
      rw [hrevoked]
      exact hs.revoked r hr
    · intro key hkey
      rw [lastIssued_silent] at hkey
      exact hs.known key hkey
    · exact fun key hkey => hs.ended key ((hrevoked key).1 hkey)
  | true =>
    obtain ⟨htenants, hleaving, -⟩ := tenants_of_body h hs.tenants
    cases identityEffect_of_body h hs.tenants hs.ids with
    | created hop hstays hnew ht =>
      dsimp only at hop
      subst hop
      exact hs.created htenants hleaving hstays hnew ht
    | changed change ht hfollows hissues hrevokes => exact hs.changed htenants hleaving ht hfollows hissues hrevokes

theorem credentialed_of_run (hrun : Run (OpReport.Step sha256) .empty reports s) : Credentialed sha256 reports s :=
  hrun.trace_invariant (fun _ _ _ _ h => credentialed_step h) (credentialed_empty sha256)

/-! ## Who a token authenticates -/

/-- The tokens that were issued. -/
def issuedTokens (reports : List OpReport) : List Text := (issuances reports).map Prod.snd

/-- A token authenticates the identity it is the credential of. -/
theorem authenticates_of_last (hs : Credentialed sha256 reports s) (hlast : lastIssued reports key = some token)
    (hactive : ¬ Revoked reports key) : ∃ r, s.authenticateService sha256 token = some r ∧ r.key = key := by
  obtain ⟨r, hr, rfl⟩ := hs.known key (by rw [hlast]; exact Option.some_ne_none token)
  obtain ⟨token', hlast', hhash⟩ := hs.issued r hr
  rw [hlast] at hlast'
  cases hlast'
  refine ⟨r, ?_, rfl⟩
  rw [ClientStore.authenticateService, ← hhash, Rows.row_of_mem hs.hashes hr, Option.filter_some, if_pos]
  rw [Bool.not_eq_true', ← Bool.not_eq_true, hs.revoked r hr]
  exact hactive

/-- An identity that a token authenticates has it as its credential, and is not revoked. -/
theorem last_of_authenticates (hs : Credentialed sha256 reports s)
    (hcollision : ∀ issued ∈ issuedTokens reports, ∀ token, sha256 token = sha256 issued → token = issued)
    (h : s.authenticateService sha256 token = some r) : lastIssued reports r.key = some token ∧ ¬ Revoked reports r.key := by
  obtain ⟨hrow, hactive⟩ := Option.filter_eq_some_iff.1 h
  have hr := Rows.mem_of_row hrow
  obtain ⟨issued, hlast, hhash⟩ := hs.issued r hr
  have hsame : token = issued := by
    refine hcollision issued (List.mem_map_of_mem (mem_issuances_of_last hlast)) token ?_
    rw [← hhash]
    exact (Rows.key_of_row hrow).symm
  rw [hsame]
  refine ⟨hlast, fun hrevoked => ?_⟩
  rw [(hs.revoked r hr).2 hrevoked] at hactive
  cases hactive

theorem issuances_append (before after : List OpReport) : issuances (before ++ after) = issuances before ++ issuances after :=
  List.filterMap_append

/-- A credential that was issued and is not the last is not the last again, as no token is issued twice. -/
theorem lastIssued_ne_of_replaced {before after : List OpReport} (hdistinct : (issuedTokens (before ++ after)).Nodup)
    (hissued : (key, token) ∈ issuances before) (hreplaced : lastIssued before key ≠ some token) :
    lastIssued (before ++ after) key ≠ some token := by
  intro hlast
  rw [issuedTokens, issuances_append, List.map_append, List.nodup_append'] at hdistinct
  rw [lastIssued, issuances_append, List.reverse_append, List.find?_append] at hlast
  cases hafter : (issuances after).reverse.find? fun issued => issued.1 = key with
  | none =>
    rw [hafter, Option.none_or] at hlast
    exact hreplaced hlast
  | some issued =>
    rw [hafter, Option.some_or, Option.map_some, Option.some.injEq] at hlast
    have hmem := List.mem_map_of_mem (f := Prod.snd) (List.mem_reverse.1 (List.mem_of_find?_eq_some hafter))
    rw [hlast] at hmem
    exact hdistinct.2.2 (List.mem_map_of_mem (f := Prod.snd) hissued) hmem

/-- **Who a token authenticates.** After any operations of the store a token authenticates exactly the identity whose most
recently issued credential it is, while no operation revoked it; and a token that was replaced, or whose identity was
revoked, authenticates no one ever again. -/
theorem authenticates_iff (hrun : Run (OpReport.Step sha256) .empty reports s)
    (hcollision : ∀ issued ∈ issuedTokens reports, ∀ token, sha256 token = sha256 issued → token = issued)
    (hdistinct : (issuedTokens reports).Nodup) :
    (∀ token key, (∃ r, s.authenticateService sha256 token = some r ∧ r.key = key) ↔
      lastIssued reports key = some token ∧ ¬ Revoked reports key) ∧
    ∀ before after, reports = before ++ after → ∀ token key, (key, token) ∈ issuances before →
      lastIssued before key ≠ some token ∨ Revoked before key → s.authenticateService sha256 token = none := by
  have hs := credentialed_of_run hrun
  refine ⟨fun token key => ⟨?_, fun h => authenticates_of_last hs h.1 h.2⟩, ?_⟩
  · rintro ⟨r, hr, rfl⟩
    exact last_of_authenticates hs hcollision hr
  · rintro before after rfl token key hissued hended
    by_contra hauthenticates
    obtain ⟨r, hr⟩ := Option.ne_none_iff_exists'.1 hauthenticates
    obtain ⟨hlast, hactive⟩ := last_of_authenticates hs hcollision hr
    -- The token was issued once, so for the identity that it authenticates.
    have hkey : (r.key, token) = (key, token) := by
      refine List.inj_on_of_nodup_map hdistinct (mem_issuances_of_last hlast) ?_ rfl
      rw [issuances_append]
      exact List.mem_append_left _ hissued
    have hsame : r.key = key := congrArg Prod.fst hkey
    rw [hsame] at hlast hactive
    rcases hended with hreplaced | ⟨report, hreport, hrevokes⟩
    · exact lastIssued_ne_of_replaced hdistinct hissued hreplaced hlast
    · exact hactive ⟨report, List.mem_append_left _ hreport, hrevokes⟩

end

/-- A rotation that answers and one that does not, and what the new and the old token authenticate after them. -/
theorem authenticates_iff_rotated : ∃ s : ClientStore,
    (∃ r, s.authenticateService id "token_2" = some r ∧ r.key = (Text.ofAscii "t", Text.ofAscii "svc")) ∧
      s.authenticateService id "token_1" = none := by
  have hrun : Run (OpReport.Step id) .empty [⟨.createTenant "t" "config", true⟩, ⟨.createServiceIdentity "t" "svc" "token_1" .agentClient "now", true⟩,
      ⟨.rotateCredential "t" "svc" 0 "token_2", true⟩, ⟨.rotateCredential "t" "svc" 0 "token_3", false⟩]
      { ClientStore.empty with
        tenants := [⟨"t", .pending, 0, none, none, "config"⟩], services := [⟨"svc", "t", false, "token_2", 1, .agentClient, "now"⟩] } := ?_
  · have hwho := authenticates_iff hrun (fun _ _ _ h => h) (by decide)
    refine ⟨_, (hwho.1 "token_2" ("t", "svc")).2 ⟨by decide, ?_⟩, ?_⟩
    · rintro ⟨report, hreport, -, hrevokes⟩
      simp only [List.mem_cons, List.not_mem_nil, or_false] at hreport
      rcases hreport with rfl | rfl | rfl | rfl <;> exact hrevokes
    · refine hwho.2 [_, _, _] [_] rfl "token_1" ("t", "svc") ?_ (.inl ?_)
      · decide
      · decide
  have hcreated : OpReport.Step id .empty ⟨.createTenant "t" "config", true⟩
      { ClientStore.empty with tenants := [⟨"t", .pending, 0, none, none, "config"⟩] } := rfl
  have hissued : OpReport.Step id { ClientStore.empty with tenants := [⟨"t", .pending, 0, none, none, "config"⟩] }
      ⟨.createServiceIdentity "t" "svc" "token_1" .agentClient "now", true⟩ { ClientStore.empty with
        tenants := [⟨"t", .pending, 0, none, none, "config"⟩], services := [⟨"svc", "t", false, "token_1", 0, .agentClient, "now"⟩] } := rfl
  exact .cons hcreated (.cons hissued (.cons rfl (.cons rfl (.nil _))))

end Tna.Client
