import Tna.Auditor.Controls

/-!
# The control catalog

The catalog's controls in the order they are registered, each with its evaluator, the two
profiles, and `evaluateControl`, which runs the evaluator of a control and then the gate
that looks at the integrity of what it cited.
-/

namespace Tna.Auditor

open Tna.Js Tna.Ledger

/-- `CONTROL_CATALOG_VERSION`. -/
def controlCatalogVersion : Text := "1.0"

/-- `EVALUATOR_VERSION`. -/
def evaluatorVersion : Text := "1.0"

def ident001 : Control where
  controlId := "TNA-IDENT-001"
  version := "1.0"
  title := "Consequential actions carry bound agent identity"
  description := "Every consequential authorization event in scope must carry an explicit, non-empty agent identity."
  criticality := .high
  applicableProfiles := [.tnaBaselineV01, .tnaHighRiskV01]
  remediationGuidance :=
    ["Ensure every authorization event binds authority_context.agent_id.",
     "Ensure agent registration is recorded before any consequential action."]

def auth001 : Control where
  controlId := "TNA-AUTH-001"
  version := "1.0"
  title := "Authority binding is complete"
  description := "Every authorization decision binds agent, action, tool, resource/operation, and policy_hash."
  criticality := .critical
  applicableProfiles := [.tnaBaselineV01, .tnaHighRiskV01]
  remediationGuidance := ["Bind decision_id, agent_id, policy_hash, action, tool, and resource on every authorization event."]

def auth002 : Control where
  controlId := "TNA-AUTH-002"
  version := "1.0"
  title := "Authority scope is not overly broad"
  description := "Bound resource/tool fields on authorization decisions are specific, not empty or unbounded wildcards."
  criticality := .high
  applicableProfiles := [.tnaBaselineV01, .tnaHighRiskV01]
  remediationGuidance := ["Bind authorization decisions to specific resources/tools rather than wildcards."]

def appr001 : Control where
  controlId := "TNA-APPR-001"
  version := "1.0"
  title := "Required approval evidence is present"
  description := "Where an authorization decision required approval, explicit APPROVAL_GRANTED/REJECTED evidence exists."
  criticality := .medium
  applicableProfiles := [.tnaBaselineV01, .tnaHighRiskV01]
  remediationGuidance := ["Record an explicit APPROVAL_GRANTED or APPROVAL_REJECTED event for every held decision."]

def cap001 : Control where
  controlId := "TNA-CAP-001"
  version := "1.0"
  title := "Capability lifetime is bounded and honored"
  description := "Issued capabilities carry a bounded expiry, and redemption occurs before it."
  criticality := .high
  applicableProfiles := [.tnaBaselineV01, .tnaHighRiskV01]
  remediationGuidance := ["Bind authority_expiry on every issued capability and reject redemption past it."]

def cap002 : Control where
  controlId := "TNA-CAP-002"
  version := "1.0"
  title := "Capability single-use is enforced"
  description := prose "Reuse of a redeemed capability is structurally rejected — proven by implementation evidence, not inferred from one successful redemption (section 74)."
  criticality := .high
  applicableProfiles := [.tnaBaselineV01, .tnaHighRiskV01]
  remediationGuidance := ["Reject a second redemption attempt of an already-redeemed capability_id."]

def cap003 : Control where
  controlId := "TNA-CAP-003"
  version := "1.0"
  title := "Capability revocation is enforced"
  description := prose "A revoked agent’s subsequent capability redemption or authorization attempts are blocked (negative evidence, section 27, 75)."
  criticality := .critical
  applicableProfiles := [.tnaBaselineV01, .tnaHighRiskV01]
  remediationGuidance := ["Ensure Gate rejects authorization/capability redemption for a revoked agent, and that the rejection is recorded."]

def exec001 : Control where
  controlId := "TNA-EXEC-001"
  version := "1.0"
  title := "Execution is mediated through a bound capability"
  description := "EXECUTION_STARTED events correlate to a CAPABILITY_REDEEMED event, not a bare unmediated start."
  criticality := .high
  applicableProfiles := [.tnaBaselineV01, .tnaHighRiskV01]
  remediationGuidance := ["Bind every execution start to the capability_id that authorized it."]

def exec002 : Control where
  controlId := "TNA-EXEC-002"
  version := "1.0"
  title := "Retries are runtime-bounded"
  description := "Attempt numbers on VAD atom activity are bounded and monotonic, never caller-selected (section 80)."
  criticality := .medium
  applicableProfiles := [.tnaBaselineV01, .tnaHighRiskV01]
  remediationGuidance := ["Enforce and record a runtime-owned attempt ceiling per atom."]

def iso001 : Control where
  controlId := "TNA-ISO-001"
  version := "1.0"
  title := "Execution is isolation-mediated"
  description := "Execution is structurally mediated through an isolation runner rather than direct agent access (implementation-manifest fact)."
  criticality := .medium
  applicableProfiles := [.tnaBaselineV01, .tnaHighRiskV01]
  remediationGuidance := ["Route execution through an isolation runner rather than direct host access."]

def sec001 : Control where
  controlId := "TNA-SEC-001"
  version := "1.0"
  title := "No raw secret exposure in evidence"
  description := "No collected evidence payload contains a secret-shaped field or bearer-token-shaped value, and secret brokerage is manifest-attested."
  criticality := .high
  applicableProfiles := [.tnaBaselineV01, .tnaHighRiskV01]
  remediationGuidance := ["Never place raw secret values in event payloads; use secret leases with references only."]

def egr001 : Control where
  controlId := "TNA-EGR-001"
  version := "1.0"
  title := "Application-level egress restriction exists"
  description := "Application-level destination restriction is manifest-attested. This is explicitly scoped: not a full SSRF/network-layer guarantee (section 77)."
  criticality := .medium
  applicableProfiles := [.tnaBaselineV01, .tnaHighRiskV01]
  remediationGuidance := ["Maintain a destination allow-list and reject private-address destinations at the application layer."]

def ver001 : Control where
  controlId := "TNA-VER-001"
  version := "1.0"
  title := "Producer and verifier identity are separated"
  description := prose "ATOM_VERIFICATION_ACCEPTED/REJECTED events carry a VERIFIER actor distinct from the atom’s producer."
  criticality := .high
  applicableProfiles := [.tnaBaselineV01, .tnaHighRiskV01]
  remediationGuidance := ["Bind a distinct verifier identity for every atom verification."]

def ver002 : Control where
  controlId := "TNA-VER-002"
  version := "1.0"
  title := "Spec hash is immutably bound through the atom lifecycle"
  description := "The same spec_hash is present across ATOM_CREATED, verification, and acceptance/rejection events for one atom."
  criticality := .high
  applicableProfiles := [.tnaBaselineV01, .tnaHighRiskV01]
  remediationGuidance := ["Bind and re-verify spec_hash at every lifecycle stage."]

def evid001 : Control where
  controlId := "TNA-EVID-001"
  version := "1.0"
  title := prose "Ledger’s public surface is append-only"
  description := "The accepted Ledger application surface exposes no generic event/stream mutation route (implementation-manifest fact)."
  criticality := .high
  applicableProfiles := [.tnaBaselineV01, .tnaHighRiskV01]
  remediationGuidance := [prose "Expose only named, audited append operations — never a generic resource-shaped mutation route."]

def human001 : Control where
  controlId := "TNA-HUMAN-001"
  version := "1.0"
  title := "Human overrides are fully auditable"
  description := "ATOM_HUMAN_DECISION events carry actor, timestamp, rationale, prior automated outcome, and spec_hash."
  criticality := .high
  applicableProfiles := [.tnaBaselineV01, .tnaHighRiskV01]
  remediationGuidance := ["Record actor, rationale, prior outcome, and spec_hash on every human override."]

def integ001 : Control where
  controlId := "TNA-INTEG-001"
  version := "1.0"
  title := "Ledger stream integrity holds for evidence used"
  description := "Every Ledger stream contributing evidence to this assessment independently re-verifies as valid."
  criticality := .critical
  applicableProfiles := [.tnaBaselineV01, .tnaHighRiskV01]
  remediationGuidance := ["Investigate and remediate the corrupted stream before relying on its evidence."]

def ten001 : Control where
  controlId := "TNA-TEN-001"
  version := "1.0"
  title := "Tenant isolation is structurally enforced"
  description := prose "Every collected event belongs to the assessed tenant, and isolation is manifest-attested — never inferred merely from tenant_id existing (section 89)."
  criticality := .high
  applicableProfiles := [.tnaBaselineV01, .tnaHighRiskV01]
  remediationGuidance := ["Scope every query and write by (tenant_id, ...) throughout the evidence-producing systems."]

def runtime001 : Control where
  controlId := "TNA-RUNTIME-001"
  version := "1.0"
  title := "Runtime behavioral monitoring is active"
  description := "A SENTINEL_SESSION_STARTED event correlates to authorized execution activity in scope."
  criticality := .high
  applicableProfiles := [.tnaBaselineV01, .tnaHighRiskV01]
  remediationGuidance := ["Start a Sentinel session for every authorized high-risk execution."]

def runtime002 : Control where
  controlId := "TNA-RUNTIME-002"
  version := "1.0"
  title := "Policy drift detection capability exists"
  description := "Distinguishes the rule being implemented from a violation having actually occurred (section 85-86): a manifest claim or an observed SENTINEL_HOLD from policy drift both satisfy."
  criticality := .medium
  applicableProfiles := [.tnaBaselineV01, .tnaHighRiskV01]
  remediationGuidance := ["Enable the POLICY_CHANGED rule in the active Sentinel policy."]

def runtime003 : Control where
  controlId := "TNA-RUNTIME-003"
  version := "1.0"
  title := "Tool/resource drift detection capability exists"
  description := prose "A system need not have suffered a violation to prove rule existence (section 86) — manifest-backed, strengthened by observed SENTINEL_VIOLATION_DETECTED."
  criticality := .medium
  applicableProfiles := [.tnaBaselineV01, .tnaHighRiskV01]
  remediationGuidance := ["Enable TOOL_NOT_ALLOWED/RESOURCE_NOT_ALLOWED rules in the active Sentinel policy."]

def runtime004 : Control where
  controlId := "TNA-RUNTIME-004"
  version := "1.0"
  title := "Runtime/cost bounds are enforced"
  description := "Sessions in scope that ran to completion did so within Sentinel-enforced runtime/cost limits, or were correctly held/terminated for exceeding them."
  criticality := .medium
  applicableProfiles := [.tnaBaselineV01, .tnaHighRiskV01]
  remediationGuidance := ["Configure runtime_limits.max_runtime_seconds and cost_limits.max_cost_usd on every session."]

def runtime005 : Control where
  controlId := "TNA-RUNTIME-005"
  version := "1.0"
  title := "Authority is revalidated during execution"
  description := "Authority status is re-consulted per evaluation rather than cached from session start (manifest-backed; strengthened by observed evidence)."
  criticality := .high
  applicableProfiles := [.tnaBaselineV01, .tnaHighRiskV01]
  remediationGuidance := ["Consult the authority revalidator on every Sentinel evaluation, not only at session start."]

def contain001 : Control where
  controlId := "TNA-CONTAIN-001"
  version := "1.0"
  title := "Containment reporting is truthful"
  description := "Confirmed termination reports TERMINATED; uncertain termination reports INDETERMINATE; a stale weaker status can never overwrite a stronger committed containment outcome (TNA-33, TNA-38). References the Sentinel concurrency closure pass."
  criticality := .critical
  applicableProfiles := [.tnaBaselineV01, .tnaHighRiskV01]
  remediationGuidance := ["Never mark a session TERMINATED without a confirmed containment call; use INDETERMINATE for unconfirmed outcomes."]

def contain002 : Control where
  controlId := "TNA-CONTAIN-002"
  version := "1.0"
  title := "Emergency stop mechanism exists and is tenant isolated"
  description := "Durable, tenant-scoped emergency stop is manifest-attested; strengthened by an observed activation/release pair in scope."
  criticality := .high
  applicableProfiles := [.tnaBaselineV01, .tnaHighRiskV01]
  remediationGuidance := ["Ensure the emergency-stop mechanism is durably persisted and admin-only."]

def revoke001 : Control where
  controlId := "TNA-REVOKE-001"
  version := "1.0"
  title := "Mid-execution revocation is enforced by Sentinel"
  description := "An AGENT_REVOKED event during an active session is followed by Sentinel termination of that session (negative evidence, section 75)."
  criticality := .critical
  applicableProfiles := [.tnaBaselineV01, .tnaHighRiskV01]
  remediationGuidance := ["Ensure the Sentinel authority revalidator observes Gate revocations and terminates affected sessions."]

def recov001 : Control where
  controlId := "TNA-RECOV-001"
  version := "1.0"
  title := "Containment uncertainty is honestly represented"
  description := "SENTINEL_CONTAINMENT_FAILED events resolve to INDETERMINATE, never a fabricated TERMINATED or a silently reverted HELD."
  criticality := .high
  applicableProfiles := [.tnaBaselineV01, .tnaHighRiskV01]
  remediationGuidance := ["Ensure containment failure always resolves the session to INDETERMINATE, never TERMINATED."]

/-! ## Registration -/

/-- What `register` was called with. -/
def registrations (sha256 : Text → Text) : List (Control × ControlEvaluator) :=
  [(ident001, evaluateIdent001), (auth001, evaluateAuth001), (auth002, evaluateAuth002),
   (appr001, evaluateAppr001), (cap001, evaluateCap001), (cap002, evaluateCap002 sha256), (cap003, evaluateCap003),
   (exec001, evaluateExec001), (exec002, evaluateExec002 sha256), (iso001, evaluateManifestOnly sha256),
   (sec001, evaluateSec001 sha256), (egr001, evaluateManifestOnly sha256), (ver001, evaluateVer001),
   (ver002, evaluateVer002), (evid001, evaluateManifestOnly sha256), (human001, evaluateHuman001),
   (integ001, evaluateInteg001), (ten001, evaluateTen001 sha256), (runtime001, evaluateRuntime001),
   (runtime002, evaluateRuntime002 sha256), (runtime003, evaluateRuntime003 sha256),
   (runtime004, evaluateRuntime004 sha256), (runtime005, evaluateRuntime005 sha256),
   (contain001, evaluateContain001 sha256), (contain002, evaluateContain002 sha256),
   (revoke001, evaluateRevoke001), (recov001, evaluateRecov001 sha256)]

def catalog : List Control := (registrations id).map Prod.fst

/-- `ALL_CONTROL_IDS`, the controls of either profile. -/
def allControlIds : List Text := catalog.map Control.controlId

/-- `evaluators.get(controlId)`. -/
def evaluatorOf (sha256 : Text → Text) (controlId : Text) : Option ControlEvaluator :=
  ((registrations sha256).find? fun r => r.1.controlId = controlId).map Prod.snd

def getControlsForProfile (profileId : ControlProfileId) : List Control :=
  catalog.filter fun c => allControlIds.contains c.controlId && c.applicableProfiles.contains profileId

/-! ## The integrity gate -/

def qualifyEvidenceIntegrity (control : Control) (result : ControlResult) (context : EvaluationContext) :
    ControlResult :=
  if control.controlId = Text.ofAscii "TNA-INTEG-001" then result
  else if result.status ≠ .pass ∧ result.status ≠ .partly then result
  else
    let ledgerRefs := result.evidenceRefs.filter fun r => r.sourceType == .ledgerEvent
    let invalidRefs := ledgerRefs.filter fun r => r.integrityQualification == some .invalid
    let unresolvedRefs := ledgerRefs.filter fun r =>
      r.integrityQualification == some .unverified || r.integrityQualification == some .unavailable
    if invalidRefs.isEmpty && unresolvedRefs.isEmpty then result
    else
      let confirmed := !invalidRefs.isEmpty
      let reasonCode := if confirmed then ReasonCode.evidenceIntegrityInvalid else .evidenceIntegrityUnverified
      let limitation : Text :=
        if confirmed then
          countOf invalidRefs.length ledgerRefs.length " cited Ledger event(s) originate from a stream that failed integrity verification; corrupt evidence cannot support this result (TNA-41)."
        else
          countOf unresolvedRefs.length ledgerRefs.length (" cited Ledger event(s) originate from a stream whose integrity was never confirmed; unverified evidence cannot support a high-assurance " ++
            result.status.name ++ " (TNA-41).")
      { result with
        status := .insufficientEvidence
        reasonCodes := (result.reasonCodes ++ [reasonCode]).eraseDups
        limitations := result.limitations ++ [limitation]
        riskContribution := computeRiskContribution (effectiveCriticality control context) .insufficientEvidence }

/-- The evaluator of the control, then the gate. -/
def evaluateControl (sha256 : Text → Text) (control : Control) (context : EvaluationContext)
    (evidence : EvidenceBundle) : Except AuditorError ControlResult :=
  match evaluatorOf sha256 control.controlId with
  | none => .error ⟨.unknownControl, "No evaluator registered for " ++ control.controlId⟩
  | some evaluator => .ok (qualifyEvidenceIntegrity control (evaluator control context evidence) context)

end Tna.Auditor
