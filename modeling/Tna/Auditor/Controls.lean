import Tna.Auditor.Evidence
import Tna.Js.Number

/-!
# The control evaluators

Every evaluator decides from the events of a bundle, and some from the implementation
manifest too, and ends in `finish`. `LedgerEvent` declares the fields they read: an actor
with an id, and identifiers in the contexts that are strings or absent. On such a bundle
no evaluator throws.
-/

namespace Tna.Auditor

open Tna.Js Tna.Ledger

structure Control where
  controlId : Text
  version : Text
  title : Text
  description : Text
  criticality : Severity
  applicableProfiles : List ControlProfileId
  remediationGuidance : List Text
deriving DecidableEq

/-- What an evaluator reads of its context. -/
structure EvaluationContext where
  assessmentId : Text
  tenantId : Text
  now : Int
  profileId : ControlProfileId
  manifest : Option ControlImplementationManifest

abbrev ControlEvaluator := Control → EvaluationContext → EvidenceBundle → ControlResult

/-- The `criticality_overrides` of a profile. -/
def criticalityOverrides : ControlProfileId → List (Text × Severity)
  | .tnaBaselineV01 => []
  | .tnaHighRiskV01 =>
    [("TNA-RUNTIME-001", .critical), ("TNA-RUNTIME-005", .critical), ("TNA-CONTAIN-002", .critical)]

def effectiveCriticality (control : Control) (context : EvaluationContext) : Severity :=
  ((criticalityOverrides context.profileId).lookup control.controlId).getD control.criticality

/-! ## Shared helpers -/

def eventsOfType (bundle : EvidenceBundle) (types : List EventType) : List LedgerEvent :=
  bundle.events.filter fun e => types.any fun t => e.eventType = t.name

/-- `MAX_REFS`. -/
def maxRefs : Nat := 25

/-- The one place every evaluator ends in. -/
def finish (control : Control) (context : EvaluationContext) (status : ControlResultStatus)
    (reasonCodes : List ReasonCode) (observations limitations : List Text) (refs : List EvidenceRef)
    (remediation : Option (List Text)) : ControlResult where
  controlId := control.controlId
  controlVersion := control.version
  status
  evaluatedAt := toIsoString context.now
  assessmentId := context.assessmentId
  evidenceRefs := refs.take maxRefs
  reasonCodes
  observations
  limitations
  riskContribution := computeRiskContribution (effectiveCriticality control context) status
  remediation

/-- `events.slice(0, MAX_REFS).map(e => eventRef(e, evidence))`. -/
def cite (evidence : EvidenceBundle) (events : List LedgerEvent) : List EvidenceRef :=
  (events.take maxRefs).map (eventRef · evidence)

def manifestRef (context : EvaluationContext) : List EvidenceRef :=
  context.manifest.toList.map fun m =>
    { sourceType := .implementationManifest, sourceTrust := .trustedSystem, eventId := none, streamId := none
      sequence := none, eventHash := none, tenantId := none, manifestId := some m.manifestId
      manifestHash := some m.manifestHash, observedAt := some m.createdAt, integrityQualification := none
      manifestTrustClass := some m.trustClass }

/-- The age of an event at the evaluation instant is within a bound. -/
def isFresh (event : LedgerEvent) (context : EvaluationContext) (maxAgeSeconds : Nat) : Bool :=
  match dateParse event.receivedAt with
  | some received => decide (context.now - received ≤ maxAgeSeconds * 1000)
  | none => false

/-- `MAX_REVOCATION_PROOF_AGE_SECONDS`. -/
def maxRevocationProofAgeSeconds : Nat := 24 * 3600

/-- `new Map(events.map(e => [key(e), e])).get(k)`: a later event replaces an earlier one of its key. -/
def lastWith (key : LedgerEvent → Option Text) (k : Option Text) (events : List LedgerEvent) : Option LedgerEvent :=
  events.reverse.find? fun e => key e = k

/-- `texts.join(', ')`. -/
def joinList (items : List Text) : Text := List.intercalate ", " items

/-- `` `${n} of ${m}${rest}` ``. -/
def countOf (n m : Nat) (rest : Text) : Text := decimal n ++ " of " ++ decimal m ++ rest

section Manifest

variable (sha256 : Text → Text)

/-- What `manifestClaims` finds of a manifest. -/
structure ManifestClaims where
  claims : List ControlImplementationClaim
  manifestValid : Bool
  manifestPresent : Bool
  manifestAuthentic : Bool

def manifestClaims (context : EvaluationContext) (controlId : Text) : ManifestClaims :=
  match context.manifest with
  | none => ⟨[], false, false, false⟩
  | some m =>
    let manifestValid := verifyManifestIntegrity sha256 m
    let manifestAuthentic := m.trustClass == .builtInAcceptedBaseline
    ⟨if manifestValid && manifestAuthentic then findClaimsForControl m controlId else [], manifestValid, true,
      manifestAuthentic⟩

/-- A control that only the implementation manifest can satisfy. -/
def evaluateManifestOnly (control : Control) (context : EvaluationContext) (_evidence : EvidenceBundle) :
    ControlResult :=
  let m := manifestClaims sha256 context control.controlId
  let guidance := some control.remediationGuidance
  if !m.manifestPresent then
    finish control context .insufficientEvidence [.implementationManifestMissing] []
      ["No implementation evidence manifest was supplied to this assessment."] [] guidance
  else if !m.manifestValid then
    finish control context .fail [.evidenceIntegrityInvalid] []
      ["The supplied implementation manifest failed its own hash-integrity check and cannot be trusted."] [] guidance
  else if !m.manifestAuthentic then
    let trustClass := (context.manifest.map fun m => m.trustClass.name).getD (Text.ofAscii "unknown")
    finish control context .insufficientEvidence [.manifestNotAuthentic] []
      ["The supplied manifest is internally hash-consistent (trust_class: " ++ trustClass ++
        ") but is not the trusted accepted-baseline provenance, and cannot by itself satisfy " ++
        control.controlId ++ "."] (manifestRef context) guidance
  else if m.claims.isEmpty then
    finish control context .insufficientEvidence [.implementationManifestMissing] []
      ["No manifest claim references " ++ control.controlId ++ "."] (manifestRef context) guidance
  else
    finish control context .pass [.implementationManifestSatisfied]
      (m.claims.map fun c => c.component ++ " (" ++ c.acceptedTag ++ " @ " ++ c.acceptedCommit.take 12 ++ "): " ++
        c.description)
      [prose "This control is satisfied by a static implementation-evidence claim, not a per-execution Ledger event; it reflects the referenced component version, not this specific scope’s runtime behavior."]
      (manifestRef context) none

end Manifest

/-! ## Identity -/

def evaluateIdent001 : ControlEvaluator := fun control context evidence =>
  let consequential := eventsOfType evidence [.authorizationAllowed, .authorizationBlocked, .authorizationHeld]
  if consequential.isEmpty then
    finish control context .insufficientEvidence [.missingRequiredEvidence] []
      ["No authorization or execution activity was found in this scope."] [] none
  else
    let unbound := consequential.filter fun e => (authority "agent_id" e).isNone
    let registered := (eventsOfType evidence [.agentRegistered]).filterMap (authority "agent_id")
    let agentIds := (consequential.filterMap (authority "agent_id")).eraseDups
    let unregistered := agentIds.filter fun id => !registered.contains id
    let refs := cite evidence consequential
    if !unbound.isEmpty then
      finish control context .fail [.missingRequiredEvidence]
        [countOf unbound.length consequential.length " consequential event(s) carry no bound agent_id."] [] refs
        (some control.remediationGuidance)
    else if !unregistered.isEmpty then
      finish control context .partly [.partialEvidence]
        [decimal unregistered.length ++
          " agent id(s) referenced with no matching AGENT_REGISTERED evidence in scope: " ++
          joinList unregistered ++ "."]
        ["Registration may have occurred before the scoped time range."] refs none
    else
      finish control context .pass [.controlSatisfied]
        [decimal consequential.length ++ " consequential event(s), all with bound and registered agent identity."] []
        refs none

/-! ## Authority -/

/-- The fields a decision binds. -/
def requiredFields : List Text := ["decision_id", "agent_id", "policy_hash", "action", "tool", "resource"]

def evaluateAuth001 : ControlEvaluator := fun control context evidence =>
  let decisions := eventsOfType evidence [.authorizationAllowed, .authorizationBlocked]
  if decisions.isEmpty then
    finish control context .insufficientEvidence [.missingRequiredEvidence] []
      ["No authorization decisions found in this scope."] [] none
  else
    let incomplete := decisions.filter fun e => requiredFields.any fun field => (authority field e).isNone
    let refs := cite evidence decisions
    if incomplete.length = decisions.length then
      finish control context .fail [.missingRequiredEvidence]
        ["All " ++ decimal decisions.length ++
          " authorization decision(s) are missing at least one required binding field."] []
        refs (some control.remediationGuidance)
    else if !incomplete.isEmpty then
      finish control context .partly [.partialEvidence]
        [countOf incomplete.length decisions.length " authorization decision(s) are missing a required binding field."]
        [] refs (some control.remediationGuidance)
    else
      finish control context .pass [.controlSatisfied]
        [decimal decisions.length ++
          " authorization decision(s), all fully bound (agent, action, tool, resource, policy_hash)."] [] refs none

/-- A field that binds nothing in particular. -/
def tooGeneric (field : Option Text) : Bool :=
  match field with
  | none => true
  | some t => t.isEmpty || t == Text.ofAscii "*"

def evaluateAuth002 : ControlEvaluator := fun control context evidence =>
  let allowed := eventsOfType evidence [.authorizationAllowed]
  if allowed.isEmpty then
    finish control context .insufficientEvidence [.missingRequiredEvidence] []
      ["No allowed authorizations found in this scope."] [] none
  else
    let generic := allowed.filter fun e => tooGeneric (authority "resource" e) || tooGeneric (authority "tool" e)
    let refs := cite evidence allowed
    if !generic.isEmpty then
      finish control context .fail [.authorityScopeTooBroad]
        [countOf generic.length allowed.length " allowed authorization(s) bind an empty or wildcard resource/tool."] []
        refs (some control.remediationGuidance)
    else
      finish control context .pass [.controlSatisfied]
        [decimal allowed.length ++ " allowed authorization(s), all bound to specific, non-wildcard resource/tool."] []
        refs none

/-! ## Approval -/

def evaluateAppr001 : ControlEvaluator := fun control context evidence =>
  let held := eventsOfType evidence [.authorizationHeld]
  if held.isEmpty then
    finish control context .notApplicable [.scopeNotApplicable] []
      ["No approval-gated authorization decisions occurred in this scope."] [] none
  else
    let approvals := eventsOfType evidence [.approvalGranted, .approvalRejected]
    let unapproved := held.filter fun e => !approvals.any fun a => a.correlationId = e.correlationId
    let refs := cite evidence (held ++ approvals)
    if !unapproved.isEmpty then
      finish control context .fail [.missingRequiredEvidence]
        [countOf unapproved.length held.length " held decision(s) have no correlated approval evidence."] [] refs
        (some control.remediationGuidance)
    else
      finish control context .pass [.controlSatisfied]
        [decimal held.length ++ " held decision(s), all with correlated approval evidence."] [] refs none

/-! ## Capabilities -/

/-- An issued capability whose last redemption came after its expiry. -/
def lateRedemption (redeemed : List LedgerEvent) (e : LedgerEvent) : Bool :=
  match authority "capability_id" e, authority "authority_expiry" e with
  | some capId, some expiry =>
    match lastWith (authority "capability_id") (some capId) redeemed with
    | some r => isAfter r.receivedAt expiry
    | none => false
  | _, _ => false

def evaluateCap001 : ControlEvaluator := fun control context evidence =>
  let issued := eventsOfType evidence [.capabilityIssued]
  if issued.isEmpty then
    finish control context .insufficientEvidence [.missingRequiredEvidence] []
      ["No capability issuance found in this scope."] [] none
  else
    let redeemed := eventsOfType evidence [.capabilityRedeemed]
    let unbounded := issued.filter fun e => (authority "authority_expiry" e).isNone
    let lateRedemptions := issued.filter (lateRedemption redeemed)
    let refs := cite evidence (issued ++ redeemed)
    if !unbounded.isEmpty then
      finish control context .fail [.missingRequiredEvidence]
        [countOf unbounded.length issued.length " issued capability(ies) carry no authority_expiry."] [] refs
        (some control.remediationGuidance)
    else if !lateRedemptions.isEmpty then
      finish control context .fail [.revocationNotEnforced]
        [decimal lateRedemptions.length ++
          " capability redemption(s) occurred after the capability's own authority_expiry."] []
        refs (some control.remediationGuidance)
    else
      finish control context .pass [.controlSatisfied]
        [decimal issued.length ++ " issued capability(ies), all bounded and redeemed (if at all) within their expiry."]
        [] refs none

def evaluateCap002 (sha256 : Text → Text) : ControlEvaluator := fun control context evidence =>
  let redeemed := eventsOfType evidence [.capabilityRedeemed]
  let ids := (redeemed.filterMap (authority "capability_id")).eraseDups
  let byCapability := ids.map fun id => redeemed.filter fun e => authority "capability_id" e = some id
  let reused := byCapability.filter fun list => decide (1 < list.length)
  if !reused.isEmpty then
    finish control context .fail [.revocationNotEnforced]
      [decimal reused.length ++ prose " capability id(s) were redeemed more than once within this scope — direct counter-evidence of a single-use failure."] [] (cite evidence reused.flatten) (some control.remediationGuidance)
  else evaluateManifestOnly sha256 control context evidence

/-- What the bundle shows of one revocation. -/
inductive Enforcement where
  | violated (violation : LedgerEvent)
  | unenforced
  | stale (proof : LedgerEvent)
  | enforced (proof : LedgerEvent)

/-- The first block of the revoked agent at or after the revocation. The agent is taken to be the revocation's actor. -/
def proofOf (blocked : List LedgerEvent) (revocation : LedgerEvent) : Option LedgerEvent :=
  blocked.find? fun e =>
    decide (authority "agent_id" e = actorId revocation) && isAtOrAfter e.receivedAt revocation.receivedAt

/-- The first grant to the revoked agent after the revocation. -/
def violationOf (allowedAfter : List LedgerEvent) (revocation : LedgerEvent) : Option LedgerEvent :=
  allowedAfter.find? fun e =>
    decide (authority "agent_id" e = actorId revocation) && isAfter e.receivedAt revocation.receivedAt

/-- One turn of the loop over the revocations. -/
def enforcementOf (context : EvaluationContext) (blocked allowedAfter : List LedgerEvent) (revocation : LedgerEvent) :
    Enforcement :=
  match violationOf allowedAfter revocation, proofOf blocked revocation with
  | some violation, _ => .violated violation
  | none, none => .unenforced
  | none, some proof =>
    if isFresh proof context maxRevocationProofAgeSeconds then .enforced proof else .stale proof

/-- The event an outcome is cited with, besides the revocation. -/
def Enforcement.cited : Enforcement → Option LedgerEvent
  | .violated e => some e
  | .unenforced => none
  | .stale e => some e
  | .enforced e => some e

def Enforcement.isViolated : Enforcement → Bool
  | .violated _ => true
  | _ => false

def Enforcement.isUnenforced : Enforcement → Bool
  | .unenforced => true
  | _ => false

def Enforcement.isStale : Enforcement → Bool
  | .stale _ => true
  | _ => false

def evaluateCap003 : ControlEvaluator := fun control context evidence =>
  let revocations := eventsOfType evidence [.agentRevoked]
  if revocations.isEmpty then
    finish control context .notApplicable [.scopeNotApplicable] [] ["No agent revocation occurred in this scope."] []
      none
  else
    let blocked := eventsOfType evidence [.authorizationBlocked, .capabilityRejected]
    let allowedAfter := eventsOfType evidence [.authorizationAllowed, .capabilityRedeemed]
    let outcomes := revocations.map fun r => (r, enforcementOf context blocked allowedAfter r)
    let violated := (outcomes.filter fun o => o.2.isViolated).length
    let unenforced := (outcomes.filter fun o => o.2.isUnenforced).length
    let stale := (outcomes.filter fun o => o.2.isStale).length
    let refs := cite evidence (outcomes.flatMap fun o => o.1 :: o.2.cited.toList)
    if 0 < violated then
      finish control context .fail [.revocationNotEnforced]
        [countOf violated revocations.length (prose " revocation(s) were followed by an ALLOWED/REDEEMED event for the same agent — direct counter-evidence.")] [] refs (some control.remediationGuidance)
    else if 0 < unenforced then
      finish control context .insufficientEvidence [.missingRequiredEvidence]
        [countOf unenforced revocations.length " revocation(s) have no correlated block/rejection evidence in scope."]
        [] refs none
    else if 0 < stale then
      finish control context .partly [.evidenceStale]
        [countOf stale revocations.length (" revocation-enforcement proof(s) are older than " ++
          decimal maxRevocationProofAgeSeconds ++ "s and cannot alone establish current effectiveness.")]
        ["Stale enforcement evidence proves revocation worked at that past moment, not that it works now."] refs none
    else
      finish control context .pass [.negativeEvidenceSatisfied]
        [decimal revocations.length ++
          " revocation(s), each followed by a fresh, demonstrable block of a subsequent attempt."] [] refs none

/-! ## Execution -/

def evaluateExec001 : ControlEvaluator := fun control context evidence =>
  let started := eventsOfType evidence [.executionStarted]
  if started.isEmpty then
    finish control context .insufficientEvidence [.missingRequiredEvidence] []
      ["No execution activity found in this scope."] [] none
  else
    let redeemed := eventsOfType evidence [.capabilityRedeemed]
    let unmediated := started.filter fun e => !redeemed.any fun r => r.correlationId = e.correlationId
    let refs := cite evidence (started ++ redeemed)
    if !unmediated.isEmpty then
      finish control context .fail [.missingRequiredEvidence]
        [countOf unmediated.length started.length " execution(s) have no correlated capability redemption."] [] refs
        (some control.remediationGuidance)
    else
      finish control context .pass [.controlSatisfied]
        [decimal started.length ++ " execution(s), all correlated to a capability redemption."] [] refs none

/-- `spec_context?.attempt_number`. -/
def attemptNumber (e : LedgerEvent) : Option Number :=
  match member e.specContext "attempt_number" with
  | .num n => some n
  | _ => none

/-- `UNBOUNDED_THRESHOLD`. -/
def unboundedThreshold : Nat := 10

/-- `Math.max(0, ...nums) > UNBOUNDED_THRESHOLD`. One `NaN` makes the maximum `NaN`. -/
def exceedsThreshold (nums : List Number) : Bool :=
  nums.all (· != .nan) && nums.any fun
    | .finite n => decide (unboundedThreshold < n.value)
    | .infinite negative => !negative
    | _ => false

def evaluateExec002 (sha256 : Text → Text) : ControlEvaluator := fun control context evidence =>
  let attempts := eventsOfType evidence [.atomAttemptStarted]
  if attempts.isEmpty then evaluateManifestOnly sha256 control context evidence
  else
    let atoms := (attempts.filterMap (spec "atom_id")).eraseDups
    let numbersOf := fun atom =>
      (attempts.filter fun e => spec "atom_id" e = some atom).filterMap attemptNumber
    let unbounded := atoms.filter fun atom => exceedsThreshold (numbersOf atom)
    let refs := cite evidence attempts
    if !unbounded.isEmpty then
      finish control context .fail [.missingRequiredEvidence]
        [decimal unbounded.length ++ " atom(s) exceeded " ++ decimal unboundedThreshold ++
          " recorded attempts with no visible ceiling."] [] refs (some control.remediationGuidance)
    else
      finish control context .pass [.controlSatisfied]
        [decimal atoms.length ++ " atom(s) observed, all within a bounded attempt count."] [] refs none

/-! ## Secrets -/

mutual

/-- A field name or a text inside the value has the shape of a secret. -/
def secretShapeScan : Value → Bool
  | .str t => secretValue t
  | .arr items => secretShapeItems items
  | .obj fields => secretShapeFields fields
  | _ => false

def secretShapeItems : List Value → Bool
  | [] => false
  | v :: rest => secretShapeScan v || secretShapeItems rest

def secretShapeFields : List (Text × Value) → Bool
  | [] => false
  | (k, v) :: rest => secretKey k || secretShapeScan v || secretShapeFields rest

end

def secretShapeInEvent (event : LedgerEvent) : Bool :=
  secretShapeScan (.obj [("authority_context", event.authorityContext), ("execution_context", event.executionContext),
    ("payload", event.payload)])

def evaluateSec001 (sha256 : Text → Text) : ControlEvaluator := fun control context evidence =>
  let tainted := evidence.events.filter secretShapeInEvent
  if !tainted.isEmpty then
    finish control context .fail [.secretExposureRisk]
      [decimal tainted.length ++ " collected event(s) contain a secret-shaped payload field or value."] []
      (cite evidence tainted) (some control.remediationGuidance)
  else
    let m := manifestClaims sha256 context control.controlId
    if !m.manifestPresent then
      finish control context .partly [.partialEvidence]
        ["No secret-shaped values were found in scope, but no implementation manifest confirms secret brokerage is structurally enforced."] [] [] none
    else if !m.manifestValid || m.claims.isEmpty then
      finish control context .partly [.implementationManifestMissing]
        ["No secret-shaped values found in scope, but the secret-brokerage manifest claim is missing or invalid."] []
        (manifestRef context) none
    else
      finish control context .pass [.controlSatisfied, .implementationManifestSatisfied]
        ["No secret-shaped values found in scope; secret brokerage is manifest-attested."] [] (manifestRef context) none

/-! ## Verification -/

/-- A verification by the actor of the atom's last attempt. -/
def sameIdentity (attempts : List LedgerEvent) (e : LedgerEvent) : Bool :=
  match spec "atom_id" e with
  | none => false
  | some atomId =>
    match lastWith (spec "atom_id") (some atomId) attempts with
    | none => (actorId e).isNone
    | some attempt => actorId attempt = actorId e

def evaluateVer001 : ControlEvaluator := fun control context evidence =>
  let verifications := eventsOfType evidence [.atomVerificationAccepted, .atomVerificationRejected]
  if verifications.isEmpty then
    finish control context .insufficientEvidence [.noIndependentVerification] []
      ["No VAD verification activity found in this scope."] [] none
  else
    let attempts := eventsOfType evidence [.atomAttemptStarted]
    let same := verifications.filter (sameIdentity attempts)
    let refs := cite evidence verifications
    if !same.isEmpty then
      finish control context .fail [.noIndependentVerification]
        [decimal same.length ++ prose " verification(s) share identity with the atom’s own producer."] [] refs
        (some control.remediationGuidance)
    else
      finish control context .pass [.controlSatisfied]
        [decimal verifications.length ++
          prose " verification(s), all with an identity distinct from the atom’s producer."] [] refs none

/-- An atom whose last final event binds another specification than its creation. -/
def mismatchedSpec (finalEvents : List LedgerEvent) (e : LedgerEvent) : Bool :=
  match spec "atom_id" e with
  | none => false
  | some atomId =>
    match lastWith (spec "atom_id") (some atomId) finalEvents with
    | none => false
    | some finalEvent => spec "spec_hash" finalEvent != spec "spec_hash" e

/-- The atoms with a final event that have a creation in the bundle too. -/
def resolvedAtoms (created finalEvents : List LedgerEvent) : List (Option Text) :=
  ((finalEvents.map (spec "atom_id")).eraseDups).filter fun id => created.any fun c => spec "atom_id" c = id

def evaluateVer002 : ControlEvaluator := fun control context evidence =>
  let created := eventsOfType evidence [.atomCreated]
  if created.isEmpty then
    finish control context .insufficientEvidence [.missingRequiredEvidence] []
      ["No VAD atom activity found in this scope."] [] none
  else
    let finalEvents := eventsOfType evidence [.atomAccepted, .atomRejected]
    let mismatched := created.filter (mismatchedSpec finalEvents)
    let refs := cite evidence (created ++ finalEvents)
    if !mismatched.isEmpty then
      finish control context .fail [.evidenceIntegrityInvalid]
        [decimal mismatched.length ++ " atom(s) show a spec_hash mismatch between creation and finalization."] [] refs
        (some control.remediationGuidance)
    else
      let unresolved := created.length - (resolvedAtoms created finalEvents).length
      if 0 < unresolved then
        finish control context .partly [.partialEvidence]
          [decimal unresolved ++ " atom(s) created in scope have no final acceptance/rejection event yet."] [] refs none
      else
        finish control context .pass [.controlSatisfied]
          [decimal created.length ++ " atom(s), all with a consistent spec_hash through finalization."] [] refs none

/-! ## Evidence, human oversight and tenancy -/

def evaluateHuman001 : ControlEvaluator := fun control context evidence =>
  let overrides := eventsOfType evidence [.atomHumanDecision]
  if overrides.isEmpty then
    finish control context .notApplicable [.scopeNotApplicable] []
      ["No human override occurred in this scope; override auditability is unexercised, not proven, by this assessment."] [] none
  else
    let incomplete := overrides.filter fun e =>
      decide (actorId e = some []) || (spec "spec_hash" e).isNone || (spec "human_decision" e).isNone
    let refs := cite evidence overrides
    if !incomplete.isEmpty then
      finish control context .fail [.missingRequiredEvidence]
        [countOf incomplete.length overrides.length
          " override event(s) are missing actor, decision, or spec_hash binding."] [] refs
        (some control.remediationGuidance)
    else
      finish control context .pass [.controlSatisfied]
        [decimal overrides.length ++ " human override(s), all fully bound."] [] refs none

def evaluateInteg001 : ControlEvaluator := fun control context evidence =>
  let streams := evidence.streamIntegrity
  if streams.isEmpty then
    finish control context .insufficientEvidence [.missingRequiredEvidence] []
      ["No evidence streams were collected in this scope."] [] none
  else
    let notValid := streams.filter fun s => s.2.qualification != .valid
    if !notValid.isEmpty then
      let detail := joinList (notValid.map fun s => s.1 ++ " (" ++ s.2.qualification.name ++ ")")
      finish control context .fail [.evidenceIntegrityInvalid]
        [countOf notValid.length streams.length (" evidence stream(s) did not verify as VALID: " ++ detail ++ ".")]
        [] [] (some control.remediationGuidance)
    else
      finish control context .pass [.controlSatisfied]
        [decimal streams.length ++ " evidence stream(s), all integrity-verified."] [] [] none

def evaluateTen001 (sha256 : Text → Text) : ControlEvaluator := fun control context evidence =>
  let foreignEvents := evidence.events.filter fun e => decide (e.tenantId ≠ context.tenantId)
  if !foreignEvents.isEmpty then
    finish control context .fail [.tenantIsolationNotProven]
      [decimal foreignEvents.length ++ " collected event(s) carry a tenant_id other than the assessed tenant."] []
      (cite evidence foreignEvents) (some control.remediationGuidance)
  else
    let m := manifestClaims sha256 context control.controlId
    if !m.manifestPresent || !m.manifestValid || m.claims.isEmpty then
      finish control context .partly [.tenantIsolationNotProven]
        ["All collected evidence is correctly tenant-scoped, but no implementation manifest attests structural isolation."] [] (manifestRef context) none
    else
      finish control context .pass [.controlSatisfied, .implementationManifestSatisfied]
        ["All collected evidence is tenant-scoped and isolation is manifest-attested."] [] (manifestRef context) none

/-! ## Runtime defence -/

/-- An allowed decision no session was started for. -/
def unmonitoredBy (sessions : List LedgerEvent) (e : LedgerEvent) : Bool :=
  match authority "decision_id" e with
  | none => false
  | some decisionId => !sessions.any fun s => authority "decision_id" s = some decisionId

def evaluateRuntime001 : ControlEvaluator := fun control context evidence =>
  let allowed := eventsOfType evidence [.authorizationAllowed]
  let sessions := eventsOfType evidence [.sentinelSessionStarted]
  if allowed.isEmpty && sessions.isEmpty then
    finish control context .insufficientEvidence [.noRuntimeMonitoring] []
      ["No authorized activity or Sentinel sessions found in this scope."] [] none
  else
    let unmonitored := allowed.filter (unmonitoredBy sessions)
    let refs := cite evidence (allowed ++ sessions)
    let observation := countOf unmonitored.length allowed.length
      " authorized decision(s) have no correlated Sentinel session."
    if 0 < allowed.length ∧ unmonitored.length = allowed.length then
      finish control context .fail [.noRuntimeMonitoring] [observation] [] refs (some control.remediationGuidance)
    else if !unmonitored.isEmpty then
      finish control context .partly [.noRuntimeMonitoring] [observation] [] refs (some control.remediationGuidance)
    else
      finish control context .pass [.controlSatisfied]
        [decimal sessions.length ++ " Sentinel session(s) correlated to authorized activity."] [] refs none

/-- A control that any event of one type satisfies, and the manifest otherwise. -/
def evaluateObserved (sha256 : Text → Text) (type : EventType) (note : Text) : ControlEvaluator :=
  fun control context evidence =>
    let observed := eventsOfType evidence [type]
    if !observed.isEmpty then
      finish control context .pass [.controlSatisfied] [decimal observed.length ++ note] []
        (cite evidence observed) none
    else evaluateManifestOnly sha256 control context evidence

def evaluateRuntime002 (sha256 : Text → Text) : ControlEvaluator :=
  evaluateObserved sha256 .sentinelHold
    " SENTINEL_HOLD event(s) observed in scope (rule exercised, not merely implemented)."

def evaluateRuntime003 (sha256 : Text → Text) : ControlEvaluator :=
  evaluateObserved sha256 .sentinelViolationDetected " violation-detection event(s) observed in scope."

def evaluateRuntime004 (sha256 : Text → Text) : ControlEvaluator :=
  evaluateObserved sha256 .sentinelSessionStarted
    " monitored session(s) observed in scope with runtime-owned bounds active."

def evaluateRuntime005 (sha256 : Text → Text) : ControlEvaluator := fun control context evidence =>
  let revocations := eventsOfType evidence [.agentRevoked]
  let terminations := eventsOfType evidence [.sentinelTerminated]
  if revocations.any fun r => terminations.any fun t => isAtOrAfter t.receivedAt r.receivedAt then
    finish control context .pass [.controlSatisfied]
      ["Observed a Sentinel termination following an agent revocation in scope."] []
      (cite evidence (revocations ++ terminations)) none
  else evaluateManifestOnly sha256 control context evidence

/-! ## Containment, revocation and recovery -/

/-- `payload?.containment_status`. -/
def containmentStatus (e : LedgerEvent) : Option Text := memberText e.payload "containment_status"

def evaluateContain001 (sha256 : Text → Text) : ControlEvaluator := fun control context evidence =>
  let terminated := eventsOfType evidence [.sentinelTerminated]
  let inconsistent := terminated.filter fun e =>
    decide (containmentStatus e ≠ some (Text.ofAscii "CONTAINMENT_CONFIRMED"))
  if !inconsistent.isEmpty then
    finish control context .fail [.containmentNotTruthful]
      [countOf inconsistent.length terminated.length
        " SENTINEL_TERMINATED event(s) carry a containment_status other than CONTAINMENT_CONFIRMED."] []
      (cite evidence inconsistent) (some control.remediationGuidance)
  else
    let m := manifestClaims sha256 context control.controlId
    let observationNote : Text :=
      if 0 < terminated.length then
        decimal terminated.length ++ " SENTINEL_TERMINATED event(s) observed, all with CONTAINMENT_CONFIRMED."
      else "No termination events observed in this scope."
    if !m.manifestPresent then
      finish control context .insufficientEvidence [.implementationManifestMissing] [observationNote]
        ["No implementation manifest was supplied to attest the concurrency-safe containment fix."]
        (cite evidence terminated) none
    else if !m.manifestValid || m.claims.isEmpty then
      finish control context .fail [.containmentUnconfirmed] [observationNote]
        ["The supplied manifest does not (validly) attest the concurrency-safe containment fix."]
        (cite evidence terminated) (some control.remediationGuidance)
    else
      finish control context .pass [.controlSatisfied, .implementationManifestSatisfied] [observationNote] []
        (cite evidence terminated ++ manifestRef context) none

def evaluateContain002 (sha256 : Text → Text) : ControlEvaluator :=
  evaluateObserved sha256 .sentinelEmergencyStopActivated " emergency-stop activation(s) observed in scope."

/-- A revocation during a session, and the termination that followed it. -/
structure MidSession where
  revocation : LedgerEvent
  activeSession : LedgerEvent
  termination : Option LedgerEvent

/-- One turn of the loop over the revocations; a revocation outside any session is passed over. -/
def midSessionOf (sessionsStarted terminations : List LedgerEvent) (revocation : LedgerEvent) : Option MidSession :=
  (sessionsStarted.find? fun s =>
    decide (authority "agent_id" s = actorId revocation) && isAtOrAfter revocation.receivedAt s.receivedAt).map
    fun activeSession =>
      ⟨revocation, activeSession, terminations.find? fun t =>
        decide (t.streamId = activeSession.streamId) && isAtOrAfter t.receivedAt revocation.receivedAt⟩

def evaluateRevoke001 : ControlEvaluator := fun control context evidence =>
  let revocations := eventsOfType evidence [.agentRevoked]
  let sessionsStarted := eventsOfType evidence [.sentinelSessionStarted]
  if revocations.isEmpty || sessionsStarted.isEmpty then
    finish control context .notApplicable [.scopeNotApplicable] []
      ["No Sentinel-monitored session was active during an agent revocation in this scope."] [] none
  else
    let terminations := eventsOfType evidence [.sentinelTerminated, .sentinelTerminationRequested]
    let checked := revocations.filterMap (midSessionOf sessionsStarted terminations)
    let enforced := checked.filter fun c => c.termination.isSome
    let refs := cite evidence (checked.flatMap fun c => c.revocation :: c.activeSession :: c.termination.toList)
    if checked.isEmpty then
      finish control context .notApplicable [.scopeNotApplicable] []
        ["No revocation coincided with an active Sentinel session in this scope."] [] none
    else if enforced.length < checked.length then
      finish control context .fail [.revocationNotEnforced]
        [countOf (checked.length - enforced.length) checked.length
          " mid-session revocation(s) show no correlated Sentinel termination."] [] refs
        (some control.remediationGuidance)
    else
      finish control context .pass [.negativeEvidenceSatisfied]
        [decimal checked.length ++ " mid-session revocation(s), all followed by Sentinel termination."] [] refs none

def evaluateRecov001 (sha256 : Text → Text) : ControlEvaluator := fun control context evidence =>
  let failures := eventsOfType evidence [.sentinelContainmentFailed]
  if failures.isEmpty then evaluateManifestOnly sha256 control context evidence
  else
    let contradictory := failures.filter fun e =>
      decide (containmentStatus e = some (Text.ofAscii "CONTAINMENT_CONFIRMED"))
    let refs := cite evidence failures
    if !contradictory.isEmpty then
      finish control context .fail [.containmentNotTruthful]
        [countOf contradictory.length failures.length
          " containment-failure event(s) self-contradict by also claiming CONTAINMENT_CONFIRMED."] [] refs
        (some control.remediationGuidance)
    else
      finish control context .pass [.controlSatisfied]
        [decimal failures.length ++
          " containment-failure event(s) observed, all honestly reporting unconfirmed containment."] [] refs none

end Tna.Auditor
