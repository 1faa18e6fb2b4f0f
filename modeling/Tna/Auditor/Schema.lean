import Mathlib.Data.Int.Notation
import Tna.Ledger.Store
import Tna.Ledger.Validate

/-!
# The Auditor's records

Evidence references, control results and findings, with the value each is written as. A
field that is not there is `undefined` in the value, so it is left out of JSON text and
of a canonical form.
-/

namespace Tna.Auditor

open Tna.Js Tna.Ledger

/-- The units of a literal that is not all ASCII; every character of it is one unit. -/
def prose (s : String) : Text := s.toList.map unit

/-! ## Time -/

/-- The days before the first of a month, since the first day of year zero. -/
def daysBefore (year month : Nat) : Nat :=
  365 * year + (year + 3) / 4 - (year + 99) / 100 + (year + 399) / 400 +
    ((List.range (month - 1)).map fun m => daysInMonth year (m + 1)).sum

/-- `Date.parse` of the timestamps the components write, `none` standing for `NaN`. -/
def dateParse (t : Text) : Option Int :=
  if isIsoTimestamp t then
    let days := daysBefore (numberAt t 0 4) (numberAt t 5 2) + numberAt t 8 2 - 1
    let seconds := days * 86400 + numberAt t 11 2 * 3600 + numberAt t 14 2 * 60 + numberAt t 17 2
    some ((seconds * 1000 + numberAt t 20 3 : Nat) - (daysBefore 1970 1 * 86400000 : Nat))
  else none

/-- `Date.parse(a) > Date.parse(b)`. -/
def isAfter (a b : Text) : Bool :=
  match dateParse a, dateParse b with
  | some x, some y => decide (y < x)
  | _, _ => false

/-- `Date.parse(a) >= Date.parse(b)`. -/
def isAtOrAfter (a b : Text) : Bool :=
  match dateParse a, dateParse b with
  | some x, some y => decide (y ≤ x)
  | _, _ => false

/-- A number with leading zeros. -/
def padded (width n : Nat) : Text := List.replicate (width - (decimal n).length) (unit '0') ++ decimal n

/-- `new Date(millis).toISOString()`. The year is counted from the first of March. -/
def toIsoString (millis : Int) : Text :=
  let days := millis / 86400000
  let time := (millis % 86400000).toNat
  let z := days + 719468
  let era := z / 146097
  let dayOfEra := (z % 146097).toNat
  let yearOfEra := (dayOfEra - dayOfEra / 1460 + dayOfEra / 36524 - dayOfEra / 146096) / 365
  let dayOfYear := dayOfEra - (365 * yearOfEra + yearOfEra / 4 - yearOfEra / 100)
  let shifted := (5 * dayOfYear + 2) / 153
  let day := dayOfYear - (153 * shifted + 2) / 5 + 1
  let month := if shifted < 10 then shifted + 3 else shifted - 9
  let year : Int := yearOfEra + era * 400 + (if month ≤ 2 then 1 else 0)
  let yearText : Text :=
    if 0 ≤ year ∧ year ≤ 9999 then padded 4 year.toNat
    else (if year < 0 then unit '-' else unit '+') :: padded 6 year.natAbs
  yearText ++ "-" ++ padded 2 month ++ "-" ++ padded 2 day ++ "T" ++ padded 2 (time / 3600000) ++ ":" ++
    padded 2 (time / 60000 % 60) ++ ":" ++ padded 2 (time / 1000 % 60) ++ "." ++ padded 3 (time % 1000) ++ "Z"

example : dateParse "1970-01-01T00:00:00.000Z" = some 0 ∧
    dateParse "2024-03-01T00:00:01.500Z" = some 1709251201500 ∧ dateParse "now" = none := by decide

example : toIsoString 1709251201500 = "2024-03-01T00:00:01.500Z" ∧ toIsoString (-1) = "1969-12-31T23:59:59.999Z" := by
  decide +kernel

/-! ## Vocabularies -/

inductive AuditorErrorCode where
  | invalidInput | unsupportedVersion | notFound | forbidden | invalidTransition | conflict | unknownControl
  | unknownProfile | payloadTooLarge
deriving DecidableEq

structure AuditorError where
  code : AuditorErrorCode
  message : Text
deriving DecidableEq

inductive Severity where
  | info | low | medium | high | critical
deriving DecidableEq

def Severity.name : Severity → Text
  | .info => "INFO"
  | .low => "LOW"
  | .medium => "MEDIUM"
  | .high => "HIGH"
  | .critical => "CRITICAL"

/-- `SEVERITY_SCORE`. -/
def Severity.score : Severity → Nat
  | .info => 0
  | .low => 10
  | .medium => 30
  | .high => 60
  | .critical => 100

inductive ControlResultStatus where
  | pass | partly | fail | notApplicable | insufficientEvidence | error
deriving DecidableEq

def ControlResultStatus.name : ControlResultStatus → Text
  | .pass => "PASS"
  | .partly => "PARTIAL"
  | .fail => "FAIL"
  | .notApplicable => "NOT_APPLICABLE"
  | .insufficientEvidence => "INSUFFICIENT_EVIDENCE"
  | .error => "ERROR"

/-- The reason codes the evaluators give. -/
inductive ReasonCode where
  | controlSatisfied | partialEvidence | missingRequiredEvidence | evidenceIntegrityInvalid | evidenceStale
  | authorityScopeTooBroad | revocationNotEnforced | noRuntimeMonitoring | noIndependentVerification
  | tenantIsolationNotProven | containmentUnconfirmed | containmentNotTruthful | secretExposureRisk
  | scopeNotApplicable | implementationManifestSatisfied | implementationManifestMissing | evaluatorError
  | negativeEvidenceSatisfied | evidenceIntegrityUnverified | manifestNotAuthentic
deriving DecidableEq

def ReasonCode.name : ReasonCode → Text
  | .controlSatisfied => "CONTROL_SATISFIED"
  | .partialEvidence => "PARTIAL_EVIDENCE"
  | .missingRequiredEvidence => "MISSING_REQUIRED_EVIDENCE"
  | .evidenceIntegrityInvalid => "EVIDENCE_INTEGRITY_INVALID"
  | .evidenceStale => "EVIDENCE_STALE"
  | .authorityScopeTooBroad => "AUTHORITY_SCOPE_TOO_BROAD"
  | .revocationNotEnforced => "REVOCATION_NOT_ENFORCED"
  | .noRuntimeMonitoring => "NO_RUNTIME_MONITORING"
  | .noIndependentVerification => "NO_INDEPENDENT_VERIFICATION"
  | .tenantIsolationNotProven => "TENANT_ISOLATION_NOT_PROVEN"
  | .containmentUnconfirmed => "CONTAINMENT_UNCONFIRMED"
  | .containmentNotTruthful => "CONTAINMENT_NOT_TRUTHFUL"
  | .secretExposureRisk => "SECRET_EXPOSURE_RISK"
  | .scopeNotApplicable => "SCOPE_NOT_APPLICABLE"
  | .implementationManifestSatisfied => "IMPLEMENTATION_MANIFEST_SATISFIED"
  | .implementationManifestMissing => "IMPLEMENTATION_MANIFEST_MISSING"
  | .evaluatorError => "EVALUATOR_ERROR"
  | .negativeEvidenceSatisfied => "NEGATIVE_EVIDENCE_SATISFIED"
  | .evidenceIntegrityUnverified => "EVIDENCE_INTEGRITY_UNVERIFIED"
  | .manifestNotAuthentic => "MANIFEST_NOT_AUTHENTIC"

/-- The source types references are made with. -/
inductive EvidenceSourceType where
  | ledgerEvent | implementationManifest
deriving DecidableEq

def EvidenceSourceType.name : EvidenceSourceType → Text
  | .ledgerEvent => "LEDGER_EVENT"
  | .implementationManifest => "IMPLEMENTATION_MANIFEST"

inductive EvidenceSourceTrust where
  | trustedSystem | verifiedLedger
deriving DecidableEq

def EvidenceSourceTrust.name : EvidenceSourceTrust → Text
  | .trustedSystem => "TRUSTED_SYSTEM"
  | .verifiedLedger => "VERIFIED_LEDGER"

inductive EvidenceQualification where
  | valid | invalid | unverified | unavailable
deriving DecidableEq

def EvidenceQualification.name : EvidenceQualification → Text
  | .valid => "VALID"
  | .invalid => "INVALID"
  | .unverified => "UNVERIFIED"
  | .unavailable => "UNAVAILABLE"

inductive ManifestTrustClass where
  | builtInAcceptedBaseline | adminProvided | verifiedExternal | untrusted
deriving DecidableEq

def ManifestTrustClass.name : ManifestTrustClass → Text
  | .builtInAcceptedBaseline => "BUILT_IN_ACCEPTED_BASELINE"
  | .adminProvided => "ADMIN_PROVIDED"
  | .verifiedExternal => "VERIFIED_EXTERNAL"
  | .untrusted => "UNTRUSTED"

inductive ControlProfileId where
  | tnaBaselineV01 | tnaHighRiskV01
deriving DecidableEq

def ControlProfileId.name : ControlProfileId → Text
  | .tnaBaselineV01 => "TNA_BASELINE_V01"
  | .tnaHighRiskV01 => "TNA_HIGH_RISK_V01"

inductive AssessmentStatus where
  | created | collectingEvidence | evaluating | completed | failed | indeterminate
deriving DecidableEq

inductive AssessmentOutcome where
  | pass | passWithFindings | fail | insufficientEvidence | error
deriving DecidableEq

/-! ## Records -/

def texts (items : List Text) : Value := .arr (items.map .str)

/-- What identifies one piece of evidence. -/
structure EvidenceRef where
  sourceType : EvidenceSourceType
  sourceTrust : EvidenceSourceTrust
  eventId : Option Text
  streamId : Option Text
  sequence : Option Nat
  eventHash : Option Text
  tenantId : Option Text
  manifestId : Option Text
  manifestHash : Option Text
  observedAt : Option Text
  integrityQualification : Option EvidenceQualification
  manifestTrustClass : Option ManifestTrustClass
deriving DecidableEq

def EvidenceRef.toValue (r : EvidenceRef) : Value :=
  .obj [("source_type", .str r.sourceType.name), ("source_trust", .str r.sourceTrust.name),
    ("event_id", textOrUndefined r.eventId), ("stream_id", textOrUndefined r.streamId),
    ("sequence", (r.sequence.map Value.ofNat).getD .undefined), ("event_hash", textOrUndefined r.eventHash),
    ("tenant_id", textOrUndefined r.tenantId), ("manifest_id", textOrUndefined r.manifestId),
    ("manifest_hash", textOrUndefined r.manifestHash), ("observed_at", textOrUndefined r.observedAt),
    ("integrity_qualification", textOrUndefined (r.integrityQualification.map EvidenceQualification.name)),
    ("manifest_trust_class", textOrUndefined (r.manifestTrustClass.map ManifestTrustClass.name))]

structure ControlResult where
  controlId : Text
  controlVersion : Text
  status : ControlResultStatus
  evaluatedAt : Text
  assessmentId : Text
  evidenceRefs : List EvidenceRef
  reasonCodes : List ReasonCode
  observations : List Text
  limitations : List Text
  riskContribution : Nat
  remediation : Option (List Text)
deriving DecidableEq

def ControlResult.toValue (r : ControlResult) : Value :=
  .obj [("control_id", .str r.controlId), ("control_version", .str r.controlVersion), ("status", .str r.status.name),
    ("evaluated_at", .str r.evaluatedAt), ("assessment_id", .str r.assessmentId),
    ("evidence_refs", .arr (r.evidenceRefs.map EvidenceRef.toValue)),
    ("reason_codes", texts (r.reasonCodes.map ReasonCode.name)), ("observations", texts r.observations),
    ("limitations", texts r.limitations), ("risk_contribution", .ofNat r.riskContribution),
    ("remediation", (r.remediation.map texts).getD .undefined)]

/-- `computeRiskContribution`. Half of a score, rounded. -/
def computeRiskContribution (criticality : Severity) (status : ControlResultStatus) : Nat :=
  match status with
  | .pass | .notApplicable => 0
  | .partly | .insufficientEvidence => (criticality.score + 1) / 2
  | .fail | .error => criticality.score

structure AuditFinding where
  findingId : Text
  assessmentId : Text
  controlId : Text
  severity : Severity
  title : Text
  description : Text
  evidenceRefs : List EvidenceRef
  reasonCodes : List ReasonCode
  remediation : List Text
  createdAt : Text
deriving DecidableEq

end Tna.Auditor
