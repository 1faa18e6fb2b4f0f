import Mathlib.Data.List.Sort
import Tna.Auditor.Catalog
import Tna.Auditor.Risk
import Tna.Lib.Outcome
import Tna.Lib.Rows

/-!
# The Auditor's store

Assessments, their runs, and the control results and findings of each run, with every
transaction and every statement that `AuditorRuntime` makes outside of one. Specifications
are validated before they come here, and times are ISO timestamps.
-/

namespace Tna.Auditor

open Tna.Js Tna.Ledger Tna.Lib

/-! ## Specifications -/

/-- A validated specification. Its scope is for the evidence provider. -/
structure AssessmentSpecInput where
  tenantId : Text
  name : Text
  description : Option Text
  scope : JsObject
  controlProfileId : ControlProfileId
  evidenceCutoffAt : Text

def AssessmentSpecInput.fields (i : AssessmentSpecInput) : List (Text × Value) :=
  [("version", .str "1.0"), ("tenant_id", .str i.tenantId), ("name", .str i.name), ("scope", i.scope.toValue),
    ("control_profile_id", .str i.controlProfileId.name), ("evidence_cutoff_at", .str i.evidenceCutoffAt),
    ("description", textOrUndefined i.description)]

def computeSpecHash (sha256 : Text → Text) (i : AssessmentSpecInput) : Text := hash sha256 (.obj i.fields)

/-! ## Rows -/

abbrev AssessmentKey := Text × Text

abbrev RunKey := AssessmentKey × Nat

/-- The columns that only a run that completed has. -/
structure RunConclusion where
  outcome : AssessmentOutcome
  riskSummary : RiskSummary
  assessmentHash : Text
deriving DecidableEq

/-- `status IN ('COLLECTING_EVIDENCE', 'EVALUATING')`. -/
def AssessmentStatus.inProgress : AssessmentStatus → Bool
  | .collectingEvidence | .evaluating => true
  | _ => false

/-- A row of `auditor_assessments`. The columns of a conclusion are only ever written together. -/
structure AssessmentRow where
  tenantId : Text
  assessmentId : Text
  spec : AssessmentSpecInput
  createdAt : Text
  createdBy : Text
  specHash : Text
  status : AssessmentStatus
  updatedAt : Text
  latestRunNumber : Nat
  conclusion : Option RunConclusion
  controlCatalogVersion : Option Text
  stateVersion : Nat

def AssessmentRow.key (r : AssessmentRow) : AssessmentKey := (r.tenantId, r.assessmentId)

/-- A row of `auditor_runs`. A run that is a replay has the number of the run it replays. -/
structure RunRow where
  tenantId : Text
  assessmentId : Text
  runNumber : Nat
  status : AssessmentStatus
  startedAt : Text
  completedAt : Option Text
  conclusion : Option RunConclusion
  controlCatalogVersion : Text
  evaluatorVersion : Text
  evidenceCutoffAt : Text
  evidenceBundle : Option EvidenceBundle
  replayOfRunNumber : Option Nat

def RunRow.key (r : RunRow) : RunKey := ((r.tenantId, r.assessmentId), r.runNumber)

/-- An assessment of which a run is claimed. -/
def AssessmentRow.claimed (runNumber : Nat) (status : AssessmentStatus) (now : Text) (r : AssessmentRow) : AssessmentRow :=
  { r with
    status
    latestRunNumber := runNumber
    updatedAt := now
    stateVersion := r.stateVersion + 1 }

/-- A run that is claimed. -/
def newRun (key : AssessmentKey) (runNumber : Nat) (status : AssessmentStatus) (replayOf : Option Nat)
    (evidenceCutoffAt now : Text) : RunRow where
  tenantId := key.1
  assessmentId := key.2
  runNumber
  status
  startedAt := now
  completedAt := none
  conclusion := none
  controlCatalogVersion := Auditor.controlCatalogVersion
  evaluatorVersion := Auditor.evaluatorVersion
  evidenceCutoffAt
  evidenceBundle := none
  replayOfRunNumber := replayOf

structure ControlResultRow where
  run : RunKey
  result : ControlResult

structure FindingRow where
  run : RunKey
  finding : AuditFinding

structure AuditorStore where
  assessments : List AssessmentRow
  runs : List RunRow
  controlResults : List ControlResultRow
  findings : List FindingRow

def AuditorStore.empty : AuditorStore := ⟨[], [], [], []⟩

namespace AuditorStore

variable (s : AuditorStore)

def assessment (key : AssessmentKey) : Option AssessmentRow := Rows.row AssessmentRow.key s.assessments key

def run (key : RunKey) : Option RunRow := Rows.row RunRow.key s.runs key

/-- The control results of a run, in the order they were written. -/
def resultsOf (key : RunKey) : List ControlResult := (s.controlResults.filter fun r => r.run = key).map ControlResultRow.result

/-- The findings of a run, in the order of their sequence numbers. -/
def findingsOf (key : RunKey) : List AuditFinding := (s.findings.filter fun r => r.run = key).map FindingRow.finding

/-! ## Statements -/

def updateAssessment (key : AssessmentKey) (change : AssessmentRow → AssessmentRow) : AuditorStore :=
  { s with assessments := Rows.update (fun r => r.key = key) change s.assessments }

def updateRun (key : RunKey) (change : RunRow → RunRow) : AuditorStore :=
  { s with runs := Rows.update (fun r => r.key = key) change s.runs }

/-- `INSERT OR REPLACE INTO auditor_control_results`. -/
def putResult (key : RunKey) (result : ControlResult) : AuditorStore :=
  { s with
    controlResults := (s.controlResults.filter fun r => !(r.run = key && r.result.controlId = result.controlId)) ++ [⟨key, result⟩] }

/-- `INSERT INTO auditor_findings`; an id is there once in an assessment. -/
def insertFinding (key : RunKey) (finding : AuditFinding) : Option AuditorStore :=
  if s.findings.any fun r => r.run.1 = key.1 && r.finding.findingId = finding.findingId then none
  else some { s with findings := s.findings ++ [⟨key, finding⟩] }

def putResults (key : RunKey) (results : List ControlResult) : AuditorStore := results.foldl (fun s r => s.putResult key r) s

def insertFindings (key : RunKey) : List AuditFinding → AuditorStore → Option AuditorStore
  | [], s => some s
  | finding :: rest, s => (s.insertFinding key finding).bind (insertFindings key rest)

/-! ## Operations -/

/-- `createAssessment`, with the id it draws. -/
def createAssessment (sha256 : Text → Text) (spec : AssessmentSpecInput) (assessmentId createdBy now : Text) : Option AuditorStore :=
  if (s.assessment (spec.tenantId, assessmentId)).isSome then none
  else some { s with assessments := s.assessments ++ [{
    tenantId := spec.tenantId
    assessmentId
    spec
    createdAt := now
    createdBy
    specHash := computeSpecHash sha256 spec
    status := .created
    updatedAt := now
    latestRunNumber := 0
    conclusion := none
    controlCatalogVersion := none
    stateVersion := 0 }] }

/-- What `claimRun` and `claimReplayRun` have in common: a transaction, with the row it has read. -/
def claim (key : AssessmentKey) (status : AssessmentStatus) (replayOf : Option Nat) (now : Text) :
    Option (AuditorStore × AssessmentRow) := do
  let row ← s.assessment key
  let selected := fun r : AssessmentRow => r.key = key && r.stateVersion = row.stateVersion
  if row.status.inProgress then none
  else if s.assessments.countP selected ≠ 1 then none
  else if (s.run (key, row.latestRunNumber + 1)).isSome then none
  else some ({ s with
    assessments := Rows.update selected (AssessmentRow.claimed (row.latestRunNumber + 1) status now) s.assessments
    runs := s.runs ++ [newRun key (row.latestRunNumber + 1) status replayOf row.spec.evidenceCutoffAt now] }, row)

def claimRun (key : AssessmentKey) (now : Text) : Option (AuditorStore × AssessmentRow) := s.claim key .collectingEvidence none now

def claimReplayRun (key : AssessmentKey) (replayOf : Nat) (now : Text) : Option (AuditorStore × AssessmentRow) :=
  s.claim key .evaluating (some replayOf) now

/-- The first statement of `transitionRun`. -/
def transitionRunRow (key : RunKey) (status : AssessmentStatus) : AuditorStore := s.updateRun key fun r => { r with status }

/-- The second. -/
def transitionAssessmentRow (key : AssessmentKey) (status : AssessmentStatus) (now : Text) : AuditorStore :=
  s.updateAssessment key fun r => { r with status, updatedAt := now }

/-- `finalizeAsIncomplete`, whose two statements are one transaction. -/
def finalizeAsIncomplete (key : RunKey) (status : AssessmentStatus) (now : Text) : AuditorStore :=
  (s.updateRun key fun r => { r with status, completedAt := some now }).transitionAssessmentRow key.1 status now

/-- The first statement of the recovery at the start of a runtime. -/
def recoverAssessments (now : Text) : AuditorStore :=
  let change := fun r : AssessmentRow => { r with
    status := .indeterminate
    updatedAt := now
    stateVersion := r.stateVersion + 1 }
  { s with assessments := Rows.update (fun r => r.status.inProgress) change s.assessments }

/-- The second. -/
def recoverRuns (now : Text) : AuditorStore :=
  let change := fun r : RunRow => { r with
    status := .indeterminate
    completedAt := some now }
  { s with runs := Rows.update (fun r => r.status.inProgress) change s.runs }

end AuditorStore

/-! ## The hash of an assessment -/

/-- What a runtime is composed of: the digest, and `a.localeCompare(b) <= 0`. -/
structure AuditorParts where
  sha256 : Text → Text
  localeLe : Text → Text → Bool

/-- `a ?? b`. -/
def orElseNullish (a b : Value) : Value :=
  match a with
  | .undefined => b
  | .null => b
  | _ => a

/-- `refKey(r)`, as the text it is compared as. -/
def refKey (r : Value) : Text :=
  (orElseNullish (member r "event_id") (orElseNullish (member r "manifest_id")
    (orElseNullish (member r "snapshot_id") (.str [])))).toText

def controlIdKey (r : Value) : Text := (member r "control_id").toText

/-- `[...items].sort((a, b) => key(a).localeCompare(key(b)))`. Where a key is no string the source may throw. -/
def sortedBy (p : AuditorParts) (key : Value → Text) (items : List Value) : List Value :=
  items.insertionSort fun a b => p.localeLe (key a) (key b) = true

/-- What `computeAssessmentHash` hashes. -/
structure AssessmentContent where
  specHash : Value
  controlProfileId : Value
  catalogVersion : Value
  evidenceCutoffAt : Value
  evidenceRefs : List Value
  results : List Value
  risk : Value
  manifestTrustClass : Value

def AssessmentContent.fields (c : AssessmentContent) (p : AuditorParts) : List (Text × Value) :=
  [("spec_hash", c.specHash), ("control_profile_id", c.controlProfileId), ("control_catalog_version", c.catalogVersion),
    ("evidence_cutoff_at", c.evidenceCutoffAt), ("evidence_manifest", .arr (sortedBy p refKey c.evidenceRefs)),
    ("control_results", .arr (sortedBy p controlIdKey c.results)), ("risk", c.risk),
    ("manifest_trust_class", c.manifestTrustClass)]

def computeAssessmentHash (p : AuditorParts) (c : AssessmentContent) : Text := hash p.sha256 (.obj (c.fields p))

/-! ## Evaluation -/

/-- `texts.join(' ')`. -/
def joinWords (items : List Text) : Text := List.intercalate (Text.ofAscii " ") items

/-- A finding as `buildFindings` orders it. -/
def AuditFinding.priority (results : List ControlResult) (f : AuditFinding) : FindingPriority where
  severity := f.severity
  controlStatus := ((results.find? fun r => r.controlId = f.controlId).map ControlResult.status).getD .pass
  findingId := f.findingId

/-- The finding of a result that is no pass, with the id it draws. -/
def findingOf (controls : List Control) (context : EvaluationContext) (findingIds : Nat → Text) (result : ControlResult × Nat) :
    Option AuditFinding :=
  if result.1.status = .pass ∨ result.1.status = .notApplicable then none
  else (controls.reverse.find? fun c => c.controlId = result.1.controlId).map fun control =>
    { findingId := findingIds result.2
      assessmentId := context.assessmentId
      controlId := result.1.controlId
      severity := effectiveCriticality control context
      title := control.title ++ ": " ++ result.1.status.name
      description := if joinWords result.1.observations = [] then control.description else joinWords result.1.observations
      evidenceRefs := result.1.evidenceRefs
      reasonCodes := result.1.reasonCodes
      remediation := result.1.remediation.getD control.remediationGuidance
      createdAt := toIsoString context.now }

def buildFindings (controls : List Control) (results : List ControlResult) (context : EvaluationContext)
    (findingIds : Nat → Text) : List AuditFinding :=
  (results.zipIdx.filterMap (findingOf controls context findingIds)).insertionSort
    fun a b => compareFindingPriority (a.priority results) (b.priority results) = true

/-- What a run concludes. -/
structure RunEvaluation where
  results : List ControlResult
  findings : List AuditFinding
  conclusion : RunConclusion

/-- What the hash of a run covers. -/
def contentOf (row : AssessmentRow) (bundle : EvidenceBundle) (results : List ControlResult) (risk : RiskSummary)
    (trustClass : ManifestTrustClass) : AssessmentContent where
  specHash := .str row.specHash
  controlProfileId := .str row.spec.controlProfileId.name
  catalogVersion := .str controlCatalogVersion
  evidenceCutoffAt := .str row.spec.evidenceCutoffAt
  evidenceRefs := bundle.events.map fun e => (eventRef e bundle).toValue
  results := results.map ControlResult.toValue
  risk := risk.toValue
  manifestTrustClass := .str trustClass.name

def evaluationContext (row : AssessmentRow) (manifest : ControlImplementationManifest) (now : Int) : EvaluationContext where
  assessmentId := row.assessmentId
  tenantId := row.tenantId
  now
  profileId := row.spec.controlProfileId
  manifest := some manifest

/-- The evaluation of `evaluateAndFinalize`. -/
def evaluateRun (p : AuditorParts) (row : AssessmentRow) (manifest : ControlImplementationManifest) (bundle : EvidenceBundle)
    (now : Int) (findingIds : Nat → Text) : Except AuditorError RunEvaluation := do
  let controls := getControlsForProfile row.spec.controlProfileId
  let context := evaluationContext row manifest now
  let results ← controls.mapM fun control => evaluateControl p.sha256 control context bundle
  let scored := results.zipWith (fun result control => ⟨result, effectiveCriticality control context⟩) controls
  let risk := computeRiskSummary scored
  return {
    results
    findings := buildFindings controls results context findingIds
    conclusion := {
      outcome := computeOutcome scored
      riskSummary := risk
      assessmentHash := computeAssessmentHash p (contentOf row bundle results risk manifest.trustClass) } }

/-- The transaction of `evaluateAndFinalize`. -/
def AuditorStore.finalize (s : AuditorStore) (key : RunKey) (bundle : EvidenceBundle) (e : RunEvaluation) (completedAt : Text) :
    Option AuditorStore :=
  (AuditorStore.insertFindings key e.findings (s.putResults key e.results)).map fun s =>
    (s.updateRun key fun r => { r with
      status := .completed
      completedAt := some completedAt
      conclusion := some e.conclusion
      evidenceBundle := some bundle }).updateAssessment key.1 fun r => { r with
        status := .completed
        updatedAt := completedAt
        conclusion := some e.conclusion
        controlCatalogVersion := some Auditor.controlCatalogVersion }

end Tna.Auditor
