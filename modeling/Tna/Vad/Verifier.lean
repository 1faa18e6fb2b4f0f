import Tna.Vad.Core

/-!
# The validation gate and the verifier

The gate aggregates the records of the validators. The verifier is given the gate's status
and its records, and decides on the success criteria of the atom. A verdict of a verifier is
parsed before it is used.
-/

namespace Tna.Vad

open Tna.Js Tna.Ledger

/-! ## The gate -/

inductive ValidationStatus where
  | pass | fail | notRun
deriving DecidableEq

structure ValidationRecord where
  validatorId : Text
  status : ValidationStatus
  exitCode : Option Number
  summary : Text
  outputHash : Option Text

/-- `exitCode !== undefined && exitCode !== 0`. -/
def ValidationRecord.badExit (r : ValidationRecord) : Bool :=
  match r.exitCode with
  | none => false
  | some n => decide (n ≠ .finite .zero) && decide (n ≠ .negZero)

/-- What an atom produced. -/
structure VerificationArtifact where
  artifactHash : Text
  diffHash : Text
  filesChanged : List Text
  declaredArtifacts : List Text

structure GateArtifacts extends VerificationArtifact where
  evidence : List ValidationRecord

inductive GateStatus where
  | pass | fail
deriving DecidableEq

structure GateResult where
  status : GateStatus
  validators : List ValidationRecord
  resourceViolation : Bool

/-- The record that stands in where there is none. -/
def noEvidence : ValidationRecord where
  validatorId := "validation-gate"
  status := .fail
  exitCode := none
  summary := "No deterministic evidence recorded"
  outputHash := none

/-- `ValidationGate.run`. -/
def ValidationGate.run (atom : AtomSpec) (artifact : GateArtifacts) : GateResult :=
  let evidence := if artifact.evidence = [] then [noEvidence] else artifact.evidence
  let hasFailure := evidence.any fun v => v.status = .fail
  let hasNotRun := evidence.any fun v => v.status = .notRun
  let hasInvalidExit := evidence.any fun v => v.status = .pass && v.badExit
  let resourceViolation := isResourceViolation atom artifact.filesChanged || isResourceViolation atom artifact.declaredArtifacts
  let status := if hasFailure || hasNotRun || hasInvalidExit || resourceViolation then GateStatus.fail else .pass
  ⟨status, evidence, resourceViolation⟩

/-! ## Verdicts -/

inductive VerifierVerdict where
  | accept | reject | requestChanges | invalid
deriving DecidableEq

def VerifierVerdict.name : VerifierVerdict → Text
  | .accept => "ACCEPT"
  | .reject => "REJECT"
  | .requestChanges => "REQUEST_CHANGES"
  | .invalid => "INVALID"

inductive CriterionStatus where
  | met | notMet
deriving DecidableEq

def CriterionStatus.name : CriterionStatus → Text
  | .met => "MET"
  | .notMet => "NOT_MET"

structure CriterionResult where
  criterionId : Text
  status : CriterionStatus
  evidence : List Text

def CriterionResult.toValue (c : CriterionResult) : Value :=
  .obj [("criterionId", .str c.criterionId), ("status", .str c.status.name), ("evidence", textArray c.evidence)]

structure VerifierResult where
  verdict : VerifierVerdict
  criteria : List CriterionResult
  scopeViolations : List Text
  residualRisks : List Text
  reasons : List Text

def VerifierResult.toValue (r : VerifierResult) : Value :=
  .obj [("verdict", .str r.verdict.name), ("criteria", .arr (r.criteria.map CriterionResult.toValue)),
    ("scopeViolations", textArray r.scopeViolations), ("residualRisks", textArray r.residualRisks),
    ("reasons", textArray r.reasons)]

/-! ## Parsing a verdict -/

structure ParsedCriterion where
  criterionId : Text
  status : Value
  evidence : List Text

structure ParsedVerdict where
  verdict : Value
  criteria : List ParsedCriterion
  scopeViolations : List Value
  residualRisks : List Value
  reasons : List Value

def textOf : Value → Option Text
  | .str t => some t
  | _ => none

/-- One entry of `criteria`. -/
def parseCriterion (entry : Value) : Except Text ParsedCriterion :=
  match entry with
  | .obj criterion =>
    if criterion.any fun f => f.1 ∉ [Text.ofAscii "criterionId", Text.ofAscii "status", Text.ofAscii "evidence"] then
      .error "Unknown verifier criterion field"
    else
      match Value.get criterion "criterionId", Value.get criterion "evidence" with
      | .str criterionId, .arr evidence =>
        if (Value.get criterion "status").toText ∉ [Text.ofAscii "MET", Text.ofAscii "NOT_MET"] then
          .error "Malformed verifier criterion"
        else
          match evidence.mapM textOf with
          | some evidence => .ok ⟨criterionId, Value.get criterion "status", evidence⟩
          | none => .error "Malformed verifier evidence mapping"
      | _, _ => .error "Malformed verifier criterion"
  | _ => .error "Malformed verifier criterion"

/-- `value === text`. -/
def isText (v : Value) (t : Text) : Bool := textOf v = some t

/-- `Object.keys(value).find((key) => !allowed.has(key))`, where an empty key passes for none. -/
def unknownField (allowed : List Text) (value : List (Text × Value)) : Option Text :=
  ((value.map Prod.fst).find? fun key => key ∉ allowed).filter fun key => key ≠ []

/-- The rules of `parse` on the criteria as a whole. -/
def checkCriteria (verdict : Value) (criteria : List ParsedCriterion) : Except Text Unit :=
  if ¬ (criteria.map ParsedCriterion.criterionId).Nodup then .error "Duplicate verifier criterion"
  else if isText verdict "ACCEPT" && criteria.isEmpty then .error "ACCEPT verdict requires at least one criterion"
  else if isText verdict "ACCEPT" && criteria.any fun c => !isText c.status "MET" then .error "ACCEPT contains unmet criterion"
  else .ok ()

/-- `DefaultVerifier.parse`. -/
def DefaultVerifier.parse (input : Value) : Except Text ParsedVerdict :=
  match input with
  | .obj value =>
    match unknownField ["verdict", "criteria", "scopeViolations", "residualRisks", "reasons"] value with
    | some key => .error (Text.ofAscii "Unknown verifier field: " ++ key)
    | none =>
      let verdict := Value.get value "verdict"
      if verdict.toText ∉ [Text.ofAscii "ACCEPT", Text.ofAscii "REJECT", Text.ofAscii "REQUEST_CHANGES"] then
        .error "Unknown verifier verdict"
      else
        match Value.get value "criteria", Value.get value "scopeViolations", Value.get value "residualRisks",
          Value.get value "reasons" with
        | .arr entries, .arr scopeViolations, .arr residualRisks, .arr reasons => do
          let criteria ← entries.mapM parseCriterion
          checkCriteria verdict criteria
          return { verdict, criteria, scopeViolations, residualRisks, reasons }
        | _, _, _, _ => .error "Verifier output criteria and reason arrays are required"
  | _ => .error "Verifier output must be an object"

/-! ## Verification -/

structure VerificationInput where
  atom : AtomSpec
  specHash : Text
  producedArtifact : VerificationArtifact
  /-- `validationEvidence`. -/
  status : GateStatus
  validators : List ValidationRecord
  customCriteria : Option (List (Text × CriterionStatus))

namespace VerificationInput

variable (i : VerificationInput)

def passingValidators : List ValidationRecord := i.validators.filter fun v => v.status = .pass

def actualEvidence : List Text := i.passingValidators.map fun v => Text.ofAscii "validator:" ++ v.validatorId

def criteria : List CriterionResult := i.atom.successCriteria.map fun criterion =>
  ⟨criterion.id, if 0 < i.passingValidators.length then .met else .notMet, i.actualEvidence⟩

/-- Some entry of `customCriteria` is of no criterion of the atom. -/
def invented : Bool :=
  (i.customCriteria.getD []).any fun entry => !i.atom.successCriteria.any fun criterion => criterion.id = entry.1

end VerificationInput

def VerifierResult.invalid (scopeViolations reasons : List Text) : VerifierResult :=
  ⟨.invalid, [], scopeViolations, [], reasons⟩

/-- `DefaultVerifier.verify`. -/
def DefaultVerifier.verify (sha256 : Text → Text) (i : VerificationInput) : VerifierResult :=
  if i.specHash ≠ computeSpecHash sha256 i.atom then
    .invalid [] ["Spec hash mismatch: the provided specHash does not match the computed hash of the atom."]
  else if i.invented then
    .invalid ["invented criterion"] ["Verifier returned a criterion not present in the original atom."]
  else if isResourceViolation i.atom i.producedArtifact.filesChanged then
    ⟨.reject, i.criteria, ["undeclared resource touched"], [],
      ["The produced artifacts exceeded the declared resource manifest."]⟩
  else if i.validators.length = 0 then
    ⟨.reject, i.atom.successCriteria.map fun criterion => ⟨criterion.id, .notMet, []⟩, [], [],
      ["No validation evidence provided to support acceptance."]⟩
  else if i.status ≠ .pass then ⟨.reject, i.criteria, [], [], ["Deterministic validation did not pass."]⟩
  else
    match i.atom.successCriteria.find? fun criterion => !i.criteria.any fun entry => entry.criterionId = criterion.id with
    | some missing => .invalid [] ["The verifier omitted " ++ missing.id ++ "."]
    | none => ⟨.accept, i.criteria, [], [], ["All mandatory success criteria are satisfied."]⟩

end Tna.Vad
