import Tna.Vad.Verifier

/-!
# When a verdict is justified

A verdict has to pass the verifier's own parser, and an acceptance has to be what the gate
makes of the same records. The verifier trusts the overall status it is given, so this
depends on whether the records bear it out.
-/

namespace Tna.Vad

open Tna.Js Tna.Ledger

section
variable {sha256 : Text → Text} {i : VerificationInput}

/-! ## Parsing what was written -/

theorem mapM_textOf (items : List Text) : (items.map Value.str).mapM textOf = some items := by
  induction items with
  | nil => rfl
  | cons t rest ih =>
    rw [List.map_cons, List.mapM_cons, ih]
    rfl

def CriterionResult.parsed (c : CriterionResult) : ParsedCriterion := ⟨c.criterionId, .str c.status.name, c.evidence⟩

theorem parseCriterion_toValue (c : CriterionResult) : parseCriterion c.toValue = .ok c.parsed := by
  have hid : Value.get [(Text.ofAscii "criterionId", .str c.criterionId), (Text.ofAscii "status", .str c.status.name),
    (Text.ofAscii "evidence", textArray c.evidence)] "criterionId" = .str c.criterionId := rfl
  have hstatus : Value.get [(Text.ofAscii "criterionId", .str c.criterionId), (Text.ofAscii "status", .str c.status.name),
    (Text.ofAscii "evidence", textArray c.evidence)] "status" = .str c.status.name := rfl
  have hevidence : Value.get [(Text.ofAscii "criterionId", .str c.criterionId), (Text.ofAscii "status", .str c.status.name),
    (Text.ofAscii "evidence", textArray c.evidence)] "evidence" = .arr (c.evidence.map .str) := rfl
  have hname : c.status.name ∈ [Text.ofAscii "MET", Text.ofAscii "NOT_MET"] := by cases c.status <;> simp [CriterionStatus.name]
  rw [CriterionResult.toValue, parseCriterion, if_neg (by simp), hid, hstatus, hevidence]
  simp only [Value.toText, hname, not_true_eq_false, if_false, mapM_textOf]
  rfl

theorem mapM_parseCriterion (criteria : List CriterionResult) :
    (criteria.map CriterionResult.toValue).mapM parseCriterion = .ok (criteria.map CriterionResult.parsed) := by
  induction criteria with
  | nil => rfl
  | cons c rest ih =>
    rw [List.map_cons, List.mapM_cons, parseCriterion_toValue, ih]
    rfl

/-- What is left of a verdict's parsing are the rules on its criteria. -/
theorem parse_toValue {r : VerifierResult} (h : r.verdict ≠ .invalid) :
    (∃ parsed, DefaultVerifier.parse r.toValue = .ok parsed) ↔
      checkCriteria (.str r.verdict.name) (r.criteria.map CriterionResult.parsed) = .ok () := by
  have hverdict : r.verdict.name ∈ [Text.ofAscii "ACCEPT", Text.ofAscii "REJECT", Text.ofAscii "REQUEST_CHANGES"] := by
    cases hname : r.verdict with
    | invalid => exact absurd hname h
    | _ => simp [VerifierVerdict.name]
  have hparse : DefaultVerifier.parse r.toValue = (do
      let criteria ← (r.criteria.map CriterionResult.toValue).mapM parseCriterion
      checkCriteria (.str r.verdict.name) criteria
      return ⟨.str r.verdict.name, criteria, r.scopeViolations.map .str, r.residualRisks.map .str, r.reasons.map .str⟩) := by
    rw [VerifierResult.toValue, DefaultVerifier.parse]
    exact if_neg (not_not.2 hverdict)
  rw [hparse, mapM_parseCriterion]
  simp only [bind, Except.bind]
  split
  · next message hcheck => exact iff_of_false (fun ⟨_, hparsed⟩ => nomatch hparsed) (by simp [hcheck])
  · next hcheck => exact iff_of_true ⟨_, rfl⟩ hcheck

theorem isText_str {t u : Text} : isText (.str t) u = true ↔ t = u := by simp [isText, textOf]

/-- **A verdict that is parsed** names no criterion twice, and an acceptance has criteria, all of them met. -/
theorem parsed_iff {r : VerifierResult} (h : r.verdict ≠ .invalid) :
    (∃ parsed, DefaultVerifier.parse r.toValue = .ok parsed) ↔ (r.criteria.map CriterionResult.criterionId).Nodup ∧
      (r.verdict = .accept → r.criteria ≠ [] ∧ ∀ c ∈ r.criteria, c.status = .met) := by
  have hids : (r.criteria.map CriterionResult.parsed).map ParsedCriterion.criterionId =
      r.criteria.map CriterionResult.criterionId := List.map_map.trans rfl
  have haccept : isText (.str r.verdict.name) "ACCEPT" = true ↔ r.verdict = .accept := by
    rw [isText_str]
    cases r.verdict <;> simp [VerifierVerdict.name]
  have hmet : ((r.criteria.map CriterionResult.parsed).any fun c => !isText c.status "MET") = false ↔
      ∀ c ∈ r.criteria, c.status = .met := by
    rw [List.any_map, List.any_eq_false]
    refine forall₂_congr fun c _ => ?_
    cases hstatus : c.status <;> simp [CriterionResult.parsed, hstatus, isText, textOf, CriterionStatus.name]
  rw [parse_toValue h, checkCriteria, hids]
  by_cases hnodup : (r.criteria.map CriterionResult.criterionId).Nodup
  · rw [if_neg (not_not.2 hnodup)]
    by_cases hverdict : r.verdict = .accept
    · rw [haccept.2 hverdict, Bool.true_and, Bool.true_and, List.isEmpty_map, ← hmet]
      by_cases hempty : r.criteria = []
      · simp [hempty, hverdict]
      · simp [hempty, hverdict, hnodup]
    · have hother : isText (.str r.verdict.name) "ACCEPT" = false := by
        rw [Bool.eq_false_iff]
        exact fun htext => hverdict (haccept.1 htext)
      simp [hother, hverdict, hnodup]
  · simp [hnodup]

/-! ## What the gate and the verifier come to -/

/-- The record of a validator that passed, with no exit code that says otherwise. -/
def ValidationRecord.Passed (r : ValidationRecord) : Prop := r.status = .pass ∧ r.badExit = false

theorem run_status_iff {atom : AtomSpec} {artifact : GateArtifacts} : (ValidationGate.run atom artifact).status = .pass ↔
    artifact.evidence ≠ [] ∧ (∀ v ∈ artifact.evidence, v.Passed) ∧ isResourceViolation atom artifact.filesChanged = false ∧
      isResourceViolation atom artifact.declaredArtifacts = false := by
  have hpassed : ∀ evidence : List ValidationRecord, ((evidence.any fun v => v.status = .fail) ||
      (evidence.any fun v => v.status = .notRun) || evidence.any fun v => v.status = .pass && v.badExit) = false ↔
        ∀ v ∈ evidence, v.Passed := by
    intro evidence
    simp only [Bool.or_eq_false_iff, List.any_eq_false, ← forall₂_and]
    refine forall₂_congr fun v _ => ?_
    cases hstatus : v.status <;> simp [ValidationRecord.Passed, hstatus]
  have hstatus : ∀ bad : Bool, (if bad then GateStatus.fail else .pass) = .pass ↔ bad = false := by decide
  rw [ValidationGate.run, hstatus, Bool.or_eq_false_iff, hpassed, Bool.or_eq_false_iff]
  by_cases hempty : artifact.evidence = []
  · simp [hempty, ValidationRecord.Passed, noEvidence]
  · simp [hempty]

/-- The artifact of the input, with the records the gate would judge it by. -/
def VerificationInput.artifacts (i : VerificationInput) : GateArtifacts := { i.producedArtifact with evidence := i.validators }

/-- The input is of the atom, and of no other criteria. -/
def VerificationInput.Bound (i : VerificationInput) (sha256 : Text → Text) : Prop :=
  i.specHash = computeSpecHash sha256 i.atom ∧ i.invented = false

/-- There is a reason to reject that the verifier looks at. -/
def VerificationInput.Refused (i : VerificationInput) : Prop :=
  isResourceViolation i.atom i.producedArtifact.filesChanged = true ∨ i.validators = [] ∨ i.status = .fail

theorem verify_of_not_bound (h : ¬ i.Bound sha256) : (DefaultVerifier.verify sha256 i).verdict = .invalid := by
  unfold DefaultVerifier.verify
  by_cases hhash : i.specHash = computeSpecHash sha256 i.atom
  · rw [if_neg (not_not.2 hhash)]
    cases hinvented : i.invented with
    | true => rfl
    | false => exact absurd ⟨hhash, hinvented⟩ h
  · rw [if_pos hhash]
    rfl

theorem criteria_ids : i.criteria.map CriterionResult.criterionId = i.atom.successCriteria.map SuccessCriterion.id :=
  List.map_map.trans rfl

/-- No criterion of the atom is left out. -/
theorem no_missing : (i.atom.successCriteria.find? fun criterion =>
    !i.criteria.any fun entry => entry.criterionId = criterion.id) = none := by
  rw [List.find?_eq_none]
  intro criterion hcriterion
  have hany : (i.criteria.any fun entry => entry.criterionId = criterion.id) = true := by
    rw [List.any_eq_true]
    exact ⟨_, List.mem_map_of_mem hcriterion, decide_eq_true rfl⟩
  simp [hany]

theorem verify_of_refused (h : i.Bound sha256) (hrefused : i.Refused) :
    (DefaultVerifier.verify sha256 i).verdict = .reject ∧
      (DefaultVerifier.verify sha256 i).criteria.map CriterionResult.criterionId =
        i.atom.successCriteria.map SuccessCriterion.id := by
  unfold DefaultVerifier.verify
  rw [if_neg (not_not.2 h.1), if_neg (by simp [h.2])]
  split
  · exact ⟨rfl, criteria_ids⟩
  next hresources =>
  split
  · exact ⟨rfl, List.map_map.trans rfl⟩
  next hvalidators =>
  rw [if_pos]
  · exact ⟨rfl, criteria_ids⟩
  · rcases hrefused with hviolation | hnone | hfail
    · exact absurd hviolation hresources
    · exact absurd (by rw [hnone]; rfl) hvalidators
    · rw [hfail]
      decide

theorem verify_of_not_refused (h : i.Bound sha256) (hrefused : ¬ i.Refused) : DefaultVerifier.verify sha256 i =
    ⟨.accept, i.criteria, [], [], ["All mandatory success criteria are satisfied."]⟩ := by
  simp only [VerificationInput.Refused, not_or] at hrefused
  obtain ⟨hresources, hvalidators, hstatus⟩ := hrefused
  have hpass : ¬ i.status ≠ .pass := by
    cases hstatus' : i.status with
    | pass => simp
    | fail => exact absurd hstatus' hstatus
  unfold DefaultVerifier.verify
  rw [if_neg (not_not.2 h.1), if_neg (by simp [h.2]), if_neg hresources,
    if_neg (fun hlength => hvalidators (List.length_eq_zero_iff.1 hlength)), if_neg hpass, no_missing]

/-! ## Soundness -/

/-- What is claimed of the verifier on an input. -/
structure SoundVerdict (sha256 : Text → Text) (i : VerificationInput) : Prop where
  parsed : (DefaultVerifier.verify sha256 i).verdict ≠ .invalid →
    ∃ parsed, DefaultVerifier.parse (DefaultVerifier.verify sha256 i).toValue = .ok parsed
  met : (DefaultVerifier.verify sha256 i).verdict = .accept → ∀ criterion ∈ i.atom.successCriteria,
    ∃ c ∈ (DefaultVerifier.verify sha256 i).criteria, c.criterionId = criterion.id ∧ c.status = .met
  gate : (DefaultVerifier.verify sha256 i).verdict = .accept → (ValidationGate.run i.atom i.artifacts).status = .pass
  custom : (DefaultVerifier.verify sha256 i).verdict = .accept → ∀ entry ∈ i.customCriteria.getD [], entry.2 ≠ .notMet
  supported : (DefaultVerifier.verify sha256 i).verdict = .accept → ∀ criterion ∈ i.atom.successCriteria,
    ∃ c ∈ (DefaultVerifier.verify sha256 i).criteria, c.criterionId = criterion.id ∧
      ∃ v ∈ i.validators, v.status = .pass ∧ Text.ofAscii "validator:" ++ v.validatorId ∈ c.evidence

/-- Every record passed, what was declared is within the resources, and no custom criterion is unmet. -/
structure VerificationInput.BornOut (i : VerificationInput) : Prop where
  passed : ∀ v ∈ i.validators, v.Passed
  declared : isResourceViolation i.atom i.producedArtifact.declaredArtifacts = false
  custom : ∀ entry ∈ i.customCriteria.getD [], entry.2 ≠ .notMet

/-- **A verdict is sound** exactly if the criteria of the atom have distinct ids and, where the verifier has no reason to
reject, there are criteria and the records bear the status out. -/
theorem sound_iff : SoundVerdict sha256 i ↔ (i.Bound sha256 → (i.atom.successCriteria.map SuccessCriterion.id).Nodup ∧
    (¬ i.Refused → i.atom.successCriteria ≠ [] ∧ i.BornOut)) := by
  by_cases hbound : i.Bound sha256
  swap
  · have hinvalid := verify_of_not_bound hbound
    have hnot : (DefaultVerifier.verify sha256 i).verdict ≠ .accept := by
      rw [hinvalid]
      decide
    refine iff_of_true ⟨fun h => absurd hinvalid h, fun h => absurd h hnot, fun h => absurd h hnot, fun h => absurd h hnot,
      fun h => absurd h hnot⟩ fun h => absurd h hbound
  by_cases hrefused : i.Refused
  · obtain ⟨hreject, hids⟩ := verify_of_refused hbound hrefused
    have hnot : (DefaultVerifier.verify sha256 i).verdict ≠ .accept := by
      rw [hreject]
      decide
    have hvalid : (DefaultVerifier.verify sha256 i).verdict ≠ .invalid := by
      rw [hreject]
      decide
    have hparsed := parsed_iff hvalid
    rw [hids] at hparsed
    constructor
    · exact fun h _ => ⟨(hparsed.1 (h.parsed hvalid)).1, fun hn => absurd hrefused hn⟩
    · intro h
      exact ⟨fun _ => hparsed.2 ⟨(h hbound).1, fun ha => absurd ha hnot⟩, fun ha => absurd ha hnot, fun ha => absurd ha hnot,
        fun ha => absurd ha hnot, fun ha => absurd ha hnot⟩
  · have haccept := verify_of_not_refused hbound hrefused
    have hverdict : (DefaultVerifier.verify sha256 i).verdict = .accept := by rw [haccept]
    have hvalid : (DefaultVerifier.verify sha256 i).verdict ≠ .invalid := by
      rw [hverdict]
      decide
    have hcriteria : (DefaultVerifier.verify sha256 i).criteria = i.criteria := by rw [haccept]
    have hparsed := parsed_iff hvalid
    rw [hcriteria, criteria_ids] at hparsed
    constructor
    · intro h _
      obtain ⟨hnodup, hrest⟩ := hparsed.1 (h.parsed hvalid)
      obtain ⟨-, hpassed, -, hdeclared⟩ := run_status_iff.1 (h.gate hverdict)
      refine ⟨hnodup, fun _ => ⟨?_, hpassed, hdeclared, h.custom hverdict⟩⟩
      intro hnone
      exact (hrest hverdict).1 (by rw [VerificationInput.criteria, hnone, List.map_nil])
    · intro h
      obtain ⟨hnodup, hborn⟩ := h hbound
      obtain ⟨hnonempty, hborn⟩ := hborn hrefused
      simp only [VerificationInput.Refused, not_or] at hrefused
      obtain ⟨hresources, hvalidators, -⟩ := hrefused
      obtain ⟨v, hv⟩ := List.exists_mem_of_ne_nil _ hvalidators
      have hpassing : v ∈ i.passingValidators := List.mem_filter.2 ⟨hv, decide_eq_true (hborn.passed v hv).1⟩
      have hcount : 0 < i.passingValidators.length := List.length_pos_of_mem hpassing
      have hresult : ∀ criterion ∈ i.atom.successCriteria, (⟨criterion.id, .met, i.actualEvidence⟩ : CriterionResult) ∈ i.criteria := by
        intro criterion hcriterion
        refine List.mem_map.2 ⟨criterion, hcriterion, ?_⟩
        rw [if_pos hcount]
      refine ⟨fun _ => hparsed.2 ⟨hnodup, fun _ => ⟨?_, ?_⟩⟩, ?_, fun _ => ?_, fun _ => hborn.custom, ?_⟩
      · rw [VerificationInput.criteria, ne_eq, List.map_eq_nil_iff]
        exact hnonempty
      · intro c hc
        obtain ⟨criterion, -, rfl⟩ := List.mem_map.1 hc
        exact if_pos hcount
      · intro _ criterion hcriterion
        exact ⟨_, hcriteria ▸ hresult criterion hcriterion, rfl, rfl⟩
      · exact run_status_iff.2 ⟨hvalidators, hborn.passed, Bool.not_eq_true _ ▸ hresources, hborn.declared⟩
      · intro _ criterion hcriterion
        exact ⟨_, hcriteria ▸ hresult criterion hcriterion, rfl, v, hv, (hborn.passed v hv).1,
          List.mem_map.2 ⟨v, hpassing, rfl⟩⟩

end

/-! ## A status the records do not bear out -/

theorem isNumeral_one : isNumeral "1" = true := by decide

theorem one_ne_negZero : Text.ofAscii "1" ≠ "-0" := by decide

def sampleAtom : AtomSpec where
  atomId := "atom"
  title := "t"
  goal := "g"
  successCriteria := [⟨"SC-1", "d"⟩]
  risk := .low
  resources := ⟨[], [], []⟩
  forbidden := []
  limits := ⟨.finite ⟨"1", isNumeral_one, one_ne_negZero⟩, .finite ⟨"1", isNumeral_one, one_ne_negZero⟩,
    .finite ⟨"1", isNumeral_one, one_ne_negZero⟩⟩

/-- The overall status says that validation passed, its only record that it failed. -/
def failedRecord : VerificationInput where
  atom := sampleAtom
  specHash := computeSpecHash id sampleAtom
  producedArtifact := ⟨"a", "d", [], []⟩
  status := .pass
  validators := [⟨"unit-tests", .fail, none, "failed", none⟩]
  customCriteria := none

/-- It is accepted all the same, with a criterion that is not met. -/
theorem not_sound_failedRecord : ¬ ∀ (sha256 : Text → Text) (i : VerificationInput), SoundVerdict sha256 i := by
  intro h
  have hsound := (h id failedRecord).gate
  have hverdict : (DefaultVerifier.verify id failedRecord).verdict = .accept := by
    rw [verify_of_not_refused ⟨rfl, rfl⟩ (by rintro (h | h | h) <;> cases h)]
  have hgate : (ValidationGate.run failedRecord.atom failedRecord.artifacts).status = .fail := rfl
  rw [hgate] at hsound
  cases hsound hverdict

end Tna.Vad
