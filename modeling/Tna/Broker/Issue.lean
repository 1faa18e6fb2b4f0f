import Tna.Broker.Redeem

/-!
# Issuing a capability

`issue` has no await: it is one function of the store, the random values it draws
and which of its store steps go through. Its transaction is the only place that
adds a capability record.
-/

namespace Tna.Broker

open Tna.Js Tna.Gate Tna.Lib

/-- The random values of one call. -/
structure IssueRandom where
  /-- The execution ids of a first and a second `BLOCKED` event. -/
  blockedId : Text
  blockedAgainId : Text
  executionId : Text
  capabilityId : Text
  nonce : Text

/-- Which store steps of one call go through: the first and second `BLOCKED` event, the transaction. -/
structure IssueWrites where
  blocked : Bool
  blockedAgain : Bool
  stored : Bool

/-! ## The codec -/

/-- `validInput` of the codec. -/
def validCapabilityInput (i : CapabilityInput) : Bool :=
  validText i.capabilityId && validText i.executionId && validText i.agentId && validText i.decisionId &&
    validText i.action && validText i.tool && validText i.resource && validText i.operation && isHash i.inputHash &&
    i.destination.all validText && validText i.policyHash && validText i.policyIssuanceId

/-- `codec.issue`; `none` is a `CapabilityError`. -/
def CapabilityCodec.issue (codec : CapabilityCodec) (now : Nat) (i : CapabilityInput) (expiry : Option Nat)
    (nonce : Text) : Option (Text × CapabilityPayload) :=
  let maximum := now + codec.ttlSeconds * 1000
  let requested := expiry.getD maximum
  if !validCapabilityInput i || requested < now then none
  else
    let payload : CapabilityPayload := { i with issuedAt := now, expiresAt := min requested maximum, nonce := nonce }
    some (codec.sign payload, payload)

/-! ## The checks -/

def verdictName : VerdictDecision → Text
  | .allow => "ALLOW"
  | .block => "BLOCK"
  | .hold => "HOLD"

/-- `compatible`. -/
def compatible (o : BrokerOptions) (d : Decision) (tool : ToolDefinition) : Bool :=
  decide (tool.action = d.request.action) && decide (brokerOperation d.request.toAuthorizationRequest ∈ tool.allowedOperations) &&
    decide (d.request.destination.isSome = tool.networkRequired) && o.isToolCompatible.all fun f => f d tool

/-- `parseDecisionInput`. A failure lists the reasons blocked with: a mismatch is blocked
inside the `try` whose `catch` blocks again. -/
def parseDecisionInput (sha256 : Text → Text) (d : Decision) (tool : ToolDefinition) :
    Except (List Text) (Option ParsedToolInput) :=
  if tool.name = demoTool then
    match d.request.input, d.request.inputHash with
    | some input, some inputHash =>
      match parseAndHash sha256 input with
      | some parsed =>
        if parsed.inputHash = inputHash ∧ parsed.release = d.request.resource then .ok (some parsed)
        else .error ["Decision input hash or resource mismatch", "Decision tool input is invalid"]
      | none => .error ["Decision tool input is invalid"]
    | _, _ => .error ["Validated tool input is required"]
  else .ok none

/-- The checks of `issue`, with the reasons a failure is blocked with. -/
def issueChecks (b : ExecutionBroker) (g : GateState) (d : Decision) : Except (List Text) (Option ParsedToolInput) :=
  if d.decision ≠ .allow then .error [Text.ofAscii "Decision is " ++ verdictName d.decision]
  else if !notRevoked b.options g d.agentId then .error ["Agent is revoked"]
  else if !passes b.options.isDecisionCurrent g d then .error ["Decision is stale"]
  else if !passes b.options.isPolicyCurrent g d then .error ["Policy is stale"]
  else if !passes b.options.isAuthorityValid g d then .error ["Authority is no longer valid"]
  else
    match b.registry d.request.tool with
    | none => .error ["Tool is unregistered or incompatible"]
    | some tool =>
      if compatible b.options d tool then parseDecisionInput b.sha256 d tool
      else .error ["Tool is unregistered or incompatible"]

/-! ## The call -/

/-- What a call does: the store after it, the payload it signed, and its result. -/
structure IssueEffect where
  store : Store
  signed : Option CapabilityPayload
  result : Except Thrown (Text × CapabilityPayload)

/-- `block`: an event without a capability. -/
def Store.blockDecision (s : Store) (ok : Bool) (executionId : Text) (d : Decision) (reason : Text) : Store × Thrown :=
  if ok then
    (s.append ⟨executionId, s.gate.now, d.agentId, d.decisionId, "none", .blocked, reason, none⟩, .broker 403 reason)
  else (s, .other none)

/-- The reasons of a failed check, blocked in turn under an id each; the last error is thrown. -/
def Store.blockReasons (s : Store) (w : IssueWrites) (r : IssueRandom) (d : Decision) : List Text → Store × Thrown
  | [] => (s, .other none)
  | [reason] => s.blockDecision w.blocked r.blockedId d reason
  | reason :: again :: _ =>
    (s.blockDecision w.blocked r.blockedId d reason).1.blockDecision w.blockedAgain r.blockedAgainId d again

/-- The hash bound for a tool without a registered input, that of `null`. -/
def nullHash (sha256 : Text → Text) : Text := sha256 Value.null.canonical

def capabilityInput (sha256 : Text → Text) (r : IssueRandom) (d : Decision) (policy : Option DecisionPolicy)
    (parsed : Option ParsedToolInput) : CapabilityInput where
  capabilityId := r.capabilityId
  executionId := r.executionId
  agentId := d.agentId
  decisionId := d.decisionId
  action := d.request.action
  tool := d.request.tool
  resource := d.request.resource
  operation := brokerOperation d.request.toAuthorizationRequest
  inputHash := match parsed with
    | some parsed => parsed.inputHash
    | none => nullHash sha256
  destination := d.request.destination
  policyHash := d.policyHash.getD "none"
  policyIssuanceId := match policy with
    | some policy => policy.policyRevision
    | none => d.policyHash.getD "none"

/-- The records of an issued capability. -/
def Store.issued (s : Store) (token : Text) (p : CapabilityPayload) : Store :=
  let now := s.gate.now
  { s with
    capabilities := s.capabilities.insert p.capabilityId ⟨p, token, false⟩
    evidence := s.evidence ++ [transition now p .requested "Execution requested" none,
      transition now p .authorized "ALLOW decision verified" none,
      transition now p .capabilityIssued "Capability issued" none] }

/-- The transaction. -/
def issueTransaction (b : ExecutionBroker) (r : IssueRandom) (stored : Bool) (s : Store) (d : Decision)
    (parsed : Option ParsedToolInput) (decisionId : Text) : IssueEffect :=
  if s.capabilities.any fun record => record.capability.decisionId = decisionId then
    ⟨s, none, .error (.broker 409 "Capability already issued for decision")⟩
  else
    match b.codec.issue s.gate.now
        (capabilityInput b.sha256 r d (s.gate.decisionPolicies d.decisionId) parsed)
        (match b.options.earliestAuthorityExpiry with
          | some f => f s.gate d
          | none => none) r.nonce with
    | none => ⟨s, none, .error (.other none)⟩
    | some (token, payload) =>
      if stored then ⟨s.issued token payload, some payload, .ok (token, payload)⟩
      else ⟨s, some payload, .error (.other none)⟩

def issue (b : ExecutionBroker) (r : IssueRandom) (w : IssueWrites) (s : Store) (principal : Principal)
    (decisionId : Text) : IssueEffect :=
  match s.gate.decisions decisionId with
  | none => ⟨s, none, .error (.broker 404 "Decision not found")⟩
  | some d =>
    if !isOwner principal d.agentId then ⟨s, none, .error (.broker 403 "Access denied")⟩
    else
      match issueChecks b s.gate d with
      | .error reasons =>
        let blocked := s.blockReasons w r d reasons
        ⟨blocked.1, none, .error blocked.2⟩
      | .ok parsed => issueTransaction b r w.stored s d parsed decisionId

/-! ## What a call can do -/

/-- Two stores that differ in the evidence at most, and there by what was added. -/
def Store.Extends (s s' : Store) : Prop := ∃ events, s' = { s with evidence := s.evidence ++ events }

theorem Store.Extends.refl (s : Store) : s.Extends s := ⟨[], by simp⟩

variable {s : Store} {p : CapabilityPayload} {token decisionId : Text} {b : ExecutionBroker} {d : Decision}
  {parsed : Option ParsedToolInput} {r : IssueRandom}

theorem Store.Extends.trans {s' s'' : Store} (h : s.Extends s') (h' : s'.Extends s'') : s.Extends s'' := by
  obtain ⟨events, rfl⟩ := h
  obtain ⟨events', rfl⟩ := h'
  exact ⟨events ++ events', by simp⟩

theorem Store.extends_append (s : Store) (t : Transition) : s.Extends (s.append t) := ⟨[t], rfl⟩

theorem Store.extends_blockDecision (s : Store) (ok : Bool) (executionId : Text) (d : Decision) (reason : Text) :
    s.Extends (s.blockDecision ok executionId d reason).1 := by
  cases ok with
  | true => exact s.extends_append _
  | false => exact .refl s

theorem Store.extends_blockReasons (s : Store) (w : IssueWrites) (r : IssueRandom) (d : Decision)
    (reasons : List Text) : s.Extends (s.blockReasons w r d reasons).1 := by
  match reasons with
  | [] => exact .refl s
  | [reason] => exact s.extends_blockDecision ..
  | reason :: again :: _ => exact (s.extends_blockDecision ..).trans (Store.extends_blockDecision ..)

/-- What was signed carries the ids that were drawn and the decision it was signed for. -/
structure SignedFor (r : IssueRandom) (decisionId : Text) (p : CapabilityPayload) : Prop where
  capabilityId : p.capabilityId = r.capabilityId
  executionId : p.executionId = r.executionId
  decisionId : p.decisionId = decisionId

/-- The cases of `issue`. -/
inductive Issued (s : Store) (r : IssueRandom) (decisionId : Text) : IssueEffect → Prop where
  | refused {s' : Store} {e : Thrown} (h : s.Extends s') : Issued s r decisionId ⟨s', none, .error e⟩
  | rolledBack {p : CapabilityPayload} {e : Thrown} (hp : SignedFor r decisionId p) :
    Issued s r decisionId ⟨s, some p, .error e⟩
  | stored {p : CapabilityPayload} {token : Text} (hp : SignedFor r decisionId p)
    (hnew : ∀ id record, s.capabilities.lookup id = some record → record.capability.decisionId ≠ decisionId) :
    Issued s r decisionId ⟨s.issued token p, some p, .ok (token, p)⟩

theorem codec_issue_ok {codec : CapabilityCodec} {now : Nat} {i : CapabilityInput} {expiry : Option Nat} {nonce : Text}
    (h : codec.issue now i expiry nonce = some (token, p)) : token = codec.sign p ∧ p.toCapabilityInput = i := by
  simp only [CapabilityCodec.issue] at h
  split at h
  · cases h
  · cases h
    exact ⟨rfl, rfl⟩

theorem issued_of_transaction {stored : Bool} (hid : d.decisionId = decisionId) :
    Issued s r decisionId (issueTransaction b r stored s d parsed decisionId) := by
  unfold issueTransaction
  split
  · exact .refused (.refl s)
  · next hnew =>
    split
    · exact .refused (.refl s)
    · next token p hcodec =>
      have hinput := (codec_issue_ok hcodec).2
      have hp : SignedFor r decisionId p := by
        constructor <;> simp [hinput, capabilityInput, hid]
      split
      · refine .stored hp fun id record hlookup heq => hnew ?_
        exact Table.any_iff.2 ⟨id, record, hlookup, by simpa using heq⟩
      · exact .rolledBack hp

/-- **Inversion of `issue`.** -/
theorem issued_of_issue (b : ExecutionBroker) (r : IssueRandom) (w : IssueWrites) (s : Store) (principal : Principal)
    (decisionId : Text) : Issued s r decisionId (issue b r w s principal decisionId) := by
  unfold issue
  split
  · exact .refused (.refl s)
  · next d hd =>
    split
    · exact .refused (.refl s)
    · split
      · exact .refused (s.extends_blockReasons ..)
      · exact issued_of_transaction (s.gate.decisions_id _ _ hd)

theorem issueChecks_ok {g : GateState} (h : issueChecks b g d = .ok parsed) :
    ∃ tool, b.registry d.request.tool = some tool ∧ compatible b.options d tool = true ∧
      parseDecisionInput b.sha256 d tool = .ok parsed := by
  unfold issueChecks at h
  split_ifs at h
  split at h
  · cases h
  · next tool htool =>
    split at h
    · next hcompatible => exact ⟨tool, htool, hcompatible, h⟩
    · cases h

/-- **What an issued capability says**: it was signed for a decision of the Gate whose
tool is registered, with the input that tool was decided with. -/
theorem issue_ok {w : IssueWrites} {principal : Principal} (h : (issue b r w s principal decisionId).result = .ok (token, p)) :
    ∃ d tool parsed, s.gate.decisions decisionId = some d ∧ b.registry d.request.tool = some tool ∧
      parseDecisionInput b.sha256 d tool = .ok parsed ∧ token = b.codec.sign p ∧
      p.toCapabilityInput = capabilityInput b.sha256 r d (s.gate.decisionPolicies d.decisionId) parsed := by
  unfold issue at h
  split at h
  · cases h
  next d hd =>
  split at h
  · cases h
  split at h
  · cases h
  next parsed hchecks =>
  obtain ⟨tool, htool, -, hparsed⟩ := issueChecks_ok hchecks
  unfold issueTransaction at h
  split at h
  · cases h
  split at h
  · cases h
  next token' p' hcodec =>
  split at h
  · cases h
    obtain ⟨htoken, hinput⟩ := codec_issue_ok hcodec
    exact ⟨d, tool, parsed, hd, htool, hparsed, htoken, hinput⟩
  · cases h

theorem Issued.executions {e : IssueEffect} (h : Issued s r decisionId e) : e.store.executions = s.executions := by
  cases h with
  | refused hext =>
    obtain ⟨events, rfl⟩ := hext
    rfl
  | rolledBack _ => rfl
  | stored _ _ => rfl

end Tna.Broker
