import Tna.Broker.Checks
import Tna.Broker.Issue
import Tna.Gate.Narrowed

/-!
# The outcomes of issuing

A call of `issue` stores a capability, leaves one `BLOCKED` event, or changes
nothing. The one way out of these three is a reason blocked with inside the `try`
whose `catch` blocks again. The operation a capability is stored with is the
broker's own, made from the action alone.
-/

namespace Tna.Broker

open Tna.Js Tna.Gate Tna.Lib

/-! ## Three outcomes -/

/-- A capability and its three transitions are stored, and its token is returned. -/
def IssueEffect.Stores (e : IssueEffect) (s : Store) (decisionId : Text) : Prop :=
  ∃ token p, p.decisionId = decisionId ∧ e.store = s.issued token p ∧ e.result = .ok (token, p)

/-- One `BLOCKED` event for the decision is appended, nothing else changes, and a 403 is thrown. -/
def IssueEffect.Blocks (e : IssueEffect) (s : Store) (decisionId : Text) : Prop :=
  ∃ t reason, t.state = .blocked ∧ t.decisionId = decisionId ∧ t.reason = reason ∧ e.store = s.append t ∧
    e.result = .error (.broker 403 reason)

/-- The call throws and leaves the store as it was. -/
def IssueEffect.Refuses (e : IssueEffect) (s : Store) : Prop := e.store = s ∧ ∃ thrown, e.result = .error thrown

/-- One of three statements holds and the others do not. -/
def ExactlyOne (p q r : Prop) : Prop := (p ∧ ¬ q ∧ ¬ r) ∨ (¬ p ∧ q ∧ ¬ r) ∨ (¬ p ∧ ¬ q ∧ r)

/-- The call has exactly one of the three outcomes. -/
def IssueEffect.OneOutcome (e : IssueEffect) (s : Store) (decisionId : Text) : Prop :=
  ExactlyOne (e.Stores s decisionId) (e.Blocks s decisionId) (e.Refuses s)

theorem Store.append_ne (s : Store) (t : Transition) : s.append t ≠ s := by
  intro h
  have hlength := congrArg (fun s : Store => s.evidence.length) h
  simp [Store.append] at hlength

section
variable {e : IssueEffect} {s : Store} {decisionId : Text}

theorem IssueEffect.Stores.oneOutcome (h : e.Stores s decisionId) : e.OneOutcome s decisionId := by
  obtain ⟨token, p, -, -, hresult⟩ := id h
  refine .inl ⟨h, ?_, ?_⟩
  · rintro ⟨t, reason, -, -, -, -, hthrown⟩
    rw [hresult] at hthrown
    cases hthrown
  · rintro ⟨-, thrown, hthrown⟩
    rw [hresult] at hthrown
    cases hthrown

theorem IssueEffect.Blocks.oneOutcome (h : e.Blocks s decisionId) : e.OneOutcome s decisionId := by
  obtain ⟨t, reason, -, -, -, hstore, hresult⟩ := id h
  refine .inr (.inl ⟨?_, h, ?_⟩)
  · rintro ⟨token, p, -, -, hok⟩
    rw [hresult] at hok
    cases hok
  · rintro ⟨hsame, -⟩
    exact s.append_ne t (hstore.symm.trans hsame)

theorem IssueEffect.Refuses.oneOutcome (h : e.Refuses s) : e.OneOutcome s decisionId := by
  obtain ⟨hsame, thrown, hresult⟩ := id h
  refine .inr (.inr ⟨?_, ?_, h⟩)
  · rintro ⟨token, p, -, -, hok⟩
    rw [hresult] at hok
    cases hok
  · rintro ⟨t, reason, -, -, -, hstore, -⟩
    exact s.append_ne t (hstore.symm.trans hsame)

end

/-! ## The input of a decision -/

/-- Every check before the input lets the decision through to a registered tool. -/
structure Reaches (b : ExecutionBroker) (g : GateState) (principal : Principal) (d : Decision)
    (tool : ToolDefinition) : Prop where
  owner : isOwner principal d.agentId = true
  allowed : d.decision = .allow
  active : notRevoked b.options g d.agentId = true
  decisionCurrent : passes b.options.isDecisionCurrent g d = true
  policyCurrent : passes b.options.isPolicyCurrent g d = true
  authorityValid : passes b.options.isAuthorityValid g d = true
  registered : b.registry d.request.tool = some tool
  compatible : compatible b.options d tool = true

/-- The decision carries an input that its tool accepts, but with the hash of another
input, or for a release that is not the resource decided on. -/
structure Mismatched (sha256 : Text → Text) (d : Decision) (tool : ToolDefinition) : Prop where
  registered : tool.name = demoTool
  mismatch : ∃ input inputHash parsed, d.request.input = some input ∧ d.request.inputHash = some inputHash ∧
    parseAndHash sha256 input = some parsed ∧ ¬ (parsed.inputHash = inputHash ∧ parsed.release = d.request.resource)

variable {d : Decision} {sha256 : Text → Text} {tool : ToolDefinition} {decisionId : Text} {b : ExecutionBroker}
  {principal : Principal} {r : IssueRandom} {s : Store} {w : IssueWrites}

/-- A mismatch is the one failure with two reasons to block with. -/
theorem parseDecisionInput_error {reasons : List Text} (h : parseDecisionInput sha256 d tool = .error reasons) :
    (∃ reason, reasons = [reason]) ∨ Mismatched sha256 d tool := by
  unfold parseDecisionInput at h
  split at h
  · next hname =>
    split at h
    · next input inputHash hinput hhash =>
      split at h
      · next parsed hparsed =>
        split at h
        · cases h
        · next hne => exact .inr ⟨hname, input, inputHash, parsed, hinput, hhash, hparsed, hne⟩
      · cases h
        exact .inl ⟨_, rfl⟩
    · cases h
      exact .inl ⟨_, rfl⟩
  · cases h

theorem Mismatched.parse (h : Mismatched sha256 d tool) :
    parseDecisionInput sha256 d tool =
      .error ["Decision input hash or resource mismatch", "Decision tool input is invalid"] := by
  obtain ⟨hname, input, inputHash, parsed, hinput, hhash, hparsed, hne⟩ := h
  unfold parseDecisionInput
  rw [if_pos hname, hinput, hhash]
  simp only
  rw [hparsed]
  simp only
  rw [if_neg hne]

section
variable {b : ExecutionBroker} {g : GateState} {principal : Principal} {d : Decision}

/-- A failed check has one reason, unless the input is mismatched. -/
theorem issueChecks_error {reasons : List Text} (howner : isOwner principal d.agentId = true)
    (h : issueChecks b g d = .error reasons) :
    (∃ reason, reasons = [reason]) ∨ ∃ tool, Reaches b g principal d tool ∧ Mismatched b.sha256 d tool := by
  unfold issueChecks at h
  split at h
  · cases h
    exact .inl ⟨_, rfl⟩
  next hallowed =>
  split at h
  · cases h
    exact .inl ⟨_, rfl⟩
  next hactive =>
  split at h
  · cases h
    exact .inl ⟨_, rfl⟩
  next hdecision =>
  split at h
  · cases h
    exact .inl ⟨_, rfl⟩
  next hpolicy =>
  split at h
  · cases h
    exact .inl ⟨_, rfl⟩
  next hauthority =>
  split at h
  · cases h
    exact .inl ⟨_, rfl⟩
  next tool htool =>
  split at h
  · next hcompatible =>
    rcases parseDecisionInput_error h with hone | hmismatch
    · exact .inl hone
    · simp only [Bool.not_eq_true', Bool.not_eq_false] at hactive hdecision hpolicy hauthority
      exact .inr ⟨tool, ⟨howner, not_not.1 hallowed, hactive, hdecision, hpolicy, hauthority, htool, hcompatible⟩,
        hmismatch⟩
  · cases h
    exact .inl ⟨_, rfl⟩

theorem Reaches.checks {tool : ToolDefinition} (h : Reaches b g principal d tool) :
    issueChecks b g d = parseDecisionInput b.sha256 d tool := by
  unfold issueChecks
  rw [if_neg (not_not_intro h.allowed), if_neg (by simp [h.active]), if_neg (by simp [h.decisionCurrent]),
    if_neg (by simp [h.policyCurrent]), if_neg (by simp [h.authorityValid]), h.registered]
  simp only
  rw [if_pos h.compatible]

end

/-! ## Exactly one outcome -/

/-- The first `BLOCKED` event of a mismatched input is written. -/
def BlocksTwice (b : ExecutionBroker) (w : IssueWrites) (s : Store) (principal : Principal) (decisionId : Text) : Prop :=
  w.blocked = true ∧ ∃ d tool, s.gate.decisions decisionId = some d ∧ Reaches b s.gate principal d tool ∧
    Mismatched b.sha256 d tool

/-- A block whose event is written is a 403; one whose event is not changes nothing. -/
theorem blockDecision_oneOutcome (s : Store) (ok : Bool) (executionId : Text) (reason : Text) (hid : d.decisionId = decisionId)
    {e : IssueEffect} (hstore : e.store = (s.blockDecision ok executionId d reason).1)
    (hresult : e.result = .error (s.blockDecision ok executionId d reason).2) : e.OneOutcome s decisionId := by
  cases ok with
  | true => exact IssueEffect.Blocks.oneOutcome ⟨_, reason, rfl, hid, rfl, hstore, hresult⟩
  | false => exact IssueEffect.Refuses.oneOutcome ⟨hstore, _, hresult⟩

/-- The transaction stores a capability or changes nothing. -/
theorem issueTransaction_oneOutcome (b : ExecutionBroker) (r : IssueRandom) (stored : Bool) (s : Store)
    (parsed : Option ParsedToolInput) (hid : d.decisionId = decisionId) :
    (issueTransaction b r stored s d parsed decisionId).OneOutcome s decisionId := by
  unfold issueTransaction
  split
  · exact IssueEffect.Refuses.oneOutcome ⟨rfl, _, rfl⟩
  split
  · exact IssueEffect.Refuses.oneOutcome ⟨rfl, _, rfl⟩
  next token p hcodec =>
  split
  · have hp : p.decisionId = decisionId := by
      rw [(codec_issue_ok hcodec).2]
      exact hid
    exact IssueEffect.Stores.oneOutcome ⟨token, p, hp, rfl, rfl⟩
  · exact IssueEffect.Refuses.oneOutcome ⟨rfl, _, rfl⟩

/-- Two blocks after the first of which an event is written end in none of the three outcomes. -/
theorem not_oneOutcome_blockedTwice (h : BlocksTwice b w s principal decisionId) :
    ¬ (issue b r w s principal decisionId).OneOutcome s decisionId := by
  obtain ⟨hwritten, d, tool, hd, hreach, hmismatch⟩ := h
  have hissue : issue b r w s principal decisionId =
      let blocked := s.blockReasons w r d ["Decision input hash or resource mismatch", "Decision tool input is invalid"]
      ⟨blocked.1, none, .error blocked.2⟩ := by
    unfold issue
    rw [hd]
    simp only
    rw [if_neg (by simp [hreach.owner]), hreach.checks, hmismatch.parse]
  obtain ⟨first, hfirst⟩ : ∃ first,
      (s.blockDecision w.blocked r.blockedId d "Decision input hash or resource mismatch").1 = s.append first := by
    rw [hwritten]
    exact ⟨_, rfl⟩
  rw [hissue]
  simp only [Store.blockReasons, hfirst]
  rintro (⟨⟨token, p, -, -, hok⟩, -, -⟩ | ⟨-, ⟨t, reason, -, -, -, hstore, hresult⟩, -⟩ | ⟨-, -, hsame, -⟩)
  · cases hok
  · cases hagain : w.blockedAgain with
    | true =>
      rw [hagain] at hstore
      have hlength := congrArg (fun s : Store => s.evidence.length) hstore
      simp [Store.blockDecision, Store.append] at hlength
    | false =>
      rw [hagain] at hresult
      cases hresult
  · have hlength := congrArg (fun s : Store => s.evidence.length) hsame
    cases hagain : w.blockedAgain <;> simp [hagain, Store.blockDecision, Store.append] at hlength

/-- **One outcome, or a mismatched input.** A call of `issue` stores one capability, blocks
once with a 403, or changes nothing, exactly when it is not blocked with a mismatch whose
event is written: that one is blocked again. -/
theorem oneOutcome_iff (b : ExecutionBroker) (r : IssueRandom) (w : IssueWrites) (s : Store) (principal : Principal)
    (decisionId : Text) :
    (issue b r w s principal decisionId).OneOutcome s decisionId ↔ ¬ BlocksTwice b w s principal decisionId := by
  constructor
  · exact fun hone htwice => not_oneOutcome_blockedTwice htwice hone
  intro hnot
  unfold issue
  split
  · exact IssueEffect.Refuses.oneOutcome ⟨rfl, _, rfl⟩
  next d hd =>
  have hid := s.gate.decisions_id _ _ hd
  split
  · exact IssueEffect.Refuses.oneOutcome ⟨rfl, _, rfl⟩
  next howner =>
  split
  · next reasons hchecks =>
    rcases issueChecks_error (by simpa using howner) hchecks with ⟨reason, rfl⟩ | ⟨tool, hreach, hmismatch⟩
    · exact blockDecision_oneOutcome s _ _ reason hid rfl rfl
    · have hunwritten : w.blocked = false := by
        by_contra hwritten
        exact hnot ⟨by simpa using hwritten, d, tool, hd, hreach, hmismatch⟩
      rw [hreach.checks, hmismatch.parse] at hchecks
      cases hchecks
      -- the first block throws before it writes, and the second starts from the same store
      exact blockDecision_oneOutcome s w.blockedAgain r.blockedAgainId "Decision tool input is invalid" hid
        (by simp only [Store.blockReasons, hunwritten]; rfl) (by simp only [Store.blockReasons, hunwritten]; rfl)
  · exact issueTransaction_oneOutcome b r _ s _ hid

/-! ## Which operation is stored -/

/-- The word of an operation in an envelope. -/
def operationName : Operation → Text
  | .read => "read"
  | .write => "write"
  | .access => "access"
  | .communicate => "communicate"

/-- The operation the broker takes an action for. -/
def actionOperation (action : Text) : Operation := if action = Text.ofAscii "production.deploy" then .write else .read

theorem brokerOperation_eq (request : AuthorizationRequest) :
    brokerOperation request = operationName (actionOperation request.action) := by
  unfold brokerOperation actionOperation
  split <;> rfl

theorem operationName_injective : Function.Injective operationName := by
  intro o o' h
  cases o <;> cases o' <;> first | rfl | exact absurd h (by decide)

/-- The envelope binding a request was allowed under, and what its capability carries. -/
structure Carries (envelope : Envelope) (context : PolicyContext) (request : AuthorizationRequest)
    (p : CapabilityPayload) (binding : ActionBinding) : Prop where
  bound : envelope.actionBindings.find? (fun b => b.action = request.action) = some binding
  checked : resourceVerdict request envelope context binding = none
  action : p.action = request.action
  tool : p.tool = request.tool
  resource : p.resource = request.resource
  destination : p.destination = request.destination

/-- What a stored capability says, and where it is stored. -/
theorem issued_carries {envelope : Envelope} {context : PolicyContext} {token : Text} {p : CapabilityPayload}
    (hd : s.gate.decisions decisionId = some d)
    (hallow : (evaluate d.request.toAuthorizationRequest (some envelope) context).decision = .allow)
    (h : (issue b r w s principal decisionId).result = .ok (token, p)) :
    (issue b r w s principal decisionId).store.capabilities.lookup p.capabilityId = some ⟨p, token, false⟩ ∧
      p.operation = brokerOperation d.request.toAuthorizationRequest ∧
      ∃ binding, Carries envelope context d.request.toAuthorizationRequest p binding := by
  refine ⟨?_, ?_⟩
  · have hissued := issued_of_issue b r w s principal decisionId
    generalize issue b r w s principal decisionId = e at h hissued ⊢
    cases hissued with
    | refused _ => cases h
    | rolledBack _ => cases h
    | stored _ _ =>
      cases h
      exact AList.lookup_insert _
  · obtain ⟨d', tool, parsed, hd', -, -, -, hp⟩ := issue_ok h
    cases hd.symm.trans hd'
    obtain ⟨binding, hbound, -, hchecked, -⟩ := evaluate_allow hallow
    exact ⟨by rw [hp]; rfl, binding, hbound, hchecked, by rw [hp]; rfl, by rw [hp]; rfl, by rw [hp]; rfl, by rw [hp]; rfl⟩

/-- **The operation of a capability is the broker's.** What is stored for a decision the
policy engine allows carries the action, tool, resource and destination that were
decided on. Its operation is that of the action, `write` for a production deployment
and `read` for anything else: that of the binding exactly when the two agree. -/
theorem issued_operation {envelope : Envelope} {context : PolicyContext} {b : ExecutionBroker} {r : IssueRandom}
    {w : IssueWrites} {s : Store} {principal : Principal} {decisionId token : Text} {d : Decision}
    {p : CapabilityPayload} (hd : s.gate.decisions decisionId = some d)
    (hallow : (evaluate d.request.toAuthorizationRequest (some envelope) context).decision = .allow)
    (h : (issue b r w s principal decisionId).result = .ok (token, p)) :
    (issue b r w s principal decisionId).store.capabilities.lookup p.capabilityId = some ⟨p, token, false⟩ ∧
      p.operation = operationName (actionOperation d.request.action) ∧
      ∃ binding, Carries envelope context d.request.toAuthorizationRequest p binding ∧
        (p.operation = operationName binding.operation ↔ binding.operation = actionOperation d.request.action) := by
  obtain ⟨hstored, hoperation, binding, hcarries⟩ := issued_carries hd hallow h
  rw [brokerOperation_eq] at hoperation
  refine ⟨hstored, hoperation, binding, hcarries, ?_⟩
  rw [hoperation]
  exact ⟨fun heq => (operationName_injective heq).symm, fun heq => congrArg operationName heq.symm⟩

/-! ## Samples -/

/-- A decision allowed for a request. -/
def allowedDecision (request : StoredRequest) : Decision where
  decisionId := "dec_1"
  agentId := "agent_1"
  decision := .allow
  policyHash := some "p"
  request := request

/-- The sample store with one decision of one's own. -/
def decisionStore (request : StoredRequest) : Store :=
  { sampleStore with
    gate :=
      { sampleStore.gate with
        decisions := fun id => if id = Text.ofAscii "dec_1" then some (allowedDecision request) else none
        decisions_id := by
          intro id d h
          split at h
          · next hid =>
            cases h
            exact hid.symm
          · cases h }
    capabilities := ∅ }

/-- The tool of the sample write, as a connector declares it. -/
def editTool : ToolDefinition := ⟨"edit", "file.write", "file", ["read"], false, [], true, none⟩

def sampleRandom : IssueRandom := ⟨"b1", "b2", "e1", "c1", "n"⟩

def allWrites : IssueWrites := ⟨true, true, true⟩

/-- Writing a file yields a capability. -/
theorem issue_write : ∃ token p,
    (issue (sampleBroker editTool) sampleRandom allWrites (decisionStore { writeRequest with input := none, inputHash := none })
      .admin "dec_1").result = .ok (token, p) := by
  have h : (issue (sampleBroker editTool) sampleRandom allWrites
      (decisionStore { writeRequest with input := none, inputHash := none }) .admin "dec_1").result.isOk = true := by
    decide +kernel
  cases hresult : (issue (sampleBroker editTool) sampleRandom allWrites
      (decisionStore { writeRequest with input := none, inputHash := none }) .admin "dec_1").result with
  | ok result => exact ⟨result.1, result.2, rfl⟩
  | error e =>
    rw [hresult] at h
    cases h

theorem write_allowed : (evaluate writeRequest (some (writeEnvelope 9000 [])) ⟨5000, false, emptyUsage, true, []⟩).decision =
    .allow := by
  decide +kernel

theorem issued_operation_write : ∃ token p,
    (issue (sampleBroker editTool) sampleRandom allWrites (decisionStore { writeRequest with input := none, inputHash := none })
      .admin "dec_1").result = .ok (token, p) ∧ p.operation = operationName (actionOperation writeRequest.action) := by
  obtain ⟨token, p, hp⟩ := issue_write
  exact ⟨token, p, hp, (issued_operation (d := allowedDecision { writeRequest with input := none, inputHash := none })
    rfl write_allowed hp).2.1⟩

/-- The file was to be written to, and the capability says `read`. -/
theorem issued_write_reads :
    ¬ ∀ (envelope : Envelope) (context : PolicyContext) (b : ExecutionBroker) (r : IssueRandom) (w : IssueWrites)
      (s : Store) (principal : Principal) (decisionId token : Text) (d : Decision) (p : CapabilityPayload),
      s.gate.decisions decisionId = some d →
      (evaluate d.request.toAuthorizationRequest (some envelope) context).decision = .allow →
      (issue b r w s principal decisionId).result = .ok (token, p) →
      ∃ binding, Carries envelope context d.request.toAuthorizationRequest p binding ∧
        p.operation = operationName binding.operation := by
  intro h
  obtain ⟨token, p, hp⟩ := issue_write
  obtain ⟨binding, hcarries, hoperation⟩ := h _ ⟨5000, false, emptyUsage, true, []⟩ _ _ _ _ _ _ _ _ _ rfl write_allowed hp
  have hbinding := hcarries.bound
  cases hbinding
  obtain ⟨d, tool, parsed, hd, -, -, -, hinput⟩ := issue_ok hp
  cases hd
  rw [hinput] at hoperation
  have hread : brokerOperation writeRequest = operationName .write := hoperation
  exact absurd hread (by decide)

/-! ### A mismatched input -/

/-- A deployment of another release than the resource it was decided for. -/
def mismatchedRequest : StoredRequest where
  agentId := "agent_1"
  action := "production.deploy"
  tool := "demo.deploy.execute"
  resource := "prod.deploy.web"
  destination := none
  estimatedCost := 0
  approvalId := none
  agentId_id := isId_agent
  action_id := by decide
  tool_id := by decide
  resource_label := by decide
  input := some ⟨.obj [("release", .str "release-1"), ("environment", .str "demo-production")], by decide⟩
  inputHash := some (List.replicate 64 (unit 'a'))

def demoDeployTool : ToolDefinition :=
  ⟨"demo.deploy.execute", "production.deploy", "infrastructure", ["write"], false, [], true, none⟩

/-- Two `BLOCKED` events stand for one decision. -/
theorem oneOutcome_mismatched :
    ¬ ∀ (b : ExecutionBroker) (r : IssueRandom) (w : IssueWrites) (s : Store) (principal : Principal) (decisionId : Text),
      (issue b r w s principal decisionId).OneOutcome s decisionId := by
  intro h
  refine not_oneOutcome_blockedTwice (r := sampleRandom) ?_ (h (sampleBroker demoDeployTool) sampleRandom allWrites
    (decisionStore mismatchedRequest) .admin "dec_1")
  refine ⟨rfl, allowedDecision mismatchedRequest, demoDeployTool, rfl, ⟨rfl, rfl, rfl, rfl, rfl, rfl, rfl, rfl⟩, rfl, ?_⟩
  have hparsed : (parseAndHash (sampleBroker demoDeployTool).sha256
      ⟨.obj [("release", .str "release-1"), ("environment", .str "demo-production")], by decide⟩).any
      (fun parsed => parsed.release ≠ Text.ofAscii "prod.deploy.web") = true := by
    decide +kernel
  obtain ⟨parsed, hsome, hrelease⟩ := (Option.any_eq_true ..).1 hparsed
  exact ⟨_, _, parsed, rfl, rfl, hsome, fun hboth => of_decide_eq_true hrelease hboth.2⟩

end Tna.Broker
