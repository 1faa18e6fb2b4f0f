import Tna.Broker.Redeem
import Tna.Lib.Transition

/-!
# One call among others

A call of `redeem` runs on piece by piece; while it has yielded, the rest of the
process may change the store. What it may change is the caller's to say.
-/

namespace Tna.Broker

open Tna.Js Tna.Gate Tna.Lib

/-- Who took a step, and what the call wrote to the evidence in it. -/
inductive CallLabel where
  | own (a : Answer) (written : List Transition)
  | env

def CallLabel.written : CallLabel → List Transition
  | .own _ written => written
  | .env => []

/-- What a piece of the call adds to the evidence. -/
def Effect.written (e : Effect) (s : Store) : List Transition := e.store.evidence.drop s.evidence.length

/-- The rest of the process runs only while the call has yielded. -/
def WhileAwaiting (env : Pc → Store → Store → Prop) (pc : Pc) (s s' : Store) : Prop :=
  pc.isAwait = true ∧ env pc s s'

/-- A step of the call, or one of the rest of the system. -/
inductive CallStep (b : ExecutionBroker) (env : Pc → Store → Store → Prop) :
    Store × Pc → CallLabel → Store × Pc → Prop where
  | own {s : Store} {pc : Pc} {a : Answer} {e : Effect} (h : redeemStep b s pc a = some e) :
    CallStep b env (s, pc) (.own a (e.written s)) (e.store, e.pc)
  | env {s s' : Store} {pc : Pc} (henv : env pc s s') :
    CallStep b env (s, pc) .env (s', pc)

/-- The verified call at a counter from the checks to the answer of the handler or the runner. -/
def Pc.call? : Pc → Option RedeemCall
  | .consuming c => some c
  | .leasing c => some c
  | .preparing c _ => some c
  | .makingWorkspace c .. => some c
  | .running c .. => some c
  | .handling c _ => some c
  | _ => none

/-- A call that has the process to itself, given the answers it gets. -/
def replayCall (b : ExecutionBroker) : Store × Pc → List Answer → Option (Store × Pc) :=
  replay fun x a => (redeemStep b x.1 x.2 a).map fun e => (e.store, e.pc)

section
variable {b : ExecutionBroker} {env : Pc → Store → Store → Prop}

/-- A call that has the process to itself takes steps of its own. -/
theorem callStep_of_next (x : Store × Pc) (a : Answer) (y : Store × Pc)
    (h : ((redeemStep b x.1 x.2 a).map fun e => (e.store, e.pc)) = some y) : ∃ l, CallStep b env x l y := by
  obtain ⟨e, he, rfl⟩ := Option.map_eq_some_iff.1 h
  exact ⟨_, .own he⟩

/-- What a test says of a replayed call it says of the end of a run. -/
theorem callRun_of_test (b : ExecutionBroker) (env : Pc → Store → Store → Prop) (x : Store × Pc) (as : List Answer)
    (test : Store × Pc → Bool) (h : (replayCall b x as).any test = true) :
    ∃ labels y, Run (CallStep b env) x labels y ∧ test y = true := by
  obtain ⟨y, hrun, htest⟩ := run_of_test h
  obtain ⟨labels, hrun⟩ := hrun.relabel (CallStep b env) callStep_of_next
  exact ⟨labels, y, hrun, htest⟩

/-! ## The synchronous beginning -/

/-- **What a call that reaches its transaction has passed.** -/
structure Passed (b : ExecutionBroker) (g : GateState) (principal : Principal) (i : RedeemInput) (c : RedeemCall) :
    Prop where
  valid : validateInput i = true
  verified : b.codec.verify g.now i.token = some c.payload
  owner : isOwner principal c.payload.agentId = true
  registered : b.registry i.tool = some c.tool
  bound : binds c.payload i c.tool = true
  parsed : parseRedeemInput b.sha256 i c.tool c.payload.inputHash = some c.parsedInput
  decided : g.decisions c.payload.decisionId = some c.decision
  unblocked : redeemBlock b.options g c = none
  inputHash : c.inputHash = i.inputHash

variable {c c' : RedeemCall} {p : CapabilityPayload} {pc : Pc} {leases : List Text} {ok : Bool} {s s' : Store} {a : Answer}
  {e : Effect}

theorem redeemPrecheck_pass {g : GateState} {principal : Principal} {i : RedeemInput}
    (h : redeemPrecheck b g principal i = .pass c) : Passed b g principal i c := by
  unfold redeemPrecheck at h
  split at h
  · cases h
  next hvalid =>
    split at h
    · cases h
    next p hp =>
      split at h
      · cases h
      next howner =>
        split at h
        · cases h
        next tool htool =>
          split at h
          · cases h
          next hbinds =>
            split at h
            · cases h
            next parsed hparsed =>
              split at h
              · cases h
              next d hd =>
                simp only at h
                split at h
                · cases h
                next hblock =>
                  split at h
                  · cases h
                  · cases h
                    exact ⟨by simpa using hvalid, hp, by simpa using howner, htool, by simpa using hbinds, hparsed, hd,
                      hblock, rfl⟩

theorem openToken_of_verify {codec : CapabilityCodec} {now : Nat} {token : Text} (h : codec.verify now token = some p) :
    codec.openToken token = some p := by
  unfold CapabilityCodec.verify at h
  split at h
  · next q hq =>
    split at h
    · cases h
      exact hq
    · cases h
  · cases h

/-! ## The end of a call -/

/-- The call is past the handler and the runner, or will never call them. -/
def Pc.ends : Pc → Bool
  | .finishing .. | .settling .. | .releasing .. | .done .. => true
  | _ => false

@[simp] theorem finallyPc_ends (leases : List Text) (o : Outcome) : (finallyPc leases o).ends = true := by
  unfold finallyPc
  split <;> rfl

@[simp] theorem catchPc_ends (c : RedeemCall) (leases : List Text) (completed : Bool) (e : Thrown) :
    (catchPc c leases completed e).ends = true := by
  unfold catchPc
  split
  · exact finallyPc_ends _ _
  · split <;> rfl

@[simp] theorem afterFinish_ends (c : RedeemCall) (leases : List Text) (f : Finish) :
    (afterFinish c leases f).ends = true := by
  unfold afterFinish
  split
  · exact finallyPc_ends _ _
  · exact catchPc_ends _ _ _ _

theorem call?_of_ends (h : pc.ends = true) : pc.call? = none := by
  cases pc <;> first | rfl | cases h

/-- The call a counter at the end writes for. -/
def Pc.writer? : Pc → Option RedeemCall
  | .finishing c .. => some c
  | .settling c .. => some c
  | _ => none

@[simp] theorem finallyPc_writer? (leases : List Text) (o : Outcome) : (finallyPc leases o).writer? = none := by
  unfold finallyPc
  split <;> rfl

theorem catchPc_writer? {completed : Bool} {e : Thrown} (h : (catchPc c leases completed e).writer? = some c') : c = c' := by
  unfold catchPc at h
  split at h
  · rw [finallyPc_writer?] at h
    cases h
  · split at h <;> exact Option.some.inj h

theorem afterFinish_writer? {f : Finish} (h : (afterFinish c leases f).writer? = some c') : c = c' := by
  unfold afterFinish at h
  split at h
  · rw [finallyPc_writer?] at h
    cases h
  · exact catchPc_writer? h

/-- The call whose capability has been consumed, while it is not over. -/
def Pc.held? : Pc → Option RedeemCall
  | .leasing c => some c
  | .preparing c _ => some c
  | .makingWorkspace c .. => some c
  | .running c .. => some c
  | .handling c _ => some c
  | .finishing c .. => some c
  | .settling c .. => some c
  | _ => none

theorem held?_of_writer? (h : pc.writer? = some c) : pc.held? = some c := by
  cases pc <;> first | exact h | cases h

theorem writer?_of_ends (h : pc.ends = true) : pc.held? = pc.writer? := by
  cases pc <;> first | rfl | cases h

/-! ## Consumption -/

/-- **What consuming does**: the record was there and not consumed, now it is, and
the execution says `STARTED`. -/
theorem consume_ok (h : s.consume ok p = .ok s') :
    ∃ record, s.capabilities.lookup p.capabilityId = some record ∧ record.consumed = false ∧
      s' = { s with capabilities := s.capabilities.insert p.capabilityId { record with consumed := true } }.record p
        .started "Capability consumed; handler invocation authorized" none none := by
  unfold Store.consume at h
  split at h
  · next record hr =>
    split at h
    · cases h
    · next hc =>
      split at h
      · cases h
        exact ⟨record, hr, by simpa using hc, rfl⟩
      · cases h
  · cases h

theorem record_lookup (s : Store) (p : CapabilityPayload) (state : ExecutionState) (reason : Text)
    (resultHash : Option Text) (isolation : Option IsolationEvidence) :
    (s.record p state reason resultHash isolation).executions.lookup p.executionId =
      some (summary s.gate.now p state reason resultHash isolation) :=
  AList.lookup_insert _

/-! ## The way to the invocation -/

/-- A piece that brings a verified call to a counter from the checks to the answer. -/
inductive Advance (b : ExecutionBroker) (c : RedeemCall) (s : Store) : Pc → Effect → Prop where
  | checked {principal : Principal} {input : RedeemInput} (h : Passed b s.gate principal input c) :
    Advance b c s (.start principal input) (.quiet s (.consuming c))
  | consumed {ok : Bool} {s' : Store} (h : s.consume ok c.payload = .ok s') :
    Advance b c s (.consuming c)
      (.quiet s' (if c.tool.credentialsRequired = [] then .preparing c [] else .leasing c))
  | leased {names : List Text} (h : leaseBlock b.options s.gate c names = none) :
    Advance b c s (.leasing c) (.quiet s (.preparing c names))
  | requested {leases : List Text} {adapter : IsolatedToolAdapter} {w : Text} (h : c.tool.isolated = some adapter) :
    Advance b c s (.preparing c leases) (.quiet s (.makingWorkspace c leases adapter w))
  | handled {leases : List Text} (h : c.tool.isolated = none) :
    Advance b c s (.preparing c leases) ⟨s, .handling c leases, some c.invocation⟩
  | ran {leases : List Text} {adapter : IsolatedToolAdapter} {w : Text} :
    Advance b c s (.makingWorkspace c leases adapter w) ⟨s, .running c leases adapter w, some c.invocation⟩

/-- What a piece that leads to the end of a call does to the store. -/
inductive EndWrite (s : Store) (pc : Pc) : Store → Prop where
  | nothing : EndWrite s pc s
  | blocked (p : CapabilityPayload) (reason : Text) :
    EndWrite s pc (s.append (transition s.gate.now p .blocked reason none))
  | recorded {c : RedeemCall} (h : pc.writer? = some c) (state : ExecutionState) (reason : Text)
    (resultHash : Option Text) (isolation : Option IsolationEvidence) :
    EndWrite s pc (s.record c.payload state reason resultHash isolation)

theorem endWrite_block (s : Store) (pc : Pc) (ok : Bool) (p : CapabilityPayload) (reason : Text) :
    EndWrite s pc (s.block ok p reason).1 := by
  cases ok with
  | true => exact .blocked p reason
  | false => exact .nothing

theorem endWrite_finish {state : ExecutionState} {reason : Text} {resultHash : Option Text}
    {isolation : Option IsolationEvidence} (hc : pc.writer? = some c)
    (h : s.finish ok c.payload state reason resultHash isolation = some s') : EndWrite s pc s' := by
  cases ok with
  | true =>
    cases h
    exact .recorded hc ..
  | false => cases h

/-- What a piece of the procedure can do: advance to the invocation, or lead to the end
of the call that is held. -/
inductive Piece (b : ExecutionBroker) (s : Store) (pc : Pc) : Effect → Prop where
  | advance {c : RedeemCall} {e : Effect} (h : Advance b c s pc e) : Piece b s pc e
  | ends {s' : Store} {pc' : Pc} (hpc : pc'.ends = true) (hheld : ∀ c, pc'.writer? = some c → pc.held? = some c)
    (hs : EndWrite s pc s') : Piece b s pc (.quiet s' pc')

section
variable {s s' : Store} {pc : Pc} {c : RedeemCall} {leases : List Text}

variable {o : Outcome}

theorem Piece.of_done (hs : EndWrite s pc s') : Piece b s pc (.quiet s' (.done o)) :=
  .ends rfl (fun _ h => by cases h) hs

theorem Piece.of_finally (hs : EndWrite s pc s') : Piece b s pc (.quiet s' (finallyPc leases o)) :=
  .ends (finallyPc_ends ..) (fun _ h => by rw [finallyPc_writer?] at h; cases h) hs

theorem Piece.of_catch {completed : Bool} {e : Thrown} (hheld : pc.held? = some c) (hs : EndWrite s pc s') :
    Piece b s pc (.quiet s' (catchPc c leases completed e)) :=
  .ends (catchPc_ends ..) (fun _ h => catchPc_writer? h ▸ hheld) hs

end

/-- **Inversion of a piece of `redeem`.** -/
theorem piece_of_step (h : redeemStep b s pc a = some e) : Piece b s pc e := by
  unfold redeemStep at h
  split at h
  -- the synchronous beginning
  · split at h
    · cases h
      exact .of_done .nothing
    · next p reason _ =>
      cases h
      exact .of_done (endWrite_block s _ _ p reason)
    · next hpass =>
      cases h
      exact .advance (.checked (redeemPrecheck_pass hpass))
  -- consumption
  · split at h
    · cases h
      exact .of_done .nothing
    · next hs =>
      cases h
      exact .advance (.consumed hs)
  -- the leases
  · split at h
    · next reason _ =>
      cases h
      exact .of_catch rfl (endWrite_block s _ _ _ reason)
    · next hb =>
      cases h
      exact .advance (.leased hb)
  · cases h
    exact .of_catch rfl .nothing
  -- the request for the runner, or the call of the handler
  · split at h
    · next adapter hadapter =>
      cases h
      exact .advance (.requested hadapter)
    · cases h
  · split at h
    · cases h
      exact .of_catch rfl .nothing
    · cases h
  · split at h
    · cases h
    · next hnone =>
      split at h
      · cases h
        exact .advance (.handled hnone)
      · cases h
        exact .of_catch rfl .nothing
  -- the workspace
  · cases h
    exact .advance .ran
  · cases h
    exact .of_catch rfl .nothing
  -- the answers of the runner and of the handler
  · cases h
    exact .ends rfl (fun _ h => h) .nothing
  · cases h
    exact .of_catch rfl .nothing
  · cases h
    exact .ends rfl (fun _ h => h) .nothing
  · cases h
    exact .of_catch rfl .nothing
  · cases h
    exact .of_catch rfl .nothing
  -- the writes
  · split at h
    · next hfinish =>
      cases h
      exact .ends (afterFinish_ends ..) (fun _ h => afterFinish_writer? h ▸ rfl) (endWrite_finish rfl hfinish)
    · cases h
      exact .of_catch rfl .nothing
  · next c leases ok =>
    cases h
    refine .of_finally ?_
    cases ok with
    | true => exact .recorded rfl ..
    | false => exact .nothing
  · split at h
    · next hfinish =>
      cases h
      exact .of_finally (endWrite_finish rfl hfinish)
    · cases h
      exact .of_finally .nothing
  -- the release
  · cases h
    exact .of_done .nothing
  · cases h

theorem Advance.call? (h : Advance b c s pc e) : e.pc.call? = some c := by
  cases h with
  | consumed _ =>
    simp only [Effect.quiet]
    split <;> rfl
  | _ => rfl

/-- **How a call gets to a counter before its end.** -/
theorem advance_of_step (h : redeemStep b s pc a = some e) (hc : e.pc.call? = some c) : Advance b c s pc e := by
  cases piece_of_step h with
  | advance hadv =>
    cases hc.symm.trans hadv.call?
    exact hadv
  | ends hpc _ _ => cases hc.symm.trans (call?_of_ends hpc)

/-- A piece that calls the handler or the runner does so for the call it carries. -/
theorem invoked_call? {inv : Invocation} (h : redeemStep b s pc a = some e) (hinv : e.invoked = some inv) :
    ∃ c, e.pc.call? = some c ∧ inv = c.invocation := by
  cases piece_of_step h with
  | advance hadv =>
    refine ⟨_, hadv.call?, ?_⟩
    cases hadv with
    | handled _ => exact (Option.some.inj hinv).symm
    | ran => exact (Option.some.inj hinv).symm
    | _ => cases hinv
  | ends _ _ _ => cases hinv

end

/-! ## A broker for examples -/

/-- A tool that reads, isolated or not. -/
def sampleTool (isolated : Option IsolatedToolAdapter) (credentials : List Text) : ToolDefinition where
  name := "reader"
  action := "report.read"
  resourceType := "report"
  allowedOperations := ["read"]
  networkRequired := false
  credentialsRequired := credentials
  handler := true
  isolated := isolated

/-- A tool that runs isolated and needs no credential. -/
def isolatedTool : ToolDefinition := sampleTool (some ⟨"child-process", "1"⟩) []

/-- A tool with a handler that needs no credential. -/
def handlerTool : ToolDefinition := sampleTool none []

def samplePayload : CapabilityPayload where
  capabilityId := "c1"
  executionId := "e1"
  agentId := "agent_1"
  decisionId := "dec_1"
  action := "report.read"
  tool := "reader"
  resource := "/report"
  operation := "read"
  inputHash := List.replicate 64 (unit 'a')
  destination := none
  policyHash := "p"
  policyIssuanceId := "r"
  issuedAt := 1
  expiresAt := 60001
  nonce := "n"

theorem isId_agent : isId "agent_1" = true := by decide

theorem isId_report : isId "report.read" = true := by decide

theorem isId_reader : isId "reader" = true := by decide

def sampleDecision : Decision where
  decisionId := "dec_1"
  agentId := "agent_1"
  decision := .allow
  policyHash := some "p"
  request :=
    { agentId := "agent_1"
      action := "report.read"
      tool := "reader"
      resource := "/report"
      destination := none
      estimatedCost := 0
      approvalId := none
      agentId_id := isId_agent
      action_id := isId_report
      tool_id := isId_reader
      resource_label := by decide
      input := none
      inputHash := none }

/-- A broker that asks the Gate whether agents are revoked and policies current, as
the platform composes it. -/
def sampleBroker (tool : ToolDefinition) : ExecutionBroker where
  registry := fun name => if name = tool.name then some tool else none
  options :=
    { secretBroker := true
      isolationRunner := true
      isAgentRevoked := some GateState.isAgentRevoked
      isPolicyCurrent := some GateState.isPolicyCurrent
      isDecisionCurrent := some GateState.isPolicyCurrent
      isToolCompatible := none
      isAuthorityValid := none
      earliestAuthorityExpiry := none }
  codec :=
    { sign := fun p => if p = samplePayload then "token" else "unknown"
      openToken := fun t => if t = Text.ofAscii "token" then some samplePayload else none
      ttlSeconds := 60
      open_sign := by
        intro p q h
        by_cases hp : p = samplePayload
        · subst hp
          exact (Option.some.inj h).symm
        · rw [if_neg hp] at h
          cases h }
  sha256 := fun _ => List.replicate 64 (unit 'a')

def sampleStore : Store where
  gate :=
    { now := 1
      agents := fun _ => some false
      policies := fun _ => some (⟨"p", "r"⟩, 60000)
      decisions := fun id => if id = sampleDecision.decisionId then some sampleDecision else none
      decisionPolicies := fun _ => some ⟨"p", "r"⟩
      decisions_id := by
        intro id d h
        split at h
        · next hid =>
          cases h
          exact hid.symm
        · cases h }
  capabilities := AList.insert samplePayload.capabilityId ⟨samplePayload, "token", false⟩ ∅
  executions := ∅
  evidence := []

def sampleInput : RedeemInput where
  token := "token"
  tool := "reader"
  resource := "/report"
  operation := "read"
  destination := none
  input := ⟨.null, by decide⟩
  inputHash := List.replicate 64 (unit 'a')

end Tna.Broker
