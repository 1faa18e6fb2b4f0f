import Mathlib.Logic.Function.Basic
import Tna.Lib.Table
import Tna.Lib.Transition
import Tna.Sentinel.Engine

/-!
# The Sentinel runtime

Sessions, observations, decisions, stops and policies are rows of one store. The
operations that wait for the revalidator or for a containment call are procedures:
one piece of a procedure runs from one await to the next, and the other operations
run in between. What was read before an await may be stale after it.
-/

namespace Tna.Sentinel

open Tna.Js Tna.Lib

/-! ## Principals -/

inductive SentinelRole where
  | observer | reader | controller | admin
deriving DecidableEq

structure SentinelPrincipal where
  id : Text
  role : SentinelRole
  tenantId : Text
  allowedSources : List ObservationSource

/-- What a principal is refused with. -/
def forbidden (principal : SentinelPrincipal) (what : Text) : SentinelThrown :=
  .sentinel .forbidden (Text.ofAscii "Principal " ++ principal.id ++ what)

def assertCanObserve (principal : SentinelPrincipal) (type : ObservationType) : Except SentinelThrown Unit :=
  if principal.role ≠ .observer then .error (forbidden principal " does not hold observation authority")
  else if !principal.allowedSources.any fun source => decide (type ∈ sourceAllowedObservationTypes source) then
    .error (forbidden principal
      (Text.ofAscii " is not bound to submit observation type \"" ++ type.name ++ Text.ofAscii "\""))
  else .ok ()

def assertCanRead (principal : SentinelPrincipal) : Except SentinelThrown Unit :=
  if principal.role = .observer then .error (forbidden principal " does not hold read authority") else .ok ()

def assertCanControl (principal : SentinelPrincipal) : Except SentinelThrown Unit :=
  if principal.role ≠ .controller ∧ principal.role ≠ .admin then
    .error (forbidden principal " does not hold containment-control authority")
  else .ok ()

def assertIsAdmin (principal : SentinelPrincipal) : Except SentinelThrown Unit :=
  if principal.role ≠ .admin then .error (forbidden principal " does not hold admin authority") else .ok ()

def assertTenant (principal : SentinelPrincipal) (tenantId : Text) : Except SentinelThrown Unit :=
  if principal.tenantId ≠ tenantId then
    .error (forbidden principal (Text.ofAscii " is not authorized for tenant " ++ tenantId))
  else .ok ()

/-! ## The store -/

structure SessionRow extends SentinelSession where
  stateVersion : Nat

inductive StopScopeType where
  | tenant | agent | session
deriving DecidableEq

structure EmergencyStop where
  tenantId : Text
  scopeType : StopScopeType
  scopeValue : Text
  active : Bool
  reason : Text
  activatedBy : Text
  activatedAt : Int
  releasedBy : Option Text
  releasedAt : Option Int

/-- A decision or a violation as a row of its session. -/
structure RecordRow (α : Type) where
  tenantId : Text
  sentinelSessionId : Text
  record : α

/-- A row is stored under its own key. -/
structure SentinelStore where
  sessions : Table (Text × Text) SessionRow
  observations : List SentinelObservation
  decisions : List (RecordRow SentinelDecision)
  violations : List (RecordRow Violation)
  stops : Table (Text × StopScopeType × Text) EmergencyStop
  /-- The active policy of a tenant. The ones it replaced are kept and never read. -/
  policies : Text → Option SentinelPolicy
  sessions_key : ∀ key row, sessions.lookup key = some row → row.key = key

theorem sessions_key_empty (key : Text × Text) (row : SessionRow) (h : (∅ : Table (Text × Text) SessionRow).lookup key = some row) :
    row.key = key := by
  simp at h

/-- What a runtime is constructed with, and the functions it evaluates with. -/
structure SentinelRuntime where
  evaluateRule : SentinelRuleInput → EvaluationContext → RuleResult
  /-- Whether there is a revalidator. -/
  revalidator : Bool
  /-- A finite cost of zero or more that a payload reports. -/
  reportedCost : JsObject → Option Nat

def noSession (sessionId : Text) : SentinelThrown := .sentinel .notFound (Text.ofAscii "No session " ++ sessionId)

/-- A row in its next status and version. -/
def SessionRow.moved (row : SessionRow) (status : SessionStatus) (now : Int) : SessionRow :=
  { row with status, updatedAt := now, stateVersion := row.stateVersion + 1 }

namespace SentinelStore

def status? (s : SentinelStore) (key : Text × Text) : Option SessionStatus :=
  (s.sessions.lookup key).map fun row => row.status

/-- The row of a session written over the one with its key. -/
def put (s : SentinelStore) (row : SessionRow) : SentinelStore where
  sessions := s.sessions.insert row.key row
  observations := s.observations
  decisions := s.decisions
  violations := s.violations
  stops := s.stops
  policies := s.policies
  sessions_key := by
    intro key row' h
    rcases Table.lookup_insert_cases h with ⟨rfl, rfl⟩ | ⟨-, h⟩
    · rfl
    · exact s.sessions_key key row' h

def loadSession (s : SentinelStore) (tenantId sessionId : Text) : Except SentinelThrown SentinelSession :=
  match s.sessions.lookup (tenantId, sessionId) with
  | some row => .ok row.toSentinelSession
  | none => .error (noSession sessionId)

def requireActivePolicy (s : SentinelStore) (tenantId : Text) : Except SentinelThrown SentinelPolicy :=
  match s.policies tenantId with
  | some policy => .ok policy
  | none => .error (.sentinel .notFound (Text.ofAscii "No active Sentinel policy for tenant " ++ tenantId))

def isStopped (s : SentinelStore) (tenantId agentId sessionId : Text) : Bool :=
  s.stops.any fun stop => stop.tenantId = tenantId && stop.active &&
    match stop.scopeType with
    | .tenant => true
    | .agent => stop.scopeValue = agentId
    | .session => stop.scopeValue = sessionId

/-! ## Transactions

A transaction that does not go through changes nothing and its error is thrown. -/

/-- A new session: its row is `MONITORING` from the start. -/
def createSession (s : SentinelStore) (ok : Bool) (principal : SentinelPrincipal) (input : SentinelSessionInput)
    (sessionId : Text) (now : Int) : Except SentinelThrown (SentinelStore × SentinelSession) := do
  assertCanControl principal
  assertTenant principal input.tenantId
  let session : SentinelSession :=
    { input with
      sentinelSessionId := sessionId
      startedAt := now
      updatedAt := now
      status := .monitoring
      observationSequence := 0
      toolCallCount := 0
      networkRequestCount := 0
      processSpawnCount := 0
      sessionCost := 0
      lastHeartbeatAt := none }
  if !ok || (s.sessions.lookup session.key).isSome then .error .other
  else .ok (s.put ⟨session, 0⟩, session)

/-- What a new observation counts for. -/
def applyCounters (rt : SentinelRuntime) (session : SentinelSession) (o : SentinelObservation) : SentinelSession :=
  { session with
    toolCallCount := session.toolCallCount + if o.observationType = .toolCallRequested then 1 else 0
    networkRequestCount := session.networkRequestCount + if o.observationType = .networkRequest then 1 else 0
    processSpawnCount := session.processSpawnCount + if o.observationType = .processStarted then 1 else 0
    lastHeartbeatAt := if o.observationType = .executionHeartbeat then some o.receivedAt else session.lastHeartbeatAt
    sessionCost := session.sessionCost +
      if o.observationType = .costReported then (o.payload.bind rt.reportedCost).getD 0 else 0 }

/-- The transaction of `submitObservation`: the observation stored before under this
identifier, or the new one with what it counts for. -/
def saveObservation (rt : SentinelRuntime) (s : SentinelStore) (ok : Bool) (input : SentinelObservationInput)
    (now : Int) : Except SentinelThrown (SentinelStore × SentinelObservation × Bool) :=
  match s.sessions.lookup (input.tenantId, input.sentinelSessionId) with
  | none => .error (noSession input.sentinelSessionId)
  | some row =>
    if isTerminalStatus row.status then
      .error (.sentinel .sessionTerminal
        (Text.ofAscii "Session " ++ input.sentinelSessionId ++ Text.ofAscii " is in a terminal state (" ++
          row.status.name ++ Text.ofAscii ")"))
    else
      match s.observations.find? fun o => o.tenantId = input.tenantId &&
          o.sentinelSessionId = input.sentinelSessionId && o.observationId = input.observationId with
      | some existing =>
        if existing.toSentinelObservationInput.sameText input then
          .ok (s, { input with sequence := existing.sequence, receivedAt := existing.receivedAt }, false)
        else
          .error (.sentinel .observationConflict
            (Text.ofAscii "observation_id " ++ input.observationId ++
              Text.ofAscii " already exists with different content"))
      | none =>
        let observation : SentinelObservation :=
          { input with sequence := row.observationSequence + 1, receivedAt := now }
        let updated := { applyCounters rt row.toSentinelSession observation with
          observationSequence := observation.sequence
          updatedAt := now }
        if ok then
          .ok ({ s.put ⟨updated, row.stateVersion⟩ with observations := s.observations ++ [observation] },
            observation, true)
        else .error .other

def statusTier : SessionStatus → Nat
  | .created => 0
  | .monitoring => 0
  | .warned => 1
  | .held => 2
  | .terminating => 3
  | .terminated => 4
  | .completed => 4
  | .indeterminate => 4

/-- The status to persist, against the fresh status of the row, and why. -/
def reconcileDecisionTarget (fresh : SessionStatus) (decision : SentinelDecisionType) :
    SessionStatus × TransitionResult :=
  if isTerminalStatus fresh ∨ fresh = .terminating then (fresh, .noOpAlreadyStronger)
  else
    let target := nextStatusForDecision fresh decision
    (target, if target = fresh then .applied
      else if statusTier fresh < statusTier target then .escalated else .applied)

structure ClaimResult where
  kind : TransitionResult
  claimedStatus : SessionStatus
  priorFreshStatus : SessionStatus

/-- The claim of a decision: its target from the fresh row, written in the same transaction. -/
def reconcileAndClaim (s : SentinelStore) (ok : Bool) (now : Int) (key : Text × Text)
    (decision : SentinelDecisionType) : Except SentinelThrown (SentinelStore × ClaimResult) :=
  match s.sessions.lookup key with
  | none => .error (noSession key.2)
  | some row =>
    let (target, kind) := reconcileDecisionTarget row.status decision
    if !ok then .error .other
    else if target = row.status then .ok (s, ⟨kind, row.status, row.status⟩)
    else .ok (s.put (row.moved target now), ⟨kind, target, row.status⟩)

/-- A transaction on the fresh row of a session, which is refused, left or written. -/
def onRow (s : SentinelStore) (ok : Bool) (key : Text × Text)
    (change : SessionRow → Except SentinelThrown (Option SessionRow)) : Except SentinelThrown SentinelStore :=
  match s.sessions.lookup key with
  | none => .error (noSession key.2)
  | some row =>
    match change row with
    | .error e => .error e
    | .ok none => if ok then .ok s else .error .other
    | .ok (some next) => if ok then .ok (s.put next) else .error .other

/-- The outcome of a claimed termination. -/
def resolveClaim (s : SentinelStore) (ok : Bool) (now : Int) (key : Text × Text) (target : SessionStatus) :
    Except SentinelThrown SentinelStore :=
  s.onRow ok key fun row => .ok (if row.status ≠ .terminating then none else some (row.moved target now))

def persistDecisionAndViolations (s : SentinelStore) (ok : Bool) (key : Text × Text) (decision : SentinelDecision) :
    Except SentinelThrown SentinelStore :=
  if ok then
    .ok { s with
      decisions := s.decisions ++ [⟨key.1, key.2, decision⟩]
      violations := s.violations ++ decision.violations.map fun v => ⟨key.1, key.2, v⟩ }
  else .error .other

/-- What a controller may rebind a session to when it resumes it. -/
structure ResumeInput where
  policySnapshotHash : Option Text
  authorityExpiry : Option Int

def resume (s : SentinelStore) (ok : Bool) (principal : SentinelPrincipal) (sessionId : Text) (input : ResumeInput)
    (now : Int) : Except SentinelThrown SentinelStore := do
  assertCanControl principal
  s.onRow ok (principal.tenantId, sessionId) fun row =>
    if row.status ≠ .held then
      .error (.sentinel .invalidTransition
        (Text.ofAscii "Only a HELD session may be resumed (current status: " ++ row.status.name ++ Text.ofAscii ")"))
    else
      let rebound := { row with
        policySnapshotHash := input.policySnapshotHash.getD row.policySnapshotHash
        authorityExpiry := input.authorityExpiry.getD row.authorityExpiry }
      .ok (some (rebound.moved .monitoring now))

def completeSession (s : SentinelStore) (ok : Bool) (principal : SentinelPrincipal) (sessionId : Text) (now : Int) :
    Except SentinelThrown SentinelStore := do
  assertCanControl principal
  s.onRow ok (principal.tenantId, sessionId) fun row =>
    if row.status ≠ .monitoring ∧ row.status ≠ .warned then
      .error (.sentinel .invalidTransition
        (Text.ofAscii "Only a monitoring session may complete (current status: " ++ row.status.name ++
          Text.ofAscii ")"))
    else .ok (some (row.moved .completed now))

def activateStop (s : SentinelStore) (ok : Bool) (principal : SentinelPrincipal) (scopeType : StopScopeType)
    (scopeValue reason : Text) (now : Int) : Except SentinelThrown SentinelStore := do
  assertIsAdmin principal
  if ok then
    .ok { s with
      stops := s.stops.insert (principal.tenantId, scopeType, scopeValue)
        ⟨principal.tenantId, scopeType, scopeValue, true, reason, principal.id, now, none, none⟩ }
  else .error .other

def releaseStop (s : SentinelStore) (ok : Bool) (principal : SentinelPrincipal) (scopeType : StopScopeType)
    (scopeValue : Text) (now : Int) : Except SentinelThrown SentinelStore := do
  assertIsAdmin principal
  match s.stops.lookup (principal.tenantId, scopeType, scopeValue) with
  | none => .error (.sentinel .notFound "No such emergency stop scope")
  | some stop =>
    if ok then
      .ok { s with
        stops := s.stops.insert (principal.tenantId, scopeType, scopeValue)
          { stop with active := false, releasedBy := some principal.id, releasedAt := some now } }
    else .error .other

/-- `setPolicy`, of a policy that was validated and finalized. -/
def setPolicy (s : SentinelStore) (ok : Bool) (principal : SentinelPrincipal) (policy : SentinelPolicy) :
    Except SentinelThrown SentinelStore := do
  assertIsAdmin principal
  assertTenant principal policy.tenantId
  if ok then .ok { s with policies := Function.update s.policies policy.tenantId (some policy) }
  else .error .other

end SentinelStore

/-! ## Procedures -/

structure ContainmentReason where
  ruleType : Option ViolationRuleType
  message : Text
  decisionId : Text

inductive ContainmentAction where
  | hold | terminate
deriving DecidableEq

/-- A call of the containment controller. -/
structure ContainmentCall where
  action : ContainmentAction
  sessionId : Text
  reason : ContainmentReason

inductive OpRequest where
  | submitObservation (principal : SentinelPrincipal) (sessionId : Text) (input : SentinelObservationInput)
  | evaluateSession (principal : SentinelPrincipal) (sessionId : Text)
  | hold (principal : SentinelPrincipal) (sessionId message : Text)
  | terminate (principal : SentinelPrincipal) (sessionId message : Text)

/-- Whom an evaluation or an outcome goes back to. -/
inductive Caller where
  | submit (observation : SentinelObservation)
  | evaluate
  | control (tenantId sessionId : Text)

def Caller.observation : Caller → Option SentinelObservation
  | .submit o => some o
  | _ => none

inductive OpResult where
  | submitted (observation : SentinelObservation) (decision : Option SentinelDecision)
  | evaluated (decision : SentinelDecision)
  | session (s : SentinelSession)
  | threw (e : SentinelThrown)

/-- Where an operation stands, with the session and the policy as they were read. -/
inductive OpPc where
  /-- Awaiting the revalidator. -/
  | revalidating (session : SentinelSession) (policy : SentinelPolicy) (caller : Caller)
  /-- Awaiting the containment call of a claim. -/
  | containing (action : ContainmentAction) (key : Text × Text) (decision : SentinelDecision) (caller : Caller)
  /-- The outcome is applied and the caller has not gone on yet. -/
  | applied (decision : SentinelDecision) (caller : Caller)
  | done (r : OpResult)

/-- What the environment answers in a piece: the clock, fresh identifiers, and which
transactions go through. -/
structure PieceAnswer where
  now : Int
  newId : ℕ → Text
  saveOk : Bool
  claimOk : Bool
  resolveOk : Bool
  resolveAgainOk : Bool
  persistOk : Bool

/-- A piece of an operation: the store after it, where the operation stands, and the
containment call it makes. -/
structure OpEffect where
  store : SentinelStore
  pc : OpPc
  called : Option ContainmentCall

def OpEffect.quiet (s : SentinelStore) (pc : OpPc) : OpEffect := ⟨s, pc, none⟩

def throws (s : SentinelStore) (e : SentinelThrown) : OpEffect := .quiet s (.done (.threw e))

/-- The decision with its containment status is persisted and goes back to the caller. -/
def persistOutcome (s : SentinelStore) (ok : Bool) (key : Text × Text) (decision : SentinelDecision)
    (status : ContainmentStatus) (caller : Caller) : OpEffect :=
  let decision := { decision with containmentStatus := status }
  match s.persistDecisionAndViolations ok key decision with
  | .ok s' => .quiet s' (.applied decision caller)
  | .error e => throws s e

/-- The reason a containment call is given. -/
def containmentReason (decision : SentinelDecision) : ContainmentReason where
  ruleType := decision.violations.head?.map fun v => v.ruleType
  message := (decision.violations.head?.map fun v => v.message).getD "Sentinel decision"
  decisionId := decision.decisionId

/-- `applyOutcome`, up to its containment call if it makes one. -/
def applyOutcome (s : SentinelStore) (key : Text × Text) (decision : SentinelDecision) (caller : Caller)
    (a : PieceAnswer) : OpEffect :=
  match s.reconcileAndClaim a.claimOk a.now key decision.decision with
  | .error e => throws s e
  | .ok (s', claim) =>
    let decision := { decision with transitionResult := claim.kind }
    let contain := fun action =>
      ⟨s', .containing action key decision caller, some ⟨action, key.2, containmentReason decision⟩⟩
    if claim.kind = .noOpAlreadyStronger then persistOutcome s' a.persistOk key decision .notRequired caller
    else if claim.claimedStatus = .held ∧ claim.priorFreshStatus ≠ .held then contain .hold
    else if claim.claimedStatus = .terminating then contain .terminate
    else persistOutcome s' a.persistOk key decision .notRequired caller

/-- The rest of `applyOutcome` after its containment call, which threw or did not. -/
def afterContainment (s : SentinelStore) (action : ContainmentAction) (key : Text × Text) (decision : SentinelDecision)
    (caller : Caller) (confirmed : Bool) (a : PieceAnswer) : OpEffect :=
  let unconfirmed :=
    match s.resolveClaim a.resolveAgainOk a.now key .indeterminate with
    | .ok s' => persistOutcome s' a.persistOk key decision .containmentUnconfirmed caller
    | .error e => throws s e
  match action, confirmed with
  | .hold, true => persistOutcome s a.persistOk key decision .containmentConfirmed caller
  | .hold, false => persistOutcome s a.persistOk key decision .containmentUnconfirmed caller
  | .terminate, true =>
    match s.resolveClaim a.resolveOk a.now key .terminated with
    | .ok s' => persistOutcome s' a.persistOk key decision .containmentConfirmed caller
    -- the catch block takes a write that failed for a call that threw
    | .error _ => unconfirmed
  | .terminate, false => unconfirmed

/-- The evaluation of a session as it was read, and the beginning of `applyOutcome`. -/
def evaluateAndApply (rt : SentinelRuntime) (s : SentinelStore) (session : SentinelSession) (policy : SentinelPolicy)
    (authorityStatus : Option AuthorityStatus) (caller : Caller) (a : PieceAnswer) : OpEffect :=
  let emergencyStopActive := s.isStopped session.tenantId session.agentId session.sentinelSessionId
  match evaluateSession rt.evaluateRule a.newId policy ⟨session, a.now, caller.observation, authorityStatus⟩
      emergencyStopActive with
  | .error e => throws s e
  | .ok decision => applyOutcome s session.key decision caller a

def isRecheck (type : ObservationType) : Bool :=
  type = .authorityRecheck || type = .policyRecheck || type = .revocationRecheck

def authorityStatusKindOf (name : Text) : AuthorityStatusKind :=
  if name = Text.ofAscii "VALID" then .valid
  else if name = Text.ofAscii "EXPIRED" then .expired
  else if name = Text.ofAscii "REVOKED" then .revoked
  else if name = Text.ofAscii "POLICY_CHANGED" then .policyChanged
  else .unknown

def authorityStatusFromObservation (observation : SentinelObservation) : AuthorityStatus :=
  let payload := observation.payload.getD emptyObject
  { status := ((payload.get "result").asText?.map authorityStatusKindOf).getD .unknown
    revokedScope :=
      if (payload.get "scope").asText? = some "approval" then some .approval
      else if (payload.get "scope").asText? = some "agent" then some .agent
      else none
    currentPolicyHash := (payload.get "current_policy_hash").asText?
    detail := none }

/-- `runEvaluation`, up to its first await. -/
def runEvaluation (rt : SentinelRuntime) (s : SentinelStore) (tenantId sessionId : Text) (caller : Caller)
    (a : PieceAnswer) : OpEffect :=
  match s.loadSession tenantId sessionId with
  | .error e => throws s e
  | .ok session =>
    if isTerminalStatus session.status then
      match caller with
      | .submit observation => .quiet s (.done (.submitted observation none))
      | _ =>
        throws s (.sentinel .sessionTerminal
          (Text.ofAscii "Session " ++ sessionId ++
            Text.ofAscii " is in a terminal state and cannot be evaluated further"))
    else
      match s.requireActivePolicy tenantId with
      | .error e => throws s e
      | .ok policy =>
        match caller.observation.filter fun o => isRecheck o.observationType with
        | some o => evaluateAndApply rt s session policy (some (authorityStatusFromObservation o)) caller a
        | none =>
          if rt.revalidator then .quiet s (.revalidating session policy caller)
          else evaluateAndApply rt s session policy none caller a

/-- The decision of a controller. -/
def manualDecision (session : SentinelSession) (decision : SentinelDecisionType) (message : Text) (now : Int)
    (newId : ℕ → Text) : SentinelDecision :=
  let severity := if decision = .terminate then Severity.high else .medium
  { decisionId := newId 1
    sentinelSessionId := session.sentinelSessionId
    timestamp := now
    decision
    triggeredRules := []
    violations :=
      [{ violationId := newId 0
         ruleId := "manual-control"
         ruleType := .manualControl
         severity
         observedAt := now
         observationId := none
         sentinelSessionId := session.sentinelSessionId
         messageCode := "SENTINEL_MANUAL_CONTROL"
         message
         evidence := emptyObject
         preventionStatus := .detectedAfterEffect }]
    riskScore := severity.score
    policyHash := session.policySnapshotHash
    authoritySnapshotHash := session.authoritySnapshotHash
    containmentStatus := .containmentRequested
    transitionResult := .applied }

/-- `hold` and `terminate`, up to their containment call. -/
def control (s : SentinelStore) (principal : SentinelPrincipal) (sessionId message : Text)
    (decision : SentinelDecisionType) (a : PieceAnswer) : OpEffect :=
  match assertCanControl principal with
  | .error e => throws s e
  | .ok () =>
    match s.loadSession principal.tenantId sessionId with
    | .error e => throws s e
    | .ok session =>
      applyOutcome s session.key (manualDecision session decision message a.now a.newId)
        (.control principal.tenantId sessionId) a

/-- `submitObservation`, up to its first await. -/
def submitObservation (rt : SentinelRuntime) (s : SentinelStore) (principal : SentinelPrincipal) (sessionId : Text)
    (input : SentinelObservationInput) (a : PieceAnswer) : OpEffect :=
  let checked := do
    assertCanObserve principal input.observationType
    assertTenant principal input.tenantId
    if input.sentinelSessionId ≠ sessionId then
      .error (.sentinel .invalidInput "sentinel_session_id in the body must match the URL")
    else s.saveObservation rt a.saveOk input a.now
  match checked with
  | .error e => throws s e
  | .ok (s', observation, isNew) =>
    if isNew then runEvaluation rt s' principal.tenantId sessionId (.submit observation) a
    else .quiet s' (.done (.submitted observation none))

/-- The first piece of an operation. -/
def beginOp (rt : SentinelRuntime) (s : SentinelStore) (a : PieceAnswer) : OpRequest → OpEffect
  | .submitObservation principal sessionId input => submitObservation rt s principal sessionId input a
  | .evaluateSession principal sessionId =>
    match assertCanRead principal with
    | .error e => throws s e
    | .ok () => runEvaluation rt s principal.tenantId sessionId .evaluate a
  | .hold principal sessionId message => control s principal sessionId message .hold a
  | .terminate principal sessionId message => control s principal sessionId message .terminate a

/-- What the caller of an applied outcome makes of it. -/
def OpPc.returned (s : SentinelStore) (decision : SentinelDecision) : Caller → OpResult
  | .submit observation => .submitted observation (some decision)
  | .evaluate => .evaluated decision
  | .control tenantId sessionId =>
    match s.loadSession tenantId sessionId with
    | .ok session => .session session
    | .error e => .threw e

inductive OpAnswer where
  /-- The revalidator's status, or `none` when it threw. -/
  | revalidated (status : Option AuthorityStatus) (a : PieceAnswer)
  /-- The containment call came back, or threw. -/
  | contained (confirmed : Bool) (a : PieceAnswer)
  | resumed

/-- A later piece of an operation; `none` when the answer is not to what it awaits. -/
def opStep (rt : SentinelRuntime) (s : SentinelStore) : OpPc → OpAnswer → Option OpEffect
  | .revalidating session policy caller, .revalidated (some status) a =>
    some (evaluateAndApply rt s session policy (some status) caller a)
  | .revalidating .., .revalidated none _ => some (throws s .other)
  | .containing action key decision caller, .contained confirmed a =>
    some (afterContainment s action key decision caller confirmed a)
  | .applied decision caller, .resumed => some (.quiet s (.done (OpPc.returned s decision caller)))
  | _, _ => none

end Tna.Sentinel
