import Tna.Gate.Envelope

/-!
# The policy engine

`evaluate` decides one request under one envelope. Its checks run in order, and
the first that fails gives the reason.
-/

namespace Tna.Gate

open Tna.Js

structure Usage where
  startedAt : Option Nat
  calls : Nat
  external : Nat
  costMicros : Nat
  attempts : List (Text × Nat)

def emptyUsage : Usage := ⟨none, 0, 0, 0, []⟩

structure PolicyContext where
  now : Nat
  revoked : Bool
  usage : Usage
  approvalValid : Bool
  knownAgents : List Text

inductive VerdictDecision where
  | allow | block | hold
deriving DecidableEq

structure Verdict where
  decision : VerdictDecision
  reason : Text
deriving DecidableEq

def attemptsFor (usage : Usage) (action : Text) : Nat := (usage.attempts.lookup action).getD 0

def block (reason : Text) : Verdict := ⟨.block, reason⟩

/-- The lists of a kind of resource that file-like checks read. -/
def Resources.of (r : Resources) : ResourceKind → Permissions
  | .repositories => r.repositories
  | .files => r.files
  | .databases => r.databases
  | .infrastructure => r.infrastructure
  | _ => .none

/-- What a binding's kind of resource demands; `none` when it is satisfied. -/
def resourceVerdict (request : AuthorizationRequest) (envelope : Envelope) (context : PolicyContext)
    (binding : ActionBinding) : Option Verdict :=
  match binding.resourceKind with
  | .secrets =>
    some (block (Text.ofAscii "Secret access requires an ephemeral credential broker (not enabled in v0.1)"))
  | .agents =>
    if request.resource ∉ context.knownAgents ∨ request.resource ∉ envelope.communicateWith then
      some (block "Unauthorized agent communication")
    else none
  | kind =>
    match binding.operation with
    | .read =>
      if matchesResource request.resource (envelope.resources.of kind).read (kind = .files) then none
      else some (block "Undeclared resource or operation")
    | .write =>
      if matchesResource request.resource (envelope.resources.of kind).write (kind = .files) then none
      else some (block "Undeclared resource or operation")
    | _ => some (block "Invalid resource operation")

/-- The limits and the required approval. -/
def limitsVerdict (request : AuthorizationRequest) (envelope : Envelope) (context : PolicyContext) : Verdict :=
  let limits := envelope.limits
  let usage := context.usage
  if usage.startedAt.any fun started => context.now - started ≥ limits.maxRuntimeSeconds * 1000 then
    block "Runtime limit exceeded"
  else if usage.calls ≥ limits.maxToolCalls then block "Tool-call limit exceeded"
  else if request.destination.isSome ∧ usage.external ≥ limits.maxExternalRequests then
    block "External-request limit exceeded"
  else if usage.costMicros + request.estimatedCost > limits.maxCost then ⟨.hold, "Cost limit exceeded"⟩
  else if attemptsFor usage request.action ≥ 1 + limits.maxRetriesPerAction then block "Retry limit exceeded"
  else if (envelope.approvalsRequiredFor.any fun rule => rule.action = request.action) ∧ context.approvalValid = false then
    ⟨.hold, "Valid approval required"⟩
  else ⟨.allow, "Action permitted by envelope"⟩

def evaluate (request : AuthorizationRequest) (envelope : Option Envelope) (context : PolicyContext) : Verdict :=
  if context.revoked then block "Agent has been revoked"
  else
    match envelope with
    | none => block "No authority envelope"
    | some envelope =>
      if envelope.agent.id ≠ request.agentId then block "Agent identity mismatch"
      else if envelope.agent.expiresAt ≤ context.now then block "Envelope expired"
      else
        match envelope.actionBindings.find? fun b => b.action = request.action with
        | none => block "Action is outside the stated objective"
        | some binding =>
          if binding.tool ≠ request.tool ∨ request.tool ∉ envelope.tools.allow ∨ request.tool ∈ envelope.tools.deny then
            block (Text.ofAscii "Tool " ++ request.tool ++ Text.ofAscii " is not permitted")
          else
            match resourceVerdict request envelope context binding with
            | some verdict => verdict
            | none =>
              if binding.destinationRequired ∧ request.destination = none then
                block "Destination is required for this action"
              else if request.destination.any fun d =>
                  decide (d ∉ envelope.network.allow ∨ d ∈ envelope.network.deny.filter (· ≠ Text.ofAscii "*")) then
                block "Unauthorized network destination"
              else limitsVerdict request envelope context

variable {binding : ActionBinding} {context : PolicyContext} {envelope : Envelope} {request : AuthorizationRequest}

theorem resourceVerdict_ne_allow {verdict : Verdict} (h : resourceVerdict request envelope context binding = some verdict) :
    verdict.decision = .block := by
  unfold resourceVerdict at h
  split at h
  · cases h
    rfl
  · split at h
    · cases h
      rfl
    · cases h
  · split at h
    · split at h
      · cases h
      · cases h
        rfl
    · split at h
      · cases h
      · cases h
        rfl
    · cases h
      rfl

/-- The limits allow with one reason only. -/
theorem limitsVerdict_allow (h : (limitsVerdict request envelope context).decision = .allow) :
    limitsVerdict request envelope context = ⟨.allow, "Action permitted by envelope"⟩ := by
  revert h
  unfold limitsVerdict
  simp only
  split_ifs <;> intro h
  case neg => rfl
  all_goals cases h

/-- **What an `ALLOW` rests on**: the binding of the action, for the tool of the
request, with its demand on the resource satisfied. -/
theorem evaluate_allow (h : (evaluate request (some envelope) context).decision = .allow) :
    ∃ binding, envelope.actionBindings.find? (fun b => b.action = request.action) = some binding ∧
      binding.tool = request.tool ∧ resourceVerdict request envelope context binding = none ∧
      limitsVerdict request envelope context = ⟨.allow, "Action permitted by envelope"⟩ := by
  unfold evaluate at h
  simp only at h
  split at h
  · cases h
  split at h
  · cases h
  split at h
  · cases h
  split at h
  · cases h
  next binding hb =>
    split at h
    · cases h
    next ht =>
      split at h
      · next verdict hv =>
        exact absurd (resourceVerdict_ne_allow hv) (by rw [h]; simp)
      next hr =>
        split at h
        · cases h
        split at h
        · cases h
        exact ⟨binding, hb, by simpa using (not_or.1 ht).1, hr, limitsVerdict_allow h⟩

/-- A request without a destination that meets every check before the limits is decided by them. -/
theorem evaluate_local (request : AuthorizationRequest) (envelope : Envelope) (context : PolicyContext)
    (hrevoked : context.revoked = false) (hagent : envelope.agent.id = request.agentId)
    (hexpiry : context.now < envelope.agent.expiresAt)
    (hfind : envelope.actionBindings.find? (fun b => b.action = request.action) = some binding)
    (htool : binding.tool = request.tool) (hallow : request.tool ∈ envelope.tools.allow)
    (hdeny : request.tool ∉ envelope.tools.deny) (hres : resourceVerdict request envelope context binding = none)
    (hreq : binding.destinationRequired = false) (hdest : request.destination = none) :
    evaluate request (some envelope) context = limitsVerdict request envelope context := by
  have hpermitted : ¬ (binding.tool ≠ request.tool ∨ request.tool ∉ envelope.tools.allow ∨
      request.tool ∈ envelope.tools.deny) := by
    rintro (hne | hout | hdenied)
    · exact hne htool
    · exact hout hallow
    · exact hdeny hdenied
  unfold evaluate
  rw [if_neg (by simp [hrevoked])]
  simp only
  rw [if_neg (not_not_intro hagent), if_neg (Nat.not_le.2 hexpiry), hfind]
  simp only
  rw [if_neg hpermitted, hres]
  simp only [hreq, hdest, Bool.false_eq_true, false_and, if_false, Option.any_none]

end Tna.Gate
