import Mathlib.Data.List.Nodup
import Tna.Js.Text

/-!
# Requests and authority envelopes

Amounts of money are kept in millionths of a dollar and times in milliseconds,
the units every comparison in the source is made in.
-/

namespace Tna.Gate

open Tna.Js

/-! ## Shared schema -/

/-- The units an identifier may go on with. -/
def isIdUnit (c : CodeUnit) : Bool := isAlnum c || c == unit '.' || c == unit '_' || c == unit '-'

/-- `id`: `^[a-zA-Z0-9][a-zA-Z0-9._-]{0,127}$`. -/
def isId : Text → Bool
  | [] => false
  | c :: rest => isAlnum c && rest.all isIdUnit && decide (rest.length ≤ 127)

/-- `label`: between 1 and 512 units. -/
def isLabel (t : Text) : Bool := decide (1 ≤ t.length ∧ t.length ≤ 512)

/-- A request as `requestSchema` lets it through. -/
structure AuthorizationRequest where
  agentId : Text
  action : Text
  tool : Text
  resource : Text
  destination : Option Text
  /-- `estimatedCostUsd` in micro-dollars. -/
  estimatedCost : Nat
  approvalId : Option Text
  agentId_id : isId agentId = true
  action_id : isId action = true
  tool_id : isId tool = true
  resource_label : isLabel resource = true

inductive ResourceKind where
  | repositories | files | databases | infrastructure | secrets | agents
deriving DecidableEq

inductive Operation where
  | read | write | access | communicate
deriving DecidableEq

/-! ## Envelopes -/

structure EnvelopeAgent where
  id : Text
  name : Text
  role : Text
  owner : Text
  environment : Text
  /-- `expires_at` in milliseconds. -/
  expiresAt : Nat

structure Objective where
  taskId : Text
  goal : Text
  allowedOutcomes : List Text
  forbiddenOutcomes : List Text

structure Permissions where
  read : List Text
  write : List Text

def Permissions.none : Permissions := ⟨[], []⟩

structure Resources where
  repositories : Permissions
  files : Permissions
  databases : Permissions
  infrastructure : Permissions

/-- A list of what is allowed and a list of what is denied. -/
structure AllowDeny where
  allow : List Text
  deny : List Text

structure Limits where
  maxRuntimeSeconds : Nat
  maxToolCalls : Nat
  maxExternalRequests : Nat
  /-- `max_cost_usd` in micro-dollars. -/
  maxCost : Nat
  maxRetriesPerAction : Nat

structure ApprovalRule where
  action : Text
  approverRole : Text

structure ActionBinding where
  action : Text
  outcome : Text
  tool : Text
  resourceKind : ResourceKind
  operation : Operation
  destinationRequired : Bool

/-- An authority envelope. The sections no decision reads (secrets, risk, evidence,
violation policy, and the modes of agent communication) are left out. -/
structure Envelope where
  agent : EnvelopeAgent
  objective : Objective
  resources : Resources
  tools : AllowDeny
  network : AllowDeny
  communicateWith : List Text
  limits : Limits
  approvalsRequiredFor : List ApprovalRule
  actionBindings : List ActionBinding

/-! ## File scopes -/

/-- The segments between the slashes of a text: `path.split('/')`. -/
def splitSlash : Text → List Text
  | [] => [[]]
  | c :: rest =>
    if c = unit '/' then [] :: splitSlash rest
    else
      match splitSlash rest with
      | [] => [[c]]
      | segment :: more => (c :: segment) :: more

/-- A unit no canonical path contains. -/
def badFileUnit (c : CodeUnit) : Bool :=
  c == unit '\\' || c == unit '%' || c == unit '*' || c < 32 || c == 127

/-- `validFile`: a canonical absolute path. -/
def validFile (path : Text) : Bool :=
  (Text.ofAscii "/").isPrefixOf path && !path.any badFileUnit &&
    (splitSlash path).tail.all fun part => part != [] && part != "." && part != ".."

/-- One pattern of `matchesResource`. -/
def matchesPattern (resource : Text) (files : Bool) (pattern : Text) : Bool :=
  if files && (Text.ofAscii "/**").isSuffixOf pattern then (pattern.take (pattern.length - 2)).isPrefixOf resource
  else resource = pattern

def matchesResource (resource : Text) (patterns : List Text) (files : Bool) : Bool :=
  (!files || validFile resource) && patterns.any (matchesPattern resource files)

example : matchesResource "/srv/a/b" ["/srv/a/**"] true = true ∧ matchesResource "/srv/ab" ["/srv/a/**"] true = false := by
  decide

/-! ## What the schema asks beyond the shape -/

def validOperation (b : ActionBinding) : Bool :=
  match b.resourceKind with
  | .secrets => b.operation = .access
  | .agents => b.operation = .communicate
  | _ => b.operation = .read || b.operation = .write

/-- A binding is good after the actions bound before it. -/
def validBinding (e : Envelope) (seen : List Text) (b : ActionBinding) : Bool :=
  decide (b.action ∉ seen) && validOperation b && decide (b.outcome ∈ e.objective.allowedOutcomes) &&
    decide (b.outcome ∉ e.objective.forbiddenOutcomes) && decide (b.tool ∈ e.tools.allow) &&
    decide (b.tool ∉ e.tools.deny) && !(Text.ofAscii "envelope.").isPrefixOf b.action &&
    !(Text.ofAscii "agent.register").isPrefixOf b.action

def validBindings (e : Envelope) : List Text → List ActionBinding → Bool
  | _, [] => true
  | seen, b :: rest => validBinding e seen b && validBindings e (b.action :: seen) rest

/-- Each rule is for a bound action, and for one no rule before it is for. -/
def validApprovals (bound : List Text) : List Text → List ApprovalRule → Bool
  | _, [] => true
  | approvals, rule :: rest =>
    decide (rule.action ∈ bound) && decide (rule.action ∉ approvals) && validApprovals bound (rule.action :: approvals) rest

/-- `pattern.replace(/\/\*\*$/, '')`. -/
def stripGlob (pattern : Text) : Text :=
  if (Text.ofAscii "/**").isSuffixOf pattern then pattern.take (pattern.length - 3) else pattern

/-- The `superRefine` of `envelopeSchema`: it adds no issue. -/
def validEnvelope (e : Envelope) : Bool :=
  validBindings e [] e.actionBindings && validApprovals (e.actionBindings.map ActionBinding.action) [] e.approvalsRequiredFor &&
    (e.resources.files.read ++ e.resources.files.write).all fun pattern => validFile (stripGlob pattern)

theorem validApprovals_nodup {bound approvals : List Text} {rules : List ApprovalRule}
    (h : validApprovals bound approvals rules = true) :
    (∀ rule ∈ rules, rule.action ∉ approvals) ∧ (rules.map ApprovalRule.action).Nodup := by
  induction rules generalizing approvals with
  | nil => exact ⟨by simp, List.nodup_nil⟩
  | cons rule rest ih =>
    simp only [validApprovals, Bool.and_eq_true, decide_eq_true_eq] at h
    obtain ⟨⟨-, hnew⟩, hrest⟩ := h
    obtain ⟨hout, hnodup⟩ := ih hrest
    constructor
    · intro other hother
      rcases List.mem_cons.1 hother with rfl | hother
      · exact hnew
      · intro hmem
        exact hout other hother (List.mem_cons_of_mem _ hmem)
    · rw [List.map_cons, List.nodup_cons]
      refine ⟨fun hmem => ?_, hnodup⟩
      obtain ⟨other, hother, heq⟩ := List.mem_map.1 hmem
      exact hout other hother (heq ▸ List.mem_cons_self ..)

/-- **One rule an action.** -/
theorem rule_unique {e : Envelope} (h : validEnvelope e = true) {rule other : ApprovalRule}
    (hrule : rule ∈ e.approvalsRequiredFor) (hother : other ∈ e.approvalsRequiredFor)
    (heq : rule.action = other.action) : rule = other := by
  simp only [validEnvelope, Bool.and_eq_true] at h
  exact List.inj_on_of_nodup_map (validApprovals_nodup h.1.2).2 hrule hother heq

end Tna.Gate
