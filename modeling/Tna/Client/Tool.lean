import Tna.Gate.Envelope

/-!
# Governed tools
-/

namespace Tna.Client

open Tna.Js

inductive ToolReviewStatus where
  | discovered | policyReviewRequired | enabled | disabled | removed
deriving DecidableEq

def ToolReviewStatus.name : ToolReviewStatus → Text
  | .discovered => "DISCOVERED"
  | .policyReviewRequired => "POLICY_REVIEW_REQUIRED"
  | .enabled => "ENABLED"
  | .disabled => "DISABLED"
  | .removed => "REMOVED"

inductive RiskClass where
  | low | medium | high | critical
deriving DecidableEq

def RiskClass.name : RiskClass → Text
  | .low => "LOW"
  | .medium => "MEDIUM"
  | .high => "HIGH"
  | .critical => "CRITICAL"

/-- A governed tool. Its description and the time of its last change are left out: nothing
modelled reads them. -/
structure GovernedToolDefinition where
  tenantId : Text
  toolId : Text
  providerId : Text
  externalToolName : Text
  schemaHash : Text
  riskClass : Option RiskClass
  allowedOperations : List Text
  resourcePatterns : List Text
  enabled : Bool
  requiresHumanApproval : Bool
  requiresVad : Bool
  reviewStatus : ToolReviewStatus
  stateVersion : Nat
  inputSchemaJson : Text
  createdAt : Text
deriving DecidableEq

def toolPlatformId (toolId : Text) : Text := Text.ofAscii "mcp." ++ toolId

/-- The action a governed tool is executed under. -/
def executeAction (toolId : Text) : Text := toolPlatformId toolId ++ Text.ofAscii ".execute"

theorem toolPlatformId_inj {a b : Text} (h : toolPlatformId a = toolPlatformId b) : a = b :=
  List.append_cancel_left h

theorem executeAction_inj {a b : Text} (h : executeAction a = executeAction b) : a = b :=
  toolPlatformId_inj (List.append_cancel_right h)

/-- The id of a tool is one when its action is. -/
theorem isId_toolPlatformId {toolId : Text} (h : Gate.isId (executeAction toolId) = true) :
    Gate.isId (toolPlatformId toolId) = true := by
  have hmcp : Text.ofAscii "mcp." = [unit 'm', unit 'c', unit 'p', unit '.'] := by decide
  simp only [executeAction, toolPlatformId, hmcp, List.cons_append, List.nil_append, Gate.isId, Bool.and_eq_true,
    List.all_cons, List.all_append, List.length_cons, List.length_append, decide_eq_true_eq] at h ⊢
  obtain ⟨⟨hm, hc, hp, hdot, hid, -⟩, hlen⟩ := h
  exact ⟨⟨hm, hc, hp, hdot, hid⟩, by omega⟩

end Tna.Client
