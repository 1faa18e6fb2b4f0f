import Tna.Egress.Guard
import Tna.Sentinel.Engine
import Tna.Vad.Core

/-!
# The rules about what an observation touches

`evaluateRule` for the rules that compare the resource or the destination an
observation carries with what the session was authorized for. The other rules
read other parts of the context.
-/

namespace Tna.Sentinel

open Tna.Js
open Tna.Vad (matchesPattern)
open Tna.Egress (lowerCase)

/-- `messageCode`. -/
def messageCode (ruleType : RuleType) : Text := Text.ofAscii "SENTINEL_" ++ ruleType.name

/-- `noMatch`. -/
def noMatch (ruleType : RuleType) : RuleResult :=
  ⟨.noMatch, messageCode ruleType, "No violation observed", emptyObject, none, none, none⟩

/-- `notApplicable`. -/
def notApplicable (ruleType : RuleType) (message : Text) : RuleResult :=
  ⟨.notApplicable, messageCode ruleType, message, emptyObject, none, none, none⟩

/-- `str(payload, key)`. -/
def str (payload : Option JsObject) (key : Text) : Option Text := payload.bind fun p => (p.get key).asText?

/-- A text between quotes. -/
def quoted (t : Text) : Text := unit '"' :: (t ++ [unit '"'])

/-! ## Hosts -/

/-- `normalizeHostname`. -/
def normalizeHostname (host : Text) : Text :=
  let lower := lowerCase host.trim
  if lower.getLast? = some (unit '.') then lower.dropLast else lower

/-- One entry of `hostAllowed`. -/
def entryAllows (target entry : Text) : Bool :=
  let pattern := normalizeHostname entry
  if (Text.ofAscii "*.").isPrefixOf pattern then
    target == pattern.drop 2 || (unit '.' :: pattern.drop 2).isSuffixOf target
  else target == pattern

def hostAllowed (hostname : Text) (allowList : List Text) : Bool := allowList.any (entryAllows (normalizeHostname hostname))

example : hostAllowed "API.Example.com." ["*.example.com"] = true ∧ hostAllowed "example.com" ["*.example.com"] = true ∧
    hostAllowed "badexample.com" ["*.example.com"] = false := by decide

/-! ## Rules -/

theorem distinct_texts (items : List Text) : Value.distinctItems (items.map .str) = true :=
  Value.distinctItems_iff.2 (List.forall_mem_map.2 fun _ _ => rfl)

/-- What was seen, and the one thing that was authorized. -/
def expectedEvidence (observed expected : Text) : JsObject := ⟨[("observed", .str observed), ("expected", .str expected)], rfl⟩

/-- What was seen, and the list of what was authorized. -/
def allowedEvidence (observed : Text) (allowed : List Text) : JsObject :=
  ⟨[("observed", .str observed), ("allowed", .arr (allowed.map .str))], by
    have h := distinct_texts allowed
    simpa [Value.distinct, Value.distinctFields] using h⟩

/-- `RESOURCE_NOT_ALLOWED`. -/
def resourceNotAllowed (context : EvaluationContext) : RuleResult :=
  match context.observation with
  | none => notApplicable .resourceNotAllowed "No observation to evaluate"
  | some observation =>
    match str observation.payload "resource" with
    | none => notApplicable .resourceNotAllowed "Observation carried no resource field"
    | some resource =>
      let expected := context.session.expectedResource
      if !matchesPattern expected resource then
        ⟨.matched, messageCode .resourceNotAllowed, Text.ofAscii "Observed resource " ++ quoted resource ++
            Text.ofAscii " does not match authorized resource " ++ quoted expected,
          expectedEvidence resource expected, some observation.observationId, none, none⟩
      else noMatch .resourceNotAllowed

/-- `DESTINATION_NOT_ALLOWED`. -/
def destinationNotAllowed (context : EvaluationContext) : RuleResult :=
  match context.observation with
  | none => notApplicable .destinationNotAllowed "No network-request observation to evaluate"
  | some observation =>
    if observation.observationType ≠ .networkRequest then
      notApplicable .destinationNotAllowed "No network-request observation to evaluate"
    else
      match str observation.payload "destination" with
      | none => notApplicable .destinationNotAllowed "Observation carried no destination field"
      | some destination =>
        let allowed := context.session.allowedDestinations
        if !hostAllowed destination allowed then
          ⟨.matched, messageCode .destinationNotAllowed, Text.ofAscii "Destination " ++ quoted destination ++
              Text.ofAscii " is not in the authorized destination set",
            allowedEvidence destination allowed, some observation.observationId, none, none⟩
        else noMatch .destinationNotAllowed

/-- `REDIRECT_NOT_ALLOWED`. -/
def redirectNotAllowed (context : EvaluationContext) : RuleResult :=
  match context.observation with
  | none => notApplicable .redirectNotAllowed "No redirect observation to evaluate"
  | some observation =>
    if observation.observationType ≠ .networkRedirect then
      notApplicable .redirectNotAllowed "No redirect observation to evaluate"
    else
      match str observation.payload "to" with
      | none => notApplicable .redirectNotAllowed "Observation carried no redirect target"
      | some target =>
        let allowed := context.session.allowedDestinations
        if !hostAllowed target allowed then
          ⟨.matched, messageCode .redirectNotAllowed, Text.ofAscii "Redirect target " ++ quoted target ++
              Text.ofAscii " is not in the authorized destination set",
            allowedEvidence target allowed, some observation.observationId, none, none⟩
        else noMatch .redirectNotAllowed

/-- A resource that the rule does not report matches the pattern of the session. -/
theorem matchesPattern_of_noMatch {context : EvaluationContext} {observation : SentinelObservation} {resource : Text}
    (hobservation : context.observation = some observation) (hresource : str observation.payload "resource" = some resource)
    (h : (resourceNotAllowed context).status = .noMatch) : matchesPattern context.session.expectedResource resource = true := by
  unfold resourceNotAllowed at h
  simp only [hobservation, hresource] at h
  split at h
  · cases h
  next hmatch => simpa using hmatch

end Tna.Sentinel
