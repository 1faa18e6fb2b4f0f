import Tna.Auditor.Schema
import Tna.Broker.Redeem
import Tna.Js.Buffer
import Tna.Js.Number
import Tna.Js.Parse
import Tna.Lib.Double

/-!
# The capability codec

A token is a payload in canonical form and its MAC, each in base64url. `verify`
takes a token apart again, checks the MAC over the bytes it was given, and reads
the payload back field by field. The primitives of `node:crypto` are parameters.
-/

namespace Tna.Capability

open Tna.Js Tna.Lib
open Tna.Auditor (dateParse toIsoString)
open Tna.Broker (validText isHash)

/-! ## Records -/

/-- The primitives of `node:crypto`: an HMAC is 32 bytes long, a digest in hexadecimal 64 units. -/
structure Crypto where
  sha256 : Text → Text
  hmac : Bytes → Bytes → Bytes
  sha256_isHash : ∀ t, isHash (sha256 t) = true
  hmac_length : ∀ key message, (hmac key message).length = 32

/-- A codec, as its constructor lets it be made. -/
structure CapabilityCodec where
  secret : Bytes
  ttlSeconds : Nat
  secret_length : 32 ≤ secret.length
  ttlSeconds_pos : 0 < ttlSeconds
  ttlSeconds_le : ttlSeconds ≤ 60

/-- What a capability is asked for. An object with any other key is refused. -/
structure CapabilityInput where
  capabilityId : Text
  executionId : Text
  agentId : Text
  decisionId : Text
  action : Text
  tool : Text
  resource : Text
  operation : Text
  inputHash : Option Text
  destination : Option Text
  policyHash : Text
  policyIssuanceId : Text
  expiresAt : Option Text

/-- A payload. Its version is 1 and it is for a single use. -/
structure CapabilityPayload where
  capabilityId : Text
  executionId : Text
  agentId : Text
  decisionId : Text
  action : Text
  tool : Text
  resource : Text
  operation : Text
  inputHash : Text
  destination : Option Text
  policyHash : Text
  policyIssuanceId : Text
  issuedAt : Text
  expiresAt : Text
  nonce : Text
deriving DecidableEq

def destinationValue : Option Text → Value
  | some d => .str d
  | none => .null

def CapabilityPayload.fields (p : CapabilityPayload) : List (Text × Value) :=
  [("version", .ofNat 1), ("capability_id", .str p.capabilityId), ("execution_id", .str p.executionId),
    ("agent_id", .str p.agentId), ("decision_id", .str p.decisionId), ("action", .str p.action), ("tool", .str p.tool),
    ("resource", .str p.resource), ("operation", .str p.operation), ("input_hash", .str p.inputHash),
    ("destination", destinationValue p.destination), ("policy_hash", .str p.policyHash),
    ("policy_issuance_id", .str p.policyIssuanceId), ("issued_at", .str p.issuedAt), ("expires_at", .str p.expiresAt),
    ("single_use", .bool true), ("nonce", .str p.nonce)]

def CapabilityPayload.toValue (p : CapabilityPayload) : Value := .obj p.fields

/-! ## Bytes -/

/-- `decode`: the bytes of a text that is their base64url form. -/
def decode (t : Text) : Option Bytes :=
  if t ≠ [] ∧ t.all isBase64urlUnit = true ∧ toBase64url (fromBase64url t) = t then some (fromBase64url t) else none

/-- The bytes the MAC is made of. -/
def payloadBytes (p : CapabilityPayload) : Bytes := p.toValue.canonical.utf8

/-- `sign`. -/
def sign (c : Crypto) (codec : CapabilityCodec) (p : CapabilityPayload) : Text :=
  toBase64url (payloadBytes p) ++ unit '.' :: toBase64url (c.hmac codec.secret (payloadBytes p))

/-! ## Reading a payload -/

/-- `parseIso`: a timestamp that the instant it names is written as. -/
def parseIso (t : Text) : Bool := (dateParse t).any fun millis => toIsoString millis = t

/-- A text without control units. -/
def textOf (fields : List (Text × Value)) (k : Text) : Option Text :=
  match Value.get fields k with
  | .str s => if validText s = true then some s else none
  | _ => none

def destinationOf (fields : List (Text × Value)) : Option (Option Text) :=
  match Value.get fields "destination" with
  | .null => some none
  | .str s => if validText s = true then some (some s) else none
  | _ => none

/-- `value === 1`. -/
def isOne : Value → Bool
  | .num (.finite n) => n.text = Text.ofAscii "1"
  | _ => false

/-- `value === true`. -/
def isTrue : Value → Bool
  | .bool b => b
  | _ => false

def payloadKeys : List Text :=
  ["version", "capability_id", "execution_id", "agent_id", "decision_id", "action", "tool", "resource", "operation",
    "input_hash", "destination", "policy_hash", "policy_issuance_id", "issued_at", "expires_at", "single_use", "nonce"]

/-- `^[A-Za-z0-9_-]{22}$`. -/
def isNonce (t : Text) : Bool := decide (t.length = 22) && t.all isBase64urlUnit

/-- `Date.parse(expires_at) >= Date.parse(issued_at)`. -/
def ordered (issuedAt expiresAt : Text) : Bool :=
  match dateParse issuedAt, dateParse expiresAt with
  | some i, some e => decide (i ≤ e)
  | _, _ => false

/-- What `validPayload` asks of the fields that are texts already. -/
structure ValidPayload (p : CapabilityPayload) : Prop where
  inputHash : isHash p.inputHash = true
  issuedAt : parseIso p.issuedAt = true
  expiresAt : parseIso p.expiresAt = true
  nonce : isNonce p.nonce = true
  ordered : ordered p.issuedAt p.expiresAt = true

instance (p : CapabilityPayload) : Decidable (ValidPayload p) :=
  decidable_of_iff (isHash p.inputHash = true ∧ parseIso p.issuedAt = true ∧ parseIso p.expiresAt = true ∧
      isNonce p.nonce = true ∧ ordered p.issuedAt p.expiresAt = true)
    ⟨fun ⟨h₁, h₂, h₃, h₄, h₅⟩ => ⟨h₁, h₂, h₃, h₄, h₅⟩, fun ⟨h₁, h₂, h₃, h₄, h₅⟩ => ⟨h₁, h₂, h₃, h₄, h₅⟩⟩

/-- The fields of a payload that are texts. -/
def readTexts (fields : List (Text × Value)) : Option CapabilityPayload := do
  let capabilityId ← textOf fields "capability_id"
  let executionId ← textOf fields "execution_id"
  let agentId ← textOf fields "agent_id"
  let decisionId ← textOf fields "decision_id"
  let action ← textOf fields "action"
  let tool ← textOf fields "tool"
  let resource ← textOf fields "resource"
  let operation ← textOf fields "operation"
  let inputHash ← textOf fields "input_hash"
  let destination ← destinationOf fields
  let policyHash ← textOf fields "policy_hash"
  let policyIssuanceId ← textOf fields "policy_issuance_id"
  let issuedAt ← textOf fields "issued_at"
  let expiresAt ← textOf fields "expires_at"
  let nonce ← textOf fields "nonce"
  return ⟨capabilityId, executionId, agentId, decisionId, action, tool, resource, operation, inputHash, destination,
    policyHash, policyIssuanceId, issuedAt, expiresAt, nonce⟩

/-- `validPayload`, with the payload it lets through. A hash, a timestamp and a nonce are
texts without control units by their own formats. -/
def readPayload : Value → Option CapabilityPayload
  | .obj fields =>
    if fields.length = payloadKeys.length ∧ (∀ k ∈ payloadKeys, k ∈ fields.map Prod.fst) ∧
        isOne (Value.get fields "version") = true ∧ isTrue (Value.get fields "single_use") = true then
      (readTexts fields).filter fun p => ValidPayload p
    else none
  | _ => none

/-! ## Verifying -/

/-- The checks of the times of a payload at the time of the clock. -/
def isCurrent (now : Numeric) (p : CapabilityPayload) : Bool :=
  match now, dateParse p.issuedAt, dateParse p.expiresAt with
  | .finite now, some issuedAt, some expiresAt =>
    decide ((issuedAt : ℚ) ≤ now ∧ expiresAt - issuedAt ≤ 60000 ∧ now < (expiresAt : ℚ))
  | _, _, _ => false

/-- The payload bytes and the MAC of a token. -/
def parts (token : Text) : Option (Bytes × Bytes) :=
  match token.splitOn (unit '.') with
  | [payload, mac] =>
    match decode payload, decode mac with
    | some payload, some mac => some (payload, mac)
    | _, _ => none
  | _ => none

/-- The payload of a token whose MAC and canonical form are right. -/
def openToken (c : Crypto) (codec : CapabilityCodec) (token : Text) : Option CapabilityPayload :=
  match parts token with
  | none => none
  | some (bytes, mac) =>
    if mac.length ≠ 32 ∨ c.hmac codec.secret bytes ≠ mac then none
    else
      match parse (fromUtf8 bytes) with
      | none => none
      | some parsed =>
        match readPayload parsed with
        | none => none
        | some p => if parsed.canonical = fromUtf8 bytes then some p else none

/-- `verify`; `none` is a `CapabilityError`. -/
def verify (c : Crypto) (codec : CapabilityCodec) (now : Numeric) (token : Text) : Option CapabilityPayload :=
  (openToken c codec token).filter (isCurrent now)

/-! ## Issuing -/

/-- The whole milliseconds `new Date` keeps of a number. -/
def truncate (q : ℚ) : ℤ := if 0 ≤ q then ⌊q⌋ else ⌈q⌉

/-- `new Date(q).toISOString()`; `none` is a `RangeError`. -/
def isoOf (q : ℚ) : Option Text := if |q| ≤ 8640000000000000 then some (toIsoString (truncate q)) else none

def validInput (i : CapabilityInput) : Bool :=
  validText i.capabilityId && validText i.executionId && validText i.agentId && validText i.decisionId &&
    validText i.action && validText i.tool && validText i.resource && validText i.operation && i.inputHash.all isHash &&
    i.destination.all validText && validText i.policyHash && validText i.policyIssuanceId && i.expiresAt.all parseIso

/-- `issuedAt + this.ttlSeconds * 1000`, which is rounded to a double. -/
def CapabilityCodec.maximumExpiry (codec : CapabilityCodec) (issuedAt : ℚ) : ℚ :=
  rounded (issuedAt + (codec.ttlSeconds * 1000 : ℕ))

/-- The instant of the expiry that is asked for. -/
def CapabilityInput.requested (i : CapabilityInput) : Option ℤ := i.expiresAt.bind dateParse

/-- The instant of the expiry that is given: never later than the one asked for. -/
def CapabilityCodec.expiry (codec : CapabilityCodec) (issuedAt : ℚ) : Option ℤ → ℚ
  | some requested => min (requested : ℚ) (codec.maximumExpiry issuedAt)
  | none => codec.maximumExpiry issuedAt

/-- The payload of an input, issued and expiring at the times that are given. -/
def CapabilityInput.payload (i : CapabilityInput) (c : Crypto) (issuedAt expiresAt nonce : Text) : CapabilityPayload where
  capabilityId := i.capabilityId
  executionId := i.executionId
  agentId := i.agentId
  decisionId := i.decisionId
  action := i.action
  tool := i.tool
  resource := i.resource
  operation := i.operation
  inputHash := i.inputHash.getD (c.sha256 "null")
  destination := i.destination
  policyHash := i.policyHash
  policyIssuanceId := i.policyIssuanceId
  issuedAt := issuedAt
  expiresAt := expiresAt
  nonce := nonce

/-- `issue`, with its 16 random bytes; `none` is an error. -/
def issue (c : Crypto) (codec : CapabilityCodec) (random : Fin 16 → UInt8) (now : Numeric) (i : CapabilityInput) :
    Option (Text × CapabilityPayload) :=
  match now with
  | .finite issuedAt =>
    if !validInput i then none
    else
      match isoOf issuedAt with
      | none => none
      | some issuedAtIso =>
        if i.requested.any fun requested : ℤ => decide (requested < issuedAt) then none
        else
          match isoOf (codec.expiry issuedAt i.requested) with
          | none => none
          | some expiresAtIso =>
            let p := i.payload c issuedAtIso expiresAtIso (toBase64url (List.ofFn random))
            some (sign c codec p, p)
  | _ => none

end Tna.Capability
