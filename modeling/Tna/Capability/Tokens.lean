import Tna.Capability.Codec
import Tna.Js.Parsed
import Tna.Js.Wellformed

/-!
# One token for a payload

What is read back from a canonical form is what was written, and a token is taken
apart in one way only. `verify` compares texts, so the payload bytes of a token
are those `sign` makes of its payload as far as they are UTF-8.
-/

namespace Tna.Capability

open Tna.Js Tna.Lib

/-! ## Bytes -/

variable {b bytes mac : Bytes} {t s token : Text} {fields : List (Text × Value)} {p q : CapabilityPayload} {v : Value}
  {c : Crypto} {codec : CapabilityCodec} {now : Numeric}

theorem decode_eq_some (h : decode t = some b) : toBase64url b = t := by
  unfold decode at h
  split at h
  next hspelled =>
    cases h
    exact hspelled.2.2
  · cases h

theorem decode_toBase64url (h : b ≠ []) : decode (toBase64url b) = some b := by
  unfold decode
  rw [fromBase64url_toBase64url]
  exact if_pos ⟨fun hnil => h (toBase64url_eq_nil.1 hnil), List.all_eq_true.2 (toBase64url_units b), rfl⟩

theorem stop_notMem_toBase64url (b : Bytes) : unit '.' ∉ toBase64url b := fun h =>
  absurd (toBase64url_units b _ h) (by decide)

/-- A token is spelled by the bytes it is taken apart into. -/
theorem eq_of_parts (h : parts s = some (bytes, mac)) : s = toBase64url bytes ++ unit '.' :: toBase64url mac := by
  unfold parts at h
  split at h
  · next payload code hsplit =>
    split at h
    · next hpayload hcode =>
      cases h
      have hjoin : [unit '.'].intercalate (s.splitOn (unit '.')) = s := List.intercalate_splitOn (unit '.')
      rw [hsplit] at hjoin
      rw [decode_eq_some hpayload, decode_eq_some hcode, ← hjoin]
      simp [List.intercalate]
    · cases h
  · cases h

theorem parts_of_bytes (hbytes : bytes ≠ []) (hmac : mac ≠ []) :
    parts (toBase64url bytes ++ unit '.' :: toBase64url mac) = some (bytes, mac) := by
  have hjoin : toBase64url bytes ++ unit '.' :: toBase64url mac =
      [unit '.'].intercalate [toBase64url bytes, toBase64url mac] := by simp [List.intercalate]
  unfold parts
  rw [hjoin, List.splitOn_intercalate _ (by simp [stop_notMem_toBase64url]) (by simp)]
  simp only [decode_toBase64url hbytes, decode_toBase64url hmac]

/-! ## Fields -/

theorem textOf_eq_some {k : Text} : textOf fields k = some t ↔ Value.get fields k = .str t ∧ Tna.Broker.validText t = true := by
  unfold textOf
  cases Value.get fields k with
  | str s =>
    simp only [Option.ite_none_right_eq_some, Option.some.injEq, Value.str.injEq]
    constructor
    · rintro ⟨hvalid, rfl⟩
      exact ⟨rfl, hvalid⟩
    · rintro ⟨rfl, hvalid⟩
      exact ⟨hvalid, rfl⟩
  | _ => simp

theorem destinationOf_eq_some {d : Option Text} :
    destinationOf fields = some d ↔
      Value.get fields "destination" = destinationValue d ∧ d.all Tna.Broker.validText = true := by
  unfold destinationOf
  cases Value.get fields "destination" with
  | null => cases d <;> simp [destinationValue]
  | str s =>
    cases d with
    | none => simp [destinationValue]
    | some d =>
      simp only [Option.ite_none_right_eq_some, Option.some.injEq, destinationValue, Value.str.injEq, Option.all_some]
      constructor
      · rintro ⟨hvalid, rfl⟩
        exact ⟨rfl, hvalid⟩
      · rintro ⟨rfl, hvalid⟩
        exact ⟨hvalid, rfl⟩
  | _ => cases d <;> simp [destinationValue]

/-- Each text of a payload is read from its field. -/
structure Reads (fields : List (Text × Value)) (p : CapabilityPayload) : Prop where
  capabilityId : textOf fields "capability_id" = some p.capabilityId
  executionId : textOf fields "execution_id" = some p.executionId
  agentId : textOf fields "agent_id" = some p.agentId
  decisionId : textOf fields "decision_id" = some p.decisionId
  action : textOf fields "action" = some p.action
  tool : textOf fields "tool" = some p.tool
  resource : textOf fields "resource" = some p.resource
  operation : textOf fields "operation" = some p.operation
  inputHash : textOf fields "input_hash" = some p.inputHash
  destination : destinationOf fields = some p.destination
  policyHash : textOf fields "policy_hash" = some p.policyHash
  policyIssuanceId : textOf fields "policy_issuance_id" = some p.policyIssuanceId
  issuedAt : textOf fields "issued_at" = some p.issuedAt
  expiresAt : textOf fields "expires_at" = some p.expiresAt
  nonce : textOf fields "nonce" = some p.nonce

theorem readTexts_eq_some : readTexts fields = some p ↔ Reads fields p := by
  constructor
  · intro h
    unfold readTexts at h
    obtain ⟨_, hcapabilityId, h⟩ := Option.bind_eq_some_iff.1 h
    obtain ⟨_, hexecutionId, h⟩ := Option.bind_eq_some_iff.1 h
    obtain ⟨_, hagentId, h⟩ := Option.bind_eq_some_iff.1 h
    obtain ⟨_, hdecisionId, h⟩ := Option.bind_eq_some_iff.1 h
    obtain ⟨_, haction, h⟩ := Option.bind_eq_some_iff.1 h
    obtain ⟨_, htool, h⟩ := Option.bind_eq_some_iff.1 h
    obtain ⟨_, hresource, h⟩ := Option.bind_eq_some_iff.1 h
    obtain ⟨_, hoperation, h⟩ := Option.bind_eq_some_iff.1 h
    obtain ⟨_, hinputHash, h⟩ := Option.bind_eq_some_iff.1 h
    obtain ⟨_, hdestination, h⟩ := Option.bind_eq_some_iff.1 h
    obtain ⟨_, hpolicyHash, h⟩ := Option.bind_eq_some_iff.1 h
    obtain ⟨_, hpolicyIssuanceId, h⟩ := Option.bind_eq_some_iff.1 h
    obtain ⟨_, hissuedAt, h⟩ := Option.bind_eq_some_iff.1 h
    obtain ⟨_, hexpiresAt, h⟩ := Option.bind_eq_some_iff.1 h
    obtain ⟨_, hnonce, h⟩ := Option.bind_eq_some_iff.1 h
    cases h
    exact ⟨hcapabilityId, hexecutionId, hagentId, hdecisionId, haction, htool, hresource, hoperation, hinputHash, hdestination,
      hpolicyHash, hpolicyIssuanceId, hissuedAt, hexpiresAt, hnonce⟩
  · intro h
    simp only [readTexts, Option.bind_eq_bind, Option.pure_def, h.capabilityId, h.executionId, h.agentId, h.decisionId,
      h.action, h.tool, h.resource, h.operation, h.inputHash, h.destination, h.policyHash, h.policyIssuanceId, h.issuedAt,
      h.expiresAt, h.nonce, Option.bind_some]

/-- A payload is determined by the fields it is read from. -/
theorem Reads.unique (h : Reads q.fields p) : p = q := by
  have text {k t u : Text} (hread : textOf q.fields k = some t) (hfield : Value.get q.fields k = .str u) : t = u :=
    Value.str.inj ((textOf_eq_some.1 hread).1.symm.trans hfield)
  have hdestination : p.destination = q.destination := by
    have hget := (destinationOf_eq_some.1 h.destination).1.symm.trans (show _ = destinationValue q.destination from rfl)
    cases hp : p.destination <;> cases hq : q.destination <;> simp_all [destinationValue]
  cases p
  cases q
  simp only [CapabilityPayload.mk.injEq]
  exact ⟨text h.capabilityId rfl, text h.executionId rfl, text h.agentId rfl, text h.decisionId rfl, text h.action rfl,
    text h.tool rfl, text h.resource rfl, text h.operation rfl, text h.inputHash rfl, hdestination, text h.policyHash rfl,
    text h.policyIssuanceId rfl, text h.issuedAt rfl, text h.expiresAt rfl, text h.nonce rfl⟩

theorem isOne_iff : isOne v = true ↔ v = .ofNat 1 := by
  have hone : decimal 1 = Text.ofAscii "1" := by decide
  cases v with
  | num n =>
    cases n with
    | finite n =>
      obtain ⟨text, wf, hne⟩ := n
      simp [isOne, Value.ofNat, hone]
    | _ => simp [isOne, Value.ofNat]
  | _ => simp [isOne, Value.ofNat]

theorem isTrue_iff : isTrue v = true ↔ v = .bool true := by
  cases v <;> simp [isTrue]

theorem readPayload_eq_some :
    readPayload (.obj fields) = some p ↔
      (fields.length = payloadKeys.length ∧ (∀ k ∈ payloadKeys, k ∈ fields.map Prod.fst) ∧
        Value.get fields "version" = .ofNat 1 ∧ Value.get fields "single_use" = .bool true) ∧
      Reads fields p ∧ ValidPayload p := by
  simp only [readPayload, isOne_iff, isTrue_iff, Option.ite_none_right_eq_some, Option.filter_eq_some_iff, readTexts_eq_some,
    decide_eq_true_eq]

/-- The properties a payload is read from are those it is written as. -/
theorem Reads.fields_eq (h : Reads fields p) (hversion : Value.get fields "version" = .ofNat 1)
    (hsingle : Value.get fields "single_use" = .bool true) : (payloadKeys.map fun k => (k, Value.get fields k)) = p.fields := by
  have text {k t : Text} (hread : textOf fields k = some t) : Value.get fields k = .str t := (textOf_eq_some.1 hread).1
  simp only [payloadKeys, List.map_cons, List.map_nil, CapabilityPayload.fields, hversion, hsingle, text h.capabilityId,
    text h.executionId, text h.agentId, text h.decisionId, text h.action, text h.tool, text h.resource, text h.operation,
    text h.inputHash, (destinationOf_eq_some.1 h.destination).1, text h.policyHash, text h.policyIssuanceId,
    text h.issuedAt, text h.expiresAt, text h.nonce]

theorem payloadKeys_nodup : payloadKeys.Nodup := by decide +kernel

theorem map_fst_fields (p : CapabilityPayload) : p.fields.map Prod.fst = payloadKeys := rfl

/-- What is read has the canonical form it was read from. -/
theorem canonical_of_read (hv : v.distinct = true) (h : readPayload v = some p) : v.canonical = p.toValue.canonical := by
  cases v with
  | obj fields =>
    obtain ⟨⟨hlength, hkeys, hversion, hsingle⟩, hreads, -⟩ := readPayload_eq_some.1 h
    rw [Value.distinct, Bool.and_eq_true, decide_eq_true_eq] at hv
    have hperm := Value.perm_of_keys hv.1 payloadKeys_nodup hlength hkeys
    rw [hreads.fields_eq hversion hsingle] at hperm
    exact Value.canonical_obj_perm hv.1 (hperm.filter _)
  | _ => cases h

theorem fields_data (p : CapabilityPayload) : ∀ f ∈ p.fields, f.2.isUndefined = false ∧ f.2.data = f.2 := by
  have hdestination : (destinationValue p.destination).isUndefined = false ∧
      (destinationValue p.destination).data = destinationValue p.destination := by
    cases p.destination <;> exact ⟨rfl, rfl⟩
  simp only [CapabilityPayload.fields, List.forall_mem_cons]
  exact ⟨⟨rfl, rfl⟩, ⟨rfl, rfl⟩, ⟨rfl, rfl⟩, ⟨rfl, rfl⟩, ⟨rfl, rfl⟩, ⟨rfl, rfl⟩, ⟨rfl, rfl⟩, ⟨rfl, rfl⟩, ⟨rfl, rfl⟩,
    ⟨rfl, rfl⟩, hdestination, ⟨rfl, rfl⟩, ⟨rfl, rfl⟩, ⟨rfl, rfl⟩, ⟨rfl, rfl⟩, ⟨rfl, rfl⟩, ⟨rfl, rfl⟩, List.forall_mem_nil _⟩

theorem distinct_toValue (p : CapabilityPayload) : p.toValue.distinct = true := by
  have hdestination : (destinationValue p.destination).distinct = true := by cases p.destination <;> rfl
  rw [CapabilityPayload.toValue, Value.distinct, Bool.and_eq_true, decide_eq_true_eq, map_fst_fields]
  refine ⟨payloadKeys_nodup, Value.distinctFields_iff.2 ?_⟩
  simp only [CapabilityPayload.fields, List.forall_mem_cons]
  exact ⟨rfl, rfl, rfl, rfl, rfl, rfl, rfl, rfl, rfl, rfl, hdestination, rfl, rfl, rfl, rfl, rfl, rfl, List.forall_mem_nil _⟩

/-- What is read of a payload's data is what is read of its fields. -/
theorem reads_data (p : CapabilityPayload) : ∃ fields, p.toValue.data = .obj fields ∧
    (fields.length = payloadKeys.length ∧ (∀ k ∈ payloadKeys, k ∈ fields.map Prod.fst) ∧
      Value.get fields "version" = .ofNat 1 ∧ Value.get fields "single_use" = .bool true) ∧
    ∀ q, Reads fields q ↔ Reads p.fields q := by
  obtain ⟨fields, hdata, hperm⟩ := Value.data_perm (fields_data p)
  have hkeys : (fields.map Prod.fst).Nodup := (hperm.map Prod.fst).nodup_iff.2 payloadKeys_nodup
  have hget : ∀ k, Value.get fields k = Value.get p.fields k := Value.get_perm hperm hkeys
  refine ⟨fields, hdata, ⟨hperm.length_eq, fun k hk => (hperm.map Prod.fst).mem_iff.2 hk, hget _, hget _⟩, fun q => ?_⟩
  have htext : ∀ k, textOf fields k = textOf p.fields k := fun k => by rw [textOf, hget, textOf]
  have hdestination : destinationOf fields = destinationOf p.fields := by rw [destinationOf, hget, destinationOf]
  constructor
  · rintro ⟨⟩
    constructor <;> simpa only [← htext, ← hdestination]
  · rintro ⟨⟩
    constructor <;> simpa only [htext, hdestination]

/-- **A payload is read back from its canonical form**, if it is valid. -/
theorem readPayload_data (hreads : Reads p.fields p) :
    readPayload p.toValue.data = if ValidPayload p then some p else none := by
  obtain ⟨fields, hdata, hshape, hread⟩ := reads_data p
  rw [hdata]
  split
  · next hvalid => exact readPayload_eq_some.2 ⟨hshape, (hread p).2 hreads, hvalid⟩
  · next hinvalid =>
    refine Option.eq_none_iff_forall_ne_some.2 fun q hq => hinvalid ?_
    obtain ⟨-, hq, hvalid⟩ := readPayload_eq_some.1 hq
    exact ((hread q).1 hq).unique ▸ hvalid

/-- No other payload is read from it. -/
theorem eq_of_readPayload_data (h : readPayload p.toValue.data = some q) : q = p := by
  obtain ⟨fields, hdata, -, hread⟩ := reads_data p
  rw [hdata] at h
  exact ((hread q).1 (readPayload_eq_some.1 h).2.1).unique

/-! ## Tokens -/

/-- Bytes that are the UTF-8 form of the text they are read as. -/
def IsUtf8 (bytes : Bytes) : Prop := (fromUtf8 bytes).utf8 = bytes

instance (bytes : Bytes) : Decidable (IsUtf8 bytes) := inferInstanceAs (Decidable (_ = _))

/-- The bytes in the first part of a token. -/
def payloadPart (token : Text) : Bytes := fromBase64url ((token.splitOn (unit '.')).headD [])

theorem fromUtf8_payloadBytes (p : CapabilityPayload) : fromUtf8 (payloadBytes p) = p.toValue.canonical :=
  fromUtf8_utf8 (Value.isWellFormed_canonical _)

theorem payloadBytes_ne_nil (p : CapabilityPayload) : payloadBytes p ≠ [] := by
  intro h
  have hread := fromUtf8_payloadBytes p
  rw [h] at hread
  cases hread

theorem hmac_ne_nil (c : Crypto) (key message : Bytes) : c.hmac key message ≠ [] := by
  intro h
  have hlength := c.hmac_length key message
  rw [h] at hlength
  cases hlength

theorem parts_sign (c : Crypto) (codec : CapabilityCodec) (p : CapabilityPayload) :
    parts (sign c codec p) = some (payloadBytes p, c.hmac codec.secret (payloadBytes p)) :=
  parts_of_bytes (payloadBytes_ne_nil p) (hmac_ne_nil c _ _)

theorem payloadPart_of_parts (h : parts s = some (bytes, mac)) : payloadPart s = bytes := by
  have hs := eq_of_parts h
  have hjoin : s = [unit '.'].intercalate [toBase64url bytes, toBase64url mac] := by simp [hs, List.intercalate]
  rw [payloadPart, hjoin, List.splitOn_intercalate _ (by simp [stop_notMem_toBase64url]) (by simp)]
  exact fromBase64url_toBase64url bytes

/-- What is known of a token that is opened. -/
structure Opened (c : Crypto) (codec : CapabilityCodec) (token : Text) (p : CapabilityPayload) (bytes : Bytes) : Prop where
  parts : parts token = some (bytes, c.hmac codec.secret bytes)
  canonical : p.toValue.canonical = fromUtf8 bytes
  /-- The payload is what is read of the text. -/
  read : ∃ parsed, parse (fromUtf8 bytes) = some parsed ∧ readPayload parsed = some p

theorem opened_of_openToken (h : openToken c codec token = some p) : ∃ bytes, Opened c codec token p bytes := by
  unfold openToken at h
  split at h
  · cases h
  next bytes mac hparts =>
  split at h
  · cases h
  next hmac =>
  split at h
  · cases h
  next parsed hparsed =>
  split at h
  · cases h
  next q hread =>
  split at h
  · next hcanonical =>
    cases h
    rw [not_or, not_not] at hmac
    refine ⟨bytes, by rw [hparts, not_not.1 hmac.2], ?_, parsed, hparsed, hread⟩
    rw [← canonical_of_read (distinct_of_parse hparsed) hread, hcanonical]
  · cases h

theorem openToken_of_parts {parsed : Value} (hparts : parts token = some (bytes, c.hmac codec.secret bytes))
    (hparsed : parse (fromUtf8 bytes) = some parsed) (hcanonical : parsed.canonical = fromUtf8 bytes) :
    openToken c codec token = readPayload parsed := by
  unfold openToken
  simp only [hparts, hparsed]
  rw [if_neg (by simp [c.hmac_length])]
  cases readPayload parsed with
  | none => rfl
  | some p => exact if_pos hcanonical

/-- **A signed payload is opened again**, if it is valid. -/
theorem openToken_sign (c : Crypto) (codec : CapabilityCodec) (hreads : Reads p.fields p) :
    openToken c codec (sign c codec p) = if ValidPayload p then some p else none := by
  have hparsed : parse (fromUtf8 (payloadBytes p)) = some p.toValue.data := by
    rw [fromUtf8_payloadBytes, parse_canonical (distinct_toValue p)]
  have hcanonical : p.toValue.data.canonical = fromUtf8 (payloadBytes p) := by
    rw [fromUtf8_payloadBytes]
    exact Value.canonical_data payloadKeys_nodup (fields_data p)
  rw [openToken_of_parts (parts_sign c codec p) hparsed hcanonical, readPayload_data hreads]

theorem openToken_of_verify (h : verify c codec now token = some p) : openToken c codec token = some p :=
  (Option.filter_eq_some_iff.1 h).1

/-! ## One spelling -/

/-- Two codecs sign alike when they have one secret. -/
theorem sign_congr (c : Crypto) {codec' : CapabilityCodec} (h : codec.secret = codec'.secret) (p : CapabilityPayload) :
    sign c codec p = sign c codec' p := by
  rw [sign, sign, h]

/-- **A token is the one signed for its payload** exactly when its payload bytes are UTF-8. -/
theorem eq_sign_iff (h : verify c codec now s = some p) : s = sign c codec p ↔ IsUtf8 (payloadPart s) := by
  obtain ⟨bytes, hopened⟩ := opened_of_openToken (openToken_of_verify h)
  rw [payloadPart_of_parts hopened.parts]
  constructor
  · intro hs
    have hparts := hopened.parts
    rw [hs, parts_sign] at hparts
    obtain ⟨hbytes, -⟩ := Prod.mk.inj (Option.some.inj hparts)
    rw [IsUtf8, ← hopened.canonical, ← hbytes]
    rfl
  · intro hutf8
    have hbytes : payloadBytes p = bytes := by rw [payloadBytes, hopened.canonical, hutf8]
    rw [eq_of_parts hopened.parts, sign, hbytes]

/-! ## What was issued -/

/-- The payloads that codecs with one secret have issued, the latest first. -/
inductive Issues (c : Crypto) (secret : Bytes) : List CapabilityPayload → Prop where
  | none : Issues c secret []
  | next {payloads : List CapabilityPayload} {codec : CapabilityCodec} {random : Fin 16 → UInt8} {now : Numeric}
    {i : CapabilityInput} {token : Text} {p : CapabilityPayload} (hsecret : codec.secret = secret)
    (h : issue c codec random now i = some (token, p)) (rest : Issues c secret payloads) :
    Issues c secret (p :: payloads)

/-- No MAC was made up for the token: if its MAC is right, its bytes were signed for an issued payload. -/
def Unforged (c : Crypto) (codec : CapabilityCodec) (issued : List CapabilityPayload) (s : Text) : Prop :=
  ∀ bytes mac, parts s = some (bytes, mac) → c.hmac codec.secret bytes = mac → ∃ p ∈ issued, bytes = payloadBytes p

theorem isUtf8_payloadBytes (p : CapabilityPayload) : IsUtf8 (payloadBytes p) := by
  rw [IsUtf8, fromUtf8_payloadBytes]
  rfl

theorem issue_token {random : Fin 16 → UInt8} {i : CapabilityInput} (h : issue c codec random now i = some (token, p)) :
    token = sign c codec p := by
  unfold issue at h
  split at h
  · split at h
    · cases h
    split at h
    · cases h
    split at h
    · cases h
    split at h
    · cases h
    obtain ⟨htoken, hp⟩ := Prod.mk.inj (Option.some.inj h)
    rw [← htoken, ← hp]
  · cases h

/-- An issued payload was returned with the token signed for it. -/
theorem Issues.call {issued : List CapabilityPayload} (h : Issues c codec.secret issued) (hp : p ∈ issued) :
    ∃ codec' random now i, codec'.secret = codec.secret ∧
      issue c codec' random now i = some (sign c codec p, p) := by
  induction h with
  | none => cases hp
  | @next _ codec' random now i token q hsecret hissue _ ih =>
    rcases List.mem_cons.1 hp with rfl | hp
    · exact ⟨codec', random, now, i, hsecret, by rw [hissue, issue_token hissue, sign_congr c hsecret]⟩
    · exact ih hp

/-- The payload of a token whose bytes were signed is the one they were signed for. -/
theorem eq_of_payloadBytes (h : verify c codec now s = some p) (hparts : parts s = some (payloadBytes q, mac)) : p = q := by
  obtain ⟨bytes, hopened⟩ := opened_of_openToken (openToken_of_verify h)
  obtain ⟨hbytes, -⟩ := Prod.mk.inj (Option.mem_unique hopened.parts hparts)
  obtain ⟨parsed, hparsed, hread⟩ := hopened.read
  rw [hbytes, fromUtf8_payloadBytes, parse_canonical (distinct_toValue q), Option.some.injEq] at hparsed
  rw [← hparsed] at hread
  exact eq_of_readPayload_data hread

/-- **Tokens are spelled in one way as far as they are UTF-8.** A token that verifies is the one
signed for its payload exactly when its payload bytes are UTF-8. If its MAC was not made up, it
is, and a call of `issue` with the same secret returned both. -/
theorem verify_unmalleable {c : Crypto} {codec : CapabilityCodec} {now : Numeric} {s : Text} {p : CapabilityPayload}
    (h : verify c codec now s = some p) :
    (s = sign c codec p ↔ IsUtf8 (payloadPart s)) ∧
      ∀ issued, Issues c codec.secret issued → Unforged c codec issued s →
        p ∈ issued ∧ s = sign c codec p ∧ ∃ codec' random now' i, codec'.secret = codec.secret ∧
          issue c codec' random now' i = some (s, p) := by
  refine ⟨eq_sign_iff h, fun issued hissued hunforged => ?_⟩
  obtain ⟨bytes, hopened⟩ := opened_of_openToken (openToken_of_verify h)
  obtain ⟨q, hq, hbytes⟩ := hunforged bytes _ hopened.parts rfl
  have hparts := hopened.parts
  rw [hbytes] at hparts
  have hpq : p = q := eq_of_payloadBytes h hparts
  have hs : s = sign c codec p := by
    rw [eq_sign_iff h, payloadPart_of_parts hparts]
    exact isUtf8_payloadBytes q
  refine ⟨hpq ▸ hq, hs, ?_⟩
  rw [hs]
  exact hissued.call (hpq ▸ hq)

/-! ## A second spelling -/

def samplePayload (tool : Text) : CapabilityPayload where
  capabilityId := "c"
  executionId := "e"
  agentId := "a"
  decisionId := "d"
  action := "read"
  tool := tool
  resource := "r"
  operation := "read"
  inputHash := List.replicate 64 (unit 'a')
  destination := none
  policyHash := "p"
  policyIssuanceId := "i"
  issuedAt := "1970-01-01T00:00:01.000Z"
  expiresAt := "1970-01-01T00:00:31.000Z"
  nonce := List.replicate 22 (unit 'A')

/-- The payload bytes for a tool `Q`, with a byte in place of the `Q` that no UTF-8 has. -/
def rawBytes : Bytes := (payloadBytes (samplePayload "Q")).map fun b => if b = 0x51 then 0xFF else b

/-- The HMAC of the raw bytes under a secret of zeros. -/
def rawMac : Bytes :=
  [97, 33, 74, 52, 20, 193, 48, 247, 251, 36, 186, 134, 115, 179, 248, 73, 81, 47, 235, 229, 58, 162, 117, 152, 246, 127,
    193, 20, 6, 191, 233, 92]

/-- The HMAC of the bytes `sign` makes of the payload that is read from them. -/
def replacedMac : Bytes :=
  [255, 185, 248, 172, 56, 227, 245, 160, 136, 73, 5, 193, 5, 221, 121, 132, 43, 87, 189, 203, 15, 26, 183, 246, 225, 208,
    99, 32, 183, 43, 88, 151]

/-- The primitives at the sample's inputs. -/
def sampleCrypto : Crypto where
  sha256 := fun _ => "74234e98afe7498fb5daf1f36ac2d78acc339464f950703b8c019892f982b90b"
  hmac := fun _ message => if message = rawBytes then rawMac else replacedMac
  sha256_isHash := fun _ => by decide +kernel
  hmac_length := fun _ message => by
    split <;> rfl

def sampleCodec : CapabilityCodec := ⟨List.replicate 32 0, 30, by decide, by decide, by decide⟩

def rawToken : Text := toBase64url rawBytes ++ unit '.' :: toBase64url rawMac

theorem verify_rawToken : verify sampleCrypto sampleCodec (.finite 1000) rawToken = some (samplePayload [0xFFFD]) := by
  decide +kernel

/-- The byte is read as a replacement character, which is signed as three. -/
theorem verify_unmalleable_raw : rawToken ≠ sign sampleCrypto sampleCodec (samplePayload [0xFFFD]) := fun h =>
  absurd ((verify_unmalleable verify_rawToken).1.1 h) (by decide +kernel)

/-- Two tokens verify to one payload. -/
theorem not_signed_rawToken :
    ¬ ∀ (c : Crypto) (codec : CapabilityCodec) (now : Numeric) (s : Text) (p : CapabilityPayload),
      verify c codec now s = some p → s = sign c codec p := fun h =>
  absurd ((eq_sign_iff verify_rawToken).1 (h _ _ _ _ _ verify_rawToken)) (by decide +kernel)

end Tna.Capability
