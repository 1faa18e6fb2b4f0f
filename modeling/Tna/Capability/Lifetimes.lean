import Tna.Auditor.Instants
import Tna.Capability.Tokens

/-!
# How long a capability lives

A token verifies from the instant it was issued at until the one it expires at. The
clock is any number: `new Date` keeps its whole milliseconds, and the latest expiry is
a sum of doubles. Two things go wrong at the edges. An expiry in the year 10000 is
written with a sign, which is no timestamp, and a sum may be rounded up to the next
millisecond.
-/

namespace Tna.Capability

open Tna.Js Tna.Lib
open Tna.Auditor (dateParse toIsoString dateParse_toIsoString dateParse_lt not_isIsoTimestamp_toIsoString)
open Tna.Broker (validText isHash isControl)

/-! ## Whole milliseconds -/

variable {n millis : ℤ} {q : ℚ} {t token nonce : Text} {c : Crypto} {codec : CapabilityCodec} {i : CapabilityInput}
  {p : CapabilityPayload}

theorem truncate_le (h : q ≤ n) : truncate q ≤ n := by
  unfold truncate
  split
  · exact Int.floor_le_iff.2 (by linarith)
  · exact Int.ceil_le.2 h

theorem le_truncate (h : n ≤ q) : n ≤ truncate q := by
  unfold truncate
  split
  · exact Int.le_floor.2 h
  · exact Int.le_ceil_iff.2 (by linarith)

theorem le_truncate_iff (hn : 0 < n) : n ≤ truncate q ↔ n ≤ q := by
  refine ⟨fun h => ?_, le_truncate⟩
  unfold truncate at h
  split at h
  · exact Int.le_floor.1 h
  next hneg =>
    have hceil : ⌈q⌉ ≤ 0 := Int.ceil_le.2 (by simpa using (not_le.1 hneg).le)
    omega

theorem truncate_lt_add_one (q : ℚ) : (truncate q : ℚ) < q + 1 := by
  unfold truncate
  split
  · linarith [Int.floor_le q]
  · exact Int.ceil_lt_add_one q

theorem le_truncate_of_neg (h : q < 0) : q ≤ truncate q := by
  rw [truncate, if_neg (not_le.2 h)]
  exact Int.le_ceil q

/-! ## Texts that are valid -/

theorem validText_of_units (hne : t ≠ []) (h : ∀ c ∈ t, isControl c = false) : validText t = true := by
  rw [validText, Bool.and_eq_true, Bool.not_eq_true', List.any_eq_false]
  exact ⟨by simpa using hne, fun c hc => by simp [h c hc]⟩

theorem isControl_of_isAlnum {c : CodeUnit} (h : isAlnum c = true) : isControl c = false := by
  simp only [isAlnum, isDigit, isUpper, isLower, Bool.or_eq_true, Bool.and_eq_true, decide_eq_true_eq,
    UInt16.le_iff_toNat_le] at h
  have hzero : (unit '0').toNat = 48 := rfl
  have hnine : (unit '9').toNat = 57 := rfl
  have hA : (unit 'A').toNat = 65 := rfl
  have hZ : (unit 'Z').toNat = 90 := rfl
  have ha : (unit 'a').toNat = 97 := rfl
  have hz : (unit 'z').toNat = 122 := rfl
  have h32 : (32 : CodeUnit).toNat = 32 := rfl
  have h127 : (127 : CodeUnit).toNat = 127 := rfl
  simp only [isControl, Bool.or_eq_false_iff, decide_eq_false_iff_not, beq_eq_false_iff_ne, UInt16.lt_iff_toNat_lt, ne_eq,
    ← UInt16.toNat_inj]
  omega

theorem isAlnum_of_isDigit {c : CodeUnit} (h : isDigit c = true) : isAlnum c = true := by
  simp [isAlnum, h]

theorem validText_of_isHash (h : isHash t = true) : validText t = true := by
  simp only [isHash, Bool.and_eq_true, decide_eq_true_eq, List.all_eq_true] at h
  refine validText_of_units (fun hnil => by simp [hnil] at h) fun c hc => isControl_of_isAlnum ?_
  rcases Bool.or_eq_true _ _ ▸ h.2 c hc with hdigit | hletter
  · exact isAlnum_of_isDigit hdigit
  · simp only [Bool.and_eq_true, decide_eq_true_eq, UInt16.le_iff_toNat_le] at hletter
    have hf : (unit 'f').toNat = 102 := rfl
    have hz : (unit 'z').toNat = 122 := rfl
    simp only [isAlnum, isLower, Bool.or_eq_true, Bool.and_eq_true, decide_eq_true_eq, UInt16.le_iff_toNat_le]
    omega

theorem validText_of_isNonce (h : isNonce t = true) : validText t = true := by
  simp only [isNonce, Bool.and_eq_true, decide_eq_true_eq, List.all_eq_true] at h
  refine validText_of_units (fun hnil => by simp [hnil] at h) fun c hc => ?_
  have hunit := h.2 c hc
  simp only [isBase64urlUnit, Bool.or_eq_true, beq_iff_eq] at hunit
  rcases hunit with (halnum | rfl) | rfl
  · exact isControl_of_isAlnum halnum
  · decide
  · decide

theorem mem_of_matchesShape {shape : Text} (h : Tna.Ledger.matchesShape shape t = true) :
    ∀ c ∈ t, isDigit c = true ∨ c ∈ shape := by
  induction shape generalizing t with
  | nil =>
    cases t with
    | nil => exact List.forall_mem_nil _
    | cons c t => cases h
  | cons s shape ih =>
    cases t with
    | nil => exact List.forall_mem_nil _
    | cons d t =>
      rw [Tna.Ledger.matchesShape, Bool.and_eq_true] at h
      refine List.forall_mem_cons.2 ⟨?_, fun c hc => (ih h.2 c hc).imp_right (List.mem_cons_of_mem _)⟩
      split at h
      · exact .inl h.1
      · exact .inr (eq_of_beq h.1 ▸ List.mem_cons_self ..)

theorem validText_of_parseIso (h : parseIso t = true) : validText t = true := by
  obtain ⟨millis, hparse, -⟩ := (Option.any_eq_true ..).1 h
  rw [dateParse] at hparse
  split at hparse
  next hiso =>
    simp only [Tna.Ledger.isIsoTimestamp, Bool.and_eq_true] at hiso
    have hshape := hiso.1.1
    refine validText_of_units (fun hnil => ?_) fun c hc => ?_
    · rw [hnil] at hshape
      exact absurd hshape (by decide)
    · have hall : ∀ c ∈ Tna.Ledger.timestampShape, isControl c = false := by
        have hclean : (Tna.Ledger.timestampShape.all fun c => !isControl c) = true := by decide
        simpa using hclean
      rcases mem_of_matchesShape hshape c hc with hdigit | hmem
      · exact isControl_of_isAlnum (isAlnum_of_isDigit hdigit)
      · exact hall c hmem
  · cases hparse

theorem length_sextets (bytes : List UInt8) : (sextets bytes).length = (bytes.length * 4 + 2) / 3 := by
  fun_induction sextets bytes with
  | case1 => simp
  | case2 => simp
  | case3 => simp
  | case4 a b c rest ih =>
    simp only [List.length_cons, ih]
    omega

theorem isNonce_random (random : Fin 16 → UInt8) : isNonce (toBase64url (List.ofFn random)) = true := by
  simp only [isNonce, Bool.and_eq_true, decide_eq_true_eq, List.all_eq_true]
  refine ⟨?_, toBase64url_units _⟩
  rw [toBase64url, List.length_map, length_sextets, List.length_ofFn]

/-- A text that an instant of the years 0 to 9999 is written as. -/
theorem parseIso_toIsoString (h0 : -62167219200000 ≤ millis) (h1 : millis < 253402300800000) :
    parseIso (toIsoString millis) = true := by
  rw [parseIso, (dateParse_toIsoString h0 h1).2]
  simp only [Option.any_some, decide_true]

theorem not_parseIso_toIsoString (h0 : 253402300800000 ≤ millis) (h1 : millis < 253402387200000) :
    parseIso (toIsoString millis) = false := by
  have hnone : dateParse (toIsoString millis) = none := by
    rw [dateParse, if_neg (Bool.eq_false_iff.1 (not_isIsoTimestamp_toIsoString h0 h1))]
  rw [parseIso, hnone, Option.any_none]

/-! ## What is issued -/

/-- What a call of `issue` has checked, and what it has made. -/
structure IssuedAt (c : Crypto) (codec : CapabilityCodec) (issuedAt : ℚ) (i : CapabilityInput) (token : Text)
    (p : CapabilityPayload) : Prop where
  valid : validInput i = true
  requested : ∀ r, i.requested = some r → issuedAt ≤ r
  token : token = sign c codec p
  payload : ∃ random : Fin 16 → UInt8, p = i.payload c (toIsoString (truncate issuedAt))
    (toIsoString (truncate (codec.expiry issuedAt i.requested))) (toBase64url (List.ofFn random))

theorem isoOf_eq_some (h : isoOf q = some t) : t = toIsoString (truncate q) := by
  unfold isoOf at h
  split at h
  · exact (Option.some.inj h).symm
  · cases h

theorem issuedAt_of_issue {random : Fin 16 → UInt8} {issuedAt : ℚ}
    (h : issue c codec random (.finite issuedAt) i = some (token, p)) : IssuedAt c codec issuedAt i token p := by
  have hchecks : validInput i = true ∧ (∀ r, i.requested = some r → issuedAt ≤ r) ∧
      p = i.payload c (toIsoString (truncate issuedAt)) (toIsoString (truncate (codec.expiry issuedAt i.requested)))
        (toBase64url (List.ofFn random)) := by
    have h' := h
    unfold issue at h'
    simp only at h'
    split at h'
    · cases h'
    next hvalid =>
    split at h'
    · cases h'
    next hissuedAt =>
    split at h'
    · cases h'
    next hrequested =>
    split at h'
    · cases h'
    next hexpiresAt =>
    refine ⟨by simpa using hvalid, fun r hr => ?_, ?_⟩
    · rw [hr, Option.any_some, decide_eq_true_eq, not_lt] at hrequested
      exact hrequested
    · rw [← isoOf_eq_some hissuedAt, ← isoOf_eq_some hexpiresAt]
      exact (Prod.mk.inj (Option.some.inj h')).2.symm
  exact ⟨hchecks.1, hchecks.2.1, issue_token h, random, hchecks.2.2⟩

/-- The texts of an issued payload are read from its fields. -/
theorem reads_issued {issuedAt expiresAt : Text} (h : validInput i = true) (hissuedAt : validText issuedAt = true)
    (hexpiresAt : validText expiresAt = true) (hnonce : validText nonce = true) :
    Reads (i.payload c issuedAt expiresAt nonce).fields (i.payload c issuedAt expiresAt nonce) := by
  simp only [validInput, Bool.and_eq_true] at h
  obtain ⟨⟨⟨⟨⟨⟨⟨⟨⟨⟨⟨⟨h₁, h₂⟩, h₃⟩, h₄⟩, h₅⟩, h₆⟩, h₇⟩, h₈⟩, hhash⟩, hdestination⟩, h₁₁⟩, h₁₂⟩, -⟩ := h
  have hinputHash : validText (i.inputHash.getD (c.sha256 "null")) = true := by
    cases hi : i.inputHash with
    | none => exact validText_of_isHash (c.sha256_isHash _)
    | some t =>
      rw [hi, Option.all_some] at hhash
      exact validText_of_isHash hhash
  exact ⟨textOf_eq_some.2 ⟨rfl, h₁⟩, textOf_eq_some.2 ⟨rfl, h₂⟩, textOf_eq_some.2 ⟨rfl, h₃⟩, textOf_eq_some.2 ⟨rfl, h₄⟩,
    textOf_eq_some.2 ⟨rfl, h₅⟩, textOf_eq_some.2 ⟨rfl, h₆⟩, textOf_eq_some.2 ⟨rfl, h₇⟩, textOf_eq_some.2 ⟨rfl, h₈⟩,
    textOf_eq_some.2 ⟨rfl, hinputHash⟩, destinationOf_eq_some.2 ⟨rfl, hdestination⟩, textOf_eq_some.2 ⟨rfl, h₁₁⟩,
    textOf_eq_some.2 ⟨rfl, h₁₂⟩, textOf_eq_some.2 ⟨rfl, hissuedAt⟩, textOf_eq_some.2 ⟨rfl, hexpiresAt⟩,
    textOf_eq_some.2 ⟨rfl, hnonce⟩⟩

/-- **What verifies of an issued token**, with timestamps for both its instants. -/
theorem verify_issued {issuedAtIso expiresAtIso : Text} {issuedAt expiresAt : ℤ} (h : validInput i = true)
    (hnonce : isNonce nonce = true) (hissuedAt : parseIso issuedAtIso = true) (hexpiresAt : parseIso expiresAtIso = true)
    (hparsed : dateParse issuedAtIso = some issuedAt) (hparsed' : dateParse expiresAtIso = some expiresAt)
    (hle : issuedAt ≤ expiresAt) (hsixty : expiresAt - issuedAt ≤ 60000) (now : ℚ) :
    verify c codec (.finite now) (sign c codec (i.payload c issuedAtIso expiresAtIso nonce)) =
      if (issuedAt : ℚ) ≤ now ∧ now < (expiresAt : ℚ) then some (i.payload c issuedAtIso expiresAtIso nonce) else none := by
  have hhash : isHash (i.inputHash.getD (c.sha256 "null")) = true := by
    simp only [validInput, Bool.and_eq_true] at h
    cases hi : i.inputHash with
    | none => exact c.sha256_isHash _
    | some t =>
      have hall := h.1.1.1.1.2
      rwa [hi, Option.all_some] at hall
  have hordered : ordered issuedAtIso expiresAtIso = true := by
    simp only [ordered, hparsed, hparsed', decide_eq_true hle]
  have hreads := reads_issued (c := c) h (validText_of_parseIso hissuedAt) (validText_of_parseIso hexpiresAt)
    (validText_of_isNonce hnonce)
  have hcurrent : isCurrent (.finite now) (i.payload c issuedAtIso expiresAtIso nonce) =
      decide ((issuedAt : ℚ) ≤ now ∧ now < (expiresAt : ℚ)) := by
    simp only [isCurrent, CapabilityInput.payload, hparsed, hparsed', hsixty, true_and]
  have hvalid : ValidPayload (i.payload c issuedAtIso expiresAtIso nonce) := ⟨hhash, hissuedAt, hexpiresAt, hnonce, hordered⟩
  rw [verify, openToken_sign c codec hreads, if_pos hvalid, Option.filter_some, hcurrent]
  simp only [decide_eq_true_eq]

/-- A token whose expiry is no timestamp does not verify. -/
theorem verify_of_not_parseIso (h : parseIso p.expiresAt = false) (now : Numeric) :
    verify c codec now (sign c codec p) = none := by
  refine Option.eq_none_iff_forall_ne_some.2 fun q hq => ?_
  obtain ⟨bytes, hopened⟩ := opened_of_openToken (openToken_of_verify hq)
  have hqp : q = p := eq_of_payloadBytes hq (parts_sign c codec p)
  obtain ⟨parsed, -, hread⟩ := hopened.read
  have hvalid : parseIso q.expiresAt = true := by
    cases parsed with
    | obj fields => exact (readPayload_eq_some.1 hread).2.2.expiresAt
    | _ => cases hread
  rw [hqp, h] at hvalid
  cases hvalid

/-! ## Lifetimes -/

/-- The instants of the years 0 to 9999. -/
def InRange (instant : ℚ) : Prop := -62167219200000 ≤ instant ∧ instant < 253402300800000

/-- The instants a payload is issued at and expires at. -/
def issuedInstant (issuedAt : ℚ) : ℤ := truncate issuedAt

def CapabilityCodec.expiryInstant (codec : CapabilityCodec) (issuedAt : ℚ) (requested : Option ℤ) : ℤ :=
  truncate (codec.expiry issuedAt requested)

/-- **What an issued token promises**: its texts are those of two instants, it verifies at any
later time exactly between them, and it lives no longer than its codec, a minute and the
expiry that was asked for allow. -/
structure Promise (c : Crypto) (codec : CapabilityCodec) (t : ℚ) (i : CapabilityInput) (token : Text)
    (p : CapabilityPayload) : Prop where
  issuedAt : p.issuedAt = toIsoString (issuedInstant t)
  expiresAt : p.expiresAt = toIsoString (codec.expiryInstant t i.requested)
  verified : ∀ now, t ≤ now → verify c codec (.finite now) token =
    if (issuedInstant t : ℚ) ≤ now ∧ now < (codec.expiryInstant t i.requested : ℚ) then some p else none
  nonneg : issuedInstant t ≤ codec.expiryInstant t i.requested
  ttl : codec.expiryInstant t i.requested - issuedInstant t ≤ codec.ttlSeconds * 1000
  minute : codec.expiryInstant t i.requested - issuedInstant t ≤ 60000
  requested : ∀ r, i.requested = some r → codec.expiryInstant t i.requested ≤ r

/-- The first whole millisecond a token should not live to see. -/
def CapabilityCodec.overdue (codec : CapabilityCodec) (issuedAt : ℚ) : ℤ := issuedInstant issuedAt + codec.ttlSeconds * 1000 + 1

/-- The latest expiry is rounded up to a whole millisecond. -/
def CapabilityCodec.RoundsUp (codec : CapabilityCodec) (issuedAt : ℚ) : Prop :=
  (codec.overdue issuedAt : ℚ) ≤ codec.maximumExpiry issuedAt

section
variable {codec : CapabilityCodec} {t : ℚ}

/-- The exact sum that the latest expiry is rounded from. -/
theorem sum_bound (h : InRange t) : |t + (codec.ttlSeconds * 1000 : ℕ)| < 2 ^ 52 := by
  have hle : ((codec.ttlSeconds * 1000 : ℕ) : ℚ) ≤ 60000 := by
    exact_mod_cast Nat.mul_le_mul_right 1000 codec.ttlSeconds_le
  have hpos : (0 : ℚ) ≤ (codec.ttlSeconds * 1000 : ℕ) := Nat.cast_nonneg _
  obtain ⟨h0, h1⟩ := h
  rw [abs_lt]
  constructor <;> linarith

theorem issuedInstant_mem (h : InRange t) :
    -62167219200000 ≤ issuedInstant t ∧ issuedInstant t < 253402300800000 := by
  refine ⟨le_truncate (by exact_mod_cast h.1), ?_⟩
  rw [← not_le, issuedInstant, le_truncate_iff (by norm_num), not_le]
  exact_mod_cast h.2

variable {requested : Option ℤ}

/-- The expiry is no earlier than the instant of issue. -/
theorem le_expiry (h : InRange t) (hrequested : ∀ r, requested = some r → t ≤ r) :
    (issuedInstant t : ℚ) ≤ codec.expiry t requested := by
  have hsum : (issuedInstant t : ℚ) ≤ codec.maximumExpiry t := by
    refine intCast_le_rounded (sum_bound h) ?_
    have hlt := truncate_lt_add_one t
    have hone : (1 : ℚ) ≤ (codec.ttlSeconds * 1000 : ℕ) := by
      have hpos := codec.ttlSeconds_pos
      exact_mod_cast (by omega : 1 ≤ codec.ttlSeconds * 1000)
    rw [issuedInstant]
    linarith
  cases requested with
  | none => exact hsum
  | some r => exact le_min (by exact_mod_cast truncate_le (hrequested r rfl)) hsum

/-- **The expiry is overdue** exactly when the sum is rounded up and nothing earlier was asked for. -/
theorem overdue_le_iff (h : InRange t) :
    codec.overdue t ≤ codec.expiryInstant t requested ↔
      codec.RoundsUp t ∧ ∀ r, requested = some r → codec.overdue t ≤ r := by
  have hexpiry : (codec.overdue t : ℚ) ≤ codec.expiry t requested ↔
      codec.RoundsUp t ∧ ∀ r, requested = some r → codec.overdue t ≤ r := by
    cases requested with
    | none => simp [CapabilityCodec.expiry, CapabilityCodec.RoundsUp]
    | some r =>
      rw [CapabilityCodec.expiry, le_min_iff, CapabilityCodec.RoundsUp, and_comm]
      simp
  rw [← hexpiry]
  rcases lt_or_ge t 0 with hneg | hnonneg
  · -- before the epoch the milliseconds are rounded towards it, and the sum stays below
    have hsum : codec.maximumExpiry t ≤ ((issuedInstant t + codec.ttlSeconds * 1000 : ℤ) : ℚ) := by
      refine rounded_le_intCast (sum_bound h) ?_
      have hle := le_truncate_of_neg hneg
      rw [issuedInstant]
      push_cast
      linarith
    have hle : codec.expiry t requested ≤ ((issuedInstant t + codec.ttlSeconds * 1000 : ℤ) : ℚ) := by
      cases requested with
      | none => exact hsum
      | some r => exact (min_le_right _ _).trans hsum
    refine iff_of_false ?_ ?_
    · have htruncate := truncate_le hle
      rw [CapabilityCodec.overdue, CapabilityCodec.expiryInstant]
      omega
    · intro hge
      have hint : codec.overdue t ≤ issuedInstant t + codec.ttlSeconds * 1000 := by exact_mod_cast hge.trans hle
      rw [CapabilityCodec.overdue] at hint
      omega
  · have hpos : 0 < codec.overdue t := by
      have hzero : 0 ≤ issuedInstant t := le_truncate (by exact_mod_cast hnonneg)
      rw [CapabilityCodec.overdue]
      omega
    exact le_truncate_iff hpos

/-- A sum in range is rounded to one of the first day of the year 10000 at the latest. -/
theorem maximumExpiry_le (h : InRange t) : codec.maximumExpiry t ≤ ((253402300860000 : ℤ) : ℚ) := by
  refine rounded_le_intCast (sum_bound h) ?_
  have hle : ((codec.ttlSeconds * 1000 : ℕ) : ℚ) ≤ 60000 := by
    exact_mod_cast Nat.mul_le_mul_right 1000 codec.ttlSeconds_le
  have hlt := h.2
  push_cast at hle ⊢
  linarith

/-- A clock that shows whole milliseconds never has its sum rounded. -/
theorem not_roundsUp_intCast {n : ℤ} (h : InRange n) : ¬ codec.RoundsUp n := by
  intro hup
  have hsum : codec.maximumExpiry n ≤ ((n + codec.ttlSeconds * 1000 : ℤ) : ℚ) :=
    rounded_le_intCast (sum_bound h) (by push_cast; linarith)
  have hle : codec.overdue n ≤ n + codec.ttlSeconds * 1000 := by exact_mod_cast hup.trans hsum
  have hn : n ≤ issuedInstant n := le_truncate le_rfl
  rw [CapabilityCodec.overdue] at hle
  omega

end

theorem requested_lt {r : ℤ} (h : i.requested = some r) : r < 253402300800000 := by
  obtain ⟨text, -, hparsed⟩ := Option.bind_eq_some_iff.1 h
  exact dateParse_lt hparsed

/-- A token issued without a requested expiry that keeps its promise expires before the year 10000. -/
theorem Promise.maximumExpiry_lt {t : ℚ} (hrange : InRange t) (hissued : IssuedAt c codec t i token p)
    (hpromise : Promise c codec t i token p) (hnone : i.requested = none) : codec.maximumExpiry t < 253402300800000 := by
  by_contra hlate
  rw [not_lt] at hlate
  have hexpiry : codec.expiryInstant t i.requested = truncate (codec.maximumExpiry t) := by rw [hnone]; rfl
  have hge : 253402300800000 ≤ codec.expiryInstant t i.requested := by
    rw [hexpiry]
    exact le_truncate (by exact_mod_cast hlate)
  have hlt : codec.expiryInstant t i.requested < 253402387200000 := by
    rw [hexpiry]
    exact (truncate_le (maximumExpiry_le hrange)).trans_lt (by norm_num)
  have hnot : parseIso p.expiresAt = false := by
    rw [hpromise.expiresAt]
    exact not_parseIso_toIsoString hge hlt
  have hverified := hpromise.verified (max t (issuedInstant t)) (le_max_left _ _)
  rw [hissued.token, verify_of_not_parseIso hnot, if_pos] at hverified
  · cases hverified
  · refine ⟨le_max_right _ _, max_lt ?_ ?_⟩
    · exact hrange.2.trans_le (by exact_mod_cast hge)
    · exact_mod_cast (issuedInstant_mem hrange).2.trans_le hge

/-- **A token keeps its promise** exactly when an expiry is asked for or the latest one comes before
the year 10000, and the latest expiry is not rounded up to a millisecond that nothing asked for
comes before. -/
theorem promise_iff {c : Crypto} {codec : CapabilityCodec} {random : Fin 16 → UInt8} {t : ℚ} {i : CapabilityInput}
    {token : Text} {p : CapabilityPayload} (hrange : InRange t)
    (h : issue c codec random (.finite t) i = some (token, p)) :
    Promise c codec t i token p ↔
      (i.requested = none → codec.maximumExpiry t < 253402300800000) ∧
        ¬ (codec.RoundsUp t ∧ ∀ r, i.requested = some r → codec.overdue t ≤ r) := by
  obtain ⟨hvalid, hrequested, htoken, random', hp⟩ := issuedAt_of_issue h
  have hexpiresAt : p.expiresAt = toIsoString (codec.expiryInstant t i.requested) := by rw [hp]; rfl
  have hle : issuedInstant t ≤ codec.expiryInstant t i.requested := le_truncate (le_expiry hrange hrequested)
  rw [← overdue_le_iff hrange, not_le]
  constructor
  · intro hpromise
    refine ⟨fun hnone => ?_, ?_⟩
    · exact hpromise.maximumExpiry_lt hrange (issuedAt_of_issue h) hnone
    · have httl := hpromise.ttl
      rw [CapabilityCodec.overdue]
      omega
  · rintro ⟨hlate, hoverdue⟩
    have hasked : ∀ r, i.requested = some r → codec.expiryInstant t i.requested ≤ r := by
      intro r hr
      rw [hr]
      exact truncate_le (min_le_left _ _)
    have hbefore : codec.expiryInstant t i.requested < 253402300800000 := by
      cases hr : i.requested with
      | some r => exact hr ▸ (hasked r hr).trans_lt (requested_lt hr)
      | none =>
        rw [← not_le, CapabilityCodec.expiryInstant, le_truncate_iff (by norm_num), not_le]
        exact_mod_cast hlate hr
    have httl : codec.expiryInstant t i.requested - issuedInstant t ≤ codec.ttlSeconds * 1000 := by
      rw [CapabilityCodec.overdue] at hoverdue
      omega
    have hminute : codec.expiryInstant t i.requested - issuedInstant t ≤ 60000 := by
      have hsixty := codec.ttlSeconds_le
      omega
    have hmin := (issuedInstant_mem hrange).1
    refine ⟨by rw [hp]; rfl, hexpiresAt, fun now _ => ?_, hle, httl, hminute, hasked⟩
    rw [htoken, hp]
    exact verify_issued hvalid (isNonce_random random') (parseIso_toIsoString hmin (hle.trans_lt hbefore))
      (parseIso_toIsoString (hmin.trans hle) hbefore) (dateParse_toIsoString hmin (hle.trans_lt hbefore)).2
      (dateParse_toIsoString (hmin.trans hle) hbefore).2 hle hminute now

/-! ## At the end of the year 9999 -/

def sampleInput : CapabilityInput where
  capabilityId := "c"
  executionId := "e"
  agentId := "a"
  decisionId := "d"
  action := "read"
  tool := "t"
  resource := "r"
  operation := "read"
  inputHash := none
  destination := none
  policyHash := "p"
  policyIssuanceId := "i"
  expiresAt := none

/-- Any instant of the years 0 to 9999 is one to issue the sample at. -/
theorem issue_sampleInput {t : ℚ} (h : InRange t) :
    ∃ token p, issue sampleCrypto sampleCodec (fun _ => 0) (.finite t) sampleInput = some (token, p) := by
  have hissuedAt : isoOf t = some (toIsoString (truncate t)) := by
    rw [isoOf, if_pos]
    rw [abs_le]
    constructor <;> linarith [h.1, h.2]
  have hmax : sampleCodec.maximumExpiry t ≤ _ := maximumExpiry_le h
  have hge : (issuedInstant t : ℚ) ≤ sampleCodec.expiry t none := le_expiry h (by simp)
  have hissued : (-62167219200000 : ℚ) ≤ (issuedInstant t : ℚ) := by exact_mod_cast (issuedInstant_mem h).1
  have hexpiresAt : isoOf (sampleCodec.expiry t none) = some (toIsoString (truncate (sampleCodec.expiry t none))) := by
    rw [isoOf, if_pos]
    rw [abs_le]
    push_cast at hmax
    exact ⟨by linarith, by rw [CapabilityCodec.expiry]; linarith⟩
  have hvalid : validInput sampleInput = true := by decide
  have hrequested : sampleInput.requested = none := rfl
  unfold issue
  simp only [hvalid, Bool.not_true, Bool.false_eq_true, if_false, hissuedAt, hrequested, Option.any_none, hexpiresAt,
    Option.some.injEq, Prod.mk.injEq]
  exact ⟨_, _, rfl, rfl⟩

theorem promise_iff_sampleInput : ∃ token p,
    issue sampleCrypto sampleCodec (fun _ => 0) (.finite (1000 : ℤ)) sampleInput = some (token, p) ∧
      Promise sampleCrypto sampleCodec (1000 : ℤ) sampleInput token p := by
  have hrange : InRange (1000 : ℤ) := by constructor <;> norm_num
  obtain ⟨token, p, hp⟩ := issue_sampleInput hrange
  refine ⟨token, p, hp, (promise_iff hrange hp).2 ⟨fun _ => ?_, fun hup => not_roundsUp_intCast hrange hup.1⟩⟩
  refine lt_of_le_of_lt (rounded_le_intCast (n := 31000) (sum_bound hrange) ?_) (by norm_num)
  norm_num [sampleCodec]

/-- A token issued in the last millisecond of the year 9999 never verifies. -/
theorem not_promise_last :
    ¬ ∀ (c : Crypto) (codec : CapabilityCodec) (random : Fin 16 → UInt8) (t : ℚ) (i : CapabilityInput) (token : Text)
      (p : CapabilityPayload), InRange t → issue c codec random (.finite t) i = some (token, p) →
      Promise c codec t i token p := by
  intro h
  have hrange : InRange (253402300799999 : ℤ) := by constructor <;> norm_num
  obtain ⟨token, p, hp⟩ := issue_sampleInput hrange
  have hlt := (h _ _ _ _ _ _ _ hrange hp).maximumExpiry_lt hrange (issuedAt_of_issue hp) rfl
  have hge : ((253402300829999 : ℤ) : ℚ) ≤ sampleCodec.maximumExpiry (253402300799999 : ℤ) :=
    intCast_le_rounded (sum_bound hrange) (by norm_num [sampleCodec])
  have hcontra := hge.trans_lt hlt
  norm_num at hcontra

end Tna.Capability
