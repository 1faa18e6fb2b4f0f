import Tna.Js.Utf8
import Tna.Lib.Codes

/-!
# Bytes as text

The text that bytes are read as, in UTF-8 and in base64url. Bytes that are no UTF-8 are read
as replacement characters; units outside the alphabets of base64 are passed over.
-/

namespace Tna.Js

open Tna.Lib

/-! ## base64url -/

/-- The alphabet of base64url. -/
def base64urlAlphabet : Text := "ABCDEFGHIJKLMNOPQRSTUVWXYZabcdefghijklmnopqrstuvwxyz0123456789-_"

def base64urlUnit (d : Fin 64) : CodeUnit := base64urlAlphabet.getD d 0

/-- The sextet of a unit, in either alphabet. -/
def base64Digit (c : CodeUnit) : Option (Fin 64) :=
  if c = unit '+' then some 62
  else if c = unit '/' then some 63
  else (List.finRange 64).find? fun d => base64urlUnit d = c

theorem base64Digit_unit (d : Fin 64) : base64Digit (base64urlUnit d) = some d := by
  revert d
  decide +kernel

/-- `buffer.toString('base64url')`. -/
def toBase64url (bytes : Bytes) : Text := (sextets bytes).map base64urlUnit

/-- `Buffer.from(text, 'base64url')`. -/
def fromBase64url (t : Text) : Bytes := octets (t.filterMap base64Digit)

/-- A unit of `[A-Za-z0-9_-]`. -/
def isBase64urlUnit (c : CodeUnit) : Bool := isAlnum c || c == unit '-' || c == unit '_'

theorem isBase64urlUnit_unit (d : Fin 64) : isBase64urlUnit (base64urlUnit d) = true := by
  revert d
  decide +kernel

/-- **Bytes are read back from base64url.** -/
theorem fromBase64url_toBase64url (bytes : Bytes) : fromBase64url (toBase64url bytes) = bytes := by
  have hdigits : ∀ ds : List (Fin 64), (ds.map base64urlUnit).filterMap base64Digit = ds := by
    intro ds
    rw [List.filterMap_map]
    refine (List.filterMap_congr fun d _ => base64Digit_unit d).trans ?_
    exact List.filterMap_some
  rw [fromBase64url, toBase64url, hdigits, octets_sextets]

theorem toBase64url_units (bytes : Bytes) : ∀ c ∈ toBase64url bytes, isBase64urlUnit c = true := by
  intro c hc
  obtain ⟨d, -, rfl⟩ := List.mem_map.1 hc
  exact isBase64urlUnit_unit d

theorem toBase64url_eq_nil {bytes : Bytes} : toBase64url bytes = [] ↔ bytes = [] := by
  rw [toBase64url, List.map_eq_nil_iff, sextets_eq_nil]

example : toBase64url [0x31, 0x32, 0x30, 0x30] = "MTIwMA" ∧ fromBase64url "MTIwMA" = [0x31, 0x32, 0x30, 0x30] := by
  decide +kernel

/-! ## UTF-8 -/

/-- A byte that goes on with a code point. -/
def isContinuation (b : UInt8) : Bool := 0x80 ≤ b && b ≤ 0xBF

/-- The second byte of a code point may follow its first. -/
def mayFollow (a b : UInt8) : Bool :=
  (if a = 0xE0 then 0xA0 else if a = 0xF0 then 0x90 else 0x80) ≤ b && b ≤ if a = 0xED then 0x9F else if a = 0xF4 then 0x8F else 0xBF

/-- `buffer.toString('utf8')`. What begins a code point and does not end it is one replacement character. -/
def fromUtf8 : Bytes → Text
  | [] => []
  | a :: rest =>
    if a < 0x80 then a.toUInt16 :: fromUtf8 rest
    else if 0xC2 ≤ a && a ≤ 0xDF then
      match rest with
      | b :: rest' =>
        if isContinuation b then pointUnits ((a.toNat - 0xC0) * 64 + (b.toNat - 0x80)) ++ fromUtf8 rest'
        else 0xFFFD :: fromUtf8 (b :: rest')
      | [] => [0xFFFD]
    else if 0xE0 ≤ a && a ≤ 0xEF then
      match rest with
      | b :: c :: rest' =>
        if !mayFollow a b then 0xFFFD :: fromUtf8 (b :: c :: rest')
        else if isContinuation c then
          pointUnits ((a.toNat - 0xE0) * 4096 + (b.toNat - 0x80) * 64 + (c.toNat - 0x80)) ++ fromUtf8 rest'
        else 0xFFFD :: fromUtf8 (c :: rest')
      | [b] => if mayFollow a b then [0xFFFD] else 0xFFFD :: fromUtf8 [b]
      | [] => [0xFFFD]
    else if 0xF0 ≤ a && a ≤ 0xF4 then
      match rest with
      | b :: c :: d :: rest' =>
        if !mayFollow a b then 0xFFFD :: fromUtf8 (b :: c :: d :: rest')
        else if !isContinuation c then 0xFFFD :: fromUtf8 (c :: d :: rest')
        else if isContinuation d then
          pointUnits ((a.toNat - 0xF0) * 262144 + (b.toNat - 0x80) * 4096 + (c.toNat - 0x80) * 64 + (d.toNat - 0x80)) ++
            fromUtf8 rest'
        else 0xFFFD :: fromUtf8 (d :: rest')
      | [b, c] =>
        if !mayFollow a b then 0xFFFD :: fromUtf8 [b, c]
        else if isContinuation c then [0xFFFD] else 0xFFFD :: fromUtf8 [c]
      | [b] => if mayFollow a b then [0xFFFD] else 0xFFFD :: fromUtf8 [b]
      | [] => [0xFFFD]
    else 0xFFFD :: fromUtf8 rest

example : fromUtf8 [0x61, 0xE2, 0x82, 0xAC, 0xF0, 0x9F, 0x98, 0x80, 0xE2, 0x82, 0x41, 0xFF] =
    [0x61, 0x20AC, 0xD83D, 0xDE00, 0xFFFD, 0x41, 0xFFFD] := by decide +kernel

/-! ### Reading back -/

/-- A code point that has a form of its own. -/
def IsScalar (n : Nat) : Prop := n < 0x110000 ∧ ¬ (0xD800 ≤ n ∧ n < 0xE000)

theorem toNat_byte {n : Nat} (h : n < 256) : n.toUInt8.toNat = n := by
  simp [Nat.mod_eq_of_lt h]

theorem isContinuation_iff {b : UInt8} : isContinuation b = true ↔ 0x80 ≤ b.toNat ∧ b.toNat ≤ 0xBF := by
  rw [isContinuation, Bool.and_eq_true, decide_eq_true_eq, decide_eq_true_eq, UInt8.le_iff_toNat_le, UInt8.le_iff_toNat_le]
  rfl

/-- The second byte of a form of three or of four bytes follows its first. -/
theorem mayFollow_of {a b : UInt8} (hb : isContinuation b = true) (hE0 : a.toNat = 0xE0 → 0xA0 ≤ b.toNat)
    (hF0 : a.toNat = 0xF0 → 0x90 ≤ b.toNat) (hED : a.toNat = 0xED → b.toNat ≤ 0x9F) (hF4 : a.toNat = 0xF4 → b.toNat ≤ 0x8F) :
    mayFollow a b = true := by
  obtain ⟨hlow, hhigh⟩ := isContinuation_iff.1 hb
  rw [mayFollow, Bool.and_eq_true, decide_eq_true_eq, decide_eq_true_eq, UInt8.le_iff_toNat_le, UInt8.le_iff_toNat_le]
  constructor
  · split_ifs with h h'
    · exact hE0 (congrArg UInt8.toNat h)
    · exact hF0 (congrArg UInt8.toNat h')
    · exact hlow
  · split_ifs with h h'
    · exact hED (congrArg UInt8.toNat h)
    · exact hF4 (congrArg UInt8.toNat h')
    · exact hhigh

section
variable {a b c d : UInt8} {rest : Bytes}

/-- The first byte is in a range. -/
theorem between_iff {low high : UInt8} : (low ≤ a && a ≤ high) = true ↔ low.toNat ≤ a.toNat ∧ a.toNat ≤ high.toNat := by
  rw [Bool.and_eq_true, decide_eq_true_eq, decide_eq_true_eq, UInt8.le_iff_toNat_le, UInt8.le_iff_toNat_le]

theorem not_ascii (h : 0x80 ≤ a.toNat) : ¬ a < 0x80 := by
  rw [UInt8.lt_iff_toNat_lt]
  exact Nat.not_lt.2 h

theorem fromUtf8_one (h : a.toNat < 0x80) : fromUtf8 (a :: rest) = a.toUInt16 :: fromUtf8 rest := by
  have ha : a < 0x80 := UInt8.lt_iff_toNat_lt.2 h
  rw [fromUtf8.eq_def]
  simp only [ha, if_true]

theorem fromUtf8_two (ha : 0xC2 ≤ a.toNat) (ha' : a.toNat ≤ 0xDF) (hb : isContinuation b = true) :
    fromUtf8 (a :: b :: rest) = pointUnits ((a.toNat - 0xC0) * 64 + (b.toNat - 0x80)) ++ fromUtf8 rest := by
  have hone := not_ascii (a := a) (by omega)
  have htwo : (0xC2 ≤ a && a ≤ 0xDF) = true := between_iff.2 ⟨ha, ha'⟩
  rw [fromUtf8.eq_def]
  simp only [hone, htwo, hb, if_true, if_false]

theorem fromUtf8_three (ha : 0xE0 ≤ a.toNat) (ha' : a.toNat ≤ 0xEF) (hb : mayFollow a b = true) (hc : isContinuation c = true) :
    fromUtf8 (a :: b :: c :: rest) =
      pointUnits ((a.toNat - 0xE0) * 4096 + (b.toNat - 0x80) * 64 + (c.toNat - 0x80)) ++ fromUtf8 rest := by
  have hone := not_ascii (a := a) (by omega)
  have htwo : ¬ (0xC2 ≤ a && a ≤ 0xDF) = true := fun h => by
    have hle : a.toNat ≤ 0xDF := (between_iff.1 h).2
    omega
  have hthree : (0xE0 ≤ a && a ≤ 0xEF) = true := between_iff.2 ⟨ha, ha'⟩
  rw [fromUtf8.eq_def]
  simp only [hone, htwo, hthree, hb, hc, if_true, if_false, Bool.not_true, Bool.false_eq_true]

theorem fromUtf8_four (ha : 0xF0 ≤ a.toNat) (ha' : a.toNat ≤ 0xF4) (hb : mayFollow a b = true) (hc : isContinuation c = true)
    (hd : isContinuation d = true) :
    fromUtf8 (a :: b :: c :: d :: rest) =
      pointUnits ((a.toNat - 0xF0) * 262144 + (b.toNat - 0x80) * 4096 + (c.toNat - 0x80) * 64 + (d.toNat - 0x80)) ++
        fromUtf8 rest := by
  have hone := not_ascii (a := a) (by omega)
  have htwo : ¬ (0xC2 ≤ a && a ≤ 0xDF) = true := fun h => by
    have hle : a.toNat ≤ 0xDF := (between_iff.1 h).2
    omega
  have hthree : ¬ (0xE0 ≤ a && a ≤ 0xEF) = true := fun h => by
    have hle : a.toNat ≤ 0xEF := (between_iff.1 h).2
    omega
  have hfour : (0xF0 ≤ a && a ≤ 0xF4) = true := between_iff.2 ⟨ha, ha'⟩
  rw [fromUtf8.eq_def]
  simp only [hone, htwo, hthree, hfour, hb, hc, hd, if_true, if_false, Bool.not_true, Bool.false_eq_true]

end

/-- A code point is read back from the head of bytes. -/
theorem fromUtf8_utf8Point {n : Nat} (h : IsScalar n) (rest : Bytes) :
    fromUtf8 (utf8Point n ++ rest) = pointUnits n ++ fromUtf8 rest := by
  obtain ⟨hlt, hscalar⟩ := h
  unfold utf8Point
  split_ifs with h1 h2 h3
  · have ha := toNat_byte (n := n) (by omega)
    rw [List.singleton_append, fromUtf8_one (by omega), pointUnits, if_pos (by omega)]
    rw [List.singleton_append]
    congr 1
    rw [← UInt16.toNat_inj, UInt8.toNat_toUInt16, ha]
    simp [Nat.mod_eq_of_lt (show n < 65536 by omega)]
  · have ha := toNat_byte (n := 0xC0 + n / 64) (by omega)
    have hb := toNat_byte (n := 0x80 + n % 64) (by omega)
    rw [List.cons_append, List.singleton_append, fromUtf8_two (by omega) (by omega) (isContinuation_iff.2 (by omega)), ha, hb]
    have hn : (0xC0 + n / 64 - 0xC0) * 64 + (0x80 + n % 64 - 0x80) = n := by omega
    rw [hn]
  · have ha := toNat_byte (n := 0xE0 + n / 4096) (by omega)
    have hb := toNat_byte (n := 0x80 + n / 64 % 64) (by omega)
    have hc := toNat_byte (n := 0x80 + n % 64) (by omega)
    have hfollow : mayFollow (0xE0 + n / 4096).toUInt8 (0x80 + n / 64 % 64).toUInt8 = true :=
      mayFollow_of (isContinuation_iff.2 (by omega)) (by omega) (by omega) (by omega) (by omega)
    rw [List.cons_append, List.cons_append, List.singleton_append,
      fromUtf8_three (by omega) (by omega) hfollow (isContinuation_iff.2 (by omega)), ha, hb, hc]
    have hn : (0xE0 + n / 4096 - 0xE0) * 4096 + (0x80 + n / 64 % 64 - 0x80) * 64 + (0x80 + n % 64 - 0x80) = n := by omega
    rw [hn]
  · have ha := toNat_byte (n := 0xF0 + n / 262144) (by omega)
    have hb := toNat_byte (n := 0x80 + n / 4096 % 64) (by omega)
    have hc := toNat_byte (n := 0x80 + n / 64 % 64) (by omega)
    have hd := toNat_byte (n := 0x80 + n % 64) (by omega)
    have hfollow : mayFollow (0xF0 + n / 262144).toUInt8 (0x80 + n / 4096 % 64).toUInt8 = true :=
      mayFollow_of (isContinuation_iff.2 (by omega)) (by omega) (by omega) (by omega) (by omega)
    rw [List.cons_append, List.cons_append, List.cons_append, List.singleton_append,
      fromUtf8_four (by omega) (by omega) hfollow (isContinuation_iff.2 (by omega)) (isContinuation_iff.2 (by omega)), ha, hb,
      hc, hd]
    have hn : (0xF0 + n / 262144 - 0xF0) * 262144 + (0x80 + n / 4096 % 64 - 0x80) * 4096 + (0x80 + n / 64 % 64 - 0x80) * 64 +
        (0x80 + n % 64 - 0x80) = n := by omega
    rw [hn]

theorem isScalar_unitPoint (c : CodeUnit) : IsScalar (unitPoint c) := by
  have hlt := c.toNat_lt
  unfold unitPoint
  split
  · exact ⟨by omega, by omega⟩
  · next hsurrogate =>
    refine ⟨by omega, ?_⟩
    rintro ⟨hlow, hhigh⟩
    apply hsurrogate
    rw [isSurrogate, Bool.or_eq_true, isHighSurrogate, isLowSurrogate, Bool.and_eq_true, Bool.and_eq_true]
    simp only [decide_eq_true_eq, UInt16.le_iff_toNat_le]
    by_cases hsplit : c.toNat ≤ 0xDBFF
    · exact .inl ⟨hlow, hsplit⟩
    · right
      refine ⟨?_, ?_⟩
      · show 0xDC00 ≤ c.toNat
        omega
      · show c.toNat ≤ 0xDFFF
        omega

theorem isScalar_codePoints (t : Text) : ∀ n ∈ t.codePoints, IsScalar n := by
  fun_induction Text.codePoints t with
  | case1 => simp
  | case2 c => simpa using isScalar_unitPoint c
  | case3 c d rest hpair ih =>
    simp only [isHighSurrogate, isLowSurrogate, Bool.and_eq_true, decide_eq_true_eq, UInt16.le_iff_toNat_le] at hpair
    have hc : c.toNat ≤ 0xDBFF := hpair.1.2
    have hd : d.toNat ≤ 0xDFFF := hpair.2.2
    refine List.forall_mem_cons.2 ⟨?_, ih⟩
    unfold pairPoint
    exact ⟨by omega, by omega⟩
  | case4 c d rest _ ih => exact List.forall_mem_cons.2 ⟨isScalar_unitPoint c, ih⟩

/-- **Text without a lone surrogate is read back.** -/
theorem fromUtf8_utf8 {t : Text} (h : t.isWellFormed = true) : fromUtf8 t.utf8 = t := by
  have hpoints : ∀ ns : List Nat, (∀ n ∈ ns, IsScalar n) → fromUtf8 (ns.flatMap utf8Point) = ns.flatMap pointUnits := by
    intro ns hns
    induction ns with
    | nil => rfl
    | cons n ns ih =>
      rw [List.forall_mem_cons] at hns
      rw [List.flatMap_cons, List.flatMap_cons, fromUtf8_utf8Point hns.1, ih hns.2]
  rw [Text.utf8, hpoints _ (isScalar_codePoints t), flatMap_pointUnits h]

end Tna.Js
