import Tna.Js.Text
import Tna.Lib.Codes

/-!
# UTF-8

Text is written to files, and fed to hashes, in UTF-8. A lone surrogate has no form
there and is written as the replacement character, so only text without one can be
read back.
-/

namespace Tna.Js

open Tna.Lib

/-- The bytes of a file, or of what is hashed. -/
abbrev Bytes := List UInt8

def isSurrogate (c : CodeUnit) : Bool := isHighSurrogate c || isLowSurrogate c

/-- The code point of a surrogate pair. -/
def pairPoint (c d : CodeUnit) : Nat := 0x10000 + (c.toNat - 0xD800) * 0x400 + (d.toNat - 0xDC00)

/-- The code point of a unit on its own. -/
def unitPoint (c : CodeUnit) : Nat := if isSurrogate c then 0xFFFD else c.toNat

def Text.codePoints : Text → List Nat
  | [] => []
  | [c] => [unitPoint c]
  | c :: d :: rest =>
    if isHighSurrogate c && isLowSurrogate d then pairPoint c d :: codePoints rest
    else unitPoint c :: codePoints (d :: rest)

/-- The UTF-8 form of a code point. -/
def utf8Point (n : Nat) : Bytes :=
  if n < 0x80 then [n.toUInt8]
  else if n < 0x800 then [(0xC0 + n / 64).toUInt8, (0x80 + n % 64).toUInt8]
  else if n < 0x10000 then [(0xE0 + n / 4096).toUInt8, (0x80 + n / 64 % 64).toUInt8, (0x80 + n % 64).toUInt8]
  else [(0xF0 + n / 262144).toUInt8, (0x80 + n / 4096 % 64).toUInt8, (0x80 + n / 64 % 64).toUInt8, (0x80 + n % 64).toUInt8]

/-- `Buffer.from(text, 'utf8')`. -/
def Text.utf8 (t : Text) : Bytes := t.codePoints.flatMap utf8Point

/-- Text without a lone surrogate. -/
def Text.isWellFormed : Text → Bool
  | [] => true
  | [c] => !isSurrogate c
  | c :: d :: rest =>
    if isHighSurrogate c && isLowSurrogate d then isWellFormed rest else !isSurrogate c && isWellFormed (d :: rest)

/-- The text that is read back: every lone surrogate is the replacement character. -/
def Text.toWellFormed : Text → Text
  | [] => []
  | [c] => [if isSurrogate c then 0xFFFD else c]
  | c :: d :: rest =>
    if isHighSurrogate c && isLowSurrogate d then c :: d :: toWellFormed rest
    else (if isSurrogate c then 0xFFFD else c) :: toWellFormed (d :: rest)

example : Text.utf8 [0x61, 0xE9, 0x20AC, 0xD83D, 0xDE00] =
    [0x61, 0xC3, 0xA9, 0xE2, 0x82, 0xAC, 0xF0, 0x9F, 0x98, 0x80] := by decide

/-! ## Reading back -/

/-- The units of a code point. -/
def pointUnits (n : Nat) : Text :=
  if n < 0x10000 then [n.toUInt16]
  else [(0xD800 + (n - 0x10000) / 0x400).toUInt16, (0xDC00 + (n - 0x10000) % 0x400).toUInt16]

theorem pointUnits_unitPoint {c : CodeUnit} (h : isSurrogate c = false) : pointUnits (unitPoint c) = [c] := by
  have hlt : c.toNat < 0x10000 := c.toNat_lt
  simp [pointUnits, unitPoint, h, hlt]

theorem pointUnits_pairPoint {c d : CodeUnit} (hc : isHighSurrogate c = true) (hd : isLowSurrogate d = true) :
    pointUnits (pairPoint c d) = [c, d] := by
  simp only [isHighSurrogate, isLowSurrogate, Bool.and_eq_true, decide_eq_true_eq, UInt16.le_iff_toNat_le] at hc hd
  obtain ⟨hc, hc'⟩ := hc
  obtain ⟨hd, hd'⟩ := hd
  have hc : 0xD800 ≤ c.toNat := hc
  have hc' : c.toNat ≤ 0xDBFF := hc'
  have hd : 0xDC00 ≤ d.toNat := hd
  have hd' : d.toNat ≤ 0xDFFF := hd'
  have hhigh : 0xD800 + (pairPoint c d - 0x10000) / 0x400 = c.toNat := by
    unfold pairPoint
    omega
  have hlow : 0xDC00 + (pairPoint c d - 0x10000) % 0x400 = d.toNat := by
    unfold pairPoint
    omega
  have hlarge : ¬ pairPoint c d < 0x10000 := by
    unfold pairPoint
    omega
  simp [pointUnits, hlarge, hhigh, hlow]

/-- Text without a lone surrogate can be read back from its code points. -/
theorem flatMap_pointUnits {t : Text} (h : t.isWellFormed = true) : t.codePoints.flatMap pointUnits = t := by
  fun_induction Text.codePoints t with
  | case1 => rfl
  | case2 c =>
    have hc : isSurrogate c = false := by simpa [Text.isWellFormed] using h
    simp [pointUnits_unitPoint hc]
  | case3 c d rest hpair ih =>
    obtain ⟨hc, hd⟩ := Bool.and_eq_true_iff.1 hpair
    rw [Text.isWellFormed, if_pos hpair] at h
    rw [List.flatMap_cons, pointUnits_pairPoint hc hd, ih h]
    rfl
  | case4 c d rest hpair ih =>
    rw [Text.isWellFormed, if_neg hpair, Bool.and_eq_true] at h
    have hc : isSurrogate c = false := by simpa using h.1
    rw [List.flatMap_cons, pointUnits_unitPoint hc, ih h.2]
    rfl

theorem codePoints_lt (t : Text) : ∀ n ∈ t.codePoints, n < 0x110000 := by
  have hunit : ∀ c : CodeUnit, unitPoint c < 0x110000 := by
    intro c
    have := c.toNat_lt
    unfold unitPoint
    split <;> omega
  fun_induction Text.codePoints t with
  | case1 => simp
  | case2 c => simpa using hunit c
  | case3 c d rest hpair ih =>
    simp only [isHighSurrogate, isLowSurrogate, Bool.and_eq_true, decide_eq_true_eq, UInt16.le_iff_toNat_le] at hpair
    have hc : c.toNat ≤ 0xDBFF := hpair.1.2
    have hd : d.toNat ≤ 0xDFFF := hpair.2.2
    refine List.forall_mem_cons.2 ⟨?_, ih⟩
    unfold pairPoint
    omega
  | case4 c d rest _ ih => exact List.forall_mem_cons.2 ⟨hunit c, ih⟩

/-- The form of a code point says where it ends. -/
theorem prefixCode_utf8Point : PrefixCode (· < 0x110000) utf8Point where
  ne_nil n _ := by
    unfold utf8Point
    split_ifs <;> simp
  first n m hn hm xs ys h := by
    unfold utf8Point at h
    split_ifs at h <;>
      simp only [List.cons_append, List.nil_append, List.cons.injEq, ← UInt8.toNat_inj, Nat.toUInt8_eq,
        UInt8.toNat_ofNat'] at h <;>
      first
        | exact ⟨by omega, h.2⟩
        | exact ⟨by omega, h.2.2⟩
        | exact ⟨by omega, h.2.2.2⟩
        | exact ⟨by omega, h.2.2.2.2⟩
        | omega

/-- **Text without a lone surrogate is read back from its UTF-8 form.** -/
theorem utf8_injective {t u : Text} (ht : t.isWellFormed = true) (hu : u.isWellFormed = true) (h : t.utf8 = u.utf8) :
    t = u := by
  have hpoints := prefixCode_utf8Point.flatMap_injective (codePoints_lt t) (codePoints_lt u) h
  rw [← flatMap_pointUnits ht, hpoints, flatMap_pointUnits hu]

/-- Only a zero is written as a zero byte. -/
theorem zero_mem_utf8 {t : Text} (h : (0 : UInt8) ∈ t.utf8) : (0 : CodeUnit) ∈ t := by
  obtain ⟨n, hn, hzero⟩ := List.mem_flatMap.1 h
  have hn0 : n = 0 := by
    have hlt := codePoints_lt t n hn
    unfold utf8Point at hzero
    split_ifs at hzero <;>
      simp only [List.mem_cons, List.not_mem_nil, or_false, ← UInt8.toNat_inj, Nat.toUInt8_eq, UInt8.toNat_ofNat'] at hzero <;>
      have hz : (0 : UInt8).toNat = 0 := rfl <;>
      omega
  subst hn0
  clear h hzero
  have hunit : ∀ c : CodeUnit, unitPoint c = 0 → c = 0 := by
    intro c hc
    unfold unitPoint at hc
    split at hc
    · cases hc
    · exact UInt16.toNat_inj.1 hc
  fun_induction Text.codePoints t with
  | case1 => simp at hn
  | case2 c =>
    rw [hunit c (List.mem_singleton.1 hn).symm]
    exact List.mem_singleton_self 0
  | case3 c d rest _ ih =>
    rcases List.mem_cons.1 hn with hn | hn
    · unfold pairPoint at hn
      omega
    · exact List.mem_cons_of_mem _ (List.mem_cons_of_mem _ (ih hn))
  | case4 c d rest _ ih =>
    rcases List.mem_cons.1 hn with hn | hn
    · rw [hunit c hn.symm]
      exact List.mem_cons_self ..
    · exact List.mem_cons_of_mem _ (ih hn)

/-- Text in ASCII has no surrogate. -/
theorem isWellFormed_of_units {t : Text} (h : ∀ c ∈ t, isSurrogate c = false) : t.isWellFormed = true := by
  fun_induction Text.isWellFormed t with
  | case1 => rfl
  | case2 c => simpa using h
  | case3 c d rest hpair ih => exact ih fun x hx => h x (List.mem_cons_of_mem _ (List.mem_cons_of_mem _ hx))
  | case4 c d rest _ ih =>
    rw [h c (List.mem_cons_self ..), ih fun x hx => h x (List.mem_cons_of_mem _ hx)]
    rfl

theorem isWellFormed_append : ∀ {t u : Text}, t.isWellFormed = true → u.isWellFormed = true → (t ++ u).isWellFormed = true := by
  intro t u ht hu
  fun_induction Text.isWellFormed t with
  | case1 => exact hu
  | case2 c =>
    have hc : isSurrogate c = false := by simpa using ht
    have hhigh : isHighSurrogate c = false := by
      simp only [isSurrogate, Bool.or_eq_false_iff] at hc
      exact hc.1
    cases u with
    | nil => simpa [Text.isWellFormed] using hc
    | cons d rest => simp [Text.isWellFormed, hhigh, hc, hu]
  | case3 c d rest hpair ih =>
    rw [List.cons_append, List.cons_append, Text.isWellFormed, if_pos hpair]
    exact ih ht
  | case4 c d rest hpair ih =>
    obtain ⟨hc, hrest⟩ := Bool.and_eq_true_iff.1 ht
    rw [List.cons_append, List.cons_append, Text.isWellFormed, if_neg hpair, hc]
    exact ih hrest

end Tna.Js
