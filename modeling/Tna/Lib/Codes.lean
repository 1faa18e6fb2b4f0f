import Mathlib.Data.Fin.Basic
import Mathlib.Data.List.Basic
import Mathlib.Tactic.Common

/-!
# Codes that can be read back

A code writes each element as a word, and a list word after word. When no word can be
taken for the beginning of another, what was written can be read back in one way only.
Bytes are written as sextets of bits: three bytes are four of them. The bits of a last group
that is short are filled up with zeros, and what is filled up is dropped where bytes are read
back.
-/

namespace Tna.Lib

/-! ## Prefix codes -/

section
variable {α β : Type} {P : α → Prop} {code : α → List β}

/-- Of two sequences that begin with a word each, the words are the same one when the sequences are. -/
structure PrefixCode (P : α → Prop) (code : α → List β) : Prop where
  ne_nil : ∀ a, P a → code a ≠ []
  first : ∀ a b, P a → P b → ∀ xs ys, code a ++ xs = code b ++ ys → a = b ∧ xs = ys

/-- **What was written can be read back.** -/
theorem PrefixCode.flatMap_injective (hcode : PrefixCode P code) {l l' : List α} (hl : ∀ a ∈ l, P a) (hl' : ∀ a ∈ l', P a)
    (h : l.flatMap code = l'.flatMap code) : l = l' := by
  induction l generalizing l' with
  | nil =>
    cases l' with
    | nil => rfl
    | cons b rest =>
      have hnil : code b ++ rest.flatMap code = [] := by rw [← List.flatMap_cons, ← h, List.flatMap_nil]
      exact absurd (List.append_eq_nil_iff.1 hnil).1 (hcode.ne_nil b (hl' b (List.mem_cons_self ..)))
  | cons a rest ih =>
    cases l' with
    | nil =>
      have hnil : code a ++ rest.flatMap code = [] := by rw [← List.flatMap_cons, h, List.flatMap_nil]
      exact absurd (List.append_eq_nil_iff.1 hnil).1 (hcode.ne_nil a (hl a (List.mem_cons_self ..)))
    | cons b rest' =>
      obtain ⟨ha, hrest⟩ := List.forall_mem_cons.1 hl
      obtain ⟨hb, hrest'⟩ := List.forall_mem_cons.1 hl'
      rw [List.flatMap_cons, List.flatMap_cons] at h
      obtain ⟨rfl, htail⟩ := hcode.first a b ha hb _ _ h
      rw [ih hrest hrest' htail]

end

/-! ## Sextets -/

/-- The sextets of bytes. -/
def sextets : List UInt8 → List (Fin 64)
  | [] => []
  | [a] => [⟨a.toNat / 4, by have := a.toNat_lt; omega⟩, ⟨a.toNat % 4 * 16, by omega⟩]
  | [a, b] => [⟨a.toNat / 4, by have := a.toNat_lt; omega⟩, ⟨a.toNat % 4 * 16 + b.toNat / 16, by have := b.toNat_lt; omega⟩,
      ⟨b.toNat % 16 * 4, by omega⟩]
  | a :: b :: c :: rest =>
    ⟨a.toNat / 4, by have := a.toNat_lt; omega⟩ :: ⟨a.toNat % 4 * 16 + b.toNat / 16, by have := b.toNat_lt; omega⟩ ::
      ⟨b.toNat % 16 * 4 + c.toNat / 64, by have := c.toNat_lt; omega⟩ :: ⟨c.toNat % 64, by omega⟩ :: sextets rest

/-- The bytes of sextets; the bits that are left over are dropped. -/
def octets : List (Fin 64) → List UInt8
  | w :: x :: y :: z :: rest =>
    (w.val * 4 + x.val / 16).toUInt8 :: (x.val % 16 * 16 + y.val / 4).toUInt8 :: (y.val % 4 * 64 + z.val).toUInt8 :: octets rest
  | [w, x, y] => [(w.val * 4 + x.val / 16).toUInt8, (x.val % 16 * 16 + y.val / 4).toUInt8]
  | [w, x] => [(w.val * 4 + x.val / 16).toUInt8]
  | _ => []

/-- The number of a byte that is written in bits is the byte. -/
theorem toUInt8_eq_of_toNat {n : Nat} {a : UInt8} (h : n = a.toNat) : n.toUInt8 = a := by
  subst h
  simp

/-- **Bytes are read back from their sextets.** -/
theorem octets_sextets (bytes : List UInt8) : octets (sextets bytes) = bytes := by
  fun_induction sextets bytes with
  | case1 => rfl
  | case2 a =>
    have ha := a.toNat_lt
    rw [octets, toUInt8_eq_of_toNat (a := a) (by simp only; omega)]
  | case3 a b =>
    have ha := a.toNat_lt
    have hb := b.toNat_lt
    rw [octets, toUInt8_eq_of_toNat (a := a) (by simp only; omega), toUInt8_eq_of_toNat (a := b) (by simp only; omega)]
  | case4 a b c rest ih =>
    have ha := a.toNat_lt
    have hb := b.toNat_lt
    have hc := c.toNat_lt
    rw [octets, ih, toUInt8_eq_of_toNat (a := a) (by simp only; omega), toUInt8_eq_of_toNat (a := b) (by simp only; omega),
      toUInt8_eq_of_toNat (a := c) (by simp only; omega)]

/-- Bytes that have no sextets are none. -/
theorem sextets_eq_nil {bytes : List UInt8} : sextets bytes = [] ↔ bytes = [] := by
  constructor
  · intro h
    rw [← octets_sextets bytes, h]
    rfl
  · rintro rfl
    rfl

end Tna.Lib
