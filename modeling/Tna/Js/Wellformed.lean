import Tna.Js.Sorted
import Tna.Js.Utf8

/-!
# JSON text is well formed

`JSON.stringify` escapes a lone surrogate, so its text has a form in UTF-8 that is read back, whatever
is in the value.
-/

namespace Tna.Js

theorem isWellFormed_cons {c : CodeUnit} {t : Text} (hc : isSurrogate c = false) (ht : t.isWellFormed = true) :
    Text.isWellFormed (c :: t) = true :=
  isWellFormed_append (t := [c]) (by simpa [Text.isWellFormed] using hc) ht

theorem isSurrogate_hexDigit : ∀ n : Fin 16, isSurrogate (hexDigit n) = false := by decide

theorem isWellFormed_unicodeEscape (c : CodeUnit) : (unicodeEscape c).isWellFormed = true := by
  have hlt : c.toNat < 65536 := c.toNat_lt
  refine isWellFormed_of_units fun x hx => ?_
  simp only [unicodeEscape, List.mem_cons, List.not_mem_nil, or_false] at hx
  rcases hx with rfl | rfl | rfl | rfl | rfl | rfl
  · decide
  · decide
  · exact isSurrogate_hexDigit ⟨c.toNat / 4096, by omega⟩
  · exact isSurrogate_hexDigit ⟨c.toNat / 256 % 16, by omega⟩
  · exact isSurrogate_hexDigit ⟨c.toNat / 16 % 16, by omega⟩
  · exact isSurrogate_hexDigit ⟨c.toNat % 16, by omega⟩

theorem isWellFormed_quoteUnit {c : CodeUnit} (h : isSurrogate c = false) : (quoteUnit c).isWellFormed = true := by
  unfold quoteUnit
  split_ifs
  any_goals decide
  · exact isWellFormed_unicodeEscape c
  · simpa [Text.isWellFormed] using h

/-- **The inside of a literal** has a lone surrogate only as an escape. -/
theorem isWellFormed_quoteUnits (s : Text) : (quoteUnits s).isWellFormed = true := by
  fun_induction quoteUnits s with
  | case1 => rfl
  | case2 c _ => exact isWellFormed_unicodeEscape c
  | case3 c h => exact isWellFormed_quoteUnit (Bool.eq_false_iff.2 h)
  | case4 c d rest hc hd ih =>
    rw [Text.isWellFormed, if_pos (by simp [hc, hd])]
    exact ih
  | case5 c d rest _ _ ih => exact isWellFormed_append (isWellFormed_unicodeEscape c) ih
  | case6 c d rest _ _ ih => exact isWellFormed_append (isWellFormed_unicodeEscape c) ih
  | case7 c d rest hc hd ih =>
    refine isWellFormed_append (isWellFormed_quoteUnit ?_) ih
    simp [isSurrogate, Bool.eq_false_iff.2 hc, Bool.eq_false_iff.2 hd]

theorem isWellFormed_quote (s : Text) : (quote s).isWellFormed = true :=
  isWellFormed_cons (by decide) (isWellFormed_append (isWellFormed_quoteUnits s) (by decide))

theorem isWellFormed_numeral (n : Numeral) : n.text.isWellFormed = true := by
  have hunits : ∀ c, isNumeralUnit c = true → isSurrogate c = false := by
    intro c hc
    have hlt : c.toNat < 128 := by
      simp only [isNumeralUnit, isDigit, Bool.or_eq_true, Bool.and_eq_true, decide_eq_true_eq, beq_iff_eq,
        UInt16.le_iff_toNat_le] at hc
      rcases hc with ((((⟨-, hc⟩ | rfl) | rfl) | rfl) | rfl) | rfl
      · have hnine : (unit '9').toNat = 57 := rfl
        omega
      all_goals decide
    simp only [isSurrogate, isHighSurrogate, isLowSurrogate, Bool.or_eq_false_iff, Bool.and_eq_false_iff, decide_eq_false_iff_not,
      UInt16.le_iff_toNat_le]
    have hhigh : (0xD800 : UInt16).toNat = 0xD800 := rfl
    have hlow : (0xDC00 : UInt16).toNat = 0xDC00 := rfl
    omega
  exact isWellFormed_of_units fun c hc => hunits c (n.all_units c hc)

theorem isWellFormed_joinComma : ∀ {texts : List Text}, (∀ t ∈ texts, t.isWellFormed = true) → (joinComma texts).isWellFormed = true
  | [], _ => rfl
  | [t], h => h t (List.mem_singleton_self t)
  | t :: u :: rest, h => by
    rw [joinComma_cons_cons]
    obtain ⟨ht, hrest⟩ := List.forall_mem_cons.1 h
    exact isWellFormed_append ht (isWellFormed_cons (by decide) (isWellFormed_joinComma hrest))

namespace Value

mutual

/-- **JSON text has no lone surrogate.** -/
theorem isWellFormed_stringify : ∀ v : Value, v.stringify.isWellFormed = true
  | .undefined => by decide
  | .null => by decide
  | .bool true => by decide
  | .bool false => by decide
  | .num (.finite n) => isWellFormed_numeral n
  | .num .negZero => by decide
  | .num (.infinite _) => (by decide : Text.isWellFormed "null" = true)
  | .num .nan => by decide
  | .str s => isWellFormed_quote s
  | .arr items =>
    isWellFormed_cons (by decide) (isWellFormed_append (isWellFormed_joinComma (isWellFormed_stringifyItems items)) (by decide))
  | .obj fields =>
    isWellFormed_cons (by decide) (isWellFormed_append (isWellFormed_joinComma (isWellFormed_stringifyFields fields)) (by decide))

theorem isWellFormed_stringifyItems : ∀ items : List Value, ∀ t ∈ stringifyItems items, t.isWellFormed = true
  | [] => List.forall_mem_nil _
  | v :: rest => List.forall_mem_cons.2 ⟨isWellFormed_stringify v, isWellFormed_stringifyItems rest⟩

theorem isWellFormed_stringifyFields : ∀ fields : List (Text × Value), ∀ t ∈ stringifyFields fields, t.isWellFormed = true
  | [] => List.forall_mem_nil _
  | (k, v) :: rest => by
    rw [stringifyFields]
    split
    · exact isWellFormed_stringifyFields rest
    · refine List.forall_mem_cons.2 ⟨?_, isWellFormed_stringifyFields rest⟩
      exact isWellFormed_append (isWellFormed_quote k) (isWellFormed_cons (by decide) (isWellFormed_stringify v))

end

/-- So has a canonical form. -/
theorem isWellFormed_canonical (v : Value) : v.canonical.isWellFormed = true := by
  rw [canonical_eq_stringify]
  exact isWellFormed_stringify v.sorted

end Value

end Tna.Js
