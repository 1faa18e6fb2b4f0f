import Mathlib.Data.List.DropRight
import Mathlib.Data.List.TakeWhile
import Mathlib.Data.Nat.Digits.Lemmas
import Tna.Js.Value

/-!
# Natural numbers as JavaScript numbers

A count or a sequence number is written in decimal, without a leading zero.
-/

namespace Tna.Js

def digitUnit (d : Nat) : CodeUnit := (48 + d).toUInt16

/-- `Number::toString` of a natural number below the exponent range. -/
def decimal (n : Nat) : Text := if n = 0 then "0" else ((Nat.digits 10 n).reverse).map digitUnit

variable {d r r' : Nat} {c : CodeUnit}

theorem isDigit_digitUnit (h : d < 10) : isDigit (digitUnit d) = true := by
  have all : ∀ i : Fin 10, isDigit (digitUnit i.1) = true := by decide
  exact all ⟨d, h⟩

theorem digitUnit_ne_zero (h : d < 10) (h0 : d ≠ 0) : digitUnit d ≠ unit '0' := by
  have all : ∀ i : Fin 10, i.1 ≠ 0 → digitUnit i.1 ≠ unit '0' := by decide
  exact all ⟨d, h⟩ h0

theorem isNumeralUnit_of_isDigit (h : isDigit c = true) : isNumeralUnit c = true := by
  simp [isNumeralUnit, h]

/-- The decimal text of a positive number: digits, the first of them not zero. -/
theorem decimal_cons {n : Nat} (h : n ≠ 0) :
    ∃ c t, decimal n = c :: t ∧ c ≠ unit '0' ∧ ∀ d ∈ c :: t, isDigit d = true := by
  have hne : Nat.digits 10 n ≠ [] := Nat.digits_ne_nil_iff_ne_zero.2 h
  have hlast := Nat.getLast_digit_ne_zero 10 h
  obtain ⟨ds, d, hd⟩ : ∃ ds d, Nat.digits 10 n = ds ++ [d] :=
    ⟨_, _, (List.dropLast_append_getLast hne).symm⟩
  have hlt : ∀ x ∈ Nat.digits 10 n, x < 10 := fun x hx => Nat.digits_lt_base (by decide) hx
  simp only [hd, List.getLast_append_singleton] at hlast
  rw [hd] at hlt
  refine ⟨digitUnit d, ds.reverse.map digitUnit, by simp [decimal, h, hd], digitUnit_ne_zero (hlt d (by simp)) hlast, ?_⟩
  intro c hc
  obtain ⟨x, hx, rfl⟩ : ∃ x ∈ ds ++ [d], digitUnit x = c := by
    rcases List.mem_cons.1 hc with rfl | hc
    · exact ⟨d, by simp, rfl⟩
    · obtain ⟨x, hx, rfl⟩ := List.mem_map.1 hc
      exact ⟨x, by simp [List.mem_reverse.1 hx], rfl⟩
  exact isDigit_digitUnit (hlt x hx)

theorem isNumeral_decimal (n : Nat) : isNumeral (decimal n) = true ∧ decimal n ≠ "-0" := by
  by_cases h : n = 0
  · subst h; decide
  obtain ⟨c, t, ht, h0, hd⟩ := decimal_cons h
  have hc : isDigit c = true := hd c (by simp)
  have hminus : c ≠ unit '-' := by rintro rfl; exact absurd hc (by decide)
  have htake : (c :: t).takeWhile isDigit = c :: t := List.takeWhile_eq_self_iff.2 hd
  have hdrop : (c :: t).dropWhile isDigit = [] := List.dropWhile_eq_nil_iff.2 hd
  rw [ht]
  constructor
  · simp only [isNumeral, Bool.and_eq_true, List.all_eq_true]
    refine ⟨fun d hdm => isNumeralUnit_of_isDigit (hd d hdm), ?_⟩
    simp [beq_iff_eq, hminus, integerPart, h0, digits1, htake, hdrop, fractionPart]
  · have hs : Text.ofAscii "-0" = [unit '-', unit '0'] := by decide
    rw [hs]
    intro he
    exact hminus (List.cons.inj he).1

def Value.ofNat (n : Nat) : Value := .num (.finite ⟨decimal n, (isNumeral_decimal n).1, (isNumeral_decimal n).2⟩)

/-! ## Reading a decimal text back -/

/-- The value of a digit. -/
def digitValue (c : CodeUnit) : Nat := c.toNat - 48

theorem digitValue_digitUnit (h : d < 10) : digitValue (digitUnit d) = d := by
  have all : ∀ i : Fin 10, digitValue (digitUnit i.1) = i.1 := by decide
  exact all ⟨d, h⟩

theorem map_digitValue {ds : List Nat} (h : ∀ d ∈ ds, d < 10) : (ds.map digitUnit).map digitValue = ds := by
  rw [List.map_map]
  exact (List.map_congr_left fun d hd => digitValue_digitUnit (h d hd)).trans (List.map_id ds)

/-- Numbers with one decimal text are the same. -/
theorem decimal_injective : Function.Injective decimal := by
  have hdigits : ∀ n, n ≠ 0 → ((decimal n).map digitValue).reverse = Nat.digits 10 n := by
    intro n hn
    have hlt : ∀ d ∈ (Nat.digits 10 n).reverse, d < 10 := by
      intro d hd
      exact Nat.digits_lt_base (by decide) (List.mem_reverse.1 hd)
    rw [decimal, if_neg hn, map_digitValue hlt, List.reverse_reverse]
  have hzero : ∀ n, n ≠ 0 → decimal n ≠ decimal 0 := by
    intro n hn heq
    obtain ⟨c, t, ht, hc, -⟩ := decimal_cons hn
    rw [ht] at heq
    exact hc (List.cons.inj (heq.trans (by decide : decimal 0 = [unit '0']))).1
  intro n m h
  by_cases hn : n = 0 <;> by_cases hm : m = 0
  · rw [hn, hm]
  · exact absurd (hn ▸ h).symm (hzero m hm)
  · exact absurd (hm ▸ h) (hzero n hn)
  · refine (Nat.digits_inj_iff (b := 10)).1 ?_
    rw [← hdigits n hn, ← hdigits m hm, h]

/-! ## Amounts in millionths -/

/-- Six places of a fraction in millionths. -/
def sixPlaces (r : Nat) : Text :=
  [r / 100000 % 10, r / 10000 % 10, r / 1000 % 10, r / 100 % 10, r / 10 % 10, r % 10].map digitUnit

/-- The places without the zeros at their end. -/
def places (r : Nat) : Text := (sixPlaces r).rdropWhile (· == unit '0')

/-- `Number::toString` of an amount given in millionths, below the exponent range. -/
def microsText (n : Nat) : Text :=
  decimal (n / 1000000) ++ if n % 1000000 = 0 then [] else unit '.' :: places (n % 1000000)

/-- What stands after the whole part. -/
def fractionText (r : Nat) : Text := if r = 0 then [] else unit '.' :: places r

theorem digitUnit_eq_zero_iff (h : d < 10) : digitUnit d = unit '0' ↔ d = 0 := by
  have all : ∀ i : Fin 10, digitUnit i.1 = unit '0' ↔ i.1 = 0 := by decide
  exact all ⟨d, h⟩

theorem isDigit_of_mem_places (h : c ∈ places r) : isDigit c = true := by
  have hmem : c ∈ sixPlaces r := (List.rdropWhile_prefix _ _).subset h
  simp only [sixPlaces, List.map_cons, List.map_nil, List.mem_cons, List.not_mem_nil, or_false] at hmem
  rcases hmem with rfl | rfl | rfl | rfl | rfl | rfl <;> exact isDigit_digitUnit (Nat.mod_lt _ (by decide))

theorem places_ne_nil (h : r ≠ 0) (hlt : r < 1000000) : places r ≠ [] := by
  intro hnil
  have hzero : ∀ c ∈ sixPlaces r, c = unit '0' := by
    intro c hc
    exact eq_of_beq (List.rdropWhile_eq_nil_iff.1 hnil c hc)
  simp only [sixPlaces, List.map_cons, List.map_nil, List.forall_mem_cons, List.not_mem_nil, false_imp_iff, implies_true,
    and_true] at hzero
  simp only [digitUnit_eq_zero_iff (Nat.mod_lt _ (by decide : 10 > 0))] at hzero
  omega

/-- The zeros at the end of six places are told by how many places are left. -/
theorem sixPlaces_of_places (h : places r = places r') : sixPlaces r = sixPlaces r' := by
  have hsplit : ∀ l : Text, ∃ k, l = l.rdropWhile (· == unit '0') ++ List.replicate k (unit '0') := by
    intro l
    induction l using List.reverseRecOn with
    | nil => exact ⟨0, by simp⟩
    | append_singleton l c ih =>
      by_cases hc : (c == unit '0') = true
      · obtain ⟨k, hk⟩ := ih
        refine ⟨k + 1, ?_⟩
        rw [List.rdropWhile_concat_pos (· == unit '0') _ _ hc, List.replicate_succ', ← List.append_assoc, ← hk, eq_of_beq hc]
      · refine ⟨0, ?_⟩
        rw [List.rdropWhile_concat_neg (· == unit '0') _ _ hc]
        simp
  obtain ⟨k, hk⟩ := hsplit (sixPlaces r)
  obtain ⟨k', hk'⟩ := hsplit (sixPlaces r')
  have hlength := congrArg List.length hk
  have hlength' := congrArg List.length hk'
  rw [show (sixPlaces r).rdropWhile (· == unit '0') = places r from rfl] at hk hlength
  rw [show (sixPlaces r').rdropWhile (· == unit '0') = places r' from rfl] at hk' hlength'
  rw [List.length_append, List.length_replicate] at hlength hlength'
  have hsix : ∀ r, (sixPlaces r).length = 6 := fun _ => rfl
  rw [hsix, h] at hlength
  rw [hsix] at hlength'
  have hsame : k = k' := by omega
  rw [hk, hk', h, hsame]

theorem fractionText_injective (hr : r < 1000000) (hr' : r' < 1000000) (h : fractionText r = fractionText r') : r = r' := by
  unfold fractionText at h
  split_ifs at h with h0 h0'
  · rw [h0, h0']
  · have hplaces := sixPlaces_of_places (List.cons.inj h).2
    have hdigits := congrArg (List.map digitValue) hplaces
    simp only [sixPlaces, List.map_cons, List.map_nil, digitValue_digitUnit (Nat.mod_lt _ (by decide : 10 > 0)),
      List.cons.injEq, and_true] at hdigits
    omega

theorem decimal_digits (n : Nat) : decimal n ≠ [] ∧ ∀ c ∈ decimal n, isDigit c = true := by
  by_cases h : n = 0
  · subst h
    have hne : decimal 0 ≠ [] := by decide
    have hdigits : (decimal 0).all isDigit = true := by decide
    exact ⟨hne, List.all_eq_true.1 hdigits⟩
  · obtain ⟨c, t, ht, -, hd⟩ := decimal_cons h
    rw [ht]
    exact ⟨List.cons_ne_nil _ _, hd⟩

theorem takeWhile_fractionText (r : Nat) : (fractionText r).takeWhile isDigit = [] := by
  unfold fractionText
  split
  · rfl
  · rw [List.takeWhile_cons_of_neg (by decide)]

theorem dropWhile_fractionText (r : Nat) : (fractionText r).dropWhile isDigit = fractionText r := by
  unfold fractionText
  split
  · rfl
  · rw [List.dropWhile_cons_of_neg (by decide)]

theorem microsText_eq (n : Nat) : microsText n = decimal (n / 1000000) ++ fractionText (n % 1000000) := rfl

/-- **Amounts with one text are the same.** -/
theorem microsText_injective : Function.Injective microsText := by
  intro n m h
  rw [microsText_eq, microsText_eq] at h
  have htake : ∀ w r, (decimal w ++ fractionText r).takeWhile isDigit = decimal w := by
    intro w r
    rw [List.takeWhile_append_of_pos (decimal_digits w).2, takeWhile_fractionText, List.append_nil]
  have hdrop : ∀ w r, (decimal w ++ fractionText r).dropWhile isDigit = fractionText r := by
    intro w r
    rw [List.dropWhile_append_of_pos (decimal_digits w).2, dropWhile_fractionText]
  have hwhole := congrArg (List.takeWhile isDigit) h
  rw [htake, htake] at hwhole
  have hfraction := congrArg (List.dropWhile isDigit) h
  rw [hdrop, hdrop] at hfraction
  have hwhole := decimal_injective hwhole
  have hfraction := fractionText_injective (Nat.mod_lt _ (by decide)) (Nat.mod_lt _ (by decide)) hfraction
  omega

theorem fractionPart_fractionText (h : r < 1000000) : fractionPart (fractionText r) = true := by
  unfold fractionText
  split
  · rfl
  · next h0 =>
    have htake : (places r).takeWhile isDigit = places r :=
      List.takeWhile_eq_self_iff.2 fun _ hc => isDigit_of_mem_places hc
    have hdrop : (places r).dropWhile isDigit = [] :=
      List.dropWhile_eq_nil_iff.2 fun _ hc => isDigit_of_mem_places hc
    have hne : (places r).isEmpty = false := List.isEmpty_eq_false_iff.2 (places_ne_nil h0 h)
    simp [fractionPart, digits1, htake, hdrop, hne, exponentPart]

theorem isNumeral_microsText (n : Nat) : isNumeral (microsText n) = true ∧ microsText n ≠ "-0" := by
  have hlt : n % 1000000 < 1000000 := Nat.mod_lt _ (by decide)
  have hunits : ∀ c ∈ microsText n, isNumeralUnit c = true := by
    intro c hc
    rw [microsText_eq] at hc
    rcases List.mem_append.1 hc with hc | hc
    · exact isNumeralUnit_of_isDigit ((decimal_digits _).2 c hc)
    · unfold fractionText at hc
      split at hc
      · cases hc
      · rcases List.mem_cons.1 hc with rfl | hc
        · decide
        · exact isNumeralUnit_of_isDigit (isDigit_of_mem_places hc)
  obtain ⟨c, t, hct, hdigit, hinteger⟩ : ∃ c t, microsText n = c :: t ∧ isDigit c = true ∧ integerPart (c :: t) = true := by
    rw [microsText_eq]
    by_cases hwhole : n / 1000000 = 0
    · rw [hwhole]
      refine ⟨unit '0', fractionText (n % 1000000), by simp [decimal]; rfl, by decide, ?_⟩
      exact fractionPart_fractionText hlt
    · obtain ⟨c, t, ht, hc, hd⟩ := decimal_cons hwhole
      rw [ht]
      refine ⟨c, t ++ fractionText (n % 1000000), rfl, hd c (by simp), ?_⟩
      have htake : (c :: (t ++ fractionText (n % 1000000))).takeWhile isDigit = c :: t := by
        rw [← List.cons_append, List.takeWhile_append_of_pos hd, takeWhile_fractionText, List.append_nil]
      have hdrop : (c :: (t ++ fractionText (n % 1000000))).dropWhile isDigit = fractionText (n % 1000000) := by
        rw [← List.cons_append, List.dropWhile_append_of_pos hd, dropWhile_fractionText]
      simp [integerPart, hc, digits1, htake, hdrop, fractionPart_fractionText hlt]
  have hminus : c ≠ unit '-' := by
    rintro rfl
    exact absurd hdigit (by decide)
  rw [hct] at hunits ⊢
  constructor
  · simp only [isNumeral, Bool.and_eq_true, List.all_eq_true]
    refine ⟨hunits, ?_⟩
    simp [hminus, hinteger]
  · rw [show Text.ofAscii "-0" = [unit '-', unit '0'] by decide]
    intro heq
    exact hminus (List.cons.inj heq).1

def Value.ofMicros (n : Nat) : Value :=
  .num (.finite ⟨microsText n, (isNumeral_microsText n).1, (isNumeral_microsText n).2⟩)

end Tna.Js
