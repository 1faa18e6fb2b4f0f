import Mathlib.Data.Rat.Defs
import Tna.Js.Decimal

/-!
# What a numeral stands for

A finite number is kept as its text. Where a program compares a number with a bound, the
text is read as the decimal fraction it is. A bound that is a whole number lies on the same
side of the number and of the decimal that `Number::toString` gives for it. `Number(text)`
is the fraction a text is written as; the rounding to a double is left out.
-/

namespace Tna.Js

/-- The number in a sequence of digits. -/
def digitsValue (t : Text) : Nat := t.foldl (fun n c => n * 10 + digitValue c) 0

/-- The exponent that is written after an `e`. -/
def exponentValue : Text → Int
  | c :: t => if c = unit '-' then -digitsValue t else if c = unit '+' then digitsValue t else digitsValue (c :: t)
  | [] => 0

/-- A numeral without its sign, as a decimal fraction. -/
def magnitude (t : Text) : ℚ :=
  let whole := t.takeWhile isDigit
  let rest := t.dropWhile isDigit
  let fraction := if rest.head? = some (unit '.') then rest.tail.takeWhile isDigit else []
  let power := if rest.head? = some (unit '.') then rest.tail.dropWhile isDigit else rest
  let exponent := exponentValue power.tail - fraction.length
  digitsValue (whole ++ fraction) * if exponent < 0 then 1 / 10 ^ (-exponent).toNat else 10 ^ exponent.toNat

def Numeral.value (n : Numeral) : ℚ :=
  if n.text.head? = some (unit '-') then -magnitude n.text.tail else magnitude n.text

example : magnitude "3600" = 3600 ∧ magnitude "0.25" = 1 / 4 ∧ magnitude "1.5e+21" = 15 * 10 ^ 20 ∧
    magnitude "5e-7" = 5 / 10 ^ 7 := by decide +kernel

/-- `typeof v === 'number' && Number.isFinite(v)`, with the number and what it stands for. -/
def finiteNumber : Value → Option (Number × ℚ)
  | .num (.finite n) => some (.finite n, n.value)
  | .num .negZero => some (.negZero, 0)
  | _ => none

/-! ## `Number(text)` -/

inductive Numeric where
  | nan
  | infinite (negative : Bool)
  | finite (value : ℚ)
deriving DecidableEq

/-- `text.trim()`. -/
def Text.trim (t : Text) : Text := (t.dropWhile isSpace).rdropWhile isSpace

/-- A decimal numeral without a sign, by the grammar of string conversion. -/
def isDecimalLiteral (t : Text) : Bool :=
  let whole := t.takeWhile isDigit
  match t.dropWhile isDigit with
  | [] => !whole.isEmpty
  | c :: rest =>
    if c == unit '.' then !(whole ++ rest.takeWhile isDigit).isEmpty && exponentPart (rest.dropWhile isDigit)
    else !whole.isEmpty && exponentPart (c :: rest)

/-- The value of a digit in any radix up to sixteen; sixteen for no digit. -/
def radixDigit (c : CodeUnit) : Nat :=
  if isDigit c then digitValue c
  else if unit 'a' ≤ c && c ≤ unit 'f' then c.toNat - 87
  else if unit 'A' ≤ c && c ≤ unit 'F' then c.toNat - 55
  else 16

/-- A whole number in another radix. -/
def radixNumber (radix : Nat) (t : Text) : Numeric :=
  if !t.isEmpty && t.all (fun c => decide (radixDigit c < radix)) then
    .finite (t.foldl (fun n c => n * radix + radixDigit c) 0 : Nat)
  else .nan

def signedNumber (negative : Bool) (t : Text) : Numeric :=
  if t = Text.ofAscii "Infinity" then .infinite negative
  else if isDecimalLiteral t then .finite (if negative then -magnitude t else magnitude t)
  else .nan

/-- `Number(text)`. -/
def numberOf (t : Text) : Numeric :=
  let t := t.trim
  if t = [] then .finite 0
  else if t.take 2 = Text.ofAscii "0x" ∨ t.take 2 = Text.ofAscii "0X" then radixNumber 16 (t.drop 2)
  else if t.take 2 = Text.ofAscii "0o" ∨ t.take 2 = Text.ofAscii "0O" then radixNumber 8 (t.drop 2)
  else if t.take 2 = Text.ofAscii "0b" ∨ t.take 2 = Text.ofAscii "0B" then radixNumber 2 (t.drop 2)
  else if t.head? = some (unit '-') then signedNumber true t.tail
  else if t.head? = some (unit '+') then signedNumber false t.tail
  else signedNumber false t

example : numberOf " 12.5\n" = .finite (25 / 2) ∧ numberOf "" = .finite 0 ∧ numberOf "0x1f" = .finite 31 ∧
    numberOf "-Infinity" = .infinite true ∧ numberOf "12 ms" = .nan ∧ numberOf "." = .nan := by decide +kernel

/-- `a <= b`. -/
def Numeric.le : Numeric → Numeric → Bool
  | .nan, _ => false
  | _, .nan => false
  | .infinite true, _ => true
  | _, .infinite false => true
  | .infinite false, _ => false
  | _, .infinite true => false
  | .finite a, .finite b => decide (a ≤ b)

/-- `a < b`. -/
def Numeric.lt (a b : Numeric) : Bool := a.le b && !b.le a

/-- `a - b`, where `b` is a number of a request. -/
def Numeric.minus (a : Numeric) (b : ℚ) : Numeric :=
  match a with
  | .finite v => .finite (v - b)
  | other => other

/-- `a >= b`, where `b` is a number of a request. -/
def Numeric.atLeast (a : Numeric) (b : ℚ) : Bool :=
  match a with
  | .nan => false
  | .infinite negative => !negative
  | .finite v => decide (b ≤ v)

/-! ## Comparing -/

theorem Numeric.le_trans {a b c : Numeric} (hab : a.le b = true) (hbc : b.le c = true) : a.le c = true := by
  rcases a with _ | ⟨_ | _⟩ | a <;> rcases b with _ | ⟨_ | _⟩ | b <;> rcases c with _ | ⟨_ | _⟩ | c <;>
    simp only [Numeric.le, Bool.false_eq_true, decide_eq_true_eq] at hab hbc ⊢
  exact hab.trans hbc

/-- Only `NaN` is not below itself. -/
theorem Numeric.le_refl_iff {a : Numeric} : a.le a = true ↔ a ≠ .nan := by
  rcases a with _ | ⟨_ | _⟩ | a <;> simp [Numeric.le]

theorem Numeric.le_total {a b : Numeric} (ha : a ≠ .nan) (hb : b ≠ .nan) : a.le b = true ∨ b.le a = true := by
  rcases a with _ | ⟨_ | _⟩ | a <;> rcases b with _ | ⟨_ | _⟩ | b <;> simp [Numeric.le] at ha hb ⊢
  exact Rat.le_total

theorem Numeric.le_antisymm {a b : Numeric} (hab : a.le b = true) (hba : b.le a = true) : a = b := by
  rcases a with _ | ⟨_ | _⟩ | a <;> rcases b with _ | ⟨_ | _⟩ | b <;>
    simp only [Numeric.le, Bool.false_eq_true, decide_eq_true_eq] at hab hba ⊢
  exact congrArg _ (hab.antisymm hba)

/-- Numbers are compared either way. -/
theorem Numeric.lt_eq {a b : Numeric} (ha : a ≠ .nan) (hb : b ≠ .nan) : a.lt b = !b.le a := by
  have h := Numeric.le_total ha hb
  cases hba : b.le a with
  | true => rw [Numeric.lt, hba, Bool.not_true, Bool.and_false]
  | false =>
    rw [hba] at h
    rw [Numeric.lt, hba, h.resolve_right Bool.false_ne_true, Bool.not_false, Bool.and_true]

/-! ## Whole numbers -/

/-- A number is read back from its decimal text. -/
theorem digitsValue_decimal (n : Nat) : digitsValue (decimal n) = n := by
  have hfold : ∀ ds : List Nat, (∀ d ∈ ds, d < 10) →
      ds.foldr (fun d m => m * 10 + digitValue (digitUnit d)) 0 = Nat.ofDigits 10 ds := by
    intro ds hds
    induction ds with
    | nil => rfl
    | cons d ds ih =>
      rw [List.forall_mem_cons] at hds
      rw [List.foldr_cons, ih hds.2, digitValue_digitUnit hds.1, Nat.ofDigits_cons]
      omega
  by_cases hn : n = 0
  · subst hn
    rfl
  · rw [decimal, if_neg hn, digitsValue, List.foldl_map, List.foldl_reverse,
      hfold _ fun d hd => Nat.digits_lt_base (by decide) hd, Nat.ofDigits_digits]

/-- What holds of the ten digits holds of a digit. -/
theorem forall_digit {p : CodeUnit → Bool} (h : ∀ d : Fin 10, p (digitUnit d) = true) {c : CodeUnit} (hc : isDigit c = true) :
    p c = true := by
  simp only [isDigit, Bool.and_eq_true, decide_eq_true_eq, UInt16.le_iff_toNat_le] at hc
  have hlow : 48 ≤ c.toNat := hc.1
  have hhigh : c.toNat ≤ 57 := hc.2
  have heq : digitUnit (c.toNat - 48) = c := by
    rw [digitUnit, Nat.add_sub_cancel' hlow]
    simp
  rw [← heq]
  exact h ⟨c.toNat - 48, by omega⟩

theorem magnitude_decimal (n : Nat) : magnitude (decimal n) = n := by
  have htake : (decimal n).takeWhile isDigit = decimal n := List.takeWhile_eq_self_iff.2 (decimal_digits n).2
  have hdrop : (decimal n).dropWhile isDigit = [] := List.dropWhile_eq_nil_iff.2 (decimal_digits n).2
  simp [magnitude, htake, hdrop, exponentValue, digitsValue_decimal]

/-- **A whole number is read back from the text it is written as.** -/
theorem numberOf_decimal (n : Nat) : numberOf (decimal n) = .finite n := by
  obtain ⟨hne, hdigits⟩ := decimal_digits n
  obtain ⟨c, t, ht⟩ := List.exists_cons_of_ne_nil hne
  have hspace : ∀ c ∈ decimal n, isSpace c = false := fun c hc => by
    have h := forall_digit (p := fun c => !isSpace c) (by decide) (hdigits c hc)
    simpa using h
  have htrim : (decimal n).trim = decimal n := by
    rw [Text.trim, List.dropWhile_eq_self_iff.2 fun hpos => ?_, List.rdropWhile_eq_self_iff.2 fun hne => ?_]
    · rw [hspace _ (List.getLast_mem hne)]
      nofun
    · rw [hspace _ (List.getElem_mem hpos)]
      nofun
  have hradix : ∀ x : CodeUnit, isDigit x = false → (decimal n).take 2 ≠ [unit '0', x] := by
    intro x hx htake
    have hmem : x ∈ (decimal n).take 2 := by rw [htake]; simp
    rw [hdigits x (List.mem_of_mem_take hmem)] at hx
    cases hx
  have hhead : ∀ x : CodeUnit, isDigit x = false → (decimal n).head? ≠ some x := by
    intro x hx hhead
    rw [hdigits x (List.mem_of_mem_head? hhead)] at hx
    cases hx
  have hinfinity : decimal n ≠ Text.ofAscii "Infinity" := by
    intro h
    have hmem : unit 'I' ∈ decimal n := by rw [h]; decide
    exact absurd (hdigits _ hmem) (by decide)
  have hliteral : isDecimalLiteral (decimal n) = true := by
    have htake : (decimal n).takeWhile isDigit = decimal n := List.takeWhile_eq_self_iff.2 hdigits
    have hdrop : (decimal n).dropWhile isDigit = [] := List.dropWhile_eq_nil_iff.2 hdigits
    simp [isDecimalLiteral, htake, hdrop, hne]
  have htwo : ∀ x : Char, Text.ofAscii (String.ofList ['0', x]) = [unit '0', unit x] → isDigit (unit x) = false →
      (decimal n).take 2 ≠ Text.ofAscii (String.ofList ['0', x]) := by
    intro x hx hdigit
    rw [hx]
    exact hradix _ hdigit
  rw [numberOf, htrim]
  simp only [hne, if_false]
  rw [if_neg (not_or.2 ⟨htwo 'x' (by decide) (by decide), htwo 'X' (by decide) (by decide)⟩),
    if_neg (not_or.2 ⟨htwo 'o' (by decide) (by decide), htwo 'O' (by decide) (by decide)⟩),
    if_neg (not_or.2 ⟨htwo 'b' (by decide) (by decide), htwo 'B' (by decide) (by decide)⟩),
    if_neg (hhead _ (by decide)), if_neg (hhead _ (by decide)), signedNumber, if_neg hinfinity, if_pos hliteral,
    magnitude_decimal]
  rfl

end Tna.Js
