import Mathlib.Data.List.Basic
import Mathlib.Data.List.Infix

/-!
# JavaScript strings

A JavaScript string is a sequence of UTF-16 code units, and a lone surrogate is
a legal element of one. `length`, `slice`, `startsWith` and `<` all work on
units, so text is a list of units here and those operations are the list's own.
Program text only ever compares against ASCII literals; `Text.ofAscii` turns
one into its units.
-/

namespace Tna.Js

/-- One UTF-16 code unit. -/
abbrev CodeUnit := UInt16

/-- A JavaScript string. -/
abbrev Text := List CodeUnit

instance : LawfulBEq Text := inferInstance

/-- The unit of an ASCII character. -/
def unit (c : Char) : CodeUnit := c.toNat.toUInt16

/-- The units of an ASCII literal: its bytes, one unit each. -/
def Text.ofAscii (s : String) : Text := s.toByteArray.data.toList.map UInt8.toUInt16

instance : Coe String Text := ⟨Text.ofAscii⟩

theorem toUInt16_injective : Function.Injective UInt8.toUInt16 := by
  intro a b h
  have := congrArg UInt16.toNat h
  simpa [← UInt8.toNat_inj] using this

/-- Two literals are the same text only when they are the same literal. -/
@[simp] theorem Text.ofAscii_inj {a b : String} : Text.ofAscii a = Text.ofAscii b ↔ a = b := by
  refine ⟨fun h => ?_, fun h => by rw [h]⟩
  have h := List.map_injective_iff.2 toUInt16_injective h
  exact String.toByteArray_inj.1 (ByteArray.ext (Array.toList_inj.1 h))

/-! ## Unit classes -/

def isDigit (c : CodeUnit) : Bool := unit '0' ≤ c && c ≤ unit '9'

def isUpper (c : CodeUnit) : Bool := unit 'A' ≤ c && c ≤ unit 'Z'

def isLower (c : CodeUnit) : Bool := unit 'a' ≤ c && c ≤ unit 'z'

def isAlnum (c : CodeUnit) : Bool := isDigit c || isUpper c || isLower c

def isHighSurrogate (c : CodeUnit) : Bool := 0xD800 ≤ c && c ≤ 0xDBFF

def isLowSurrogate (c : CodeUnit) : Bool := 0xDC00 ≤ c && c ≤ 0xDFFF

/-- White space as the regular expression class `\s` has it. -/
def isSpace (c : CodeUnit) : Bool :=
  (9 ≤ c && c ≤ 13) || c == 32 || c == 0xA0 || c == 0x1680 || (0x2000 ≤ c && c ≤ 0x200A)
    || c == 0x2028 || c == 0x2029 || c == 0x202F || c == 0x205F || c == 0x3000 || c == 0xFEFF

/-- The case folding of a regular expression with flag `i` and without flag `u`,
as far as it can meet an ASCII letter: only an ASCII capital folds to one. -/
def foldCase (c : CodeUnit) : CodeUnit := if isUpper c then c + 32 else c

/-! ## Searching -/

/-- `text.includes(needle)`. -/
def Text.includes (needle : Text) : Text → Bool
  | [] => needle.isEmpty
  | c :: rest => needle.isPrefixOf (c :: rest) || includes needle rest

/-- The number of bytes of the UTF-8 form (`Buffer.byteLength(text, 'utf8')`);
a lone surrogate is encoded as the replacement character. -/
def Text.byteLength : Text → Nat
  | [] => 0
  | [c] => if c < 0x80 then 1 else if c < 0x800 then 2 else 3
  | c :: d :: rest =>
    if c < 0x80 then 1 + byteLength (d :: rest)
    else if c < 0x800 then 2 + byteLength (d :: rest)
    else if isHighSurrogate c && isLowSurrogate d then 4 + byteLength rest
    else 3 + byteLength (d :: rest)

/-- `pieces.join(',')`. -/
def joinComma : List Text → Text
  | [] => []
  | [t] => t
  | t :: rest => t ++ unit ',' :: joinComma rest

theorem joinComma_cons_cons (t u : Text) (rest : List Text) :
    joinComma (t :: u :: rest) = t ++ unit ',' :: joinComma (u :: rest) := rfl

example : joinComma ["a", "b"] = "a,b" := by decide

end Tna.Js
