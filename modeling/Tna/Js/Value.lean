import Tna.Js.Text

/-!
# JavaScript values and `JSON.stringify`

The values that reach the programs modelled here are those `JSON.parse` builds,
plus `undefined`, which the programs themselves put in fields. A finite number
is kept as the text `Number::toString` gives it, the only thing serialisation
reads of it. An object is its list of own properties; `Value.distinct` says that
no object in a value repeats a key, which no JavaScript object can.
-/

namespace Tna.Js

/-- The units a JSON numeral is made of. -/
def isNumeralUnit (c : CodeUnit) : Bool :=
  isDigit c || c == unit '-' || c == unit '+' || c == unit '.' || c == unit 'e' || c == unit 'E'

/-- One digit or more, then `rest`. -/
def digits1 (rest : Text → Bool) (t : Text) : Bool :=
  !(t.takeWhile isDigit).isEmpty && rest (t.dropWhile isDigit)

/-- The exponent part of a numeral, if there is one. -/
def exponentPart : Text → Bool
  | [] => true
  | c :: t =>
    (c == unit 'e' || c == unit 'E') &&
      match t with
      | [] => false
      | s :: u => digits1 List.isEmpty (if s == unit '-' || s == unit '+' then u else t)

/-- The fraction part of a numeral, if there is one, and the exponent part. -/
def fractionPart : Text → Bool
  | c :: t => if c == unit '.' then digits1 exponentPart t else exponentPart (c :: t)
  | [] => true

/-- The integer part of a numeral, without a leading zero, and the rest. -/
def integerPart : Text → Bool
  | c :: t => if c == unit '0' then fractionPart t else digits1 fractionPart (c :: t)
  | [] => false

/-- A JSON numeral, by the JSON grammar. -/
def isNumeral (t : Text) : Bool :=
  t.all isNumeralUnit &&
    match t with
    | c :: u => if c == unit '-' then integerPart u else integerPart t
    | [] => false

/-- The text of a finite number other than `-0`. -/
structure Numeral where
  text : Text
  wf : isNumeral text = true
  ne_negZero : text ≠ "-0"
deriving DecidableEq

def Numeral.zero : Numeral := ⟨"0", by decide, by decide⟩

inductive Number where
  /-- By its `Number::toString` text. -/
  | finite (n : Numeral)
  | negZero
  | infinite (negative : Bool)
  | nan
deriving DecidableEq

inductive Value where
  | undefined
  | null
  | bool (b : Bool)
  | num (n : Number)
  | str (s : Text)
  | arr (items : List Value)
  | obj (fields : List (Text × Value))

namespace Value

/-- Reading a property: `undefined` when it is not there. -/
def get (fields : List (Text × Value)) (k : Text) : Value := (fields.lookup k).getD .undefined

def isUndefined : Value → Bool
  | .undefined => true
  | _ => false

/-- `value ?? other`. -/
def orElse (v other : Value) : Value :=
  match v with
  | .undefined => other
  | .null => other
  | v => v

/-- JavaScript truthiness. -/
def truthy : Value → Bool
  | .undefined => false
  | .null => false
  | .bool b => b
  | .num (.finite n) => n.text != "0"
  | .num (.infinite _) => true
  | .num _ => false
  | .str s => !s.isEmpty
  | .arr _ => true
  | .obj _ => true

mutual

/-- No object in the value has two properties with one key. -/
def distinct : Value → Bool
  | .arr items => distinctItems items
  | .obj fields => (fields.map Prod.fst).Nodup && distinctFields fields
  | _ => true

def distinctItems : List Value → Bool
  | [] => true
  | v :: rest => v.distinct && distinctItems rest

def distinctFields : List (Text × Value) → Bool
  | [] => true
  | (_, v) :: rest => v.distinct && distinctFields rest

end

mutual

/-- What is left of a value after `JSON.stringify` and `JSON.parse`: a property
that is `undefined` is dropped, any other `undefined` and a number that is not
finite become `null`, and `-0` loses its sign. -/
def normal : Value → Value
  | .undefined => .null
  | .null => .null
  | .bool b => .bool b
  | .num (.finite n) => .num (.finite n)
  | .num .negZero => .num (.finite .zero)
  | .num _ => .null
  | .str s => .str s
  | .arr items => .arr (normalItems items)
  | .obj fields => .obj (normalFields fields)

def normalItems : List Value → List Value
  | [] => []
  | v :: rest => v.normal :: normalItems rest

def normalFields : List (Text × Value) → List (Text × Value)
  | [] => []
  | (k, v) :: rest => if v.isUndefined then normalFields rest else (k, v.normal) :: normalFields rest

end

end Value

/-! ## Strings in JSON text -/

/-- A lower-case hexadecimal digit. -/
def hexDigit (n : Nat) : CodeUnit := (if n < 10 then 48 + n else 87 + n).toUInt16

/-- The six units of `\uXXXX`. -/
def unicodeEscape (c : CodeUnit) : Text :=
  let n := c.toNat
  [unit '\\', unit 'u', hexDigit (n / 4096), hexDigit (n / 256 % 16), hexDigit (n / 16 % 16), hexDigit (n % 16)]

/-- A unit inside a string literal; a unit `JSON.stringify` has no short form for
is given as it is, or escaped when it is a control unit. -/
def quoteUnit (c : CodeUnit) : Text :=
  if c = 8 then [unit '\\', unit 'b']
  else if c = 9 then [unit '\\', unit 't']
  else if c = 10 then [unit '\\', unit 'n']
  else if c = 12 then [unit '\\', unit 'f']
  else if c = 13 then [unit '\\', unit 'r']
  else if c = unit '"' then [unit '\\', unit '"']
  else if c = unit '\\' then [unit '\\', unit '\\']
  else if c < 32 then unicodeEscape c
  else [c]

/-- The inside of a string literal. A surrogate is given as it is only as half of
a pair, so that the text is well formed. -/
def quoteUnits : Text → Text
  | [] => []
  | [c] => if isHighSurrogate c || isLowSurrogate c then unicodeEscape c else quoteUnit c
  | c :: d :: rest =>
    if isHighSurrogate c then
      if isLowSurrogate d then c :: d :: quoteUnits rest else unicodeEscape c ++ quoteUnits (d :: rest)
    else if isLowSurrogate c then unicodeEscape c ++ quoteUnits (d :: rest)
    else quoteUnit c ++ quoteUnits (d :: rest)

/-- `JSON.stringify` of a string. -/
def quote (s : Text) : Text := unit '"' :: (quoteUnits s ++ [unit '"'])

/-! ## `JSON.stringify` -/

/-- `JSON.stringify` of a number. -/
def Number.stringify : Number → Text
  | .finite n => n.text
  | .negZero => "0"
  | _ => "null"

namespace Value

mutual

/-- `JSON.stringify`. An `undefined` that is not a property is written `null`, as
in an array; at the top `JSON.stringify` gives no text for it, and no caller
passes it. -/
def stringify : Value → Text
  | .undefined => "null"
  | .null => "null"
  | .bool true => "true"
  | .bool false => "false"
  | .num n => n.stringify
  | .str s => quote s
  | .arr items => unit '[' :: (joinComma (stringifyItems items) ++ [unit ']'])
  | .obj fields => unit '{' :: (joinComma (stringifyFields fields) ++ [unit '}'])

def stringifyItems : List Value → List Text
  | [] => []
  | v :: rest => v.stringify :: stringifyItems rest

def stringifyFields : List (Text × Value) → List Text
  | [] => []
  | (k, v) :: rest =>
    if v.isUndefined then stringifyFields rest
    else (quote k ++ unit ':' :: v.stringify) :: stringifyFields rest

end

end Value

end Tna.Js
