import Tna.Js.Value

/-!
# `JSON.parse`

A recursive-descent parser of the JSON grammar over code units. `fuel` bounds
the nesting and the number of items; a text never needs more than its own
length. A repeated key overwrites the value of the first, as in JavaScript. A
numeral is taken as written: rounding to a double is not modelled, and on the
text of a double, which is all `JSON.stringify` writes, there is none. The
enumeration order of keys that are array indices is not modelled either.
-/

namespace Tna.Js

def isJsonSpace (c : CodeUnit) : Bool := c == 32 || c == 9 || c == 10 || c == 13

def skipSpace (t : Text) : Text := t.dropWhile isJsonSpace

def hexValue (c : CodeUnit) : Option Nat :=
  let n := c.toNat
  if 48 ≤ n ∧ n ≤ 57 then some (n - 48)
  else if 97 ≤ n ∧ n ≤ 102 then some (n - 87)
  else if 65 ≤ n ∧ n ≤ 70 then some (n - 55)
  else none

/-- The four hexadecimal digits of `\uXXXX`. -/
def hexUnit (a b c d : CodeUnit) : Option CodeUnit := do
  let a ← hexValue a
  let b ← hexValue b
  let c ← hexValue c
  let d ← hexValue d
  some (a * 4096 + b * 256 + c * 16 + d).toUInt16

/-- The unit a two-unit escape stands for. -/
def shortEscape (c : CodeUnit) : Option CodeUnit :=
  if c = unit '"' ∨ c = unit '\\' ∨ c = unit '/' then some c
  else if c = unit 'b' then some 8
  else if c = unit 't' then some 9
  else if c = unit 'n' then some 10
  else if c = unit 'f' then some 12
  else if c = unit 'r' then some 13
  else none

/-- The rest of a string literal after the opening quote. -/
def parseString : Text → Option (Text × Text)
  | [] => none
  | c :: rest =>
    if c = unit '"' then some ([], rest)
    else if c = unit '\\' then
      match rest with
      | [] => none
      | e :: rest' =>
        if e = unit 'u' then
          match rest' with
          | h₁ :: h₂ :: h₃ :: h₄ :: rest'' =>
            match hexUnit h₁ h₂ h₃ h₄ with
            | some u => (parseString rest'').map fun (s, t) => (u :: s, t)
            | none => none
          | _ => none
        else
          match shortEscape e with
          | some u => (parseString rest').map fun (s, t) => (u :: s, t)
          | none => none
    else if c < 32 then none
    else (parseString rest).map fun (s, t) => (c :: s, t)

/-- A numeral and what follows it. -/
def parseNumeral (t : Text) : Option (Number × Text) :=
  let token := t.takeWhile isNumeralUnit
  if wf : isNumeral token = true then
    some (if h : token = "-0" then .negZero else .finite ⟨token, wf, h⟩, t.dropWhile isNumeralUnit)
  else none

/-- `target[k] = v` on own properties. -/
def setField (fields : List (Text × Value)) (k : Text) (v : Value) : List (Text × Value) :=
  if fields.any (fun f => f.1 = k) then fields.map fun f => if f.1 = k then (k, v) else f
  else fields ++ [(k, v)]

mutual

def parseValue : Nat → Text → Option (Value × Text)
  | 0, _ => none
  | fuel + 1, t =>
    let t := skipSpace t
    match t with
    | [] => none
    | c :: rest =>
      if c = unit '"' then (parseString rest).map fun (s, t) => (.str s, t)
      else if c = unit '[' then
        match skipSpace rest with
        | [] => none
        | d :: rest' =>
          if d = unit ']' then some (.arr [], rest')
          else (parseItems fuel (d :: rest')).map fun (items, t) => (.arr items, t)
      else if c = unit '\x7b' then
        match skipSpace rest with
        | [] => none
        | d :: rest' =>
          if d = unit '\x7d' then some (.obj [], rest')
          else (parseFields fuel [] (d :: rest')).map fun (fields, t) => (.obj fields, t)
      else if (Text.ofAscii "null").isPrefixOf t then some (.null, t.drop 4)
      else if (Text.ofAscii "true").isPrefixOf t then some (.bool true, t.drop 4)
      else if (Text.ofAscii "false").isPrefixOf t then some (.bool false, t.drop 5)
      else (parseNumeral t).map fun (n, t) => (.num n, t)

/-- The items of an array up to and with the closing bracket. -/
def parseItems : Nat → Text → Option (List Value × Text)
  | 0, _ => none
  | fuel + 1, t =>
    match parseValue fuel t with
    | none => none
    | some (v, t) =>
      match skipSpace t with
      | [] => none
      | c :: rest =>
        if c = unit ']' then some ([v], rest)
        else if c = unit ',' then (parseItems fuel rest).map fun (items, t) => (v :: items, t)
        else none

/-- The properties of an object up to and with the closing brace, added to those read before. -/
def parseFields : Nat → List (Text × Value) → Text → Option (List (Text × Value) × Text)
  | 0, _, _ => none
  | fuel + 1, fields, t =>
    match skipSpace t with
    | [] => none
    | c :: rest =>
      if c = unit '"' then
        match parseString rest with
        | none => none
        | some (k, t) =>
          match skipSpace t with
          | [] => none
          | d :: rest =>
            if d = unit ':' then
              match parseValue fuel rest with
              | none => none
              | some (v, t) =>
                match skipSpace t with
                | [] => none
                | e :: rest =>
                  if e = unit '\x7d' then some (setField fields k v, rest)
                  else if e = unit ',' then parseFields fuel (setField fields k v) rest
                  else none
            else none
      else none

end

/-- `JSON.parse(text)`; `none` is a `SyntaxError`. -/
def parse (t : Text) : Option Value :=
  match parseValue (t.length + 1) t with
  | some (v, rest) => if (skipSpace rest).isEmpty then some v else none
  | none => none

end Tna.Js
