import Tna.Js.RoundTrip
import Tna.Js.Wellformed

/-!
# `JSON.stringify(v, null, 2)`

The text that is written for people: each item and each property on a line of its own,
two spaces deeper than what it is in. It is read back as the text without lines is.
-/

namespace Tna.Js

/-- A new line, and the spaces of a depth. -/
def newline (depth : Nat) : Text := 10 :: List.replicate (2 * depth) 32

/-- Texts between brackets, each on a line of its own. -/
def bracketed (opening closing : CodeUnit) (depth : Nat) (texts : List Text) : Text :=
  if texts.isEmpty then [opening, closing]
  else opening :: (joinComma (texts.map fun t => newline (depth + 1) ++ t) ++ (newline depth ++ [closing]))

namespace Value

mutual

/-- `JSON.stringify(v, null, 2)`, of a value at a depth. -/
def indented (depth : Nat) : Value → Text
  | .arr items => bracketed (unit '[') (unit ']') depth (indentedItems (depth + 1) items)
  | .obj fields => bracketed (unit '\x7b') (unit '\x7d') depth (indentedFields (depth + 1) fields)
  | .undefined => "null"
  | .null => "null"
  | .bool true => "true"
  | .bool false => "false"
  | .num n => n.stringify
  | .str s => quote s

def indentedItems (depth : Nat) : List Value → List Text
  | [] => []
  | v :: rest => v.indented depth :: indentedItems depth rest

def indentedFields (depth : Nat) : List (Text × Value) → List Text
  | [] => []
  | (k, v) :: rest =>
    if v.isUndefined then indentedFields depth rest
    else (quote k ++ unit ':' :: unit ' ' :: v.indented depth) :: indentedFields depth rest

end

end Value

theorem spaces_newline (depth : Nat) : Spaces (newline depth) := by
  intro c hc
  rcases List.mem_cons.1 hc with rfl | hc
  · decide
  · rw [List.eq_of_mem_replicate hc]
    decide

/-! ## Read back -/

namespace Value

/-- Items with the texts that are read back as them. -/
theorem parses_bracketed_items {items : List (Text × Value)} (h : ∀ p ∈ items, Parses p.1 p.2) (depth : Nat) :
    Parses (bracketed (unit '[') (unit ']') depth (items.map Prod.fst)) (.arr (items.map Prod.snd)) := by
  cases items with
  | nil => exact parses_empty.1
  | cons p items =>
    have henclosed := parses_items_enclosed (spaces_newline (depth + 1)) (spaces_newline depth) (List.cons_ne_nil p items) h
    simpa only [bracketed, List.map_cons, List.isEmpty_cons, Bool.false_eq_true, if_false, List.map_map, Function.comp_def] using
      henclosed

/-- Properties with the texts that are read back as them. -/
theorem parses_bracketed_fields {fields : List (Text × Text × Value)} (hk : (fields.map Prod.fst).Nodup)
    (h : ∀ f ∈ fields, Parses f.2.1 f.2.2) (depth : Nat) :
    Parses (bracketed (unit '\x7b') (unit '\x7d') depth (fields.map (fieldText [unit ' '])))
      (.obj (fields.map fun f => (f.1, f.2.2))) := by
  cases fields with
  | nil => exact parses_empty.2
  | cons f fields =>
    have hsep : Spaces [unit ' '] := List.forall_mem_singleton.2 (by decide)
    have henclosed := parses_fields_enclosed (spaces_newline (depth + 1)) (spaces_newline depth) hsep
      (List.cons_ne_nil f fields) hk h
    simpa only [bracketed, List.map_cons, List.isEmpty_cons, Bool.false_eq_true, if_false, List.map_map, Function.comp_def] using
      henclosed

mutual

theorem parses_indented : ∀ (v : Value) (depth : Nat), v.distinct = true → Parses (v.indented depth) v.normal
  | .undefined, _, h => parses_stringify .undefined h
  | .null, _, h => parses_stringify .null h
  | .bool true, _, h => parses_stringify (.bool true) h
  | .bool false, _, h => parses_stringify (.bool false) h
  | .num (.finite n), _, h => parses_stringify (.num (.finite n)) h
  | .num .negZero, _, h => parses_stringify (.num .negZero) h
  | .num (.infinite b), _, h => parses_stringify (.num (.infinite b)) h
  | .num .nan, _, h => parses_stringify (.num .nan) h
  | .str s, _, h => parses_stringify (.str s) h
  | .arr items, depth, h => by
    obtain ⟨pairs, htexts, hvalues, hparses⟩ := parses_indentedItems items (depth + 1) h
    rw [indented, normal, htexts, hvalues]
    exact parses_bracketed_items hparses depth
  | .obj fields, depth, h => by
    rw [distinct, Bool.and_eq_true, decide_eq_true_eq] at h
    obtain ⟨triples, htexts, hvalues, hkeys, hparses⟩ := parses_indentedFields fields (depth + 1) h.2
    rw [indented, normal, htexts, hvalues]
    exact parses_bracketed_fields (h.1.sublist hkeys) hparses depth

theorem parses_indentedItems : ∀ (items : List Value) (depth : Nat), distinctItems items = true →
    ∃ pairs : List (Text × Value), indentedItems depth items = pairs.map Prod.fst ∧ normalItems items = pairs.map Prod.snd ∧
      ∀ p ∈ pairs, Parses p.1 p.2
  | [], _, _ => ⟨[], rfl, rfl, List.forall_mem_nil _⟩
  | v :: rest, depth, h => by
    rw [distinctItems, Bool.and_eq_true] at h
    obtain ⟨pairs, htexts, hvalues, hparses⟩ := parses_indentedItems rest depth h.2
    refine ⟨(v.indented depth, v.normal) :: pairs, ?_, ?_, List.forall_mem_cons.2 ⟨parses_indented v depth h.1, hparses⟩⟩
    · rw [indentedItems, htexts, List.map_cons]
    · rw [normalItems, hvalues, List.map_cons]

theorem parses_indentedFields : ∀ (fields : List (Text × Value)) (depth : Nat), distinctFields fields = true →
    ∃ triples : List (Text × Text × Value), indentedFields depth fields = triples.map (fieldText [unit ' ']) ∧
      (normalFields fields = triples.map fun f => (f.1, f.2.2)) ∧ (triples.map Prod.fst).Sublist (fields.map Prod.fst) ∧
      ∀ f ∈ triples, Parses f.2.1 f.2.2
  | [], _, _ => ⟨[], rfl, rfl, List.Sublist.slnil, List.forall_mem_nil _⟩
  | (k, v) :: rest, depth, h => by
    rw [distinctFields, Bool.and_eq_true] at h
    obtain ⟨triples, htexts, hvalues, hkeys, hparses⟩ := parses_indentedFields rest depth h.2
    by_cases hundefined : v.isUndefined = true
    · refine ⟨triples, ?_, ?_, hkeys.cons k, hparses⟩
      · rw [indentedFields, if_pos hundefined, htexts]
      · rw [normalFields, if_pos hundefined, hvalues]
    · refine ⟨(k, v.indented depth, v.normal) :: triples, ?_, ?_, hkeys.cons_cons k,
        List.forall_mem_cons.2 ⟨parses_indented v depth h.1, hparses⟩⟩
      · rw [indentedFields, if_neg hundefined, htexts, List.map_cons]
        rfl
      · rw [normalFields, if_neg hundefined, hvalues, List.map_cons]

end

/-! ## Well-formed -/

theorem isWellFormed_bracketed {opening closing : CodeUnit} (hopening : isSurrogate opening = false)
    (hclosing : isSurrogate closing = false) (depth : Nat) {texts : List Text} (h : ∀ t ∈ texts, t.isWellFormed = true) :
    (bracketed opening closing depth texts).isWellFormed = true := by
  have hline : ∀ depth, (newline depth).isWellFormed = true := fun depth => isWellFormed_of_units fun c hc => by
    rcases List.mem_cons.1 hc with rfl | hc
    · decide
    · rw [List.eq_of_mem_replicate hc]
      decide
  have hend : Text.isWellFormed [closing] = true := isWellFormed_cons hclosing rfl
  unfold bracketed
  split
  · exact isWellFormed_cons hopening hend
  · refine isWellFormed_cons hopening (isWellFormed_append (isWellFormed_joinComma ?_) (isWellFormed_append (hline depth) hend))
    intro t ht
    obtain ⟨u, hu, rfl⟩ := List.mem_map.1 ht
    exact isWellFormed_append (hline (depth + 1)) (h u hu)

mutual

theorem isWellFormed_indented : ∀ (v : Value) (depth : Nat), (v.indented depth).isWellFormed = true
  | .undefined, _ => isWellFormed_stringify .undefined
  | .null, _ => isWellFormed_stringify .null
  | .bool true, _ => isWellFormed_stringify (.bool true)
  | .bool false, _ => isWellFormed_stringify (.bool false)
  | .num n, _ => isWellFormed_stringify (.num n)
  | .str s, _ => isWellFormed_stringify (.str s)
  | .arr items, depth => isWellFormed_bracketed (by decide) (by decide) depth (isWellFormed_indentedItems items (depth + 1))
  | .obj fields, depth => isWellFormed_bracketed (by decide) (by decide) depth (isWellFormed_indentedFields fields (depth + 1))

theorem isWellFormed_indentedItems : ∀ (items : List Value) (depth : Nat),
    ∀ t ∈ indentedItems depth items, t.isWellFormed = true
  | [], _ => List.forall_mem_nil _
  | v :: rest, depth => List.forall_mem_cons.2 ⟨isWellFormed_indented v depth, isWellFormed_indentedItems rest depth⟩

theorem isWellFormed_indentedFields : ∀ (fields : List (Text × Value)) (depth : Nat),
    ∀ t ∈ indentedFields depth fields, t.isWellFormed = true
  | [], _ => List.forall_mem_nil _
  | (k, v) :: rest, depth => by
    rw [indentedFields]
    split
    · exact isWellFormed_indentedFields rest depth
    · refine List.forall_mem_cons.2 ⟨?_, isWellFormed_indentedFields rest depth⟩
      exact isWellFormed_append (isWellFormed_quote k)
        (isWellFormed_cons (by decide) (isWellFormed_cons (by decide) (isWellFormed_indented v depth)))

end

end Value

/-- **The round trip**: `JSON.parse(JSON.stringify(v, null, 2))`. -/
theorem parse_indented {v : Value} (h : v.distinct = true) : parse (v.indented 0) = some v.normal := by
  have hp := (Value.parses_indented v 0 h).parse ((v.indented 0).length + 1) [] (by omega) delim_nil
  rw [List.append_nil] at hp
  rw [parse, hp]
  rfl

example : (Value.obj [("a", .arr [.null])]).indented 0 = Text.ofAscii "\x7b\n  \"a\": [\n    null\n  ]\n\x7d" := by decide

end Tna.Js
