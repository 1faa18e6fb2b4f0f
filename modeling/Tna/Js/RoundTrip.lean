import Tna.Js.Parse

/-!
# `JSON.parse` after `JSON.stringify`

`parse (stringify v)` is `v.normal` for every value whose objects do not repeat
a key. Each kind of text is shown to parse in front of an arbitrary rest, and
the value is put together from its parts by `Parses`.
-/

namespace Tna.Js

/-! ## Strings -/

theorem hexValue_hexDigit {n : Nat} (h : n < 16) : hexValue (hexDigit n) = some n := by
  have all : ∀ i : Fin 16, hexValue (hexDigit i.1) = some i.1 := by decide
  exact all ⟨n, h⟩

theorem parseString_unicodeEscape (c : CodeUnit) (t : Text) :
    parseString (unicodeEscape c ++ t) = (parseString t).map fun (s, r) => (c :: s, r) := by
  have hc : c.toNat < 65536 := c.toNat_lt
  have hu : hexUnit (hexDigit (c.toNat / 4096)) (hexDigit (c.toNat / 256 % 16)) (hexDigit (c.toNat / 16 % 16))
      (hexDigit (c.toNat % 16)) = some c := by
    have hsum : c.toNat / 4096 * 4096 + c.toNat / 256 % 16 * 256 + c.toNat / 16 % 16 * 16 + c.toNat % 16 = c.toNat := by
      omega
    simp only [hexUnit, hexValue_hexDigit (show c.toNat / 4096 < 16 by omega),
      hexValue_hexDigit (show c.toNat / 256 % 16 < 16 by omega), hexValue_hexDigit (show c.toNat / 16 % 16 < 16 by omega),
      hexValue_hexDigit (show c.toNat % 16 < 16 by omega), Option.bind_eq_bind, Option.bind_some, hsum]
    exact congrArg some (UInt16.ofNat_toNat)
  have hq : unit '\\' ≠ unit '"' := by decide
  simp only [unicodeEscape, List.cons_append, List.nil_append]
  rw [parseString.eq_def]
  simp only [if_neg hq, if_pos, hu]

variable {c : CodeUnit} {rest spaces : Text} {v : Value}

theorem parseString_raw (hq : c ≠ unit '"') (hb : c ≠ unit '\\') (hc : ¬ c < 32) (t : Text) :
    parseString (c :: t) = (parseString t).map fun (s, r) => (c :: s, r) := by
  rw [parseString.eq_def]
  simp only [if_neg hq, if_neg hb, if_neg hc]

theorem parseString_short {e : CodeUnit} (hu : e ≠ unit 'u') (he : shortEscape e = some c) (t : Text) :
    parseString (unit '\\' :: e :: t) = (parseString t).map fun (s, r) => (c :: s, r) := by
  have hq : unit '\\' ≠ unit '"' := by decide
  rw [parseString.eq_def]
  simp only [if_neg hq, if_pos, if_neg hu, he]

theorem parseString_end (t : Text) : parseString (unit '"' :: t) = some ([], t) := by
  rw [parseString.eq_def]
  simp only [if_pos]

theorem parseString_quoteUnit (c : CodeUnit) (t : Text) :
    parseString (quoteUnit c ++ t) = (parseString t).map fun (s, r) => (c :: s, r) := by
  unfold quoteUnit
  split_ifs with h8 h9 h10 h12 h13 hq hb h32
  · subst h8; exact parseString_short (by decide) (by decide) t
  · subst h9; exact parseString_short (by decide) (by decide) t
  · subst h10; exact parseString_short (by decide) (by decide) t
  · subst h12; exact parseString_short (by decide) (by decide) t
  · subst h13; exact parseString_short (by decide) (by decide) t
  · subst hq; exact parseString_short (by decide) (by decide) t
  · subst hb; exact parseString_short (by decide) (by decide) t
  · exact parseString_unicodeEscape c t
  · exact parseString_raw hq hb h32 t

theorem parseString_surrogate (h : isHighSurrogate c = true ∨ isLowSurrogate c = true) (t : Text) :
    parseString (c :: t) = (parseString t).map fun (s, r) => (c :: s, r) := by
  have h : 0xD800 ≤ c.toNat := by
    simp only [isHighSurrogate, isLowSurrogate, Bool.and_eq_true, decide_eq_true_eq, UInt16.le_iff_toNat_le] at h
    rcases h with h | h <;> simp at h <;> omega
  refine parseString_raw ?_ ?_ ?_ t
  · rintro rfl; exact absurd h (by decide)
  · rintro rfl; exact absurd h (by decide)
  · rw [UInt16.lt_iff_toNat_lt]; simp; omega

/-- **A quoted string** reads back as it was, whatever follows it. -/
theorem parseString_quoteUnits (s rest : Text) :
    parseString (quoteUnits s ++ unit '"' :: rest) = some (s, rest) := by
  fun_induction quoteUnits s with
  | case1 => exact parseString_end rest
  | case2 c hs => rw [parseString_unicodeEscape, parseString_end]; rfl
  | case3 c hs => rw [parseString_quoteUnit, parseString_end]; rfl
  | case4 c d t hc hd ih =>
    simp only [List.cons_append]
    rw [parseString_surrogate (.inl hc), parseString_surrogate (.inr hd), ih]
    rfl
  | case5 c d t hc hd ih => rw [List.append_assoc, parseString_unicodeEscape, ih]; rfl
  | case6 c d t hc hd ih => rw [List.append_assoc, parseString_unicodeEscape, ih]; rfl
  | case7 c d t hc hd ih => rw [List.append_assoc, parseString_quoteUnit, ih]; rfl

/-! ## Leaves -/

/-- What may follow a value: anything that cannot be taken for more of a numeral. -/
def Delim (rest : Text) : Prop := ∀ c t, rest = c :: t → isNumeralUnit c = false

theorem delim_nil : Delim [] := by
  intro c t h; cases h

theorem delim_cons (h : isNumeralUnit c = false) (t : Text) : Delim (c :: t) := by
  rintro _ _ ⟨⟩; exact h

theorem Delim.takeWhile (h : Delim rest) : rest.takeWhile isNumeralUnit = [] := by
  cases rest with
  | nil => rfl
  | cons c t => rw [List.takeWhile_cons_of_neg]; simp [h c t rfl]

theorem Delim.dropWhile (h : Delim rest) : rest.dropWhile isNumeralUnit = rest := by
  cases rest with
  | nil => rfl
  | cons c t => rw [List.dropWhile_cons_of_neg]; simp [h c t rfl]

theorem skipSpace_cons (h : isJsonSpace c = false) (t : Text) : skipSpace (c :: t) = c :: t := by
  rw [skipSpace, List.dropWhile_cons_of_neg]; simp [h]

/-- Text between two tokens, which the parser skips. -/
def Spaces (t : Text) : Prop := ∀ c ∈ t, isJsonSpace c = true

theorem spaces_nil : Spaces [] := List.forall_mem_nil _

theorem skipSpace_append (h : Spaces spaces) (t : Text) : skipSpace (spaces ++ t) = skipSpace t :=
  List.dropWhile_append_of_pos h

theorem delim_spaces (h : Spaces spaces) (hc : isNumeralUnit c = false) (t : Text) : Delim (spaces ++ c :: t) := by
  cases spaces with
  | nil => exact delim_cons hc t
  | cons d spaces =>
    have hd := h d (List.mem_cons_self ..)
    refine delim_cons ?_ _
    simp only [isJsonSpace, Bool.or_eq_true, beq_iff_eq] at hd
    rcases hd with ((rfl | rfl) | rfl) | rfl <;> decide

theorem parseValue_spaces (h : Spaces spaces) (fuel : Nat) (t : Text) : parseValue fuel (spaces ++ t) = parseValue fuel t := by
  cases fuel with
  | zero => rw [parseValue, parseValue]
  | succ fuel => rw [parseValue, parseValue, skipSpace_append h]

theorem parseItems_spaces (h : Spaces spaces) (fuel : Nat) (t : Text) : parseItems fuel (spaces ++ t) = parseItems fuel t := by
  cases fuel with
  | zero => rw [parseItems, parseItems]
  | succ fuel => rw [parseItems, parseItems, parseValue_spaces h]

theorem parseFields_spaces (h : Spaces spaces) (fuel : Nat) (fields : List (Text × Value)) (t : Text) :
    parseFields fuel fields (spaces ++ t) = parseFields fuel fields t := by
  cases fuel with
  | zero => rw [parseFields, parseFields]
  | succ fuel => rw [parseFields, parseFields, skipSpace_append h]

theorem Numeral.all_units (n : Numeral) : ∀ c ∈ n.text, isNumeralUnit c = true := by
  have h := n.wf
  simp only [isNumeral, Bool.and_eq_true, List.all_eq_true] at h
  exact h.1

theorem Numeral.ne_nil (n : Numeral) : n.text ≠ [] := by
  intro h
  have := n.wf
  rw [h] at this
  exact absurd this (by decide)

/-- The kinds of unit a value can begin with are told apart by the parser's first look. -/
theorem isNumeralUnit_first (h : isNumeralUnit c = true) :
    isJsonSpace c = false ∧ c ≠ unit '"' ∧ c ≠ unit '[' ∧ c ≠ unit '\x7b' ∧ c ≠ unit ']' ∧
      c ≠ unit 'n' ∧ c ≠ unit 't' ∧ c ≠ unit 'f' := by
  refine ⟨?_, ?_, ?_, ?_, ?_, ?_, ?_, ?_⟩
  · by_contra hs
    simp only [isJsonSpace, Bool.not_eq_false, Bool.or_eq_true, beq_iff_eq] at hs
    rcases hs with ((rfl | rfl) | rfl) | rfl <;> exact absurd h (by decide)
  all_goals rintro rfl; exact absurd h (by decide)

theorem parseNumeral_append (n : Numeral) (h : Delim rest) : parseNumeral (n.text ++ rest) = some (.finite n, rest) := by
  have ht : (n.text ++ rest).takeWhile isNumeralUnit = n.text := by
    rw [List.takeWhile_append_of_pos n.all_units, h.takeWhile, List.append_nil]
  have hd : (n.text ++ rest).dropWhile isNumeralUnit = rest := by
    rw [List.dropWhile_append_of_pos n.all_units, h.dropWhile]
  simp only [parseNumeral, ht, hd]
  rw [dif_pos n.wf, dif_neg n.ne_negZero]

theorem parseValue_quote (fuel : Nat) (s rest : Text) :
    parseValue (fuel + 1) (quote s ++ rest) = some (.str s, rest) := by
  have hs : quote s ++ rest = unit '"' :: (quoteUnits s ++ unit '"' :: rest) := by simp [quote]
  rw [hs, parseValue, skipSpace_cons (by decide)]
  simp only [if_pos, parseString_quoteUnits, Option.map_some]

theorem nullText : Text.ofAscii "null" = [unit 'n', unit 'u', unit 'l', unit 'l'] := by decide

theorem trueText : Text.ofAscii "true" = [unit 't', unit 'r', unit 'u', unit 'e'] := by decide

theorem falseText : Text.ofAscii "false" = [unit 'f', unit 'a', unit 'l', unit 's', unit 'e'] := by decide

theorem parseValue_null (fuel : Nat) (rest : Text) :
    parseValue (fuel + 1) (Text.ofAscii "null" ++ rest) = some (.null, rest) := by
  rw [nullText, List.cons_append, parseValue, skipSpace_cons (by decide)]
  simp [nullText, unit]

theorem parseValue_true (fuel : Nat) (rest : Text) :
    parseValue (fuel + 1) (Text.ofAscii "true" ++ rest) = some (.bool true, rest) := by
  rw [trueText, List.cons_append, parseValue, skipSpace_cons (by decide)]
  simp [nullText, trueText, unit]

theorem parseValue_false (fuel : Nat) (rest : Text) :
    parseValue (fuel + 1) (Text.ofAscii "false" ++ rest) = some (.bool false, rest) := by
  rw [falseText, List.cons_append, parseValue, skipSpace_cons (by decide)]
  simp [nullText, trueText, falseText, unit]

theorem isPrefixOf_ne_head {a : CodeUnit} (h : c ≠ a) (p t : Text) : (a :: p).isPrefixOf (c :: t) = false := by
  simp [List.isPrefixOf, Ne.symm h]

theorem parseValue_numeral (fuel : Nat) (n : Numeral) (h : Delim rest) :
    parseValue (fuel + 1) (n.text ++ rest) = some (.num (.finite n), rest) := by
  obtain ⟨c, u, hcu⟩ := List.exists_cons_of_ne_nil n.ne_nil
  obtain ⟨hsp, hq, hb, hc, -, hn, ht, hf⟩ := isNumeralUnit_first (n.all_units c (by simp [hcu]))
  have hp := parseNumeral_append n h
  rw [hcu, List.cons_append] at hp ⊢
  rw [parseValue, skipSpace_cons hsp]
  simp only [if_neg hq, if_neg hb, if_neg hc, nullText, trueText, falseText, isPrefixOf_ne_head hn,
    isPrefixOf_ne_head ht, isPrefixOf_ne_head hf, Bool.false_eq_true, if_false, hp, Option.map_some]

/-! ## Arrays and objects -/

/-- `t` is the text of `v` in front of any delimiter. -/
structure Parses (t : Text) (v : Value) : Prop where
  head : ∃ c u, t = c :: u ∧ isJsonSpace c = false ∧ c ≠ unit ']'
  parse : ∀ fuel rest, t.length < fuel → Delim rest → parseValue fuel (t ++ rest) = some (v, rest)

theorem Parses.length_pos {t : Text} (h : Parses t v) : 0 < t.length := by
  obtain ⟨c, u, rfl, -, -⟩ := h.head
  simp

section
variable {before after : Text}

variable {items : List (Text × Value)} {fields : List (Text × Text × Value)}

/-- Items that parse one by one parse as the inside of an array. -/
theorem parseItems_join (hbefore : Spaces before) (hafter : Spaces after) (hne : items ≠ []) (h : ∀ p ∈ items, Parses p.1 p.2)
    (fuel : Nat) (rest : Text) (hf : (joinComma (items.map fun p => before ++ p.1)).length + 1 < fuel) :
    parseItems fuel (joinComma (items.map fun p => before ++ p.1) ++ (after ++ unit ']' :: rest)) =
      some (items.map Prod.snd, rest) := by
  induction items generalizing fuel with
  | nil => exact absurd rfl hne
  | cons p items ih =>
    obtain ⟨t, v⟩ := p
    have ht : Parses t v := h _ (List.mem_cons_self ..)
    obtain ⟨fuel, rfl⟩ : ∃ n, fuel = n + 1 := ⟨fuel - 1, by omega⟩
    cases items with
    | nil =>
      simp only [List.map_cons, List.map_nil, joinComma, List.append_assoc, List.length_append] at hf ⊢
      rw [parseItems, parseValue_spaces hbefore, ht.parse fuel _ (by omega) (delim_spaces hafter (by decide) _)]
      simp only [skipSpace_append hafter, skipSpace_cons (show isJsonSpace (unit ']') = false by decide), if_pos]
    | cons q items =>
      simp only [List.map_cons, joinComma_cons_cons, List.length_append, List.length_cons, List.append_assoc,
        List.cons_append] at hf ⊢
      have hc : unit ',' ≠ unit ']' := by decide
      rw [parseItems, parseValue_spaces hbefore, ht.parse fuel _ (by omega) (delim_cons (by decide) _)]
      simp only [skipSpace_cons (show isJsonSpace (unit ',') = false by decide), if_neg hc, if_pos]
      have hrest := ih (by simp) (fun r hr => h r (List.mem_cons_of_mem _ hr)) fuel (by
        have := ht.length_pos
        simp only [List.map_cons]
        omega)
      simp only [List.map_cons] at hrest
      rw [hrest]
      rfl

/-- An array of items, each on its own. -/
theorem parses_items_enclosed (hbefore : Spaces before) (hafter : Spaces after) (hne : items ≠ [])
    (h : ∀ p ∈ items, Parses p.1 p.2) :
    Parses (unit '[' :: (joinComma (items.map fun p => before ++ p.1) ++ (after ++ [unit ']']))) (.arr (items.map Prod.snd)) := by
  refine ⟨⟨unit '[', _, rfl, by decide, by decide⟩, ?_⟩
  intro fuel rest hf hr
  obtain ⟨fuel, rfl⟩ : ∃ n, fuel = n + 1 := ⟨fuel - 1, by omega⟩
  simp only [List.length_cons, List.length_append, List.length_nil] at hf
  have hj := parseItems_join hbefore hafter hne h fuel rest (by omega)
  obtain ⟨c, u, hsp, hb, hjoin⟩ : ∃ c u, isJsonSpace c = false ∧ c ≠ unit ']' ∧
      joinComma (items.map fun p => before ++ p.1) = before ++ c :: u := by
    obtain ⟨p, items, rfl⟩ := List.exists_cons_of_ne_nil hne
    obtain ⟨c, u, hcu, hsp, hb⟩ := (h p (List.mem_cons_self ..)).head
    refine ⟨c, ?_⟩
    cases items <;> simp [joinComma, hcu, hsp, hb]
  rw [hjoin, List.append_assoc, parseItems_spaces hbefore, List.cons_append] at hj
  have hq : unit '[' ≠ unit '"' := by decide
  rw [List.cons_append, parseValue, skipSpace_cons (by decide)]
  simp only [if_neg hq, if_pos, hjoin, List.append_assoc, skipSpace_append hbefore, List.cons_append, List.nil_append,
    skipSpace_cons hsp, if_neg hb, hj, Option.map_some]

theorem setField_new {fields : List (Text × Value)} {k : Text} (h : k ∉ fields.map Prod.fst) (v : Value) :
    setField fields k v = fields ++ [(k, v)] := by
  rw [setField, if_neg]
  simp only [List.any_eq_true, decide_eq_true_eq, not_exists, not_and]
  rintro f hf rfl
  exact h (List.mem_map_of_mem hf)

/-- The text of one property. -/
def fieldText (sep : Text) (f : Text × Text × Value) : Text := quote f.1 ++ unit ':' :: (sep ++ f.2.1)

variable {sep : Text}

/-- Properties that parse one by one, with keys not met before, parse as the inside of an object. -/
theorem parseFields_join (hbefore : Spaces before) (hafter : Spaces after) (hsep : Spaces sep) (hne : fields ≠ [])
    (h : ∀ f ∈ fields, Parses f.2.1 f.2.2) (fuel : Nat) (done : List (Text × Value)) (rest : Text)
    (hk : (done.map Prod.fst ++ fields.map Prod.fst).Nodup)
    (hf : (joinComma (fields.map fun f => before ++ fieldText sep f)).length + 1 < fuel) :
    parseFields fuel done (joinComma (fields.map fun f => before ++ fieldText sep f) ++ (after ++ unit '\x7d' :: rest)) =
      some (done ++ fields.map fun f => (f.1, f.2.2), rest) := by
  induction fields generalizing fuel done with
  | nil => exact absurd rfl hne
  | cons f fields ih =>
    obtain ⟨k, t, v⟩ := f
    have ht : Parses t v := h _ (List.mem_cons_self ..)
    have hnew : k ∉ done.map Prod.fst := by
      intro hmem
      exact (List.nodup_append.1 hk).2.2 k hmem k (by simp) rfl
    obtain ⟨fuel, rfl⟩ : ∃ n, fuel = n + 1 := ⟨fuel - 1, by omega⟩
    have hq : isJsonSpace (unit '"') = false := by decide
    have hcolon : isJsonSpace (unit ':') = false := by decide
    cases fields with
    | nil =>
      simp only [List.map_cons, List.map_nil, joinComma, fieldText, quote, List.cons_append, List.append_assoc,
        List.nil_append, List.length_append, List.length_cons] at hf ⊢
      rw [parseFields, skipSpace_append hbefore, skipSpace_cons hq]
      simp only [if_pos, parseString_quoteUnits, skipSpace_cons hcolon]
      rw [parseValue_spaces hsep, ht.parse fuel _ (by omega) (delim_spaces hafter (by decide) _)]
      simp only [skipSpace_append hafter, skipSpace_cons (show isJsonSpace (unit '\x7d') = false by decide), if_pos,
        setField_new hnew]
    | cons g fields =>
      simp only [List.map_cons, joinComma_cons_cons] at hf ⊢
      simp only [fieldText, quote, List.cons_append, List.append_assoc, List.nil_append, List.length_append,
        List.length_cons] at hf ⊢
      have hc : unit ',' ≠ unit '\x7d' := by decide
      rw [parseFields, skipSpace_append hbefore, skipSpace_cons hq]
      simp only [if_pos, parseString_quoteUnits, skipSpace_cons hcolon]
      rw [parseValue_spaces hsep, ht.parse fuel _ (by omega) (delim_cons (by decide) _)]
      simp only [skipSpace_cons (show isJsonSpace (unit ',') = false by decide), if_neg hc, if_pos, setField_new hnew]
      have hrest := ih (by simp) (fun r hr => h r (List.mem_cons_of_mem _ hr)) fuel (done ++ [(k, v)])
        (by simpa using hk) (by simp only [List.map_cons, fieldText, quote, List.cons_append, List.append_assoc,
              List.nil_append]; omega)
      simp only [List.map_cons, fieldText, quote, List.cons_append, List.append_assoc, List.nil_append] at hrest
      rw [hrest]

/-- An object of properties, each on its own. -/
theorem parses_fields_enclosed (hbefore : Spaces before) (hafter : Spaces after) (hsep : Spaces sep) (hne : fields ≠ [])
    (hk : (fields.map Prod.fst).Nodup) (h : ∀ f ∈ fields, Parses f.2.1 f.2.2) :
    Parses (unit '\x7b' :: (joinComma (fields.map fun f => before ++ fieldText sep f) ++ (after ++ [unit '\x7d'])))
      (.obj (fields.map fun f => (f.1, f.2.2))) := by
  refine ⟨⟨unit '\x7b', _, rfl, by decide, by decide⟩, ?_⟩
  intro fuel rest hf hr
  obtain ⟨fuel, rfl⟩ : ∃ n, fuel = n + 1 := ⟨fuel - 1, by omega⟩
  simp only [List.length_cons, List.length_append, List.length_nil] at hf
  have hj := parseFields_join hbefore hafter hsep hne h fuel [] rest (by simpa using hk) (by omega)
  obtain ⟨u, hjoin⟩ : ∃ u, joinComma (fields.map fun f => before ++ fieldText sep f) = before ++ unit '"' :: u := by
    obtain ⟨f, fields, rfl⟩ := List.exists_cons_of_ne_nil hne
    cases fields <;> simp [joinComma, fieldText, quote]
  rw [hjoin, List.append_assoc, parseFields_spaces hbefore, List.cons_append] at hj
  have hq : unit '\x7b' ≠ unit '"' := by decide
  have hb : unit '\x7b' ≠ unit '[' := by decide
  have hc : unit '"' ≠ unit '\x7d' := by decide
  rw [List.cons_append, parseValue, skipSpace_cons (by decide)]
  simp only [if_neg hq, if_neg hb, if_pos, hjoin, List.append_assoc, skipSpace_append hbefore, List.cons_append, List.nil_append,
    skipSpace_cons (show isJsonSpace (unit '"') = false by decide), if_neg hc, hj, Option.map_some]

/-- An array and an object of nothing. -/
theorem parses_empty : Parses [unit '[', unit ']'] (.arr []) ∧ Parses [unit '\x7b', unit '\x7d'] (.obj []) := by
  refine ⟨⟨⟨unit '[', _, rfl, by decide, by decide⟩, ?_⟩, ⟨⟨unit '\x7b', _, rfl, by decide, by decide⟩, ?_⟩⟩
  · intro fuel rest hf hr
    obtain ⟨fuel, rfl⟩ : ∃ n, fuel = n + 1 := ⟨fuel - 1, by omega⟩
    have hq : unit '[' ≠ unit '"' := by decide
    rw [List.cons_append, parseValue, skipSpace_cons (by decide)]
    simp [hq, skipSpace_cons (show isJsonSpace (unit ']') = false by decide)]
  · intro fuel rest hf hr
    obtain ⟨fuel, rfl⟩ : ∃ n, fuel = n + 1 := ⟨fuel - 1, by omega⟩
    have hq : unit '\x7b' ≠ unit '"' := by decide
    have hb : unit '\x7b' ≠ unit '[' := by decide
    rw [List.cons_append, parseValue, skipSpace_cons (by decide)]
    simp [hq, hb, skipSpace_cons (show isJsonSpace (unit '\x7d') = false by decide)]

end

/-! ## Values -/

namespace Value

/-- The properties that are written: their key, their text and what reads back. -/
def written : List (Text × Value) → List (Text × Text × Value)
  | [] => []
  | (k, v) :: rest => if v.isUndefined then written rest else (k, v.stringify, v.normal) :: written rest

theorem stringifyFields_eq (fields : List (Text × Value)) :
    stringifyFields fields = (written fields).map (fieldText []) := by
  fun_induction written fields with
  | case1 => rfl
  | case2 k v rest h ih => rw [stringifyFields, if_pos h, ih]
  | case3 k v rest h ih => rw [stringifyFields, if_neg h, ih]; rfl

theorem normalFields_eq (fields : List (Text × Value)) :
    normalFields fields = (written fields).map fun f => (f.1, f.2.2) := by
  fun_induction written fields with
  | case1 => rfl
  | case2 k v rest h ih => rw [normalFields, if_pos h, ih]
  | case3 k v rest h ih => rw [normalFields, if_neg h, ih]; rfl

theorem written_keys (fields : List (Text × Value)) :
    ((written fields).map Prod.fst).Sublist (fields.map Prod.fst) := by
  fun_induction written fields with
  | case1 => exact List.Sublist.slnil
  | case2 k v rest h ih => exact ih.cons _
  | case3 k v rest h ih => exact ih.cons_cons _

theorem stringifyItems_eq (items : List Value) :
    stringifyItems items = items.map stringify := by
  induction items with
  | nil => rfl
  | cons v rest ih => rw [stringifyItems, ih]; rfl

theorem normalItems_eq (items : List Value) : normalItems items = items.map normal := by
  induction items with
  | nil => rfl
  | cons v rest ih => rw [normalItems, ih]; rfl

theorem parses_arr {items : List Value} (h : ∀ v ∈ items, Parses v.stringify v.normal) :
    Parses (stringify (.arr items)) (normal (.arr items)) := by
  rw [stringify, normal, stringifyItems_eq, normalItems_eq]
  cases items with
  | nil => exact parses_empty.1
  | cons v items =>
    let pairs := (v :: items).map fun w => (stringify w, normal w)
    have hp : ∀ p ∈ pairs, Parses p.1 p.2 := by
      simp only [pairs, List.mem_map]
      rintro _ ⟨w, hw, rfl⟩
      exact h w hw
    have henclosed := parses_items_enclosed spaces_nil spaces_nil (by simp [pairs]) hp
    simpa only [pairs, List.map_map, List.nil_append, Function.comp_def] using henclosed

theorem parses_obj {fields : List (Text × Value)} (hk : (fields.map Prod.fst).Nodup)
    (h : ∀ f ∈ written fields, Parses f.2.1 f.2.2) :
    Parses (stringify (.obj fields)) (normal (.obj fields)) := by
  have hk' := hk.sublist (written_keys fields)
  rw [stringify, normal, stringifyFields_eq, normalFields_eq]
  generalize written fields = fs at h hk'
  cases fs with
  | nil => exact parses_empty.2
  | cons f fs =>
    have henclosed := parses_fields_enclosed spaces_nil spaces_nil spaces_nil (List.cons_ne_nil f fs) hk' h
    simpa only [List.nil_append] using henclosed

theorem parses_leaf {t : Text} {v : Value} (head : ∃ c u, t = c :: u ∧ isJsonSpace c = false ∧ c ≠ unit ']')
    (h : ∀ fuel rest, Delim rest → parseValue (fuel + 1) (t ++ rest) = some (v, rest)) : Parses t v := by
  refine ⟨head, fun fuel rest hf hr => ?_⟩
  obtain ⟨fuel, rfl⟩ : ∃ n, fuel = n + 1 := ⟨fuel - 1, by omega⟩
  exact h fuel rest hr

theorem parses_null : Parses "null" .null :=
  parses_leaf ⟨unit 'n', _, nullText, by decide, by decide⟩ fun fuel rest _ => parseValue_null fuel rest

theorem parses_numeral (n : Numeral) : Parses n.text (.num (.finite n)) := by
  obtain ⟨c, u, hcu⟩ := List.exists_cons_of_ne_nil n.ne_nil
  obtain ⟨hsp, -, -, -, hb, -⟩ := isNumeralUnit_first (n.all_units c (by simp [hcu]))
  exact parses_leaf ⟨c, u, hcu, hsp, hb⟩ fun fuel rest hr => parseValue_numeral fuel n hr

mutual

theorem parses_stringify : ∀ v : Value, v.distinct = true → Parses v.stringify v.normal
  | .undefined, _ => parses_null
  | .null, _ => parses_null
  | .bool true, _ =>
    parses_leaf ⟨unit 't', _, trueText, by decide, by decide⟩ fun fuel rest _ => parseValue_true fuel rest
  | .bool false, _ =>
    parses_leaf ⟨unit 'f', _, falseText, by decide, by decide⟩ fun fuel rest _ => parseValue_false fuel rest
  | .num (.finite n), _ => parses_numeral n
  | .num .negZero, _ => parses_numeral .zero
  | .num (.infinite _), _ => parses_null
  | .num .nan, _ => parses_null
  | .str s, _ => parses_leaf ⟨unit '"', _, rfl, by decide, by decide⟩ fun fuel rest _ => parseValue_quote fuel s rest
  | .arr items, h => parses_arr (parses_items items h)
  | .obj fields, h => by
    rw [distinct, Bool.and_eq_true, decide_eq_true_eq] at h
    exact parses_obj h.1 (parses_fields fields h.2)

theorem parses_items : ∀ items : List Value, distinctItems items = true → ∀ v ∈ items, Parses v.stringify v.normal
  | [], _ => by simp
  | v :: rest, h => by
    rw [distinctItems, Bool.and_eq_true] at h
    intro w hw
    rcases List.mem_cons.1 hw with hw | hw
    · rw [hw]
      exact parses_stringify v h.1
    · exact parses_items rest h.2 w hw

theorem parses_fields : ∀ fields : List (Text × Value), distinctFields fields = true →
    ∀ f ∈ written fields, Parses f.2.1 f.2.2
  | [], _ => by simp [written]
  | (k, v) :: rest, h => by
    rw [distinctFields, Bool.and_eq_true] at h
    intro f hf
    rw [written] at hf
    split at hf
    · exact parses_fields rest h.2 f hf
    · rcases List.mem_cons.1 hf with hf | hf
      · rw [hf]
        exact parses_stringify v h.1
      · exact parses_fields rest h.2 f hf

end

end Value

/-- **The round trip**: `JSON.parse(JSON.stringify(v))`. -/
theorem parse_stringify (h : v.distinct = true) : parse v.stringify = some v.normal := by
  have hp := (Value.parses_stringify v h).parse (v.stringify.length + 1) [] (by omega) delim_nil
  rw [List.append_nil] at hp
  rw [parse, hp]
  rfl

end Tna.Js
