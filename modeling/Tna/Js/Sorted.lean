import Tna.Js.Object

/-!
# What a canonical form says

The canonical form of a value is the JSON text of the value with the properties of each
object sorted. So it can be read back: two values with one canonical form hold the same
data, up to the order of properties and what JSON text changes.
-/

namespace Tna.Js

namespace Value

mutual

/-- The value with the properties of each object sorted by key. -/
def sorted : Value → Value
  | .arr items => .arr (sortedItems items)
  | .obj fields => .obj ((sortedFields fields).insertionSort keyLe)
  | .undefined => .undefined
  | .null => .null
  | .bool b => .bool b
  | .num n => .num n
  | .str s => .str s

def sortedItems : List Value → List Value
  | [] => []
  | v :: rest => v.sorted :: sortedItems rest

def sortedFields : List (Text × Value) → List (Text × Value)
  | [] => []
  | (k, v) :: rest => if v.isUndefined then sortedFields rest else (k, v.sorted) :: sortedFields rest

end

theorem isUndefined_sorted (v : Value) : v.sorted.isUndefined = v.isUndefined := by
  cases v <;> rfl

theorem sortedFields_eq (fields : List (Text × Value)) :
    sortedFields fields = (definedFields fields).map fun f => (f.1, f.2.sorted) := by
  induction fields with
  | nil => rfl
  | cons f rest ih =>
    obtain ⟨k, v⟩ := f
    rw [sortedFields, definedFields, List.filter_cons]
    by_cases h : v.isUndefined = true
    · simp only [h, if_pos, Bool.not_true, Bool.false_eq_true, if_false]
      exact ih
    · simp only [h, if_false, Bool.not_false, if_true, List.map_cons, Bool.false_eq_true]
      rw [ih]
      rfl

variable {f : Text × Value} {fields fields' : List (Text × Value)} {v w : Value}

/-- What is left of the properties of an object. -/
theorem mem_sortedFields : f ∈ sortedFields fields ↔ ∃ v, (f.1, v) ∈ fields ∧ v.isUndefined = false ∧ v.sorted = f.2 := by
  rw [sortedFields_eq, List.mem_map]
  constructor
  · rintro ⟨⟨k, v⟩, hmem, rfl⟩
    obtain ⟨hmem, hdefined⟩ := List.mem_filter.1 hmem
    exact ⟨v, hmem, by simpa using hdefined, rfl⟩
  · rintro ⟨v, hmem, hdefined, hsorted⟩
    refine ⟨(f.1, v), List.mem_filter.2 ⟨hmem, by simp [hdefined]⟩, ?_⟩
    rw [hsorted]

theorem isUndefined_of_mem_sortedFields (h : f ∈ sortedFields fields) : f.2.isUndefined = false := by
  obtain ⟨v, -, hdefined, hsorted⟩ := mem_sortedFields.1 h
  rw [← hsorted, isUndefined_sorted, hdefined]

/-- The text of properties none of which is `undefined`. -/
theorem stringifyFields_of_defined (h : ∀ f ∈ fields, f.2.isUndefined = false) :
    stringifyFields fields = fields.map fun f => entryText (f.1, f.2.stringify) := by
  induction fields with
  | nil => rfl
  | cons f rest ih =>
    obtain ⟨k, v⟩ := f
    have hv : v.isUndefined = false := h _ (List.mem_cons_self ..)
    rw [stringifyFields, if_neg (by simp [hv]), ih fun f hf => h f (List.mem_cons_of_mem _ hf)]
    rfl

theorem normalFields_of_defined (h : ∀ f ∈ fields, f.2.isUndefined = false) :
    normalFields fields = fields.map fun f => (f.1, f.2.normal) := by
  induction fields with
  | nil => rfl
  | cons f rest ih =>
    obtain ⟨k, v⟩ := f
    have hv : v.isUndefined = false := h _ (List.mem_cons_self ..)
    rw [normalFields, if_neg (by simp [hv]), ih fun f hf => h f (List.mem_cons_of_mem _ hf)]
    rfl

theorem isUndefined_of_mem_sort : ∀ f ∈ (sortedFields fields).insertionSort keyLe, f.2.isUndefined = false :=
  fun _ hf => isUndefined_of_mem_sortedFields ((List.mem_insertionSort _).1 hf)

mutual

/-- **The canonical form is the text of the sorted value.** -/
theorem canonical_eq_stringify : ∀ v : Value, v.canonical = v.sorted.stringify
  | .undefined => rfl
  | .null => rfl
  | .bool true => rfl
  | .bool false => rfl
  | .num _ => rfl
  | .str _ => rfl
  | .arr items => by rw [canonical, sorted, stringify, canonicalItems_eq_stringify items]
  | .obj fields => by
    have hsort : ((sortedFields fields).map fun f => (f.1, f.2.stringify)).insertionSort keyLe =
        ((sortedFields fields).insertionSort keyLe).map fun f => (f.1, f.2.stringify) :=
      (List.map_insertionSort keyLe keyLe (fun f : Text × Value => (f.1, f.2.stringify)) _ fun _ _ _ _ => Iff.rfl).symm
    rw [canonical, sorted, stringify, canonicalFields_eq_stringify fields, hsort, List.map_map,
      stringifyFields_of_defined isUndefined_of_mem_sort]
    rfl

theorem canonicalItems_eq_stringify : ∀ items : List Value, canonicalItems items = stringifyItems (sortedItems items)
  | [] => rfl
  | v :: rest => by
    rw [canonicalItems, sortedItems, stringifyItems, canonical_eq_stringify v, canonicalItems_eq_stringify rest]

theorem canonicalFields_eq_stringify : ∀ fields : List (Text × Value),
    canonicalFields fields = (sortedFields fields).map fun f => (f.1, f.2.stringify)
  | [] => rfl
  | (k, v) :: rest => by
    rw [canonicalFields, sortedFields]
    split
    · exact canonicalFields_eq_stringify rest
    · rw [List.map_cons, canonical_eq_stringify v, canonicalFields_eq_stringify rest]

end

mutual

theorem distinct_sorted : ∀ v : Value, v.distinct = true → v.sorted.distinct = true
  | .undefined, _ => rfl
  | .null, _ => rfl
  | .bool _, _ => rfl
  | .num _, _ => rfl
  | .str _, _ => rfl
  | .arr items, h => by
    rw [sorted, distinct]
    exact distinctItems_sorted items h
  | .obj fields, h => by
    rw [distinct, Bool.and_eq_true, decide_eq_true_eq] at h
    have hperm := List.perm_insertionSort keyLe (sortedFields fields)
    have hkeys : ((sortedFields fields).map Prod.fst).Nodup := by
      rw [sortedFields_eq, List.map_map]
      exact h.1.sublist (List.filter_sublist.map Prod.fst)
    rw [sorted, distinct, Bool.and_eq_true, decide_eq_true_eq]
    refine ⟨(hperm.map Prod.fst).nodup_iff.2 hkeys, distinctFields_iff.2 fun f hf => ?_⟩
    exact distinctFields_iff.1 (distinctFields_sorted fields h.2) f (hperm.mem_iff.1 hf)

theorem distinctItems_sorted : ∀ items : List Value, distinctItems items = true → distinctItems (sortedItems items) = true
  | [], _ => rfl
  | v :: rest, h => by
    rw [distinctItems, Bool.and_eq_true] at h
    rw [sortedItems, distinctItems, distinct_sorted v h.1, distinctItems_sorted rest h.2]
    rfl

theorem distinctFields_sorted : ∀ fields : List (Text × Value), distinctFields fields = true →
    distinctFields (sortedFields fields) = true
  | [], _ => rfl
  | (k, v) :: rest, h => by
    rw [distinctFields, Bool.and_eq_true] at h
    rw [sortedFields]
    split
    · exact distinctFields_sorted rest h.2
    · rw [distinctFields, distinct_sorted v h.1, distinctFields_sorted rest h.2]
      rfl

end

mutual

/-- The text of a value is that of what is read back of it. -/
theorem stringify_normal : ∀ v : Value, v.normal.stringify = v.stringify
  | .undefined => rfl
  | .null => rfl
  | .bool _ => rfl
  | .num (.finite _) => rfl
  | .num .negZero => rfl
  | .num (.infinite _) => rfl
  | .num .nan => rfl
  | .str _ => rfl
  | .arr items => by rw [normal, stringify, stringify, stringifyItems_normal items]
  | .obj fields => by rw [normal, stringify, stringify, stringifyFields_normal fields]

theorem stringifyItems_normal : ∀ items : List Value, stringifyItems (normalItems items) = stringifyItems items
  | [] => rfl
  | v :: rest => by rw [normalItems, stringifyItems, stringifyItems, stringify_normal v, stringifyItems_normal rest]

theorem stringifyFields_normal : ∀ fields : List (Text × Value), stringifyFields (normalFields fields) = stringifyFields fields
  | [] => rfl
  | (k, v) :: rest => by
    rw [normalFields, stringifyFields]
    split
    · exact stringifyFields_normal rest
    · rw [stringifyFields, if_neg (by simp [normal_isUndefined]), stringify_normal v, stringifyFields_normal rest]

end

/-- The data of a value: up to the order of properties, and as JSON text keeps it. -/
def data (v : Value) : Value := v.sorted.normal

/-- **Values with one canonical form hold the same data.** -/
theorem data_eq_of_canonical (hv : v.distinct = true) (hw : w.distinct = true) (h : v.canonical = w.canonical) :
    v.data = w.data := by
  have hparse : parse v.sorted.stringify = parse w.sorted.stringify := by
    rw [← canonical_eq_stringify, ← canonical_eq_stringify, h]
  rw [parse_stringify (distinct_sorted v hv), parse_stringify (distinct_sorted w hw)] at hparse
  exact Option.some.inj hparse

/-- Values with one canonical form are those with the same data. -/
theorem canonical_eq_iff (hv : v.distinct = true) (hw : w.distinct = true) : v.canonical = w.canonical ↔ v.data = w.data := by
  refine ⟨data_eq_of_canonical hv hw, fun h => ?_⟩
  rw [data, data] at h
  rw [canonical_eq_stringify, canonical_eq_stringify, ← stringify_normal, h, stringify_normal]

/-- The same data, as the value of a property. -/
structure SameData (v w : Value) : Prop where
  isUndefined : v.isUndefined = w.isUndefined
  data : v.data = w.data

/-- The canonical form is that of the data. -/
theorem SameData.same (h : SameData v w) : Same v w := by
  refine ⟨h.isUndefined, ?_⟩
  have hdata := h.data
  rw [Value.data, Value.data] at hdata
  rw [canonical_eq_stringify, canonical_eq_stringify, ← stringify_normal, hdata, stringify_normal]

/-- A property of an object whose data is that of another is a property of the other, with the same data. -/
theorem mem_of_data_eq (h : (Value.obj fields).data = (Value.obj fields').data) {k : Text} (hmem : (k, v) ∈ fields)
    (hv : v.isUndefined = false) : ∃ w, (k, w) ∈ fields' ∧ w.isUndefined = false ∧ v.data = w.data := by
  simp only [data, sorted, normal, Value.obj.injEq, normalFields_of_defined isUndefined_of_mem_sort] at h
  have hsorted : (k, v.sorted) ∈ sortedFields fields := mem_sortedFields.2 ⟨v, hmem, hv, rfl⟩
  have hnormal := List.mem_map_of_mem (f := fun f : Text × Value => (f.1, f.2.normal))
    ((List.mem_insertionSort keyLe).2 hsorted)
  rw [h] at hnormal
  obtain ⟨⟨k', w'⟩, hmem', heq⟩ := List.mem_map.1 hnormal
  obtain ⟨w, hw, hdefined, hsorted'⟩ := mem_sortedFields.1 ((List.mem_insertionSort keyLe).1 hmem')
  obtain ⟨rfl, hdata⟩ : k' = k ∧ w'.normal = v.sorted.normal := by simpa using heq
  refine ⟨w, hw, hdefined, ?_⟩
  rw [data, data, hsorted', hdata]

/-- Objects with the same data have the same properties. -/
theorem sameData_of_data (hf : (Value.obj fields).distinct = true) (hf' : (Value.obj fields').distinct = true)
    (hdata : (Value.obj fields).data = (Value.obj fields').data) (k : Text) : SameData (get fields k) (get fields' k) := by
  have hkeys : ∀ {fields : List (Text × Value)}, (Value.obj fields).distinct = true → (fields.map Prod.fst).Nodup := by
    intro fields h
    rw [distinct, Bool.and_eq_true, decide_eq_true_eq] at h
    exact h.1
  cases hv : (get fields k).isUndefined with
  | false =>
    obtain ⟨w, hw, hdefined, hsame⟩ := mem_of_data_eq hdata (mem_of_get hv) hv
    rw [get_of_mem (hkeys hf') hw]
    exact ⟨hv.trans hdefined.symm, hsame⟩
  | true =>
    cases hw : (get fields' k).isUndefined with
    | true =>
      have hundefined : ∀ v : Value, v.isUndefined = true → v = .undefined := by
        intro v h
        cases v with
        | undefined => rfl
        | _ => cases h
      rw [hundefined _ hv, hundefined _ hw]
      exact ⟨rfl, rfl⟩
    | false =>
      obtain ⟨v, hv', hdefined, -⟩ := mem_of_data_eq hdata.symm (mem_of_get hw) hw
      rw [get_of_mem (hkeys hf) hv'] at hv
      cases hv.symm.trans hdefined

/-- **Objects with one canonical form have the same properties.** -/
theorem sameData_of_canonical (hf : (Value.obj fields).distinct = true) (hf' : (Value.obj fields').distinct = true)
    (h : (Value.obj fields).canonical = (Value.obj fields').canonical) (k : Text) : SameData (get fields k) (get fields' k) :=
  sameData_of_data hf hf' (data_eq_of_canonical hf hf' h) k

theorem data_arr (items : List Value) : (Value.arr items).data = .arr (items.map data) := by
  rw [data, sorted, normal]
  congr 1
  induction items with
  | nil => rfl
  | cons v rest ih => rw [sortedItems, normalItems, ih, List.map_cons, data]

@[simp] theorem data_str (s : Text) : (Value.str s).data = .str s := rfl

@[simp] theorem data_finite (n : Numeral) : (Value.num (.finite n)).data = .num (.finite n) := rfl

/-- A string is its own data. -/
theorem SameData.str_eq {s t : Text} (h : SameData (.str s) (.str t)) : s = t := by
  have hdata := h.data
  rw [data_str, data_str] at hdata
  exact Value.str.inj hdata

theorem SameData.finite_eq {n m : Numeral} (h : SameData (.num (.finite n)) (.num (.finite m))) : n = m := by
  have hdata := h.data
  rw [data_finite, data_finite] at hdata
  exact Number.finite.inj (Value.num.inj hdata)

end Value

end Tna.Js
