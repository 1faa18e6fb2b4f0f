import Tna.Js.Canonical

/-!
# Objects without repeated keys

`JsValue` and `JsObject` carry the fact that no key is repeated, at any depth.
Reading a property keeps it, so code that only reads never has to prove it.
-/

namespace Tna.Js

/-- A value as `JSON.parse` or the program builds it: no object in it repeats a key. -/
structure JsValue where
  val : Value
  distinct : val.distinct = true

/-- A plain object. -/
structure JsObject where
  fields : List (Text × Value)
  distinct : (Value.obj fields).distinct = true

theorem Value.distinct_nil : (Value.obj []).distinct = true := rfl

namespace Value

variable {f : Text × Value} {fields : List (Text × Value)} {k : Text} {v : Value}

theorem distinct_of_mem (h : distinctFields fields = true) (hf : f ∈ fields) : f.2.distinct = true := by
  induction fields with
  | nil => cases hf
  | cons g rest ih =>
    obtain ⟨k, v⟩ := g
    rw [distinctFields, Bool.and_eq_true] at h
    rcases List.mem_cons.1 hf with rfl | hf
    · exact h.1
    · exact ih h.2 hf

theorem mem_of_lookup (h : fields.lookup k = some v) : (k, v) ∈ fields := by
  induction fields with
  | nil => cases h
  | cons f rest ih =>
    obtain ⟨k', v'⟩ := f
    rw [List.lookup_cons] at h
    split at h
    · next hk =>
      cases h
      rw [eq_of_beq hk]
      exact List.mem_cons_self ..
    · exact List.mem_cons_of_mem _ (ih h)

theorem distinct_get (h : distinctFields fields = true) (k : Text) : (get fields k).distinct = true := by
  rw [get]
  cases hl : fields.lookup k with
  | none => rfl
  | some v => exact distinct_of_mem h (mem_of_lookup hl)

/-- A property that is read and is not undefined is listed. -/
theorem mem_of_get (h : (get fields k).isUndefined = false) : (k, get fields k) ∈ fields := by
  rw [get] at h ⊢
  cases hl : fields.lookup k with
  | none =>
    rw [hl] at h
    cases h
  | some v => exact mem_of_lookup hl

/-- With distinct keys, a property that is listed is the one that is read. -/
theorem get_of_mem (hk : (fields.map Prod.fst).Nodup) (h : (k, v) ∈ fields) : get fields k = v := by
  induction fields with
  | nil => cases h
  | cons f rest ih =>
    obtain ⟨k', v'⟩ := f
    rw [List.map_cons, List.nodup_cons] at hk
    rw [get, List.lookup_cons]
    rcases List.mem_cons.1 h with heq | hmem
    · cases heq
      simp
    · have hne : (k == k') = false := by
        rw [beq_eq_false_iff_ne]
        rintro rfl
        exact hk.1 (List.mem_map.2 ⟨_, hmem, rfl⟩)
      simp only [hne]
      exact ih hk.2 hmem

theorem distinctItems_iff {items : List Value} : distinctItems items = true ↔ ∀ v ∈ items, v.distinct = true := by
  induction items with
  | nil => exact iff_of_true rfl (List.forall_mem_nil _)
  | cons v rest ih => rw [distinctItems, Bool.and_eq_true, ih, List.forall_mem_cons]

theorem distinctFields_iff : distinctFields fields = true ↔ ∀ f ∈ fields, f.2.distinct = true := by
  induction fields with
  | nil => exact iff_of_true rfl (List.forall_mem_nil _)
  | cons f rest ih => rw [distinctFields, Bool.and_eq_true, ih, List.forall_mem_cons]

/-- The fields of `{ ...o, [k]: v }`: the property is replaced where it is, or put at the end. -/
def setFields (fields : List (Text × Value)) (k : Text) (v : Value) : List (Text × Value) :=
  if k ∈ fields.map Prod.fst then fields.map fun f => if f.1 = k then (k, v) else f else fields ++ [(k, v)]

theorem distinct_setFields (k : Text) (h : (Value.obj fields).distinct = true) (hv : v.distinct = true) :
    (Value.obj (setFields fields k v)).distinct = true := by
  rw [Value.distinct, Bool.and_eq_true, decide_eq_true_eq, distinctFields_iff] at h ⊢
  unfold setFields
  split
  · have hkeys : (fields.map fun f => if f.1 = k then (k, v) else f).map Prod.fst = fields.map Prod.fst := by
      rw [List.map_map]
      refine List.map_congr_left fun f _ => ?_
      simp only [Function.comp_apply]
      split
      · next hk => exact hk.symm
      · rfl
    rw [hkeys]
    refine ⟨h.1, ?_⟩
    intro f hf
    obtain ⟨f', hf', rfl⟩ := List.mem_map.1 hf
    split
    · exact hv
    · exact h.2 f' hf'
  · next hnew =>
    rw [List.map_append, List.nodup_append]
    refine ⟨⟨h.1, List.nodup_singleton _, ?_⟩, ?_⟩
    · rintro a ha b hb rfl
      rw [List.map_singleton, List.mem_singleton] at hb
      rw [hb] at ha
      exact hnew ha
    · intro f hf
      rcases List.mem_append.1 hf with hf | hf
      · exact h.2 f hf
      · rw [List.mem_singleton.1 hf]
        exact hv

theorem lookup_eq_none_of_not_mem (h : k ∉ fields.map Prod.fst) : fields.lookup k = none := by
  rw [List.lookup_eq_none_iff]
  intro f hf
  have hne : k ≠ f.1 := by
    rintro rfl
    exact h (List.mem_map_of_mem hf)
  exact bne_iff_ne.2 hne

/-- A property that is new is the one that is read back. -/
theorem lookup_setFields_of_not_mem (v : Value) (h : k ∉ fields.map Prod.fst) : (setFields fields k v).lookup k = some v := by
  rw [setFields, if_neg h, List.lookup_append, lookup_eq_none_of_not_mem h, Option.none_or, List.lookup_cons_self]

/-- The other properties are left as they are. -/
theorem get_setFields_of_ne (fields : List (Text × Value)) {k' : Text} (v : Value) (h : k' ≠ k) :
    get (setFields fields k v) k' = get fields k' := by
  have hne : (k' == k) = false := beq_eq_false_iff_ne.2 h
  unfold get setFields
  congr 1
  split
  · clear * - h hne
    induction fields with
    | nil => rfl
    | cons f rest ih =>
      obtain ⟨k'', v'⟩ := f
      rw [List.map_cons, List.lookup_cons, List.lookup_cons, ih]
      by_cases hk : k'' = k
      · subst hk
        simp only [if_pos, hne]
      · rw [if_neg hk]
  · rw [List.lookup_append, List.lookup_cons, hne]
    simp

/-- The other properties are still there. -/
theorem mem_setFields (v : Value) (hf : f ∈ fields) (h : f.1 ≠ k) : f ∈ setFields fields k v := by
  unfold setFields
  split
  · exact List.mem_map.2 ⟨f, hf, if_neg h⟩
  · exact List.mem_append_left _ hf

theorem mem_setFields_self (fields : List (Text × Value)) (k : Text) (v : Value) : (k, v) ∈ setFields fields k v := by
  unfold setFields
  split
  · next h =>
    obtain ⟨f, hf, hk⟩ := List.mem_map.1 h
    exact List.mem_map.2 ⟨f, hf, if_pos hk⟩
  · exact List.mem_append_right _ (List.mem_singleton_self _)

/-! ### Properties after the trip through JSON text -/

mutual

/-- What JSON text keeps, it keeps. -/
theorem normal_normal : ∀ v : Value, v.normal.normal = v.normal
  | .undefined => rfl
  | .null => rfl
  | .bool _ => rfl
  | .num (.finite _) => rfl
  | .num .negZero => rfl
  | .num (.infinite _) => rfl
  | .num .nan => rfl
  | .str _ => rfl
  | .arr items => by rw [normal, normal, normalItems_normalItems items]
  | .obj fields => by rw [normal, normal, normalFields_normalFields fields]

theorem normalItems_normalItems : ∀ items : List Value, normalItems (normalItems items) = normalItems items
  | [] => rfl
  | v :: rest => by rw [normalItems, normalItems, normal_normal v, normalItems_normalItems rest]

theorem normalFields_normalFields : ∀ fields : List (Text × Value),
    normalFields (normalFields fields) = normalFields fields
  | [] => rfl
  | (k, v) :: rest => by
    rw [normalFields]
    split
    · exact normalFields_normalFields rest
    · rw [normalFields, if_neg (by simp [normal_isUndefined]), normal_normal v, normalFields_normalFields rest]

end

/-- Each property after the trip is one from before. -/
theorem mem_of_mem_normalFields (h : f ∈ normalFields fields) : ∃ v, (f.1, v) ∈ fields ∧ f.2 = v.normal := by
  induction fields with
  | nil => cases h
  | cons g rest ih =>
    obtain ⟨k, v⟩ := g
    have hrest : f ∈ normalFields rest → ∃ w, (f.1, w) ∈ (k, v) :: rest ∧ f.2 = w.normal := by
      intro hf
      obtain ⟨w, hw, hnormal⟩ := ih hf
      exact ⟨w, List.mem_cons_of_mem _ hw, hnormal⟩
    rw [normalFields] at h
    split at h
    · exact hrest h
    · rcases List.mem_cons.1 h with rfl | h
      · exact ⟨v, List.mem_cons_self .., rfl⟩
      · exact hrest h

/-- A property after the trip through JSON text. -/
theorem lookup_normalFields (hk : (fields.map Prod.fst).Nodup) (k : Text) :
    (normalFields fields).lookup k =
      if (get fields k).isUndefined then none else some (get fields k).normal := by
  have hnone : ∀ {rest : List (Text × Value)}, k ∉ rest.map Prod.fst → (normalFields rest).lookup k = none := by
    intro rest hnot
    refine lookup_eq_none_of_not_mem fun hmem => hnot ?_
    obtain ⟨f, hf, rfl⟩ := List.mem_map.1 hmem
    obtain ⟨v, hv, -⟩ := mem_of_mem_normalFields hf
    exact List.mem_map.2 ⟨_, hv, rfl⟩
  induction fields with
  | nil => rfl
  | cons f rest ih =>
    obtain ⟨k', v⟩ := f
    rw [List.map_cons, List.nodup_cons] at hk
    by_cases hkey : k = k'
    · subst hkey
      rw [get, List.lookup_cons_self, Option.getD_some, normalFields]
      split
      · exact hnone hk.1
      · rw [List.lookup_cons_self]
    · have hne : (k == k') = false := beq_eq_false_iff_ne.2 hkey
      have hget : get ((k', v) :: rest) k = get rest k := by
        rw [get, List.lookup_cons, hne, get]
      rw [hget, ← ih hk.2, normalFields]
      split
      · rfl
      · rw [List.lookup_cons, hne]

theorem get_normalFields (hk : (fields.map Prod.fst).Nodup) (k : Text) :
    get (normalFields fields) k =
      if (get fields k).isUndefined then .undefined else (get fields k).normal := by
  rw [get, lookup_normalFields hk]
  split <;> rfl

/-! ### As a string -/

/-- `String(value)`. -/
def toText : Value → Text
  | .undefined => "undefined"
  | .null => "null"
  | .bool true => "true"
  | .bool false => "false"
  | .num (.infinite false) => "Infinity"
  | .num (.infinite true) => "-Infinity"
  | .num .nan => "NaN"
  | .num n => n.stringify
  | .str s => s
  | .arr items => joinComma (itemTexts items)
  | .obj _ => "[object Object]"
where
  /-- The items of an array as `join` writes them. -/
  itemTexts : List Value → List Text
    | [] => []
    | .undefined :: rest => [] :: itemTexts rest
    | .null :: rest => [] :: itemTexts rest
    | v :: rest => v.toText :: itemTexts rest

/-- `String(value)` returns: no object in the way has a property `toString` of its own, which could not be called. -/
def hasText : Value → Bool
  | .obj fields => fields.all fun f => f.1 ≠ Text.ofAscii "toString"
  | .arr items => itemsHaveText items
  | _ => true
where
  itemsHaveText : List Value → Bool
    | [] => true
    | v :: rest => v.hasText && itemsHaveText rest

end Value

namespace JsObject

theorem keys_nodup (o : JsObject) : (o.fields.map Prod.fst).Nodup := by
  have h := o.distinct
  rw [Value.distinct, Bool.and_eq_true, decide_eq_true_eq] at h
  exact h.1

theorem distinctFields (o : JsObject) : Value.distinctFields o.fields = true := by
  have h := o.distinct
  rw [Value.distinct, Bool.and_eq_true] at h
  exact h.2

def toValue (o : JsObject) : Value := .obj o.fields

/-- `o[k]`. -/
def get (o : JsObject) (k : Text) : JsValue := ⟨Value.get o.fields k, Value.distinct_get o.distinctFields k⟩

/-- `{ ...o, [k]: v }`. -/
def set (o : JsObject) (k : Text) (v : JsValue) : JsObject :=
  ⟨Value.setFields o.fields k v.val, Value.distinct_setFields k o.distinct v.distinct⟩

/-- A property that was set is the one that is read back. -/
theorem get_set_self (o : JsObject) (k : Text) (v : JsValue) : Value.get (o.set k v).fields k = v.val :=
  Value.get_of_mem (o.set k v).keys_nodup (Value.mem_setFields_self o.fields k v.val)

end JsObject

namespace JsValue

/-- A string. -/
def ofText (t : Text) : JsValue := ⟨.str t, rfl⟩

/-- `isPlainObject(value)`, with the object it found. -/
def asObject? : JsValue → Option JsObject
  | ⟨.obj fields, h⟩ => some ⟨fields, h⟩
  | _ => none

/-- `typeof value === 'string'`, with the string it found. -/
def asText? (v : JsValue) : Option Text :=
  match v.val with
  | .str s => some s
  | _ => none

theorem asText?_eq_some {v : JsValue} {s : Text} (h : v.asText? = some s) : v.val = .str s := by
  unfold asText? at h
  split at h
  · next hv => cases h; exact hv
  · cases h

end JsValue

end Tna.Js
