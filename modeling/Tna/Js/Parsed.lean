import Tna.Js.Sorted

/-!
# What `JSON.parse` builds

The parser sets the properties of an object one by one and overwrites the value of a key that
it has met, so no object in what it returns has a key twice, whatever the text. What is read
of an object by its keys does not depend on the order of its properties, and an object with
exactly the keys asked for is, up to that order, the list of what is read.
-/

namespace Tna.Js

open Value

theorem setField_eq_setFields (fields : List (Text × Value)) (k : Text) (v : Value) :
    setField fields k v = setFields fields k v := by
  have hany : fields.any (fun f => f.1 = k) = true ↔ k ∈ fields.map Prod.fst := by
    rw [List.any_eq_true, List.mem_map]
    exact exists_congr fun f => and_congr_right fun _ => decide_eq_true_iff
  unfold setField setFields
  split
  · next h => rw [if_pos (hany.1 h)]
  · next h => rw [if_neg fun hmem => h (hany.2 hmem)]

/-- What has been parsed at each level with the given fuel has no key twice. -/
structure ParsesDistinct (fuel : Nat) : Prop where
  value : ∀ {t v rest}, parseValue fuel t = some (v, rest) → v.distinct = true
  items : ∀ {t items rest}, parseItems fuel t = some (items, rest) → distinctItems items = true
  fields : ∀ {fields t result rest}, (Value.obj fields).distinct = true →
    parseFields fuel fields t = some (result, rest) → (Value.obj result).distinct = true

variable {fuel : Nat} {rest t : Text} {v : Value}

theorem parseValue_distinct (ih : ParsesDistinct fuel) (h : parseValue (fuel + 1) t = some (v, rest)) : v.distinct = true := by
  rw [parseValue] at h
  simp only at h
  split at h
  · cases h
  · split at h
    · obtain ⟨_, -, heq⟩ := Option.map_eq_some_iff.1 h
      cases heq
      rfl
    · split at h
      · split at h
        · cases h
        · split at h
          · cases h
            rfl
          · obtain ⟨_, hitems, heq⟩ := Option.map_eq_some_iff.1 h
            cases heq
            exact ih.items hitems
      · split at h
        · split at h
          · cases h
          · split at h
            · cases h
              rfl
            · obtain ⟨_, hfields, heq⟩ := Option.map_eq_some_iff.1 h
              cases heq
              exact ih.fields rfl hfields
        · split at h
          · cases h
            rfl
          · split at h
            · cases h
              rfl
            · split at h
              · cases h
                rfl
              · obtain ⟨_, -, heq⟩ := Option.map_eq_some_iff.1 h
                cases heq
                rfl

theorem parseItems_distinct (ih : ParsesDistinct fuel) {items : List Value} (h : parseItems (fuel + 1) t = some (items, rest)) :
    distinctItems items = true := by
  rw [parseItems] at h
  split at h
  · cases h
  · next v u hv =>
    have hfirst := ih.value hv
    split at h
    · cases h
    · split at h
      · cases h
        rw [distinctItems, hfirst]
        rfl
      · split at h
        · obtain ⟨_, hitems, heq⟩ := Option.map_eq_some_iff.1 h
          cases heq
          rw [distinctItems, hfirst, ih.items hitems]
          rfl
        · cases h

theorem parseFields_distinct (ih : ParsesDistinct fuel) {fields result : List (Text × Value)}
    (hfields : (Value.obj fields).distinct = true) (h : parseFields (fuel + 1) fields t = some (result, rest)) :
    (Value.obj result).distinct = true := by
  rw [parseFields] at h
  split at h
  · cases h
  · split at h
    · split at h
      · cases h
      · next k u hk =>
        split at h
        · cases h
        · split at h
          · split at h
            · cases h
            · next v w hv =>
              have hset : (Value.obj (setField fields k v)).distinct = true := by
                rw [setField_eq_setFields]
                exact distinct_setFields k hfields (ih.value hv)
              split at h
              · cases h
              · split at h
                · cases h
                  exact hset
                · split at h
                  · exact ih.fields hset h
                  · cases h
          · cases h
    · cases h

theorem parsesDistinct (fuel : Nat) : ParsesDistinct fuel := by
  induction fuel with
  | zero =>
    refine ⟨?_, ?_, ?_⟩
    · intro t v rest h
      cases h
    · intro t items rest h
      cases h
    · intro fields t result rest _ h
      cases h
  | succ fuel ih => exact ⟨parseValue_distinct ih, parseItems_distinct ih, parseFields_distinct ih⟩

/-- **Nothing that `JSON.parse` returns has a key twice.** -/
theorem distinct_of_parse (h : parse t = some v) : v.distinct = true := by
  unfold parse at h
  split at h
  · next v' rest hv =>
    split at h
    · cases h
      exact (parsesDistinct _).value hv
    · cases h
  · cases h

/-! ## Objects read by key -/

namespace Value

variable {fields : List (Text × Value)}

/-- The order of the properties does not matter to a read. -/
theorem get_perm {fields' : List (Text × Value)} (h : fields.Perm fields') (hk : (fields.map Prod.fst).Nodup) (k : Text) :
    get fields k = get fields' k := by
  have hk' : (fields'.map Prod.fst).Nodup := (h.map Prod.fst).nodup_iff.1 hk
  by_cases hmem : k ∈ fields.map Prod.fst
  · obtain ⟨⟨k', v⟩, hf, rfl⟩ := List.mem_map.1 hmem
    rw [get_of_mem hk hf, get_of_mem hk' (h.mem_iff.1 hf)]
  · have hmem' : k ∉ fields'.map Prod.fst := fun hin => hmem ((h.map Prod.fst).mem_iff.2 hin)
    rw [get, get, lookup_eq_none_of_not_mem hmem, lookup_eq_none_of_not_mem hmem']

/-- **An object with exactly the keys asked for** is what is read of it. -/
theorem perm_of_keys {keys : List Text} (hk : (fields.map Prod.fst).Nodup) (hkeys : keys.Nodup)
    (hlength : fields.length = keys.length) (hmem : ∀ k ∈ keys, k ∈ fields.map Prod.fst) :
    fields.Perm (keys.map fun k => (k, get fields k)) := by
  have hperm : keys.Perm (fields.map Prod.fst) :=
    (List.subperm_of_subset hkeys hmem).perm_of_length_le (by rw [List.length_map, hlength])
  have hread : (fields.map Prod.fst).map (fun k => (k, get fields k)) = fields := by
    rw [List.map_map]
    refine (List.map_congr_left fun f hf => ?_).trans (List.map_id _)
    exact Prod.ext rfl (get_of_mem hk hf)
  have hmap := hperm.map fun k => (k, get fields k)
  rw [hread] at hmap
  exact hmap.symm

/-- What JSON text keeps of an object without `undefined` properties, each of which is kept as it is. -/
theorem data_perm (h : ∀ f ∈ fields, f.2.isUndefined = false ∧ f.2.data = f.2) :
    ∃ fields', (Value.obj fields).data = .obj fields' ∧ fields'.Perm fields := by
  refine ⟨_, by rw [data, sorted, normal, normalFields_of_defined isUndefined_of_mem_sort], ?_⟩
  have hdefined : definedFields fields = fields :=
    List.filter_eq_self.2 fun f hf => by rw [(h f hf).1]; rfl
  have hperm := (List.perm_insertionSort keyLe (sortedFields fields)).map fun f : Text × Value => (f.1, f.2.normal)
  rw [sortedFields_eq, hdefined, List.map_map] at hperm
  rw [sortedFields_eq, hdefined]
  refine hperm.trans (List.Perm.of_eq ((List.map_congr_left fun f hf => ?_).trans (List.map_id _)))
  exact Prod.ext rfl (h f hf).2

/-- It keeps the canonical form. -/
theorem canonical_data (hk : (fields.map Prod.fst).Nodup) (h : ∀ f ∈ fields, f.2.isUndefined = false ∧ f.2.data = f.2) :
    (Value.obj fields).data.canonical = (Value.obj fields).canonical := by
  obtain ⟨fields', hdata, hperm⟩ := data_perm h
  rw [hdata]
  exact (canonical_obj_perm hk (hperm.symm.filter _)).symm

end Value

/-- `JSON.parse` of a canonical form gives back the data. -/
theorem parse_canonical (h : v.distinct = true) : parse v.canonical = some v.data := by
  rw [Value.canonical_eq_stringify, parse_stringify (Value.distinct_sorted v h), Value.data]

end Tna.Js
