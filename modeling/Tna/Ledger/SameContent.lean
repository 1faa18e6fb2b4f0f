import Tna.Js.Parsed
import Tna.Ledger.Schema

/-!
# What equal hashes mean

Values are alike when one becomes the other by putting the properties of its objects in
another order, by dropping properties that are `undefined` or setting new ones, by writing
`null` for any other `undefined`, and by changing the sign of a zero. The canonical form
does not see these changes, and it sees every other one.
-/

namespace Tna.Js

namespace Value

mutual

/-- Every number in the value is finite. -/
def finite : Value → Bool
  | .num (.finite _) => true
  | .num .negZero => true
  | .num _ => false
  | .arr items => finiteItems items
  | .obj fields => finiteFields fields
  | _ => true

def finiteItems : List Value → Bool
  | [] => true
  | v :: rest => v.finite && finiteItems rest

def finiteFields : List (Text × Value) → Bool
  | [] => true
  | (_, v) :: rest => v.finite && finiteFields rest

end

/-- Values that are the same up to the order of properties, properties that are `undefined`, `undefined` for `null`
elsewhere, and the sign of zero. -/
inductive Alike : Value → Value → Prop where
  | refl (v : Value) : Alike v v
  | symm {v w : Value} : Alike v w → Alike w v
  | trans {u v w : Value} : Alike u v → Alike v w → Alike u w
  | absent : Alike .undefined .null
  | zero : Alike (.num .negZero) (.num (.finite .zero))
  | permuted {fields fields' : List (Text × Value)} : (fields.map Prod.fst).Nodup → fields.Perm fields' →
      Alike (.obj fields) (.obj fields')
  | dropped (before after : List (Text × Value)) (k : Text) :
      Alike (.obj (before ++ (k, .undefined) :: after)) (.obj (before ++ after))
  | field (before after : List (Text × Value)) (k : Text) {v w : Value} : v.isUndefined = false → w.isUndefined = false →
      Alike v w → Alike (.obj (before ++ (k, v) :: after)) (.obj (before ++ (k, w) :: after))
  | item (before after : List Value) {v w : Value} : Alike v w →
      Alike (.arr (before ++ v :: after)) (.arr (before ++ w :: after))

/-! ## What the canonical form does not see -/

theorem canonicalItems_eq (items : List Value) : canonicalItems items = items.map canonical := by
  induction items with
  | nil => rfl
  | cons v rest ih => rw [canonicalItems, ih, List.map_cons]

theorem definedFields_append_cons (before after : List (Text × Value)) (k : Text) {v : Value} (hv : v.isUndefined = false) :
    definedFields (before ++ (k, v) :: after) = definedFields before ++ (k, v) :: definedFields after := by
  simp [definedFields, hv]

theorem Alike.canonical_eq {v w : Value} (h : Alike v w) : v.canonical = w.canonical := by
  induction h with
  | refl => rfl
  | symm _ ih => exact ih.symm
  | trans _ _ ih ih' => exact ih.trans ih'
  | absent => rfl
  | zero => rfl
  | permuted hk hperm => exact canonical_obj_perm hk (hperm.filter _)
  | dropped before after k =>
    have hdefined : definedFields (before ++ (k, .undefined) :: after) = definedFields (before ++ after) := by
      simp [definedFields, isUndefined]
    rw [canonical, canonical, canonicalFields_eq, canonicalFields_eq, hdefined]
  | field before after k hv hw _ ih =>
    rw [canonical, canonical, canonicalFields_eq, canonicalFields_eq, definedFields_append_cons before after k hv,
      definedFields_append_cons before after k hw, List.map_append, List.map_append, List.map_cons, List.map_cons, ih]
  | item before after _ ih =>
    rw [canonical, canonical, canonicalItems_eq, canonicalItems_eq, List.map_append, List.map_append, List.map_cons,
      List.map_cons, ih]

/-! ## What it sees -/

theorem data_isUndefined (v : Value) : v.data.isUndefined = false := normal_isUndefined v.sorted

/-- The data of an object is that of its properties in some order. -/
theorem data_obj_perm (fields : List (Text × Value)) :
    ∃ fields', (Value.obj fields).data = .obj fields' ∧
      ((definedFields fields).map fun f => (f.1, f.2.data)).Perm fields' := by
  refine ⟨_, by rw [data, sorted, normal, normalFields_of_defined isUndefined_of_mem_sort], ?_⟩
  have hperm := (List.perm_insertionSort keyLe (sortedFields fields)).map fun f : Text × Value => (f.1, f.2.normal)
  rw [sortedFields_eq, List.map_map] at hperm
  rw [sortedFields_eq]
  exact hperm.symm

mutual

/-- **A value is like its data.** -/
theorem alike_data : ∀ v : Value, v.distinct = true → v.finite = true → Alike v v.data
  | .undefined, _, _ => .absent
  | .null, _, _ => .refl _
  | .bool _, _, _ => .refl _
  | .num (.finite _), _, _ => .refl _
  | .num .negZero, _, _ => .zero
  | .num (.infinite _), _, h => absurd h (by simp [finite])
  | .num .nan, _, h => absurd h (by simp [finite])
  | .str _, _, _ => .refl _
  | .arr items, hd, hf => by
    rw [data_arr]
    exact alike_items items (by rwa [distinct] at hd) (by rwa [finite] at hf) []
  | .obj fields, hd, hf => by
    rw [distinct, Bool.and_eq_true, decide_eq_true_eq] at hd
    rw [finite] at hf
    obtain ⟨fields', hdata, hperm⟩ := data_obj_perm fields
    have hkeys : (((definedFields fields).map fun f => (f.1, f.2.data)).map Prod.fst).Nodup := by
      rw [List.map_map]
      exact hd.1.sublist (List.filter_sublist.map Prod.fst)
    rw [hdata]
    exact (alike_fields fields hd.2 hf []).trans (.permuted hkeys hperm)

theorem alike_items : ∀ items : List Value, distinctItems items = true → finiteItems items = true →
    ∀ before, Alike (.arr (before ++ items)) (.arr (before ++ items.map data))
  | [], _, _, _ => .refl _
  | v :: rest, hd, hf, before => by
    rw [distinctItems, Bool.and_eq_true] at hd
    rw [finiteItems, Bool.and_eq_true] at hf
    have hrest := alike_items rest hd.2 hf.2 (before ++ [v.data])
    rw [List.append_assoc, List.append_assoc, List.singleton_append, List.singleton_append] at hrest
    exact (Alike.item before rest (alike_data v hd.1 hf.1)).trans hrest

theorem alike_fields : ∀ fields : List (Text × Value), distinctFields fields = true → finiteFields fields = true →
    ∀ before, Alike (.obj (before ++ fields)) (.obj (before ++ (definedFields fields).map fun f => (f.1, f.2.data)))
  | [], _, _, _ => .refl _
  | (k, v) :: rest, hd, hf, before => by
    rw [distinctFields, Bool.and_eq_true] at hd
    rw [finiteFields, Bool.and_eq_true] at hf
    by_cases hv : v.isUndefined = true
    · have hundefined : v = .undefined := by
        cases v with
        | undefined => rfl
        | _ => cases hv
      subst hundefined
      exact (Alike.dropped before rest k).trans (alike_fields rest hd.2 hf.2 before)
    · rw [Bool.not_eq_true] at hv
      have hrest := alike_fields rest hd.2 hf.2 (before ++ [(k, v.data)])
      rw [List.append_assoc, List.append_assoc, List.singleton_append, List.singleton_append] at hrest
      have hdefined : definedFields ((k, v) :: rest) = (k, v) :: definedFields rest := definedFields_append_cons [] rest k hv
      rw [hdefined, List.map_cons]
      exact (Alike.field before rest k hv (data_isUndefined v) (alike_data v hd.1 hf.1)).trans hrest

end

theorem alike_iff {v w : Value} (hv : v.distinct = true) (hw : w.distinct = true) (hfv : v.finite = true)
    (hfw : w.finite = true) : v.canonical = w.canonical ↔ Alike v w := by
  refine ⟨fun h => ?_, Alike.canonical_eq⟩
  have hdata := data_eq_of_canonical hv hw h
  exact (alike_data v hv hfv).trans (hdata ▸ (alike_data w hw hfw).symm)

end Value

end Tna.Js

namespace Tna.Ledger

open Tna.Js

/-- **Equal hashes mean equal content.** The canonical forms of two values are equal exactly when the values are alike, and
so are their hashes, when the hashed texts do not collide; a value read back from its own text has the canonical
form it had (`undefined` alone has no text). -/
theorem canonical_alike (sha256 : Text → Text) (a b : Value) (ha : a.distinct = true) (hb : b.distinct = true)
    (hfa : a.finite = true) (hfb : b.finite = true)
    (hfree : sha256 a.canonical = sha256 b.canonical → a.canonical = b.canonical) :
    (a.canonical = b.canonical ↔ Value.Alike a b) ∧ (hash sha256 a = hash sha256 b ↔ Value.Alike a b) ∧
      (a.isUndefined = false → ∃ read, parse a.stringify = some read ∧ read.canonical = a.canonical) := by
  refine ⟨Value.alike_iff ha hb hfa hfb, ?_, fun _ => ⟨a.normal, parse_stringify ha, Value.canonical_normal a⟩⟩
  rw [← Value.alike_iff ha hb hfa hfb]
  exact ⟨hfree, congrArg sha256⟩

/-- Two objects, of which one has its properties in another order, a zero without a sign and one more property. -/
theorem canonical_alike_sample :
    Value.Alike (.obj [("b", .num .negZero), ("a", .arr [.undefined])])
      (.obj [("a", .arr [.null]), ("c", .undefined), ("b", .num (.finite .zero))]) :=
  (canonical_alike id (.obj [(Text.ofAscii "b", .num .negZero), (Text.ofAscii "a", .arr [.undefined])])
    (.obj [(Text.ofAscii "a", .arr [.null]), (Text.ofAscii "c", .undefined), (Text.ofAscii "b", .num (.finite .zero))])
    (by decide) (by decide) (by decide) (by decide) id).1.1 (by decide +kernel)

end Tna.Ledger
