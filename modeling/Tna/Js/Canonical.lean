import Mathlib.Data.List.Sort
import Tna.Js.RoundTrip

/-!
# Canonical serialisation

The serialisation every package hashes: `JSON.stringify` with the properties of
each object sorted by key. It does not see the order of properties, nor what a
trip through JSON text changes, so a value and the value read back from its
text have one canonical form.
-/

namespace Tna.Js

/-- Keys in code-unit order. -/
def keyLe {α : Type} (a b : Text × α) : Prop := a.1 ≤ b.1

instance {α : Type} : DecidableRel (keyLe (α := α)) := fun a b => inferInstanceAs (Decidable (a.1 ≤ b.1))

instance {α : Type} : Std.Total (keyLe (α := α)) := ⟨fun a b => List.le_total a.1 b.1⟩

instance {α : Type} : IsTrans (Text × α) keyLe := ⟨fun _ _ _ => List.le_trans⟩

/-- Sorting by key forgets the order it started from, when no key is repeated. -/
theorem insertionSort_keyLe_perm {α : Type} {l₁ l₂ : List (Text × α)} (h : l₁.Perm l₂)
    (hk : (l₁.map Prod.fst).Nodup) : l₁.insertionSort keyLe = l₂.insertionSort keyLe := by
  have hp : (l₁.insertionSort keyLe).Perm (l₂.insertionSort keyLe) :=
    (List.perm_insertionSort _ l₁).trans (h.trans (List.perm_insertionSort _ l₂).symm)
  refine hp.eq_of_pairwise ?_ (List.pairwise_insertionSort _ _) (List.pairwise_insertionSort _ _)
  intro a b ha hb hab hba
  have ha' : a ∈ l₁ := (List.mem_insertionSort _).1 ha
  have hb' : b ∈ l₁ := h.mem_iff.2 ((List.mem_insertionSort _).1 hb)
  exact List.inj_on_of_nodup_map hk ha' hb' (List.le_antisymm hab hba)

namespace Value

/-- `JSON.stringify(key) + ':' + canonical(value)`. -/
def entryText (f : Text × Text) : Text := quote f.1 ++ unit ':' :: f.2

mutual

/-- Key order never affects the result. The entries are sorted after their values
are serialised, which is the same as before: only keys are compared. -/
def canonical : Value → Text
  | .undefined => "null"
  | .null => "null"
  | .bool true => "true"
  | .bool false => "false"
  | .num n => n.stringify
  | .str s => quote s
  | .arr items => unit '[' :: (joinComma (canonicalItems items) ++ [unit ']'])
  | .obj fields =>
    unit '\x7b' :: (joinComma (((canonicalFields fields).insertionSort keyLe).map entryText) ++ [unit '\x7d'])

def canonicalItems : List Value → List Text
  | [] => []
  | v :: rest => v.canonical :: canonicalItems rest

def canonicalFields : List (Text × Value) → List (Text × Text)
  | [] => []
  | (k, v) :: rest => if v.isUndefined then canonicalFields rest else (k, v.canonical) :: canonicalFields rest

end

theorem normal_isUndefined (v : Value) : v.normal.isUndefined = false := by
  unfold normal
  split <;> rfl

mutual

/-- **The canonical form survives the trip through JSON text.** -/
theorem canonical_normal : ∀ v : Value, v.normal.canonical = v.canonical
  | .undefined => rfl
  | .null => rfl
  | .bool _ => rfl
  | .num (.finite _) => rfl
  | .num .negZero => rfl
  | .num (.infinite _) => rfl
  | .num .nan => rfl
  | .str _ => rfl
  | .arr items => by rw [normal, canonical, canonical, canonicalItems_normal items]
  | .obj fields => by rw [normal, canonical, canonical, canonicalFields_normal fields]

theorem canonicalItems_normal : ∀ items : List Value, canonicalItems (normalItems items) = canonicalItems items
  | [] => rfl
  | v :: rest => by rw [normalItems, canonicalItems, canonicalItems, canonical_normal v, canonicalItems_normal rest]

theorem canonicalFields_normal : ∀ fields : List (Text × Value),
    canonicalFields (normalFields fields) = canonicalFields fields
  | [] => rfl
  | (k, v) :: rest => by
    rw [normalFields, canonicalFields]
    split
    · exact canonicalFields_normal rest
    · rw [canonicalFields, if_neg (by simp [normal_isUndefined]), canonical_normal v, canonicalFields_normal rest]

end

/-- The properties that are not `undefined`. -/
def definedFields (fields : List (Text × Value)) : List (Text × Value) := fields.filter fun f => !f.2.isUndefined

theorem canonicalFields_eq (fields : List (Text × Value)) :
    canonicalFields fields = (definedFields fields).map fun f => (f.1, f.2.canonical) := by
  induction fields with
  | nil => rfl
  | cons f rest ih =>
    obtain ⟨k, v⟩ := f
    rw [canonicalFields, definedFields, List.filter_cons]
    by_cases h : v.isUndefined = true
    · simp only [h, if_pos, Bool.not_true, Bool.false_eq_true, if_false]
      exact ih
    · simp only [h, if_false, Bool.not_false, if_true, List.map_cons, Bool.false_eq_true]
      rw [ih]
      rfl

variable {fields fields' : List (Text × Value)}

/-- **Objects with the same properties have one canonical form**, whatever the order they were set in. -/
theorem canonical_obj_perm (hk : (fields.map Prod.fst).Nodup) (h : (definedFields fields).Perm (definedFields fields')) :
    canonical (.obj fields) = canonical (.obj fields') := by
  have hmap := h.map fun f : Text × Value => (f.1, f.2.canonical)
  have hkeys : (((definedFields fields).map fun f => (f.1, f.2.canonical)).map Prod.fst).Nodup := by
    rw [List.map_map]
    exact hk.sublist (List.filter_sublist.map Prod.fst)
  rw [canonical, canonical, canonicalFields_eq, canonicalFields_eq, insertionSort_keyLe_perm hmap hkeys]

/-- Two values a record cannot tell apart in its canonical form. -/
structure Same (v w : Value) : Prop where
  isUndefined : v.isUndefined = w.isUndefined
  canonical : v.canonical = w.canonical

theorem Same.refl (v : Value) : Same v v := ⟨rfl, rfl⟩

/-- A record's canonical form depends on its fields only up to `Same`. -/
theorem canonicalFields_congr (h : List.Forall₂ (fun f g => f.1 = g.1 ∧ Same f.2 g.2) fields fields') :
    canonicalFields fields = canonicalFields fields' := by
  induction h with
  | nil => rfl
  | @cons f g rest rest' hfg _ ih =>
    obtain ⟨k, v⟩ := f
    obtain ⟨k', v'⟩ := g
    obtain ⟨rfl, hs⟩ := hfg
    rw [canonicalFields, canonicalFields, hs.isUndefined, hs.canonical, ih]

theorem Same.obj (h : List.Forall₂ (fun f g => f.1 = g.1 ∧ Same f.2 g.2) fields fields') : Same (.obj fields) (.obj fields') :=
  ⟨rfl, by rw [Value.canonical, Value.canonical, canonicalFields_congr h]⟩

end Value

end Tna.Js
