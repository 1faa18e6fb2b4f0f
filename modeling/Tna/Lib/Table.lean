import Mathlib.Data.List.AList

/-!
# Keyed tables

A table of rows by primary key: Mathlib's association lists at one type of row.
-/

namespace Tna.Lib

/-- Rows by key, one row a key. -/
abbrev Table (K V : Type) := AList fun _ : K => V

namespace Table

section
variable {K V : Type} [DecidableEq K]

/-- Some row has the property. -/
def any (t : Table K V) (p : V → Bool) : Bool := t.entries.any fun e => p e.2

theorem any_iff {t : Table K V} {p : V → Bool} : t.any p = true ↔ ∃ k v, t.lookup k = some v ∧ p v = true := by
  simp only [any, List.any_eq_true]
  constructor
  · rintro ⟨⟨k, v⟩, hmem, hp⟩
    exact ⟨k, v, AList.mem_lookup_iff.2 hmem, hp⟩
  · rintro ⟨k, v, hk, hp⟩
    exact ⟨⟨k, v⟩, AList.mem_lookup_iff.1 hk, hp⟩

theorem lookup_insert_cases {t : Table K V} {k k' : K} {v v' : V} (h : (t.insert k v).lookup k' = some v') :
    (k' = k ∧ v' = v) ∨ (k' ≠ k ∧ t.lookup k' = some v') := by
  by_cases hk : k' = k
  · subst hk
    rw [AList.lookup_insert] at h
    cases h
    exact .inl ⟨rfl, rfl⟩
  · rw [AList.lookup_insert_ne hk] at h
    exact .inr ⟨hk, h⟩

theorem lookup_of_erase {t : Table K V} {k k' : K} {v : V} (h : (t.erase k).lookup k' = some v) :
    k' ≠ k ∧ t.lookup k' = some v := by
  by_cases hk : k' = k
  · rw [hk, AList.lookup_erase] at h
    cases h
  · exact ⟨hk, by rwa [AList.lookup_erase_ne hk] at h⟩

end

/-! ## Rows that carry their key -/

end Table

/-- A table in which every row is stored under the key it carries. -/
structure Keyed {K V : Type} [DecidableEq K] (key : V → K) where
  table : Table K V
  key_eq : ∀ k v, table.lookup k = some v → key v = k

namespace Keyed

section
variable {K V : Type} [DecidableEq K] {key : V → K}

def empty : Keyed key := ⟨∅, by simp⟩

def get (t : Keyed key) (k : K) : Option V := t.table.lookup k

/-- A row replaces the one with its key. -/
def put (t : Keyed key) (v : V) : Keyed key where
  table := t.table.insert (key v) v
  key_eq k w h := by
    rcases Table.lookup_insert_cases h with ⟨rfl, rfl⟩ | ⟨-, h⟩
    · rfl
    · exact t.key_eq k w h

def rows (t : Keyed key) : List V := t.table.entries.map fun e => e.2

variable {t : Keyed key} {k : K} {v w : V}

@[simp] theorem get_empty : (empty : Keyed key).get k = none := rfl

@[simp] theorem rows_empty : (empty : Keyed key).rows = [] := rfl

theorem key_of_get (h : t.get k = some v) : key v = k := t.key_eq k v h

@[simp] theorem get_put_self : (t.put v).get (key v) = some v := AList.lookup_insert _

theorem get_put_of_ne (h : k ≠ key v) : (t.put v).get k = t.get k := AList.lookup_insert_ne h

theorem get_put : (t.put v).get k = if k = key v then some v else t.get k := by
  split
  · next h =>
    subst h
    exact get_put_self
  · next h => exact get_put_of_ne h

theorem get_put_cases (h : (t.put v).get k = some w) : (k = key v ∧ w = v) ∨ (k ≠ key v ∧ t.get k = some w) :=
  Table.lookup_insert_cases h

theorem mem_rows : v ∈ t.rows ↔ t.get (key v) = some v := by
  simp only [rows, List.mem_map]
  constructor
  · rintro ⟨⟨k, v⟩, hmem, rfl⟩
    have hlookup := AList.mem_lookup_iff.2 hmem
    rw [t.key_eq k v hlookup]
    exact hlookup
  · intro h
    exact ⟨⟨key v, v⟩, AList.mem_lookup_iff.1 h, rfl⟩

theorem keys_nodup : (t.rows.map key).Nodup := by
  have hkeys : t.rows.map key = t.table.keys := by
    rw [rows, List.map_map]
    refine List.map_congr_left fun e he => ?_
    exact t.key_eq e.1 e.2 (AList.mem_lookup_iff.2 he)
  rw [hkeys]
  exact AList.keys_nodup _

/-- A row with a new key comes first. -/
theorem rows_put (h : t.get (key v) = none) : (t.put v).rows = v :: t.rows := by
  have hnot : key v ∉ t.table := AList.lookup_eq_none.1 h
  simp only [rows, put, AList.entries_insert_of_notMem hnot, List.map_cons]

end

end Keyed

end Tna.Lib
