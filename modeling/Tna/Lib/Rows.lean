import Mathlib.Data.List.Nodup
import Mathlib.Data.List.Sort

/-!
# Rows in the order they were written

A table read in the order of its row numbers: the rows as a list with a key for each,
updates in place of the rows a condition selects, and insertion at the end. A table that
only grows by these keeps the columns no update writes.
-/

namespace Tna.Lib.Rows

section
variable {K V W : Type} [DecidableEq K] {c : V → K}

/-- The row of a key. -/
def row (c : V → K) (rows : List V) (k : K) : Option V := rows.find? fun r => c r = k

/-- The selected rows, changed. -/
def update (selected : V → Bool) (f : V → V) (rows : List V) : List V := rows.map fun r => if selected r then f r else r

variable {rows : List V} {k : K} {selected : V → Bool} {f : V → V} {r : V}

theorem key_of_row (h : row c rows k = some r) : c r = k := by
  have hr := List.find?_some h
  exact of_decide_eq_true hr

theorem mem_of_row (h : row c rows k = some r) : r ∈ rows := List.mem_of_find?_eq_some h

theorem row_eq_none : row c rows k = none ↔ ∀ r ∈ rows, c r ≠ k := by
  simp [row, List.find?_eq_none]

/-- A row is found under its key, or one before it with the same key is. -/
theorem row_ne_none_of_mem (h : r ∈ rows) : row c rows (c r) ≠ none := by
  intro hnone
  exact row_eq_none.1 hnone r h rfl

theorem row_append_rows (new : List V) : row c (rows ++ new) k = (row c rows k).or (row c new k) := List.find?_append

theorem row_append (new : V) : row c (rows ++ [new]) k = (row c rows k).or (if c new = k then some new else none) := by
  rw [row_append_rows]
  congr 1
  by_cases hk : c new = k
  · simp [row, hk]
  · simp [row, hk]

/-- An update that leaves the keys alone changes the row of a key where it is selected. -/
theorem row_update (hkey : ∀ r, c (f r) = c r) :
    row c (update selected f rows) k = (row c rows k).map fun r => if selected r then f r else r := by
  unfold row update
  induction rows with
  | nil => rfl
  | cons r rows ih =>
    have hsame : c (if selected r then f r else r) = c r := by
      split
      · exact hkey r
      · rfl
    rw [List.map_cons, List.find?_cons, List.find?_cons, hsame]
    by_cases hr : c r = k
    · simp [hr]
    · simpa [hr] using ih

/-- With distinct keys, a row that is there is the row of its key. -/
theorem row_of_mem (hdistinct : (rows.map c).Nodup) (h : r ∈ rows) : row c rows (c r) = some r := by
  induction rows with
  | nil => cases h
  | cons head rest ih =>
    rw [List.map_cons, List.nodup_cons] at hdistinct
    rw [row, List.find?_cons]
    rcases List.mem_cons.1 h with rfl | hr
    · simp
    · have hne : c head ≠ c r := by
        intro heq
        rw [heq] at hdistinct
        exact hdistinct.1 (List.mem_map_of_mem hr)
      simp only [hne, decide_false]
      exact ih hdistinct.2 hr

/-- With distinct keys, a condition that names a key and holds of its row selects one row. -/
theorem countP_eq_one (hdistinct : (rows.map c).Nodup) (h : r ∈ rows) (hselected : selected r = true)
    (honly : ∀ r', selected r' = true → c r' = c r) : rows.countP selected = 1 := by
  have hcount : rows.countP (fun r' => c r' = c r) ≤ 1 := by
    have hle := List.nodup_iff_count_le_one.1 hdistinct (c r)
    rw [List.count, List.countP_map] at hle
    refine Nat.le_trans (List.countP_mono_left fun r' _ hr' => ?_) hle
    simpa using hr'
  have hle : rows.countP selected ≤ rows.countP (fun r' => c r' = c r) :=
    List.countP_mono_left fun r' _ hr' => decide_eq_true (honly r' hr')
  have hpos : 0 < rows.countP selected := List.countP_pos_iff.2 ⟨r, h, hselected⟩
  omega

/-- An update that selects nothing does nothing. -/
theorem update_eq_self (h : ∀ r ∈ rows, selected r = false) : update selected f rows = rows := by
  rw [update]
  refine (List.map_congr_left fun r hr => ?_).trans (List.map_id rows)
  rw [h r hr]
  rfl

/-- What an update leaves alone on every selected row it leaves alone on all. -/
theorem map_update {g : V → W} (h : ∀ r ∈ rows, selected r = true → g (f r) = g r) :
    (update selected f rows).map g = rows.map g := by
  rw [update, List.map_map]
  refine List.map_congr_left fun r hr => ?_
  show g (if selected r then f r else r) = g r
  split
  · next hs => exact h r hr hs
  · rfl

/-- A row after an update is one that was selected, changed, or one that was not. -/
theorem mem_update : r ∈ update selected f rows ↔
    ∃ r₀ ∈ rows, (selected r₀ = true ∧ r = f r₀) ∨ (selected r₀ = false ∧ r = r₀) := by
  simp only [update, List.mem_map]
  refine exists_congr fun r₀ => and_congr_right fun _ => ?_
  cases selected r₀ <;> simp [eq_comm]

/-- A row that is not selected is there after an update. -/
theorem mem_update_of_unselected (h : r ∈ rows) (hselected : selected r = false) : r ∈ update selected f rows := by
  refine List.mem_map.2 ⟨r, h, ?_⟩
  rw [hselected]
  rfl

theorem filter_update {p : V → Bool} (h : ∀ r ∈ rows, selected r = true → p (f r) = p r) :
    (update selected f rows).filter p = update selected f (rows.filter p) := by
  induction rows with
  | nil => rfl
  | cons r rows ih =>
    have hsame : p (if selected r then f r else r) = p r := by
      split
      · next hs => exact h r (List.mem_cons_self ..) hs
      · rfl
    rw [update, List.map_cons, List.filter_cons, List.filter_cons, hsame]
    have hrest : (rows.map fun r => if selected r then f r else r).filter p = update selected f (rows.filter p) :=
      ih fun r hr => h r (List.mem_cons_of_mem _ hr)
    split
    · rw [hrest, update, update, List.map_cons]
    · exact hrest

end

/-! ## Tables that grow -/

section
variable {K F V W : Type} {fixed : V → K × F} {P : V → Prop} {rows rows' rows'' : List V}

/-- A table that was updated in columns that are not fixed, and got rows of new keys. The fixed columns are the key and some
more. The new rows satisfy `P`, and updates keep it. -/
inductive Grown (fixed : V → K × F) (P : V → Prop) (rows : List V) : List V → Prop where
  | same : Grown fixed P rows rows
  | updated {rows' : List V} (h : Grown fixed P rows rows') (selected : V → Bool) {f : V → V}
    (hfixed : ∀ r, fixed (f r) = fixed r) (hP : ∀ r, P r → P (f r)) : Grown fixed P rows (update selected f rows')
  | added {rows' : List V} (h : Grown fixed P rows rows') {row : V} (hnew : ∀ r ∈ rows', (fixed r).1 ≠ (fixed row).1)
    (hP : P row) : Grown fixed P rows (rows' ++ [row])

theorem Grown.trans (h : Grown fixed P rows rows') (h' : Grown fixed P rows' rows'') : Grown fixed P rows rows'' := by
  induction h' with
  | same => exact h
  | updated _ selected hfixed hP ih => exact ih.updated selected hfixed hP
  | added _ hnew hP ih => exact ih.added hnew hP

/-- What the rows have to satisfy they satisfy. -/
theorem Grown.holds (h : Grown fixed P rows rows') (hrows : ∀ r ∈ rows, P r) : ∀ r ∈ rows', P r := by
  induction h with
  | same => exact hrows
  | updated _ selected _ hP ih =>
    intro r hr
    obtain ⟨old, hold, ⟨-, rfl⟩ | ⟨-, rfl⟩⟩ := mem_update.1 hr
    · exact hP old (ih old hold)
    · exact ih r hold
  | added _ _ hP ih =>
    intro r hr
    rcases List.mem_append.1 hr with hr | hr
    · exact ih r hr
    · rw [List.mem_singleton.1 hr]
      exact hP

/-- Keys stay distinct. -/
theorem Grown.nodup (h : Grown fixed P rows rows') (hdistinct : (rows.map fun r => (fixed r).1).Nodup) :
    (rows'.map fun r => (fixed r).1).Nodup := by
  induction h with
  | same => exact hdistinct
  | updated _ selected hfixed _ ih =>
    rw [map_update (g := fun r => (fixed r).1) fun r _ _ => congrArg Prod.fst (hfixed r)]
    exact ih
  | added _ hnew _ ih =>
    rw [List.map_append, List.nodup_append]
    refine ⟨ih, List.nodup_singleton _, ?_⟩
    intro k hk k' hk' heq
    obtain ⟨r, hr, rfl⟩ := List.mem_map.1 hk
    rw [List.map_singleton, List.mem_singleton] at hk'
    exact hnew r hr (heq.trans hk')

/-- **The rows that were there are still there**, with their fixed columns, and the others have new keys. -/
theorem Grown.exists_map (h : Grown fixed P rows rows') : ∃ f new, rows' = rows.map f ++ new ∧ (∀ r, fixed (f r) = fixed r) ∧
    ∀ n ∈ new, ∀ r ∈ rows, (fixed n).1 ≠ (fixed r).1 := by
  induction h with
  | same => exact ⟨id, [], by simp, fun _ => rfl, List.forall_mem_nil _⟩
  | @updated _ _ selected change hfixed _ ih =>
    obtain ⟨f, new, rfl, hf, hnew⟩ := ih
    have hchange : ∀ r, fixed (if selected r then change r else r) = fixed r := by
      intro r
      split
      · exact hfixed r
      · rfl
    refine ⟨fun r => if selected (f r) then change (f r) else f r, update selected change new, ?_, ?_, ?_⟩
    · simp [update]
    · intro r
      rw [hchange, hf]
    · intro n hn r hr
      obtain ⟨n₀, hn₀, rfl⟩ := List.mem_map.1 hn
      rw [hchange]
      exact hnew n₀ hn₀ r hr
  | @added _ _ row hnew _ ih =>
    obtain ⟨f, new, rfl, hf, hnew'⟩ := ih
    refine ⟨f, new ++ [row], by rw [List.append_assoc], hf, ?_⟩
    intro n hn r hr
    rcases List.mem_append.1 hn with hn | hn
    · exact hnew' n hn r hr
    · rw [List.mem_singleton.1 hn, ← hf r]
      exact (hnew (f r) (List.mem_append_left _ (List.mem_map_of_mem hr))).symm

/-- **A table that shows the same as before** has the same rows, as far as that goes. What is shown of a row tells its key;
the rows looked at are told by their fixed columns. -/
theorem Grown.filter_eq_map {p : V → Bool} {shown : V → W} (h : Grown fixed P rows rows')
    (hdistinct : (rows.map fun r => (fixed r).1).Nodup) (hp : ∀ r r', fixed r = fixed r' → p r = p r')
    (hkey : ∀ r r', p r = true → p r' = true → shown r = shown r' → (fixed r).1 = (fixed r').1)
    (hsame : ∀ w, w ∈ (rows'.filter p).map shown → w ∈ (rows.filter p).map shown) :
    ∃ f, rows'.filter p = (rows.filter p).map f ∧ (∀ r, fixed (f r) = fixed r) ∧ ∀ r ∈ rows.filter p, shown (f r) = shown r := by
  obtain ⟨f, new, rfl, hf, hnew⟩ := h.exists_map
  have hold : ((rows.map f).filter p) = (rows.filter p).map f := by
    rw [List.filter_map]
    congr 1
    exact List.filter_congr fun r _ => hp _ _ (hf r)
  have hnone : new.filter p = [] := by
    rw [List.filter_eq_nil_iff]
    intro n hn hpn
    obtain ⟨r, hr, hshown⟩ := List.mem_map.1 (hsame (shown n) (List.mem_map_of_mem (List.mem_filter.2 ⟨List.mem_append_right _ hn, hpn⟩)))
    exact hnew n hn r (List.mem_of_mem_filter hr) (hkey r n (List.of_mem_filter hr) hpn hshown).symm
  rw [List.filter_append, hold, hnone, List.append_nil] at hsame
  refine ⟨f, by rw [List.filter_append, hold, hnone, List.append_nil], hf, ?_⟩
  intro r hr
  obtain ⟨r', hr', hshown⟩ := List.mem_map.1 (hsame (shown (f r)) (List.mem_map_of_mem (List.mem_map_of_mem hr)))
  have heq : r' = r := by
    refine List.inj_on_of_nodup_map hdistinct (List.mem_of_mem_filter hr') (List.mem_of_mem_filter hr) ?_
    have hpf : p (f r) = true := (hp _ _ (hf r)).trans (List.of_mem_filter hr)
    show (fixed r').1 = (fixed r).1
    rw [hkey r' (f r) (List.of_mem_filter hr') hpf hshown, hf]
  rw [← hshown, heq]

/-- A row of a key stays the row of the key. -/
theorem Grown.row_of_row [DecidableEq K] {c : V → K} {k : K} {r : V} (h : Grown fixed P rows rows')
    (hc : ∀ r, c r = (fixed r).1) (hr : row c rows k = some r) : ∃ r', row c rows' k = some r' ∧ fixed r' = fixed r := by
  obtain ⟨f, new, rfl, hf, -⟩ := h.exists_map
  have hall : rows.map f = update (fun _ => true) f rows := by simp [update]
  have hrow : row c (rows.map f) k = some (f r) := by
    rw [hall, row_update fun r => by rw [hc, hc, hf], hr]
    rfl
  refine ⟨f r, ?_, hf r⟩
  rw [row_append_rows, hrow]
  rfl

/-! ### Listings -/

variable {L : Type} {le : V → V → Prop} [DecidableRel le] {listed : V → L} {shown : V → W}

/-- **Tables that list the same show the same**, if what is listed of a row tells what is shown of it. -/
theorem shown_of_listed (h : (rows.insertionSort le).map listed = (rows'.insertionSort le).map listed)
    (htells : ∀ r ∈ rows, ∀ r' ∈ rows', listed r = listed r' → shown r = shown r') :
    ∀ w, w ∈ rows.map shown → w ∈ rows'.map shown := by
  intro w hw
  obtain ⟨r, hr, rfl⟩ := List.mem_map.1 hw
  have hlisted : listed r ∈ (rows'.insertionSort le).map listed := h ▸ List.mem_map_of_mem ((List.mem_insertionSort le).2 hr)
  obtain ⟨r', hr', heq⟩ := List.mem_map.1 hlisted
  have hmem : r' ∈ rows' := (List.mem_insertionSort le).1 hr'
  rw [htells r hr r' hmem heq.symm]
  exact List.mem_map_of_mem hmem

/-- **A table that shows the same as before lists the same**, in the same order: the order is one of fixed columns. -/
theorem Grown.listed_of_shown {p : V → Bool} (h : Grown fixed P rows rows') (hdistinct : (rows.map fun r => (fixed r).1).Nodup)
    (hp : ∀ r r', fixed r = fixed r' → p r = p r')
    (hkey : ∀ r r', p r = true → p r' = true → shown r = shown r' → (fixed r).1 = (fixed r').1)
    (hsame : ∀ w, w ∈ (rows'.filter p).map shown → w ∈ (rows.filter p).map shown)
    (hle : ∀ a a' b b', fixed a = fixed a' → fixed b = fixed b' → (le a b ↔ le a' b'))
    (htells : ∀ r ∈ rows, ∀ r' ∈ rows', shown r' = shown r → listed r' = listed r) :
    ((rows'.filter p).insertionSort le).map listed = ((rows.filter p).insertionSort le).map listed := by
  obtain ⟨f, hrows', hf, hshown⟩ := h.filter_eq_map hdistinct hp hkey hsame
  have hsort : ((rows.filter p).map f).insertionSort le = ((rows.filter p).insertionSort le).map f :=
    (List.map_insertionSort le le f _ fun a _ b _ => hle a (f a) b (f b) (hf a).symm (hf b).symm).symm
  rw [hrows', hsort, List.map_map]
  refine List.map_congr_left fun r hr => ?_
  have hmem : r ∈ rows.filter p := (List.mem_insertionSort le).1 hr
  have hmem' : f r ∈ rows'.filter p := hrows' ▸ List.mem_map_of_mem hmem
  exact htells r (List.mem_of_mem_filter hmem) (f r) (List.mem_of_mem_filter hmem') (hshown r hmem)

end

end Tna.Lib.Rows
