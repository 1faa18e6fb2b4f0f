import Mathlib.Logic.Relation
import Tna.Lib.Rows
import Tna.Lib.Table
import Tna.Lib.Transition

/-!
# Versions

Records that carry a version, which every write raises. A record that has the version it had
is the record it was, and of the compare-and-swaps of one record each that succeeds expects a
higher version than the one before. Where a write takes the status of a record along an edge,
its version counts the edges.
-/

namespace Tna.Lib.Versions

section
variable {K V S : Type} {R : V → V → Prop} {version : V → Nat} {rows rows' rows'' : K → Option V}

/-- No record is lost, and what becomes of each is related to it. -/
def Keeps (R : V → V → Prop) (rows rows' : K → Option V) : Prop := ∀ k r, rows k = some r → ∃ r', rows' k = some r' ∧ R r r'

theorem Keeps.trans (hR : ∀ r r' r'', R r r' → R r' r'' → R r r'') (h : Keeps R rows rows') (h' : Keeps R rows' rows'') :
    Keeps R rows rows'' := by
  intro k r hr
  obtain ⟨r', hr', hfirst⟩ := h k r hr
  obtain ⟨r'', hr'', hsecond⟩ := h' k r' hr'
  exact ⟨r'', hr'', hR r r' r'' hfirst hsecond⟩

/-- The record is the same, or has a higher version. -/
def Later (version : V → Nat) (r r' : V) : Prop := r' = r ∨ version r < version r'

theorem Later.trans (r r' r'' : V) (h : Later version r r') (h' : Later version r' r'') : Later version r r'' := by
  rcases h with rfl | h
  · exact h'
  · rcases h' with rfl | h'
    · exact .inr h
    · exact .inr (h.trans h')

/-- Versions do not go back. -/
theorem version_le (h : Keeps (Later version) rows rows') (k : K) (v : Nat) (hv : (rows k).map version = some v) :
    ∃ v', (rows' k).map version = some v' ∧ v ≤ v' := by
  obtain ⟨r, hr, rfl⟩ := Option.map_eq_some_iff.1 hv
  obtain ⟨r', hr', hlater⟩ := h k r hr
  refine ⟨version r', by rw [hr', Option.map_some], ?_⟩
  rcases hlater with rfl | hlater
  · exact le_rfl
  · exact hlater.le

/-! ## Life cycles -/

/-- One edge further, and the version counts it. -/
def Follows (edge : S → S → Prop) (p q : S × Nat) : Prop := edge p.1 q.1 ∧ q.2 = p.2 + 1

/-- The status went along edges, and the version counts them. -/
def Traces (edge : S → S → Prop) (shown : V → S × Nat) (r r' : V) : Prop :=
  Relation.ReflTransGen (Follows edge) (shown r) (shown r')

variable {edge : S → S → Prop} {shown : V → S × Nat}

theorem Traces.trans (r r' r'' : V) (h : Traces edge shown r r') (h' : Traces edge shown r' r'') : Traces edge shown r r'' :=
  Relation.ReflTransGen.trans h h'

theorem le_of_follows {p q : S × Nat} (h : Relation.ReflTransGen (Follows edge) p q) : p.2 ≤ q.2 := by
  induction h with
  | refl => exact le_rfl
  | tail _ hlast ih => exact hlast.2 ▸ ih.trans (Nat.le_succ _)

/-- A status that no edge leaves is the last one. -/
theorem Traces.eq_of_last {r r' : V} (h : Traces edge shown r r') (hlast : ∀ status, ¬ edge (shown r).1 status) :
    shown r' = shown r := by
  rcases Relation.ReflTransGen.cases_head h with heq | ⟨p, hfirst, -⟩
  · exact heq.symm
  · exact absurd hfirst.1 (hlast p.1)

/-! ## Tables -/

section
variable [DecidableEq K] {c : V → K} {table table' table'' : List V} {selected : V → Bool} {f : V → V} {k : K} {r new : V}

theorem keeps_update (hrefl : ∀ r, R r r) (hkey : ∀ r, c (f r) = c r)
    (h : ∀ k r, Rows.row c table k = some r → selected r = true → R r (f r)) :
    Keeps R (Rows.row c table) (Rows.row c (Rows.update selected f table)) := by
  intro k r hr
  refine ⟨if selected r then f r else r, by rw [Rows.row_update hkey, hr]; rfl, ?_⟩
  split
  · next hselected => exact h k r hr hselected
  · exact hrefl r

theorem keeps_append (hrefl : ∀ r, R r r) : Keeps R (Rows.row c table) (Rows.row c (table ++ [new])) :=
  fun _ r hr => ⟨r, by rw [Rows.row_append, hr]; rfl, hrefl r⟩

/-- No row of the table is lost, and each is what it was or has a higher version. -/
def Advances (c : V → K) (version : V → Nat) (table table' : List V) : Prop :=
  Keeps (Later version) (Rows.row c table) (Rows.row c table')

theorem Advances.refl : Advances c version table table := fun _ r hr => ⟨r, hr, .inl rfl⟩

theorem Advances.trans (h : Advances c version table table') (h' : Advances c version table' table'') :
    Advances c version table table'' :=
  Keeps.trans Later.trans h h'

theorem Advances.updated (hkey : ∀ r, c (f r) = c r) (hversion : ∀ r, version (f r) = version r + 1) :
    Advances c version table (Rows.update selected f table) :=
  keeps_update (fun _ => .inl rfl) hkey fun _ r _ _ => .inr (by rw [hversion]; exact Nat.lt_succ_self _)

theorem Advances.added : Advances c version table (table ++ [new]) := keeps_append fun _ => .inl rfl

theorem keeps_put (hrefl : ∀ r, R r r) {t : Keyed c} (h : ∀ r, t.get (c new) = some r → R r new) : Keeps R t.get (t.put new).get := by
  intro k r hr
  by_cases hk : k = c new
  · subst hk
    exact ⟨new, Keyed.get_put_self, h r hr⟩
  · exact ⟨r, (Keyed.get_put_of_ne hk).trans hr, hrefl r⟩

/-! ## Compare-and-swap -/

/-- The record of the key had the version that was expected, and has a higher one. -/
def Swaps (versions versions' : K → Option Nat) (k : K) (v : Nat) : Prop :=
  versions k = some v ∧ ∃ v', versions' k = some v' ∧ v < v'

theorem swaps_update (hkey : ∀ r, c (f r) = c r) (hversion : ∀ r, version (f r) = version r + 1)
    (hr : Rows.row c table k = some r) (hselected : selected r = true) :
    (Rows.row c table k).map version = some (version r) ∧
      ∃ v', (Rows.row c (Rows.update selected f table) k).map version = some v' ∧ version r < v' := by
  refine ⟨by rw [hr, Option.map_some], version r + 1, ?_, Nat.lt_succ_self _⟩
  rw [Rows.row_update hkey, hr, Option.map_some, Option.map_some, if_pos hselected, hversion]

/-- With distinct keys, an update that finds one row finds that of the key, in the version that was expected. -/
theorem swaps_of_count {v : Nat} (hkey : ∀ r, c (f r) = c r) (hversion : ∀ r, version (f r) = version r + 1)
    (hdistinct : (table.map c).Nodup) (hone : table.countP selected = 1)
    (hselects : ∀ r, selected r = true → c r = k ∧ version r = v) :
    (Rows.row c table k).map version = some v ∧
      ∃ v', (Rows.row c (Rows.update selected f table) k).map version = some v' ∧ v < v' := by
  obtain ⟨r, hr, hselected⟩ := List.countP_pos_iff.1 (hone ▸ Nat.one_pos)
  obtain ⟨rfl, rfl⟩ := hselects r hselected
  exact swaps_update hkey hversion (Rows.row_of_mem hdistinct hr) hselected

end

variable {σ α : Type} {step : σ → α → σ → Prop} {expects : α → Option (K × Nat)} {s t : σ}
  {as : List α}

/-- **Each compare-and-swap of a record expects a higher version than the one before**, so of those that expect the same
version at most one succeeds. -/
theorem pairwise_expected (Inv : σ → Prop) (versions : σ → K → Option Nat) (hinv : ∀ s a t, step s a t → Inv s → Inv t)
    (hrises : ∀ s a t, step s a t → ∀ k v, versions s k = some v → ∃ v', versions t k = some v' ∧ v ≤ v')
    (hswaps : ∀ s a t e, step s a t → Inv s → expects a = some e → Swaps (versions s) (versions t) e.1 e.2)
    (hrun : Run step s as t) (hs : Inv s) : (as.filterMap expects).Pairwise fun e e' => e.1 = e'.1 → e.2 < e'.2 := by
  -- what was expected is below the version there is now
  let Above : σ → K × Nat → Prop := fun u e => ∃ v, versions u e.1 = some v ∧ e.2 < v
  have hall : Inv t ∧ (∀ e ∈ as.filterMap expects, Above t e) ∧
      (as.filterMap expects).Pairwise fun e e' => e.1 = e'.1 → e.2 < e'.2 := by
    refine hrun.trace_invariant (I := fun as u => Inv u ∧ (∀ e ∈ as.filterMap expects, Above u e) ∧
      (as.filterMap expects).Pairwise fun e e' => e.1 = e'.1 → e.2 < e'.2) ?_ ⟨hs, List.forall_mem_nil _, .nil⟩
    rintro as u a w hstep ⟨hu, habove, hpair⟩
    have hkept : ∀ e ∈ as.filterMap expects, Above w e := by
      intro e he
      obtain ⟨v, hv, hlt⟩ := habove e he
      obtain ⟨v', hv', hle⟩ := hrises u a w hstep _ v hv
      exact ⟨v', hv', hlt.trans_le hle⟩
    refine ⟨hinv u a w hstep hu, ?_⟩
    cases hexpects : expects a with
    | none => simpa [hexpects] using And.intro hkept hpair
    | some e =>
      obtain ⟨hexpected, hraised⟩ := hswaps u a w e hstep hu hexpects
      have hlast : List.filterMap expects [a] = [e] := by simp [hexpects]
      rw [List.filterMap_append, hlast]
      refine ⟨fun e' he' => ?_, List.pairwise_append.2 ⟨hpair, List.pairwise_singleton .., fun e' he' e'' he'' hkey => ?_⟩⟩
      · rcases List.mem_append.1 he' with he' | he'
        · exact hkept e' he'
        · rw [List.mem_singleton.1 he']
          exact hraised
      · obtain rfl := List.mem_singleton.1 he''
        obtain ⟨v, hv, hlt⟩ := habove e' he'
        rw [hkey, hexpected] at hv
        cases hv
        exact hlt
  exact hall.2.2

end

end Tna.Lib.Versions
