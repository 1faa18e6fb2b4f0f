import Tna.Ledger.Query
import Tna.Ledger.Sequence
import Tna.Ledger.Stored

/-!
# Following cursors

A query is a list of rows in the order of pages, and a page is a stretch of it from an
offset on. Whoever follows the cursors from a page to the last one reads what is left of
the list, as long as nothing is stored in between.
-/

namespace Tna.Ledger

open Tna.Js Tna.Lib

/-! ## The order of pages -/

section
variable {α : Type} {lt : α → α → Prop} {x y z : α} {p q r : Prop}

theorem lex_total (h : ∀ x y, lt x y ∨ x = y ∨ lt y x) (hpq : p ∨ q) : (lt x y ∨ x = y ∧ p) ∨ lt y x ∨ y = x ∧ q := by
  rcases h x y with hlt | rfl | hlt
  · exact .inl (.inl hlt)
  · exact hpq.imp (fun hp => .inr ⟨rfl, hp⟩) fun hq => .inr ⟨rfl, hq⟩
  · exact .inr (.inl hlt)

theorem lex_trans (h : ∀ {x y z}, lt x y → lt y z → lt x z) (hpq : p → q → r) (hxy : lt x y ∨ x = y ∧ p)
    (hyz : lt y z ∨ y = z ∧ q) : lt x z ∨ x = z ∧ r := by
  rcases hxy with hxy | ⟨rfl, hp⟩
  · rcases hyz with hyz | ⟨rfl, -⟩
    · exact .inl (h hxy hyz)
    · exact .inl hxy
  · exact hyz.imp_right fun hq => ⟨hq.1, hpq hp hq.2⟩

theorem lex_antisymm (lt : α → α → Prop) (h : ∀ {x y}, lt x y → ¬ lt y x) (hxy : lt x y ∨ x = y ∧ p) (hyx : lt y x ∨ y = x ∧ q) :
    x = y ∧ p ∧ q := by
  rcases hxy with hxy | ⟨rfl, hp⟩
  · rcases hyx with hyx | ⟨rfl, -⟩
    · exact absurd hyx (h hxy)
    · exact absurd hxy (h hxy)
  · rcases hyx with hyx | ⟨-, hq⟩
    · exact absurd hyx (h hyx)
    · exact ⟨rfl, hp, hq⟩

end

theorem text_trichotomy (a b : Text) : a < b ∨ a = b ∨ b < a := by
  by_cases hab : a < b
  · exact .inl hab
  by_cases hba : b < a
  · exact .inr (.inr hba)
  · exact .inr (.inl (List.le_antisymm (List.not_lt.1 hba) (List.not_lt.1 hab)))

instance : Std.Total rowLe :=
  ⟨fun a b => lex_total text_trichotomy (lex_total text_trichotomy (lex_total Nat.lt_trichotomy (List.le_total a.eventId b.eventId)))⟩

instance : IsTrans RawEventRow rowLe :=
  ⟨fun _ _ _ => lex_trans List.lt_trans (lex_trans List.lt_trans (lex_trans Nat.lt_trans List.le_trans))⟩

theorem rowLe_antisymm {a b : RawEventRow} (hab : rowLe a b) (hba : rowLe b a) : a.eventId = b.eventId := by
  unfold rowLe at hab hba
  obtain ⟨-, hab, hba⟩ := lex_antisymm (· < ·) (fun h => List.lt_asymm h) hab hba
  obtain ⟨-, hab, hba⟩ := lex_antisymm (· < ·) (fun h => List.lt_asymm h) hab hba
  obtain ⟨-, hab, hba⟩ := lex_antisymm (· < ·) (fun h => Nat.lt_asymm h) hab hba
  exact List.le_antisymm hab hba

/-! ## Queries -/

/-- The rows of a query, in the order of pages. -/
def queried (s : LedgerStore) (tenantId : Text) (filters : Filters) : List RawEventRow :=
  (s.events.filter fun r => r.tenantId = tenantId ∧ filters.admits r).insertionSort rowLe

/-- The row is read back as the event. -/
def ReadAs (row : RawEventRow) (e : LedgerEvent) : Prop := toLedgerEvent row = some e

/-- Every row can be read back. -/
def Readable (s : LedgerStore) : Prop := ∀ row ∈ s.events, ∃ e, ReadAs row e

section
variable {s : LedgerStore} {tenantId : Text} {filters : Filters} {limit : Limit} {bounded : ℕ}

theorem mem_queried {row : RawEventRow} :
    row ∈ queried s tenantId filters ↔ row ∈ s.events ∧ row.tenantId = tenantId ∧ filters.admits row = true := by
  rw [queried, (List.perm_insertionSort rowLe _).mem_iff, List.mem_filter, decide_eq_true_eq]

variable {offset : Nat} {cursor : Option Text}

theorem query_ok {limit : Nat} {events : List LedgerEvent} (h : s.query tenantId filters limit offset = .ok events) :
    List.Forall₂ ReadAs (((queried s tenantId filters).drop offset).take limit) events := by
  unfold LedgerStore.query at h
  simp only at h
  split at h
  · cases h
  · next found hfound =>
    cases h
    exact mapM_eq_some_iff.1 hfound

/-- **Inversion of a page**: the rows from its cursor on, up to its size, and a cursor to the next ones where there are any. -/
theorem page_ok {p : Page} (hlimit : boundedLimit limit = .ok bounded)
    (hcursor : offsetCursors.decodeCursor cursor = .ok offset) (h : page offsetCursors s tenantId filters limit cursor = .ok p) :
    List.Forall₂ ReadAs (((queried s tenantId filters).drop offset).take bounded) p.items ∧
      match p.nextCursor with
      | some next => offsetCursors.decodeCursor (some next) = .ok (offset + bounded) ∧
          offset + bounded < (queried s tenantId filters).length
      | none => (queried s tenantId filters).drop (offset + bounded) = [] := by
  obtain ⟨bounded', hbounded, h⟩ := bind_ok h
  rw [hlimit] at hbounded
  cases hbounded
  obtain ⟨offset', hoffset, h⟩ := bind_ok h
  rw [hcursor] at hoffset
  cases hoffset
  obtain ⟨rows, hrows, h⟩ := bind_ok h
  have hread := query_ok hrows
  have htaken := List.forall₂_take bounded hread
  rw [List.take_take, Nat.min_eq_left (Nat.le_succ _)] at htaken
  have hlength := hread.length_eq
  rw [List.length_take, List.length_drop] at hlength
  split at h
  · next hmore =>
    cases h
    refine ⟨htaken, ?_, by omega⟩
    show offsetCursors.decodeCursor (some (offsetCursors.encode _)) = _
    rw [Cursors.decodeCursor, decode_encode]
  · next hshort =>
    cases h
    rw [List.take_of_length_le (Nat.not_lt.1 hshort)] at htaken
    refine ⟨htaken, ?_⟩
    show (queried s tenantId filters).drop _ = []
    exact List.drop_eq_nil_of_le (by omega)

theorem query_of_readable (h : Readable s) (limit offset : Nat) : ∃ events, s.query tenantId filters limit offset = .ok events := by
  obtain ⟨events, hevents⟩ := mapM_of_forall (f := toLedgerEvent)
    (l := ((queried s tenantId filters).drop offset).take limit)
    fun row hrow => by
      obtain ⟨e, he⟩ := h row (mem_queried.1 (List.mem_of_mem_drop (List.mem_of_mem_take hrow))).1
      exact Option.ne_none_iff_exists'.2 ⟨e, he⟩
  refine ⟨events, ?_⟩
  unfold LedgerStore.query
  simp only
  rw [show (((s.events.filter fun r => r.tenantId = tenantId ∧ filters.admits r).insertionSort rowLe).drop offset).take limit =
    ((queried s tenantId filters).drop offset).take limit from rfl, hevents]

end

/-- The largest page is given to whoever asks for it. -/
theorem boundedLimit_max : boundedLimit (.integer maxQueryPageSize) = .ok maxQueryPageSize := rfl

/-! ## From a page to the last one -/

/-- What one reads who follows the cursors from a page on. -/
inductive Reads (fetch : Option Text → Except StoreError Page) : Option Text → List LedgerEvent → Prop where
  | last {cursor : Option Text} {items : List LedgerEvent} (h : fetch cursor = .ok ⟨items, none⟩) : Reads fetch cursor items
  | next {cursor : Option Text} {next : Text} {items rest : List LedgerEvent} (h : fetch cursor = .ok ⟨items, some next⟩)
    (hrest : Reads fetch (some next) rest) : Reads fetch cursor (items ++ rest)

section
variable {s : LedgerStore} {tenantId : Text} {filters : Filters} {limit : Limit} {bounded : ℕ}

variable {cursor : Option Text} {offset : ℕ}

end

/-! ## The events of a run -/

section
variable {sha256 : Text → Text}

theorem readable_run (calls : List AppendCall) : Readable (runAppends sha256 calls) := by
  intro row hrow
  obtain ⟨c, -, input, -, hstores⟩ := stored_of_run hrow
  obtain ⟨e, he, -⟩ := toLedgerEvent_stores hstores
  exact ⟨e, he⟩

end

end Tna.Ledger
