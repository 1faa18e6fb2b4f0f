import Tna.Improvement.Operations
import Mathlib.Data.Finset.Card
import Mathlib.Logic.Relation

/-!
# Lineage

The generations of a tenant form a forest: a generation's parent was there before it. The
lineage of a generation is found by two walks over the rows, up along the parents and
down along the children, each of which gives up when it meets a row again. In the stores
that operations lead to neither does, and what they find is exact.
-/

namespace Tna.Improvement

open Tna.Lib Tna.Js

namespace ImprovementStore

/-! ## The walks -/

structure GenerationLineage where
  generationId : Text
  ancestors : List ImprovementGeneration
  descendants : List ImprovementGeneration

def lineageCycle (walked generationId : Text) : ImprovementThrown :=
  .improvement .lineageCycle (Text.ofAscii "Lineage cycle detected while walking " ++ walked ++ Text.ofAscii " of " ++ generationId)

/-- The rows a walk has not met. -/
def unvisited (s : ImprovementStore) (visited : List Text) : Nat :=
  ((s.generations.rows.map fun g => g.generationId).toFinset \ visited.toFinset).card

variable {g : ImprovementGeneration} {s : ImprovementStore} {generationId : Text}

theorem unvisited_cons_lt {visited : List Text} (hrow : g ∈ s.generations.rows) (hnew : g.generationId ∉ visited) :
    s.unvisited (g.generationId :: visited) < s.unvisited visited := by
  refine Finset.card_lt_card ⟨fun id hid => ?_, fun hsubset => ?_⟩
  · simp only [List.toFinset_cons, Finset.mem_sdiff, Finset.mem_insert, not_or] at hid ⊢
    exact ⟨hid.1, hid.2.2⟩
  · have hmem : g.generationId ∈ (s.generations.rows.map fun g => g.generationId).toFinset \ visited.toFinset := by
      simp only [Finset.mem_sdiff, List.mem_toFinset]
      exact ⟨List.mem_map_of_mem hrow, hnew⟩
    have hagain := hsubset hmem
    simp at hagain

theorem row_of_getGeneration {tenantId : Text} (h : s.getGeneration tenantId generationId = .ok g) :
    g ∈ s.generations.rows ∧ g.generationId = generationId := by
  obtain ⟨hget, -⟩ := getGeneration_ok.1 h
  cases Keyed.key_of_get hget
  exact ⟨Keyed.mem_rows.2 hget, rfl⟩

/-- From a parent up, root first; a parent that is no row of the tenant ends the walk. -/
def walkAncestors (s : ImprovementStore) (tenantId generationId : Text) (visited : List Text)
    (ancestors : List ImprovementGeneration) (cursor : Option Text) : Except ImprovementThrown (List ImprovementGeneration) :=
  match cursor with
  | none => .ok ancestors
  | some id =>
    if _hvisited : id ∈ visited then .error (lineageCycle "ancestors" generationId)
    else
      match _hget : s.getGeneration tenantId id with
      | .error _ => .ok ancestors
      | .ok gen => walkAncestors s tenantId generationId (id :: visited) (gen :: ancestors) gen.parentGenerationId
termination_by s.unvisited visited
decreasing_by
  obtain ⟨hrow, rfl⟩ := row_of_getGeneration _hget
  exact unvisited_cons_lt hrow _hvisited

def children (s : ImprovementStore) (tenantId generationId : Text) : List ImprovementGeneration :=
  s.generations.rows.filter fun g => decide (g.tenantId = tenantId ∧ g.parentGenerationId = some generationId)

/-- How far the walk down is: the ids it has met, the rows it has found, and the ids whose children it has yet to look
for, the latest first. -/
structure Descent where
  visited : List Text
  descendants : List ImprovementGeneration
  frontier : List Text

def visitChildren (generationId : Text) : List ImprovementGeneration → Descent → Except ImprovementThrown Descent
  | [], w => .ok w
  | child :: rest, w =>
    if child.generationId ∈ w.visited then .error (lineageCycle "descendants" generationId)
    else visitChildren generationId rest
      ⟨child.generationId :: w.visited, w.descendants ++ [child], child.generationId :: w.frontier⟩

theorem visitChildren_shorter {found : List ImprovementGeneration} {w w' : Descent}
    (hrows : ∀ g ∈ found, g ∈ s.generations.rows) (h : visitChildren generationId found w = .ok w') :
    s.unvisited w'.visited + w'.frontier.length ≤ s.unvisited w.visited + w.frontier.length := by
  induction found generalizing w with
  | nil =>
    cases h
    exact le_rfl
  | cons child rest ih =>
    rw [visitChildren] at h
    split at h
    · cases h
    · next hnew =>
      have hrest := ih (fun g hg => hrows g (.tail _ hg)) h
      have hlt := unvisited_cons_lt (hrows child (.head _)) hnew
      simp only [List.length_cons] at hrest
      omega

/-- From the frontier down. -/
def walkDescendants (s : ImprovementStore) (tenantId generationId : Text) (w : Descent) :
    Except ImprovementThrown (List ImprovementGeneration) :=
  match _hfrontier : w.frontier with
  | [] => .ok w.descendants
  | current :: rest =>
    match _hvisit : visitChildren generationId (s.children tenantId current) { w with frontier := rest } with
    | .error e => .error e
    | .ok w' => walkDescendants s tenantId generationId w'
termination_by s.unvisited w.visited + w.frontier.length
decreasing_by
  have hle := visitChildren_shorter (s := s) (fun g hg => List.mem_of_mem_filter hg) _hvisit
  simp only [_hfrontier, List.length_cons] at hle ⊢
  omega

def getLineage (s : ImprovementStore) (tenantId generationId : Text) : Except ImprovementThrown GenerationLineage := do
  let start ← s.getGeneration tenantId generationId
  let ancestors ← s.walkAncestors tenantId generationId [generationId] [] start.parentGenerationId
  let descendants ← s.walkDescendants tenantId generationId ⟨[generationId], [], [generationId]⟩
  return { generationId, ancestors, descendants }

end ImprovementStore

/-! ## Ids -/

def newGenerationId (uuid : Text) : Text := Text.ofAscii "gen_" ++ uuid

theorem newGenerationId_ne_nil (uuid : Text) : newGenerationId uuid ≠ [] :=
  List.append_ne_nil_of_left_ne_nil (by decide) uuid

/-- A generation is created under an id newly made. -/
def StoreOp.minted : StoreOp → Prop
  | .createGeneration _ newId => ∃ uuid, newId = newGenerationId uuid
  | _ => True

/-! ## The forest -/

/-- Where a generation stands: a root is its own root and the first of its line, and any other comes right after a parent
of its tenant, under the same root. -/
inductive Placed (s : ImprovementStore) (g : ImprovementGeneration) : Prop where
  | root (hparent : g.parentGenerationId = none) (hroot : g.rootGenerationId = g.generationId) (hnumber : g.generationNumber = 0)
  | child (parent : ImprovementGeneration) (hparent : g.parentGenerationId = some parent.generationId)
      (hget : s.generations.get parent.generationId = some parent) (htenant : parent.tenantId = g.tenantId)
      (hroot : g.rootGenerationId = parent.rootGenerationId) (hnumber : g.generationNumber = parent.generationNumber + 1)

/-- Every generation is in its place. -/
structure Forest (s : ImprovementStore) : Prop where
  placed : ∀ id g, s.generations.get id = some g → Placed s g
  rooted : ∀ id g, s.generations.get id = some g → g.rootGenerationId ≠ []

section
variable {s t : ImprovementStore} {tenantId newId : Text} {g : ImprovementGeneration}

theorem createGeneration_placed {i : ImprovementStore.CreateGenerationInput} (hs : Forest s)
    (h : s.createGeneration i newId = .ok (g, t)) :
    g.generationId = newId ∧ s.generations.get newId = none ∧ Placed s g ∧ (newId ≠ [] → g.rootGenerationId ≠ []) ∧
      t = { s with generations := s.generations.put g } := by
  unfold ImprovementStore.createGeneration at h
  split at h
  · cases h
  · next root number hlineage =>
    split at h
    · cases h
    · split at h
      · cases h
      · next hnone =>
        cases h
        refine ⟨rfl, hnone, ?_, ?_, rfl⟩
        all_goals unfold ImprovementStore.lineageOf at hlineage
        all_goals split at hlineage
        · next hparent =>
          cases hlineage
          exact .root hparent rfl rfl
        · next parentId hparent =>
          split at hlineage
          · cases hlineage
          · next parent hget =>
            obtain ⟨hrow, htenant⟩ := getGeneration_ok.1 hget
            cases Keyed.key_of_get hrow
            rw [if_neg (hs.rooted _ _ hrow)] at hlineage
            cases hlineage
            exact .child parent hparent hrow htenant rfl rfl
        · cases hlineage
          exact fun hid => hid
        · split at hlineage
          · cases hlineage
          · next parent hget =>
            obtain ⟨hrow, -⟩ := getGeneration_ok.1 hget
            rw [if_neg (hs.rooted _ _ hrow)] at hlineage
            cases hlineage
            exact fun _ => hs.rooted _ parent hrow

/-- Rows that keep where they stand keep the place of what comes after them. -/
theorem Placed.of_kept (h : Placed s g)
    (hkept : ∀ id p, s.generations.get id = some p → ∃ p', t.generations.get id = some p' ∧ p'.generationId = p.generationId ∧
      p'.tenantId = p.tenantId ∧ p'.rootGenerationId = p.rootGenerationId ∧ p'.generationNumber = p.generationNumber) :
    Placed t g := by
  cases h with
  | root hparent hroot hnumber => exact .root hparent hroot hnumber
  | child parent hparent hget htenant hroot hnumber =>
    obtain ⟨p', hget', hid, htenant', hroot', hnumber'⟩ := hkept _ _ hget
    rw [← hid] at hparent hget'
    exact .child p' hparent hget' (htenant'.trans htenant) (hroot.trans hroot'.symm) (by omega)

theorem forest_put_new (hs : Forest s) (hnew : s.generations.get g.generationId = none) (hplaced : Placed s g)
    (hroot : g.rootGenerationId ≠ []) : Forest { s with generations := s.generations.put g } := by
  have hkept : ∀ id p, s.generations.get id = some p → (s.generations.put g).get id = some p := by
    intro id p hp
    rw [Keyed.get_put_of_ne ?_]
    · exact hp
    · rintro rfl
      rw [hnew] at hp
      cases hp
  constructor
  · intro id g' hget
    refine Placed.of_kept (s := s) ?_ fun id p hp => ⟨p, hkept id p hp, rfl, rfl, rfl, rfl⟩
    rcases Keyed.get_put_cases hget with ⟨-, rfl⟩ | ⟨-, hold⟩
    · exact hplaced
    · exact hs.placed id g' hold
  · intro id g' hget
    rcases Keyed.get_put_cases hget with ⟨-, rfl⟩ | ⟨-, hold⟩
    · exact hroot
    · exact hs.rooted id g' hold

theorem forest_put_moved {target : GenerationState} {hash : Option Text} (hs : Forest s)
    (hget : s.generations.get g.generationId = some g) : Forest { s with generations := s.generations.put (g.moved target hash) } := by
  have hkept : ∀ id p, s.generations.get id = some p → ∃ p', (s.generations.put (g.moved target hash)).get id = some p' ∧
      p'.generationId = p.generationId ∧ p'.tenantId = p.tenantId ∧ p'.rootGenerationId = p.rootGenerationId ∧
      p'.generationNumber = p.generationNumber := by
    intro id p hp
    by_cases hid : id = g.generationId
    · subst hid
      cases hget.symm.trans hp
      exact ⟨g.moved target hash, Keyed.get_put_self (v := g.moved target hash), rfl, rfl, rfl, rfl⟩
    · exact ⟨p, (Keyed.get_put_of_ne (v := g.moved target hash) hid).trans hp, rfl, rfl, rfl, rfl⟩
  constructor
  · intro id g' hget'
    rcases Keyed.get_put_cases hget' with ⟨-, rfl⟩ | ⟨-, hold⟩
    · have hplaced : Placed s (g.moved target hash) := by
        cases hs.placed _ _ hget with
        | root hparent hroot hnumber => exact .root hparent hroot hnumber
        | child parent hparent hrow htenant hroot hnumber => exact .child parent hparent hrow htenant hroot hnumber
      exact hplaced.of_kept hkept
    · exact (hs.placed id g' hold).of_kept hkept
  · intro id g' hget'
    rcases Keyed.get_put_cases hget' with ⟨-, rfl⟩ | ⟨-, hold⟩
    · exact hs.rooted _ g hget
    · exact hs.rooted id g' hold

/-- Only the rows of generations matter to the forest. -/
theorem Forest.of_generations (hs : Forest s) (h : t.generations = s.generations) : Forest t := by
  constructor
  · intro id g hget
    rw [h] at hget
    refine (hs.placed id g hget).of_kept fun id p hp => ⟨p, ?_, rfl, rfl, rfl, rfl⟩
    rw [h]
    exact hp
  · intro id g hget
    rw [h] at hget
    exact hs.rooted id g hget

/-- **Every operation keeps the forest.** -/
theorem forest_step {op : StoreOp} (h : StoreOp.Step s op t) (hminted : op.minted) (hs : Forest s) : Forest t := by
  cases move_of_run h with
  | elsewhere _ hgenerations => exact hs.of_generations hgenerations
  | stores hnew hcreated =>
    obtain ⟨hid, -, hplaced, hroot, -⟩ := createGeneration_placed hs hcreated
    obtain ⟨uuid, rfl⟩ := hminted
    exact forest_put_new hs hnew hplaced (hroot (newGenerationId_ne_nil uuid))
  | moves hget => exact forest_put_moved hs hget
  | promotes hget => exact (forest_put_moved hs hget).of_generations rfl
  | _ => exact hs.of_generations rfl

theorem forest_empty : Forest ImprovementStore.empty where
  placed _ _ h := nomatch h
  rooted _ _ h := nomatch h

/-- A generation has one place. -/
theorem Forest.parent (hs : Forest s) {p : ImprovementGeneration} (hg : s.generations.get g.generationId = some g)
    (hp : s.generations.get p.generationId = some p) (hparent : g.parentGenerationId = some p.generationId) :
    p.tenantId = g.tenantId ∧ g.rootGenerationId = p.rootGenerationId ∧ g.generationNumber = p.generationNumber + 1 := by
  cases hs.placed _ g hg with
  | root hnone =>
    rw [hparent] at hnone
    cases hnone
  | child parent hparent' hget htenant hroot hnumber =>
    rw [hparent] at hparent'
    rw [← Option.some.inj hparent'] at hget
    cases hp.symm.trans hget
    exact ⟨htenant, hroot, hnumber⟩

end

/-! ## Up -/

/-- The parents of a generation, root first. -/
inductive Ancestry (s : ImprovementStore) : ImprovementGeneration → List ImprovementGeneration → Prop where
  | root {g : ImprovementGeneration} (hparent : g.parentGenerationId = none) : Ancestry s g []
  | child {g p : ImprovementGeneration} {above : List ImprovementGeneration}
      (hget : s.generations.get p.generationId = some p) (hparent : g.parentGenerationId = some p.generationId)
      (hrest : Ancestry s p above) : Ancestry s g (above ++ [p])

section
variable {s : ImprovementStore} {tenantId : Text} {g : ImprovementGeneration}

/-- From a row of the forest the walk up finds every parent: what it has met comes later in the line. -/
theorem walkAncestors_ok (hs : Forest s) (start : Text) : ∀ {n : Nat} {g : ImprovementGeneration} (visited : List Text)
    (found : List ImprovementGeneration), s.generations.get g.generationId = some g → g.tenantId = tenantId →
    g.generationNumber = n → (∀ id ∈ visited, ∃ w, s.generations.get id = some w ∧ n ≤ w.generationNumber) →
    ∃ above, s.walkAncestors tenantId start visited found g.parentGenerationId = .ok (above ++ found) ∧
      Ancestry s g above ∧ above.length = n := by
  intro n
  induction n with
  | zero =>
    intro g visited found hget htenant hnumber hvisited
    cases hs.placed _ g hget with
    | root hparent =>
      refine ⟨[], ?_, .root hparent, rfl⟩
      rw [hparent, ImprovementStore.walkAncestors]
      rfl
    | child _ _ _ _ _ hchild =>
      rw [hnumber] at hchild
      cases hchild
  | succ n ih =>
    intro g visited found hget htenant hnumber hvisited
    cases hs.placed _ g hget with
    | root _ _ hroot =>
      rw [hnumber] at hroot
      cases hroot
    | child p hparent hp htenant' hroot hchild =>
      have hpn : p.generationNumber = n := by omega
      have hnew : p.generationId ∉ visited := by
        intro hmem
        obtain ⟨w, hw, hle⟩ := hvisited _ hmem
        cases hp.symm.trans hw
        omega
      have hfound : s.getGeneration tenantId p.generationId = .ok p := getGeneration_ok.2 ⟨hp, htenant'.trans htenant⟩
      obtain ⟨above, hwalk, hancestry, hlength⟩ := ih (p.generationId :: visited) (p :: found) hp
        (htenant'.trans htenant) hpn (by
          intro id hid
          rcases List.mem_cons.1 hid with rfl | hid
          · exact ⟨p, hp, hpn.ge⟩
          · obtain ⟨w, hw, hle⟩ := hvisited id hid
            exact ⟨w, hw, by omega⟩)
      refine ⟨above ++ [p], ?_, .child hp hparent hancestry, by simp [hlength]⟩
      rw [hparent, ImprovementStore.walkAncestors]
      simp only [hnew, dite_false]
      split
      · next hnone =>
        rw [hfound] at hnone
        cases hnone
      · next gen hgen =>
        cases hfound.symm.trans hgen
        rw [hwalk, List.append_assoc]
        rfl

end

/-! ## Down -/

/-- A row and its parent. -/
def ChildOf (s : ImprovementStore) (p g : ImprovementGeneration) : Prop :=
  s.generations.get g.generationId = some g ∧ g.parentGenerationId = some p.generationId

section
variable {s : ImprovementStore} {tenantId start : Text} {g : ImprovementGeneration} {w : ImprovementStore.Descent}

variable {id : Text} {d : ImprovementGeneration}

theorem mem_children : g ∈ s.children tenantId id ↔
    s.generations.get g.generationId = some g ∧ g.tenantId = tenantId ∧ g.parentGenerationId = some id := by
  rw [ImprovementStore.children, List.mem_filter, Keyed.mem_rows, decide_eq_true_eq]

/-- Children that were not met are all found. -/
theorem visitChildren_ok {found : List ImprovementGeneration} (hnodup : (found.map fun g => g.generationId).Nodup)
    (hnew : ∀ g ∈ found, g.generationId ∉ w.visited) : ImprovementStore.visitChildren start found w =
      .ok ⟨(found.map fun g => g.generationId).reverse ++ w.visited, w.descendants ++ found,
        (found.map fun g => g.generationId).reverse ++ w.frontier⟩ := by
  induction found generalizing w with
  | nil => simp [ImprovementStore.visitChildren]
  | cons child rest ih =>
    rw [List.map_cons, List.nodup_cons] at hnodup
    rw [ImprovementStore.visitChildren, if_neg (hnew child (.head _)), ih hnodup.2]
    · simp
    · intro g hg hmem
      rcases List.mem_cons.1 hmem with heq | hmem
      · exact hnodup.1 (heq ▸ List.mem_map_of_mem hg)
      · exact hnew g (.tail _ hg) hmem

theorem Descent.eta_frontier {frontier : List Text} (h : w.frontier = frontier) : { w with frontier } = w := by
  subst h
  rfl

/-- What the walk down knows: what it has met are the start and the rows it has found, each found below the start after
its parent was taken from the frontier, and every child of what was taken is among them. -/
structure Descended (s : ImprovementStore) (tenantId : Text) (g : ImprovementGeneration) (w : ImprovementStore.Descent) : Prop where
  visited : ∀ id, id ∈ w.visited ↔ id = g.generationId ∨ ∃ d ∈ w.descendants, d.generationId = id
  below : ∀ d ∈ w.descendants, Relation.TransGen (ChildOf s) g d
  parents : ∀ d ∈ w.descendants, ∃ p, d.parentGenerationId = some p ∧ p ∈ w.visited ∧ p ∉ w.frontier
  closed : ∀ id ∈ w.visited, id ∉ w.frontier → ∀ c ∈ s.children tenantId id, c ∈ w.descendants
  frontier : ∀ id ∈ w.frontier, id ∈ w.visited
  frontierNodup : w.frontier.Nodup
  nodup : (w.descendants.map fun d => d.generationId).Nodup

theorem row_of_below (h : Relation.TransGen (ChildOf s) g d) : s.generations.get d.generationId = some d := by
  cases h with
  | single h => exact h.1
  | tail _ h => exact h.1

/-- Further down the numbers are higher. -/
theorem number_lt_of_below (hs : Forest s) (hg : s.generations.get g.generationId = some g)
    (h : Relation.TransGen (ChildOf s) g d) : g.generationNumber < d.generationNumber := by
  induction h with
  | single h =>
    obtain ⟨-, -, hnumber⟩ := hs.parent h.1 hg h.2
    omega
  | tail hfirst h ih =>
    obtain ⟨-, -, hnumber⟩ := hs.parent h.1 (row_of_below hfirst) h.2
    omega

theorem descended_start : Descended s tenantId g ⟨[g.generationId], [], [g.generationId]⟩ where
  visited id := by simp
  below _ h := nomatch h
  parents _ h := nomatch h
  closed id hid hnot := absurd hid hnot
  frontier _ h := h
  frontierNodup := List.nodup_singleton _
  nodup := List.nodup_nil

/-- The row behind an id that was met. -/
theorem Descended.row (h : Descended s tenantId g w) (hg : s.generations.get g.generationId = some g) (hid : id ∈ w.visited) :
    ∃ p, p.generationId = id ∧ s.generations.get p.generationId = some p ∧
      Relation.ReflTransGen (ChildOf s) g p := by
  rcases (h.visited id).1 hid with rfl | ⟨d, hd, rfl⟩
  · exact ⟨g, rfl, hg, .refl⟩
  · exact ⟨d, rfl, row_of_below (h.below d hd), (h.below d hd).to_reflTransGen⟩

/-- No child of what is still on the frontier was met. -/
theorem Descended.fresh (hs : Forest s) (h : Descended s tenantId g w) (hg : s.generations.get g.generationId = some g)
    (hid : id ∈ w.frontier) {c : ImprovementGeneration} (hc : c ∈ s.children tenantId id) : c.generationId ∉ w.visited := by
  obtain ⟨hrow, -, hparent⟩ := mem_children.1 hc
  intro hmet
  rcases (h.visited _).1 hmet with hstart | ⟨d, hd, hsame⟩
  · obtain ⟨p, rfl, hp, hbelow⟩ := h.row hg (h.frontier id hid)
    rw [hstart] at hrow
    cases hg.symm.trans hrow
    obtain ⟨-, -, hnumber⟩ := hs.parent hg hp hparent
    rcases Relation.reflTransGen_iff_eq_or_transGen.1 hbelow with rfl | hbelow
    · omega
    · have hlt := number_lt_of_below hs hg hbelow
      omega
  · have hrow' := row_of_below (h.below d hd)
    rw [hsame] at hrow'
    cases hrow.symm.trans hrow'
    obtain ⟨p, hp, -, hnot⟩ := h.parents c hd
    rw [hparent] at hp
    cases hp
    exact hnot hid

theorem children_nodup (s : ImprovementStore) (tenantId id : Text) :
    ((s.children tenantId id).map fun c => c.generationId).Nodup :=
  (List.filter_sublist.map _).nodup Keyed.keys_nodup

variable (start) in
/-- **One round of the walk down**: the children of what is taken from the frontier. -/
theorem Descended.next (hs : Forest s) (hg : s.generations.get g.generationId = some g) {current : Text} {rest : List Text}
    (h : Descended s tenantId g { w with frontier := current :: rest }) :
    ∃ w', ImprovementStore.visitChildren start (s.children tenantId current) { w with frontier := rest } = .ok w' ∧
      Descended s tenantId g w' := by
  have hfresh : ∀ c ∈ s.children tenantId current, c.generationId ∉ w.visited := fun c hc => h.fresh hs hg (.head _) hc
  refine ⟨_, visitChildren_ok (children_nodup s tenantId current) hfresh, ?_⟩
  have hmem : ∀ id, id ∈ ((s.children tenantId current).map fun c => c.generationId).reverse ↔
      ∃ c ∈ s.children tenantId current, c.generationId = id := by
    intro id
    rw [List.mem_reverse, List.mem_map]
  have hcurrent : current ∈ w.visited := h.frontier current (.head _)
  have hrest : current ∉ rest := (List.nodup_cons.1 h.frontierNodup).1
  obtain ⟨p, rfl, hp, hbelow⟩ := h.row hg hcurrent
  constructor
  · intro id
    simp only [List.mem_append, hmem, h.visited id]
    constructor
    · rintro (⟨c, hc, rfl⟩ | rfl | ⟨d, hd, rfl⟩)
      · exact .inr ⟨c, .inr hc, rfl⟩
      · exact .inl rfl
      · exact .inr ⟨d, .inl hd, rfl⟩
    · rintro (rfl | ⟨d, hd | hd, rfl⟩)
      · exact .inr (.inl rfl)
      · exact .inr (.inr ⟨d, hd, rfl⟩)
      · exact .inl ⟨d, hd, rfl⟩
  · intro d hd
    rcases List.mem_append.1 hd with hd | hd
    · exact h.below d hd
    · obtain ⟨hrow, -, hparent⟩ := mem_children.1 hd
      exact Relation.TransGen.tail' hbelow ⟨hrow, hparent⟩
  · intro d hd
    rcases List.mem_append.1 hd with hd | hd
    · obtain ⟨q, hq, hvisited, hnot⟩ := h.parents d hd
      refine ⟨q, hq, List.mem_append_right _ hvisited, fun hmet => ?_⟩
      rcases List.mem_append.1 hmet with hmet | hmet
      · obtain ⟨c, hc, rfl⟩ := (hmem q).1 hmet
        exact hfresh c hc hvisited
      · exact hnot (.tail _ hmet)
    · obtain ⟨-, -, hparent⟩ := mem_children.1 hd
      refine ⟨_, hparent, List.mem_append_right _ hcurrent, fun hmet => ?_⟩
      rcases List.mem_append.1 hmet with hmet | hmet
      · obtain ⟨c, hc, hsame⟩ := (hmem _).1 hmet
        exact hfresh c hc (hsame ▸ hcurrent)
      · exact hrest hmet
  · intro id hid hnot c hc
    rw [List.mem_append, not_or] at hnot
    rcases List.mem_append.1 hid with hid | hid
    · exact absurd hid hnot.1
    · by_cases heq : id = p.generationId
      · subst heq
        exact List.mem_append_right _ hc
      · exact List.mem_append_left _ (h.closed id hid (by simp [heq, hnot.2]) c hc)
  · intro id hid
    rcases List.mem_append.1 hid with hid | hid
    · exact List.mem_append_left _ hid
    · exact List.mem_append_right _ (h.frontier id (.tail _ hid))
  · refine List.nodup_append.2 ⟨List.nodup_reverse.2 (children_nodup s tenantId _), (List.nodup_cons.1 h.frontierNodup).2, ?_⟩
    rintro id hid _ hid' rfl
    obtain ⟨c, hc, rfl⟩ := (hmem id).1 hid
    exact hfresh c hc (h.frontier _ (.tail _ hid'))
  · rw [List.map_append]
    refine List.nodup_append.2 ⟨h.nodup, children_nodup s tenantId _, ?_⟩
    rintro id hid _ hid' rfl
    obtain ⟨d, hd, rfl⟩ := List.mem_map.1 hid
    obtain ⟨c, hc, hsame⟩ := List.mem_map.1 hid'
    exact hfresh c hc ((h.visited _).2 (.inr ⟨d, hd, hsame.symm⟩))

/-- With nothing left on the frontier, everything below the start was found. -/
theorem Descended.complete (hs : Forest s) (hg : s.generations.get g.generationId = some g) (htenant : g.tenantId = tenantId)
    (h : Descended s tenantId g w) (hdone : w.frontier = []) (hbelow : Relation.TransGen (ChildOf s) g d) :
    d ∈ w.descendants ∧ d.tenantId = tenantId := by
  have hnot : ∀ id, id ∉ w.frontier := by simp [hdone]
  induction hbelow with
  | single hc =>
    obtain ⟨hsame, -, -⟩ := hs.parent hc.1 hg hc.2
    have hchild := mem_children.2 ⟨hc.1, hsame.symm.trans htenant, hc.2⟩
    exact ⟨h.closed _ ((h.visited _).2 (.inl rfl)) (hnot _) _ hchild, hsame.symm.trans htenant⟩
  | tail hfirst hc ih =>
    obtain ⟨hsame, -, -⟩ := hs.parent hc.1 (row_of_below hfirst) hc.2
    have hchild := mem_children.2 ⟨hc.1, hsame.symm.trans ih.2, hc.2⟩
    exact ⟨h.closed _ ((h.visited _).2 (.inr ⟨_, ih.1, rfl⟩)) (hnot _) _ hchild, hsame.symm.trans ih.2⟩

variable (start) in
/-- **The walk down ends**, with everything below the start, once. -/
theorem walkDescendants_ok (hs : Forest s) (hg : s.generations.get g.generationId = some g) (htenant : g.tenantId = tenantId)
    (w : ImprovementStore.Descent) (h : Descended s tenantId g w) :
    ∃ found, s.walkDescendants tenantId start w = .ok found ∧ (found.map fun d => d.generationId).Nodup ∧
      ∀ d, d ∈ found ↔ Relation.TransGen (ChildOf s) g d := by
  induction w using ImprovementStore.walkDescendants.induct s tenantId start with
  | case1 w hfrontier =>
    refine ⟨w.descendants, ?_, h.nodup, fun d => ⟨h.below d, fun hbelow => (h.complete hs hg htenant hfrontier hbelow).1⟩⟩
    rw [ImprovementStore.walkDescendants]
    split
    · rfl
    · next hcons =>
      rw [hfrontier] at hcons
      cases hcons
  | case2 w current rest hfrontier e hvisit =>
    rw [← Descent.eta_frontier hfrontier] at h
    obtain ⟨w', hvisit', -⟩ := h.next start hs hg
    rw [hvisit] at hvisit'
    cases hvisit'
  | case3 w current rest hfrontier w' hvisit ih =>
    rw [← Descent.eta_frontier hfrontier] at h
    obtain ⟨w'', hvisit', hnext⟩ := h.next start hs hg
    cases hvisit.symm.trans hvisit'
    obtain ⟨found, hwalk, hfound⟩ := ih hnext
    refine ⟨found, ?_, hfound⟩
    rw [ImprovementStore.walkDescendants]
    split
    · next hnil =>
      rw [hfrontier] at hnil
      cases hnil
    · next hcons =>
      cases hfrontier.symm.trans hcons
      split
      · next herror =>
        rw [hvisit] at herror
        cases herror
      · next hok =>
        cases hvisit.symm.trans hok
        exact hwalk

/-! ## The lineage of a generation -/

/-- A lineage is exact: the line of parents up to the root, and everything below, once. -/
structure ExactLineage (s : ImprovementStore) (g : ImprovementGeneration) (l : ImprovementStore.GenerationLineage) : Prop where
  generationId : l.generationId = g.generationId
  ancestry : Ancestry s g l.ancestors
  length : l.ancestors.length = g.generationNumber
  nodup : (l.descendants.map fun d => d.generationId).Nodup
  descendants : ∀ d, d ∈ l.descendants ↔ Relation.TransGen (ChildOf s) g d

theorem getLineage_exact (hs : Forest s) {generationId : Text} (hget : s.getGeneration tenantId generationId = .ok g) :
    ∃ l, s.getLineage tenantId generationId = .ok l ∧ ExactLineage s g l := by
  obtain ⟨hg, htenant⟩ := getGeneration_ok.1 hget
  cases Keyed.key_of_get hg
  obtain ⟨ancestors, hup, hancestry, hlength⟩ := walkAncestors_ok hs g.generationId [g.generationId] [] hg
    htenant rfl (by
      intro id hid
      rw [List.mem_singleton.1 hid]
      exact ⟨g, hg, le_rfl⟩)
  obtain ⟨descendants, hdown, hnodup, hmem⟩ := walkDescendants_ok g.generationId hs hg htenant _ descended_start
  rw [List.append_nil] at hup
  refine ⟨⟨g.generationId, ancestors, descendants⟩, ?_, rfl, hancestry, hlength, hnodup, hmem⟩
  simp only [ImprovementStore.getLineage, hget, bind, Except.bind, hup, hdown, pure, Except.pure]

/-- **Lineage.** In every store the operations lead to, a generation with a parent has one of its tenant, with the number
before its own and the same root, and every generation's lineage is found and exact. -/
theorem lineage_of_run {ops : List StoreOp} (hrun : Run StoreOp.Step ImprovementStore.empty ops s)
    (hminted : ∀ op ∈ ops, op.minted) :
    (∀ id g, s.generations.get id = some g → Placed s g) ∧
      ∀ tenantId id g, s.getGeneration tenantId id = .ok g → ∃ l, s.getLineage tenantId id = .ok l ∧ ExactLineage s g l := by
  have hforest : Forest s :=
    hrun.guarded_invariant (I := Forest) (fun _ _ _ hstep => forest_step hstep) forest_empty hminted
  exact ⟨hforest.placed, fun _ _ _ hget => getLineage_exact hforest hget⟩

end

/-! ## Two systems -/

def sampleInput (systemId : Text) (parentGenerationId : Option Text) : ImprovementStore.CreateGenerationInput where
  tenantId := "t"
  systemId := systemId
  parentGenerationId := parentGenerationId
  candidateVersion := "1"
  improvementClass := .class1Code
  specHash := ""
  sourceHashBefore := ""
  createdBy := "u"

/-- A generation of one system, and one of another system with the first as its parent. -/
def crossingOps : List StoreOp :=
  [.createSystem "t" "parser" "u" "a", .createSystem "t" "planner" "u" "b",
    .createGeneration (sampleInput "a" none) (newGenerationId "1"),
    .createGeneration (sampleInput "b" (some (newGenerationId "1"))) (newGenerationId "2")]

theorem minted_crossingOps : ∀ op ∈ crossingOps, op.minted := by
  intro op hop
  simp only [crossingOps, List.mem_cons, List.not_mem_nil, or_false] at hop
  rcases hop with rfl | rfl | rfl | rfl
  · trivial
  · trivial
  · exact ⟨_, rfl⟩
  · exact ⟨_, rfl⟩

theorem run_crossingOps : ∃ s, Run StoreOp.Step ImprovementStore.empty crossingOps s ∧
    ((s.generations.get (newGenerationId "1")).any fun p => decide (p.systemId = Text.ofAscii "a")) = true ∧
    ((s.generations.get (newGenerationId "2")).any fun g =>
      decide (g.systemId = Text.ofAscii "b" ∧ g.tenantId = Text.ofAscii "t" ∧ g.parentGenerationId = some (newGenerationId "1"))) = true := by
  have hreplay : (replay (fun s op => (StoreOp.run s op).toOption) ImprovementStore.empty crossingOps).any (fun s =>
      ((s.generations.get (newGenerationId "1")).any fun p => decide (p.systemId = Text.ofAscii "a")) &&
      ((s.generations.get (newGenerationId "2")).any fun g =>
        decide (g.systemId = Text.ofAscii "b" ∧ g.tenantId = Text.ofAscii "t" ∧ g.parentGenerationId = some (newGenerationId "1")))) = true := by
    decide +kernel
  obtain ⟨s, hrun, htest⟩ := run_of_test hreplay
  obtain ⟨hparent, hchild⟩ := Bool.and_eq_true_iff.1 htest
  refine ⟨s, hrun.mono fun s op t hstep => ?_, hparent, hchild⟩
  unfold StoreOp.Step
  cases hop : StoreOp.run s op with
  | error e =>
    rw [hop] at hstep
    cases hstep
  | ok t' =>
    rw [hop] at hstep
    cases hstep
    rfl

/-- The lineage of a generation with a parent. -/
theorem lineage_of_run_crossing : ∃ s g l, Run StoreOp.Step ImprovementStore.empty crossingOps s ∧
    g.parentGenerationId = some (newGenerationId "1") ∧ s.getLineage "t" (newGenerationId "2") = .ok l ∧
    ExactLineage s g l := by
  obtain ⟨s, hrun, -, hchild⟩ := run_crossingOps
  obtain ⟨g, hg, htest⟩ := (Option.any_eq_true ..).1 hchild
  obtain ⟨-, htenant, hparent⟩ := of_decide_eq_true htest
  obtain ⟨l, hl, hexact⟩ := (lineage_of_run hrun minted_crossingOps).2 "t" _ g (getGeneration_ok.2 ⟨hg, htenant⟩)
  exact ⟨s, g, l, hrun, hparent, hl, hexact⟩

/-- A parent may be of another system. -/
theorem not_same_system_of_run : ∃ ops s g p, Run StoreOp.Step ImprovementStore.empty ops s ∧ (∀ op ∈ ops, op.minted) ∧
    s.generations.get g.generationId = some g ∧ s.generations.get p.generationId = some p ∧
    g.parentGenerationId = some p.generationId ∧ g.systemId ≠ p.systemId := by
  obtain ⟨s, hrun, hparent, hchild⟩ := run_crossingOps
  obtain ⟨p, hp, hsystem⟩ := (Option.any_eq_true ..).1 hparent
  obtain ⟨g, hg, htest⟩ := (Option.any_eq_true ..).1 hchild
  obtain ⟨hsystem', -, hlink⟩ := of_decide_eq_true htest
  refine ⟨crossingOps, s, g, p, hrun, minted_crossingOps, ?_, ?_, ?_, ?_⟩
  · rw [Keyed.key_of_get hg]
    exact hg
  · rw [Keyed.key_of_get hp]
    exact hp
  · rw [Keyed.key_of_get hp]
    exact hlink
  · rw [of_decide_eq_true hsystem, hsystem']
    decide

end Tna.Improvement
