import Tna.Improvement.Performed

/-!
# Half-done requests

A handler makes several statements, each committed on its own. Once the first of those
that change a generation's status, a canary run or a rollback has been made, nothing takes
it back, so a request that throws has left everything as it was exactly when whatever it
begins it also finishes.
-/

namespace Tna.Improvement

open Tna.Lib Tna.Js

/-! ## What is watched -/

def ImprovementStore.statusOf (s : ImprovementStore) (generationId : Text) : Option GenerationState :=
  (s.generations.get generationId).map fun g => g.status

/-- The status of each generation, the canary runs and the rollbacks. -/
structure Effects where
  statuses : Text → Option GenerationState
  canaryRuns : Text → Option CanaryRun
  rollbacks : Text → Option RollbackRecord

def ImprovementStore.effects (s : ImprovementStore) : Effects := ⟨s.statusOf, s.canaryRuns.get, s.rollbacks.get⟩

def Governor.effects (x : Governor) : Effects := x.store.effects

/-- How far a generation has come; every transition takes it further. -/
def GenerationState.rank : GenerationState → Nat
  | .proposed => 0
  | .authorized => 1
  | .building => 2
  | .built => 3
  | .evaluating => 4
  | .evaluated => 5
  | .awaitingApproval => 6
  | .canary => 7
  | .promoted => 8
  | .rolledBack => 9
  | .rejected => 9
  | .failed => 9
  | .indeterminate => 9

theorem rank_lt_of_canTransition {source target : GenerationState} (h : canTransition source target = true) :
    source.rank < target.rank := by
  cases source <;> simp only [canTransition, generationTransitions, List.mem_cons, List.not_mem_nil, or_false,
    decide_eq_true_eq, decide_false, Bool.false_eq_true] at h
  all_goals rcases h with rfl | rfl | rfl | rfl <;> decide

/-- What no operation takes back: generations come no less far, and canary runs and rollbacks stay. -/
structure Grown (s t : ImprovementStore) : Prop where
  generations : ∀ id g, s.generations.get id = some g → ∃ g', t.generations.get id = some g' ∧ g.status.rank ≤ g'.status.rank
  canaryRuns : ∀ id, s.canaryRuns.get id ≠ none → t.canaryRuns.get id ≠ none
  rollbacks : ∀ id, s.rollbacks.get id ≠ none → t.rollbacks.get id ≠ none

section
variable {s t u : ImprovementStore} {op : StoreOp}

theorem Grown.refl (s : ImprovementStore) : Grown s s :=
  ⟨fun _ g h => ⟨g, h, le_rfl⟩, fun _ h => h, fun _ h => h⟩

theorem Grown.trans (h : Grown s t) (hrest : Grown t u) : Grown s u := by
  refine ⟨fun id g hg => ?_, fun id hid => hrest.canaryRuns id (h.canaryRuns id hid),
    fun id hid => hrest.rollbacks id (h.rollbacks id hid)⟩
  obtain ⟨g', hg', hle⟩ := h.generations id g hg
  obtain ⟨g'', hg'', hle'⟩ := hrest.generations id g' hg'
  exact ⟨g'', hg'', hle.trans hle'⟩

theorem put_ne_none {K V : Type} [DecidableEq K] {key : V → K} {t : Keyed key} {v : V} {k : K} (h : t.get k ≠ none) :
    (t.put v).get k ≠ none := by
  rw [Keyed.get_put]
  split
  · exact Option.some_ne_none _
  · exact h

/-- A generation that has moved on is where it was, or further. -/
theorem grown_of_moved {g : ImprovementGeneration} {target : GenerationState} {hash : Option Text}
    (hget : s.generations.get g.generationId = some g) (hcan : canTransition g.status target = true)
    (hgenerations : t.generations = s.generations.put (g.moved target hash)) (hcanaryRuns : t.canaryRuns = s.canaryRuns)
    (hrollbacks : t.rollbacks = s.rollbacks) : Grown s t := by
  refine ⟨fun id row hrow => ?_, fun id hid => hcanaryRuns ▸ hid, fun id hid => hrollbacks ▸ hid⟩
  rw [hgenerations]
  by_cases hid : id = g.generationId
  · subst hid
    cases hget.symm.trans hrow
    exact ⟨_, Keyed.get_put_self, (rank_lt_of_canTransition hcan).le⟩
  · have hne : id ≠ (g.moved target hash).generationId := hid
    exact ⟨row, (Keyed.get_put_of_ne hne).trans hrow, le_rfl⟩

theorem grown_of_step (h : StoreOp.Step s op t) : Grown s t := by
  cases move_of_run h with
  | elsewhere _ hgenerations hcanaryRuns hrollbacks =>
    refine ⟨fun id g hg => ⟨g, ?_, le_rfl⟩, fun id hid => hcanaryRuns ▸ hid, fun id hid => hrollbacks ▸ hid⟩
    rw [hgenerations]
    exact hg
  | opens => exact ⟨fun _ g hg => ⟨g, hg, le_rfl⟩, fun _ h => h, fun _ h => h⟩
  | @stores _ _ g hnew =>
    refine ⟨fun id row hrow => ⟨row, ?_, le_rfl⟩, fun _ h => h, fun _ h => h⟩
    have hne : id ≠ g.generationId := by
      rintro rfl
      rw [hnew] at hrow
      cases hrow
    exact (Keyed.get_put_of_ne hne).trans hrow
  | moves hget hcan => exact grown_of_moved hget hcan rfl rfl rfl
  | promotes hget hcan => exact grown_of_moved hget hcan rfl rfl rfl
  | starts => exact ⟨fun _ g hg => ⟨g, hg, le_rfl⟩, fun _ h => put_ne_none h, fun _ h => h⟩
  | observes => exact ⟨fun _ g hg => ⟨g, hg, le_rfl⟩, fun _ h => put_ne_none h, fun _ h => h⟩
  | initiates => exact ⟨fun _ g hg => ⟨g, hg, le_rfl⟩, fun _ h => h, fun _ h => put_ne_none h⟩
  | completes => exact ⟨fun _ g hg => ⟨g, hg, le_rfl⟩, fun _ h => h, fun _ h => put_ne_none h⟩

/-- However a handler ends, nothing was taken back. -/
theorem grown_after {α : Type} {A : StoreOp → Prop} {m : Handler α} (h : Uses A m) (x : Governor) :
    Grown x.store (after m x).store :=
  h.keeps (fun _ _ _ hstep _ hs => hs.trans (grown_of_step hstep)) (Grown.refl _)

end

/-! ## The parts of a handler -/

section
variable {α β : Type} {x y : Governor} {v : Effects} {f : α → Handler β}

variable {a : α} {g : ImprovementStore → Except ImprovementThrown α} {eventType generationId tenantId newId : Text}
  {takes commits condition : Bool} {operation : ImprovementStore → ImprovementStore.Result α} {e : ImprovementThrown}
  {found : Option α} {m : Handler α} {b : β} {A : StoreOp → Prop} {t : Governor} {hash : Option Text} {target : GenerationState}

theorem reads_eq_ok : reads g x = .ok a y ↔ g x.store = .ok a ∧ y = x := by
  unfold reads
  cases g x.store with
  | error e => simp
  | ok b =>
    constructor
    · intro h
      cases h
      exact ⟨rfl, rfl⟩
    · rintro ⟨h, rfl⟩
      cases h
      rfl

theorem append_eq_ok {u : Unit} :
    appendImprovementEvent takes eventType generationId x = .ok u y ↔
      takes = true ∧ y = { x with ledger := x.ledger ++ [(eventType, generationId)] } := by
  unfold appendImprovementEvent
  cases takes with
  | false => simp
  | true =>
    constructor
    · intro h
      cases h
      exact ⟨rfl, rfl⟩
    · rintro ⟨-, rfl⟩
      rfl

theorem write_eq_ok :
    write commits operation x = .ok a y ↔
      commits = true ∧ ∃ store, operation x.store = .ok (a, store) ∧ y = { x with store } := by
  unfold write
  cases commits with
  | false => simp
  | true =>
    cases operation x.store with
    | error e => simp
    | ok r =>
      constructor
      · intro h
        cases h
        exact ⟨rfl, _, rfl, rfl⟩
      · rintro ⟨-, store, h, rfl⟩
        cases h
        rfl

theorem eq_of_reads_error (h : reads g x = .error e y) : y = x := by
  unfold reads at h
  split at h
  · cases h
  · cases h
    rfl

theorem eq_of_append_error (h : appendImprovementEvent takes eventType generationId x = .error e y) : y = x := by
  unfold appendImprovementEvent at h
  split at h
  · cases h
  · cases h
    rfl

theorem eq_of_write_error (h : write commits operation x = .error e y) : y = x := by
  unfold write at h
  split at h
  · split at h
    · cases h
    · cases h
      rfl
  · cases h
    rfl

theorem eq_of_demandSome_error {e' : ImprovementThrown} (h : (demandSome found e : Handler α) x = .error e' y) : y = x := by
  unfold demandSome at h
  split at h
  · cases h
  · cases h
    rfl

/-! ### What is known once a part has answered -/

theorem leaves_of_eq (h : ∀ e y, m x = .error e y → y = x) (hx : x.effects = v) : Leaves Governor.effects v m x := by
  intro e y herror
  rw [h e y herror]
  exact hx

theorem leaves_reads (hx : x.effects = v) :
    Leaves Governor.effects v (reads g >>= f) x ↔ ∀ a, g x.store = .ok a → Leaves Governor.effects v (f a) x := by
  rw [leaves_bind]
  constructor
  · exact fun h a ha => h.2 a x (reads_eq_ok.2 ⟨ha, rfl⟩)
  · refine fun h => ⟨leaves_of_eq (fun _ _ => eq_of_reads_error) hx, fun a y hok => ?_⟩
    obtain ⟨ha, rfl⟩ := reads_eq_ok.1 hok
    exact h a ha

theorem leaves_append {f : Unit → Handler β} (hx : x.effects = v) :
    Leaves Governor.effects v (appendImprovementEvent takes eventType generationId >>= f) x ↔
      (takes = true → Leaves Governor.effects v (f ()) { x with ledger := x.ledger ++ [(eventType, generationId)] }) := by
  rw [leaves_bind]
  constructor
  · exact fun h htakes => h.2 () _ (append_eq_ok.2 ⟨htakes, rfl⟩)
  · refine fun h => ⟨leaves_of_eq (fun _ _ => eq_of_append_error) hx, fun a y hok => ?_⟩
    obtain ⟨htakes, rfl⟩ := append_eq_ok.1 hok
    exact h htakes

theorem leaves_write (hx : x.effects = v) :
    Leaves Governor.effects v (write commits operation >>= f) x ↔
      (commits = true → ∀ a store, operation x.store = .ok (a, store) →
        Leaves Governor.effects v (f a) { x with store }) := by
  rw [leaves_bind]
  constructor
  · exact fun h hcommits a store hop => h.2 a _ (write_eq_ok.2 ⟨hcommits, store, hop, rfl⟩)
  · refine fun h => ⟨leaves_of_eq (fun _ _ => eq_of_write_error) hx, fun a y hok => ?_⟩
    obtain ⟨hcommits, store, hop, rfl⟩ := write_eq_ok.1 hok
    exact h hcommits a store hop

theorem leaves_demandSome (hx : x.effects = v) :
    Leaves Governor.effects v (demandSome found e >>= f) x ↔ ∀ a, found = some a → Leaves Governor.effects v (f a) x := by
  rw [leaves_bind]
  constructor
  · exact fun h a ha => h.2 a x (demandSome_eq_ok.2 ⟨ha, rfl⟩)
  · refine fun h => ⟨leaves_of_eq (fun _ _ => eq_of_demandSome_error) hx, fun a y hok => ?_⟩
    obtain ⟨ha, rfl⟩ := demandSome_eq_ok.1 hok
    exact h a ha

theorem leaves_get {f : Governor → Handler β} :
    Leaves Governor.effects v (get >>= f) x ↔ Leaves Governor.effects v (f x) x := Iff.rfl

theorem ok_reads : (reads g >>= f) x = .ok b y ↔ ∃ a, g x.store = .ok a ∧ f a x = .ok b y := by
  simp only [bind_eq_ok, reads_eq_ok]
  constructor
  · rintro ⟨a, _, ⟨ha, rfl⟩, h⟩
    exact ⟨a, ha, h⟩
  · rintro ⟨a, ha, h⟩
    exact ⟨a, x, ⟨ha, rfl⟩, h⟩

theorem ok_append {f : Unit → Handler β} :
    (appendImprovementEvent takes eventType generationId >>= f) x = .ok b y ↔
      takes = true ∧ f () { x with ledger := x.ledger ++ [(eventType, generationId)] } = .ok b y := by
  simp only [bind_eq_ok, append_eq_ok]
  constructor
  · rintro ⟨_, _, ⟨htakes, rfl⟩, h⟩
    exact ⟨htakes, h⟩
  · rintro ⟨htakes, h⟩
    exact ⟨(), _, ⟨htakes, rfl⟩, h⟩

theorem ok_write :
    (write commits operation >>= f) x = .ok b y ↔
      commits = true ∧ ∃ a store, operation x.store = .ok (a, store) ∧ f a { x with store } = .ok b y := by
  simp only [bind_eq_ok, write_eq_ok]
  constructor
  · rintro ⟨a, _, ⟨hcommits, store, hop, rfl⟩, h⟩
    exact ⟨hcommits, a, store, hop, h⟩
  · rintro ⟨hcommits, a, store, hop, h⟩
    exact ⟨a, _, ⟨hcommits, store, hop, rfl⟩, h⟩

theorem ok_demandSome : (demandSome found e >>= f) x = .ok b y ↔ ∃ a, found = some a ∧ f a x = .ok b y := by
  simp only [bind_eq_ok, demandSome_eq_ok]
  constructor
  · rintro ⟨a, _, ⟨ha, rfl⟩, h⟩
    exact ⟨a, ha, h⟩
  · rintro ⟨a, ha, h⟩
    exact ⟨a, x, ⟨ha, rfl⟩, h⟩

theorem ok_demand {f : Unit → Handler β} : (demand condition e >>= f) x = .ok b y ↔ condition = true ∧ f () x = .ok b y := by
  simp only [bind_eq_ok, demand_eq_ok]
  constructor
  · rintro ⟨_, _, ⟨hcondition, rfl⟩, h⟩
    exact ⟨hcondition, h⟩
  · rintro ⟨hcondition, h⟩
    exact ⟨(), x, ⟨hcondition, rfl⟩, h⟩

theorem ok_get {f : Governor → Handler β} : (get >>= f) x = .ok b y ↔ f x x = .ok b y := Iff.rfl

theorem answers_reads : Answers (reads g >>= f) x ↔ ∃ a, g x.store = .ok a ∧ Answers (f a) x := by
  simp only [Answers, ok_reads]
  constructor
  · rintro ⟨b, y, a, ha, h⟩
    exact ⟨a, ha, b, y, h⟩
  · rintro ⟨a, ha, b, y, h⟩
    exact ⟨b, y, a, ha, h⟩

theorem answers_append {f : Unit → Handler β} :
    Answers (appendImprovementEvent takes eventType generationId >>= f) x ↔
      takes = true ∧ Answers (f ()) { x with ledger := x.ledger ++ [(eventType, generationId)] } := by
  simp only [Answers, ok_append, exists_and_left]

theorem answers_write :
    Answers (write commits operation >>= f) x ↔
      commits = true ∧ ∃ a store, operation x.store = .ok (a, store) ∧ Answers (f a) { x with store } := by
  simp only [Answers, ok_write, exists_and_left]
  refine and_congr_right fun _ => ⟨?_, ?_⟩
  · rintro ⟨b, y, a, store, hop, h⟩
    exact ⟨a, store, hop, b, y, h⟩
  · rintro ⟨a, store, hop, b, y, h⟩
    exact ⟨b, y, a, store, hop, h⟩

theorem answers_demandSome : Answers (demandSome found e >>= f) x ↔ ∃ a, found = some a ∧ Answers (f a) x := by
  simp only [Answers, ok_demandSome]
  constructor
  · rintro ⟨b, y, a, ha, h⟩
    exact ⟨a, ha, b, y, h⟩
  · rintro ⟨a, ha, b, y, h⟩
    exact ⟨b, y, a, ha, h⟩

theorem answers_demand {f : Unit → Handler β} : Answers (demand condition e >>= f) x ↔ condition = true ∧ Answers (f ()) x := by
  simp only [Answers, ok_demand, exists_and_left]

theorem answers_get {f : Governor → Handler β} : Answers (get >>= f) x ↔ Answers (f x) x := Iff.rfl

theorem answers_return (a : α) : Answers (pure a : Handler α) x ↔ True := iff_true_intro (answers_pure a)

/-! ### Where a handler ends -/

section
variable {Q : β → Governor → Prop} {E : Governor → Prop}

theorem ends_reads {g : ImprovementStore → Except ImprovementThrown α} (hx : E x)
    (h : ∀ a, g x.store = .ok a → Ends (f a) x Q E) : Ends (reads g >>= f) x Q E := by
  refine ends_bind.2 (ends_iff.2 ⟨fun a t hok => ?_, fun e t herror => ?_⟩)
  · obtain ⟨ha, rfl⟩ := reads_eq_ok.1 hok
    exact h a ha
  · rw [eq_of_reads_error herror]
    exact hx

theorem ends_append {takes : Bool} {eventType generationId : Text} {f : Unit → Handler β} (hx : E x)
    (h : takes = true → Ends (f ()) { x with ledger := x.ledger ++ [(eventType, generationId)] } Q E) :
    Ends (appendImprovementEvent takes eventType generationId >>= f) x Q E := by
  refine ends_bind.2 (ends_iff.2 ⟨fun a t hok => ?_, fun e t herror => ?_⟩)
  · obtain ⟨htakes, rfl⟩ := append_eq_ok.1 hok
    exact h htakes
  · rw [eq_of_append_error herror]
    exact hx

theorem ends_write {commits : Bool} {operation : ImprovementStore → ImprovementStore.Result α} (hx : E x)
    (h : commits = true → ∀ a store, operation x.store = .ok (a, store) → Ends (f a) { x with store } Q E) :
    Ends (write commits operation >>= f) x Q E := by
  refine ends_bind.2 (ends_iff.2 ⟨fun a t hok => ?_, fun e t herror => ?_⟩)
  · obtain ⟨hcommits, store, hop, rfl⟩ := write_eq_ok.1 hok
    exact h hcommits a store hop
  · rw [eq_of_write_error herror]
    exact hx

theorem ends_demandSome {found : Option α} {e : ImprovementThrown} (hx : E x) (h : ∀ a, found = some a → Ends (f a) x Q E) :
    Ends (demandSome found e >>= f) x Q E := by
  refine ends_bind.2 (ends_iff.2 ⟨fun a t hok => ?_, fun e' t herror => ?_⟩)
  · obtain ⟨ha, rfl⟩ := demandSome_eq_ok.1 hok
    exact h a ha
  · rw [eq_of_demandSome_error herror]
    exact hx

end

/-! ### Transitions -/

section
variable {tenantId generationId : Text} {gen : ImprovementGeneration} {target : GenerationState} {hash : Option Text}
  {commits : Bool} {f : ImprovementGeneration → Handler β}

/-- A governor whose generation has moved. -/
def Governor.moving (x : Governor) (gen : ImprovementGeneration) (target : GenerationState) (hash : Option Text) : Governor :=
  { x with store := { x.store with generations := x.store.generations.put (gen.moved target hash) } }

theorem getGeneration_moving (hgen : x.store.getGeneration tenantId generationId = .ok gen) :
    (x.moving gen target hash).store.getGeneration tenantId generationId = .ok (gen.moved target hash) := by
  obtain ⟨hget, htenant⟩ := getGeneration_ok.1 hgen
  cases Keyed.key_of_get hget
  exact getGeneration_ok.2 ⟨Keyed.get_put_self, htenant⟩

/-- A transition of a generation that was just read is made when it is allowed. -/
theorem transition_of_read (hgen : x.store.getGeneration tenantId generationId = .ok gen) (htarget : target ≠ .promoted)
    {moved : ImprovementGeneration} {t : ImprovementStore} :
    x.store.transitionGeneration tenantId generationId gen.stateVersion target hash = .ok (moved, t) ↔
      canTransition gen.status target = true ∧ moved = gen.moved target hash ∧ t = (x.moving gen target hash).store := by
  simp only [transitionGeneration_ok, if_neg htarget, hgen, Except.ok.injEq]
  constructor
  · rintro ⟨_, rfl, -, hcan, rfl, rfl⟩
    exact ⟨hcan, rfl, rfl⟩
  · rintro ⟨hcan, rfl, rfl⟩
    exact ⟨gen, rfl, rfl, hcan, rfl, rfl⟩

theorem leaves_transition (hgen : x.store.getGeneration tenantId generationId = .ok gen) (htarget : target ≠ .promoted)
    (hx : x.effects = v) :
    Leaves Governor.effects v
        (write commits (fun s => s.transitionGeneration tenantId generationId gen.stateVersion target hash) >>= f) x ↔
      (commits = true → canTransition gen.status target = true →
        Leaves Governor.effects v (f (gen.moved target hash)) (x.moving gen target hash)) := by
  rw [leaves_write hx]
  constructor
  · exact fun h hcommits hcan => h hcommits _ _ ((transition_of_read hgen htarget).2 ⟨hcan, rfl, rfl⟩)
  · intro h hcommits moved t hmoved
    obtain ⟨hcan, rfl, rfl⟩ := (transition_of_read hgen htarget).1 hmoved
    exact h hcommits hcan

theorem answers_transition (hgen : x.store.getGeneration tenantId generationId = .ok gen) (htarget : target ≠ .promoted) :
    Answers (write commits (fun s => s.transitionGeneration tenantId generationId gen.stateVersion target hash) >>= f) x ↔
      commits = true ∧ canTransition gen.status target = true ∧
        Answers (f (gen.moved target hash)) (x.moving gen target hash) := by
  rw [answers_write]
  refine and_congr_right fun _ => ⟨?_, ?_⟩
  · rintro ⟨moved, t, hmoved, h⟩
    obtain ⟨hcan, rfl, rfl⟩ := (transition_of_read hgen htarget).1 hmoved
    exact ⟨hcan, h⟩
  · rintro ⟨hcan, h⟩
    exact ⟨_, _, (transition_of_read hgen htarget).2 ⟨hcan, rfl, rfl⟩, h⟩

end

/-! ## Beginnings and ends -/

/-- A handler in a state from which nothing leads back leaves what is watched as it was only if it answers. -/
theorem leaves_iff_answers (huses : Uses A m) (hgone : ∀ t : Governor, Grown x.store t.store → t.effects ≠ v) :
    Leaves Governor.effects v m x ↔ Answers m x := by
  have hgrown := grown_after huses x
  unfold after at hgrown
  unfold Leaves Answers
  cases hm : m x with
  | ok a t =>
    rw [hm] at hgrown
    exact ⟨fun _ => ⟨a, t, rfl⟩, fun _ e u h => nomatch h⟩
  | error e t =>
    rw [hm] at hgrown
    constructor
    · exact fun h => absurd (h e t rfl) (hgone t hgrown)
    · rintro ⟨a, u, h⟩
      cases h

/-- A generation that came further than it was is not where it was. -/
theorem effects_ne_of_further {g row : ImprovementGeneration} (hg : x.store.generations.get generationId = some g)
    (hrow : t.store.generations.get generationId = some row) (hlt : g.status.rank < row.status.rank) :
    t.effects ≠ x.effects := by
  intro heq
  have hstatus := congrFun (congrArg Effects.statuses heq) generationId
  simp only [Governor.effects, ImprovementStore.effects, ImprovementStore.statusOf, hg, hrow, Option.map_some, Option.some.injEq] at hstatus
  rw [hstatus] at hlt
  exact lt_irrefl _ hlt

/-- From a state where a generation has moved on nothing leads back. -/
theorem gone_of_moved {g : ImprovementGeneration} (hg : x.store.getGeneration tenantId generationId = .ok g)
    (hcan : canTransition g.status target = true) (hy : y.store.generations = x.store.generations.put (g.moved target hash))
    (h : Grown y.store t.store) : t.effects ≠ x.effects := by
  obtain ⟨hget, -⟩ := getGeneration_ok.1 hg
  cases Keyed.key_of_get hget
  have hmoved : y.store.generations.get g.generationId = some (g.moved target hash) := by
    rw [hy]
    exact Keyed.get_put_self
  obtain ⟨row, hrow, hle⟩ := h.generations _ _ hmoved
  exact effects_ne_of_further hget hrow ((rank_lt_of_canTransition hcan).trans_le hle)

/-- **A handler that begins with a transition** leaves what is watched as it was only if, once the transition is made, it
answers. -/
theorem leaves_transition_iff {gen : ImprovementGeneration} {f : ImprovementGeneration → Handler β}
    (hgen : x.store.getGeneration tenantId generationId = .ok gen) (htarget : target ≠ .promoted) (hx : x.effects = v)
    (huses : ∀ moved, Uses A (f moved)) :
    Leaves Governor.effects v
        (write commits (fun s => s.transitionGeneration tenantId generationId gen.stateVersion target hash) >>= f) x ↔
      (commits = true → canTransition gen.status target = true →
        Answers (f (gen.moved target hash)) (x.moving gen target hash)) := by
  rw [leaves_transition hgen htarget hx]
  refine forall₂_congr fun _ hcan => leaves_iff_answers (huses _) fun t ht => ?_
  rw [← hx]
  exact gone_of_moved hgen hcan rfl ht

/-- A handler that begins with a canary run leaves what is watched as it was only if, once the run is stored, it answers. -/
theorem leaves_startCanaryRun_iff {policyHash : Text} {f : CanaryRun → Handler β} (hx : x.effects = v)
    (huses : ∀ run, Uses A (f run)) :
    Leaves Governor.effects v (write commits (fun s => s.startCanaryRun tenantId generationId policyHash newId) >>= f) x ↔
      (commits = true → x.store.canaryRuns.get newId = none →
        ∀ run, run = ⟨newId, generationId, tenantId, policyHash, .running, 0, 0, 0, 0, 0⟩ →
        Answers (f run) { x with store := { x.store with canaryRuns := x.store.canaryRuns.put run } }) := by
  rw [leaves_write hx]
  refine forall_congr' fun _ => ?_
  have hgone : ∀ run : CanaryRun, x.store.canaryRuns.get run.canaryId = none → ∀ t : Governor,
      Grown { x.store with canaryRuns := x.store.canaryRuns.put run } t.store → t.effects ≠ v := by
    intro run hnew t hgrown heq
    have hsome := hgrown.canaryRuns run.canaryId (by simp)
    have hsame := congrFun (congrArg Effects.canaryRuns (heq.trans hx.symm)) run.canaryId
    exact hsome (hsame.trans hnew)
  constructor
  · rintro h hnew run rfl
    exact (leaves_iff_answers (huses _) (hgone _ hnew)).1 (h _ _ (startCanaryRun_ok.2 ⟨hnew, rfl, rfl⟩))
  · intro h run t hrun
    obtain ⟨hnew, rfl, rfl⟩ := startCanaryRun_ok.1 hrun
    exact (leaves_iff_answers (huses _) (hgone _ hnew)).2 (h hnew _ rfl)

/-- The same of a handler that begins with the record of a rollback. -/
theorem leaves_initiateRollback_iff {targetId trigger initiatedBy : Text} {f : RollbackRecord → Handler β} (hx : x.effects = v)
    (huses : ∀ record, Uses A (f record)) :
    Leaves Governor.effects v
        (write commits (fun s => s.initiateRollback tenantId generationId targetId trigger initiatedBy newId) >>= f) x ↔
      (commits = true → (∃ g, x.store.getGeneration tenantId generationId = .ok g) →
        (∃ g, x.store.getGeneration tenantId targetId = .ok g) → x.store.rollbacks.get newId = none →
        ∀ record, record = ⟨newId, generationId, tenantId, targetId, trigger, .indeterminate, none, initiatedBy⟩ →
        Answers (f record) { x with store := { x.store with rollbacks := x.store.rollbacks.put record } }) := by
  rw [leaves_write hx]
  refine forall_congr' fun _ => ?_
  have hgone : ∀ record : RollbackRecord, x.store.rollbacks.get record.rollbackId = none → ∀ t : Governor,
      Grown { x.store with rollbacks := x.store.rollbacks.put record } t.store → t.effects ≠ v := by
    intro record hnew t hgrown heq
    have hsome := hgrown.rollbacks record.rollbackId (by simp)
    have hsame := congrFun (congrArg Effects.rollbacks (heq.trans hx.symm)) record.rollbackId
    exact hsome (hsame.trans hnew)
  constructor
  · rintro h hgen htarget hnew record rfl
    exact (leaves_iff_answers (huses _) (hgone _ hnew)).1 (h _ _ (initiateRollback_ok.2 ⟨hgen, htarget, hnew, rfl, rfl⟩))
  · intro h record t hrecord
    obtain ⟨hgen, htarget, hnew, rfl, rfl⟩ := initiateRollback_ok.1 hrecord
    exact (leaves_iff_answers (huses _) (hgone _ hnew)).2 (h hgen htarget hnew _ rfl)

end

end Tna.Improvement
