import Tna.Improvement.Create

/-!
# The recursion budget

A create checks the budget it read, stores its generation, and counts it afterwards. What
the budget says and what is stored agree as long as no two creates of a system stand
between these steps at once.
-/

namespace Tna.Improvement

open Tna.Lib Tna.Js

/-- How many generations of the system are stored. -/
def ImprovementStore.stored (s : ImprovementStore) (systemId : Text) : Nat :=
  (s.generations.rows.filter fun g => decide (g.systemId = systemId)).length

/-- How many the budget has counted. -/
def ImprovementStore.counted (s : ImprovementStore) (systemId : Text) : Nat :=
  ((s.budgets.get systemId).map RecursionBudget.generationCount).getD 0

/-- The create has stored a generation of the system that is not counted yet. -/
def CreatePc.awaitsCount (systemId : Text) : CreatePc → Bool
  | .inserted systemId' _ _ _ => decide (systemId' = systemId)
  | _ => false

def CreateSystem.awaitsCount (x : CreateSystem) (systemId : Text) : Bool :=
  x.creates.any fun c => c.2.awaitsCount systemId

/-- What a system's budget is for. -/
structure Accounted (systemId : Text) (x : CreateSystem) : Prop where
  within : ∀ b, x.store.budgets.get systemId = some b → (x.store.stored systemId : ℚ) ≤ b.limits.maxGenerations
  counted : x.awaitsCount systemId = false → x.store.counted systemId = x.store.stored systemId
  clean : ∀ i r e g, x.creates.lookup i = some (r, .threw e (some g)) → e.refusal = true →
    ∀ row, x.store.generations.get g = some row → row.systemId ≠ systemId

/-- No step is disturbed. A budget is opened with a whole number of generations; a generation is stored while no other
awaits its count and the budget is as the create read it; and the database counts it when it is told to. -/
def CreateSystem.undisturbed (digest : ImprovementSpecInput → Text → Text) (systemId : Text) (x : CreateSystem) :
    CreateLabel → Bool
  | .begins _ _ => true
  | .goesOn i a =>
    match x.creates.lookup i with
    | some (r, .unbudgeted systemId') =>
      decide (systemId' ≠ systemId) || decide (r.body.limits.maxGenerations.den = 1 ∧ 0 ≤ r.body.limits.maxGenerations.num)
    | some (r, .budgeted systemId' budget) =>
      !(storeGeneration digest x.store r systemId' budget a).2.awaitsCount systemId ||
        !x.awaitsCount systemId && (x.store.budgets.get systemId).all fun b => decide (b.stateVersion = budget.stateVersion)
    | some (_, .inserted systemId' _ _ _) => decide (systemId' ≠ systemId) || a.commits
    | _ => true

/-! ## The books of a system -/

section
variable {systemId : Text} {x : CreateSystem} {t : ImprovementStore} {i : Nat} {r : CreateRequest} {pc pc' : CreatePc}
  {a : CreateAnswer}

/-- Nobody awaits a count of the system, except perhaps one create. -/
def NoneAwaits (systemId : Text) (x : CreateSystem) (except : Nat → Prop) : Prop :=
  ∀ j r pc, x.creates.lookup j = some (r, pc) → ¬ except j → pc.awaitsCount systemId = false

/-- The system has a budget, under a limit that is a whole number, and a create that read it at its version read it as it
is. -/
structure Opened (systemId : Text) (x : CreateSystem) (b : RecursionBudget) : Prop where
  row : x.store.budgets.get systemId = some b
  limit : ∃ n : ℕ, b.limits.maxGenerations = n ∧ x.store.stored systemId ≤ n
  known : ∀ j r b', x.creates.lookup j = some (r, .budgeted systemId b') →
    b'.stateVersion ≤ b.stateVersion ∧ (b'.stateVersion = b.stateVersion → b' = b ∧ b.tenantId = r.tenantId)

/-- Where the books of a system stand: not opened, settled, or one generation short. -/
inductive Books (systemId : Text) (x : CreateSystem) : Prop where
  | unopened (hnone : x.store.budgets.get systemId = none) (hstored : x.store.stored systemId = 0)
      (hawaits : NoneAwaits systemId x fun _ => False)
      (hreads : ∀ j r b, x.creates.lookup j ≠ some (r, .budgeted systemId b))
  | settled (b : RecursionBudget) (hopened : Opened systemId x b) (hstored : x.store.stored systemId = b.generationCount)
      (hawaits : NoneAwaits systemId x fun _ => False)
  | short (b : RecursionBudget) (i : Nat) (r : CreateRequest) (g : Text) (spec : ImprovementSpec)
      (hopened : Opened systemId x b) (hstored : x.store.stored systemId = b.generationCount + 1)
      (hi : x.creates.lookup i = some (r, .inserted systemId g b.stateVersion spec)) (htenant : b.tenantId = r.tenantId)
      (hawaits : NoneAwaits systemId x (· = i))

/-- One create went on. -/
def CreateSystem.moved (x : CreateSystem) (t : ImprovementStore) (i : Nat) (r : CreateRequest) (pc : CreatePc) : CreateSystem :=
  ⟨t, x.creates.insert i (r, pc)⟩

theorem NoneAwaits.moved {except : Nat → Prop} (h : NoneAwaits systemId x except) (hnew : pc'.awaitsCount systemId = false) :
    NoneAwaits systemId (x.moved t i r pc') except := by
  intro j r' pc'' hj hexcept
  rcases Table.lookup_insert_cases hj with ⟨rfl, heq⟩ | ⟨-, hj⟩
  · cases heq
    exact hnew
  · exact h j r' pc'' hj hexcept

variable {b budget : RecursionBudget} {g : ImprovementGeneration} {spec : ImprovementSpec}

theorem Opened.moved (h : Opened systemId x b) (hbudget : t.budgets.get systemId = x.store.budgets.get systemId)
    (hstored : t.stored systemId = x.store.stored systemId)
    (hread : ∀ b', pc' = .budgeted systemId b' → x.store.getRecursionBudget r.tenantId systemId = .ok b') :
    Opened systemId (x.moved t i r pc') b := by
  refine ⟨hbudget.trans h.row, ?_, ?_⟩
  · obtain ⟨n, hn, hle⟩ := h.limit
    exact ⟨n, hn, hstored.trans_le hle⟩
  · intro j r' b' hj
    rcases Table.lookup_insert_cases hj with ⟨rfl, heq⟩ | ⟨-, hj⟩
    · obtain ⟨rfl, hpc⟩ := Prod.mk.inj heq
      obtain ⟨hrow, htenant⟩ := getRecursionBudget_ok (hread b' hpc.symm)
      cases h.row.symm.trans hrow
      exact ⟨le_rfl, fun _ => ⟨rfl, htenant⟩⟩
    · exact h.known j r' b' hj

/-- **The books are left alone** by a statement that stores and counts nothing of the system. -/
theorem Books.moved (h : Books systemId x) (hi : ∀ r pc, x.creates.lookup i = some (r, pc) → pc.awaitsCount systemId = false)
    (hbudget : t.budgets.get systemId = x.store.budgets.get systemId) (hstored : t.stored systemId = x.store.stored systemId)
    (hnew : pc'.awaitsCount systemId = false)
    (hread : ∀ b', pc' = .budgeted systemId b' → x.store.getRecursionBudget r.tenantId systemId = .ok b') :
    Books systemId (x.moved t i r pc') := by
  cases h with
  | unopened hnone hzero hawaits hreads =>
    refine .unopened (hbudget.trans hnone) (hstored.trans hzero) (hawaits.moved hnew) ?_
    intro j r' b hj
    rcases Table.lookup_insert_cases hj with ⟨rfl, heq⟩ | ⟨-, hj⟩
    · obtain ⟨rfl, hpc⟩ := Prod.mk.inj heq
      obtain ⟨hrow, -⟩ := getRecursionBudget_ok (hread b hpc.symm)
      rw [hnone] at hrow
      cases hrow
    · exact hreads j r' b hj
  | settled b hopened hcount hawaits =>
    exact .settled b (hopened.moved hbudget hstored hread) (hstored.trans hcount) (hawaits.moved hnew)
  | short b i' r' g spec hopened hcount hi' htenant hawaits =>
    have hne : i' ≠ i := by
      rintro rfl
      have := hi _ _ hi'
      simp [CreatePc.awaitsCount] at this
    refine .short b i' r' g spec (hopened.moved hbudget hstored hread) (hstored.trans hcount) ?_ htenant (hawaits.moved hnew)
    exact (AList.lookup_insert_ne hne).trans hi'

theorem awaitsCount_of_not_inserted (h : ∀ systemId g v spec, pc ≠ .inserted systemId g v spec) :
    pc.awaitsCount systemId = false := by
  cases pc with
  | inserted systemId' g v spec => exact absurd rfl (h systemId' g v spec)
  | _ => rfl

theorem stored_put {s : ImprovementStore} (hnew : s.generations.get g.generationId = none) :
    ({ s with generations := s.generations.put g } : ImprovementStore).stored systemId =
      s.stored systemId + if g.systemId = systemId then 1 else 0 := by
  unfold ImprovementStore.stored
  rw [Keyed.rows_put hnew]
  by_cases h : g.systemId = systemId <;> simp [h]

/-- A budget that is not exhausted has room for one more generation. -/
theorem room_of_not_exhausted {n : ℕ} (hn : b.limits.maxGenerations = n) (h : checkRecursionBudget b = []) :
    b.generationCount + 1 ≤ n := by
  have hlt : ¬ b.limits.maxGenerations ≤ b.generationCount := by
    intro hle
    simp [checkRecursionBudget, hle] at h
  rw [hn, Nat.cast_le, not_le] at hlt
  exact hlt

/-! ## One statement -/

theorem awaitsCount_iff : x.awaitsCount systemId = true ↔
    ∃ j r pc, x.creates.lookup j = some (r, pc) ∧ pc.awaitsCount systemId = true := by
  rw [CreateSystem.awaitsCount, Table.any_iff]
  constructor
  · rintro ⟨j, ⟨r, pc⟩, hj, h⟩
    exact ⟨j, r, pc, hj, h⟩
  · rintro ⟨j, r, pc, hj, h⟩
    exact ⟨j, (r, pc), hj, h⟩

/-- A budget is opened. -/
theorem books_of_budgets (h : Books systemId x) (hi : x.creates.lookup i = some (r, .unbudgeted systemId))
    (hnone : x.store.budgets.get systemId = none)
    (hwhole : r.body.limits.maxGenerations.den = 1 ∧ 0 ≤ r.body.limits.maxGenerations.num) :
    Books systemId (x.moved
      { x.store with
        budgets := x.store.budgets.put (ImprovementStore.newRecursionBudget r.tenantId systemId r.body.limits) }
      i r (.rereads systemId)) := by
  cases h with
  | unopened _ hzero hawaits hreads =>
    refine .settled (ImprovementStore.newRecursionBudget r.tenantId systemId r.body.limits) ⟨Keyed.get_put_self, ?_, ?_⟩
      hzero (hawaits.moved rfl)
    · obtain ⟨hden, hnum⟩ := hwhole
      refine ⟨r.body.limits.maxGenerations.num.toNat, ?_, ?_⟩
      · have hint : r.body.limits.maxGenerations = r.body.limits.maxGenerations.num := (Rat.coe_int_num_of_den_eq_one hden).symm
        have hcast : (r.body.limits.maxGenerations.num.toNat : ℤ) = r.body.limits.maxGenerations.num := Int.toNat_of_nonneg hnum
        show r.body.limits.maxGenerations = _
        rw [← Int.cast_natCast, hcast]
        exact hint
      · exact le_of_eq_of_le hzero (Nat.zero_le _)
    · intro j r' b hj
      rcases Table.lookup_insert_cases hj with ⟨rfl, heq⟩ | ⟨-, hj⟩
      · cases heq
      · exact absurd hj (hreads j r' b)
  | settled b hopened =>
    rw [hopened.row] at hnone
    cases hnone
  | short b _ _ _ _ hopened =>
    rw [hopened.row] at hnone
    cases hnone

/-- A generation is stored, by a create that read the budget as it is. -/
theorem books_of_stores (h : Books systemId x) (hi : x.creates.lookup i = some (r, .budgeted systemId budget))
    (hleft : checkRecursionBudget budget = []) (hnew : x.store.generations.get g.generationId = none)
    (hsystem : g.systemId = systemId) (hquiet : x.awaitsCount systemId = false)
    (hversion : ∀ b, x.store.budgets.get systemId = some b → b.stateVersion = budget.stateVersion) :
    Books systemId (x.moved { x.store with generations := x.store.generations.put g } i r
      (.inserted systemId g.generationId budget.stateVersion spec)) := by
  cases h with
  | unopened _ _ _ hreads => exact absurd hi (hreads i r budget)
  | settled b hopened hstored hawaits =>
    obtain ⟨rfl, htenant⟩ := (hopened.known i r budget hi).2 (hversion b hopened.row).symm
    obtain ⟨n, hn, -⟩ := hopened.limit
    have hcount : ({ x.store with generations := x.store.generations.put g } : ImprovementStore).stored systemId =
        budget.generationCount + 1 := by
      rw [stored_put hnew, if_pos hsystem, hstored]
    refine .short budget i r g.generationId spec ⟨hopened.row, ⟨n, hn, ?_⟩, ?_⟩ hcount (AList.lookup_insert _) htenant ?_
    · exact hcount.trans_le (room_of_not_exhausted hn hleft)
    · intro j r' b' hj
      rcases Table.lookup_insert_cases hj with ⟨rfl, heq⟩ | ⟨-, hj⟩
      · cases heq
      · exact hopened.known j r' b' hj
    · intro j r' pc'' hj hne
      rcases Table.lookup_insert_cases hj with ⟨rfl, -⟩ | ⟨-, hj⟩
      · exact absurd rfl hne
      · exact hawaits j r' pc'' hj id
  | short b i' r' g' spec' _ _ hi' =>
    have hawaits := awaitsCount_iff.2 ⟨i', r', _, hi', decide_eq_true rfl⟩
    rw [hquiet] at hawaits
    cases hawaits

/-- A stored generation is counted. -/
theorem books_of_counts (h : Books systemId x) {g : Text}
    (hi : x.creates.lookup i = some (r, .inserted systemId g budget.stateVersion spec))
    (hbudget : x.store.budgets.get systemId = some budget) :
    Books systemId (x.moved { x.store with budgets := x.store.budgets.put (budget.plus { generations := 1 }) } i r
      (.counted g spec)) := by
  have hkey := Keyed.key_of_get hbudget
  have hawaiting : (CreatePc.inserted systemId g budget.stateVersion spec).awaitsCount systemId = true := decide_eq_true rfl
  cases h with
  | unopened _ _ hawaits =>
    rw [hawaits i r _ hi id] at hawaiting
    cases hawaiting
  | settled _ _ _ hawaits =>
    rw [hawaits i r _ hi id] at hawaiting
    cases hawaiting
  | short b i' r' g' spec' hopened hstored hi' htenant hawaits =>
    cases hopened.row.symm.trans hbudget
    have heq : i = i' := by
      by_contra hne
      rw [hawaits i r _ hi hne] at hawaiting
      cases hawaiting
    subst heq
    refine .settled (budget.plus { generations := 1 }) ⟨?_, hopened.limit, ?_⟩ hstored ?_
    · have hself : budget.systemId = (budget.plus { generations := 1 }).systemId := rfl
      show (x.store.budgets.put _).get systemId = _
      rw [← hkey, hself]
      exact Keyed.get_put_self
    · intro j r'' b' hj
      rcases Table.lookup_insert_cases hj with ⟨rfl, heq⟩ | ⟨-, hj⟩
      · cases heq
      · have hle := (hopened.known j r'' b' hj).1
        have hplus : (budget.plus { generations := 1 }).stateVersion = budget.stateVersion + 1 := rfl
        exact ⟨by omega, fun hsame => by omega⟩
    · intro j r'' pc'' hj _
      rcases Table.lookup_insert_cases hj with ⟨rfl, heq⟩ | ⟨hne, hj⟩
      · cases heq
        rfl
      · exact hawaits j r'' pc'' hj hne

/-! ## Runs -/

variable {digest : ImprovementSpecInput → Text → Text} {l : CreateLabel} {y : CreateSystem} {labels : List CreateLabel}

/-- What a run of undisturbed creates keeps. -/
structure CreateRun (systemId : Text) (x : CreateSystem) : Prop where
  books : Books systemId x
  stored : ∀ i r systemId' g v spec, x.creates.lookup i = some (r, .inserted systemId' g v spec) →
    ∃ row, x.store.generations.get g = some row ∧ row.systemId = systemId'
  clean : ∀ i r e g, x.creates.lookup i = some (r, .threw e (some g)) → e.refusal = true →
    ∃ row, x.store.generations.get g = some row ∧ row.systemId ≠ systemId

/-- A create that goes on from where it stood, undisturbed, leaves the books in order. -/
theorem books_of_move (h : Books systemId x) (hi : x.creates.lookup i = some (r, pc))
    (hstep : createStep digest x.store r pc a = some (t, pc')) (hundisturbed : x.undisturbed digest systemId (.goesOn i a) = true) :
    Books systemId (x.moved t i r pc') ∧ ∀ systemId' g v spec, pc = .inserted systemId' g v spec →
      ∀ e g', pc' = .threw e g' → e.refusal = true → systemId' ≠ systemId := by
  have hunique : ∀ r' pc'', x.creates.lookup i = some (r', pc'') → r' = r ∧ pc'' = pc := by
    intro r' pc'' h'
    cases hi.symm.trans h'
    exact ⟨rfl, rfl⟩
  have hframe : pc.awaitsCount systemId = false → ∀ r' pc'', x.creates.lookup i = some (r', pc'') →
      pc''.awaitsCount systemId = false := by
    intro hpc r' pc'' h'
    rw [(hunique r' pc'' h').2]
    exact hpc
  simp only [CreateSystem.undisturbed, hi] at hundisturbed
  cases move_of_step hstep with
  | idles hbudgets hgenerations hold hidle =>
    refine ⟨h.moved (hframe (awaitsCount_of_not_inserted hold)) (by rw [hbudgets]) (by simp [ImprovementStore.stored, hgenerations])
      ?_ ?_, fun _ _ _ _ hpc => absurd hpc (hold _ _ _ _)⟩
    · exact awaitsCount_of_not_inserted fun _ _ _ _ hpc => by simp [hpc, CreatePc.idle] at hidle
    · rintro b' rfl
      simp [CreatePc.idle] at hidle
  | @reads _ systemId' budget hold hbudget =>
    refine ⟨h.moved (hframe (awaitsCount_of_not_inserted hold)) rfl rfl rfl ?_, fun _ _ _ _ hpc => absurd hpc (hold _ _ _ _)⟩
    rintro b' heq
    cases heq
    exact hbudget
  | @budgets systemId' hnone =>
    refine ⟨?_, fun _ _ _ _ hpc => nomatch hpc⟩
    by_cases hsystem : systemId' = systemId
    · subst hsystem
      simp only [ne_eq, not_true_eq_false, decide_false, Bool.false_or, decide_eq_true_eq] at hundisturbed
      exact books_of_budgets h hi hnone hundisturbed
    · exact h.moved (hframe rfl) (Keyed.get_put_of_ne fun heq => hsystem heq.symm) rfl rfl fun _ hpc => nomatch hpc
  | @stores systemId' budget g spec hleft hnew hsystem =>
    refine ⟨?_, fun _ _ _ _ hpc => nomatch hpc⟩
    by_cases hsame : systemId' = systemId
    · subst hsame
      have hstores : (storeGeneration digest x.store r systemId' budget a).2.awaitsCount systemId' = true := by
        rw [Option.some.inj hstep]
        exact decide_eq_true rfl
      simp only [hstores, Bool.not_true, Bool.false_or, Bool.and_eq_true, Bool.not_eq_true', Option.all_eq_true,
        decide_eq_true_eq] at hundisturbed
      exact books_of_stores h hi hleft hnew hsystem hundisturbed.1 hundisturbed.2
    · refine h.moved (hframe rfl) rfl ?_ (decide_eq_false hsame) fun _ hpc => nomatch hpc
      rw [stored_put hnew, if_neg (hsystem ▸ hsame), Nat.add_zero]
  | @counts systemId' g spec budget hbudget htenant =>
    refine ⟨?_, fun _ _ _ _ _ _ _ hpc => nomatch hpc⟩
    by_cases hsystem : systemId' = systemId
    · subst hsystem
      exact books_of_counts h hi hbudget
    · refine h.moved (hframe (decide_eq_false hsystem)) (Keyed.get_put_of_ne ?_) rfl rfl fun _ hpc => nomatch hpc
      intro heq
      exact hsystem ((Keyed.key_of_get hbudget).symm.trans heq.symm)
  | @loses systemId' g version spec e hlost =>
    have hother : systemId' ≠ systemId := by
      rintro rfl
      simp only [ne_eq, not_true_eq_false, decide_false, Bool.false_or] at hundisturbed
      rcases hlost with hfails | hlost
      · rw [hundisturbed] at hfails
        cases hfails
      · have hawaiting : (CreatePc.inserted systemId' g version spec).awaitsCount systemId' = true := decide_eq_true rfl
        cases h with
        | unopened _ _ hawaits =>
          rw [hawaits i r _ hi id] at hawaiting
          cases hawaiting
        | settled _ _ _ hawaits =>
          rw [hawaits i r _ hi id] at hawaiting
          cases hawaiting
        | short b i' r' g' spec' hopened _ hi' htenant hawaits =>
          have heq : i = i' := by
            by_contra hne
            rw [hawaits i r _ hi hne] at hawaiting
            cases hawaiting
          subst heq
          cases hi.symm.trans hi'
          exact hlost b hopened.row htenant rfl
    refine ⟨h.moved (hframe (decide_eq_false hother)) rfl rfl rfl fun _ hpc => (nomatch hpc), ?_⟩
    rintro _ _ _ _ heq _ _ _ _
    cases heq
    exact hother

/-- A statement takes no generation away, and stores the one it says it has stored. -/
theorem stored_of_step (hstep : createStep digest x.store r pc a = some (t, pc')) :
    (∀ g row, x.store.generations.get g = some row → t.generations.get g = some row) ∧
      ∀ systemId' g v spec, pc' = .inserted systemId' g v spec →
        ∃ row, t.generations.get g = some row ∧ row.systemId = systemId' := by
  cases move_of_step hstep with
  | idles _ hgenerations _ hidle =>
    rw [hgenerations]
    refine ⟨fun _ _ hrow => hrow, ?_⟩
    rintro _ _ _ _ rfl
    cases hidle
  | reads => exact ⟨fun _ _ hrow => hrow, fun _ _ _ _ hpc => nomatch hpc⟩
  | budgets => exact ⟨fun _ _ hrow => hrow, fun _ _ _ _ hpc => nomatch hpc⟩
  | @stores systemId' budget g spec _ hnew hsystem =>
    constructor
    · intro g' row hrow
      have hne : g' ≠ g.generationId := by
        rintro rfl
        rw [hnew] at hrow
        cases hrow
      exact (Keyed.get_put_of_ne hne).trans hrow
    · rintro _ _ _ _ hpc
      cases hpc
      exact ⟨g, Keyed.get_put_self, hsystem⟩
  | counts => exact ⟨fun _ _ hrow => hrow, fun _ _ _ _ hpc => nomatch hpc⟩
  | loses => exact ⟨fun _ _ hrow => hrow, fun _ _ _ _ hpc => nomatch hpc⟩

/-- A create is refused over a generation it stored, or already was, only when it lost its count. -/
theorem threw_of_step (hstep : createStep digest x.store r pc a = some (t, pc')) {e : ImprovementThrown} {g : Text}
    (hthrew : pc' = .threw e (some g)) (hrefusal : e.refusal = true) :
    ∃ systemId' v spec, pc = .inserted systemId' g v spec := by
  cases move_of_step hstep with
  | idles _ _ _ hidle =>
    rw [hthrew] at hidle
    simp [CreatePc.idle, hrefusal] at hidle
  | reads => cases hthrew
  | budgets => cases hthrew
  | stores => cases hthrew
  | counts => cases hthrew
  | loses =>
    cases hthrew
    exact ⟨_, _, _, rfl⟩

theorem createRun_step (h : x.next digest l = some y) (hundisturbed : x.undisturbed digest systemId l = true)
    (hx : CreateRun systemId x) : CreateRun systemId y := by
  cases l with
  | begins i request =>
    simp only [CreateSystem.next] at h
    split at h
    · cases h
    · next hnone =>
      cases h
      have hother : ∀ j c, (x.creates.insert i (request, CreatePc.started)).lookup j = some c → c.2 ≠ .started →
          x.creates.lookup j = some c := by
        intro j c hj hne
        rcases Table.lookup_insert_cases hj with ⟨-, rfl⟩ | ⟨-, hj⟩
        · exact absurd rfl hne
        · exact hj
      refine ⟨?_, ?_, ?_⟩
      · refine hx.books.moved ?_ rfl rfl rfl fun _ hpc => nomatch hpc
        intro r pc hi
        rw [hnone] at hi
        cases hi
      · intro j r systemId' g v spec hj
        exact hx.stored j r systemId' g v spec (hother j _ hj (by simp))
      · intro j r e g hj
        exact hx.clean j r e g (hother j _ hj (by simp))
  | goesOn i a =>
    simp only [CreateSystem.next] at h
    split at h
    · cases h
    · next r pc hi =>
      obtain ⟨⟨t, pc'⟩, hstep, rfl⟩ := Option.map_eq_some_iff.1 h
      obtain ⟨hbooks, hlost⟩ := books_of_move hx.books hi hstep hundisturbed
      obtain ⟨hkeeps, hinserted⟩ := stored_of_step hstep
      refine ⟨hbooks, ?_, ?_⟩
      · intro j r' systemId' g v spec hj
        rcases Table.lookup_insert_cases hj with ⟨-, heq⟩ | ⟨-, hj⟩
        · exact hinserted systemId' g v spec (Prod.mk.inj heq).2.symm
        · obtain ⟨row, hrow, hsystem⟩ := hx.stored j r' systemId' g v spec hj
          exact ⟨row, hkeeps g row hrow, hsystem⟩
      · intro j r' e g hj hrefusal
        rcases Table.lookup_insert_cases hj with ⟨-, heq⟩ | ⟨-, hj⟩
        · have hpc' : pc' = .threw e (some g) := (Prod.mk.inj heq).2.symm
          obtain ⟨systemId', v, spec, rfl⟩ := threw_of_step hstep hpc' hrefusal
          obtain ⟨row, hrow, hsystem⟩ := hx.stored i r systemId' g v spec hi
          exact ⟨row, hkeeps g row hrow, hsystem ▸ hlost systemId' g v spec rfl e (some g) hpc' hrefusal⟩
        · obtain ⟨row, hrow, hsystem⟩ := hx.clean j r' e g hj hrefusal
          exact ⟨row, hkeeps g row hrow, hsystem⟩

theorem createRun_start (systemId : Text) : CreateRun systemId .start where
  books := .unopened rfl rfl (fun _ _ _ h => nomatch h) (fun _ _ _ h => nomatch h)
  stored _ _ _ _ _ _ h := nomatch h
  clean _ _ _ _ h := nomatch h

theorem CreateRun.accounted (h : CreateRun systemId x) : Accounted systemId x := by
  refine ⟨?_, ?_, ?_⟩
  · intro b hb
    have hopened : ∃ b', Opened systemId x b' := by
      cases h.books with
      | unopened hnone =>
        rw [hnone] at hb
        cases hb
      | settled b' hopened => exact ⟨b', hopened⟩
      | short b' _ _ _ _ hopened => exact ⟨b', hopened⟩
    obtain ⟨b', hopened⟩ := hopened
    cases hopened.row.symm.trans hb
    obtain ⟨n, hn, hle⟩ := hopened.limit
    rw [hn]
    exact Nat.cast_le.2 hle
  · intro hquiet
    cases h.books with
    | unopened hnone hzero =>
      rw [hzero, ImprovementStore.counted, hnone]
      rfl
    | settled b hopened hstored =>
      rw [hstored, ImprovementStore.counted, hopened.row]
      rfl
    | short b i r g spec _ _ hi =>
      have hawaits := awaitsCount_iff.2 ⟨i, r, _, hi, decide_eq_true rfl⟩
      rw [hquiet] at hawaits
      cases hawaits
  · intro i r e g hi hrefusal row hrow
    obtain ⟨row', hrow', hsystem⟩ := h.clean i r e g hi hrefusal
    cases hrow.symm.trans hrow'
    exact hsystem

/-- **The recursion budget.** As long as no step of a create is disturbed, a system has no more generations than its limit,
its budget has counted them, and none is left of a create that was refused. -/
theorem accounted_of_run (hrun : Run (fun x l y => x.next digest l = some y ∧ x.undisturbed digest systemId l = true)
    .start labels x) : Accounted systemId x := by
  have hcreates : CreateRun systemId x := hrun.invariant (I := CreateRun systemId)
    (fun _ _ _ hstep hx => createRun_step hstep.1 hstep.2 hx) (createRun_start systemId)
  exact hcreates.accounted

end

/-! ## Two creates -/

/-- A create request that allows its system one generation. -/
def sampleCreate : CreateRequest where
  tenantId := "t"
  body :=
    { systemId := "parser", parentGenerationId := none, parentWorkspacePath := "/srv/parser", objective := "o"
      improvementClass := .class1Code, allowedMutationPaths := ["src/"], forbiddenMutationPaths := none
      authorityCeiling :=
        { operations := [], tools := [], resources := [], destinations := [], networkAccess := false
          filesystemScope := [], credentials := [], maxBudgetUsd := .finite 0, maxRuntimeMs := .finite 0
          maxParallelism := .finite 1
          externalSideEffects := false, requiresApprovalFor := [] }
      candidateVersion := "1", createdBy := "u", recursionLimits := some ⟨1, 10, 3600000, 100, 1000⟩
      evaluationProfileId := none, requiredBenchmarks := none, requiredSecurityTests := none
      canaryPolicy := none, rollbackPolicy := none, maxRuntimeMs := none, maxCostUsd := none }

def sampleDigest (_ : ImprovementSpecInput) (specId : Text) : Text := specId

/-- The next statement of a create, under an id. -/
def goOn (i : Nat) (newId : Text) : CreateLabel := .goesOn i ⟨true, newId, newId, some [], true⟩

/-- The first create up to the point where it knows its budget. -/
def firstReads : List CreateLabel :=
  [.begins 0 sampleCreate, goOn 0 "", goOn 0 "sys", goOn 0 "", goOn 0 "", goOn 0 ""]

def CreateSystem.refusedWith (x : CreateSystem) (i : Nat) (code : ImprovementErrorCode) (g : Option Text) : Bool :=
  (x.creates.lookup i).any fun c =>
    match c.2 with
    | .threw (.improvement code' _) g' => decide (code' = code ∧ g' = g)
    | _ => false

/-- One create after another: the second finds the budget exhausted. -/
theorem accounted_of_run_twice : ∃ labels x, Run (fun x l y => CreateSystem.next sampleDigest x l = some y ∧
      x.undisturbed sampleDigest "sys" l = true) .start labels x ∧
    x.store.stored "sys" = 1 ∧ x.refusedWith 1 .budgetExhausted none = true ∧ Accounted "sys" x := by
  have hreplay : (replay
      (fun x l => if x.undisturbed sampleDigest "sys" l = true then CreateSystem.next sampleDigest x l else none) .start
      (firstReads ++ [goOn 0 "g0", goOn 0 "", goOn 0 "", goOn 0 "",
        .begins 1 sampleCreate, goOn 1 "", goOn 1 "", goOn 1 "g1"])).any
      (fun x => decide (x.store.stored "sys" = 1) && x.refusedWith 1 .budgetExhausted none) = true := by decide +kernel
  obtain ⟨x, hrun, htest⟩ := run_of_guarded_test hreplay
  obtain ⟨hstored, hrefused⟩ := Bool.and_eq_true_iff.1 htest
  exact ⟨_, x, hrun, of_decide_eq_true hstored, hrefused, accounted_of_run hrun⟩

/-- Two creates at once: both read an empty budget of one, both store a generation, and the one that is refused for the
lost race leaves its own behind. -/
theorem not_accounted_of_race : ∃ labels x, Run (fun x l y => CreateSystem.next sampleDigest x l = some y) .start labels x ∧
    ¬ Accounted "sys" x ∧ x.store.stored "sys" = 2 ∧ x.awaitsCount "sys" = false ∧ x.store.counted "sys" = 1 ∧
      x.refusedWith 1 .conflict (some "g1") = true := by
  have hreplay : (replay (CreateSystem.next sampleDigest) .start
      (firstReads ++ [.begins 1 sampleCreate, goOn 1 "", goOn 1 "", goOn 0 "g0", goOn 1 "g1", goOn 0 "", goOn 1 ""])).any
      (fun x => decide (x.store.stored "sys" = 2 ∧ x.awaitsCount "sys" = false ∧ x.store.counted "sys" = 1 ∧
        x.refusedWith 1 .conflict (some "g1") = true)) = true := by decide +kernel
  obtain ⟨x, hrun, htest⟩ := run_of_test hreplay
  obtain ⟨hstored, hquiet, hcounted, hrefused⟩ := of_decide_eq_true htest
  refine ⟨_, x, hrun, fun haccounted => ?_, hstored, hquiet, hcounted, hrefused⟩
  have hsame := haccounted.counted hquiet
  rw [hstored, hcounted] at hsame
  cases hsame

end Tna.Improvement
