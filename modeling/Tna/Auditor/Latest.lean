import Tna.Auditor.Runs

/-!
# The latest run of an assessment

As long as an assessment that has completed is not run again, no call writes to a run that
was ended for it, and no recovery is interrupted, an assessment shows what its latest run
came to, and a run that has ended stays as it is.
-/

namespace Tna.Auditor

open Tna.Js Tna.Ledger Tna.Lib

/-! ## What is claimed of a store -/

/-- A call is between the two statements that take this run from collecting to evaluating. -/
def AuditorSystem.Marking (w : AuditorSystem) (key : RunKey) : Prop :=
  ∃ i c bundle, w.calls.lookup i = some (.marking c bundle) ∧ c.key = key

/-- The status of an assessment is that of the run, or whoever changes both has changed one of them. -/
inductive StatusAgrees (w : AuditorSystem) (key : RunKey) (row : AssessmentRow) (run : RunRow) : Prop where
  | same (h : row.status = run.status)
  | marking (hrow : row.status = .collectingEvidence) (hrun : run.status = .evaluating) (h : w.Marking key)
  | recovering (hrow : row.status = .indeterminate) (hrun : run.status.inProgress = true) (h : w.openers ≠ 0)

/-- An assessment shows what its latest run came to; before its first run it shows nothing. -/
def ShowsLatest (w : AuditorSystem) (key : AssessmentKey) (row : AssessmentRow) : Prop :=
  (row.latestRunNumber = 0 ∧ row.status = .created ∧ row.conclusion = none) ∨
    ∃ run, w.store.run (key, row.latestRunNumber) = some run ∧ row.conclusion = run.conclusion ∧
      StatusAgrees w (key, row.latestRunNumber) row run

structure Consistent (w : AuditorSystem) : Prop where
  latest : ∀ key row, w.store.assessment key = some row → ShowsLatest w key row
  once : ∀ key n m run run', w.store.run (key, n) = some run → w.store.run (key, m) = some run' →
    run.status.inProgress = true → run'.status.inProgress = true → n = m

/-- A run that has ended stays as it is, with its control results and findings. -/
def EndedKept (w w' : AuditorSystem) : Prop :=
  ∀ key run, w.store.run key = some run → run.status.inProgress = false →
    w'.store.run key = some run ∧ w'.store.resultsOf key = w.store.resultsOf key ∧
      w'.store.findingsOf key = w.store.findingsOf key

/-! ## The condition -/

/-- The run of a claim has not been ended. -/
def AuditorSystem.InProgress (w : AuditorSystem) (key : RunKey) : Prop := ∃ run, w.store.run key = some run ∧ run.status.inProgress = true

/-- The run a call writes to has not been ended for it. -/
def AuditorSystem.Holds (w : AuditorSystem) (i : Nat) : Prop :=
  ∀ pc c, w.calls.lookup i = some pc → pc.claim? = some c → w.InProgress c.key

/-- The assessment has not completed. -/
def AuditorSystem.Unconcluded (w : AuditorSystem) (key : AssessmentKey) : Prop :=
  ∀ row, w.store.assessment key = some row → row.conclusion = none

/-- No assessment that has completed is run again, no call writes to a run that was ended for it or stops between its two
statements, and no run is claimed and no assessment marked between the two statements of a recovery, which is completed
when it has anything to do. -/
def Orderly (w : AuditorSystem) : AuditorLabel → Prop
  | .creates .. | .loads .. | .opens _ | .recovers _ => True
  | .claims _ key _ _ => w.openers = 0 ∧ w.Unconcluded key
  | .claimsReplay i _ => w.openers = 0 ∧ ∀ r, w.calls.lookup i = some (.replaying r) → w.Unconcluded r.key
  | .marks i _ => w.openers = 0 ∧ w.Holds i
  | .collects i _ | .collectFails i _ | .finalizes i _ _ _ | .fails i _ => w.Holds i
  | .loses i => ∀ c bundle, w.calls.lookup i = some (.marking c bundle) → ¬ w.InProgress c.key
  | .quits => 1 < w.openers ∨ ∀ run ∈ w.store.runs, run.status.inProgress = false

instance (w : AuditorSystem) (key : RunKey) : Decidable (w.InProgress key) :=
  decidable_of_iff ((w.store.run key).any fun run => run.status.inProgress) (Option.any_eq_true _ _)

instance (w : AuditorSystem) (i : Nat) : Decidable (w.Holds i) :=
  decidable_of_iff (∀ pc ∈ w.calls.lookup i, ∀ c ∈ pc.claim?, w.InProgress c.key)
    ⟨fun h pc c hpc hc => h pc hpc c hc, fun h pc hpc c hc => h pc c hpc hc⟩

instance (w : AuditorSystem) (key : AssessmentKey) : Decidable (w.Unconcluded key) :=
  decidable_of_iff (∀ row ∈ w.store.assessment key, row.conclusion = none) Iff.rfl

instance (w : AuditorSystem) (i : Nat) : Decidable (∀ r, w.calls.lookup i = some (.replaying r) → w.Unconcluded r.key) :=
  match h : w.calls.lookup i with
  | some (.replaying r) => decidable_of_iff (w.Unconcluded r.key) ⟨fun hr _ heq => by cases heq; exact hr, fun hr => hr r rfl⟩
  | some (.collecting _) | some (.marking _ _) | some (.evaluating _ _) | some .over | none => isTrue fun _ heq => nomatch heq

instance (w : AuditorSystem) (i : Nat) :
    Decidable (∀ c bundle, w.calls.lookup i = some (.marking c bundle) → ¬ w.InProgress c.key) :=
  match h : w.calls.lookup i with
  | some (.marking c bundle) =>
    decidable_of_iff (¬ w.InProgress c.key) ⟨fun hc _ _ heq => by cases heq; exact hc, fun hc => hc c bundle rfl⟩
  | some (.collecting _) | some (.replaying _) | some (.evaluating _ _) | some .over | none => isTrue fun _ _ heq => nomatch heq

instance (w : AuditorSystem) : (l : AuditorLabel) → Decidable (Orderly w l)
  | .creates .. | .loads .. | .opens _ | .recovers _ => inferInstanceAs (Decidable True)
  | .claims _ key _ _ => inferInstanceAs (Decidable (w.openers = 0 ∧ w.Unconcluded key))
  | .claimsReplay i _ =>
    inferInstanceAs (Decidable (w.openers = 0 ∧ ∀ r, w.calls.lookup i = some (.replaying r) → w.Unconcluded r.key))
  | .marks i _ => inferInstanceAs (Decidable (w.openers = 0 ∧ w.Holds i))
  | .collects i _ | .collectFails i _ | .finalizes i _ _ _ | .fails i _ => inferInstanceAs (Decidable (w.Holds i))
  | .loses i => inferInstanceAs (Decidable (∀ c bundle, w.calls.lookup i = some (.marking c bundle) → ¬ w.InProgress c.key))
  | .quits => inferInstanceAs (Decidable (1 < w.openers ∨ ∀ run ∈ w.store.runs, run.status.inProgress = false))

/-! ## The invariant -/

structure Tracked (w : AuditorSystem) : Prop where
  waiting : w.openers ≠ 0 → ∀ key row, w.store.assessment key = some row → row.status.inProgress = false
  numbered : ∀ key n run, w.store.run (key, n) = some run →
    ∃ row, w.store.assessment key = some row ∧ n ≤ row.latestRunNumber ∧ n ≠ 0
  newest : ∀ key n run row, w.store.run (key, n) = some run → run.status.inProgress = true →
    w.store.assessment key = some row → n = row.latestRunNumber
  latest : ∀ key row, w.store.assessment key = some row → ShowsLatest w key row
  claimed : ∀ i pc c, w.calls.lookup i = some pc → pc.claim? = some c → ∃ run, w.store.run c.key = some run ∧
    (run.status.inProgress = true → run.status = pc.status)
  distinct : ∀ i j pc pc' c c', w.calls.lookup i = some pc → w.calls.lookup j = some pc' → pc.claim? = some c →
    pc'.claim? = some c' → c.key = c'.key → i = j

section
variable {p : AuditorParts} {w w' : AuditorSystem}

theorem Tracked.consistent (h : Tracked w) : Consistent w where
  latest := h.latest
  once key n m run run' hn hm hrun hrun' := by
    obtain ⟨row, hrow, -⟩ := h.numbered key n run hn
    rw [h.newest key n run row hn hrun hrow, h.newest key m run' row hm hrun' hrow]

theorem tracked_initial : Tracked .initial where
  waiting _ _ _ h := nomatch h
  numbered _ _ _ h := nomatch h
  newest _ _ _ _ h := nomatch h
  latest _ _ h := nomatch h
  claimed _ _ _ h := nomatch h
  distinct _ _ _ _ _ _ h := nomatch h

/-! ## Writes -/

variable {i : Nat} {pc pc' : AuditorPc} {store t : AuditorStore} {key : AssessmentKey} {row : AssessmentRow} {c : RunClaim}
  {f : AssessmentRow → AssessmentRow} {g : RunRow → RunRow} {run : RunRow} {status : AssessmentStatus} {l : AuditorLabel}

/-- A call that is gone on from is the only one of its run. -/
theorem lookup_goto_of_ne {j : Nat} (h : j ≠ i) :
    (w.goto store i pc).calls.lookup j = w.calls.lookup j := AList.lookup_insert_ne h

theorem lookup_goto_self : (w.goto store i pc).calls.lookup i = some pc :=
  AList.lookup_insert _

/-- What an assessment shows stays, while its run does and whoever changes the two is still there. -/
theorem ShowsLatest.mono (h : ShowsLatest w key row)
    (hrun : w'.store.run (key, row.latestRunNumber) = w.store.run (key, row.latestRunNumber))
    (hmarking : ∀ run, w.store.run (key, row.latestRunNumber) = some run → run.status = .evaluating →
      w.Marking (key, row.latestRunNumber) → w'.Marking (key, row.latestRunNumber))
    (hopeners : ∀ run, w.store.run (key, row.latestRunNumber) = some run → run.status.inProgress = true →
      w.openers ≠ 0 → w'.openers ≠ 0) : ShowsLatest w' key row := by
  rcases h with h | ⟨run, hlookup, hconclusion, hstatus⟩
  · exact .inl h
  refine .inr ⟨run, hrun.trans hlookup, hconclusion, ?_⟩
  cases hstatus with
  | same h => exact .same h
  | marking hrow hevaluating h => exact .marking hrow hevaluating (hmarking run hlookup hevaluating h)
  | recovering hrow hprogress h => exact .recovering hrow hprogress (hopeners run hlookup hprogress h)

/-- What an assessment shows does not depend on a call of another run. -/
theorem ShowsLatest.goto (h : ShowsLatest w key row)
    (hrun : store.run (key, row.latestRunNumber) = w.store.run (key, row.latestRunNumber))
    (hcall : ∀ c bundle run, w.calls.lookup i = some (.marking c bundle) → c.key = (key, row.latestRunNumber) →
      w.store.run c.key = some run → run.status.inProgress = false) : ShowsLatest (w.goto store i pc) key row := by
  refine h.mono hrun ?_ fun _ _ _ h => h
  rintro run hlookup hevaluating ⟨j, c, bundle, hj, hkey⟩
  refine ⟨j, c, bundle, (lookup_goto_of_ne ?_).trans hj, hkey⟩
  rintro rfl
  have hended := hcall c bundle run hj hkey (hkey ▸ hlookup)
  rw [hevaluating] at hended
  cases hended

/-- **A call writes** to its run, which is in progress, and to the assessment of that. -/
theorem Tracked.wrote (h : Tracked w) (hcall : w.calls.lookup i = some pc) (hclaim : pc.claim? = some c)
    (hrun : w.store.run c.key = some run) (hprogress : run.status.inProgress = true) (hwrote : w.store.Wrote t c.key f g)
    (hf : ∀ r, (f r).latestRunNumber = r.latestRunNumber)
    (hwaits : w.openers ≠ 0 → ∀ r, r.status.inProgress = false → (f r).status.inProgress = false)
    (hshows : ∀ row, row.conclusion = run.conclusion → StatusAgrees w c.key row run →
      (f row).conclusion = (g run).conclusion ∧ StatusAgrees (w.goto t i pc') c.key (f row) (g run))
    (hclaim' : ∀ c', pc'.claim? = some c' → c' = c ∧ ((g run).status.inProgress = true → (g run).status = pc'.status)) :
    Tracked (w.goto t i pc') := by
  have hown : t.run c.key = some (g run) := by rw [hwrote.own, hrun, Option.map_some]
  have hassessment : ∀ key row', t.assessment key = some row' →
      ∃ row, w.store.assessment key = some row ∧ row'.latestRunNumber = row.latestRunNumber ∧
        (key ≠ c.key.1 → row' = row) ∧ (key = c.key.1 → row' = f row) := by
    intro key row' hrow'
    by_cases hkey : key = c.key.1
    · rw [hkey, hwrote.assessment] at hrow'
      obtain ⟨row, hrow, rfl⟩ := Option.map_eq_some_iff.1 hrow'
      exact ⟨row, hkey ▸ hrow, hf row, fun hne => absurd hkey hne, fun _ => rfl⟩
    · rw [hwrote.assessments key hkey] at hrow'
      exact ⟨row', hrow', rfl, fun _ => rfl, fun heq => absurd heq hkey⟩
  have hruns : ∀ key run', t.run key = some run' → ∃ old, w.store.run key = some old ∧
      (run'.status.inProgress = true → old.status.inProgress = true) := by
    intro key run' hrun'
    by_cases hkey : key = c.key
    · exact ⟨run, hkey ▸ hrun, fun _ => hprogress⟩
    · rw [hwrote.runs key hkey] at hrun'
      exact ⟨run', hrun', id⟩
  constructor
  · intro hopening key row' hrow'
    obtain ⟨row, hrow, -, hother, hsame⟩ := hassessment key row' hrow'
    have hended := h.waiting hopening key row hrow
    by_cases hkey : key = c.key.1
    · rw [hsame hkey]
      exact hwaits hopening row hended
    · rw [hother hkey]
      exact hended
  · intro key n run' hrun'
    obtain ⟨old, hold, -⟩ := hruns (key, n) run' hrun'
    obtain ⟨row, hrow, hle, hne⟩ := h.numbered key n old hold
    by_cases hkey : key = c.key.1
    · refine ⟨f row, ?_, by rw [hf]; exact hle, hne⟩
      exact hkey ▸ (hwrote.assessment.trans (by rw [← hkey, hrow, Option.map_some]))
    · exact ⟨row, (hwrote.assessments key hkey).trans hrow, hle, hne⟩
  · intro key n run' row' hrun' hprogress' hrow'
    obtain ⟨old, hold, hback⟩ := hruns (key, n) run' hrun'
    obtain ⟨row, hrow, hlatest, -⟩ := hassessment key row' hrow'
    rw [hlatest]
    exact h.newest key n old row hold (hback hprogress') hrow
  · intro key row' hrow'
    obtain ⟨row, hrow, hlatest, hother, hsame⟩ := hassessment key row' hrow'
    by_cases hkey : key = c.key.1
    · subst hkey
      have hn : c.key.2 = row.latestRunNumber := h.newest c.key.1 c.key.2 run row hrun hprogress hrow
      have hne : row.latestRunNumber ≠ 0 := by
        obtain ⟨_, -, -, hne⟩ := h.numbered c.key.1 c.key.2 run hrun
        exact hn ▸ hne
      have hkey : (c.key.1, row.latestRunNumber) = c.key := by rw [← hn]
      rcases h.latest c.key.1 row hrow with ⟨hzero, -⟩ | ⟨run', hrun', hconclusion, hstatus⟩
      · exact absurd hzero hne
      rw [hkey] at hrun' hstatus
      obtain rfl := Option.mem_unique hrun hrun'
      obtain ⟨hconcluded, hagrees⟩ := hshows row hconclusion hstatus
      rw [hsame rfl]
      refine .inr ⟨g run, ?_, hconcluded, ?_⟩
      · rw [hf, hkey]
        exact hown
      · rw [hf, hkey]
        exact hagrees
    · rw [hother hkey]
      have hne : (key, row.latestRunNumber) ≠ c.key := fun heq => hkey (congrArg Prod.fst heq)
      refine (h.latest key row hrow).goto (hwrote.runs _ hne) ?_
      intro c' bundle run' hmarking hkey'
      obtain rfl := Option.mem_unique hcall hmarking
      obtain rfl := Option.some.inj hclaim
      exact absurd hkey'.symm hne
  · intro j pc₁ c₁ hj hc₁
    by_cases hij : j = i
    · subst hij
      obtain rfl := Option.mem_unique lookup_goto_self hj
      obtain ⟨rfl, hstatus⟩ := hclaim' c₁ hc₁
      exact ⟨g run, hown, hstatus⟩
    · rw [lookup_goto_of_ne hij] at hj
      have hne : c₁.key ≠ c.key := fun heq => hij (h.distinct j i pc₁ pc c₁ c hj hcall hc₁ hclaim heq)
      obtain ⟨old, hold, hstatus⟩ := h.claimed j pc₁ c₁ hj hc₁
      exact ⟨old, (hwrote.runs _ hne).trans hold, hstatus⟩
  · have hback : ∀ j pc₁ c₁, (w.goto t i pc').calls.lookup j = some pc₁ → pc₁.claim? = some c₁ →
        ∃ pc₂, w.calls.lookup j = some pc₂ ∧ pc₂.claim? = some c₁ := by
      intro j pc₁ c₁ hj hc₁
      by_cases hij : j = i
      · subst hij
        obtain rfl := Option.mem_unique lookup_goto_self hj
        obtain ⟨rfl, -⟩ := hclaim' c₁ hc₁
        exact ⟨pc, hcall, hclaim⟩
      · rw [lookup_goto_of_ne hij] at hj
        exact ⟨pc₁, hj, hc₁⟩
    intro j k pc₁ pc₂ c₁ c₂ hj hk hc₁ hc₂ hsame
    obtain ⟨pc₃, hj', hc₁'⟩ := hback j pc₁ c₁ hj hc₁
    obtain ⟨pc₄, hk', hc₂'⟩ := hback k pc₂ c₂ hk hc₂
    exact h.distinct j k pc₃ pc₄ c₁ c₂ hj' hk' hc₁' hc₂' hsame

/-! ## Claims -/

/-- An assessment that is not in progress has no run in progress. -/
theorem Tracked.not_inProgress (h : Tracked w) (hopen : w.openers = 0) (hrow : w.store.assessment key = some row)
    (hfree : row.status.inProgress = false) {n : Nat} (hrun : w.store.run (key, n) = some run) :
    run.status.inProgress = false := by
  cases hprogress : run.status.inProgress with
  | false => rfl
  | true =>
    obtain rfl := h.newest key n run row hrun hprogress hrow
    rcases h.latest key row hrow with ⟨hzero, -⟩ | ⟨run', hrun', -, hstatus⟩
    · obtain ⟨_, -, -, hne⟩ := h.numbered key row.latestRunNumber run hrun
      exact absurd hzero hne
    · obtain rfl := Option.mem_unique hrun hrun'
      cases hstatus with
      | same hsame =>
        rw [hsame, hprogress] at hfree
        cases hfree
      | marking hcollecting =>
        rw [hcollecting] at hfree
        cases hfree
      | recovering _ _ hopening => exact absurd hopen hopening

/-- **A claim** is of a run that is new, for an assessment that shows nothing yet. -/
theorem Tracked.claim (h : Tracked w) (hopen : w.openers = 0) (hcall : ∀ pc, w.calls.lookup i = some pc → pc.claim? = none)
    (hclaimed : w.store.Claimed t key status row) (hunconcluded : w.Unconcluded key) (hclaim : pc'.claim? = some c)
    (hkey : c.key = (key, row.latestRunNumber + 1)) (hstatus : pc'.status = status) : Tracked (w.goto t i pc') := by
  obtain ⟨row', hrow', hrowStatus, hlatest, hconclusion, -, -⟩ := hclaimed.assessment
  obtain ⟨run, hrun, hrunStatus, hrunConclusion⟩ := hclaimed.run
  have hassessment : ∀ key' r, t.assessment key' = some r → (key' = key ∧ r = row') ∨ (key' ≠ key ∧ w.store.assessment key' = some r) := by
    intro key' r hr
    by_cases hk : key' = key
    · subst hk
      exact .inl ⟨rfl, Option.mem_unique hr hrow'⟩
    · rw [hclaimed.others key' hk] at hr
      exact .inr ⟨hk, hr⟩
  have hruns : ∀ k r, t.run k = some r → (k = (key, row.latestRunNumber + 1) ∧ r = run) ∨ w.store.run k = some r := by
    intro k r hr
    by_cases hk : k = (key, row.latestRunNumber + 1)
    · subst hk
      exact .inl ⟨rfl, Option.mem_unique hr hrun⟩
    · rw [hclaimed.runs k hk] at hr
      exact .inr hr
  have hfresh : ∀ j pc c', w.calls.lookup j = some pc → pc.claim? = some c' → c'.key ≠ c.key := by
    intro j pc c' hj hc' heq
    obtain ⟨old, hold, -⟩ := h.claimed j pc c' hj hc'
    rw [heq, hkey, hclaimed.fresh] at hold
    cases hold
  constructor
  · exact fun hopening => absurd hopen hopening
  · intro key' n r hr
    rcases hruns (key', n) r hr with ⟨heq, rfl⟩ | hold
    · obtain ⟨rfl, rfl⟩ := Prod.mk.inj heq
      exact ⟨row', hrow', hlatest.ge, Nat.succ_ne_zero _⟩
    · obtain ⟨old, hrowOld, hle, hne⟩ := h.numbered key' n r hold
      by_cases hk : key' = key
      · subst hk
        obtain rfl := Option.mem_unique hclaimed.read hrowOld
        exact ⟨row', hrow', by omega, hne⟩
      · exact ⟨old, (hclaimed.others key' hk).trans hrowOld, hle, hne⟩
  · intro key' n r row'' hr hprogress hr''
    rcases hruns (key', n) r hr with ⟨heq, rfl⟩ | hold
    · obtain ⟨rfl, rfl⟩ := Prod.mk.inj heq
      obtain rfl := Option.mem_unique hrow' hr''
      exact hlatest.symm
    · rcases hassessment key' row'' hr'' with ⟨rfl, rfl⟩ | ⟨-, hrowOld⟩
      · have hended := h.not_inProgress hopen hclaimed.read hclaimed.free hold
        rw [hprogress] at hended
        cases hended
      · exact h.newest key' n r row'' hold hprogress hrowOld
  · intro key' r hr
    rcases hassessment key' r hr with ⟨rfl, rfl⟩ | ⟨hk, hrowOld⟩
    · refine .inr ⟨run, ?_, ?_, .same ?_⟩
      · rw [hlatest]
        exact hrun
      · rw [hconclusion, hrunConclusion]
        exact hunconcluded row hclaimed.read
      · rw [hrowStatus, hrunStatus]
    · refine (h.latest key' r hrowOld).goto (hclaimed.runs _ fun heq => hk (Prod.mk.inj heq).1) ?_
      intro c' bundle run' hmarking
      cases hcall _ hmarking
  · intro j pc c' hj hc'
    by_cases hij : j = i
    · subst hij
      obtain rfl := Option.mem_unique lookup_goto_self hj
      obtain rfl := Option.mem_unique hclaim hc'
      refine ⟨run, ?_, fun _ => ?_⟩
      · rw [hkey]
        exact hrun
      · rw [hrunStatus, hstatus]
    · rw [lookup_goto_of_ne hij] at hj
      obtain ⟨old, hold, hphase⟩ := h.claimed j pc c' hj hc'
      have hne := hfresh j pc c' hj hc'
      rw [hkey] at hne
      exact ⟨old, (hclaimed.runs _ hne).trans hold, hphase⟩
  · intro j k pc₁ pc₂ c₁ c₂ hj hk hc₁ hc₂ hsame
    by_cases hji : j = i <;> by_cases hki : k = i
    · rw [hji, hki]
    · subst hji
      obtain rfl := Option.mem_unique lookup_goto_self hj
      obtain rfl := Option.mem_unique hclaim hc₁
      rw [lookup_goto_of_ne hki] at hk
      exact absurd hsame.symm (hfresh k pc₂ c₂ hk hc₂)
    · subst hki
      obtain rfl := Option.mem_unique lookup_goto_self hk
      obtain rfl := Option.mem_unique hclaim hc₂
      rw [lookup_goto_of_ne hji] at hj
      exact absurd hsame (hfresh j pc₁ c₁ hj hc₁)
    · rw [lookup_goto_of_ne hji] at hj
      rw [lookup_goto_of_ne hki] at hk
      exact h.distinct j k pc₁ pc₂ c₁ c₂ hj hk hc₁ hc₂ hsame

/-- A call that stops, or has not claimed a run yet, leaves everything as it is. -/
theorem Tracked.quiet (h : Tracked w) (hnone : pc'.claim? = none)
    (hcall : ∀ c bundle, w.calls.lookup i = some (.marking c bundle) → ¬ w.InProgress c.key) :
    Tracked (w.goto w.store i pc') := by
  have hback : ∀ j pc c, (w.goto w.store i pc').calls.lookup j = some pc → pc.claim? = some c → w.calls.lookup j = some pc := by
    intro j pc c hj hc
    by_cases hij : j = i
    · subst hij
      obtain rfl := Option.mem_unique lookup_goto_self hj
      rw [hnone] at hc
      cases hc
    · rwa [lookup_goto_of_ne hij] at hj
  constructor
  · exact h.waiting
  · exact h.numbered
  · exact h.newest
  · intro key row hrow
    refine (h.latest key row hrow).goto rfl fun c bundle run hmarking _ hrun => ?_
    cases hprogress : run.status.inProgress with
    | false => rfl
    | true => exact absurd ⟨run, hrun, hprogress⟩ (hcall c bundle hmarking)
  · exact fun j pc c hj hc => h.claimed j pc c (hback j pc c hj hc) hc
  · exact fun j k pc pc₂ c c₂ hj hk hc hc₂ => h.distinct j k pc pc₂ c c₂ (hback j pc c hj hc) (hback k pc₂ c₂ hk hc₂) hc hc₂

/-! ## Recovery, and new assessments -/

/-- The first statement of a recovery leaves every assessment that was in progress ahead of its run. -/
theorem Tracked.opens (h : Tracked w) (now : Text) :
    Tracked { w with store := w.store.recoverAssessments now, openers := w.openers + 1 } := by
  have hassessment : ∀ key row', (w.store.recoverAssessments now).assessment key = some row' →
      ∃ row, w.store.assessment key = some row ∧ row'.latestRunNumber = row.latestRunNumber ∧ row'.conclusion = row.conclusion ∧
        ((row.status.inProgress = true ∧ row'.status = .indeterminate) ∨ (row.status.inProgress = false ∧ row' = row)) := by
    intro key row' hrow'
    rw [AuditorStore.assessment_recoverAssessments] at hrow'
    obtain ⟨row, hrow, rfl⟩ := Option.map_eq_some_iff.1 hrow'
    refine ⟨row, hrow, ?_⟩
    cases hprogress : row.status.inProgress with
    | true => exact ⟨rfl, rfl, .inl ⟨rfl, rfl⟩⟩
    | false => exact ⟨rfl, rfl, .inr ⟨rfl, rfl⟩⟩
  constructor
  · intro _ key row' hrow'
    obtain ⟨_, -, -, -, ⟨-, hindeterminate⟩ | ⟨hended, rfl⟩⟩ := hassessment key row' hrow'
    · rw [hindeterminate]
      rfl
    · exact hended
  · intro key n run hrun
    obtain ⟨row, hrow, hle, hne⟩ := h.numbered key n run hrun
    refine ⟨_, (AuditorStore.assessment_recoverAssessments now).trans (by rw [hrow, Option.map_some]), ?_, hne⟩
    split <;> exact hle
  · intro key n run row' hrun hprogress hrow'
    obtain ⟨row, hrow, hlatest, -⟩ := hassessment key row' hrow'
    rw [hlatest]
    exact h.newest key n run row hrun hprogress hrow
  · intro key row' hrow'
    obtain ⟨row, hrow, hlatest, hconclusion, hchanged⟩ := hassessment key row' hrow'
    rcases h.latest key row hrow with ⟨hzero, hcreated, hnone⟩ | ⟨run, hrun, hconcluded, hstatus⟩
    · rcases hchanged with ⟨hprogress, -⟩ | ⟨-, rfl⟩
      · rw [hcreated] at hprogress
        cases hprogress
      · exact .inl ⟨hzero, hcreated, hnone⟩
    · refine .inr ⟨run, ?_, hconclusion.trans hconcluded, ?_⟩
      · rw [hlatest]
        exact hrun
      · rw [hlatest]
        rcases hchanged with ⟨hprogress, hindeterminate⟩ | ⟨hended, rfl⟩
        · cases hstatus with
          | same hsame => exact .recovering hindeterminate (hsame ▸ hprogress) (Nat.succ_ne_zero _)
          | marking _ hevaluating => exact .recovering hindeterminate (by rw [hevaluating]; rfl) (Nat.succ_ne_zero _)
          | recovering _ hinProgress => exact .recovering hindeterminate hinProgress (Nat.succ_ne_zero _)
        · cases hstatus with
          | same hsame => exact .same hsame
          | marking hcollecting hevaluating hmarking => exact .marking hcollecting hevaluating hmarking
          | recovering hindeterminate hinProgress => exact .recovering hindeterminate hinProgress (Nat.succ_ne_zero _)
  · exact h.claimed
  · exact h.distinct

/-- The second statement ends every run that was in progress. -/
theorem Tracked.recovers (h : Tracked w) (hopening : w.openers ≠ 0) (now : Text) :
    Tracked { w with store := w.store.recoverRuns now, openers := w.openers - 1 } := by
  have hwaiting := h.waiting hopening
  have hrun : ∀ key run', (w.store.recoverRuns now).run key = some run' → ∃ run, w.store.run key = some run ∧
      run'.conclusion = run.conclusion ∧ run'.status.inProgress = false ∧
        ((run.status.inProgress = true ∧ run'.status = .indeterminate) ∨ run' = run) := by
    intro key run' hrun'
    rw [AuditorStore.run_recoverRuns] at hrun'
    obtain ⟨run, hrun, rfl⟩ := Option.map_eq_some_iff.1 hrun'
    refine ⟨run, hrun, ?_⟩
    cases hprogress : run.status.inProgress with
    | true => exact ⟨rfl, rfl, .inl ⟨rfl, rfl⟩⟩
    | false => exact ⟨rfl, hprogress, .inr rfl⟩
  constructor
  · exact fun _ => hwaiting
  · intro key n run' hrun'
    obtain ⟨run, hold, -⟩ := hrun (key, n) run' hrun'
    exact h.numbered key n run hold
  · intro key n run' row hrun' hprogress
    obtain ⟨_, -, -, hended, -⟩ := hrun (key, n) run' hrun'
    rw [hended] at hprogress
    cases hprogress
  · intro key row hrow
    rcases h.latest key row hrow with hnone | ⟨run, hold, hconcluded, hstatus⟩
    · exact .inl hnone
    · have hkept : (w.store.recoverRuns now).run (key, row.latestRunNumber) = _ := AuditorStore.run_recoverRuns now
      rw [hold, Option.map_some] at hkept
      refine .inr ⟨_, hkept, ?_, .same ?_⟩
      · split <;> exact hconcluded
      · cases hstatus with
        | same hsame =>
          have hended : run.status.inProgress = false := hsame ▸ hwaiting key row hrow
          rw [hended]
          exact hsame
        | marking hcollecting =>
          have hended := hwaiting key row hrow
          rw [hcollecting] at hended
          cases hended
        | recovering hindeterminate hprogress =>
          rw [if_pos hprogress]
          exact hindeterminate
  · intro i pc c hi hc
    obtain ⟨run, hold, -⟩ := h.claimed i pc c hi hc
    have hkept : (w.store.recoverRuns now).run c.key = _ := AuditorStore.run_recoverRuns now
    rw [hold, Option.map_some] at hkept
    refine ⟨_, hkept, fun hprogress => ?_⟩
    obtain ⟨_, -, -, hended, -⟩ := hrun c.key _ hkept
    rw [hended] at hprogress
    cases hprogress
  · exact h.distinct

/-- A runtime that stops before the second leaves nothing behind if another is to make it, or if no run was in progress. -/
theorem Tracked.quits (h : Tracked w) (hopening : w.openers ≠ 0)
    (hquits : 1 < w.openers ∨ ∀ run ∈ w.store.runs, run.status.inProgress = false) :
    Tracked { w with openers := w.openers - 1 } := by
  constructor
  · exact fun _ => h.waiting hopening
  · exact h.numbered
  · exact h.newest
  · intro key row hrow
    refine (h.latest key row hrow).mono rfl (fun _ _ _ h => h) fun run hrun hprogress _ => ?_
    rcases hquits with hmany | hnothing
    · exact Nat.sub_ne_zero_of_lt hmany
    · rw [hnothing run (Rows.mem_of_row hrun)] at hprogress
      cases hprogress
  · exact h.claimed
  · exact h.distinct

theorem Tracked.creates (h : Tracked w) {sha256 : Text → Text} {spec : AssessmentSpecInput} {assessmentId createdBy now : Text}
    (hcreated : w.store.createAssessment sha256 spec assessmentId createdBy now = some t) : Tracked { w with store := t } := by
  unfold AuditorStore.createAssessment at hcreated
  split_ifs at hcreated with hfresh
  cases hcreated
  have hnone : w.store.assessment (spec.tenantId, assessmentId) = none := Option.not_isSome_iff_eq_none.1 hfresh
  have hkept : ∀ key row, w.store.assessment key = some row → ∀ new : AssessmentRow,
      Rows.row AssessmentRow.key (w.store.assessments ++ [new]) key = some row := by
    intro key row hrow new
    have hold : Rows.row AssessmentRow.key w.store.assessments key = some row := hrow
    rw [Rows.row_append, hold, Option.some_or]
  have hassessment : ∀ new : AssessmentRow, new.latestRunNumber = 0 ∧ new.status = .created ∧ new.conclusion = none →
      ∀ key row', Rows.row AssessmentRow.key (w.store.assessments ++ [new]) key = some row' →
        w.store.assessment key = some row' ∨ (row'.latestRunNumber = 0 ∧ row'.status = .created ∧ row'.conclusion = none) := by
    intro new hcreated key row' hrow'
    rw [Rows.row_append] at hrow'
    rcases Option.or_eq_some_iff.1 hrow' with hold | ⟨-, hnew⟩
    · exact .inl hold
    · split_ifs at hnew
      cases hnew
      exact .inr hcreated
  constructor
  · intro hopening key row' hrow'
    rcases hassessment _ ⟨rfl, rfl, rfl⟩ key row' hrow' with hold | ⟨-, hstatus, -⟩
    · exact h.waiting hopening key row' hold
    · rw [hstatus]
      rfl
  · intro key n run hrun
    obtain ⟨row, hrow, hle, hne⟩ := h.numbered key n run hrun
    exact ⟨row, hkept key row hrow _, hle, hne⟩
  · intro key n run row' hrun hprogress hrow'
    obtain ⟨row, hrow, -⟩ := h.numbered key n run hrun
    obtain rfl := Option.some.inj ((hkept key row hrow _).symm.trans hrow')
    exact h.newest key n run row hrun hprogress hrow
  · intro key row' hrow'
    rcases hassessment _ ⟨rfl, rfl, rfl⟩ key row' hrow' with hold | hnothing
    · exact (h.latest key row' hold).mono rfl (fun _ _ _ h => h) fun _ _ _ h => h
    · exact .inl hnothing
  · exact h.claimed
  · exact h.distinct

/-! ## Runs that have ended -/

theorem EndedKept.refl (w : AuditorSystem) : EndedKept w w := fun _ _ hrun _ => ⟨hrun, rfl, rfl⟩

theorem EndedKept.trans {w'' : AuditorSystem} (h : EndedKept w w') (h' : EndedKept w' w'') : EndedKept w w'' := by
  intro key run hrun hended
  obtain ⟨hrun', hresults, hfindings⟩ := h key run hrun hended
  obtain ⟨hrun'', hresults', hfindings'⟩ := h' key run hrun' hended
  exact ⟨hrun'', hresults'.trans hresults, hfindings'.trans hfindings⟩

/-- A call that holds its run writes to no run that has ended. -/
theorem EndedKept.wrote (hcall : w.calls.lookup i = some pc) (hclaim : pc.claim? = some c) (hholds : w.Holds i)
    (hwrote : w.store.Wrote t c.key f g) : EndedKept w (w.goto t i pc') := by
  intro key run hrun hended
  have hne : key ≠ c.key := by
    rintro rfl
    obtain ⟨run', hrun', hprogress⟩ := hholds pc c hcall hclaim
    obtain rfl := Option.mem_unique hrun hrun'
    rw [hended] at hprogress
    cases hprogress
  exact ⟨(hwrote.runs key hne).trans hrun, hwrote.results key hne, hwrote.findings key hne⟩

/-- A claim writes to no run that is there. -/
theorem EndedKept.claim (hclaimed : w.store.Claimed t key status row) : EndedKept w (w.goto t i pc') := by
  intro k run hrun _
  have hne : k ≠ (key, row.latestRunNumber + 1) := by
    rintro rfl
    rw [hclaimed.fresh] at hrun
    cases hrun
  refine ⟨(hclaimed.runs k hne).trans hrun, ?_, ?_⟩
  · show AuditorStore.resultsOf t k = _
    rw [AuditorStore.resultsOf, hclaimed.results]
    rfl
  · show AuditorStore.findingsOf t k = _
    rw [AuditorStore.findingsOf, hclaimed.findings]
    rfl

/-! ## Steps -/

/-- What a step of a call that holds its run needs to know of it. -/
theorem Tracked.held (h : Tracked w) (hcall : w.calls.lookup i = some pc) (hclaim : pc.claim? = some c) (hholds : w.Holds i) :
    ∃ run, w.store.run c.key = some run ∧ run.status.inProgress = true ∧ run.status = pc.status := by
  obtain ⟨run, hrun, hprogress⟩ := hholds pc c hcall hclaim
  obtain ⟨run', hrun', hphase⟩ := h.claimed i pc c hcall hclaim
  obtain rfl := Option.mem_unique hrun hrun'
  exact ⟨run, hrun, hprogress, hphase hprogress⟩

/-- Ending a run as incomplete leaves it and its assessment with one status, and the runs that have ended alone. -/
theorem Tracked.incomplete (h : Tracked w) (hcall : w.calls.lookup i = some pc) (hclaim : pc.claim? = some c)
    (hholds : w.Holds i) (status : AssessmentStatus) (hended : status.inProgress = false) (now : Text) :
    Tracked (w.goto (w.store.finalizeAsIncomplete c.key status now) i .over) ∧
      EndedKept w (w.goto (w.store.finalizeAsIncomplete c.key status now) i .over) := by
  obtain ⟨run, hrun, hprogress, -⟩ := h.held hcall hclaim hholds
  have hwrote := AuditorStore.wrote_finalizeAsIncomplete w.store c.key status now
  refine ⟨?_, .wrote hcall hclaim hholds hwrote⟩
  exact h.wrote hcall hclaim hrun hprogress hwrote (fun _ => rfl) (fun _ _ _ => hended)
    (fun row hconclusion _ => ⟨hconclusion, .same rfl⟩) fun _ hnone => nomatch hnone

/-- **Every step** that meets the condition keeps assessments with their runs, and leaves the runs that have ended alone. -/
theorem tracked_step (hstep : AuditorStep p w l w') (horder : Orderly w l) (h : Tracked w) : Tracked w' ∧ EndedKept w w' := by
  cases l with
  | creates spec assessmentId createdBy now =>
    obtain ⟨t, ht, rfl⟩ := Option.map_eq_some_iff.1 hstep
    refine ⟨h.creates ht, ?_⟩
    unfold AuditorStore.createAssessment at ht
    split_ifs at ht
    cases ht
    exact .refl w
  | claims i key openedAt now =>
    simp only [AuditorStep, AuditorSystem.next] at hstep
    split_ifs at hstep with hnew
    obtain ⟨⟨t, row⟩, hclaim, rfl⟩ := Option.map_eq_some_iff.1 hstep
    have hclaimed := AuditorStore.claim_ok hclaim
    refine ⟨h.claim horder.1 ?_ hclaimed horder.2 rfl rfl rfl, .claim hclaimed⟩
    intro pc hpc
    rw [hpc] at hnew
    exact absurd rfl hnew
  | collects i bundle =>
    simp only [AuditorStep, AuditorSystem.next] at hstep
    split at hstep
    · next c hcall =>
      cases hstep
      obtain ⟨run, hrun, hprogress, hphase⟩ := h.held hcall rfl horder
      have hwrote := AuditorStore.wrote_transitionRunRow w.store c.key .evaluating
      refine ⟨h.wrote hcall rfl hrun hprogress hwrote (fun _ => rfl) (fun _ _ hended => hended) ?_ ?_,
        .wrote hcall rfl horder hwrote⟩
      · intro row hconclusion hstatus
        refine ⟨hconclusion, ?_⟩
        have hmarking : (w.goto (w.store.transitionRunRow c.key .evaluating) i (.marking c bundle)).Marking c.key :=
          ⟨i, c, bundle, lookup_goto_self, rfl⟩
        cases hstatus with
        | same hsame => exact .marking (hsame.trans hphase) rfl hmarking
        | marking hcollecting => exact .marking hcollecting rfl hmarking
        | recovering hindeterminate _ hopening => exact .recovering hindeterminate rfl hopening
      · intro c' hc'
        exact ⟨(Option.some.inj hc').symm, fun _ => rfl⟩
    · cases hstep
  | marks i now =>
    simp only [AuditorStep, AuditorSystem.next] at hstep
    split at hstep
    · next c bundle hcall =>
      cases hstep
      obtain ⟨run, hrun, hprogress, hphase⟩ := h.held hcall rfl horder.2
      have hwrote := AuditorStore.wrote_transitionAssessmentRow w.store c.key .evaluating now
      refine ⟨h.wrote hcall rfl hrun hprogress hwrote (fun _ => rfl) (fun hopening => absurd horder.1 hopening) ?_ ?_,
        .wrote hcall rfl horder.2 hwrote⟩
      · intro row hconclusion _
        exact ⟨hconclusion, .same hphase.symm⟩
      · intro c' hc'
        exact ⟨(Option.some.inj hc').symm, fun _ => hphase⟩
    · cases hstep
  | collectFails i now =>
    simp only [AuditorStep, AuditorSystem.next] at hstep
    split at hstep
    · next c hcall =>
      cases hstep
      exact h.incomplete hcall rfl horder _ rfl _
    · cases hstep
  | finalizes i now findingIds completedAt =>
    simp only [AuditorStep, AuditorSystem.next] at hstep
    split at hstep
    · next c bundle hcall =>
      split at hstep
      · next e he =>
        obtain ⟨t, ht, rfl⟩ := Option.map_eq_some_iff.1 hstep
        obtain ⟨run, hrun, hprogress, -⟩ := h.held hcall rfl horder
        refine ⟨?_, .wrote hcall rfl horder (.of_finalize ht)⟩
        exact h.wrote hcall rfl hrun hprogress (.of_finalize ht) (fun _ => rfl) (fun _ _ _ => rfl)
          (fun _ _ _ => ⟨rfl, .same rfl⟩) fun _ hnone => nomatch hnone
      · cases hstep
    · cases hstep
  | fails i now =>
    simp only [AuditorStep, AuditorSystem.next] at hstep
    split at hstep
    · next c bundle hcall =>
      cases hstep
      exact h.incomplete hcall rfl horder _ rfl _
    · cases hstep
  | loads i key runNumber openedAt =>
    simp only [AuditorStep, AuditorSystem.next] at hstep
    split_ifs at hstep with hnew
    obtain ⟨r, -, rfl⟩ := Option.map_eq_some_iff.1 hstep
    refine ⟨h.quiet rfl ?_, .refl w⟩
    intro c bundle hcall
    rw [hcall] at hnew
    exact absurd rfl hnew
  | claimsReplay i now =>
    simp only [AuditorStep, AuditorSystem.next] at hstep
    split at hstep
    · next r hcall =>
      obtain ⟨⟨t, row⟩, hclaim, rfl⟩ := Option.map_eq_some_iff.1 hstep
      have hclaimed := AuditorStore.claim_ok hclaim
      refine ⟨h.claim horder.1 ?_ hclaimed (horder.2 r hcall) rfl rfl rfl, .claim hclaimed⟩
      intro pc hpc
      obtain rfl := Option.mem_unique hcall hpc
      rfl
    · cases hstep
  | loses i =>
    simp only [AuditorStep, AuditorSystem.next] at hstep
    split_ifs at hstep
    cases hstep
    exact ⟨h.quiet rfl horder, .refl w⟩
  | opens now =>
    cases hstep
    exact ⟨h.opens now, .refl w⟩
  | recovers now =>
    simp only [AuditorStep, AuditorSystem.next] at hstep
    split_ifs at hstep with hopening
    cases hstep
    refine ⟨h.recovers hopening now, fun key run hrun hended => ⟨?_, rfl, rfl⟩⟩
    refine (AuditorStore.run_recoverRuns now).trans ?_
    rw [hrun, Option.map_some, hended]
    rfl
  | quits =>
    simp only [AuditorStep, AuditorSystem.next] at hstep
    split_ifs at hstep with hopening
    cases hstep
    exact ⟨h.quits hopening horder, .refl w⟩

end

/-- **In a run whose steps all meet the condition** every assessment shows its latest run, has at most one run in progress,
and a run that has ended stays as it is. -/
theorem consistent_of_run {p : AuditorParts} {w w' : AuditorSystem} {before after : List AuditorLabel}
    (hbefore : Run (fun w l w' => AuditorStep p w l w' ∧ Orderly w l) .initial before w)
    (hafter : Run (fun w l w' => AuditorStep p w l w' ∧ Orderly w l) w after w') :
    Consistent w ∧ Consistent w' ∧ EndedKept w w' := by
  have hw : Tracked w := hbefore.invariant (I := Tracked) (fun _ _ _ h hw => (tracked_step h.1 h.2 hw).1) tracked_initial
  obtain ⟨hw', hkept⟩ := hafter.invariant (I := fun w' => Tracked w' ∧ EndedKept w w') (fun _ _ _ h hu =>
    let hstep := tracked_step h.1 h.2 hu.1
    ⟨hstep.1, hu.2.trans hstep.2⟩) ⟨hw, .refl w⟩
  exact ⟨hw.consistent, hw'.consistent, hkept⟩

/-- A specification, for the runs below. -/
def sampleSpecInput : AssessmentSpecInput where
  tenantId := "t"
  name := "n"
  description := none
  scope := ⟨[], Value.distinct_nil⟩
  controlProfileId := .tnaBaselineV01
  evidenceCutoffAt := "2026-01-01T00:00:00.000Z"

/-- No evidence. -/
def emptyBundle : EvidenceBundle := ⟨"t", "2026-01-01T00:00:00.000Z", "2026-01-01T00:00:00.000Z", [], [], [], false⟩

def plainParts : AuditorParts := ⟨fun _ => "h", fun _ _ => true⟩

/-- An assessment of which one run is evaluated. -/
def completedOnce : List AuditorLabel :=
  [.creates sampleSpecInput "a" "u" "2026-01-01T00:00:00.000Z", .claims 1 ("t", "a") 0 "2026-01-01T00:00:00.000Z",
    .collects 1 emptyBundle, .marks 1 "2026-01-01T00:00:00.000Z",
    .finalizes 1 0 (fun n => decimal n) "2026-01-01T00:00:00.000Z"]

/-- It has evaluated to something. -/
theorem consistent_of_run_completed : ∃ w w', Consistent w ∧ Consistent w' ∧ EndedKept w w' ∧
    ((w.store.run (("t", "a"), 1)).any fun run => run.status = .completed) = true := by
  have hreplay : (replay (fun w l => if Orderly w l then AuditorSystem.next plainParts w l else none) .initial completedOnce).any
      (fun w => (w.store.run (("t", "a"), 1)).any fun run => run.status = .completed) = true := by decide +kernel
  obtain ⟨w, hrun, htest⟩ := run_of_guarded_test hreplay
  obtain ⟨hw, hw', hkept⟩ := consistent_of_run hrun (.nil w)
  exact ⟨w, w, hw, hw', hkept, htest⟩

/-- A run that another runtime ends while its evidence is collected. -/
def endedWhileCollecting : List AuditorLabel :=
  [.creates sampleSpecInput "a" "u" "2026-01-01T00:00:00.000Z", .claims 1 ("t", "a") 0 "2026-01-01T00:00:00.000Z",
    .opens "2026-01-01T00:01:00.000Z", .recovers "2026-01-01T00:01:00.000Z"]

/-- Its call goes on, and the run that has ended is evaluated. -/
theorem not_consistent_of_run : ¬ ∀ (p : AuditorParts) (w w' : AuditorSystem) (before after : List AuditorLabel),
    Run (AuditorStep p) .initial before w → Run (AuditorStep p) w after w' → Consistent w ∧ Consistent w' ∧ EndedKept w w' := by
  intro h
  have hended : (replay (AuditorSystem.next plainParts) .initial endedWhileCollecting).any
      (fun w => (w.store.run (("t", "a"), 1)).any (fun run => run.status = .indeterminate) &&
        (replay (AuditorSystem.next plainParts) w [.collects 1 emptyBundle]).any
          fun w' => (w'.store.run (("t", "a"), 1)).any fun run => run.status = .evaluating) = true := by decide +kernel
  obtain ⟨w, hbefore, htest⟩ := run_of_test hended
  rw [Bool.and_eq_true] at htest
  obtain ⟨w', hafter, hgoesOn⟩ := run_of_test htest.2
  obtain ⟨-, -, hkept⟩ := h plainParts w w' endedWhileCollecting _ hbefore hafter
  obtain ⟨run, hrun, hindeterminate⟩ := (Option.any_eq_true ..).1 htest.1
  obtain ⟨run', hrun', hevaluating⟩ := (Option.any_eq_true ..).1 hgoesOn
  have hstatus : run.status = .indeterminate := of_decide_eq_true hindeterminate
  obtain ⟨hsame, -⟩ := hkept (("t", "a"), 1) run hrun (by rw [hstatus]; rfl)
  obtain rfl := Option.mem_unique hsame hrun'
  rw [hstatus] at hevaluating
  exact absurd hevaluating (by decide)

end Tna.Auditor
