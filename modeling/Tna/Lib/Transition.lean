import Mathlib.Logic.Relation

/-!
# Transition systems

A system is a relation between states, labelled with what was done. A run is a
list of labelled steps. What holds at the start and is kept by every step holds
in every state a run reaches, and a condition on the steps of a run is a
condition on each step taken where it was taken.
-/

namespace Tna.Lib

section
variable {σ α : Type}

/-- A run from one state to another, step by step. -/
inductive Run (step : σ → α → σ → Prop) : σ → List α → σ → Prop where
  | nil (s : σ) : Run step s [] s
  | snoc {s t u : σ} {as : List α} {a : α} : Run step s as t → step t a u → Run step s (as ++ [a]) u

variable {step : σ → α → σ → Prop}

/-- **The invariant rule**, for what is kept of a state and of the labels that led to it. -/
theorem Run.trace_invariant {I : List α → σ → Prop}
    (hstep : ∀ as s a t, step s a t → I as s → I (as ++ [a]) t) {s t : σ} {as : List α}
    (hrun : Run step s as t) (hs : I [] s) : I as t := by
  induction hrun with
  | nil => exact hs
  | snoc _ hlast ih => exact hstep _ _ _ _ hlast ih

/-- The invariant rule, for what is kept of a state. -/
theorem Run.invariant {I : σ → Prop} (hstep : ∀ s a t, step s a t → I s → I t) {s t : σ} {as : List α}
    (hrun : Run step s as t) (hs : I s) : I t :=
  hrun.trace_invariant (I := fun _ => I) (fun _ => hstep) hs

/-- The invariant rule, where every label of the run meets a condition under which the step keeps it. -/
theorem Run.guarded_invariant {I : σ → Prop} {C : α → Prop} (hstep : ∀ s a t, step s a t → C a → I s → I t) {s t : σ}
    {as : List α} (hrun : Run step s as t) (hs : I s) (has : ∀ a ∈ as, C a) : I t := by
  refine hrun.trace_invariant (I := fun as t => (∀ a ∈ as, C a) → I t) ?_ (fun _ => hs) has
  intro as s a t hlast ih hall
  rw [List.forall_mem_append, List.forall_mem_singleton] at hall
  exact hstep s a t hlast hall.2 (ih hall.1)

/-- A step in front of a run. -/
theorem Run.cons {s t u : σ} {a : α} {as : List α} (h : step s a t) (hrun : Run step t as u) :
    Run step s (a :: as) u := by
  induction hrun with
  | nil => exact .snoc (.nil s) h
  | snoc _ hlast ih => exact .snoc ih hlast

/-- One run after another. -/
theorem Run.trans {s t u : σ} {as bs : List α} (h : Run step s as t) (hrun : Run step t bs u) :
    Run step s (as ++ bs) u := by
  induction hrun with
  | nil =>
    rw [List.append_nil]
    exact h
  | snoc _ hlast ih =>
    rw [← List.append_assoc]
    exact .snoc ih hlast

/-- A run taken apart at one of its steps. -/
theorem Run.split {s t : σ} {before after : List α} {a : α} (hrun : Run step s (before ++ a :: after) t) :
    ∃ u v, Run step s before u ∧ step u a v ∧ Run step v after t := by
  generalize hlabels : before ++ a :: after = labels at hrun
  induction hrun generalizing after with
  | nil => exact absurd hlabels (by simp)
  | @snoc _ _ as b hfirst hlast ih =>
    rcases List.eq_nil_or_concat after with rfl | ⟨after, c, rfl⟩
    · obtain ⟨rfl, hab⟩ := List.append_inj' hlabels rfl
      cases hab
      exact ⟨_, _, hfirst, hlast, .nil _⟩
    · have hends : (before ++ a :: after) ++ [c] = as ++ [b] := by
        rw [← hlabels, List.concat_eq_append, List.append_assoc, List.cons_append]
      obtain ⟨hinit, hbc⟩ := List.append_inj' hends rfl
      cases hbc
      obtain ⟨v, w, hbefore, hstep, hafter⟩ := ih hinit
      rw [List.concat_eq_append]
      exact ⟨v, w, hbefore, hstep, hafter.snoc hlast⟩

/-- A run taken apart at its last step. -/
theorem Run.of_snoc {s u : σ} {as : List α} {a : α} (hrun : Run step s (as ++ [a]) u) :
    ∃ t, Run step s as t ∧ step t a u := by
  generalize hlabels : as ++ [a] = labels at hrun
  cases hrun with
  | nil => exact absurd hlabels (by simp)
  | snoc hfirst hlast =>
    obtain ⟨rfl, hab⟩ := List.append_inj' hlabels rfl
    cases hab
    exact ⟨_, hfirst, hlast⟩

/-- A run of one system is a run of another that has its steps, under labels of its own. -/
theorem Run.relabel {β : Type} (step' : σ → β → σ → Prop) (h : ∀ s a t, step s a t → ∃ b, step' s b t) {s t : σ}
    {as : List α} (hrun : Run step s as t) : ∃ bs, Run step' s bs t := by
  induction hrun with
  | nil => exact ⟨[], .nil s⟩
  | snoc _ hlast ih =>
    obtain ⟨bs, hrun⟩ := ih
    obtain ⟨b, hb⟩ := h _ _ _ hlast
    exact ⟨_, hrun.snoc hb⟩

/-- A run of one system is a run of another that takes its steps under the images of their labels. -/
theorem Run.map {β : Type} {step' : σ → β → σ → Prop} (f : α → β) (h : ∀ s a t, step s a t → step' s (f a) t) {s t : σ}
    {as : List α} (hrun : Run step s as t) : Run step' s (as.map f) t := by
  induction hrun with
  | nil => exact .nil s
  | snoc _ hlast ih =>
    rw [List.map_append]
    exact ih.snoc (h _ _ _ hlast)

/-- A run of one system is a run of another that has its steps. -/
theorem Run.mono {step' : σ → α → σ → Prop} (h : ∀ s a t, step s a t → step' s a t) {s t : σ} {as : List α}
    (hrun : Run step s as t) : Run step' s as t := by
  have hmap := hrun.map id h
  rwa [List.map_id] at hmap

/-- What holds of the label of every step holds of all labels of a run. -/
theorem Run.forall_labels {P : α → Prop} (h : ∀ s a t, step s a t → P a) {s t : σ} {as : List α}
    (hrun : Run step s as t) : ∀ a ∈ as, P a := by
  induction hrun with
  | nil => exact List.forall_mem_nil P
  | snoc _ hlast ih =>
    intro a ha
    rcases List.mem_append.1 ha with ha | ha
    · exact ih a ha
    · rw [List.mem_singleton.1 ha]
      exact h _ _ _ hlast

/-- The labels of the steps of a run are its labels. -/
theorem Run.within {s t : σ} {as : List α} (hrun : Run step s as t) : Run (fun s a t => step s a t ∧ a ∈ as) s as t := by
  induction hrun with
  | nil => exact .nil _
  | snoc _ hlast ih =>
    refine (ih.mono fun _ _ _ h => ?_).snoc ⟨hlast, List.mem_append_right _ (List.mem_singleton_self _)⟩
    exact ⟨h.1, List.mem_append_left _ h.2⟩

/-! ## A step of a run -/

/-- Somewhere in a run a step was taken that has the property, which may speak of the labels before it. -/
def Took (step : σ → α → σ → Prop) (P : List α → σ → α → σ → Prop) (s : σ) (as : List α) (t : σ) : Prop :=
  ∃ before u a v after, as = before ++ a :: after ∧ Run step s before u ∧ step u a v ∧ Run step v after t ∧ P before u a v

variable {P : List α → σ → α → σ → Prop}

theorem Run.took {s t u : σ} {as : List α} {a : α} (hrun : Run step s as t) (h : step t a u) (hP : P as t a u) :
    Took step P s (as ++ [a]) u :=
  ⟨as, t, a, u, [], rfl, hrun, h, .nil u, hP⟩

theorem Took.snoc {s t u : σ} {as : List α} {a : α} (htook : Took step P s as t) (h : step t a u) :
    Took step P s (as ++ [a]) u := by
  obtain ⟨before, v, b, w, after, rfl, hbefore, hb, hafter, hP⟩ := htook
  refine ⟨before, v, b, w, after ++ [a], ?_, hbefore, hb, hafter.snoc h, hP⟩
  rw [List.append_assoc, List.cons_append]

/-- What does not hold where a run starts and holds where it ends came to hold at one of its steps. -/
theorem Run.took_change {I : σ → Prop} {s t : σ} {as : List α} (hrun : Run step s as t) (hs : ¬ I s) (ht : I t) :
    Took step (fun _ u _ v => ¬ I u ∧ I v) s as t := by
  induction hrun with
  | nil => exact absurd ht hs
  | @snoc u _ _ _ hfirst hlast ih =>
    by_cases hu : I u
    · exact (ih hu).snoc hlast
    · exact hfirst.took hlast ⟨hu, ht⟩

/-- A system whose labels determine its steps: a partial function, replayed. -/
def replay (next : σ → α → Option σ) : σ → List α → Option σ
  | s, [] => some s
  | s, a :: as =>
    match next s a with
    | some t => replay next t as
    | none => none

/-- What is replayed is a run. -/
theorem run_of_replay {next : σ → α → Option σ} {s t : σ} {as : List α} (h : replay next s as = some t) :
    Run (fun s a t => next s a = some t) s as t := by
  induction as generalizing s with
  | nil =>
    cases h
    exact .nil _
  | cons a as ih =>
    rw [replay] at h
    split at h
    · next u hu => exact .cons hu (ih h)
    · cases h

theorem replay_append {next : σ → α → Option σ} {s t : σ} {as : List α} (h : replay next s as = some t) (bs : List α) :
    replay next s (as ++ bs) = replay next t bs := by
  induction as generalizing s with
  | nil =>
    cases h
    rfl
  | cons a as ih =>
    rw [List.cons_append, replay]
    rw [replay] at h
    split at h
    · exact ih h
    · cases h

/-- A run is what is replayed. -/
theorem replay_of_run {next : σ → α → Option σ} {s t : σ} {as : List α}
    (hrun : Run (fun s a t => next s a = some t) s as t) : replay next s as = some t := by
  induction hrun with
  | nil => rfl
  | snoc _ hlast ih =>
    rw [replay_append ih, replay, hlast]
    rfl

/-- The labels of a run determine where it ends. -/
theorem Run.unique {next : σ → α → Option σ} {s t u : σ} {as : List α}
    (h : Run (fun s a t => next s a = some t) s as t) (h' : Run (fun s a t => next s a = some t) s as u) : t = u :=
  Option.some.inj ((replay_of_run h).symm.trans (replay_of_run h'))

/-! ## What is seen of a run -/

/-- What is seen of each step of a replay, one after another. -/
def observed {β : Type} (next : σ → α → Option σ) (see : σ → α → σ → List β) : σ → List α → List β
  | _, [] => []
  | s, a :: as =>
    match next s a with
    | some t => see s a t ++ observed next see t as
    | none => []

theorem observed_append {β : Type} {next : σ → α → Option σ} {see : σ → α → σ → List β} {s t : σ} {as : List α}
    (hrun : Run (fun s a t => next s a = some t) s as t) (bs : List α) :
    observed next see s (as ++ bs) = observed next see s as ++ observed next see t bs := by
  have h := replay_of_run hrun
  clear hrun
  induction as generalizing s with
  | nil =>
    cases h
    rfl
  | cons a as ih =>
    rw [replay] at h
    rw [List.cons_append, observed, observed]
    cases hnext : next s a with
    | some u =>
      rw [hnext] at h
      simp only [ih h, List.append_assoc]
    | none =>
      rw [hnext] at h
      cases h

/-- The last step of a run is seen last. -/
theorem observed_snoc {β : Type} {next : σ → α → Option σ} {see : σ → α → σ → List β} {s t u : σ} {as : List α} {a : α}
    (hrun : Run (fun s a t => next s a = some t) s as t) (h : next t a = some u) :
    observed next see s (as ++ [a]) = observed next see s as ++ see t a u := by
  rw [observed_append hrun]
  simp only [observed, h, List.append_nil]

/-- What a test says of the end of a replay it says of the end of a run. -/
theorem run_of_test {next : σ → α → Option σ} {s : σ} {as : List α} {test : σ → Bool}
    (h : (replay next s as).any test = true) : ∃ t, Run (fun s a t => next s a = some t) s as t ∧ test t = true := by
  obtain ⟨t, ht, htest⟩ := (Option.any_eq_true ..).1 h
  exact ⟨t, run_of_replay ht, htest⟩

/-- A run whose steps meet a condition, replayed with a test of the condition before each step. -/
theorem run_of_guarded_test {next : σ → α → Option σ} {C : σ → α → Prop} [∀ s a, Decidable (C s a)] {s : σ} {as : List α}
    {test : σ → Bool} (h : (replay (fun s a => if C s a then next s a else none) s as).any test = true) :
    ∃ t, Run (fun s a t => next s a = some t ∧ C s a) s as t ∧ test t = true := by
  obtain ⟨t, hrun, htest⟩ := run_of_test h
  refine ⟨t, hrun.mono fun s a t hstep => ?_, htest⟩
  split at hstep
  · next hC => exact ⟨hstep, hC⟩
  · cases hstep

end

end Tna.Lib
