import Tna.Lib.Transition

/-!
# Handlers and transactions

A handler changes its state as it goes and may stop with an error; what it has changed
by then stays changed. These are the computations of `EStateM`. A transaction is a
handler that leaves nothing behind unless it commits. A handler that works on a
transition system is a run of it, wherever it stops.
-/

namespace Tna.Lib

section
variable {ε σ α β : Type} {s t : σ}

variable {f : α → EStateM ε σ β} {m body : EStateM ε σ α} {commits : Bool} {failure : ε} {a : α} {E : σ → Prop}
  {Q : α → σ → Prop}

/-- A sequence that answered answered in its first part, and from there in the rest. -/
theorem bind_answered {b : β} (h : (m >>= f) s = .ok b t) : ∃ a u, m s = .ok a u ∧ f a u = .ok b t := by
  simp only [bind, EStateM.bind] at h
  split at h
  · next a u hm => exact ⟨a, u, hm, h⟩
  · cases h

theorem run_get (s : σ) : (EStateM.get s : EStateM.Result ε σ σ) = .ok s s := rfl

theorem run_set (s t : σ) : (EStateM.set t s : EStateM.Result ε σ PUnit) = .ok ⟨⟩ t := rfl

/-- `BEGIN`, a body, and `COMMIT`, which may fail; after an error everything is rolled back. -/
def tx (commits : Bool) (failure : ε) (body : EStateM ε σ α) : EStateM ε σ α := fun s =>
  match body s with
  | .ok a t => if commits then .ok a t else .error failure s
  | .error e _ => .error e s

/-- **Rollback**: a transaction that throws leaves nothing behind. -/
theorem eq_of_tx_error {e : ε} (h : tx commits failure body s = .error e t) : t = s := by
  unfold tx at h
  split at h
  · split at h
    · cases h
    · cases h
      rfl
  · cases h
    rfl

/-- What a transaction answers its body answered. -/
theorem body_of_tx (h : tx commits failure body s = .ok a t) : body s = .ok a t := by
  unfold tx at h
  split at h
  · next hbody =>
    split at h
    · cases h
      exact hbody
    · cases h
  · cases h

/-- A transaction that answers commits. -/
theorem commits_of_tx (h : tx commits failure body s = .ok a t) : commits = true := by
  unfold tx at h
  split at h
  · split at h
    · next hcommits => exact hcommits
    · cases h
  · cases h

/-! ## Answering, and what an error leaves -/

/-- Stop with an error unless a condition is met. -/
def demand (condition : Bool) (e : ε) : EStateM ε σ Unit := if condition then pure () else throw e

/-- What is there, or an error. -/
def demandSome (found : Option α) (e : ε) : EStateM ε σ α :=
  match found with
  | some a => pure a
  | none => throw e

/-- The handler answers. -/
def Answers (m : EStateM ε σ α) (s : σ) : Prop := ∃ a t, m s = .ok a t

/-- If the handler throws, what is watched of the state it leaves is this. -/
def Leaves {ω : Type} (watch : σ → ω) (v : ω) (m : EStateM ε σ α) (s : σ) : Prop := ∀ e t, m s = .error e t → watch t = v

section
variable {ω : Type} {watch : σ → ω} {v : ω} {m : EStateM ε σ α} {f : α → EStateM ε σ β}

theorem bind_eq_ok {b : β} : (m >>= f) s = .ok b t ↔ ∃ a u, m s = .ok a u ∧ f a u = .ok b t := by
  refine ⟨bind_answered, ?_⟩
  rintro ⟨a, u, hm, hf⟩
  simp only [bind, EStateM.bind, hm]
  exact hf

variable {e e' : ε} {condition : Bool} {found : Option α}

theorem bind_eq_error : (m >>= f) s = .error e t ↔ m s = .error e t ∨ ∃ a u, m s = .ok a u ∧ f a u = .error e t := by
  simp only [bind, EStateM.bind]
  cases hm : m s with
  | ok a u =>
    constructor
    · exact fun h => .inr ⟨a, u, rfl, h⟩
    · rintro (h | ⟨_, _, h, hf⟩)
      · cases h
      · cases h
        exact hf
  | error e' u =>
    constructor
    · intro h
      cases h
      exact .inl rfl
    · rintro (h | ⟨_, _, h, -⟩)
      · cases h
        rfl
      · cases h

theorem answers_pure (a : α) : Answers (pure a : EStateM ε σ α) s := ⟨a, s, rfl⟩

/-- A sequence answers when its first part does, and the rest from there. -/
theorem answers_bind : Answers (m >>= f) s ↔ ∃ a t, m s = .ok a t ∧ Answers (f a) t := by
  constructor
  · rintro ⟨b, u, h⟩
    obtain ⟨a, t, hm, hf⟩ := bind_answered h
    exact ⟨a, t, hm, b, u, hf⟩
  · rintro ⟨a, t, hm, b, u, hf⟩
    exact ⟨b, u, bind_eq_ok.2 ⟨a, t, hm, hf⟩⟩

theorem leaves_pure (a : α) : Leaves watch v (pure a : EStateM ε σ α) s := fun _ _ h => nomatch h

/-- What a sequence leaves is what its first part leaves or, when that answers, what the rest leaves. -/
theorem leaves_bind : Leaves watch v (m >>= f) s ↔ Leaves watch v m s ∧ ∀ a t, m s = .ok a t → Leaves watch v (f a) t := by
  constructor
  · intro h
    refine ⟨fun e t hm => h e t (bind_eq_error.2 (.inl hm)), ?_⟩
    intro a t hm e u hf
    exact h e u (bind_eq_error.2 (.inr ⟨a, t, hm, hf⟩))
  · rintro ⟨hfirst, hrest⟩ e t h
    rcases bind_eq_error.1 h with hm | ⟨a, u, hm, hf⟩
    · exact hfirst e t hm
    · exact hrest a u hm e t hf

theorem demand_eq_ok {u : Unit} : demand condition e s = .ok u t ↔ condition = true ∧ t = s := by
  cases condition with
  | true =>
    constructor
    · intro h
      cases h
      exact ⟨rfl, rfl⟩
    · rintro ⟨-, rfl⟩
      rfl
  | false =>
    constructor
    · intro h
      cases h
    · rintro ⟨h, -⟩
      cases h

theorem demandSome_eq_ok {a : α} : demandSome found e s = .ok a t ↔ found = some a ∧ t = s := by
  cases found with
  | some b =>
    constructor
    · intro h
      cases h
      exact ⟨rfl, rfl⟩
    · rintro ⟨h, rfl⟩
      cases h
      rfl
  | none =>
    constructor
    · intro h
      cases h
    · rintro ⟨h, -⟩
      cases h

theorem demand_eq_error : (demand condition e : EStateM ε σ Unit) s = .error e' t ↔ condition = false ∧ e' = e ∧ t = s := by
  cases condition with
  | true =>
    constructor
    · intro h
      cases h
    · rintro ⟨h, -⟩
      cases h
  | false =>
    constructor
    · intro h
      cases h
      exact ⟨rfl, rfl, rfl⟩
    · rintro ⟨-, rfl, rfl⟩
      rfl

theorem demandSome_eq_error : (demandSome found e : EStateM ε σ α) s = .error e' t ↔ found = none ∧ e' = e ∧ t = s := by
  cases found with
  | some b =>
    constructor
    · intro h
      cases h
    · rintro ⟨h, -⟩
      cases h
  | none =>
    constructor
    · intro h
      cases h
      exact ⟨rfl, rfl, rfl⟩
    · rintro ⟨-, rfl, rfl⟩
      rfl

end

/-! ## Handlers as runs -/

/-- The state a handler leaves, however it ends. -/
def after (m : EStateM ε σ α) (s : σ) : σ :=
  match m s with
  | .ok _ t => t
  | .error _ t => t

/-- Where the handler answers, this holds of its answer and the state; where it throws, that holds of the state. -/
def Ends (m : EStateM ε σ α) (s : σ) (Q : α → σ → Prop) (E : σ → Prop) : Prop :=
  match m s with
  | .ok a t => Q a t
  | .error _ t => E t

theorem ends_iff : Ends m s Q E ↔ (∀ a t, m s = .ok a t → Q a t) ∧ ∀ e t, m s = .error e t → E t := by
  unfold Ends
  cases m s with
  | ok a t => simp
  | error e t => simp

theorem Ends.imp {Q' : α → σ → Prop} {E' : σ → Prop} (h : Ends m s Q E) (hQ : ∀ a t, Q a t → Q' a t) (hE : ∀ t, E t → E' t) :
    Ends m s Q' E' := by
  rw [ends_iff] at h ⊢
  exact ⟨fun a t hok => hQ a t (h.1 a t hok), fun e t herror => hE t (h.2 e t herror)⟩

theorem ends_after {P : σ → Prop} : Ends m s (fun _ => P) P ↔ P (after m s) := by
  unfold Ends after
  cases m s <;> rfl

/-- **The sequencing rule**: the rest of a sequence starts where its first part answers. -/
theorem ends_bind {Q : β → σ → Prop} : Ends (m >>= f) s Q E ↔ Ends m s (fun a t => Ends (f a) t Q E) E := by
  unfold Ends
  simp only [bind, EStateM.bind]
  cases m s <;> rfl

theorem Ends.andThen {R : α → σ → Prop} {Q : β → σ → Prop} (h : Ends m s R E) (hf : ∀ a t, R a t → Ends (f a) t Q E) :
    Ends (m >>= f) s Q E :=
  ends_bind.2 (h.imp hf fun _ hE => hE)

section
variable {τ κ : Type}

/-- However the handler ends, what it did to a part of the state is a run of allowed steps. -/
def Performs (view : σ → τ) (step : τ → κ → τ → Prop) (A : κ → Prop) (m : EStateM ε σ α) : Prop :=
  ∀ s, ∃ as, (∀ a ∈ as, A a) ∧ Run step (view s) as (view (after m s))

variable {view : σ → τ} {step : τ → κ → τ → Prop} {A : κ → Prop} {m : EStateM ε σ α} {f : α → EStateM ε σ β}

/-- A handler that leaves the part alone performs no steps. -/
theorem Performs.of_view_eq (h : ∀ s, view (after m s) = view s) : Performs view step A m := by
  intro s
  refine ⟨[], List.forall_mem_nil _, ?_⟩
  rw [h]
  exact .nil _

theorem Performs.pure (a : α) : Performs view step A (pure a : EStateM ε σ α) := .of_view_eq fun _ => rfl

theorem Performs.throw (e : ε) : Performs view step A (throw e : EStateM ε σ α) := .of_view_eq fun _ => rfl

theorem Performs.demand (condition : Bool) (e : ε) : Performs view step A (demand condition e) := by
  cases condition
  · exact .throw e
  · exact .pure ()

theorem Performs.demandSome (found : Option α) (e : ε) : Performs view step A (demandSome found e) := by
  cases found
  · exact .throw e
  · exact .pure _

/-- **The sequencing rule**: the steps of the first part, and then those of the rest, if it comes to that. -/
theorem Performs.bind (hm : Performs view step A m) (hf : ∀ a, Performs view step A (f a)) :
    Performs view step A (m >>= f) := by
  intro s
  obtain ⟨as, has, hrun⟩ := hm s
  unfold after at hrun ⊢
  simp only [Bind.bind, EStateM.bind]
  split at hrun
  · next a t hfirst =>
    obtain ⟨bs, hbs, hrest⟩ := hf a t
    unfold after at hrest
    rw [hfirst]
    exact ⟨as ++ bs, List.forall_mem_append.2 ⟨has, hbs⟩, hrun.trans hrest⟩
  · next e t hfirst =>
    rw [hfirst]
    exact ⟨as, has, hrun⟩

/-- What allowed steps keep a handler keeps. -/
theorem Performs.keeps {I : τ → Prop} (h : Performs view step A m) (hstep : ∀ x a y, step x a y → A a → I x → I y)
    (hs : I (view s)) : I (view (after m s)) := by
  obtain ⟨as, has, hrun⟩ := h s
  exact hrun.guarded_invariant hstep hs has

end

end

end Tna.Lib
