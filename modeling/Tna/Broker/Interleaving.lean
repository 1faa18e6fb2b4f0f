import Tna.Broker.Call
import Tna.Broker.Issue
import Mathlib.Logic.Function.Basic
import Mathlib.Data.List.Pairwise

/-!
# Many calls over one store

Any number of `issue` and `redeem` calls, of any number of broker instances, run
over one store piece by piece in any order. A call that fails at an await or
crashes is one that is answered so, or takes no further step. Two things are
taken from outside: the random ids of a call were never drawn before, and a codec
opens no token that was not signed.
-/

namespace Tna.Broker

open Tna.Js Tna.Gate Tna.Lib

/-! ## The system -/

/-- The store, the calls of `redeem` with the broker each runs in, and every payload signed so far. -/
structure System (ι : Type) where
  store : Store
  calls : ℕ → Option (ι × Pc)
  signed : List CapabilityPayload

inductive SystemLabel where
  | issue
  | begin
  | call (i : ℕ) (written : List Transition) (invoked : Option Invocation)
  | process

/-- The calls of handlers and runners in a sequence of steps. -/
def invocations (labels : List SystemLabel) : List Invocation :=
  labels.flatMap fun
    | .call _ _ invoked => invoked.toList
    | _ => []

/-- What one call wrote to the evidence in a sequence of steps. -/
def writtenBy (i : ℕ) (labels : List SystemLabel) : List Transition :=
  labels.flatMap fun
    | .call j written _ => if j = i then written else []
    | _ => []

section
variable {ι : Type}

def System.setCall (x : System ι) (i : ℕ) (k : ι) (pc : Pc) (s : Store) : System ι :=
  { x with store := s, calls := Function.update x.calls i (some (k, pc)) }

/-- What a call issued adds to the payloads signed. -/
def System.issued (x : System ι) (e : IssueEffect) : System ι :=
  { x with store := e.store, signed := x.signed ++ e.signed.toList }

/-- One step: an `issue`, the beginning of a `redeem`, a piece of one, or a change of
the Gate's part of the store. -/
inductive SystemStep (brokers : ι → ExecutionBroker) : System ι → SystemLabel → System ι → Prop where
  | issue {x : System ι} (k : ι) (r : IssueRandom) (w : IssueWrites) (principal : Principal) (decisionId : Text)
    (hcapability : ∀ p ∈ x.signed, p.capabilityId ≠ r.capabilityId)
    (hexecution : ∀ p ∈ x.signed, p.executionId ≠ r.executionId) :
    SystemStep brokers x .issue (x.issued (Broker.issue (brokers k) r w x.store principal decisionId))
  | begin {x : System ι} {i : ℕ} (k : ι) (principal : Principal) (input : RedeemInput) (hfree : x.calls i = none) :
    SystemStep brokers x .begin (x.setCall i k (.start principal input) x.store)
  | call {x : System ι} {i : ℕ} {k : ι} {pc : Pc} {a : Answer} {e : Effect} (hi : x.calls i = some (k, pc))
    (hsigned : ∀ principal input, pc = .start principal input → ∀ p,
      (brokers k).codec.openToken input.token = some p → p ∈ x.signed)
    (h : redeemStep (brokers k) x.store pc a = some e) :
    SystemStep brokers x (.call i (e.written x.store) e.invoked) (x.setCall i k e.pc e.store)
  | process {x : System ι} (s : Store) (hcapabilities : s.capabilities = x.store.capabilities)
    (hexecutions : s.executions = x.store.executions) : SystemStep brokers x .process { x with store := s }

/-- A store without capabilities, and no call yet. -/
def System.init (s : Store) : System ι := ⟨{ s with capabilities := ∅ }, fun _ => none, []⟩

/-- What a view of counters sees of a call. -/
def System.at (x : System ι) (f : Pc → Option RedeemCall) (i : ℕ) : Option RedeemCall :=
  (x.calls i).bind fun call => f call.2

@[simp] theorem setCall_calls_self (x : System ι) (i : ℕ) (k : ι) (pc : Pc) (s : Store) :
    (x.setCall i k pc s).calls i = some (k, pc) := Function.update_self ..

variable {i : ℕ} {pc : Pc} {x : System ι} {c : RedeemCall}

theorem setCall_calls_of_ne (x : System ι) {j : ℕ} (hij : j ≠ i) (k : ι) (pc : Pc) (s : Store) :
    (x.setCall i k pc s).calls j = x.calls j := Function.update_of_ne hij ..

theorem at_setCall (x : System ι) (f : Pc → Option RedeemCall) (i j : ℕ) (k : ι) (pc : Pc) (s : Store) :
    (x.setCall i k pc s).at f j = if j = i then f pc else x.at f j := by
  simp only [System.at, System.setCall, Function.update_apply]
  split <;> rfl

theorem at_setCall_self (x : System ι) (f : Pc → Option RedeemCall) (i : ℕ) (k : ι) (pc : Pc) (s : Store) :
    (x.setCall i k pc s).at f i = f pc := by
  rw [at_setCall, if_pos rfl]

theorem at_of_calls {k : ι} (h : x.calls i = some (k, pc)) (f : Pc → Option RedeemCall) : x.at f i = f pc := by
  simp [System.at, h]

/-! ## The views -/

/-- The verified call at any counter that has one. -/
def Pc.carried? : Pc → Option RedeemCall
  | .consuming c => some c
  | pc => pc.held?

/-- The call whose capability has been consumed and whose handler or runner has not been called. -/
def Pc.pending? : Pc → Option RedeemCall
  | .leasing c => some c
  | .preparing c _ => some c
  | .makingWorkspace c .. => some c
  | _ => none

theorem carried?_of_held? (h : pc.held? = some c) : pc.carried? = some c := by
  cases pc <;> first | exact h | cases h

theorem held?_of_pending? (h : pc.pending? = some c) : pc.held? = some c := by
  cases pc <;> first | exact h | cases h

theorem carried?_of_call? (h : pc.call? = some c) : pc.carried? = some c := by
  cases pc <;> first | exact h | cases h

theorem at_mono {f g : Pc → Option RedeemCall} (hfg : ∀ {pc c}, f pc = some c → g pc = some c) (h : x.at f i = some c) :
    x.at g i = some c := by
  obtain ⟨call, hcall, hc⟩ := Option.bind_eq_some_iff.1 h
  exact Option.bind_eq_some_iff.2 ⟨call, hcall, hfg hc⟩

/-! ## The invariant -/

/-- The capability is recorded as consumed. -/
def Store.Consumed (s : Store) (capabilityId : Text) : Prop :=
  ∃ record, s.capabilities.lookup capabilityId = some record ∧ record.consumed = true

/-- **What holds along every run**, with the handlers and runners called so far. -/
structure Once (log : List Invocation) (x : System ι) : Prop where
  /-- A record is of a signed capability, under its id. -/
  recorded : ∀ id record, x.store.capabilities.lookup id = some record →
    record.capability ∈ x.signed ∧ record.capability.capabilityId = id
  /-- One record a decision. -/
  single : ∀ id record id' record', x.store.capabilities.lookup id = some record →
    x.store.capabilities.lookup id' = some record' →
    record.capability.decisionId = record'.capability.decisionId → id = id'
  capabilityIds : ∀ p ∈ x.signed, ∀ p' ∈ x.signed, p.capabilityId = p'.capabilityId → p = p'
  executionIds : ∀ p ∈ x.signed, ∀ p' ∈ x.signed, p.executionId = p'.executionId → p = p'
  carried : ∀ i c, x.at Pc.carried? i = some c → c.payload ∈ x.signed
  held : ∀ i c, x.at Pc.held? i = some c → x.store.Consumed c.payload.capabilityId
  /-- No two calls hold one capability. -/
  apart : ∀ i j c c', x.at Pc.held? i = some c → x.at Pc.held? j = some c' →
    c.payload.capabilityId = c'.payload.capabilityId → i = j
  pending : ∀ i c, x.at Pc.pending? i = some c → ∀ inv ∈ log, inv.capabilityId ≠ c.payload.capabilityId
  logged : ∀ inv ∈ log, x.store.Consumed inv.capabilityId
  /-- What was invoked was signed, for the decision it was invoked with. -/
  loggedSigned : ∀ inv ∈ log, ∃ p ∈ x.signed, p.capabilityId = inv.capabilityId ∧ p.decisionId = inv.decisionId
  distinct : (log.map Invocation.capabilityId).Nodup

theorem consumed_issued {s : Store} {token : Text} {p : CapabilityPayload} {capabilityId : Text}
    (hid : s.capabilities.lookup p.capabilityId = none) (h : s.Consumed capabilityId) :
    (s.issued token p).Consumed capabilityId := by
  obtain ⟨record, hrecord, hconsumed⟩ := h
  refine ⟨record, ?_, hconsumed⟩
  have hne : capabilityId ≠ p.capabilityId := by
    rintro rfl
    cases hid.symm.trans hrecord
  exact (AList.lookup_insert_ne hne).trans hrecord

theorem once_init (s : Store) : Once [] (System.init (ι := ι) s) where
  recorded := by simp [System.init]
  single := by simp [System.init]
  capabilityIds := by simp [System.init]
  executionIds := by simp [System.init]
  carried := by simp [System.init, System.at]
  held := by simp [System.init, System.at]
  apart := by simp [System.init, System.at]
  pending := by simp
  logged := by simp
  loggedSigned := by simp
  distinct := by simp

/-! ## What each kind of step preserves -/

section
variable {log : List Invocation} {x y : System ι}

/-- Calls that only move on, over the same records. -/
theorem Once.of_views (h : Once log x) (hcap : y.store.capabilities = x.store.capabilities)
    (hsigned : y.signed = x.signed)
    (hcarried : ∀ i c, y.at Pc.carried? i = some c → x.at Pc.carried? i = some c ∨ c.payload ∈ x.signed)
    (hheld : ∀ i c, y.at Pc.held? i = some c → x.at Pc.held? i = some c)
    (hpending : ∀ i c, y.at Pc.pending? i = some c → x.at Pc.pending? i = some c) : Once log y where
  recorded := by rw [hcap, hsigned]; exact h.recorded
  single := by rw [hcap]; exact h.single
  capabilityIds := by rw [hsigned]; exact h.capabilityIds
  executionIds := by rw [hsigned]; exact h.executionIds
  carried i c hc := by
    rw [hsigned]
    exact (hcarried i c hc).elim (h.carried i c) id
  held i c hc := by
    simp only [Store.Consumed, hcap]
    exact h.held i c (hheld i c hc)
  apart i j c c' hc hc' := h.apart i j c c' (hheld i c hc) (hheld j c' hc')
  pending i c hc := h.pending i c (hpending i c hc)
  logged inv hinv := by
    simp only [Store.Consumed, hcap]
    exact h.logged inv hinv
  loggedSigned := by rw [hsigned]; exact h.loggedSigned
  distinct := h.distinct

variable {p : CapabilityPayload}

/-- An injective field stays so when a payload with a new value of it is added. -/
theorem injective_snoc {l : List CapabilityPayload} {f : CapabilityPayload → Text} (h : ∀ q ∈ l, ∀ q' ∈ l, f q = f q' → q = q')
    (hnew : ∀ q ∈ l, f q ≠ f p) : ∀ q ∈ l ++ [p], ∀ q' ∈ l ++ [p], f q = f q' → q = q' := by
  intro q hq q' hq' heq
  rcases List.mem_append.1 hq with hq | hq <;> rcases List.mem_append.1 hq' with hq' | hq'
  · exact h q hq q' hq' heq
  · cases List.mem_singleton.1 hq'
    exact absurd heq (hnew q hq)
  · cases List.mem_singleton.1 hq
    exact absurd heq.symm (hnew q' hq')
  · exact (List.mem_singleton.1 hq).trans (List.mem_singleton.1 hq').symm

/-- A payload with new ids is signed. -/
theorem Once.sign (h : Once log x) (hcapability : ∀ q ∈ x.signed, q.capabilityId ≠ p.capabilityId)
    (hexecution : ∀ q ∈ x.signed, q.executionId ≠ p.executionId) : Once log { x with signed := x.signed ++ [p] } where
  recorded key record hr := (h.recorded key record hr).imp (List.mem_append_left _) id
  single := h.single
  capabilityIds := injective_snoc h.capabilityIds hcapability
  executionIds := injective_snoc h.executionIds hexecution
  carried i c hc := List.mem_append_left _ (h.carried i c hc)
  held := h.held
  apart := h.apart
  pending := h.pending
  logged := h.logged
  loggedSigned inv hinv := by
    obtain ⟨q, hq, hids⟩ := h.loggedSigned inv hinv
    exact ⟨q, List.mem_append_left _ hq, hids⟩
  distinct := h.distinct

/-- A signed payload whose id and decision have no record is recorded. -/
theorem Once.record (h : Once log x) {p : CapabilityPayload} (token : Text) (hp : p ∈ x.signed)
    (hid : x.store.capabilities.lookup p.capabilityId = none)
    (hnew : ∀ key record, x.store.capabilities.lookup key = some record → record.capability.decisionId ≠ p.decisionId) :
    Once log { x with store := x.store.issued token p } where
  recorded key record hr := by
    rcases Table.lookup_insert_cases hr with ⟨rfl, rfl⟩ | ⟨-, hr⟩
    · exact ⟨hp, rfl⟩
    · exact h.recorded key record hr
  single key record key' record' hr hr' heq := by
    rcases Table.lookup_insert_cases hr with ⟨rfl, rfl⟩ | ⟨-, hr⟩ <;>
      rcases Table.lookup_insert_cases hr' with ⟨rfl, rfl⟩ | ⟨-, hr'⟩
    · rfl
    · exact absurd heq.symm (hnew key' record' hr')
    · exact absurd heq (hnew key record hr)
    · exact h.single key record key' record' hr hr' heq
  capabilityIds := h.capabilityIds
  executionIds := h.executionIds
  carried := h.carried
  held i c hc := consumed_issued hid (h.held i c hc)
  apart := h.apart
  pending := h.pending
  logged inv hinv := consumed_issued hid (h.logged inv hinv)
  loggedSigned := h.loggedSigned
  distinct := h.distinct

/-- An `issue` whose ids were never drawn before. -/
theorem Once.issue (h : Once log x) {r : IssueRandom} {decisionId : Text} {e : IssueEffect}
    (hcapability : ∀ p ∈ x.signed, p.capabilityId ≠ r.capabilityId)
    (hexecution : ∀ p ∈ x.signed, p.executionId ≠ r.executionId) (he : Issued x.store r decisionId e) :
    Once log (x.issued e) := by
  cases he with
  | refused hext =>
    obtain ⟨events, rfl⟩ := hext
    exact h.of_views rfl (List.append_nil _) (fun _ _ hc => .inl hc) (fun _ _ hc => hc) fun _ _ hc => hc
  | rolledBack hp => exact h.sign (hp.capabilityId ▸ hcapability) (hp.executionId ▸ hexecution)
  | stored hp hnew =>
    refine Once.record (h.sign (hp.capabilityId ▸ hcapability) (hp.executionId ▸ hexecution)) _
      (List.mem_append_right _ (List.mem_singleton_self _)) ?_ (hp.decisionId ▸ hnew)
    cases hlookup : x.store.capabilities.lookup _ with
    | none => rfl
    | some record =>
      obtain ⟨hmem, hkey⟩ := h.recorded _ _ hlookup
      exact absurd (hkey.trans hp.capabilityId) (hcapability _ hmem)

/-! ### The pieces of a call -/

section
variable {i : ℕ} {k : ι} {pc pc' : Pc} {c : RedeemCall} {s : Store}

/-- A call moves on; it holds and awaits no more than before. -/
theorem Once.move (h : Once log x) (hi : x.calls i = some (k, pc)) (hcap : s.capabilities = x.store.capabilities)
    (hcarried : ∀ c, pc'.carried? = some c → pc.carried? = some c ∨ c.payload ∈ x.signed)
    (hheld : ∀ c, pc'.held? = some c → pc.held? = some c)
    (hpending : ∀ c, pc'.pending? = some c → pc.pending? = some c) : Once log (x.setCall i k pc' s) := by
  refine h.of_views hcap rfl (fun j c hc => ?_) (fun j c hc => ?_) fun j c hc => ?_
  all_goals
    rw [at_setCall] at hc
    split at hc
    next hj =>
      subst hj
      rw [at_of_calls hi]
      first
      | exact hcarried c hc
      | exact hheld c hc
      | exact hpending c hc
    next => first
      | exact .inl hc
      | exact hc

/-- A call begins. -/
theorem Once.begin (h : Once log x) {principal : Principal} {input : RedeemInput} :
    Once log (x.setCall i k (.start principal input) x.store) := by
  refine h.of_views rfl rfl (fun j c hc => ?_) (fun j c hc => ?_) fun j c hc => ?_
  all_goals
    rw [at_setCall] at hc
    split at hc
    next => cases hc
    next => first
      | exact .inl hc
      | exact hc

variable {key key' : Text} {record : CapabilityRecord} {t : Table Text CapabilityRecord} {a : Answer} {b : ExecutionBroker}
  {e : Effect}

/-- Every record is still there after a consumption, of the same capability. -/
theorem lookup_consumed {record' : CapabilityRecord} (hrecord : t.lookup key = some record)
    (h : (t.insert key { record with consumed := true }).lookup key' = some record') :
    ∃ old, t.lookup key' = some old ∧ record'.capability = old.capability := by
  rcases Table.lookup_insert_cases h with ⟨rfl, rfl⟩ | ⟨-, h⟩
  · exact ⟨record, hrecord, rfl⟩
  · exact ⟨record', h, rfl⟩

theorem consumed_insert (h : ∃ r, t.lookup key' = some r ∧ r.consumed = true) :
    ∃ r, (t.insert key { record with consumed := true }).lookup key' = some r ∧ r.consumed = true := by
  by_cases hk : key' = key
  · subst hk
    exact ⟨_, AList.lookup_insert _, rfl⟩
  · obtain ⟨r, hr, hconsumed⟩ := h
    exact ⟨r, (AList.lookup_insert_ne hk).trans hr, hconsumed⟩

/-- A call consumes its capability. -/
theorem Once.consume (h : Once log x) {ok : Bool} (hi : x.calls i = some (k, .consuming c))
    (hs : x.store.consume ok c.payload = .ok s) (hheld : pc'.held? = some c) (hpending : pc'.pending? = some c) :
    Once log (x.setCall i k pc' s) := by
  obtain ⟨record, hrecord, hunconsumed, rfl⟩ := consume_ok hs
  have hcarried : c.payload ∈ x.signed := h.carried i c (at_of_calls hi _)
  have hfree : ¬ x.store.Consumed c.payload.capabilityId := by
    rintro ⟨record', hrecord', hconsumed⟩
    cases hrecord.symm.trans hrecord'
    cases hunconsumed.symm.trans hconsumed
  constructor
  · intro key record' hr
    obtain ⟨old, hold, hcapability⟩ := lookup_consumed hrecord hr
    rw [hcapability]
    exact h.recorded key old hold
  · intro key r key' r' hr hr' heq
    obtain ⟨old, hold, hcapability⟩ := lookup_consumed hrecord hr
    obtain ⟨old', hold', hcapability'⟩ := lookup_consumed hrecord hr'
    exact h.single key old key' old' hold hold' (by rw [← hcapability, ← hcapability', heq])
  · exact h.capabilityIds
  · exact h.executionIds
  · intro j c' hc
    rw [at_setCall] at hc
    split at hc
    · cases (carried?_of_held? hheld).symm.trans hc
      exact hcarried
    · exact h.carried j c' hc
  · intro j c' hc
    rw [at_setCall] at hc
    split at hc
    · cases hheld.symm.trans hc
      exact ⟨_, AList.lookup_insert _, rfl⟩
    · exact consumed_insert (h.held j c' hc)
  · intro j j' c' c'' hc hc' heq
    rw [at_setCall] at hc hc'
    split at hc <;> split at hc'
    · next hj hj' => exact hj.trans hj'.symm
    · cases hheld.symm.trans hc
      exact absurd (heq ▸ h.held j' c'' hc') hfree
    · cases hheld.symm.trans hc'
      exact absurd (heq ▸ h.held j c' hc) hfree
    · exact h.apart j j' c' c'' hc hc' heq
  · intro j c' hc inv hinv
    rw [at_setCall] at hc
    split at hc
    · cases hpending.symm.trans hc
      intro heq
      exact hfree (heq ▸ h.logged inv hinv)
    · exact h.pending j c' hc inv hinv
  · exact fun inv hinv => consumed_insert (h.logged inv hinv)
  · exact h.loggedSigned
  · exact h.distinct

/-- A call that awaited its invocation makes it. -/
theorem Once.invoke (h : Once log x) (hheld : x.at Pc.held? i = some c) (hnot : x.at Pc.pending? i = none)
    (hnew : ∀ inv ∈ log, inv.capabilityId ≠ c.payload.capabilityId) : Once (log ++ [c.invocation]) x where
  recorded := h.recorded
  single := h.single
  capabilityIds := h.capabilityIds
  executionIds := h.executionIds
  carried := h.carried
  held := h.held
  apart := h.apart
  pending j c' hc inv hinv := by
    rcases List.mem_append.1 hinv with hinv | hinv
    · exact h.pending j c' hc inv hinv
    · cases List.mem_singleton.1 hinv
      intro heq
      cases h.apart i j c c' hheld (at_mono held?_of_pending? hc) heq
      cases hnot.symm.trans hc
  logged inv hinv := by
    rcases List.mem_append.1 hinv with hinv | hinv
    · exact h.logged inv hinv
    · cases List.mem_singleton.1 hinv
      exact h.held i c hheld
  loggedSigned inv hinv := by
    rcases List.mem_append.1 hinv with hinv | hinv
    · exact h.loggedSigned inv hinv
    · cases List.mem_singleton.1 hinv
      exact ⟨c.payload, h.carried i c (at_mono carried?_of_held? hheld), rfl, rfl⟩
  distinct := by
    rw [List.map_append, List.nodup_append]
    refine ⟨h.distinct, List.nodup_singleton _, fun key hkey key' hkey' => ?_⟩
    obtain ⟨inv, hinv, rfl⟩ := List.mem_map.1 hkey
    cases List.mem_singleton.1 hkey'
    exact hnew inv hinv

theorem endWrite_capabilities {s' : Store} (h : EndWrite s pc s') : s'.capabilities = s.capabilities := by
  cases h <;> rfl

theorem carried?_of_ends (h : pc.ends = true) : pc.carried? = pc.writer? := by
  cases pc <;> first | rfl | cases h

theorem pending?_of_ends (h : pc.ends = true) : pc.pending? = none := by
  cases pc <;> first | rfl | cases h

/-- The verified call at a counter was carried there, or has just passed the checks. -/
theorem carried_or_passed (h : redeemStep b s pc a = some e) (hc : e.pc.carried? = some c) :
    pc.carried? = some c ∨ ∃ principal input, pc = .start principal input ∧ Passed b s.gate principal input c := by
  cases piece_of_step h with
  | ends hpc hheld _ =>
    exact .inl (carried?_of_held? (hheld c ((carried?_of_ends hpc).symm.trans hc)))
  | @advance c' _ hadv =>
    cases hadv with
    | checked hp =>
      cases hc
      exact .inr ⟨_, _, rfl, hp⟩
    | consumed _ =>
      left
      simp only [Effect.quiet] at hc
      split at hc <;> exact hc
    | leased _ => exact .inl hc
    | requested _ => exact .inl hc
    | handled _ => exact .inl hc
    | ran => exact .inl hc

/-- A piece of a call whose token, if it opens, was signed. -/
theorem Once.call (h : Once log x) (hi : x.calls i = some (k, pc))
    (hsigned : ∀ principal input, pc = .start principal input → ∀ p,
      b.codec.openToken input.token = some p → p ∈ x.signed) (hstep : redeemStep b x.store pc a = some e) :
    Once (log ++ e.invoked.toList) (x.setCall i k e.pc e.store) := by
  cases piece_of_step hstep with
  | ends hpc hheld hs =>
    rw [show (Effect.quiet _ _).invoked.toList = [] from rfl, List.append_nil]
    refine h.move hi (endWrite_capabilities hs) (fun c hc => .inl ?_) (fun c hc => ?_) fun c hc => ?_
    · exact carried?_of_held? (hheld c ((carried?_of_ends hpc).symm.trans hc))
    · exact hheld c ((writer?_of_ends hpc).symm.trans hc)
    · cases (pending?_of_ends hpc).symm.trans hc
  | @advance c e hadv =>
    cases hadv with
    | checked hp =>
      rw [show (Effect.quiet _ _).invoked.toList = [] from rfl, List.append_nil]
      refine h.move hi rfl (fun c' hc => .inr ?_) (fun c' hc => by cases hc) fun c' hc => by cases hc
      cases hc
      exact hsigned _ _ rfl _ (openToken_of_verify hp.verified)
    | consumed hs =>
      rw [show (Effect.quiet _ _).invoked.toList = [] from rfl, List.append_nil]
      refine h.consume hi hs ?_ ?_
      · simp only [Effect.quiet]
        split <;> rfl
      · simp only [Effect.quiet]
        split <;> rfl
    | leased _ =>
      rw [show (Effect.quiet _ _).invoked.toList = [] from rfl, List.append_nil]
      exact h.move hi rfl (fun _ hc => .inl hc) (fun _ hc => hc) fun _ hc => hc
    | requested _ =>
      rw [show (Effect.quiet _ _).invoked.toList = [] from rfl, List.append_nil]
      exact h.move hi rfl (fun _ hc => .inl hc) (fun _ hc => hc) fun _ hc => hc
    | @handled leases _ =>
      have hmoved : Once log (x.setCall i k (.handling c leases) x.store) :=
        h.move hi rfl (fun _ hc => .inl hc) (fun _ hc => hc) fun _ hc => by cases hc
      exact hmoved.invoke (at_setCall_self ..) (at_setCall_self ..) (h.pending i c (at_of_calls hi _))
    | @ran leases adapter w =>
      have hmoved : Once log (x.setCall i k (.running c leases adapter w) x.store) :=
        h.move hi rfl (fun _ hc => .inl hc) (fun _ hc => hc) fun _ hc => by cases hc
      exact hmoved.invoke (at_setCall_self ..) (at_setCall_self ..) (h.pending i c (at_of_calls hi _))

end

/-! ## Runs -/

variable {brokers : ι → ExecutionBroker} {labels : List SystemLabel}

theorem once_step (labels : List SystemLabel) (x : System ι) (l : SystemLabel) (y : System ι)
    (h : SystemStep brokers x l y) (hx : Once (invocations labels) x) : Once (invocations (labels ++ [l])) y := by
  have hlog : invocations (labels ++ [l]) = invocations labels ++ invocations [l] := by simp [invocations]
  rw [hlog]
  cases h with
  | issue k r w principal decisionId hcapability hexecution =>
    rw [show invocations [.issue] = [] from rfl, List.append_nil]
    exact hx.issue hcapability hexecution (issued_of_issue ..)
  | begin k principal input hfree =>
    rw [show invocations [.begin] = [] from rfl, List.append_nil]
    exact hx.begin
  | call hi hsigned h =>
    rw [show ∀ j w inv, invocations [.call j w inv] = inv.toList from fun _ _ _ => List.append_nil _]
    exact hx.call hi hsigned h
  | process s hcapabilities hexecutions =>
    rw [show invocations [.process] = [] from rfl, List.append_nil]
    exact hx.of_views hcapabilities rfl (fun _ _ hc => .inl hc) (fun _ _ hc => hc) fun _ _ hc => hc

theorem once_of_run {s : Store} (hrun : Run (SystemStep brokers) (System.init s) labels x) :
    Once (invocations labels) x :=
  hrun.trace_invariant once_step (once_init s)

/-- What was invoked for one decision was invoked with one capability. -/
theorem Once.capabilityId_of_decisionId (h : Once log x) {inv inv' : Invocation} (hinv : inv ∈ log) (hinv' : inv' ∈ log)
    (heq : inv.decisionId = inv'.decisionId) : inv.capabilityId = inv'.capabilityId := by
  obtain ⟨record, hrecord, -⟩ := h.logged inv hinv
  obtain ⟨record', hrecord', -⟩ := h.logged inv' hinv'
  have hdecision : ∀ inv ∈ log, ∀ record, x.store.capabilities.lookup inv.capabilityId = some record →
      record.capability.decisionId = inv.decisionId := by
    intro inv hinv record hrecord
    obtain ⟨hmem, hkey⟩ := h.recorded _ _ hrecord
    obtain ⟨p, hp, hcapability, hid⟩ := h.loggedSigned inv hinv
    rw [h.capabilityIds _ hmem p hp (hkey.trans hcapability.symm), hid]
  refine h.single _ _ _ _ hrecord hrecord' ?_
  rw [hdecision inv hinv record hrecord, hdecision inv' hinv' record' hrecord', heq]

/-- **Once.** After any interleaving of calls of `issue` and `redeem`, whichever of them
fail, a decision has at most one capability record, and no handler or runner has been
called twice for a capability, nor twice for a decision. -/
theorem invoked_once {s : Store} (hrun : Run (SystemStep brokers) (System.init s) labels x) :
    (∀ key record key' record', x.store.capabilities.lookup key = some record →
      x.store.capabilities.lookup key' = some record' →
      record.capability.decisionId = record'.capability.decisionId → key = key') ∧
    ((invocations labels).map Invocation.capabilityId).Nodup ∧
    ((invocations labels).map Invocation.decisionId).Nodup := by
  have h := once_of_run hrun
  refine ⟨h.single, h.distinct, ?_⟩
  have hpairs := List.pairwise_map.1 h.distinct
  refine List.pairwise_map.2 (hpairs.imp_of_mem fun hinv hinv' hne heq => hne ?_)
  exact h.capabilityId_of_decisionId hinv hinv' heq

variable (brokers) in
/-- A call replayed in the system, of a broker all of whose tokens were signed. -/
theorem systemRun_of_replay {i : ℕ} {k : ι} {as : List Answer} {pc : Pc} {z : Store × Pc}
    (hi : x.calls i = some (k, pc))
    (hsigned : ∀ token p, (brokers k).codec.openToken token = some p → p ∈ x.signed)
    (h : replayCall (brokers k) (x.store, pc) as = some z) :
    ∃ labels, Run (SystemStep brokers) x labels (x.setCall i k z.2 z.1) := by
  induction as generalizing x pc with
  | nil =>
    cases h
    have hsame : x.setCall i k pc x.store = x := by
      rw [System.setCall, ← hi, Function.update_eq_self]
    exact ⟨[], by rw [hsame]; exact .nil x⟩
  | cons a as ih =>
    rw [replayCall, replay] at h
    cases he : redeemStep (brokers k) x.store pc a with
    | none => simp [he] at h
    | some e =>
      simp only [he, Option.map_some] at h
      obtain ⟨labels, hrun⟩ := ih (x := x.setCall i k e.pc e.store) (by simp [System.setCall]) hsigned h
      have hsame : (x.setCall i k e.pc e.store).setCall i k z.2 z.1 = x.setCall i k z.2 z.1 := by
        simp [System.setCall]
      rw [hsame] at hrun
      exact ⟨_, .cons (.call hi (fun _ input _ p hp => hsigned input.token p hp) he) hrun⟩

end

end

/-! ## One call after one `issue` -/

/-- The sample store after a capability was issued for its decision, and a call has begun. -/
def sampleSystem (tool : ToolDefinition) : System Unit :=
  let issued := (System.init sampleStore).issued
    (issue (sampleBroker tool) ⟨"b1", "b2", "e1", "c1", "n"⟩ ⟨true, true, true⟩ (System.init (ι := Unit) sampleStore).store .admin
      "dec_1")
  issued.setCall 0 () (.start .admin sampleInput) issued.store

/-- What a test says of the call replayed it says of a state the system reaches. -/
theorem sampleSystem_of_test (tool : ToolDefinition) (as : List Answer) (test : Store × Pc → Bool)
    (hissue : (sampleSystem tool).signed = [samplePayload])
    (h : (replayCall (sampleBroker tool) ((sampleSystem tool).store, .start .admin sampleInput) as).any test = true) :
    ∃ labels x pc, Run (SystemStep fun _ => sampleBroker tool) (System.init sampleStore) labels x ∧
      x.calls 0 = some ((), pc) ∧ test (x.store, pc) = true := by
  obtain ⟨z, hz, htest⟩ := (Option.any_eq_true ..).1 h
  obtain ⟨labels, hrun⟩ := systemRun_of_replay (fun _ => sampleBroker tool) (x := sampleSystem tool) (i := 0)
    (k := ()) rfl (fun token p hp => by
      rw [hissue, List.mem_singleton]
      simp only [sampleBroker] at hp
      split at hp
      · exact (Option.some.inj hp).symm
      · cases hp) hz
  refine ⟨_, _, z.2, .cons (.issue () _ _ .admin _ (by simp [System.init]) (by simp [System.init]))
    (.cons (.begin () .admin sampleInput rfl) hrun), ?_, htest⟩
  simp [System.setCall]

theorem invoked_once_handlerTool :
    ∃ labels x, Run (SystemStep fun _ => sampleBroker handlerTool) (System.init (ι := Unit) sampleStore) labels x ∧
      (∀ key record key' record', x.store.capabilities.lookup key = some record →
        x.store.capabilities.lookup key' = some record' →
        record.capability.decisionId = record'.capability.decisionId → key = key') ∧
      ((invocations labels).map Invocation.capabilityId).Nodup ∧
      ((invocations labels).map Invocation.decisionId).Nodup := by
  obtain ⟨labels, x, pc, hrun, -, -⟩ := sampleSystem_of_test handlerTool [.go true, .go true, .go true]
    (fun z => z.2.held?.isSome) (by decide +kernel) (by decide +kernel)
  exact ⟨labels, x, hrun, invoked_once hrun⟩

end Tna.Broker
