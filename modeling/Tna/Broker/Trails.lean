import Tna.Broker.Evidence

/-!
# The path of an execution

Read by execution id, the evidence of any interleaving of calls tells one path: the
issuance, one start and one end. Only the refusals, which an issuance or a presented
token leaves at any time, stand beside it.
-/

namespace Tna.Broker

open Tna.Js Tna.Gate Tna.Lib

/-! ## The system -/

section
variable {ι : Type}

/-- The random ids of a call were never drawn before, and differ. -/
structure IssueRandom.Fresh (r : IssueRandom) (x : System ι) : Prop where
  capabilityId : ∀ p ∈ x.signed, p.capabilityId ≠ r.capabilityId
  signed : ∀ p ∈ x.signed, p.executionId ∉ r.executionIds
  evidence : ∀ t ∈ x.store.evidence, t.executionId ∉ r.executionIds
  distinct : r.executionIds.Nodup

/-- The capability was issued and has its record. -/
def Store.Recorded (s : Store) (p : CapabilityPayload) : Prop :=
  ∃ record, s.capabilities.lookup p.capabilityId = some record ∧ record.capability = p

/-- A step of the system in which only the broker appends its transitions: the rest of the process
changes the Gate's part of the store, and a token that opens was issued. -/
inductive EvidenceStep (brokers : ι → ExecutionBroker) : System ι → SystemLabel → System ι → Prop where
  | issue {x : System ι} (k : ι) (r : IssueRandom) (w : IssueWrites) (principal : Principal) (decisionId : Text)
    (hfresh : r.Fresh x) :
    EvidenceStep brokers x .issue (x.issued (Broker.issue (brokers k) r w x.store principal decisionId))
  | begin {x : System ι} {i : ℕ} (k : ι) (principal : Principal) (input : RedeemInput) (hfree : x.calls i = none) :
    EvidenceStep brokers x .begin (x.setCall i k (.start principal input) x.store)
  | call {x : System ι} {i : ℕ} {k : ι} {pc : Pc} {a : Answer} {e : Effect} (hi : x.calls i = some (k, pc))
    (hissued : ∀ principal input, pc = .start principal input → ∀ p,
      (brokers k).codec.openToken input.token = some p → x.store.Recorded p)
    (h : redeemStep (brokers k) x.store pc a = some e) :
    EvidenceStep brokers x (.call i (e.written x.store) e.invoked) (x.setCall i k e.pc e.store)
  | gate {x : System ι} (g : GateState) :
    EvidenceStep brokers x .process { x with store := { x.store with gate := g } }

/-- A store nothing has been written to. -/
def System.empty (g : GateState) : System ι := System.init ⟨g, ∅, ∅, []⟩

/-- It is a step of the system. -/
theorem EvidenceStep.systemStep {brokers : ι → ExecutionBroker} {log : List Invocation} {x y : System ι} {l : SystemLabel}
    (h : EvidenceStep brokers x l y) (hx : Once log x) : SystemStep brokers x l y := by
  cases h with
  | issue k r w principal decisionId hfresh =>
    refine .issue k r w principal decisionId hfresh.capabilityId fun p hp heq => hfresh.signed p hp ?_
    rw [heq]
    simp [IssueRandom.executionIds]
  | begin k principal input hfree => exact .begin k principal input hfree
  | call hi hissued h =>
    refine .call hi (fun principal input hpc p hp => ?_) h
    obtain ⟨record, hrecord, rfl⟩ := hissued principal input hpc p hp
    exact (hx.recorded _ _ hrecord).1
  | gate g => exact .process _ rfl rfl

/-! ## The invariant -/

/-- How far an execution with a capability has come: by its events, by the record of the capability, and by the
summary. -/
inductive Stage (states : List ExecutionState) : Bool → Option ExecutionSummary → Prop where
  | waiting (h : progress states = issuePath) : Stage states false none
  | started {summary : ExecutionSummary} (h : progress states = issuePath ++ [.started]) (hs : summary.state = .started) :
    Stage states true (some summary)
  | ended {summary : ExecutionSummary} {state : ExecutionState} (h : progress states = issuePath ++ [.started, state])
    (hstate : state.terminal = true) (hs : summary.state = state) : Stage states true (some summary)

variable {states : List ExecutionState} {summary : Option ExecutionSummary}

theorem Stage.progress_waiting (h : Stage states false summary) : progress states = issuePath := by
  cases h with
  | waiting h => exact h

theorem Stage.of_progress {states' : List ExecutionState} {consumed : Bool} (h : Stage states consumed summary)
    (heq : progress states' = progress states) : Stage states' consumed summary := by
  cases h with
  | waiting h => exact .waiting (heq.trans h)
  | started h hs => exact .started (heq.trans h) hs
  | ended h hstate hs => exact .ended (heq.trans h) hstate hs

/-- **What holds of the evidence along every run.** -/
structure Trails (x : System ι) : Prop where
  recorded : ∀ key record, x.store.capabilities.lookup key = some record →
    issuePath <+: statesOf x.store.evidence record.capability.executionId ∧
      Stage (statesOf x.store.evidence record.capability.executionId) record.consumed
        (x.store.executions.lookup record.capability.executionId)
  unrecorded : ∀ id, (∀ key record, x.store.capabilities.lookup key = some record → record.capability.executionId ≠ id) →
    (statesOf x.store.evidence id = [] ∨ statesOf x.store.evidence id = [.blocked]) ∧ x.store.executions.lookup id = none
  /-- A call that holds its capability has started it and not ended it. -/
  held : ∀ i c, x.at Pc.held? i = some c →
    progress (statesOf x.store.evidence c.payload.executionId) = issuePath ++ [.started]
  known : ∀ i c, x.at Pc.carried? i = some c → x.store.Recorded c.payload
  sound : ∀ i k pc, x.calls i = some (k, pc) → pc.Sound

theorem trails_empty (g : GateState) : Trails (System.empty (ι := ι) g) where
  recorded := by simp [System.empty, System.init]
  unrecorded := by simp [System.empty, System.init]
  held := by simp [System.empty, System.init, System.at]
  known := by simp [System.empty, System.init, System.at]
  sound := by simp [System.empty, System.init]

section
variable {log : List Invocation} {x y : System ι}

variable {key reason : Text} {record : CapabilityRecord} {p : CapabilityPayload} {r : IssueRandom} {a : Answer}
  {b : ExecutionBroker} {c : RedeemCall} {e : Effect} {pc pc' : Pc} {s : Store} {i : ℕ} {k : ι}

/-- Two records of one execution are one record. -/
theorem Once.key_of_executionId (h : Once log x) {key' : Text} {record' : CapabilityRecord}
    (hr : x.store.capabilities.lookup key = some record) (hr' : x.store.capabilities.lookup key' = some record')
    (heq : record.capability.executionId = record'.capability.executionId) : key = key' := by
  obtain ⟨hmem, hkey⟩ := h.recorded _ _ hr
  obtain ⟨hmem', hkey'⟩ := h.recorded _ _ hr'
  have hsame := h.executionIds _ hmem _ hmem' heq
  rw [← hkey, ← hkey', hsame]

/-- An event is written for an execution with a capability: the rest of the log stands. -/
theorem Trails.write (h : Trails x) (honce : Once log x) {t : Transition} (hp : x.store.Recorded p)
    (hevidence : y.store.evidence = x.store.evidence ++ [t]) (ht : t.executionId = p.executionId)
    (hexecutions : ∀ id, id ≠ p.executionId → y.store.executions.lookup id = x.store.executions.lookup id)
    (hcapabilities : ∀ key record, y.store.capabilities.lookup key = some record →
      ∃ old, x.store.capabilities.lookup key = some old ∧ record.capability = old.capability ∧
        (key ≠ p.capabilityId → record = old)) (hrecorded : ∀ q, x.store.Recorded q → y.store.Recorded q)
    (hstage : ∀ record, y.store.capabilities.lookup p.capabilityId = some record →
      Stage (statesOf y.store.evidence p.executionId) record.consumed (y.store.executions.lookup p.executionId))
    (hheld : ∀ i c, y.at Pc.held? i = some c →
      if c.payload.executionId = p.executionId then
        progress (statesOf y.store.evidence p.executionId) = issuePath ++ [.started]
      else x.at Pc.held? i = some c) (hknown : ∀ i c, y.at Pc.carried? i = some c → x.store.Recorded c.payload)
    (hsound : ∀ i k pc, y.calls i = some (k, pc) → pc.Sound) : Trails y := by
  have hother : ∀ id, id ≠ p.executionId → statesOf y.store.evidence id = statesOf x.store.evidence id := by
    intro id hid
    rw [hevidence, statesOf_snoc_of_ne]
    rw [ht]
    exact fun heq => hid heq.symm
  obtain ⟨recordₚ, hlookup, rfl⟩ := hp
  constructor
  · intro key record hr
    obtain ⟨old, hold, hcapability, hsame⟩ := hcapabilities key record hr
    by_cases hkey : key = recordₚ.capability.capabilityId
    · subst hkey
      cases hlookup.symm.trans hold
      rw [hcapability]
      refine ⟨?_, hstage record hr⟩
      rw [hevidence, statesOf_append]
      exact (h.recorded _ _ hold).1.trans (List.prefix_append _ _)
    · obtain rfl := hsame hkey
      have hid : record.capability.executionId ≠ recordₚ.capability.executionId := by
        intro heq
        exact hkey (honce.key_of_executionId hold hlookup heq)
      rw [hother _ hid, hexecutions _ hid]
      exact h.recorded key record hold
  · intro id hnone
    have hold : ∀ key record, x.store.capabilities.lookup key = some record → record.capability.executionId ≠ id := by
      intro key record hr
      obtain ⟨hmem, hkey⟩ := honce.recorded key record hr
      obtain ⟨record', hr', hcapability⟩ := hrecorded record.capability ⟨record, by rw [hkey]; exact hr, rfl⟩
      rw [← hcapability]
      exact hnone _ _ hr'
    have hid : id ≠ recordₚ.capability.executionId := fun heq => hold _ _ hlookup heq.symm
    rw [hother id hid, hexecutions id hid]
    exact h.unrecorded id hold
  · intro i c hc
    have hc := hheld i c hc
    split at hc
    · next heq =>
      rw [heq]
      exact hc
    · next hne =>
      rw [hother _ hne]
      exact h.held i c hc
  · intro i c hc
    exact hrecorded _ (hknown i c hc)
  · exact hsound

/-- Ids that were drawn now are not those of a capability recorded before. -/
theorem IssueRandom.Fresh.ne_recorded (h : r.Fresh x) (honce : Once log x) (hr : x.store.capabilities.lookup key = some record) :
    record.capability.executionId ∉ r.executionIds :=
  h.signed _ (honce.recorded key record hr).1

/-- An `issue` whose ids were never drawn before. -/
theorem Trails.issue (h : Trails x) (honce : Once log x) {e : IssueEffect} (hfresh : r.Fresh x) (he : IssueAppends x.store r e) :
    Trails (x.issued e) := by
  have hunwritten : ∀ id ∈ r.executionIds, statesOf x.store.evidence id = [] := by
    intro id hid
    refine statesOf_eq_nil _ _ fun t ht heq => hfresh.evidence t ht ?_
    rw [heq]
    exact hid
  have hunrecorded : ∀ id ∈ r.executionIds, x.store.executions.lookup id = none := by
    intro id hid
    refine (h.unrecorded id fun key record hr heq => ?_).2
    exact hfresh.ne_recorded honce hr (heq ▸ hid)
  cases he with
  | @refused events e hrefusals =>
    have hother : ∀ id, id ∉ r.executionIds → statesOf (x.store.evidence ++ events) id = statesOf x.store.evidence id := by
      intro id hid
      have hnone : statesOf events id = [] := by
        refine statesOf_eq_nil _ _ fun t ht heq => hid ?_
        have hmem := hrefusals.ids.subset (List.mem_map_of_mem ht)
        rw [heq] at hmem
        exact List.mem_append_left [r.executionId] hmem
      rw [statesOf_append, hnone, List.append_nil]
    constructor
    · intro key record hr
      simp only [System.issued]
      rw [hother _ (hfresh.ne_recorded honce hr)]
      exact h.recorded key record hr
    · intro id hnone
      obtain ⟨hstates, hexecution⟩ := h.unrecorded id hnone
      refine ⟨?_, hexecution⟩
      simp only [System.issued]
      by_cases hid : id ∈ r.executionIds
      · rw [statesOf_append, hunwritten id hid, List.nil_append]
        exact statesOf_refusals hrefusals hfresh.distinct id
      · rw [hother id hid]
        exact hstates
    · intro i c hc
      obtain ⟨record, hr, hcapability⟩ := h.known i c (at_mono carried?_of_held? hc)
      simp only [System.issued]
      rw [hother _ (hcapability ▸ hfresh.ne_recorded honce hr)]
      exact h.held i c hc
    · exact h.known
    · exact h.sound
  | rolledBack => exact ⟨h.recorded, h.unrecorded, h.held, h.known, h.sound⟩
  | @stored p token hexecution hcapability =>
    have hid : p.executionId ∈ r.executionIds := by
      rw [hexecution]
      simp [IssueRandom.executionIds]
    have hnew : x.store.capabilities.lookup p.capabilityId = none := by
      cases hlookup : x.store.capabilities.lookup p.capabilityId with
      | none => rfl
      | some record =>
        obtain ⟨hmem, hkey⟩ := honce.recorded _ _ hlookup
        exact absurd (hkey.trans hcapability) (hfresh.capabilityId _ hmem)
    have hevidence : ∀ id, statesOf (x.store.issued token p).evidence id =
        statesOf x.store.evidence id ++ if p.executionId = id then issuePath else [] := by
      intro id
      simp only [Store.issued, statesOf_append]
      congr 1
      by_cases heq : p.executionId = id <;> simp [statesOf, transition, heq, issuePath]
    constructor
    · intro key record hr
      simp only [System.issued, hevidence]
      rcases Table.lookup_insert_cases hr with ⟨rfl, rfl⟩ | ⟨-, hr⟩
      · rw [hunwritten _ hid, if_pos rfl, List.nil_append]
        refine ⟨List.prefix_refl _, ?_⟩
        simp only [Store.issued]
        rw [hunrecorded _ hid]
        exact .waiting rfl
      · have hne : p.executionId ≠ record.capability.executionId := by
          intro heq
          exact hfresh.ne_recorded honce hr (heq ▸ hid)
        rw [if_neg hne, List.append_nil]
        exact h.recorded key record hr
    · intro id hnone
      have hne : p.executionId ≠ id := hnone p.capabilityId ⟨p, token, false⟩ (AList.lookup_insert _)
      simp only [System.issued, hevidence, if_neg hne, List.append_nil]
      refine h.unrecorded id fun key record hr => hnone key record ?_
      refine (AList.lookup_insert_ne ?_).trans hr
      rintro rfl
      cases hnew.symm.trans hr
    · intro i c hc
      obtain ⟨record, hr, hcapability⟩ := h.known i c (at_mono carried?_of_held? hc)
      have hne : p.executionId ≠ c.payload.executionId := by
        intro heq
        exact hfresh.ne_recorded honce hr (by rw [hcapability, ← heq]; exact hid)
      simp only [System.issued, hevidence, if_neg hne, List.append_nil]
      exact h.held i c hc
    · intro i c hc
      obtain ⟨record, hr, hcapability⟩ := h.known i c hc
      refine ⟨record, (AList.lookup_insert_ne ?_).trans hr, hcapability⟩
      intro heq
      cases hnew.symm.trans (heq ▸ hr)
    · exact h.sound

/-- The verified call at a counter was carried there, or its token has just been opened. -/
theorem carried_of_step (h : redeemStep b s pc a = some e) (hc : e.pc.carried? = some c) :
    pc.carried? = some c ∨ ∃ principal input, pc = .start principal input ∧ b.codec.openToken input.token = some c.payload := by
  rcases carried_or_passed h hc with hc | ⟨principal, input, hpc, hp⟩
  · exact .inl hc
  · exact .inr ⟨principal, input, hpc, openToken_of_verify hp.verified⟩

/-- Calls that hold no more than before. -/
theorem at_held_of_setCall {j : ℕ} (hi : x.calls i = some (k, pc)) (hheld : ∀ c, pc'.held? = some c → pc.held? = some c)
    (hc : (x.setCall i k pc' s).at Pc.held? j = some c) : x.at Pc.held? j = some c := by
  rw [at_setCall] at hc
  split at hc
  · next hj =>
    rw [hj, at_of_calls hi]
    exact hheld c hc
  · exact hc

/-- A refused piece of a call: one more `BLOCKED`. -/
theorem Trails.block (h : Trails x) (honce : Once log x) (hi : x.calls i = some (k, pc)) (hp : x.store.Recorded p)
    (hheld : ∀ c, pc'.held? = some c → pc.held? = some c)
    (hknown : ∀ j c, (x.setCall i k pc' x.store).at Pc.carried? j = some c → x.store.Recorded c.payload)
    (hsound : ∀ j k' pc'', (x.setCall i k pc' x.store).calls j = some (k', pc'') → pc''.Sound) :
    Trails (x.setCall i k pc' (x.store.append (transition x.store.gate.now p .blocked reason none))) := by
  have hprogress : progress (statesOf (x.store.evidence ++ [transition x.store.gate.now p .blocked reason none])
      p.executionId) = progress (statesOf x.store.evidence p.executionId) := by
    rw [statesOf_transition, progress_append, progress_blocked, List.append_nil]
  refine h.write honce hp rfl rfl (fun _ _ => rfl) (fun key record hr => ⟨record, hr, rfl, fun _ => rfl⟩)
    (fun _ hq => hq) ?_ ?_ hknown hsound
  · intro record hr
    obtain ⟨record', hr', rfl⟩ := hp
    cases hr.symm.trans hr'
    exact (h.recorded _ _ hr').2.of_progress hprogress
  · intro j c hc
    have hc' : x.at Pc.held? j = some c := at_held_of_setCall hi hheld hc
    split
    · next heq =>
      refine hprogress.trans ?_
      rw [← heq]
      exact h.held j c hc'
    · exact hc'

/-- The call of a capability that is not consumed yet consumes it. -/
theorem Trails.start (h : Trails x) (honce : Once log x) {ok : Bool} (hi : x.calls i = some (k, .consuming c))
    (hs : x.store.consume ok c.payload = .ok s) (hheld : ∀ c', pc'.held? = some c' → c' = c)
    (hknown : ∀ j c, (x.setCall i k pc' x.store).at Pc.carried? j = some c → x.store.Recorded c.payload)
    (hsound : ∀ j k' pc'', (x.setCall i k pc' x.store).calls j = some (k', pc'') → pc''.Sound) :
    Trails (x.setCall i k pc' s) := by
  have hp : x.store.Recorded c.payload := h.known i c (at_of_calls hi _)
  obtain ⟨record, hrecord, hunconsumed, rfl⟩ := consume_ok hs
  obtain ⟨record', hrecord', hcapability⟩ := hp
  cases hrecord.symm.trans hrecord'
  have hstage := (h.recorded _ _ hrecord).2
  rw [hcapability, hunconsumed] at hstage
  have hstarted : progress (statesOf (x.store.evidence ++ [transition x.store.gate.now c.payload .started
      "Capability consumed; handler invocation authorized" none]) c.payload.executionId) = issuePath ++ [.started] := by
    rw [statesOf_transition, progress_append, hstage.progress_waiting]
    rfl
  refine h.write honce ⟨record, hrecord, hcapability⟩ rfl rfl ?_ ?_ ?_ ?_ ?_ hknown hsound
  · exact fun id hid => AList.lookup_insert_ne hid
  · intro key record' hr
    rcases Table.lookup_insert_cases hr with ⟨rfl, rfl⟩ | ⟨-, hr⟩
    · exact ⟨record, hrecord, rfl, fun hne => absurd rfl hne⟩
    · exact ⟨record', hr, rfl, fun _ => rfl⟩
  · rintro q ⟨old, hold, rfl⟩
    by_cases hkey : old.capability.capabilityId = c.payload.capabilityId
    · rw [hkey] at hold
      cases hrecord.symm.trans hold
      refine ⟨{ record with consumed := true }, ?_, rfl⟩
      rw [hkey]
      exact AList.lookup_insert _
    · exact ⟨old, (AList.lookup_insert_ne hkey).trans hold, rfl⟩
  · intro record' hr
    have hr' : record' = { record with consumed := true } := Option.some.inj (hr.symm.trans (AList.lookup_insert _))
    rw [hr']
    simp only [System.setCall, Store.record, AList.lookup_insert]
    exact .started hstarted rfl
  · intro j c' hc
    split
    · exact hstarted
    · next hne =>
      rw [at_setCall] at hc
      split at hc
      · exact absurd (congrArg (fun c : RedeemCall => c.payload.executionId) (hheld c' hc)) hne
      · exact hc

/-- The call that holds a capability ends its execution. -/
theorem Trails.end (h : Trails x) (honce : Once log x) {state : ExecutionState} {resultHash : Option Text}
    {isolation : Option IsolationEvidence} (hi : x.calls i = some (k, pc)) (hc : pc.held? = some c)
    (hstate : state.terminal = true) (hheld : pc'.held? = none)
    (hknown : ∀ j c, (x.setCall i k pc' x.store).at Pc.carried? j = some c → x.store.Recorded c.payload)
    (hsound : ∀ j k' pc'', (x.setCall i k pc' x.store).calls j = some (k', pc'') → pc''.Sound) :
    Trails (x.setCall i k pc' (x.store.record c.payload state reason resultHash isolation)) := by
  have hat : x.at Pc.held? i = some c := (at_of_calls hi _).trans hc
  have hp : x.store.Recorded c.payload := h.known i c (at_mono carried?_of_held? hat)
  have hended : progress (statesOf (x.store.evidence ++ [transition x.store.gate.now c.payload state reason isolation])
      c.payload.executionId) = issuePath ++ [.started, state] := by
    rw [statesOf_transition, progress_append, h.held i c hat, progress_of_ne (ne_blocked_of_terminal hstate)]
    rfl
  refine h.write honce hp rfl rfl (fun id hid => AList.lookup_insert_ne hid)
    (fun key record hr => ⟨record, hr, rfl, fun _ => rfl⟩) (fun _ hq => hq) ?_ ?_ hknown hsound
  · intro record hr
    obtain ⟨record', hr', hconsumed⟩ := honce.held i c hat
    cases hr.symm.trans hr'
    rw [hconsumed]
    simp only [System.setCall, Store.record, AList.lookup_insert]
    exact .ended hended hstate rfl
  · intro j c' hc'
    rw [at_setCall] at hc'
    split at hc'
    · cases hheld.symm.trans hc'
    · next hj =>
      split
      · next heq =>
        have hmem := honce.carried j c' (at_mono carried?_of_held? hc')
        have hmem' := honce.carried i c (at_mono carried?_of_held? hat)
        have hsame := honce.executionIds _ hmem _ hmem' heq
        exact absurd (honce.apart j i c' c hc' hat (congrArg (fun p : CapabilityPayload => p.capabilityId) hsame)) hj
      · exact hc'

/-- A piece of a call whose token, if it opens, was issued. -/
theorem Trails.call (h : Trails x) (honce : Once log x) (hi : x.calls i = some (k, pc))
    (hissued : ∀ principal input, pc = .start principal input → ∀ p,
      b.codec.openToken input.token = some p → x.store.Recorded p) (hstep : redeemStep b x.store pc a = some e) :
    Trails (x.setCall i k e.pc e.store) := by
  have hknown : ∀ j c, (x.setCall i k e.pc x.store).at Pc.carried? j = some c → x.store.Recorded c.payload := by
    intro j c hc
    rw [at_setCall] at hc
    split at hc
    · rcases carried_of_step hstep hc with hc | ⟨principal, input, hpc, hopen⟩
      · exact h.known i c ((at_of_calls hi _).trans hc)
      · exact hissued principal input hpc _ hopen
    · exact h.known j c hc
  obtain ⟨happends, hsoundₑ⟩ := appends_of_step hstep (h.sound i k pc hi)
  have hsound : ∀ j k' pc', (x.setCall i k e.pc x.store).calls j = some (k', pc') → pc'.Sound := by
    intro j k' pc' hj
    by_cases hij : j = i
    · subst hij
      rw [setCall_calls_self] at hj
      cases hj
      exact hsoundₑ
    · rw [setCall_calls_of_ne x hij] at hj
      exact h.sound j k' pc' hj
  cases happends with
  | nothing hheld =>
    exact ⟨h.recorded, h.unrecorded, fun j c hc => h.held j c (at_held_of_setCall hi hheld hc), hknown, hsound⟩
  | blocked habout hheld =>
    refine h.block honce hi ?_ hheld hknown hsound
    cases habout with
    | opened hopen => exact hissued _ _ rfl _ hopen
    | held hc hp =>
      rw [← hp]
      exact h.known i _ (at_mono carried?_of_held? ((at_of_calls hi _).trans hc))
  | started hpc hs hheld =>
    subst hpc
    exact h.start honce hi hs hheld hknown hsound
  | ended hc hstate hheld => exact h.end honce hi hc hstate hheld hknown hsound

/-! ## Runs -/

variable {brokers : ι → ExecutionBroker} {labels : List SystemLabel}

theorem trails_step (labels : List SystemLabel) (x : System ι) (l : SystemLabel) (y : System ι)
    (h : EvidenceStep brokers x l y) (hx : Once (invocations labels) x ∧ Trails x) :
    Once (invocations (labels ++ [l])) y ∧ Trails y := by
  obtain ⟨honce, htrails⟩ := hx
  refine ⟨once_step labels x l y (h.systemStep honce) honce, ?_⟩
  cases h with
  | issue k r w principal decisionId hfresh => exact htrails.issue honce hfresh (appends_of_issue ..)
  | @begin i k principal input hfree =>
    have hcalls : ∀ f : Pc → Option RedeemCall, f (.start principal input) = none → ∀ j c,
        (x.setCall i k (.start principal input) x.store).at f j = some c → x.at f j = some c := by
      intro f hf j c hc
      rw [at_setCall] at hc
      split at hc
      · cases hf.symm.trans hc
      · exact hc
    refine ⟨htrails.recorded, htrails.unrecorded, fun j c hc => htrails.held j c (hcalls _ rfl j c hc),
      fun j c hc => htrails.known j c (hcalls _ rfl j c hc), ?_⟩
    intro j k' pc hj
    by_cases hij : j = i
    · subst hij
      rw [setCall_calls_self] at hj
      cases hj
      trivial
    · rw [setCall_calls_of_ne x hij] at hj
      exact htrails.sound j k' pc hj
  | call hi hissued hstep => exact htrails.call honce hi hissued hstep
  | gate g => exact ⟨htrails.recorded, htrails.unrecorded, htrails.held, htrails.known, htrails.sound⟩

/-- The events of one execution: none, the refusal of an issuance, or those of the issuance followed,
among any refusals, by nothing, by `STARTED`, or by `STARTED` and one terminal state. -/
def Path (states : List ExecutionState) : Prop :=
  states = [] ∨ states = [.blocked] ∨ ∃ rest, states = issuePath ++ rest ∧
    (progress rest = [] ∨ progress rest = [.started] ∨ ∃ state, state.terminal = true ∧ progress rest = [.started, state])

/-- **The path of an execution.** In every store that any interleaving of calls reaches, the events of each
execution form a path, and its summary shows the last of them that is no refusal. -/
theorem path_of_run {g : GateState} (hrun : Run (EvidenceStep brokers) (System.empty g) labels x) (executionId : Text) :
    Path (statesOf x.store.evidence executionId) ∧
      ∀ summary, x.store.executions.lookup executionId = some summary →
        (progress (statesOf x.store.evidence executionId)).getLast? = some summary.state := by
  obtain ⟨-, h⟩ := hrun.trace_invariant (I := fun as x => Once (invocations as) x ∧ Trails x) trails_step
    ⟨once_init _, trails_empty g⟩
  by_cases hrecord : ∃ key record, x.store.capabilities.lookup key = some record ∧
      record.capability.executionId = executionId
  · obtain ⟨key, record, hr, rfl⟩ := hrecord
    obtain ⟨⟨rest, hrest⟩, hstage⟩ := h.recorded key record hr
    rw [← hrest] at hstage ⊢
    generalize record.consumed = consumed, x.store.executions.lookup record.capability.executionId = stored at hstage ⊢
    have hprogress : progress (issuePath ++ rest) = issuePath ++ progress rest := by
      rw [progress_append, progress_issuePath]
    cases hstage with
    | waiting hp =>
      rw [hprogress, List.append_right_eq_self] at hp
      exact ⟨.inr (.inr ⟨rest, rfl, .inl hp⟩), fun _ h => by cases h⟩
    | started hp hs =>
      have hsplit := hp
      rw [hprogress, List.append_cancel_left_eq] at hsplit
      refine ⟨.inr (.inr ⟨rest, rfl, .inr (.inl hsplit)⟩), ?_⟩
      intro summary hsummary
      cases hsummary
      rw [hp, hs]
      rfl
    | ended hp hstate hs =>
      have hsplit := hp
      rw [hprogress, List.append_cancel_left_eq] at hsplit
      refine ⟨.inr (.inr ⟨rest, rfl, .inr (.inr ⟨_, hstate, hsplit⟩)⟩), ?_⟩
      intro summary hsummary
      cases hsummary
      rw [hp, hs]
      rfl
  · push Not at hrecord
    obtain ⟨hstates, hnone⟩ := h.unrecorded executionId hrecord
    refine ⟨hstates.imp_right .inl, ?_⟩
    intro summary hsummary
    cases hnone.symm.trans hsummary

/-- No piece begins a call again. -/
theorem not_start_of_step (h : redeemStep b s pc a = some e) (principal : Principal) (input : RedeemInput) :
    e.pc ≠ .start principal input := by
  intro heq
  cases piece_of_step h with
  | ends hpc _ _ =>
    simp only [Effect.quiet] at heq
    subst heq
    cases hpc
  | advance hadv =>
    have hcall := hadv.call?
    rw [heq] at hcall
    cases hcall

variable (brokers) in
/-- A call replayed in the system, of a broker whose tokens were issued. -/
theorem evidenceRun_of_replay {as : List Answer} {z : Store × Pc} (hi : x.calls i = some (k, pc))
    (hissued : ∀ principal input, pc = .start principal input → ∀ p,
      (brokers k).codec.openToken input.token = some p → x.store.Recorded p)
    (h : replayCall (brokers k) (x.store, pc) as = some z) :
    ∃ labels, Run (EvidenceStep brokers) x labels (x.setCall i k z.2 z.1) := by
  induction as generalizing x pc with
  | nil =>
    cases h
    have hsame : x.setCall i k pc x.store = x := by
      rw [System.setCall, ← hi, Function.update_eq_self]
    exact ⟨[], by rw [hsame]; exact .nil x⟩
  | cons a as ih =>
    rw [replayCall, replay] at h
    cases he : redeemStep (brokers k) x.store pc a with
    | none => simp [he] at h
    | some e =>
      simp only [he, Option.map_some] at h
      obtain ⟨labels, hrun⟩ := ih (x := x.setCall i k e.pc e.store) (setCall_calls_self ..)
        (fun principal input heq => absurd heq (not_start_of_step he principal input)) h
      have hsame : (x.setCall i k e.pc e.store).setCall i k z.2 z.1 = x.setCall i k z.2 z.1 := by
        simp [System.setCall]
      rw [hsame] at hrun
      exact ⟨_, .cons (.call hi hissued he) hrun⟩

end

end

/-! ## A token presented again -/

/-- The tokens of the sample broker that open were issued for the sample payload. -/
theorem recorded_of_sampleToken {s : Store} {token : Text} {p : CapabilityPayload}
    (hopen : (sampleBroker handlerTool).codec.openToken token = some p)
    (hrecord : (s.capabilities.lookup samplePayload.capabilityId).any (fun r => r.capability = samplePayload) = true) :
    s.Recorded p := by
  obtain ⟨record, hr, hcapability⟩ := (Option.any_eq_true ..).1 hrecord
  simp only [sampleBroker] at hopen
  split at hopen
  · cases hopen
    exact ⟨record, hr, of_decide_eq_true hcapability⟩
  · cases hopen

/-- A handler completed; then the agent is revoked and the token presented again: the refusal stands after the
terminal state, and the summary keeps that state. -/
theorem path_blocked_after_succeeded :
    ∃ labels x, Run (EvidenceStep fun _ => sampleBroker handlerTool) (System.empty (ι := Unit) sampleStore.gate) labels x ∧
      statesOf x.store.evidence "e1" = issuePath ++ [.started, .succeeded, .blocked] ∧
      ∃ summary : ExecutionSummary, x.store.executions.lookup samplePayload.executionId = some summary ∧ summary.state = .succeeded := by
  obtain ⟨z, hz, htest⟩ := (Option.any_eq_true ..).1 (show
    (replayCall (sampleBroker handlerTool) ((sampleSystem handlerTool).store, .start .admin sampleInput)
      [.go true, .go true, .go true, .returned (some "h"), .go true]).any (fun z =>
        (z.1.capabilities.lookup samplePayload.capabilityId).any (fun r => r.capability = samplePayload) &&
        (redeemStep (sampleBroker handlerTool) { z.1 with gate := z.1.gate.revoke "agent_1" } (.start .admin sampleInput)
          (.go true)).any fun e =>
            decide (statesOf e.store.evidence "e1" = issuePath ++ [.started, .succeeded, .blocked]) &&
            (e.store.executions.lookup samplePayload.executionId).any fun summary => summary.state = .succeeded) = true by decide +kernel)
  rw [Bool.and_eq_true] at htest
  obtain ⟨hrecord, htest⟩ := htest
  obtain ⟨e, he, htest⟩ := (Option.any_eq_true ..).1 htest
  rw [Bool.and_eq_true, decide_eq_true_eq] at htest
  obtain ⟨hstates, hsummary⟩ := htest
  obtain ⟨summary, hlookup, hstate⟩ := (Option.any_eq_true ..).1 hsummary
  obtain ⟨labels, hrun⟩ := evidenceRun_of_replay (fun _ => sampleBroker handlerTool) (x := sampleSystem handlerTool) (i := 0)
    (k := ()) rfl (fun _ _ _ p hp => recorded_of_sampleToken hp (by decide +kernel)) hz
  have hfresh : IssueRandom.Fresh ⟨"b1", "b2", "e1", "c1", "n"⟩ (System.empty (ι := Unit) sampleStore.gate) :=
    ⟨by simp [System.empty, System.init], by simp [System.empty, System.init], by simp [System.empty, System.init],
      by simp [IssueRandom.executionIds]⟩
  have hrun := Run.cons (.issue () _ _ .admin _ hfresh) (.cons (.begin () .admin sampleInput rfl) hrun)
  have hrun := (hrun.snoc (.gate (z.1.gate.revoke "agent_1"))).snoc (.begin (i := 1) () .admin sampleInput rfl)
  have hrun := hrun.snoc (.call (setCall_calls_self ..) (fun _ _ heq p hp => by
    cases heq
    exact recorded_of_sampleToken hp hrecord) he)
  exact ⟨_, _, hrun, hstates, summary, hlookup, of_decide_eq_true hstate⟩

theorem path_of_run_replayed :
    ∃ labels x, Run (EvidenceStep fun _ => sampleBroker handlerTool) (System.empty (ι := Unit) sampleStore.gate) labels x ∧
      Path (statesOf x.store.evidence "e1") ∧ ∀ summary, x.store.executions.lookup samplePayload.executionId = some summary →
        (progress (statesOf x.store.evidence "e1")).getLast? = some summary.state := by
  obtain ⟨labels, x, hrun, -, -⟩ := path_blocked_after_succeeded
  exact ⟨labels, x, hrun, path_of_run hrun "e1"⟩

/-- Refusals do follow a terminal state, and the summary does not show them. -/
theorem path_not_strict :
    ¬ ∀ (brokers : Unit → ExecutionBroker) (g : GateState) (labels : List SystemLabel) (x : System Unit) (executionId : Text),
      Run (EvidenceStep brokers) (System.empty g) labels x →
      (statesOf x.store.evidence executionId ≠ [] → ∃ rest, statesOf x.store.evidence executionId = issuePath ++ rest ∧
        (rest = [] ∨ rest = [.blocked] ∨ rest = [.started] ∨ ∃ state, state.terminal = true ∧ rest = [.started, state])) ∧
      ∀ summary, x.store.executions.lookup executionId = some summary →
        (statesOf x.store.evidence executionId).getLast? = some summary.state := by
  intro h
  obtain ⟨labels, x, hrun, hstates, summary, hsummary, hstate⟩ := path_blocked_after_succeeded
  obtain ⟨-, hlast⟩ := h _ _ _ _ "e1" hrun
  have hlast := hlast summary hsummary
  rw [hstates, hstate] at hlast
  cases hlast

end Tna.Broker
