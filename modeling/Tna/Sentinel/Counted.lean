import Mathlib.Algebra.BigOperators.Group.List.Basic
import Mathlib.Data.Rat.Floor
import Tna.Sentinel.Answered

/-!
# The counters of a session

A new observation and the row that counts it are written in one transaction, and every
other writer of the row leaves the counters. So the row and the observations agree after
any run.
-/

namespace Tna.Sentinel

open Tna.Js Tna.Lib

/-! ## Costs -/

/-- `round6`, of an amount in micro-dollars. -/
def round6 (amount : ℚ) : ℕ := ⌊amount + 1 / 2⌋₊

/-- An amount that is added to whole micro-dollars is rounded by itself. -/
theorem round6_add (n : ℕ) {amount : ℚ} (h : 0 ≤ amount) : round6 (n + amount) = n + round6 amount := by
  unfold round6
  rw [add_assoc, add_comm (n : ℚ), Nat.floor_add_natCast (by linarith), add_comm]

/-! ## Counting -/

/-- What an observation adds to the cost, in micro-dollars. -/
def costOf (rt : SentinelRuntime) (o : SentinelObservation) : ℕ :=
  if o.observationType = .costReported then (o.payload.bind rt.reportedCost).getD 0 else 0

/-- The observations are numbered from one in order, each has its own identifier, and they are what is counted. -/
structure CountedAs (rt : SentinelRuntime) (observations : List SentinelObservation) (c : Counts) : Prop where
  sequences : observations.map (fun o => o.sequence) = List.range' 1 c.sequence
  identifiers : (observations.map fun o => o.observationId).Nodup
  toolCalls : c.toolCalls = observations.countP fun o => decide (o.observationType = .toolCallRequested)
  networkRequests : c.networkRequests = observations.countP fun o => decide (o.observationType = .networkRequest)
  processSpawns : c.processSpawns = observations.countP fun o => decide (o.observationType = .processStarted)
  cost : c.cost = (observations.map (costOf rt)).sum

theorem CountedAs.nil (rt : SentinelRuntime) : CountedAs rt [] ⟨0, 0, 0, 0, 0⟩ := by
  constructor <;> simp

/-- **One more observation.** -/
theorem CountedAs.snoc {rt : SentinelRuntime} {observations : List SentinelObservation} {row : SessionRow}
    {input : SentinelObservationInput} {now : Int} (h : CountedAs rt observations row.counts)
    (hnew : ∀ o ∈ observations, o.observationId ≠ input.observationId) :
    CountedAs rt (observations ++ [row.observed input now]) (row.counting rt (row.observed input now)).counts := by
  have hcount : ∀ (type : ObservationType), (observations ++ [row.observed input now]).countP
      (fun o => decide (o.observationType = type)) = observations.countP (fun o => decide (o.observationType = type)) +
        if input.observationType = type then 1 else 0 := by
    intro type
    rw [List.countP_append, List.countP_singleton]
    by_cases htype : input.observationType = type <;> simp [SessionRow.observed, htype]
  refine ⟨?_, ?_, ?_, ?_, ?_, ?_⟩
  · rw [List.map_append, h.sequences]
    show List.range' 1 row.observationSequence ++ [row.observationSequence + 1] =
      List.range' 1 (row.observationSequence + 1)
    rw [List.range'_concat, Nat.one_mul, Nat.add_comm 1]
  · rw [List.map_append, List.map_singleton, List.nodup_append]
    refine ⟨h.identifiers, List.nodup_singleton _, ?_⟩
    intro a ha b hb
    obtain ⟨o, ho, rfl⟩ := List.mem_map.1 ha
    rw [List.mem_singleton.1 hb]
    exact hnew o ho
  · rw [hcount, ← h.toolCalls]
    rfl
  · rw [hcount, ← h.networkRequests]
    rfl
  · rw [hcount, ← h.processSpawns]
    rfl
  · rw [List.map_append, List.sum_append, ← h.cost, List.map_singleton, List.sum_singleton]
    rfl

/-! ## Stores -/

def SentinelStore.observationsOf (s : SentinelStore) (key : Text × Text) : List SentinelObservation :=
  s.observations.filter fun o => o.sessionKey = key

/-- The counters of a session are what its stored observations come to. -/
structure Counted (rt : SentinelRuntime) (s : SentinelStore) (key : Text × Text) : Prop where
  counted : ∀ c, s.counts? key = some c → CountedAs rt (s.observationsOf key) c
  /-- Only a session that is stored has observations. -/
  none : s.counts? key = none → s.observationsOf key = []

section
variable {rt : SentinelRuntime} {s s' : SentinelStore} {key : Text × Text}

theorem Counted.kept (h : Counted rt s key) (hkept : s.Kept s') : Counted rt s' key := by
  have hobservations : s'.observationsOf key = s.observationsOf key := by
    rw [SentinelStore.observationsOf, SentinelStore.observationsOf, hkept.observations]
  refine ⟨fun c hc => ?_, fun hnone => ?_⟩
  · rw [hobservations]
    exact h.counted c (hkept.counts ▸ hc)
  · rw [hobservations]
    exact h.none (hkept.counts ▸ hnone)

variable {input : SentinelObservationInput} {o : SentinelObservation} {labels : List Act} {row : SessionRow} {x : System}

end

end Tna.Sentinel
