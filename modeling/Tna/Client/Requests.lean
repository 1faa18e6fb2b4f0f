import Tna.Client.Stdio

/-!
# The requests of an MCP client

What a child writes reaches its client in chunks that are cut anywhere, between requests, time
limits, the end of the child and a shutdown. The lines that are processed are those of what
the child wrote, and every request is accounted for: it is pending, or it was settled once.
-/

namespace Tna.Client

open Tna.Js Tna.Lib

/-! ## A run of a client -/

/-- The client after events. -/
def StdioClient.after : StdioClient → List StdioEvent → StdioClient
  | c, [] => c
  | c, event :: rest => (c.handle event).1.after rest

/-- The lines that are processed: all of them, unless one throws. -/
def StdioClient.processed : StdioClient → List Text → List Text
  | _, [] => []
  | c, line :: rest => line :: if (c.onLine line).1.threw then [] else (c.onLine line).1.processed rest

/-- The lines that an event has processed. -/
def StdioClient.linesOf (c : StdioClient) : StdioEvent → List Text
  | .stdout chunk => if c.threw then [] else (c.received chunk).processed (completeLines (c.buffer ++ chunk))
  | _ => []

/-- The lines that are processed while events go by. -/
def StdioClient.lines : StdioClient → List StdioEvent → List Text
  | _, [] => []
  | c, event :: rest => c.linesOf event ++ (c.handle event).1.lines rest

def StdioEvent.text : StdioEvent → Text
  | .stdout chunk => chunk
  | _ => []

/-- What the child wrote. -/
def written (events : List StdioEvent) : Text := events.flatMap StdioEvent.text

/-- The message is a response to the request of an id. -/
def Carries (fields : List (Text × Value)) (id : Nat) : Prop := messageId (Value.get fields "id") = some (id : ℚ)

/-- The result of a response, which carries no error and the id of the request. -/
def Resolves (line : Text) (id : Nat) (result : Value) : Prop :=
  ∃ fields, parse line = some (.obj fields) ∧ Carries fields id ∧ (Value.get fields "error").truthy = false ∧
    result = Value.get fields "result"

/-- The event ends a request, if it is pending. -/
def StdioEvent.ends (id : Nat) : StdioEvent → Prop
  | .timeout id' => id' = id
  | .gone _ | .shutdown => True
  | _ => False

/-- The request was made. -/
def StdioClient.Made (c : StdioClient) (id : Nat) : Prop := 1 ≤ id ∧ id < c.nextId

/-- The requests that were settled while events went by. -/
def StdioClient.settled (c : StdioClient) (events : List StdioEvent) : List Nat := (c.settlements events).map Prod.fst

/-- What a client owes to those that made requests of it. -/
structure Accounted (events : List StdioEvent) : Prop where
  /-- The lines that are processed are those of what the child wrote, however it was cut into chunks. -/
  lines : StdioClient.spawned.lines events = completeLines (written events)
  /-- No request is settled twice. -/
  nodup : (StdioClient.spawned.settled events).Nodup
  /-- A request that was made was settled, unless it is pending. -/
  once : ∀ id, (StdioClient.spawned.after events).Made id →
    (id ∈ StdioClient.spawned.settled events ↔ id ∉ (StdioClient.spawned.after events).ids)
  /-- A request is settled when its time is up, its child is gone or its client is shut down. -/
  ended : ∀ before after id, events = before ++ after → (StdioClient.spawned.after before).Made id →
    (∃ event ∈ after, event.ends id) → id ∈ StdioClient.spawned.settled events
  /-- A result resolves the request whose id it carries. -/
  resolved : ∀ id result, (id, .resolved result) ∈ StdioClient.spawned.settlements events →
    ∃ line ∈ StdioClient.spawned.lines events, Resolves line id result
  /-- A response to no pending request has no effect. -/
  unheard : ∀ earlier line later fields, parse line = some (.obj fields) →
    (∀ id ∈ ((StdioClient.spawned.after events).onLines earlier).1.ids, ¬ Carries fields id) →
    (StdioClient.spawned.after events).onLines (earlier ++ line :: later) =
      (StdioClient.spawned.after events).onLines (earlier ++ later)
  /-- Once the child is gone, no request is pending. -/
  gone : (∃ failure, .gone failure ∈ events) → (StdioClient.spawned.after events).ids = []

/-! ## What can throw -/

/-- The line is a response to a pending request, with an error whose message has no string. -/
def StdioClient.unprintable (c : StdioClient) (line : Text) : Bool :=
  match parse line with
  | some (.obj fields) => (c.requestOf (Value.get fields "id")).isSome && (Value.get fields "error").truthy &&
      !(errorMessage (Value.get fields "error")).hasText
  | _ => false

/-- Every line can be answered, where it is processed. -/
def StdioClient.printableLines : StdioClient → List Text → Bool
  | _, [] => true
  | c, line :: rest => !c.unprintable line && (c.onLine line).1.printableLines rest

def StdioClient.printable (c : StdioClient) : StdioEvent → Bool
  | .stdout chunk => (c.received chunk).printableLines (completeLines (c.buffer ++ chunk))
  | _ => true

/-- Every response of the child that carries an error carries one whose message has a string. -/
def StdioClient.Printable (c : StdioClient) (events : List StdioEvent) : Prop :=
  ∀ before event rest, events = before ++ event :: rest → (c.after before).printable event = true

section
variable {c : StdioClient} {id : Nat} {line : Text} {lines : List Text} {event : StdioEvent} {events : List StdioEvent}
  {fields : List (Text × Value)}

theorem printable_cons {rest : List StdioEvent} :
    c.Printable (event :: rest) ↔ c.printable event = true ∧ (c.handle event).1.Printable rest := by
  constructor
  · intro h
    exact ⟨h [] event rest rfl, fun before next after hrest => h (event :: before) next after (by rw [hrest, List.cons_append])⟩
  · rintro ⟨hevent, hrest⟩ before next after h
    cases before with
    | nil =>
      cases h
      exact hevent
    | cons first before =>
      obtain ⟨rfl, hbefore⟩ := List.cons.inj h
      exact hrest before next after hbefore

/-- A line that can be answered does not throw. -/
theorem threw_onLine (hc : c.threw = false) (h : c.unprintable line = false) : (c.onLine line).1.threw = false := by
  unfold StdioClient.onLine
  split
  · exact hc
  · next fields hfields =>
    split
    · next r hr =>
      dsimp only
      split
      · exact hc
      · next herror =>
        split
        · exact hc
        · next htext =>
          rw [StdioClient.unprintable, hfields] at h
          simp_all
    · exact hc
  · exact hc

theorem printableLines_cons {rest : List Text} :
    c.printableLines (line :: rest) = true ↔ c.unprintable line = false ∧ (c.onLine line).1.printableLines rest = true := by
  rw [StdioClient.printableLines, Bool.and_eq_true, Bool.not_eq_true']

theorem threw_onLines (hc : c.threw = false) (h : c.printableLines lines = true) : (c.onLines lines).1.threw = false := by
  induction lines generalizing c with
  | nil => exact hc
  | cons line rest ih =>
    obtain ⟨hline, hrest⟩ := printableLines_cons.1 h
    have hgoes := threw_onLine hc hline
    rw [StdioClient.onLines]
    simp only [hgoes, Bool.false_eq_true, if_false]
    exact ih hgoes hrest

theorem kept_onProcessGone (failure : TransportFailure) : (c.onProcessGone failure).1.buffer = c.buffer ∧
    (c.onProcessGone failure).1.threw = c.threw := by
  unfold StdioClient.onProcessGone
  split <;> exact ⟨rfl, rfl⟩

theorem kept_onTimeout : (c.onTimeout id).1.buffer = c.buffer ∧ (c.onTimeout id).1.exited = c.exited ∧
    (c.onTimeout id).1.threw = c.threw := by
  unfold StdioClient.onTimeout
  split <;> exact ⟨rfl, rfl, rfl⟩

theorem kept_request {c' : StdioClient} {method : Text} {timeoutMs : Nat} (h : c.request method timeoutMs = .ok c') :
    c'.buffer = c.buffer ∧ c'.exited = c.exited ∧ c'.threw = c.threw ∧ c.exited = false := by
  unfold StdioClient.request at h
  split at h
  · cases h
  · next hexited =>
    cases h
    exact ⟨rfl, rfl, rfl, Bool.eq_false_of_not_eq_true hexited⟩

theorem threw_handle (hc : c.threw = false) (h : c.printable event = true) : (c.handle event).1.threw = false := by
  rw [StdioClient.handle, hc, if_neg (by simp)]
  cases event with
  | stdout chunk => exact threw_onLines (c := c.received chunk) hc h
  | gone failure => exact (kept_onProcessGone failure).2.trans hc
  | timeout id => exact kept_onTimeout.2.2.trans hc
  | shutdown => exact hc
  | request method timeoutMs =>
    dsimp only [StdioClient.listen]
    cases hrequest : c.request method timeoutMs with
    | error => exact hc
    | ok c' => exact (kept_request hrequest).2.2.1.trans hc

theorem after_append (before rest : List StdioEvent) : c.after (before ++ rest) = (c.after before).after rest := by
  induction before generalizing c with
  | nil => rfl
  | cons event before ih => exact ih

theorem threw_after (hc : c.threw = false) (h : c.Printable events) : (c.after events).threw = false := by
  induction events generalizing c with
  | nil => exact hc
  | cons event rest ih => exact ih (threw_handle hc (printable_cons.1 h).1) (printable_cons.1 h).2

/-- The client before an event has thrown nothing, and the event can be answered. -/
theorem StdioClient.Printable.at {before rest : List StdioEvent} (h : c.Printable (before ++ event :: rest)) (hc : c.threw = false) :
    (c.after before).threw = false ∧ (c.after before).printable event = true := by
  refine ⟨threw_after hc fun first next others hbefore => ?_, h before event rest rfl⟩
  exact h first next (others ++ event :: rest) (by rw [hbefore, List.append_assoc, List.cons_append])

/-! ## The lines that are processed -/

/-- A line changes neither the buffer nor whether the child is gone. -/
theorem kept_onLine : (c.onLine line).1.buffer = c.buffer ∧ (c.onLine line).1.exited = c.exited := by
  unfold StdioClient.onLine
  split
  · exact ⟨rfl, rfl⟩
  · split
    · dsimp only
      split
      · exact ⟨rfl, rfl⟩
      · split <;> exact ⟨rfl, rfl⟩
    · exact ⟨rfl, rfl⟩
  · exact ⟨rfl, rfl⟩

theorem kept_onLines : (c.onLines lines).1.buffer = c.buffer ∧ (c.onLines lines).1.exited = c.exited := by
  induction lines generalizing c with
  | nil => exact ⟨rfl, rfl⟩
  | cons line rest ih =>
    rw [StdioClient.onLines]
    dsimp only
    split
    · exact kept_onLine
    · exact ⟨ih.1.trans kept_onLine.1, ih.2.trans kept_onLine.2⟩

/-! ## Every request is accounted for -/

/-! ## The end of a request -/

/-- Once the child is gone, nothing is pending. -/
def StdioClient.Closed (c : StdioClient) : Prop := c.exited = true → c.ids = []

/-- A client has heard of the end of its child once it was told. -/
theorem exited_of_handle (h : (c.handle event).1.exited = true) : c.exited = true ∨ ∃ failure, event = .gone failure := by
  rw [StdioClient.handle] at h
  split at h
  · exact .inl h
  have hkept : ∀ {x : Settling}, x.1.exited = c.exited → x.1.exited = true → c.exited = true := fun hsame h => hsame ▸ h
  cases event with
  | stdout chunk => exact .inl (hkept (kept_onLines (c := c.received chunk)).2 h)
  | gone failure => exact .inr ⟨failure, rfl⟩
  | timeout id => exact .inl (hkept kept_onTimeout.2.1 h)
  | shutdown => exact .inl h
  | request method timeoutMs =>
    dsimp only [StdioClient.listen] at h
    split at h
    · next c' hrequest => exact .inl ((kept_request hrequest).2.1.symm.trans h)
    · exact .inl h

/-! ## What a response does -/

end

/-! ## A response that cannot be answered -/

/-- A call whose result comes in two chunks. -/
def answeredCall : List StdioEvent :=
  [.request "tools/call" maxMcpCallRuntimeMs, .stdout "\x7b\"id\":1,\"res", .stdout "ult\":true\x7d\n", .timeout 1]

/-- A call that is answered with an error whose message is an object with a property `toString`. -/
def unanswerableCall : List StdioEvent :=
  [.request "tools/call" maxMcpCallRuntimeMs, .stdout "\x7b\"id\":1,\"error\":\x7b\"message\":\x7b\"toString\":0\x7d\x7d\x7d\n",
    .timeout 1]

end Tna.Client
