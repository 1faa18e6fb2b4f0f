import Tna.Client.ClientStore
import Tna.Js.Number
import Tna.Js.Parse
import Tna.Lib.Double
import Tna.Lib.Lines

/-!
# The MCP stdio client

A client writes its requests to a child process and keeps each until it is settled. A line
of the child that names a request answers it. Whatever else settles a request, the end of the
child, a time limit, a line that is no JSON, a shutdown, says nothing of what the child did.
-/

namespace Tna.Client

open Tna.Js Tna.Lib

/-! ## Errors -/

inductive McpErrorCode where
  | serverUnavailable | initializationFailed | toolNotFound | schemaDrift | toolDisabled | timeout | protocolError
  | resultTooLarge | indeterminate
deriving DecidableEq

structure McpError where
  code : McpErrorCode
  message : Text

inductive FailureReason where
  | timeout | exit | protocol | spawn
deriving DecidableEq

structure TransportFailure where
  reason : FailureReason
  message : Text
deriving DecidableEq

/-- How a request was settled. -/
inductive Settlement where
  | resolved (result : Value)
  /-- Rejected by the response to it, which carries an error. -/
  | refused (failure : TransportFailure)
  /-- Rejected by something that is no response to it. -/
  | lost (failure : TransportFailure)

/-! ## The client -/

structure PendingRequest where
  id : Nat
  method : Text
  timeoutMs : Nat

/-- The state of a client that has spawned its child. -/
structure StdioClient where
  buffer : Text
  nextId : Nat
  pending : List PendingRequest
  exited : Bool
  exitError : Option TransportFailure
  /-- A listener threw. No one catches it, and the process has ended. -/
  threw : Bool
  /-- The ids of the pending requests grow, and the next one is larger than all of them. -/
  growing : (pending.map PendingRequest.id ++ [nextId]).Pairwise (· < ·)

def StdioClient.spawned : StdioClient := ⟨[], 1, [], false, none, false, by simp⟩

/-- A client and the requests that were settled on the way to it. -/
abbrev Settling := StdioClient × List (Nat × Settlement)

/-- `request`: the request is written, or the failure is thrown that the client ended with. -/
def StdioClient.request (c : StdioClient) (method : Text) (timeoutMs : Nat) : Except TransportFailure StdioClient :=
  if c.exited then .error (c.exitError.getD ⟨.exit, "MCP server is not running"⟩)
  else .ok { c with
    nextId := c.nextId + 1
    pending := c.pending ++ [⟨c.nextId, method, timeoutMs⟩]
    growing := by
      rw [List.map_append, List.map_singleton, List.pairwise_append]
      refine ⟨c.growing, List.pairwise_singleton .., ?_⟩
      intro id hid next hnext
      rw [List.mem_singleton] at hnext
      subst hnext
      rcases List.mem_append.1 hid with hid | hid
      · exact Nat.lt_succ_of_lt ((List.pairwise_append.1 c.growing).2.2 id hid c.nextId (List.mem_singleton_self _))
      · rw [List.mem_singleton.1 hid]
        exact Nat.lt_succ_self _ }

def StdioClient.failAllPending (c : StdioClient) (failure : TransportFailure) : Settling :=
  ({ c with pending := [], growing := by simp }, c.pending.map fun r => (r.id, .lost failure))

/-- A pending request is taken out. -/
def StdioClient.remove (c : StdioClient) (id : Nat) : StdioClient :=
  { c with
    pending := c.pending.filter fun r => r.id ≠ id
    growing := c.growing.sublist (((List.filter_sublist).map _).append_right _) }

/-- A pending request is taken out and settled. -/
def StdioClient.settle (c : StdioClient) (id : Nat) (settlement : Settlement) : Settling :=
  (c.remove id, [(id, settlement)])

/-- The number that the `id` of a message is. -/
def messageId (id : Value) : Option ℚ := do
  let number ← finiteNumber id
  toDouble number.2

/-- `this.pending.get(id)`, for the `id` of a message. -/
def StdioClient.requestOf (c : StdioClient) (id : Value) : Option PendingRequest :=
  (messageId id).bind fun number => c.pending.find? fun r => (r.id : ℚ) = number

/-- `error.message ?? 'unknown error'`. -/
def errorMessage (error : Value) : Value :=
  let message := match error with
    | .obj fields => Value.get fields "message"
    | _ => .undefined
  message.orElse (.str "unknown error")

/-- The message of a response that carries an error. -/
def responseError (error : Value) : Text := Text.ofAscii "MCP server returned an error: " ++ (errorMessage error).toText

def StdioClient.onLine (c : StdioClient) (line : Text) : Settling :=
  match parse line with
  | none => c.failAllPending ⟨.protocol, Text.ofAscii "MCP server sent a non-JSON line: " ++ line.take 200⟩
  | some (.obj fields) =>
    match c.requestOf (Value.get fields "id") with
    | some r =>
      let error := Value.get fields "error"
      if !error.truthy then c.settle r.id (.resolved (Value.get fields "result"))
      else if (errorMessage error).hasText then c.settle r.id (.refused ⟨.protocol, responseError error⟩)
      -- The message of the error is built after the request was taken out, and has no string to be built with.
      else ({ c.remove r.id with threw := true }, [])
    | none => (c, [])
  | some _ => (c, [])

/-- The lines, one after another. -/
def StdioClient.onLines : StdioClient → List Text → Settling
  | c, [] => (c, [])
  | c, line :: rest =>
    let first := c.onLine line
    if first.1.threw then first
    else
      let later := first.1.onLines rest
      (later.1, first.2 ++ later.2)

/-- The complete lines of a text, without those that are blank. -/
def completeLines (text : Text) : List Text := ((framed 10 text).map Text.trim).filter fun line => line ≠ []

/-- What stands behind the last complete line of a text. -/
def remainder (text : Text) : Text := unframed 10 text

/-- A client whose buffer a chunk has been put through. -/
def StdioClient.received (c : StdioClient) (chunk : Text) : StdioClient := { c with buffer := remainder (c.buffer ++ chunk) }

/-- `onStdoutChunk`: the lines that are complete; what stands behind the last of them is kept. -/
def StdioClient.onStdoutChunk (c : StdioClient) (chunk : Text) : Settling :=
  (c.received chunk).onLines (completeLines (c.buffer ++ chunk))

def StdioClient.onProcessGone (c : StdioClient) (failure : TransportFailure) : Settling :=
  if c.exited then (c, []) else { c with exited := true, exitError := some failure }.failAllPending failure

/-- The timer of a request, as long as the request is pending. -/
def StdioClient.onTimeout (c : StdioClient) (id : Nat) : Settling :=
  match c.pending.find? fun r => r.id = id with
  | some r =>
    c.settle id (.lost ⟨.timeout, Text.ofAscii "MCP request \"" ++ r.method ++ Text.ofAscii "\" timed out after " ++
      decimal r.timeoutMs ++ Text.ofAscii "ms"⟩)
  | none => (c, [])

def StdioClient.cleanupPending (c : StdioClient) : Settling := c.failAllPending ⟨.exit, "MCP client shut down"⟩

/-- What happens to a client while it waits. -/
inductive StdioEvent where
  | stdout (chunk : Text)
  /-- The child has ended, or could not be started. -/
  | gone (failure : TransportFailure)
  | timeout (id : Nat)
  /-- The end of `shutdown`. -/
  | shutdown
  /-- Another request of the client. -/
  | request (method : Text) (timeoutMs : Nat)

/-- What the listener of an event does. -/
def StdioClient.listen (c : StdioClient) : StdioEvent → Settling
  | .stdout chunk => c.onStdoutChunk chunk
  | .gone failure => c.onProcessGone failure
  | .timeout id => c.onTimeout id
  | .shutdown => c.cleanupPending
  | .request method timeoutMs =>
    match c.request method timeoutMs with
    | .ok c' => (c', [])
    | .error _ => (c, [])

def StdioClient.handle (c : StdioClient) (event : StdioEvent) : Settling := if c.threw then (c, []) else c.listen event

/-- The requests settled while events go by. -/
def StdioClient.settlements : StdioClient → List StdioEvent → List (Nat × Settlement)
  | _, [] => []
  | c, event :: rest => (c.handle event).2 ++ (c.handle event).1.settlements rest

/-! ## A tool call -/

def maxMcpResultBytes : Nat := 131072

def maxMcpCallRuntimeMs : Nat := 30000

def TransportFailure.remap (f : TransportFailure) : McpError :=
  match f.reason with
  | .timeout => ⟨.timeout, f.message⟩
  | .protocol => ⟨.protocolError, f.message⟩
  | .exit | .spawn => ⟨.serverUnavailable, f.message⟩

structure McpToolCallResult where
  content : Value
  isError : Bool
  bytes : Nat

/-- The result of a tool call, when it is not too large. -/
def sizedResult (result content : Value) (isError : Bool) : Except McpError McpToolCallResult :=
  let bytes := result.stringify.byteLength
  if maxMcpResultBytes < bytes then
    .error ⟨.resultTooLarge, Text.ofAscii "MCP tool result is " ++ decimal bytes ++ Text.ofAscii " bytes, exceeding the " ++
      decimal maxMcpResultBytes ++ Text.ofAscii "-byte bound"⟩
  else .ok ⟨content, isError, bytes⟩

/-- `callTool`, once its request is settled. -/
def callTool : Settlement → Except McpError McpToolCallResult
  | .refused failure | .lost failure =>
    if failure.reason = .exit then
      .error ⟨.indeterminate, dashed "MCP server exited during tool call" "outcome unknown: " ++ failure.message⟩
    else .error failure.remap
  | .resolved (.obj fields) =>
    sizedResult (.obj fields) ((Value.get fields "content").orElse .null)
      (match Value.get fields "isError" with
      | .bool b => b
      | _ => false)
  | .resolved (.arr items) => sizedResult (.arr items) .null false
  | .resolved _ => .error ⟨.protocolError, "tools/call response was not an object"⟩

/-- A `tools/call`, and what happens to its client after it. -/
structure ToolCall where
  client : StdioClient
  events : List StdioEvent

/-- How the call was settled; `none` when it was not written, or is still pending. -/
def ToolCall.settlement (call : ToolCall) : Option Settlement :=
  match call.client.request "tools/call" maxMcpCallRuntimeMs with
  | .ok c => (c.settlements call.events).lookup call.client.nextId
  | .error _ => none

/-! ## A request is settled once -/

section
variable {c : StdioClient} {x : Settling} {id : Nat}

/-- The ids of the pending requests. -/
def StdioClient.ids (c : StdioClient) : List Nat := c.pending.map PendingRequest.id

/-- What is settled was pending and is so no longer, and nothing becomes pending on the way. -/
structure Settles (c : StdioClient) (x : Settling) : Prop where
  next : x.1.nextId = c.nextId
  kept : ∀ id ∈ x.1.ids, id ∈ c.ids
  nodup : (x.2.map Prod.fst).Nodup
  was : ∀ id ∈ x.2.map Prod.fst, id ∈ c.ids
  isNot : ∀ id ∈ x.2.map Prod.fst, id ∉ x.1.ids
  covers : x.1.threw = false → ∀ id ∈ c.ids, id ∈ x.2.map Prod.fst ∨ id ∈ x.1.ids

theorem Settles.trans {y : Settling} (hx : Settles c x) (hgoes : x.1.threw = false) (hy : Settles x.1 y) :
    Settles c (y.1, x.2 ++ y.2) := by
  refine ⟨hy.next.trans hx.next, fun id h => hx.kept id (hy.kept id h), ?_, ?_, ?_, ?_⟩
  · rw [List.map_append, List.nodup_append]
    refine ⟨hx.nodup, hy.nodup, ?_⟩
    rintro id hfirst _ hlater rfl
    exact hx.isNot id hfirst (hy.was id hlater)
  · intro id hid
    rw [List.map_append, List.mem_append] at hid
    exact hid.elim (hx.was id) fun h => hx.kept id (hy.was id h)
  · intro id hid hpending
    rw [List.map_append, List.mem_append] at hid
    exact hid.elim (fun h => hx.isNot id h (hy.kept id hpending)) fun h => hy.isNot id h hpending
  · intro hends id hid
    rw [List.map_append, List.mem_append]
    rcases hx.covers hgoes id hid with hfirst | hpending
    · exact .inl (.inl hfirst)
    · exact (hy.covers hends id hpending).imp_left .inr

/-- Nothing settles an id that has been given and is not pending. -/
def StdioClient.Past (c : StdioClient) (id : Nat) : Prop := id < c.nextId ∧ id ∉ c.ids

end

end Tna.Client
