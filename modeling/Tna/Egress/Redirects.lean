import Tna.Egress.Guard

/-!
# Requests and their redirects

The network is the adversary: at each hop it chooses the addresses a host has and what the
server answers with. Whatever it chooses, each URL that is fetched was approved with the
addresses of that hop, the redirects that are followed are bounded, and behind the first redirect to
another origin only headers that may be forwarded are sent.
-/

namespace Tna.Egress

open Tna.Js

/-! ## Headers -/

structure Header where
  name : Text
  value : Text
deriving DecidableEq

def isTokenUnit (c : CodeUnit) : Bool := isAlnum c || (Text.ofAscii "!#$%&'*+-.^_|~").contains c || c == 0x60

/-- White space around the value of a header. -/
def isHeaderSpace (c : CodeUnit) : Bool := c == 9 || c == 10 || c == 13 || c == 32

def normalizeValue (value : Text) : Text := (value.dropWhile isHeaderSpace).rdropWhile isHeaderSpace

def Header.isValid (h : Header) : Bool :=
  !h.name.isEmpty && h.name.all isTokenUnit && h.value.all fun c => decide (c ≤ 0xff) && !(c == 0 || c == 10 || c == 13)

/-- `new Headers(init)`; none when it throws. Names are kept in lower case. -/
def newHeaders (init : List Header) : Option (List Header) :=
  let headers := init.map fun h => { h with value := normalizeValue h.value }
  if headers.all Header.isValid then some (headers.map fun h => { h with name := lowerCase h.name }) else none

/-- `headers.keys()`, in another order. -/
def headerKeys (headers : List Header) : List Text := (headers.map Header.name).dedup

def deleteHeader (headers : List Header) (name : Text) : List Header := headers.filter fun h => h.name != name

def forwardedHeaders : List Text := ["accept", "accept-language", "cache-control", "content-type", "range"]

def sensitiveHeaders : List Text := ["authorization", "cookie", "proxy-authorization"]

/-- A header that is not sent to another origin. -/
def EgressGuard.withholds (guard : EgressGuard) (name : Text) : Bool :=
  !forwardedHeaders.contains name || sensitiveHeaders.contains name || guard.credentialHeaders.contains name

def EgressGuard.strip (guard : EgressGuard) (headers : List Header) : List Header :=
  (headerKeys headers).foldl (fun kept name => if guard.withholds name then deleteHeader kept name else kept) headers

/-! ## The loop -/

structure RequestInit where
  method : Option Text
  headers : List Header

structure Response where
  status : Nat
  /-- `headers.get('location')`. -/
  location : Option Text
deriving DecidableEq

/-- What the network answers one hop with. -/
structure Hop where
  /-- The addresses of the host; none when the lookup fails. -/
  addresses : Option (List Text)
  /-- None when the fetch fails. -/
  response : Option Response

/-- A fetch that was made, with what was evaluated right before it. -/
structure Fetched where
  current : Destination
  addresses : Option (List Text)
  url : Text
  init : RequestInit
  response : Option Response

inductive Outcome where
  | returned (response : Response)
  | blocked (decision : EgressDecision)
  | threw
  /-- The network has not answered. -/
  | pending

/-- `redirects >= this.maxRedirects`. -/
def EgressGuard.reachesLimit (guard : EgressGuard) (redirects : Nat) : Bool :=
  match guard.maxRedirects with
  | .nan => false
  | .infinite negative => negative
  | .finite limit => decide (limit ≤ redirects)

/-- What the loop does behind a fetch: it ends, or goes on with another URL. -/
def EgressGuard.follow (api : Platform) (guard : EgressGuard) (redirects : Nat) (f : Fetched) :
    Except Outcome (Url × RequestInit) :=
  match f.response with
  | none => .error .threw
  | some response =>
    if response.status < 300 ∨ 400 ≤ response.status then .error (.returned response)
    else
      match response.location.getD [] with
      | [] => .error (.blocked { blocked .redirectLocationInvalid f.url with detail := some "redirect has no Location header" })
      | c :: rest =>
        if guard.reachesLimit redirects then .error (.blocked (blocked .redirectLimit f.url))
        else
          match api.resolve (c :: rest) f.url with
          | none => .error (.blocked (blocked .redirectLocationInvalid f.url))
          | some next =>
            match api.parse f.url with
            | none => .error .threw
            | some url =>
              if url.origin = next.origin then .ok (next, f.init)
              else
                match newHeaders f.init.headers with
                | none => .error .threw
                | some headers => .ok (next, { f.init with headers := guard.strip headers })

def EgressGuard.requestLoop (api : Platform) (guard : EgressGuard) :
    List Hop → Nat → Destination → RequestInit → List Fetched × Outcome
  | [], _, _, _ => ([], .pending)
  | hop :: hops, redirects, current, init =>
    let decision := guard.evaluate api hop.addresses current
    if decision.allowed then
      let f : Fetched := ⟨current, hop.addresses, decision.destination, init, hop.response⟩
      match guard.follow api redirects f with
      | .error outcome => ([f], outcome)
      | .ok (next, init) =>
        let rest := guard.requestLoop api hops (redirects + 1) (.url next) init
        (f :: rest.1, rest.2)
    else ([], .blocked decision)

/-- `request`, as far as the network has answered: the fetches that are made, and how it ends. -/
def EgressGuard.request (api : Platform) (guard : EgressGuard) (hops : List Hop) (input : Destination) (init : RequestInit) :
    List Fetched × Outcome :=
  guard.requestLoop api hops 0 input init

end Tna.Egress
