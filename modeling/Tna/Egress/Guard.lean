import Tna.Js.Number

/-!
# The egress guard

A destination is evaluated against a policy: its scheme, its host, its port and the addresses the
host has at that moment. A request evaluates each destination before it fetches it, follows
redirects up to a bound, and once one goes to another origin sends on only the headers that may
be forwarded. The `URL` class and `isIP` are parameters.
-/

namespace Tna.Egress

open Tna.Js

/-! ## What the guard is given -/

/-- What is read of a `URL`. -/
structure Url where
  href : Text
  protocol : Text
  username : Text
  password : Text
  hostname : Text
  port : Text
  origin : Text

/-- What the guard uses of its platform. -/
structure Platform where
  /-- `new URL(text)`. -/
  parse : Text → Option Url
  /-- `new URL(location, base)`. -/
  resolve : Text → Text → Option Url
  isIP : Text → Nat

inductive Destination where
  | text (t : Text)
  | url (u : Url)

/-- `String(destination)`. -/
def Destination.toText : Destination → Text
  | .text t => t
  | .url u => u.href

inductive EgressBlockReason where
  | networkDisabled | unsupportedProtocol | invalidUrl | userinfoForbidden | invalidHost | portForbidden | localhostForbidden
  | privateAddress | unknownDestination | deniedHost | hostNotAllowed | dnsFailure | redirectLimit | redirectLocationInvalid
deriving DecidableEq

inductive EgressMode where
  | none | required
deriving DecidableEq

structure EgressPolicy where
  mode : EgressMode
  allowHosts : List Text
  denyHosts : List Text
  approvedPorts : Option (List Nat)
  credentialHeaders : List Text

structure EgressDecision where
  allowed : Bool
  /-- None is `ALLOWED`. -/
  reason : Option EgressBlockReason
  destination : Text
  hostname : Option Text
  detail : Option Text
deriving DecidableEq

def blocked (reason : EgressBlockReason) (destination : Text) : EgressDecision := ⟨false, some reason, destination, none, none⟩

structure CanonicalDestination where
  url : Url
  hostname : Text
  port : Nat

/-! ## Addresses -/

def ipv4Value (address : Text) : Option Nat :=
  let parts := address.splitOn (unit '.')
  if parts.length ≠ 4 ∨ parts.any (fun part => !(decide (1 ≤ part.length ∧ part.length ≤ 3) && part.all isDigit)) then none
  else
    let values := parts.map digitsValue
    if values.any fun value => decide (255 < value) then none else some (values.foldl (fun n value => n * 256 + value) 0)

/-- The ranges that are not public. -/
def ipv4Ranges : List (Nat × Nat) :=
  [(0x00000000, 0x00ffffff), (0x0a000000, 0x0affffff), (0x64400000, 0x647fffff), (0x7f000000, 0x7fffffff),
    (0xa9fe0000, 0xa9feffff), (0xac100000, 0xac1fffff), (0xc0000000, 0xc00000ff), (0xc6120000, 0xc613ffff),
    (0xc6336400, 0xc63364ff), (0xc0a80000, 0xc0a8ffff), (0xcb007100, 0xcb0071ff), (0xe0000000, 0xefffffff)]

def ipv4Private (address : Text) : Bool :=
  match ipv4Value address with
  | none => false
  | some value => ipv4Ranges.any fun range => decide (range.1 ≤ value ∧ value ≤ range.2)

/-- The words of a part of an IPv6 address, between `::`. -/
def ipv6Part (part : Text) : Option (List Nat) :=
  if part = [] then some []
  else
    ((part.splitOn (unit ':')).mapM fun item =>
      if unit '.' ∈ item then (ipv4Value item).map fun value => [value / 65536, value % 65536]
      else if 1 ≤ item.length ∧ item.length ≤ 4 ∧ item.all (fun c => decide (radixDigit c < 16)) then
        some [item.foldl (fun n c => n * 16 + radixDigit c) 0]
      else none).map List.flatten

/-- `address.split('::')`. -/
def splitDouble : Text → List Text
  | [] => [[]]
  | [c] => [[c]]
  | c :: d :: rest =>
    if c = unit ':' ∧ d = unit ':' then [] :: splitDouble rest
    else
      match splitDouble (d :: rest) with
      | piece :: pieces => (c :: piece) :: pieces
      | [] => [[c]]

def ipv6Words (address : Text) : Option (List Nat) :=
  if unit '%' ∈ address then none
  else
    match splitDouble address with
    | [whole] =>
      match ipv6Part whole with
      | some words => if words.length = 8 then some words else none
      | none => none
    | [first, second] =>
      match ipv6Part first, ipv6Part second with
      | some left, some right =>
        if 8 ≤ left.length + right.length then none
        else some (left ++ List.replicate (8 - left.length - right.length) 0 ++ right)
      | _, _ => none
    | _ => none

/-- Four numbers with dots between them. -/
def dotted (a b c d : Nat) : Text :=
  decimal a ++ unit '.' :: decimal b ++ unit '.' :: decimal c ++ unit '.' :: decimal d

/-- The words of an IPv6 address that is not public. -/
def ipv6Private (words : List Nat) : Bool :=
  if (words.take 5).all (· == 0) && words.getD 5 0 == 0xffff then
    ipv4Private (dotted (words.getD 6 0 / 256) (words.getD 6 0 % 256) (words.getD 7 0 / 256) (words.getD 7 0 % 256))
  else
    let first := words.getD 0 0
    first == 0 || first &&& 0xfe00 == 0xfc00 || first &&& 0xffc0 == 0xfe80 || first &&& 0xff00 == 0xff00

def isPrivateAddress (api : Platform) (address : Text) : Bool :=
  if api.isIP address = 4 then ipv4Private address
  else if api.isIP address ≠ 6 then false
  else
    match ipv6Words address with
    | none => true
    | some words => ipv6Private words

example : ipv4Private "172.31.255.255" = true ∧ ipv4Private "172.32.0.0" = false ∧ ipv4Private "010.0.0.1" = true ∧
    ipv6Words "::ffff:10.0.0.1" = some [0, 0, 0, 0, 0, 0xffff, 0x0a00, 1] ∧ ipv6Words "fe80::1" = some [0xfe80, 0, 0, 0, 0, 0, 0, 1] ∧
    ipv6Words "1::2::3" = none ∧ ipv6Words "fe80::1%eth0" = none := by decide +kernel

/-! ## Destinations -/

/-- The authority in a text, up to the first `/`, `?` or `#` behind the first `://`. -/
def authority : Text → Option Text
  | [] => none
  | c :: rest =>
    if (Text.ofAscii "://").isPrefixOf (c :: rest) then
      some ((rest.drop 2).takeWhile fun c => !(c == unit '/' || c == unit '?' || c == unit '#'))
    else authority rest

/-- Only a text is searched for an encoded authority. -/
def Destination.encoded : Destination → Bool
  | .text t => ((authority t).getD []).contains (unit '%')
  | .url _ => false

def normalizedHost (host : Text) : Option Text :=
  let withoutBrackets := if host.head? = some (unit '[') ∧ host.getLast? = some (unit ']') then host.tail.dropLast else host
  if withoutBrackets = [] ∨ unit '%' ∈ withoutBrackets ∨ withoutBrackets.any (fun c => decide (0x7f < c)) then none
  else some ((withoutBrackets.map foldCase).rdropWhile (· == unit '.'))

/-- A host of the policy; `*.` in front stands for the hosts below it. -/
def policyHost (api : Platform) (host : Text) : Option Text :=
  if (Text.ofAscii "*.").isPrefixOf host then
    (normalizedHost (host.drop 2)).bind fun suffix =>
      if suffix = [] ∨ api.isIP suffix ≠ 0 then none else some (Text.ofAscii "*." ++ suffix)
  else normalizedHost host

def defaultPort (protocol : Text) : Nat := if protocol = Text.ofAscii "https:" then 443 else 80

/-- The port of a URL, when it can be one. -/
def portOf (url : Url) : Option Nat :=
  if url.port = [] then some (defaultPort url.protocol)
  else
    match numberOf url.port with
    | .finite v => if v.den = 1 ∧ 1 ≤ v ∧ v ≤ 65535 then some v.num.toNat else none
    | _ => none

def protocols : List Text := ["http:", "https:"]

def canonicalizeDestination (api : Platform) (input : Destination) : Except EgressDecision CanonicalDestination :=
  if input.encoded then
    .error { blocked .invalidHost input.toText with detail := some "encoded authority is forbidden" }
  else
    match api.parse input.toText with
    | none => .error (blocked .invalidUrl input.toText)
    | some url =>
      if url.protocol ∉ protocols then .error (blocked .unsupportedProtocol url.href)
      else if url.username ≠ [] ∨ url.password ≠ [] then .error (blocked .userinfoForbidden url.href)
      else
        match normalizedHost url.hostname with
        | none => .error (blocked .invalidHost url.href)
        | some hostname =>
          if hostname = [] ∨ hostname.getLast? = some (unit '.') then .error (blocked .invalidHost url.href)
          else
            match portOf url with
            | none => .error (blocked .portForbidden url.href)
            | some port => .ok ⟨url, hostname, port⟩

/-! ## The guard -/

structure EgressGuard where
  policy : EgressPolicy
  allowHosts : List Text
  denyHosts : List Text
  maxRedirects : Numeric
  credentialHeaders : List Text

/-- `text.toLowerCase()`, as far as the result is ASCII. The Kelvin sign becomes a `k`. -/
def lowerCase (t : Text) : Text := t.map fun c => if c = 0x212A then unit 'k' else foldCase c

/-- `new EgressGuard(policy, { maxRedirects })`. -/
def EgressGuard.create (api : Platform) (policy : EgressPolicy) (maxRedirects : Option Numeric) : Option EgressGuard := do
  let allowHosts ← policy.allowHosts.mapM (policyHost api)
  let denyHosts ← policy.denyHosts.mapM (policyHost api)
  return ⟨policy, allowHosts, denyHosts, maxRedirects.getD (.finite 5), policy.credentialHeaders.map lowerCase⟩

/-- `localhost` and the hosts below it. -/
def isLocalhost (hostname : Text) : Bool :=
  hostname == Text.ofAscii "localhost" || (Text.ofAscii ".localhost").isSuffixOf hostname

def defaultPorts : List Nat := [80, 443]

def EgressGuard.approvesPort (guard : EgressGuard) (port : Nat) : Bool := (guard.policy.approvedPorts.getD defaultPorts).contains port

def EgressGuard.denies (guard : EgressGuard) (hostname : Text) : Bool :=
  guard.denyHosts.any fun host =>
    host == hostname || ((Text.ofAscii "*.").isPrefixOf host && (unit '.' :: host.drop 2).isSuffixOf hostname)

/-- `evaluate`. The addresses are what the lookup of the host answers with, if it is made; none
when the lookup fails. -/
def EgressGuard.evaluate (api : Platform) (guard : EgressGuard) (addresses : Option (List Text)) (destination : Destination) :
    EgressDecision :=
  if guard.policy.mode = .none then blocked .networkDisabled destination.toText
  else
    match canonicalizeDestination api destination with
    | .error decision => decision
    | .ok canonical =>
      let blocked reason : EgressDecision := ⟨false, some reason, canonical.url.href, some canonical.hostname, none⟩
      let allowed : EgressDecision := ⟨true, none, canonical.url.href, some canonical.hostname, none⟩
      if isLocalhost canonical.hostname then blocked .localhostForbidden
      else if isPrivateAddress api canonical.hostname then blocked .privateAddress
      else if !guard.approvesPort canonical.port then blocked .portForbidden
      else if guard.denies canonical.hostname then blocked .deniedHost
      else if canonical.hostname ∉ guard.allowHosts then blocked .hostNotAllowed
      else if api.isIP canonical.hostname ≠ 0 then allowed
      else
        match addresses with
        | none => { blocked .unknownDestination with detail := some "DNS lookup failed" }
        | some addresses =>
          if addresses = [] then blocked .unknownDestination
          else if addresses.any (isPrivateAddress api) then
            { blocked .privateAddress with detail := some "DNS resolved to a private address" }
          else allowed

end Tna.Egress
