import Tna.Egress.Guarded
import Tna.Lib.Outcome
import Tna.Sentinel.Signals

/-!
# Two readings of a list of hosts

The egress guard and Sentinel each read a list of allowed hosts. The guard takes brackets and
every dot at the end off an entry and compares, a wildcard included, with the host; Sentinel
trims an entry, takes one dot off, and lets a wildcard stand for its suffix and what is below
it. They agree on an entry that is the host itself, and otherwise as chance has it.
-/

namespace Tna.Sentinel

open Tna.Js Tna.Lib Tna.Egress

/-! ## Hosts and entries -/

/-- A unit of a host that is no bracketed address, as the `URL` class writes it. -/
def isHostUnit (c : CodeUnit) : Bool := c ≤ 0x7f && !isSpace c && !isUpper c && c != unit '[' && c != unit ']'

/-- The host of a URL: a name or an IPv4 address, or an IPv6 address in brackets. -/
def IsUrlHost (host : Text) : Prop :=
  (∀ c ∈ host, isHostUnit c = true) ∨ ∃ a, host = unit '[' :: (a ++ [unit ']']) ∧ ∀ c ∈ a, isHostUnit c = true ∧ c ≠ unit '.'

/-- The text without one dot at its end. -/
def undotted (t : Text) : Text := if t.getLast? = some (unit '.') then t.dropLast else t

def Dots (t : Text) : Prop := ∀ c ∈ t, c = unit '.'

/-- The entry is the host itself, in any letter case; where the host is in no brackets, either may have one dot at its end. -/
def Itself (entry host : Text) : Prop :=
  entry.trim = entry ∧ undotted (lowerCase entry) = undotted host ∧ (host.head? = some (unit '[') → lowerCase entry = host)

/-- A name with dots at its end, as it is or in brackets. -/
def Spells (name t : Text) : Prop := ∃ dots, Dots dots ∧ (t = name ++ dots ∨ t = unit '[' :: (name ++ dots ++ [unit ']']))

/-- The entry and the host spell one name. A wildcard spells the wildcard for the name behind it. -/
def OneName (entry host : Text) : Prop :=
  ∃ name, unit '[' ∉ name ∧ unit ']' ∉ name ∧ Spells name host ∧ (Spells name (lowerCase entry) ∨
    ∃ below t, name = Text.ofAscii "*." ++ below ∧ lowerCase entry = Text.ofAscii "*." ++ t ∧ Spells below t)

/-- The entry is not the host itself, and differs from it by brackets and by dots at the end alone. -/
def Respelled (entry host : Text) : Prop := ¬ Itself entry host ∧ OneName entry host

/-- The entry is not the host itself, and is so once it is trimmed and a dot is taken off both, or is then a wildcard for
the host. -/
def Covers (entry host : Text) : Prop :=
  ¬ Itself entry host ∧ (undotted (lowerCase entry.trim) = undotted host ∨
    ∃ name, undotted (lowerCase entry.trim) = Text.ofAscii "*." ++ name ∧
      (undotted host = name ∨ ∃ below, undotted host = below ++ unit '.' :: name))

section
variable {t name host entry : Text}

/-! ## Letter case -/

/-! ## Sentinel -/

/-! ## Dots and brackets -/

def trimDots (t : Text) : Text := t.rdropWhile (· == unit '.')

/-- A text without the brackets around it. -/
def unbracketed (t : Text) : Text := if t.head? = some (unit '[') ∧ t.getLast? = some (unit ']') then t.tail.dropLast else t

/-- The name a text spells. -/
def bare (t : Text) : Text := trimDots (unbracketed t)

/-! ## The guard -/

end

/-! ## One list for both -/

section
variable {api : Platform} {policy : EgressPolicy} {maxRedirects : Option Numeric} {guard : EgressGuard}
  {addresses : Option (List Text)} {destination : Destination} {canonical : CanonicalDestination}

/-- A destination that nothing but the list of allowed hosts can keep from being reached. -/
structure Reachable (api : Platform) (guard : EgressGuard) (addresses : Option (List Text)) (destination : Destination)
    (canonical : CanonicalDestination) : Prop where
  destination : canonicalizeDestination api destination = .ok canonical
  required : guard.policy.mode = .required
  undenied : guard.denyHosts = []
  remote : isLocalhost canonical.hostname = false
  visible : isPrivateAddress api canonical.hostname = false
  port : guard.approvesPort canonical.port = true
  resolved : api.isIP canonical.hostname = 0 →
    ∃ found, addresses = some found ∧ found ≠ [] ∧ ∀ a ∈ found, isPrivateAddress api a = false

end

/-! ## A wildcard -/

/-- The guard of a policy with a list of hosts, as they are read. -/
def sampleGuard (hosts read : List Text) : EgressGuard := ⟨{ sampleEgress with allowHosts := hosts }, read, [], .finite 5, []⟩

def sampleCanonical : CanonicalDestination := ⟨sampleUrl, sampleUrl.hostname, 443⟩

end Tna.Sentinel
