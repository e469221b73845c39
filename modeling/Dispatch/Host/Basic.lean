import Dispatch.Host.Ipv4
import Dispatch.Host.Ipv6
import Dispatch.Host.Name

/-!
# Hosts

What an address names as the place to connect to.

## Main definitions

* `Host`: the ways to name a host.
* `Host.ofText?`: the host of an address whose scheme is known.
* `Host.verbatim?`: the host of any other address.
-/
namespace Dispatch

/-- The ways to name a host. -/
inductive Host where
  /-- A name, as its labels. -/
  | name (labels : List String)
  /-- An address of 32 bits. -/
  | ipv4 (address : Nat)
  /-- An address of 128 bits, as groups of 16. -/
  | ipv6 (groups : List Nat)
  /-- A text that only its scheme understands. -/
  | verbatim (text : String)
  deriving DecidableEq, Repr

namespace Host

/-- The host that stands in square brackets; the text begins with one. -/
def bracketed? (cs : List Char) : Option Host := do
  guard (cs.getLast? = some ']')
  some (.ipv6 (← ipv6? (cs.drop 1).dropLast))

/-- The host of an address whose scheme is known. A name that ends in a number must be an
address of 32 bits. -/
def ofText? (cs : List Char) : Option Host :=
  if cs.head? = some '[' then bracketed? cs
  else do
    let labels ← labels? cs
    if labels = [[]] then none
    else if endsInNumber labels then (ipv4? labels).map .ipv4
    else some (.name (labels.map String.ofList))

/-- Whether a character may not stand in a host that only its scheme understands. -/
def isReserved (c : Char) : Bool :=
  c = Char.ofNat 0 || "\t\n\r #/:<>?@[\\]^|".toList.contains c

/-- The host of an address whose scheme is not known. -/
def verbatim? (cs : List Char) : Option Host :=
  if cs.head? = some '[' then bracketed? cs
  else if cs.any isReserved then none
  else some (.verbatim (String.ofList cs))

end Host

end Dispatch
