import Dispatch.Text.Digits
import Dispatch.Text.Pieces

/-!
# Addresses of 128 bits

An address is eight groups of hexadecimal digits with colons between them. Two colons in a
row stand for groups of zeros, once; the last two groups may be written as four decimal
bytes.

## Main definitions

* `Host.groups?`: the groups of a text without two colons in a row.
* `Host.ipv6?`: the eight groups of an address.
-/
namespace Dispatch.Host

/-- A group of one to four hexadecimal digits. -/
def group? (cs : List Char) : Option Nat :=
  if !cs.isEmpty && cs.length ≤ 4 && cs.all (Digits.isDigit 16) then some (Digits.value 16 cs)
  else none

/-- A byte in decimal digits, without zeros in front. -/
def byte? (cs : List Char) : Option Nat :=
  if !cs.isEmpty && cs.all Digits.isDecimal && (cs.head? ≠ some '0' || cs.length = 1) &&
      Digits.value 10 cs < 256 then
    some (Digits.value 10 cs)
  else none

/-- The two groups of four decimal bytes. -/
def quad? (cs : List Char) : Option (List Nat) := do
  let [a, b, c, d] ← (Text.pieces (· == '.') cs).mapM byte? | none
  some [256 * a + b, 256 * c + d]

/-- The groups of a text, where decimal bytes may stand at the end if they are allowed. -/
def groups? (allowsQuad : Bool) (cs : List Char) : Option (List Nat) :=
  if cs.isEmpty then some []
  else do
    let pieces := Text.pieces (· == ':') cs
    let init ← pieces.dropLast.mapM group?
    let final := pieces.getLast?.getD []
    let last ← ((group? final).map ([·])).or (if allowsQuad then quad? final else none)
    some (init ++ last)

/-- What stands before the first two colons in a row, and behind them. -/
def cutAtColons : List Char → Option (List Char × List Char)
  | ':' :: ':' :: rest => some ([], rest)
  | c :: rest => (cutAtColons rest).map fun (before, after) => (c :: before, after)
  | [] => none

/-- The eight groups of an address. Two colons stand for one group at least. -/
def ipv6? (cs : List Char) : Option (List Nat) :=
  match cutAtColons cs with
  | none => do
    let groups ← groups? true cs
    if groups.length = 8 then some groups else none
  | some (before, after) => do
    let first ← groups? false before
    let last ← groups? true after
    let present := first.length + last.length
    if present < 8 then some (first ++ List.replicate (8 - present) 0 ++ last) else none

end Dispatch.Host
