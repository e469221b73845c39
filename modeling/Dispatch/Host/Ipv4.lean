import Dispatch.Text.Digits

/-!
# Addresses of 32 bits

An address is written as numbers with full stops between them, each in decimal, octal or
hexadecimal digits. The last one fills all the bytes that the ones before it leave.

## Main definitions

* `Host.ipv4Number?`: one of the numbers.
* `Host.endsInNumber`: whether labels are meant as an address.
* `Host.ipv4?`: the address of labels.
-/
namespace Dispatch.Host

/-- Digits of a base, which may be none at all. -/
def digits? (base : Nat) (cs : List Char) : Option Nat :=
  if cs.all (Digits.isDigit base) then some (Digits.value base cs) else none

/-- A number: hexadecimal after `0x`, octal after another `0`, else decimal. -/
def ipv4Number? : List Char → Option Nat
  | [] => none
  | '0' :: 'x' :: cs => digits? 16 cs
  | '0' :: c :: cs => digits? 8 (c :: cs)
  | cs => digits? 10 cs

/-- The labels without an empty one at the end of several. -/
def withoutRoot (labels : List (List Char)) : List (List Char) :=
  if labels.length ≠ 1 ∧ labels.getLast? = some [] then labels.dropLast else labels

/-- Whether labels are meant as an address. A label of digits counts even if it is no number,
such as one of octal digits with a `9` among them. -/
def endsInNumber (labels : List (List Char)) : Bool :=
  (withoutRoot labels).getLast?.any fun cs =>
    (!cs.isEmpty && cs.all Digits.isDecimal) || (ipv4Number? cs).isSome

/-- The value of bytes, the first one counting most. -/
def bytesValue (bytes : List Nat) : Nat := bytes.foldl (fun n b => 256 * n + b) 0

/-- The address of labels. -/
def ipv4? (labels : List (List Char)) : Option Nat := do
  let numbers ← (withoutRoot labels).mapM ipv4Number?
  let last ← numbers.getLast?
  let bytes := numbers.dropLast
  let free := Nat.pow 256 (4 - bytes.length)
  guard (numbers.length ≤ 4 && bytes.all (· < 256) && last < free)
  some (bytesValue bytes * free + last)

end Dispatch.Host
