import Dispatch.Host.Punycode
import Dispatch.Text.Digits
import Dispatch.Unicode.Bidi
import Dispatch.Unicode.Joining
import Dispatch.Unicode.Mapping

/-!
# Names of hosts

A name is made of labels with full stops between them. It may be typed in many ways, which
stand for one form: in lower case, composed, and with the labels that are written in letters
and digits turned back into what they stand for.

## Main definitions

* `Host.typed?`: a text with its percent signs resolved.
* `Host.label?`: the form of one label.
* `Host.labels?`: the labels of a name.
-/
namespace Dispatch.Host

/-- The value of a byte as a hexadecimal digit. -/
def hexByte? (b : UInt8) : Option Nat := Digits.hexValue? (Char.ofNat b.toNat)

/-- The byte that a percent sign and two digits stand for. -/
def percentByte? (sign high low : UInt8) : Option UInt8 := do
  guard (sign == 0x25)
  some (UInt8.ofNat (16 * (← hexByte? high) + (← hexByte? low)))

/-- Bytes with those in place that percent signs and digits stand for. A percent sign without
two digits stands for itself. -/
def percentDecoded : List UInt8 → List UInt8
  | sign :: high :: low :: rest =>
    match percentByte? sign high low with
    | some b => b :: percentDecoded rest
    | none => sign :: percentDecoded (high :: low :: rest)
  | bytes => bytes

/-- The characters of a text with its percent signs resolved, if they are well-formed. -/
def typed? (cs : List Char) : Option (List Char) :=
  if cs.contains '%' then
    let bytes := percentDecoded (String.ofList cs).toUTF8.toList
    (String.fromUTF8? (ByteArray.mk bytes.toArray)).map String.toList
  else some cs

/-- Whether a character may not stand in a name. -/
def isForbidden (c : Char) : Bool :=
  c ≤ ' ' || c.toNat = 127 || "%#/:<>?@[\\]^|".toList.contains c

/-- What a label begins with that is written in letters and digits. -/
def writtenMark : List Char := "xn--".toList

/-- The form of a label. One that is written in letters and digits must stand for a label
that could not have been typed in another way. -/
def label? (cs : List Char) : Option (List Char) := do
  let label ←
    if writtenMark.isPrefixOf cs then do
      let digits := cs.drop writtenMark.length
      guard (digits.getLast?.any (· ≠ '-'))
      let label ← unwritten? digits
      guard (label.all Unicode.isHostForm && Unicode.composed label == label)
      pure label
    else pure cs
  guard (!label.head?.any Unicode.isMark && Unicode.joinersFit label)
  some label

/-- The labels of a name. -/
def labels? (cs : List Char) : Option (List (List Char)) := do
  let images ← (← typed? cs).mapM Unicode.hostForm?
  let name := Unicode.composed images.flatten
  guard (!name.any isForbidden)
  let labels ← (Text.pieces (· == '.') name).mapM label?
  guard (!labels.any (·.any Unicode.isRightward) || labels.all Unicode.keepsDirection)
  some labels

end Dispatch.Host
