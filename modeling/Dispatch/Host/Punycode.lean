import Dispatch.Text.Pieces

/-!
# Labels in letters and digits

A label with characters beyond ASCII can be written in letters, digits and hyphens: its
ASCII characters first, then a hyphen, then where the others go. Each of them is a number,
least digit first, in a base that changes from digit to digit: how far to move on through
the places of the label, and past its end to the next character.

## Main definitions

* `Host.Insertion`: a label while characters are put into it.
* `Host.unwritten?`: the label that a text stands for.
-/
namespace Dispatch.Host

/-- The value of one of the 36 digits: the letters come first. -/
def digit? (c : Char) : Option Nat :=
  if c.isLower then some (c.toNat - 'a'.toNat)
  else if c.isUpper then some (c.toNat - 'A'.toNat)
  else if c.isDigit then some (c.toNat - '0'.toNat + 26)
  else none

/-- Cuts a distance down for as long as it is large, and counts the cuts in steps of 36. -/
def cutDown (distance : Nat) : Nat × Nat :=
  if 455 < distance then
    let (rest, steps) := cutDown (distance / 35)
    (rest, steps + 36)
  else (distance, 0)
  termination_by distance
  decreasing_by omega

/-- How the base of the digits begins for the next character: distances tend to be like the
one just seen, though the first is far longer than the rest. -/
def adapted (distance places : Nat) (isFirst : Bool) : Nat :=
  let distance := if isFirst then distance / 700 else distance / 2
  let (rest, steps) := cutDown (distance + distance / places)
  steps + 36 * rest / (rest + 38)

/-- A label while characters are put into it. -/
structure Insertion where
  label : List Char
  /-- The character that is put in if the number read next is small. -/
  codePoint : Nat
  /-- The place that counting starts from. -/
  start : Nat
  bias : Nat
  /-- What has been counted so far, from the start. -/
  index : Nat
  /-- What the next digit counts. -/
  weight : Nat
  /-- Which digit of its number comes next, in steps of 36. -/
  position : Nat

namespace Insertion

/-- Before the first digit. -/
def empty (label : List Char) : Insertion := ⟨label, 128, 0, 72, 0, 1, 36⟩

/-- A digit below this is the last of its number. -/
def threshold (i : Insertion) : Nat :=
  if i.position ≤ i.bias then 1 else min 26 (i.position - i.bias)

/-- Whether no number has been begun. -/
def isWhole (i : Insertion) : Bool := i.position == 36

/-- Puts in the character that a number stands for. -/
def insert (i : Insertion) : Option Insertion :=
  let places := i.label.length + 1
  let codePoint := i.codePoint + i.index / places
  let place := i.index % places
  if codePoint.isValidChar then
    some ⟨i.label.take place ++ Char.ofNat codePoint :: i.label.drop place, codePoint, place + 1,
      adapted (i.index - i.start) places (i.start == 0), place + 1, 1, 36⟩
  else none

/-- Reads one more digit. -/
def read (i : Insertion) (c : Char) : Option Insertion := do
  let digit ← digit? c
  let counted := { i with index := i.index + digit * i.weight }
  if digit < i.threshold then counted.insert
  else some { counted with weight := i.weight * (36 - i.threshold), position := i.position + 36 }

end Insertion

/-- The label that a text stands for. The last hyphen, if any, ends its ASCII characters, and
there is no hyphen without such characters. -/
def unwritten? (cs : List Char) : Option (List Char) := do
  let digits := (cs.reverse.takeWhile (· ≠ '-')).reverse
  let literal := cs.take (cs.length - digits.length)
  guard (literal.length ≠ 1)
  let i ← digits.foldlM Insertion.read (.empty literal.dropLast)
  guard i.isWhole
  some i.label

end Dispatch.Host
