import Dispatch.Text.Digits
import Dispatch.Text.Pieces

/-!
# Charts of code points

Properties of characters are given as text: code points in hexadecimal, ranges of them, and
what takes the place of a character. All charts of this library hold version 17 of the
standard.

## Main definitions

* `Chart`: ranges of code points, written `300-34E`.
* `Rule`: what takes the place of a code point, written `132>69.6A`. A rule for a range,
  such as `C0-D6>E0`, shifts it, and one such as `100-12E/2>101` only every second one.
-/
namespace Dispatch.Unicode

/-- The words of a text. -/
def words (text : String) : List (List Char) :=
  (Text.pieces (fun c => c == ' ' || c == '\n') text.toList).filter (!·.isEmpty)

/-- The number of a hexadecimal text. -/
def number (cs : List Char) : Nat := Digits.value 16 cs

/-- Code points, as closed ranges. -/
abbrev Chart : Type := List (Nat × Nat)

namespace Chart

/-- Whether a code point is in one of the ranges. -/
def contains (chart : Chart) (n : Nat) : Bool := chart.any fun r => r.1 ≤ n && n ≤ r.2

/-- The range that a word stands for. -/
def range? (word : List Char) : Option (Nat × Nat) :=
  match Text.pieces (· == '-') word with
  | [first] => some (number first, number first)
  | [first, last] => some (number first, number last)
  | _ => none

/-- The ranges of a text. -/
def ofText (text : String) : Chart := (words text).filterMap range?

end Chart

/-- What takes the place of the code points of a range, from the first in steps. -/
structure Rule where
  first : Nat
  last : Nat
  stride : Nat
  image : List Nat
  deriving Repr

namespace Rule

/-- Whether the rule is about a code point. -/
def covers (r : Rule) (n : Nat) : Bool :=
  r.first ≤ n && n ≤ r.last && (n - r.first) % r.stride == 0

/-- What takes the place of a code point: as far from the image as it is from the first. -/
def imageOf (r : Rule) (n : Nat) : List Char := r.image.map fun m => Char.ofNat (m + (n - r.first))

/-- The rule that a word stands for. -/
def ofWord? (word : List Char) : Option Rule := do
  let [domain, image] := Text.pieces (· == '>') word | none
  let image := (Text.pieces (· == '.') image).map number
  match Text.pieces (· == '/') domain with
  | [range] =>
    let (first, last) ← Chart.range? range
    some ⟨first, last, 1, image⟩
  | [range, stride] =>
    let (first, last) ← Chart.range? range
    some ⟨first, last, number stride, image⟩
  | _ => none

/-- The rules of a text. -/
def ofText (text : String) : List Rule := (words text).filterMap ofWord?

end Rule

end Dispatch.Unicode
