import Dispatch.Json.Basic
import Dispatch.Numeral.Word

/-!
# Points in time

Milliseconds since the start of 1970, leap seconds not counted, as a signed 64-bit number.
-/
namespace Dispatch

/-- A point in time. -/
structure UnixMillis where
  value : Int
  deriving DecidableEq, Repr, Inhabited

namespace UnixMillis

/-- The digits of the number. -/
def text (t : UnixMillis) : String := integerText t.value

/-- The number itself. -/
def toJson (t : UnixMillis) : Json := .number (.integer t.value)

/-- Only an integer of 64 bits is a point in time. -/
def ofJson? : Json → Option UnixMillis
  | .number (.integer i) => if Word.isSigned i then some ⟨i⟩ else none
  | _ => none

/-- The earlier of two points comes first. -/
def sort (ts : List UnixMillis) : List UnixMillis :=
  ts.mergeSort fun a b => decide (a.value ≤ b.value)

end UnixMillis

end Dispatch
