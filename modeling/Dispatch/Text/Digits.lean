import Dispatch.Text.Reader

/-!
# Digits

The value of a digit in a base up to sixteen, and of a run of digits. Only ASCII digits
count, whatever the text around them holds.
-/
namespace Dispatch

namespace Digits

/-- The value of a hexadecimal digit. -/
def hexValue? (c : Char) : Option Nat :=
  if '0' ≤ c ∧ c ≤ '9' then some (c.toNat - '0'.toNat)
  else if 'a' ≤ c ∧ c ≤ 'f' then some (c.toNat - 'a'.toNat + 10)
  else if 'A' ≤ c ∧ c ≤ 'F' then some (c.toNat - 'A'.toNat + 10)
  else none

/-- Whether a character is one of the decimal digits `0` to `9`. -/
def isDecimal (c : Char) : Bool := '0' ≤ c && c ≤ '9'

/-- Whether a character is a digit of the base. -/
def isDigit (base : Nat) (c : Char) : Bool := (hexValue? c).any (· < base)

/-- The number that a run of digits denotes. -/
def value (base : Nat) (cs : List Char) : Nat :=
  cs.foldl (fun n c => n * base + (hexValue? c).getD 0) 0

end Digits

/-- The text of an integer: a minus sign if it is negative, then its digits. -/
def integerText (i : Int) : String :=
  if i < 0 then "-" ++ toString i.natAbs else toString i.natAbs

/-- This is how the core library writes integers, too. -/
theorem integerText_eq (i : Int) : integerText i = toString i := by
  cases i with
  | ofNat n => exact if_neg (Int.not_lt.2 (Int.natCast_nonneg n))
  | negSucc n => exact if_pos (Int.negSucc_lt_zero n)

end Dispatch
