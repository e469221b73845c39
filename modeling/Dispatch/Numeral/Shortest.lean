import Dispatch.Numeral.Binary

/-!
# The shortest decimal that reads back

Among the decimals that round to a given binary number, the shortest has the fewest
significant digits, and of those it is the nearest one. With `n` digits the candidates are
the two neighbours of the number on the grid of `n`-digit decimals: if any point of the
grid rounds to the number, so does one of these two.

## Main definitions

* `Decimal`: an integer times a power of ten.
* `Rounding.ofBinary`: the open or closed interval of reals that round to a number.
* `Decimal.shortest`: the first grid that meets the interval decides.
-/
namespace Dispatch

/-- The number `digits * 10 ^ exponent`. -/
structure Decimal where
  digits : Nat
  exponent : Int
  deriving DecidableEq, Repr, Inhabited

/-- How many decimal digits a number has; zero has one. -/
def digitCount (n : Nat) : Nat := (Nat.toDigits 10 n).length

/-- The interval of reals that round to one magnitude, all four numbers over one common
denominator. -/
structure Rounding where
  low : Nat
  value : Nat
  high : Nat
  denominator : Nat
  /-- Whether the ends belong to the interval: an even mantissa wins its ties. -/
  closed : Bool

namespace Rounding

/-- The interval of the 64-bit format around a nonzero magnitude. Below a power of two the
gap is half as wide. -/
def ofBinary (x : Binary) : Rounding :=
  let m := x.mantissa
  let below := if m = Nat.pow 2 (binary64.precision - 1) ∧ binary64.minExponent < x.exponent
    then 1 else 2
  let (num, den) := Binary.quotient ⟨false, 1, x.exponent - 2⟩
  ⟨(4 * m - below) * num, 4 * m * num, (4 * m + 2) * num, den, m % 2 == 0⟩

/-- Whether `num / den` lies in the interval. -/
def contains (r : Rounding) (num den : Nat) : Bool :=
  let x := num * r.denominator
  let low := r.low * den
  let high := r.high * den
  if r.closed then low ≤ x && x ≤ high else low < x && x < high

/-- The exponent of the leading decimal digit of the value. -/
def leading (r : Rounding) : Int :=
  if r.denominator ≤ r.value then (digitCount (r.value / r.denominator) : Int) - 1
  else -(digitCount ((r.denominator - 1) / r.value) : Int)

/-- The better of the two neighbours of the value on the grid of multiples of
`10 ^ exponent`, if one of them lies in the interval. A tie goes to the even one. -/
def onGrid (r : Rounding) (exponent : Int) : Option Nat :=
  let (up, down) : Nat × Nat :=
    if 0 ≤ exponent then (Nat.pow 10 exponent.toNat, 1)
    else (1, Nat.pow 10 (-exponent).toNat)
  let num := r.value * down
  let den := r.denominator * up
  let floor := num / den
  let nearest := roundDiv num den
  let other := if nearest = floor then floor + 1 else floor
  if r.contains (nearest * up) down then some nearest
  else if r.contains (other * up) down then some other
  else none

end Rounding

namespace Decimal

/-- Drops the trailing zeros of the digits. -/
def normalize : Nat → Decimal → Decimal
  | 0, d => d
  | fuel + 1, d =>
    if d.digits ≠ 0 ∧ d.digits % 10 = 0 then normalize fuel ⟨d.digits / 10, d.exponent + 1⟩
    else d

/-- Seventeen significant digits tell any two 64-bit numbers apart. -/
def maxDigits : Nat := 17

/-- Tries the grids with more and more digits, starting from `17 - left` of them. -/
def searchGrids (r : Rounding) (leading : Int) : Nat → Decimal
  | 0 => ⟨(r.onGrid (leading - maxDigits)).getD 0, leading - maxDigits⟩
  | left + 1 =>
    let exponent := leading - (maxDigits - (left + 1) : Nat)
    match r.onGrid exponent with
    | some digits => ⟨digits, exponent⟩
    | none => searchGrids r leading left

/-- The shortest decimal that rounds to the magnitude of a 64-bit number. -/
def shortest (x : Binary) : Decimal :=
  if x.isZero then ⟨0, 0⟩
  else
    let r := Rounding.ofBinary x
    normalize maxDigits (searchGrids r r.leading maxDigits)

end Decimal

end Dispatch
