/-!
# Binary floating-point numbers

A finite binary number is a sign and a magnitude `m * 2 ^ q`. Nothing here uses machine
floats: rounding is exact arithmetic on natural numbers, so every value can be computed
inside a proof.

## Main definitions

* `BinaryFormat`: the precision and the exponent range of a format, with `binary64` and
  `binary32`.
* `roundDiv`: the integer nearest to a quotient, a tie going to the even one.
* `BinaryFormat.round`: the magnitude of a format nearest to a quotient.
* `Binary.ofDecimal`: the number nearest to a decimal.
-/
namespace Dispatch

/-- Magnitudes of a format are `m * 2 ^ q` with `m < 2 ^ precision` and
`minExponent ≤ q ≤ maxExponent`. -/
structure BinaryFormat where
  precision : Nat
  minExponent : Int
  maxExponent : Int
  deriving DecidableEq, Repr

/-- The 64-bit interchange format. -/
def binary64 : BinaryFormat := ⟨53, -1074, 971⟩

/-- The 32-bit interchange format. -/
def binary32 : BinaryFormat := ⟨24, -149, 104⟩

/-- A finite number `± mantissa * 2 ^ exponent`. A format's numbers are written with the
least exponent the mantissa allows, so equal numbers of one sign have equal fields. -/
structure Binary where
  negative : Bool
  mantissa : Nat
  exponent : Int
  deriving DecidableEq, Repr, Inhabited

/-- The integer nearest to `num / den`; a tie goes to the even neighbour. -/
def roundDiv (num den : Nat) : Nat :=
  let floor := num / den
  let twice := 2 * (num % den)
  if twice < den then floor
  else if den < twice then floor + 1
  else floor + floor % 2

/-- The pair whose quotient is `num / (den * 2 ^ q)`. -/
def descale (num den : Nat) (q : Int) : Nat × Nat :=
  if 0 ≤ q then (num, den * Nat.pow 2 q.toNat) else (num * Nat.pow 2 (-q).toNat, den)

namespace BinaryFormat

/-- The exponent at which `num / den` has a mantissa of exactly `precision` bits. -/
def fullExponent (f : BinaryFormat) (num den : Nat) : Int :=
  let q : Int := (num.log2 : Int) - den.log2 - f.precision
  let (n, d) := descale num den q
  if n / d < Nat.pow 2 f.precision then q else q + 1

/-- The mantissa and exponent nearest to `num / den`, ties to even. `none` when the
nearest magnitude is beyond the largest one of the format. -/
def round (f : BinaryFormat) (num den : Nat) : Option (Nat × Int) :=
  if num = 0 then some (0, f.minExponent)
  else
    let q := max f.minExponent (f.fullExponent num den)
    let (n, d) := descale num den q
    let m := roundDiv n d
    let (m, q) := if m = Nat.pow 2 f.precision then (m / 2, q + 1) else (m, q)
    if f.maxExponent < q then none else some (m, q)

end BinaryFormat

namespace Binary

/-- Zero of the 64-bit format with the given sign. -/
def zero (negative : Bool) : Binary := ⟨negative, 0, binary64.minExponent⟩

/-- Whether the number is zero, of either sign. -/
def isZero (x : Binary) : Bool := x.mantissa == 0

/-- The magnitude as a quotient of natural numbers. -/
def quotient (x : Binary) : Nat × Nat :=
  if 0 ≤ x.exponent then (x.mantissa * Nat.pow 2 x.exponent.toNat, 1)
  else (x.mantissa, Nat.pow 2 (-x.exponent).toNat)

/-- The number of a format nearest to `± num / den`. -/
def ofQuotient (f : BinaryFormat) (negative : Bool) (num den : Nat) : Option Binary :=
  (f.round num den).map fun (m, q) => ⟨negative, m, q⟩

/-- The number of a format nearest to `± digits * 10 ^ exponent`. Decimals far outside the
range of every format are settled by their order of magnitude. -/
def ofDecimal (f : BinaryFormat) (negative : Bool) (digits : Nat) (exponent : Int) :
    Option Binary :=
  let order : Int := (Nat.toDigits 10 digits).length + exponent
  if digits = 0 ∨ order < -400 then some ⟨negative, 0, f.minExponent⟩
  else if 400 < order then none
  else if 0 ≤ exponent then ofQuotient f negative (digits * Nat.pow 10 exponent.toNat) 1
  else ofQuotient f negative digits (Nat.pow 10 (-exponent).toNat)

/-- The same number written in another format. -/
def convert (f : BinaryFormat) (x : Binary) : Option Binary :=
  let (num, den) := x.quotient
  ofQuotient f x.negative num den

/-- The product of a magnitude and `10 ^ k`, the power being rounded first. -/
def scaleUp (f : BinaryFormat) (x : Binary) (k : Nat) : Option Binary := do
  let (num, den) := x.quotient
  let (m, q) ← f.round (Nat.pow 10 k) 1
  let (pnum, pden) := quotient ⟨false, m, q⟩
  ofQuotient f x.negative (num * pnum) (den * pden)

/-- The quotient of a magnitude by `10 ^ k`, the power being rounded first. -/
def scaleDown (f : BinaryFormat) (x : Binary) (k : Nat) : Option Binary := do
  let (num, den) := x.quotient
  let (m, q) ← f.round (Nat.pow 10 k) 1
  let (pnum, pden) := quotient ⟨false, m, q⟩
  ofQuotient f x.negative (num * pden) (den * pnum)

/-- Two numbers compare equal when they have the same value: the zeros do, whatever
their signs. -/
def eqv (x y : Binary) : Bool := (x.isZero && y.isZero) || x == y

end Binary

end Dispatch
