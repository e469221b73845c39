import Dispatch.Numeral.Shortest

/-!
# Writing decimals

A layout says at which orders of magnitude a decimal is written positionally and where
scientific form takes over. Positional text always has a fractional part, `.0` if need be,
and scientific text always has the sign of its exponent.
-/
namespace Dispatch

/-- The orders of magnitude that are written positionally: a number whose leading digit
counts `10 ^ k` is, if `leastPositional ≤ k < firstScientific`. -/
structure Layout where
  leastPositional : Int
  firstScientific : Int
  deriving DecidableEq, Repr

namespace Layout

/-- Digits with the point after the first `whole` of them; zeros fill what is missing. -/
def positional (digits : String) (exponent : Int) : String :=
  let count : Int := digits.length
  if 0 ≤ exponent then digits ++ String.ofList (List.replicate exponent.toNat '0') ++ ".0"
  else if 0 < count + exponent then
    let whole := (count + exponent).toNat
    String.ofList (digits.toList.take whole) ++ "." ++ String.ofList (digits.toList.drop whole)
  else "0." ++ String.ofList (List.replicate (-(count + exponent)).toNat '0') ++ digits

/-- One digit, the others behind a point if there are any, and the exponent. -/
def scientific (digits : String) (order : Int) : String :=
  let mantissa := match digits.toList with
    | first :: more@(_ :: _) => String.ofList (first :: '.' :: more)
    | single => String.ofList single
  mantissa ++ "e" ++ (if order < 0 then "-" else "+") ++ toString order.natAbs

/-- The text of `± d`. -/
def write (l : Layout) (negative : Bool) (d : Decimal) : String :=
  let digits := toString d.digits
  let order : Int := d.exponent + digits.length - 1
  let magnitude :=
    if d.digits = 0 then "0.0"
    else if l.leastPositional ≤ order ∧ order < l.firstScientific then
      positional digits d.exponent
    else scientific digits order
  if negative then "-" ++ magnitude else magnitude

end Layout

end Dispatch
