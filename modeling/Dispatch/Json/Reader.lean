import Dispatch.Json.Basic
import Dispatch.Numeral.Word
import Dispatch.Text.Reader

/-!
# Reading JSON

Numbers are read in one pass over their digits, and a float that is not short may come out
a last place away from the nearest one: the significand keeps only as many digits as fit
64 bits, is rounded once, and is then scaled by one rounded power of ten.

## Main definitions

* `Significand.take`: the digits that fit.
* `Json.Number.ofParts?`: the number denoted by its sign, digits and exponent.
* `Json.read`, `Json.ofText?`.
-/
namespace Dispatch

namespace Significand

/-- Appends digits as long as the result fits 64 bits; gives back the digits that are left
over. -/
def take (significand : Nat) : List Char → Nat × List Char
  | [] => (significand, [])
  | c :: cs =>
    let next := significand * 10 + (Digits.hexValue? c).getD 0
    if next ≤ Word.maxUnsigned then take next cs else (significand, c :: cs)

/-- The largest power of ten with a finite 64-bit float. -/
def maxPower : Nat := 308

/-- Divides by `10 ^ size`, the largest power at a time, at most `rounds` times. A value
that has become zero stays so. -/
def shrink (x : Binary) (size : Nat) : Nat → Option Binary
  | 0 => some x
  | rounds + 1 =>
    if size ≤ maxPower then x.scaleDown binary64 size
    else if x.isZero then some x
    else do shrink (← x.scaleDown binary64 maxPower) (size - maxPower) rounds

/-- The float for `± significand * 10 ^ exponent`; `none` when it is too large. -/
def toFloat? (negative : Bool) (significand : Nat) (exponent : Int) : Option Binary := do
  let x ← Binary.ofQuotient binary64 negative significand 1
  if exponent < 0 then shrink x exponent.natAbs 4
  else if exponent ≤ maxPower then x.scaleUp binary64 exponent.toNat
  else if x.isZero then some x
  else none

end Significand

namespace Json

namespace Number

/-- Exponents beyond 32 bits settle the value by themselves. -/
def maxExponent : Nat := 2147483647

/-- A number without point and exponent is an integer if it fits 64 bits; minus zero and
all others are floats. -/
def ofWhole? (negative : Bool) (digits : List Char) : Option Number :=
  let (significand, left) := Significand.take 0 digits
  if left.isEmpty && !negative then some (integer significand)
  else if left.isEmpty && 0 < significand && significand ≤ Word.maxSigned + 1 then
    some (integer (-significand))
  else (Significand.toFloat? negative significand left.length).map float

/-- A number with a fraction (if there is a point) or an exponent. Digits of the whole part
that do not fit count as zeros, those of the fraction are dropped. -/
def ofParts? (negative : Bool) (whole fraction : List Char)
    (exponent : Option (Bool × List Char)) : Option Number :=
  let (significand, left) := Significand.take 0 whole
  let (significand, dropped) := Significand.take significand fraction
  let shift : Int := left.length + dropped.length - fraction.length
  match exponent with
  | none => (Significand.toFloat? negative significand shift).map float
  | some (down, digits) =>
    let size := Digits.value 10 digits
    if maxExponent < size then
      if significand = 0 || down then some (float (Binary.zero negative)) else none
    else
      let total := if down then shift - size else shift + size
      (Significand.toFloat? negative significand total).map float

/-- Reads a number: no leading zeros, at least one digit behind a point and in an
exponent. -/
def read : Reader Number := do
  let negative ← Reader.takes '-'
  let whole ← (Reader.exactly (· == '0') 1) <|> Reader.span1 Digits.isDecimal
  Reader.guard (whole.head? ≠ some '0' || whole.length == 1)
  let fraction ← Reader.optional (do
    Reader.char '.'
    Reader.span1 Digits.isDecimal)
  let exponent ← Reader.optional (do
    let _ ← Reader.satisfy fun c => c == 'e' || c == 'E'
    let down ← Reader.takes '-'
    if !down then
      let _ ← Reader.takes '+'
    let digits ← Reader.span1 Digits.isDecimal
    pure (down, digits))
  match fraction, exponent with
  | none, none => Reader.require (ofWhole? negative whole)
  | _, _ => Reader.require (ofParts? negative whole (fraction.getD []) exponent)

end Number

/-- Blanks between the parts of a text. -/
def blanks : Reader Unit := do
  let _ ← Reader.span fun c => c == ' ' || c == '\t' || c == '\n' || c == '\r'

/-- Four hexadecimal digits. -/
def readUnit : Reader Nat := Digits.value 16 <$> Reader.exactly (Digits.isDigit 16) 4

/-- The character behind `\u`: a pair of surrogates is one character, a lone one none. -/
def readUnicode : Reader Char := do
  let unit ← readUnit
  if 0xD800 ≤ unit ∧ unit < 0xDC00 then
    Reader.literal ['\\', 'u']
    let low ← readUnit
    Reader.guard (0xDC00 ≤ low && low < 0xE000)
    pure (Char.ofNat (0x10000 + (unit - 0xD800) * 0x400 + (low - 0xDC00)))
  else do
    Reader.guard (unit < 0xDC00 || 0xE000 ≤ unit)
    pure (Char.ofNat unit)

/-- The character behind a backslash. -/
def readEscape : Reader Char := do
  let c ← Reader.satisfy fun _ => true
  match c with
  | '"' | '\\' | '/' => pure c
  | 'b' => pure (Char.ofNat 8)
  | 'f' => pure (Char.ofNat 12)
  | 'n' => pure '\n'
  | 'r' => pure '\r'
  | 't' => pure '\t'
  | 'u' => readUnicode
  | _ => Reader.fail

/-- One character of a quoted text. -/
def readCharacter : Reader Char := do
  let c ← Reader.satisfy fun c => c ≠ '"' && 32 ≤ c.toNat
  if c = '\\' then readEscape else pure c

/-- A quoted text. -/
def readString : Reader String := do
  Reader.char '"'
  let cs ← Reader.many readCharacter
  Reader.char '"'
  pure (String.ofList cs)

/-- Values with commas between them up to the closing character. -/
def readItems {α : Type} (item : Reader α) (close : Char) : Reader (List α) := do
  blanks
  let items ← (Reader.sepBy1 item (do blanks; Reader.char ',')) <|> pure []
  blanks
  Reader.char close
  pure items

/-- Reads a value that nests at most so many levels deep. -/
def read : Nat → Reader Json
  | 0 => Reader.fail
  | depth + 1 => do
    blanks
    match ← Reader.peek with
    | some '"' => string <$> readString
    | some '[' =>
      Reader.char '['
      array <$> readItems (read depth) ']'
    | some '\x7b' =>
      Reader.char '\x7b'
      ofFields <$> readItems (do
        blanks
        let name ← readString
        blanks
        Reader.char ':'
        let value ← read depth
        pure (name, value)) '\x7d'
    | some 'n' => (fun _ => null) <$> Reader.literal ['n', 'u', 'l', 'l']
    | some 't' => (fun _ => bool true) <$> Reader.literal ['t', 'r', 'u', 'e']
    | some 'f' => (fun _ => bool false) <$> Reader.literal ['f', 'a', 'l', 's', 'e']
    | _ => number <$> Number.read

/-- The value of a text. -/
def ofText? (source : String) : Option Json :=
  Reader.whole (do
    let value ← read (source.length + 1)
    blanks
    pure value) source

end Json

end Dispatch
