import Dispatch.Numeral.Binary
import Dispatch.Text.Digits

/-!
# Reading decimals exactly

The number nearest to a decimal that is written out. An exponent may be of any length, and
what is too large to represent, like the words for infinity and for no number at all, has
no finite value.
-/
namespace Dispatch

namespace Binary

/-- The number nearest to digits with a point `fraction.length` places from their end and a
decimal exponent. -/
def ofDigits (f : BinaryFormat) (negative : Bool) (whole fraction : List Char)
    (exponent : Int) : Option Binary :=
  ofDecimal f negative (Digits.value 10 (whole ++ fraction)) (exponent - fraction.length)

/-- A sign, if there is one; `true` for a minus. -/
def readSign : Reader Bool := do
  if ← Reader.takes '-' then pure true
  else do
    let _ ← Reader.takes '+'
    pure false

/-- An exponent behind its mark, or zero where there is no mark. -/
def readExponent : Reader Int := do
  match ← Reader.optional (Reader.satisfy fun c => c == 'e' || c == 'E') with
  | none => pure 0
  | some _ =>
    let negative ← readSign
    let digits ← Reader.span1 Digits.isDecimal
    let size : Int := Digits.value 10 digits
    pure (if negative then -size else size)

/-- Digits with an optional point among, before or behind them, and an optional exponent. -/
def readUnsigned (f : BinaryFormat) (negative : Bool) : Reader (Option Binary) := do
  let whole ← Reader.span Digits.isDecimal
  let fraction ← if ← Reader.takes '.' then Reader.span Digits.isDecimal else pure []
  Reader.guard (!(whole.isEmpty && fraction.isEmpty))
  let exponent ← readExponent
  pure (ofDigits f negative whole fraction exponent)

/-- The words that name a value without a finite magnitude, in any case of letters. -/
def readWord : Reader (Option Binary) := do
  let word ← Reader.span1 Char.isAlpha
  Reader.guard (["inf", "infinity", "nan"].contains (String.ofList word).toLower)
  pure none

/-- The number a text denotes: `none` if it is no number, `some none` if it has no finite
value. -/
def ofText? (f : BinaryFormat) (text : String) : Option (Option Binary) :=
  Reader.whole (do
    let negative ← readSign
    readUnsigned f negative <|> readWord) text

end Binary

end Dispatch
