import Dispatch.Numeral.Reading
import Dispatch.Numeral.Word
import Dispatch.Toml.Value

/-!
# Blanks, keys and single values of TOML

## Main definitions

* `Toml.blanks`, `Toml.newline`, `Toml.comment`, `Toml.gap`, `Toml.lineEnd`.
* `Toml.readText`: the four kinds of strings.
* `Toml.readKey`: a key with its parts.
* `Toml.readNumber`: dates, floats and integers, in that order.
-/
namespace Dispatch.Toml

/-- Whether a character is a space or a tab. -/
def isBlank (c : Char) : Bool := c == ' ' || c == '\t'

/-- Whether a character may stand in a comment: all but control characters. -/
def isPrintable (c : Char) : Bool := c == '\t' || (32 ≤ c.toNat && c.toNat ≠ 127)

/-- Spaces and tabs, if there are any. -/
def blanks : Reader Unit := do
  let _ ← Reader.span isBlank

/-- A line break: a line feed, which a carriage return may precede. -/
def newline : Reader Unit := Reader.char '\n' <|> Reader.literal ['\r', '\n']

/-- A comment up to the end of its line. -/
def comment : Reader Unit := do
  Reader.char '#'
  let _ ← Reader.span isPrintable

/-- Blanks, line breaks and comments. -/
def gap : Reader Unit := do
  let _ ← Reader.many
    ((do let _ ← Reader.span1 isBlank) <|> newline <|> comment)

/-- The end of a line, which blanks and a comment may precede. -/
def lineEnd : Reader Unit := do
  blanks
  let _ ← Reader.optional comment
  newline <|> Reader.atEnd

/-! ## Strings -/

/-- The mark around strings in which nothing is escaped. -/
def apostrophe : Char := Char.ofNat 39

/-- The character with a number of so many hexadecimal digits. -/
def readCodePoint (digits : Nat) : Reader Char := do
  let n := Digits.value 16 (← Reader.exactly (Digits.isDigit 16) digits)
  Reader.guard (n < 0xD800 || (0xE000 ≤ n && n < 0x110000))
  pure (Char.ofNat n)

/-- A character behind a backslash. -/
def readEscape : Reader Char := do
  Reader.char '\\'
  let c ← Reader.satisfy fun _ => true
  match c with
  | '"' | '\\' => pure c
  | 'b' => pure (Char.ofNat 8)
  | 'f' => pure (Char.ofNat 12)
  | 'n' => pure '\n'
  | 'r' => pure '\r'
  | 't' => pure '\t'
  | 'u' => readCodePoint 4
  | 'U' => readCodePoint 8
  | _ => Reader.fail

/-- A string in quotes on one line. -/
def readBasic : Reader String := do
  Reader.char '"'
  let cs ← Reader.many
    (Reader.satisfy (fun c => isPrintable c && c ≠ '"' && c ≠ '\\') <|> readEscape)
  Reader.char '"'
  pure (String.ofList cs)

/-- A string in apostrophes on one line, in which nothing is escaped. -/
def readLiteral : Reader String := do
  Reader.char apostrophe
  let cs ← Reader.span fun c => isPrintable c && c ≠ apostrophe
  Reader.char apostrophe
  pure (String.ofList cs)

/-- Backslashes at the ends of lines, which take the break and the blanks behind it away. -/
def joinLines : Reader Unit := do
  Reader.char '\\'
  blanks
  newline
  let _ ← Reader.many (newline <|> do let _ ← Reader.span1 isBlank)

/-- One or two marks that do not end a string, because another character follows. -/
def innerMarks (mark : Char) : Reader (List Char) := do
  let marks ← Reader.span1 (· == mark)
  Reader.guard (marks.length ≤ 2 && (← Reader.peek).isSome)
  pure marks

/-- The marks that end a string of several lines: three, and before them up to two that
belong to it. -/
def closingMarks (mark : Char) : Reader (List Char) := do
  let marks ← Reader.span1 (· == mark)
  Reader.guard (3 ≤ marks.length && marks.length ≤ 5)
  pure (marks.drop 3)

/-- A string of several lines between three marks each. A line break right behind the first
marks does not count. -/
def readLong (mark : Char) (content : Reader (List Char)) : Reader String := do
  Reader.literal [mark, mark, mark]
  let _ ← Reader.optional newline
  let parts ← Reader.many (content <|> innerMarks mark)
  let last ← closingMarks mark
  pure (String.ofList (parts.flatten ++ last))

/-- What may stand in a string of several lines in quotes. -/
def longBasicContent : Reader (List Char) :=
  Reader.span1 (fun c => isPrintable c && c ≠ '"' && c ≠ '\\')
  <|> (do joinLines; pure [])
  <|> (do let c ← readEscape; pure [c])
  <|> (do newline; pure ['\n'])

/-- What may stand in a string of several lines in apostrophes. -/
def longLiteralContent : Reader (List Char) :=
  Reader.span1 (fun c => isPrintable c && c ≠ apostrophe)
  <|> (do newline; pure ['\n'])

/-- A string of any kind. -/
def readText : Reader String :=
  readLong '"' longBasicContent <|> readBasic
    <|> readLong apostrophe longLiteralContent <|> readLiteral

/-! ## Keys -/

/-- Whether a character may stand in a key without quotes. -/
def isKeyCharacter (c : Char) : Bool :=
  Digits.isDecimal c || ('a' ≤ c && c ≤ 'z') || ('A' ≤ c && c ≤ 'Z') || c == '-' || c == '_'

/-- One part of a key. -/
def readKeyPart : Reader String := do
  blanks
  let part ← (String.ofList <$> Reader.span1 isKeyCharacter) <|> readBasic <|> readLiteral
  blanks
  pure part

/-- Nesting is limited, by parts of a key and by brackets. -/
def nestingLimit : Nat := 128

/-- A key: parts with dots between them, fewer than the limit. -/
def readKey : Reader (List String) := do
  let parts ← Reader.sepBy1 readKeyPart (Reader.char '.')
  Reader.guard (parts.length < nestingLimit)
  pure parts

/-! ## Numbers -/

/-- Digits of a class; single underscores may stand between them and do not count. -/
def readRun (p : Char → Bool) : Reader (List Char) := do
  let c ← Reader.satisfy p
  let cs ← Reader.many (Reader.satisfy p <|> do Reader.char '_'; Reader.satisfy p)
  pure (c :: cs)

/-- The digits of a decimal integer: zero, or digits that do not begin with one. -/
def readWhole : Reader (List Char) :=
  (do Reader.char '0'; pure ['0']) <|> readRun Digits.isDecimal

/-- An integer in base sixteen, eight or two, without sign. -/
def readBased (mark : Char) (base : Nat) : Reader Toml := do
  Reader.literal ['0', mark]
  let digits ← readRun (Digits.isDigit base)
  let value : Int := Digits.value base digits
  Reader.guard (Word.isSigned value)
  pure (integer value)

/-- An integer. -/
def readInteger : Reader Toml :=
  readBased 'x' 16 <|> readBased 'o' 8 <|> readBased 'b' 2 <|> (do
    let negative ← Binary.readSign
    let digits ← readWhole
    let size : Int := Digits.value 10 digits
    let value := if negative then -size else size
    Reader.guard (Word.isSigned value)
    pure (integer value))

/-- An exponent with its mark. -/
def readExponent : Reader Int := do
  let _ ← Reader.satisfy fun c => c == 'e' || c == 'E'
  let negative ← Binary.readSign
  let size : Int := Digits.value 10 (← readRun Digits.isDecimal)
  pure (if negative then -size else size)

/-- A float: digits with a fraction, an exponent or both. A negative one that is too large
is taken as infinite, a positive one is refused. -/
def readDecimal : Reader Toml := do
  let negative ← Binary.readSign
  let whole ← readWhole
  let fraction ← Reader.optional (do
    Reader.char '.'
    readRun Digits.isDecimal)
  let exponent ← Reader.optional readExponent
  Reader.guard (fraction.isSome || exponent.isSome)
  let value := Binary.ofDigits binary64 negative whole (fraction.getD []) (exponent.getD 0)
  Reader.guard (negative || value.isSome)
  pure (float value)

/-- A word for infinity or for no number, with an optional sign. -/
def readSpecial : Reader Toml := do
  let _ ← Binary.readSign
  Reader.literal ['i', 'n', 'f'] <|> Reader.literal ['n', 'a', 'n']
  pure (float none)

/-- A date, a float or an integer. -/
def readNumber : Reader Toml :=
  (datetime <$> Datetime.read) <|> readDecimal <|> readSpecial <|> readInteger

/-- A value that holds no others. -/
def readScalar : Reader Toml :=
  (string <$> readText) <|> readNumber
    <|> (do Reader.literal ['t', 'r', 'u', 'e']; pure (boolean true))
    <|> (do Reader.literal ['f', 'a', 'l', 's', 'e']; pure (boolean false))

end Dispatch.Toml
