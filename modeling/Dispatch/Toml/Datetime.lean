import Dispatch.Text.Digits

/-!
# Dates and times of TOML

A date, a time of day, or both with an optional offset from universal time. Months and days
are checked one by one, not against each other.
-/
namespace Dispatch.Toml

/-- A day of the calendar. -/
structure Date where
  year : Nat
  month : Nat
  day : Nat
  deriving DecidableEq, Repr

/-- A time of day; a minute may have a leap second. -/
structure TimeOfDay where
  hour : Nat
  minute : Nat
  second : Nat
  nanosecond : Nat
  deriving DecidableEq, Repr

/-- The distance from universal time. -/
inductive Offset where
  | utc
  | minutes (value : Int)
  deriving DecidableEq, Repr

/-- A date, a time of day, or both. -/
inductive Datetime where
  | date (date : Date)
  | time (time : TimeOfDay)
  | both (date : Date) (time : TimeOfDay) (offset : Option Offset)
  deriving DecidableEq, Repr

/-- A number of exactly so many digits between two bounds. -/
def readField (digits low high : Nat) : Reader Nat := do
  let value := Digits.value 10 (← Reader.exactly Digits.isDecimal digits)
  Reader.guard (low ≤ value && value ≤ high)
  pure value

/-- Nanoseconds from the digits of a fraction; those beyond the ninth are cut off. -/
def nanoseconds (fraction : List Char) : Nat :=
  let digits := fraction.take 9
  Digits.value 10 digits * Nat.pow 10 (9 - digits.length)

/-- A date: year, month and day with hyphens between them. -/
def Date.read : Reader Date := do
  let year ← readField 4 0 9999
  Reader.char '-'
  let month ← readField 2 1 12
  Reader.char '-'
  let day ← readField 2 1 31
  pure ⟨year, month, day⟩

/-- A time of day; the fraction of the second may be missing, the second not. -/
def TimeOfDay.read : Reader TimeOfDay := do
  let hour ← readField 2 0 23
  Reader.char ':'
  let minute ← readField 2 0 59
  Reader.char ':'
  let second ← readField 2 0 60
  let fraction ← Reader.optional (do
    Reader.char '.'
    Reader.span1 Digits.isDecimal)
  pure ⟨hour, minute, second, nanoseconds (fraction.getD [])⟩

/-- A letter for universal time, or hours and minutes with a sign. -/
def Offset.read : Reader Offset := do
  let mark ← Reader.satisfy fun c => ['Z', 'z', '+', '-'].contains c
  if mark = 'Z' ∨ mark = 'z' then pure .utc
  else do
    let hour ← readField 2 0 23
    Reader.char ':'
    let minute ← readField 2 0 59
    let size : Int := hour * 60 + minute
    pure (.minutes (if mark = '-' then -size else size))

/-- The time behind a date, and its offset. -/
def readTimePart : Reader (TimeOfDay × Option Offset) := do
  let _ ← Reader.satisfy fun c => c == 'T' || c == 't' || c == ' '
  let time ← TimeOfDay.read
  let offset ← Reader.optional Offset.read
  pure (time, offset)

/-- A date, with a time behind it if there is one, or a time alone. -/
def Datetime.read : Reader Datetime :=
  (do
    let day ← Date.read
    match ← Reader.optional readTimePart with
    | none => pure (.date day)
    | some (clock, offset) => pure (.both day clock offset))
  <|> (Datetime.time <$> TimeOfDay.read)

/-- A number with zeros in front up to the given width. -/
def padded (width n : Nat) : String :=
  let digits := toString n
  String.ofList (List.replicate (width - digits.length) '0') ++ digits

/-- The text of a date. -/
def Date.text (d : Date) : String :=
  padded 4 d.year ++ "-" ++ padded 2 d.month ++ "-" ++ padded 2 d.day

/-- The fraction of a second is written without trailing zeros, and not at all if it is
zero. -/
def TimeOfDay.text (t : TimeOfDay) : String :=
  let fraction := if t.nanosecond = 0 then "" else
    let digits := (padded 9 t.nanosecond).toList.reverse.dropWhile (· == '0')
    "." ++ String.ofList digits.reverse
  padded 2 t.hour ++ ":" ++ padded 2 t.minute ++ ":" ++ padded 2 t.second ++ fraction

/-- The text of an offset; no distance counts as positive. -/
def Offset.text : Offset → String
  | utc => "Z"
  | minutes value =>
    (if value < 0 then "-" else "+") ++ padded 2 (value.natAbs / 60) ++ ":" ++
      padded 2 (value.natAbs % 60)

/-- The text of a date and time, with `T` between the two. -/
def Datetime.text : Datetime → String
  | date d => d.text
  | time t => t.text
  | both d t offset => d.text ++ "T" ++ t.text ++ (offset.map Offset.text).getD ""

end Dispatch.Toml
