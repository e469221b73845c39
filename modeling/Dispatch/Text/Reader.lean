/-!
# Readers of text

A reader takes a value from the front of a list of characters and gives back what is left,
or refuses. Readers compose as a monad; a refused alternative leaves the input as it was.

## Main definitions

* `Reader`: the type, with `pure`, `bind` and `orElse`.
* `Reader.span`, `Reader.exactly`, `Reader.literal`: the smallest readers.
* `Reader.many`: repetition. Every round takes at least one character, so the length of the
  input bounds the number of rounds.
* `Reader.whole`: a reading that leaves nothing.
-/
namespace Dispatch

/-- Takes a value from the front of the text, or refuses. -/
def Reader (α : Type) : Type := List Char → Option (α × List Char)

namespace Reader

variable {α β : Type}

instance : Monad Reader where
  pure a := fun cs => some (a, cs)
  bind r f := fun cs => (r cs).bind fun (a, rest) => f a rest

/-- Refuses any text. -/
def fail : Reader α := fun _ => none

/-- The first reader, or where it refuses the second. -/
def orElse (r s : Reader α) : Reader α := fun cs => (r cs).orElse fun _ => s cs

instance : OrElse (Reader α) where
  orElse r s := r.orElse (s ())

/-- Accepts only if the condition holds, and takes nothing. -/
def guard (condition : Bool) : Reader Unit := if condition then pure () else fail

/-- A value that has to be there. -/
def require (a : Option α) : Reader α :=
  match a with
  | some a => pure a
  | none => fail

/-- The next character, left in place; `none` at the end of the text. -/
def peek : Reader (Option Char) := fun cs => some (cs.head?, cs)

/-- Takes one character of a class. -/
def satisfy (p : Char → Bool) : Reader Char
  | c :: rest => if p c then some (c, rest) else none
  | [] => none

/-- Takes the given character. -/
def char (c : Char) : Reader Unit := do
  let _ ← satisfy (· == c)

/-- Takes the given characters. -/
def literal : List Char → Reader Unit
  | [] => pure ()
  | c :: cs => do
    char c
    literal cs

/-- Takes the longest front whose characters are all of a class. -/
def span (p : Char → Bool) : Reader (List Char) :=
  fun cs => some (cs.takeWhile p, cs.dropWhile p)

/-- Like `span`, but takes at least one character. -/
def span1 (p : Char → Bool) : Reader (List Char) := do
  let c ← satisfy p
  let cs ← span p
  pure (c :: cs)

/-- Takes exactly so many characters of a class. -/
def exactly (p : Char → Bool) : Nat → Reader (List Char)
  | 0 => pure []
  | n + 1 => do
    let c ← satisfy p
    let cs ← exactly p n
    pure (c :: cs)

/-- The value if it can be read, else nothing is taken. -/
def optional (r : Reader α) : Reader (Option α) := (some <$> r) <|> pure none

/-- Whether the given character comes next; it is taken if so. -/
def takes (c : Char) : Reader Bool := Option.isSome <$> optional (char c)

/-- At most `rounds` repetitions, up to the first refusal. -/
def upTo (r : Reader α) : Nat → Reader (List α)
  | 0 => pure []
  | rounds + 1 => fun cs =>
    match r cs with
    | none => some ([], cs)
    | some (a, rest) => (upTo r rounds rest).map fun (as, rest) => (a :: as, rest)

/-- Repeats a reader that takes at least one character as long as it accepts. -/
def many (r : Reader α) : Reader (List α) := fun cs => upTo r cs.length cs

/-- One or more values with a separator between them. -/
def sepBy1 (r : Reader α) (separator : Reader Unit) : Reader (List α) := do
  let a ← r
  let as ← many (do separator; r)
  pure (a :: as)

/-- Accepts only the end of the text. -/
def atEnd : Reader Unit
  | [] => some ((), [])
  | _ :: _ => none

/-- The value of a text that the reader takes as a whole. -/
def whole (r : Reader α) (text : String) : Option α :=
  match r text.toList with
  | some (a, []) => some a
  | _ => none

end Reader

end Dispatch
