/-!
# Cutting text

Text without the characters of a class at its ends, and the pieces of a text between the
characters of a class.

## Main definitions

* `Text.trimmed`: what is left between the ends.
* `Text.pieces`: one piece more than there are separators.
-/
namespace Dispatch.Text

/-- A text without the characters of a class at its ends. -/
def trimmed (p : Char → Bool) (cs : List Char) : List Char :=
  ((cs.dropWhile p).reverse.dropWhile p).reverse

/-- Puts a character in front of the first piece. -/
def onto (c : Char) : List (List Char) → List (List Char)
  | [] => [[c]]
  | piece :: rest => (c :: piece) :: rest

/-- The pieces of a text between the characters of a class, which may be empty. -/
def pieces (p : Char → Bool) (cs : List Char) : List (List Char) :=
  cs.foldr (fun c rest => if p c then [] :: rest else onto c rest) [[]]

end Dispatch.Text
