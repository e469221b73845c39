import Dispatch.Toml.Node
import Dispatch.Toml.Scalar

/-!
# TOML documents

A document is a list of assignments and of sections, each a header with assignments below
it. Reading is all or nothing.

## Main definitions

* `Toml.readValue`: values, which nest to a limited depth.
* `Toml.Section`: a header with its assignments.
* `Toml.ofText?`: the table that a text denotes.
-/
namespace Dispatch.Toml

/-- The assignment of a value to a key. -/
def assignment (key : List String) (value : Toml) : Assignment :=
  ⟨key.dropLast, key.getLast?.getD "", value⟩

/-- Values in brackets. Breaks and comments may stand around them, a comma behind the
last. -/
def readArray (item : Reader Toml) : Reader Toml := do
  Reader.char '['
  let items ← (do
      let items ← Reader.sepBy1 (do gap; let value ← item; gap; pure value) (Reader.char ',')
      let _ ← Reader.takes ','
      pure items)
    <|> pure []
  gap
  Reader.char ']'
  pure (array items)

/-- The table of the assignments of an inline table. A dotted key may add to a table that
was written as a value before it. -/
def inlineTable? (body : List Assignment) : Option Toml :=
  body.foldlM (fun table a => put? a.name a.value a.path table) (.table [])

/-- Assignments in braces, on one line and without a comma behind the last. -/
def readInline (item : Reader Toml) : Reader Toml := do
  Reader.char '\x7b'
  let body ← (Reader.sepBy1 (do
      let key ← readKey
      Reader.char '='
      blanks
      let value ← item
      blanks
      pure (assignment key value)) (Reader.char ','))
    <|> pure []
  blanks
  Reader.char '\x7d'
  Reader.require (inlineTable? body)

/-- A value with at most so many brackets around one another. -/
def readValue : Nat → Reader Toml
  | 0 => readScalar
  | depth + 1 => fun cs =>
    match cs.head? with
    | some '[' => readArray (readValue depth) cs
    | some '\x7b' => readInline (readValue depth) cs
    | _ => readScalar cs

/-- An assignment on a line of its own. -/
def readAssignment : Reader Assignment := do
  let key ← readKey
  Reader.char '='
  blanks
  let value ← readValue (nestingLimit - 1)
  lineEnd
  pure (assignment key value)

/-- A header on a line of its own. -/
def readHeader : Reader Header :=
  (do
    Reader.literal ['[', '[']
    let key ← readKey
    Reader.literal [']', ']']
    lineEnd
    pure (.element key.dropLast (key.getLast?.getD "")))
  <|> (do
    Reader.char '['
    let key ← readKey
    Reader.char ']'
    lineEnd
    pure (.table key.dropLast (key.getLast?.getD "")))

/-- Lines that say nothing: blank ones and comments. -/
def skipLines : Reader Unit := do
  blanks
  let _ ← Reader.many (do
    newline <|> (do comment; newline <|> Reader.atEnd)
    blanks)

/-- The assignments up to the next header. -/
def readBody : Reader (List Assignment) := do
  skipLines
  Reader.many (do
    let a ← readAssignment
    skipLines
    pure a)

/-- A header with the assignments below it. -/
structure Section where
  header : Header
  body : List Assignment

/-- A section of a document. -/
def readSection : Reader Section := do
  let header ← readHeader
  let body ← readBody
  pure ⟨header, body⟩

/-- Adds sections to a document one after the other. -/
def addSections : List Section → Node → Option Node
  | [], node => some node
  | s :: rest, node => (node.section? s.header s.body).bind (addSections rest)

/-- The mark that a text may begin with to tell its encoding. -/
def byteOrderMark : Char := Char.ofNat 0xFEFF

/-- The table that a text denotes, if it is well-formed. -/
def ofText? (text : String) : Option Toml := do
  let (body, sections) ← Reader.whole (do
    let _ ← Reader.takes byteOrderMark
    let body ← readBody
    let sections ← Reader.many readSection
    pure (body, sections)) text
  let node ← Node.assignAll body (.opened [])
  let node ← addSections sections node
  some node.toValue

end Dispatch.Toml
