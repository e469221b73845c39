import Dispatch.Table
import Dispatch.Unicode.Space

/-!
# Profile files

A profile file has sections in brackets with properties below them. A line that begins with
a blank goes on with the property above it. One malformed line spoils the whole file.

## Main definitions

* `Aws.Draft`: the sections read so far.
* `Aws.Draft.line`: one more line.
* `Aws.Profiles.ofText?`: the properties of every profile.
-/
namespace Dispatch.Aws

/-- The properties of a section or profile. -/
abbrev Properties : Type := Table String

/-- Profiles under their names. -/
abbrev Profiles : Type := Table Properties

/-- Whether a character is a space or a tab. -/
def isBlank (c : Char) : Bool := c == ' ' || c == '\t'

/-- Whether a character begins a comment. -/
def isCommentMark (c : Char) : Bool := c == '#' || c == ';'

/-- Drops blanks from both ends. -/
def trim (cs : List Char) : List Char := Text.trimmed isBlank cs

/-- What stands before a comment. Where comments need white space before them, a mark
without it is text. -/
def beforeComment (needsSpace : Bool) : Bool → List Char → List Char
  | _, [] => []
  | afterSpace, c :: cs =>
    if isCommentMark c && (afterSpace || !needsSpace) then []
    else c :: beforeComment needsSpace (Unicode.isSpace c) cs

/-- The text of a line without comment and blanks around it. -/
def lineText (needsSpace : Bool) (cs : List Char) : List Char :=
  trim (beforeComment needsSpace false (trim cs))

/-- A property: a name in lower case, an equals sign, and a value. -/
def property? (line : List Char) : Option (String × String) :=
  let text := lineText true line
  let name := trim (text.takeWhile (· ≠ '='))
  match text.dropWhile (· ≠ '=') with
  | [] => none
  | _ :: value =>
    if name.isEmpty then none
    else some (String.ofList (name.map Char.toLower), String.ofList (trim value))

/-- The property that a line with a blank in front goes on with, and whether it began
without a value; then its lines are properties in turn. -/
structure Latest where
  name : String
  nested : Bool

/-- The sections read so far, the one being read, and its latest property. -/
structure Draft where
  sections : Table Properties
  current : Option String
  latest : Option Latest

namespace Draft

/-- Before the first line. -/
def empty : Draft := ⟨∅, none, none⟩

/-- The name in brackets that opens a section. -/
def header? (line : List Char) : Option String :=
  match lineText false line with
  | '[' :: rest => if rest.getLast? = some ']' then some (String.ofList rest.dropLast) else none
  | _ => none

/-- The properties of a section. -/
def properties (d : Draft) (name : String) : Properties := (d.sections.get? name).getD ∅

/-- Opens a section, which may have been opened before. -/
def openSection (d : Draft) (name : String) : Draft :=
  ⟨d.sections.insert name (d.properties name), some name, none⟩

/-- Adds a property to the section being read. -/
def addProperty (d : Draft) (name value : String) : Option Draft := do
  let current ← d.current
  some ⟨d.sections.insert current ((d.properties current).insert name value), current,
    some ⟨name, value.isEmpty⟩⟩

/-- Goes on with the latest property. -/
def extend (d : Draft) (line : List Char) : Option Draft := do
  let current ← d.current
  let latest ← d.latest
  if latest.nested then
    let _ ← property? line
  let value := ((d.properties current).get? latest.name).getD ""
  let longer := value ++ "\n" ++ String.ofList (trim line)
  let properties := (d.properties current).insert latest.name longer
  some { d with sections := d.sections.insert current properties }

/-- Takes one more line into account. -/
def line (d : Draft) (cs : List Char) : Option Draft :=
  match cs with
  | [] => some d
  | c :: _ =>
    if (trim cs).isEmpty || isCommentMark c then some d
    else if c = '[' then (header? cs).map d.openSection
    else if isBlank c then d.extend cs
    else (property? cs).bind fun (name, value) => d.addProperty name value

/-- Takes lines into account one after the other. -/
def lines : List (List Char) → Draft → Option Draft
  | [], d => some d
  | cs :: rest, d => (d.line cs).bind (lines rest)

end Draft

/-- Whether a text can be the name of a profile or of a property. -/
def isIdentifier (s : String) : Bool :=
  s.toList.all fun c => c.isAlphanum || "_-/.%@:+".toList.contains c

/-- The name of the profile that is used if no other is asked for. -/
def defaultProfile : String := "default"

/-- The title of a section: one word, or a word for its kind and then a name. -/
structure Title where
  kind : Option String
  name : String
  deriving DecidableEq, Repr

/-- Reads a title. The first blank inside it ends the word for the kind; white space around
either part does not count. -/
def Title.ofText (text : String) : Title :=
  let whole := trim text.toList
  let unspaced (cs : List Char) : String := String.ofList (Text.trimmed Unicode.isSpace cs)
  match whole.dropWhile (!isBlank ·) with
  | [] => ⟨none, unspaced whole⟩
  | _ :: name => ⟨some (unspaced (whole.takeWhile (!isBlank ·))), unspaced name⟩

/-- The name of the profile that a section with a prefix describes. -/
def Title.profile? (title : Title) : Option String :=
  if title.kind = some "profile" ∧ isIdentifier title.name then some title.name else none

/-- Whether a section without a prefix describes the default profile. -/
def Title.isPlainDefault (title : Title) : Bool := title = ⟨none, defaultProfile⟩

/-- Adds the properties of a section to those of a profile. -/
def Profiles.add (ps : Profiles) (name : String) (properties : Properties) : Profiles :=
  let valid := properties.fields.filter fun entry => isIdentifier entry.1
  ps.insert name (valid.foldl (fun t entry => t.insert entry.1 entry.2)
    ((ps.get? name).getD ∅))

/-- The profiles that sections describe. A default profile with a prefix takes the place of
one without; sections of other kinds do not count. -/
def Profiles.ofSections (sections : Table Properties) : Profiles :=
  let titled := sections.fields.map fun entry => (Title.ofText entry.1, entry.2)
  let named := titled.any fun entry => entry.1.profile? = some defaultProfile
  titled.foldl (fun ps entry =>
    match entry.1.profile? with
    | some name => ps.add name entry.2
    | none =>
      if entry.1.isPlainDefault && !named then ps.add defaultProfile entry.2 else ps) ∅

/-- Cuts a text at its line breaks; a carriage return before a break belongs to it. -/
def textLines (text : String) : List (List Char) :=
  match (Text.pieces (· == '\n') text.toList).reverse with
  | [] => []
  | last :: lines =>
    (last :: lines.map fun cs => if cs.getLast? = some '\r' then cs.dropLast else cs).reverse

/-- The profiles of a file; none of them if a line is malformed. -/
def Profiles.ofText? (text : String) : Option Profiles :=
  (Draft.lines (textLines text) .empty).map fun d => Profiles.ofSections d.sections

end Dispatch.Aws
