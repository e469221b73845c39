import Dispatch.Toml.Value

/-!
# Tables while a document is read

A table of a document is written in parts: by headers, by dotted keys and by the tables on
the way to either. Which parts may add to which depends on how a table came about, so each
one remembers that until the document is complete.

## Main definitions

* `Toml.Node`: a value, a table under construction, or an array of such tables.
* `Toml.Node.descend`: a change below a path of names.
* `Toml.Node.assign`: a value under a dotted key.
* `Toml.Node.section?`: a header with the assignments below it.
-/
namespace Dispatch.Toml

/-- What stands under a name while a document is read. -/
inductive Node where
  | value (value : Toml)
  /-- A table. It is implicit as long as it only lies on the way to something else, and
  dotted if that was a dotted key. -/
  | table (implicit dotted : Bool) (fields : List (String × Node))
  /-- An array of tables. -/
  | tables (items : List Node)
  deriving Inhabited

/-- An assignment: a dotted key, split before its last part, and the value. -/
structure Assignment where
  path : List String
  name : String
  value : Toml

/-- What opens a section of a document. -/
inductive Header where
  /-- A table, which must not have been opened before. -/
  | table (path : List String) (name : String)
  /-- One more element of an array of tables. -/
  | element (path : List String) (name : String)

namespace Node

/-- A table that was opened by a header, or the document itself. -/
def opened (fields : List (String × Node)) : Node := table false false fields

/-- Changes the table at the end of a path. Names that are missing on the way become
implicit tables, and an array of tables stands for its last element. A dotted key must not
pass a table that was opened by a header. -/
def descend (dotted : Bool) (change : Node → Option Node) : List String → Node → Option Node
  | [], node => change node
  | name :: path, table implicit isDotted fields =>
    match Fields.get? fields name with
    | none => do
      let child ← descend dotted change path (table true dotted [])
      some (table implicit isDotted (Fields.insert fields name child))
    | some (table childImplicit childDotted childFields) =>
      if dotted && !childImplicit then none
      else do
        let child ← descend dotted change path (table childImplicit childDotted childFields)
        some (table implicit isDotted (Fields.insert fields name child))
    | some (tables items) => do
      let child ← descend dotted change path (← items.getLast?)
      some (table implicit isDotted
        (Fields.insert fields name (tables (items.dropLast ++ [child]))))
    | some (value _) => none
  | _ :: _, _ => none

/-- Puts a value under a name that is free. A table made by dotted keys takes only dotted
keys, any other table only plain ones. -/
def put (plain : Bool) (name : String) (v : Toml) : Node → Option Node
  | table implicit dotted fields =>
    if dotted = plain || Fields.contains fields name then none
    else some (table implicit dotted (Fields.insert fields name (value v)))
  | _ => none

/-- Carries out an assignment. -/
def assign (node : Node) (a : Assignment) : Option Node :=
  descend true (put a.path.isEmpty a.name a.value) a.path node

/-- Carries out assignments one after the other. -/
def assignAll : List Assignment → Node → Option Node
  | [], node => some node
  | a :: rest, node => (node.assign a).bind (assignAll rest)

/-- Opens the table under a name and fills it. Tables that lie on the way to others may
still be opened once. -/
def openTable (name : String) (body : List Assignment) : Node → Option Node
  | table implicit dotted fields => do
    let start ← match Fields.get? fields name with
      | none => some (opened [])
      | some (table true false children) => some (opened children)
      | some _ => none
    let filled ← assignAll body start
    some (table implicit dotted (Fields.insert fields name filled))
  | _ => none

/-- Adds a filled table to the array of tables under a name. -/
def addElement (name : String) (body : List Assignment) : Node → Option Node
  | table implicit dotted fields => do
    let items ← match Fields.get? fields name with
      | none => some []
      | some (tables items) => some items
      | some _ => none
    let filled ← assignAll body (opened [])
    some (table implicit dotted (Fields.insert fields name (tables (items ++ [filled]))))
  | _ => none

/-- Adds a section to a document. -/
def section? (node : Node) (header : Header) (body : List Assignment) : Option Node :=
  match header with
  | .table path name => descend false (openTable name body) path node
  | .element path name => descend false (addElement name body) path node

mutual

/-- The value that a node has become. -/
def toValue : Node → Toml
  | value v => v
  | table _ _ fields => .table (fieldsToValue fields)
  | tables items => .array (itemsToValue items)

/-- The values of an array of tables. -/
def itemsToValue : List Node → List Toml
  | [] => []
  | item :: items => toValue item :: itemsToValue items

/-- The fields of a table. -/
def fieldsToValue : List (String × Node) → List (String × Toml)
  | [] => []
  | (name, node) :: fields => (name, toValue node) :: fieldsToValue fields

end

end Node

end Dispatch.Toml
