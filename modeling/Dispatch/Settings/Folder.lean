import Dispatch.Text.Pieces

/-!
# Folders

The files below one folder, as far as reading them by path goes.

## Main definitions

* `Folder`: files and folders under their paths.
* `Folder.walk`: where a path leads.
* `Folder.readText?`: the text of a file.
-/
namespace Dispatch

/-- What a path of a folder stands for. -/
inductive Folder.Content where
  | file (bytes : ByteArray)
  | folder

/-- Files and folders under their paths. Whatever lies on the way to an entry is a folder
too. -/
structure Folder where
  entries : List (List String × Folder.Content)

namespace Folder

/-- A folder without files. -/
def empty : Folder := ⟨[]⟩

/-- The parts of a path between its separators. -/
def parts (path : String) : List String := (Text.pieces (· == '/') path.toList).map String.ofList

/-- The names of a path. Repeated separators count once, and a single dot for nothing. -/
def names (path : String) : List String :=
  (parts path).filter fun name => name ≠ "" && name ≠ "."

/-- Whether the path of an entry begins like this one. -/
def isFolder (f : Folder) (path : List String) : Bool :=
  path.isEmpty || f.entries.any fun entry =>
    path.isPrefixOf entry.1 && (entry.1.length ≠ path.length || entry.2 matches .folder)

/-- Follows the parts of a path from one place to another. Every part needs a folder to
start from; two dots lead back, but not out of the folder. -/
def walk (f : Folder) : List String → List String → Option (List String)
  | here, [] => some here
  | here, part :: parts =>
    if !f.isFolder here then none
    else if part = "" ∨ part = "." then walk f here parts
    else if part = ".." then
      if here.isEmpty then none else walk f here.dropLast parts
    else walk f (here ++ [part]) parts

/-- The bytes of the file that a path leads to. -/
def readBytes? (f : Folder) (path : String) : Option ByteArray := do
  let place ← f.walk [] (parts path)
  match ← (f.entries.find? fun entry => entry.1 == place).map (·.2) with
  | .file bytes => some bytes
  | .folder => none

/-- The text of the file that a path leads to; a file that is not UTF-8 has none. -/
def readText? (f : Folder) (path : String) : Option String := do
  String.fromUTF8? (← f.readBytes? path)

end Folder

end Dispatch
