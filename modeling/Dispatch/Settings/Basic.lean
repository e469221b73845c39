import Dispatch.Error
import Dispatch.Settings.Folder
import Dispatch.Toml.Document

/-!
# Settings

Settings are a TOML text and a flag for debug output. A builder collects them: it holds the
settings put together so far, or the error met while a file was read, and the flag for the next
text.

## Main definitions

* `Settings`, `Settings.document`.
* `Settings.Builder`, `Settings.Builder.step`, `Settings.Builder.build`.
* `Settings.maxBatchSize`: the size of batches that the settings ask for.
-/
namespace Dispatch

/-- A TOML text and whether to report details. -/
structure Settings where
  debug : Bool
  toml : String
  deriving DecidableEq, Repr

namespace Settings

/-- The settings given so far. The flag stands by itself too, for texts that are still to come. -/
structure Builder where
  settings : Option Settings
  debug : Bool
  /-- Why the file that was to be read last gave no text. -/
  error : Option Error

/-- Where settings files are looked for. Without a home folder, an empty one stands for it. -/
structure Places where
  home : Folder
  working : Folder

namespace Builder

/-- What may be given. -/
inductive Step where
  | debug (value : Bool)
  | text (toml : String)
  /-- A file of the home folder or, if it cannot be read there, of the working folder. -/
  | file (name : String)
  deriving DecidableEq, Repr

/-- A builder that was given nothing. -/
def empty : Builder := ⟨none, false, none⟩

/-- The text of a settings file. -/
def load (places : Places) (name : String) : Except Failure String :=
  match places.home.readText? name with
  | some text => .ok text
  | none =>
    match places.working.readText? name with
    | some text => .ok text
    | none => .error (.cannotRead ("./" ++ name))

/-- Takes one step into account. A flag also goes into the settings there are; a text makes new
settings with the flag given so far. -/
def step (places : Places) (b : Builder) : Step → Builder
  | .debug value => ⟨b.settings.map fun s => { s with debug := value }, value, b.error⟩
  | .text toml => ⟨some ⟨b.debug, toml⟩, b.debug, none⟩
  | .file name =>
    match load places name with
    | .ok toml => ⟨some ⟨b.debug, toml⟩, b.debug, none⟩
    | .error cause => ⟨none, b.debug, some (.failure cause)⟩

/-- Takes steps into account one after the other. -/
def run (places : Places) : List Step → Builder → Builder
  | [], b => b
  | s :: steps, b => run places steps (b.step places s)

/-- The settings, or why there are none. An error comes first. -/
def build (b : Builder) : Except Error Settings :=
  match b.error, b.settings with
  | some e, _ => .error e
  | none, some settings => .ok settings
  | none, none => .error (.failure .notConfigured)

end Builder

/-- The size of batches unless the settings give one. -/
def defaultBatchSize : Nat := 10

/-- The table that the text denotes. -/
def document (s : Settings) : Except Error Toml :=
  match Toml.ofText? s.toml with
  | some table => .ok table
  | none => .error (.failure .malformedSettings)

/-- An integer that can be the size of something. -/
def size? : Toml → Option Nat
  | .integer i => if 0 ≤ i then some i.toNat else none
  | _ => none

/-- The batch size that a section asks for. The section may also be written as an array
with the size in front. -/
def sectionBatchSize? : Toml → Option Nat
  | .table fields =>
    match Fields.get? fields "max_batch_size" with
    | none => some defaultBatchSize
    | some value => size? value
  | .array (value :: _) => size? value
  | .datetime _ => some defaultBatchSize
  | _ => none

/-- The batch size that the settings ask for. -/
def maxBatchSize (s : Settings) : Except Error Nat := do
  let table ← s.document
  match table.field? "pump" with
  | none => .ok defaultBatchSize
  | some pump =>
    match sectionBatchSize? pump with
    | some size => .ok size
    | none => .error (.failure .malformedSettings)

end Settings

end Dispatch
