import Dispatch.Json.Basic
import Dispatch.Toml.Datetime

/-!
# TOML values

The values of a TOML document, and the JSON values that stand for them.

## Main definitions

* `Toml`: a value.
* `Toml.put?`: a table with one more value, at the end of a path of names.
* `Toml.toJson`: the JSON value that stands for a value.
-/
namespace Dispatch

/-- A value of a TOML document. -/
inductive Toml where
  | string (value : String)
  | integer (value : Int)
  /-- A float; `none` for infinities and for no number at all. -/
  | float (value : Option Binary)
  | boolean (value : Bool)
  | datetime (value : Toml.Datetime)
  | array (items : List Toml)
  | table (fields : List (String × Toml))
  deriving Inhabited

namespace Toml

/-- The value under a name of a table. -/
def field? : Toml → String → Option Toml
  | table fields, name => Fields.get? fields name
  | _, _ => none

/-- Puts a value under a name that is free, in the table at the end of a path. Names that are
missing on the way become tables. -/
def put? (name : String) (value : Toml) : List String → Toml → Option Toml
  | [], table fields =>
    if Fields.contains fields name then none else some (table (Fields.insert fields name value))
  | step :: path, table fields => do
    let inner ← put? name value path ((Fields.get? fields step).getD (table []))
    some (table (Fields.insert fields step inner))
  | _, _ => none

/-- The one field of the object that stands for a date or time. -/
def datetimeField : String := "$__toml_private_datetime"

mutual

/-- The JSON value that stands for a value. -/
def toJson : Toml → Json
  | string s => .string s
  | integer i => .number (.integer i)
  | float (some x) => .number (.float x)
  | float none => .null
  | boolean b => .bool b
  | datetime d => .object [(datetimeField, .string d.text)]
  | array items => .array (itemsToJson items)
  | table fields => .object (fieldsToJson fields)

/-- The JSON values of the items of an array. -/
def itemsToJson : List Toml → List Json
  | [] => []
  | item :: items => toJson item :: itemsToJson items

/-- The JSON fields of a table. -/
def fieldsToJson : List (String × Toml) → List (String × Json)
  | [] => []
  | (name, value) :: fields => (name, toJson value) :: fieldsToJson fields

end

end Toml

end Dispatch
