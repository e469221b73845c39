import Dispatch.Json.Basic

/-!
# Typed attributes

On the way out an attribute is a text with one of two types: numbers keep their text,
strings are taken as they are, and any other value but null is written as JSON.
-/
namespace Dispatch

/-- An attribute as it is sent. -/
inductive Attribute where
  | number (text : String)
  | string (text : String)
  deriving DecidableEq, Repr

namespace Attribute

/-- The attribute that stands for a value; null stands for none. -/
def ofJson? : Json → Option Attribute
  | .null => none
  | .number n => some (number n.text)
  | .string s => some (string s)
  | value => some (string value.text)

/-- The name of the type. -/
def dataType : Attribute → String
  | number _ => "Number"
  | string _ => "String"

/-- The value as it is sent. -/
def text : Attribute → String
  | number t => t
  | string t => t

end Attribute

end Dispatch
