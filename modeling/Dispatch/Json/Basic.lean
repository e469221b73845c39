import Dispatch.Numeral.Binary
import Dispatch.Numeral.Layout
import Dispatch.Text.Digits
import Dispatch.Table

/-!
# JSON values

## Main definitions

* `Json.Number`: an integer or a 64-bit float. The two are never equal, even where their
  values are.
* `Json`: values; the names of an object ascend and each occurs once.
* `Json.eqv`: equality of values, floats being compared by value.
* `Json.text`: the compact text of a value.
-/
namespace Dispatch

/-- A number of a JSON text. -/
inductive Json.Number where
  | integer (value : Int)
  | float (value : Binary)
  deriving DecidableEq, Repr, Inhabited

/-- A JSON value. -/
inductive Json where
  | null
  | bool (value : Bool)
  | number (value : Json.Number)
  | string (value : String)
  | array (items : List Json)
  | object (fields : List (String × Json))
  deriving Repr, Inhabited

namespace Json

namespace Number

/-- Floats whose leading digit counts at least `10 ^ -5` and less than `10 ^ 16` are
written positionally. -/
def layout : Layout := ⟨-5, 16⟩

/-- An integer is written with its digits, a float as the shortest decimal that reads
back. -/
def text : Number → String
  | integer i => integerText i
  | float x => layout.write x.negative (Decimal.shortest x)

/-- An integer never equals a float; floats are equal when their values are. -/
def eqv : Number → Number → Bool
  | integer i, integer j => i == j
  | float x, float y => x.eqv y
  | _, _ => false

end Number

/-- A whole number. -/
def ofNat (n : Nat) : Json := number (.integer n)

/-- The object of a list of fields; of two under one name the later counts. -/
def ofFields (fields : List (String × Json)) : Json := object (Table.ofList fields).fields

/-- The value under a name of an object; other values have none. -/
def field? : Json → String → Option Json
  | object fields, name => Fields.get? fields name
  | _, _ => none

mutual

/-- Equality of values. -/
def eqv : Json → Json → Bool
  | null, null => true
  | bool a, bool b => a == b
  | number a, number b => a.eqv b
  | string a, string b => a == b
  | array as, array bs => eqvItems as bs
  | object as, object bs => eqvFields as bs
  | _, _ => false

/-- Equality of lists of values, place by place. -/
def eqvItems : List Json → List Json → Bool
  | [], [] => true
  | a :: as, b :: bs => eqv a b && eqvItems as bs
  | _, _ => false

/-- Equality of fields: the same names with equal values. -/
def eqvFields : List (String × Json) → List (String × Json) → Bool
  | [], [] => true
  | (k, a) :: as, (l, b) :: bs => k == l && eqv a b && eqvFields as bs
  | _, _ => false

end

/-- A character inside a quoted text. Quotes, backslashes and control characters below the
space are escaped, with the short form where there is one. -/
def escape (c : Char) : List Char :=
  if c = '"' then ['\\', '"']
  else if c = '\\' then ['\\', '\\']
  else if c = '\n' then ['\\', 'n']
  else if c = '\r' then ['\\', 'r']
  else if c = '\t' then ['\\', 't']
  else if c.toNat = 8 then ['\\', 'b']
  else if c.toNat = 12 then ['\\', 'f']
  else if c.toNat < 32 then
    ['\\', 'u', '0', '0', Nat.digitChar (c.toNat / 16), Nat.digitChar (c.toNat % 16)]
  else [c]

/-- A text in quotes. -/
def quote (s : String) : String := "\"" ++ String.ofList (s.toList.flatMap escape) ++ "\""

mutual

/-- The compact text of a value: no blanks, fields in the order of the table. -/
def text : Json → String
  | null => "null"
  | bool true => "true"
  | bool false => "false"
  | number n => n.text
  | string s => quote s
  | array items => "[" ++ itemsText items ++ "]"
  | object fields => "\x7b" ++ fieldsText fields ++ "\x7d"

/-- Values with commas between them. -/
def itemsText : List Json → String
  | [] => ""
  | [item] => text item
  | item :: items => text item ++ "," ++ itemsText items

/-- Names and values with commas between them. -/
def fieldsText : List (String × Json) → String
  | [] => ""
  | [(name, value)] => quote name ++ ":" ++ text value
  | (name, value) :: fields => quote name ++ ":" ++ text value ++ "," ++ fieldsText fields

end

end Json

end Dispatch
