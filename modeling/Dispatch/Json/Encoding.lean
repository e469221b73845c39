import Dispatch.Json.Basic
import Dispatch.Numeral.Word

/-!
# Encoding payloads as JSON

A payload reaches the library as a description of its parts. Encoding turns it into a JSON
value, or says why it has none.

## Main definitions

* `Payload`: what a caller may hand over.
* `EncodingError`: why a payload has no JSON value, with its text.
* `Payload.encode`.
-/
namespace Dispatch

/-- Why a payload has no JSON value. -/
inductive EncodingError where
  /-- The payload itself refuses to be encoded. -/
  | refused (reason : String)
  /-- A name is neither a text nor a number nor a truth value. -/
  | keyMustBeString
  /-- An integer fits neither 64 bits with sign nor 64 bits without. -/
  | numberOutOfRange
  deriving DecidableEq, Repr

/-- The text of an encoding error. -/
def EncodingError.message : EncodingError → String
  | refused reason => reason
  | keyMustBeString => "key must be a string"
  | numberOutOfRange => "number out of range"

/-- A payload as its owner describes it. -/
inductive Payload where
  /-- A value that is JSON already. -/
  | json (value : Json)
  /-- A value that cannot be encoded. -/
  | refused (reason : String)
  /-- Names, which need not be texts, with their values. -/
  | fields (entries : List (Json × Json))
  | list (items : List Payload)
  /-- A float, `none` for one without a finite value. -/
  | float (value : Option Binary)
  /-- An integer of any size. -/
  | integer (value : Int)
  | bytes (values : List UInt8)
  deriving Inhabited

namespace Payload

/-- The name under which a field is encoded. -/
def fieldName : Json → Except EncodingError String
  | .string s => .ok s
  | .number n => .ok n.text
  | .bool b => .ok (Json.bool b).text
  | _ => .error .keyMustBeString

/-- Fields one after the other; the first unusable name decides. -/
def encodeFields : List (Json × Json) → Except EncodingError (List (String × Json))
  | [] => .ok []
  | (key, value) :: rest => do
    let name ← fieldName key
    let fields ← encodeFields rest
    .ok ((name, value) :: fields)

/-- An integer that fits 64 bits, with or without sign. -/
def encodeInteger (i : Int) : Except EncodingError Json :=
  if Word.isSigned i || Word.isUnsigned i then .ok (.number (.integer i))
  else .error .numberOutOfRange

mutual

/-- The JSON value of a payload. -/
def encode : Payload → Except EncodingError Json
  | json value => .ok value
  | refused reason => .error (.refused reason)
  | fields entries => do .ok (Json.ofFields (← encodeFields entries))
  | list items => do .ok (.array (← encodeItems items))
  | float (some value) => .ok (.number (.float value))
  | float none => .ok .null
  | integer i => encodeInteger i
  | bytes values => .ok (.array (values.map fun b => Json.ofNat b.toNat))

/-- Payloads one after the other; the first that cannot be encoded decides. -/
def encodeItems : List Payload → Except EncodingError (List Json)
  | [] => .ok []
  | item :: items => do
    let value ← encode item
    let values ← encodeItems items
    .ok (value :: values)

end

end Payload

end Dispatch
