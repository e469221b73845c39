import Dispatch.Json.Encoding

/-!
# Messages

A message is a JSON payload with the attributes that its sender gave it.
-/
namespace Dispatch

/-- Attributes as a sender gives them. -/
abbrev Attributes : Type := Table Json

/-- A payload and its attributes. -/
structure Message where
  payload : Json
  attributes : Attributes
  deriving Repr, Inhabited

namespace Message

/-- The message that carries an encoded payload. -/
def ofPayload (payload : Payload) (attributes : Attributes) : Except EncodingError Message := do
  .ok ⟨← payload.encode, attributes⟩

/-- Messages are equal when their payloads and their attributes are. -/
def eqv (a b : Message) : Bool :=
  a.payload.eqv b.payload && Json.eqvFields a.attributes.fields b.attributes.fields

end Message

end Dispatch
