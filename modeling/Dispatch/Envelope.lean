import Dispatch.Attribute
import Dispatch.Error
import Dispatch.Message
import Dispatch.Time
import Dispatch.Uuid

/-!
# Envelopes

A message leaves in an envelope: its body is the JSON text of the payload, and five
standard attributes are added unless the sender gave them. A FIFO destination needs two
more texts from the attributes; they travel beside the attributes and never among them.

## Main definitions

* `isFifo`: which destinations are FIFO.
* `Stamp`: what every envelope gets from outside, its identifier and the time.
* `Envelope.pack`, `Envelope.packAll`: one message, and all messages of a batch or none.
-/
namespace Dispatch

namespace AttributeName

/-- The identifier of a message. -/
def id : String := "id"

/-- The time of sending. -/
def timestamp : String := "timestamp"

/-- The content type, under the name that messaging frameworks use. -/
def contentType : String := "contentType"

/-- The content type, under the name of the mail header. -/
def mimeContentType : String := "Content-Type"

/-- The size of the body in bytes. -/
def contentLength : String := "Content-Length"

/-- Tells apart messages of a FIFO destination. -/
def deduplicationId : String := "message-deduplication-id"

/-- Orders messages of a FIFO destination. -/
def groupId : String := "message-group-id"

/-- Whether a name is one of the two that only FIFO destinations use. -/
def isFifo (name : String) : Bool := name == deduplicationId || name == groupId

end AttributeName

/-- Bodies are always JSON. -/
def jsonMediaType : String := "application/json"

/-- The ending of every FIFO destination. -/
def fifoSuffix : String := "fifo"

/-- Whether a destination is FIFO: its name ends so. -/
def isFifo (destination : String) : Bool :=
  fifoSuffix.toList.isSuffixOf destination.toList

/-- What an envelope gets from outside. -/
structure Stamp where
  id : Uuid
  time : UnixMillis
  deriving DecidableEq, Repr, Inhabited

/-- A message ready to be sent. -/
structure Envelope where
  body : String
  attributes : Table Attribute
  deduplicationId : Option String
  groupId : Option String
  deriving DecidableEq, Repr

namespace Envelope

/-- The attributes that the sender gave, without the two FIFO names and without nulls. -/
def given (attributes : Attributes) : Table Attribute :=
  attributes.filterMap fun name value =>
    if AttributeName.isFifo name then none else Attribute.ofJson? value

/-- The standard attributes of a body. -/
def standard (body : String) (stamp : Stamp) : List (String × Attribute) :=
  [(AttributeName.id, .string stamp.id.text),
   (AttributeName.timestamp, .number stamp.time.text),
   (AttributeName.contentType, .string jsonMediaType),
   (AttributeName.mimeContentType, .string jsonMediaType),
   (AttributeName.contentLength, .number (toString body.utf8ByteSize))]

/-- The text under a FIFO name, if there is one that is not empty. -/
def fifoField? (attributes : Attributes) (name : String) : Option String :=
  (((attributes.get? name).bind Attribute.ofJson?).map Attribute.text).filter (· ≠ "")

/-- Puts a message into an envelope. -/
def pack (destination : String) (message : Message) (stamp : Stamp) : Except Error Envelope :=
  let body := message.payload.text
  let attributes := (standard body stamp).foldl
    (fun t entry => t.insertIfNew entry.1 entry.2) (given message.attributes)
  if isFifo destination then
    match fifoField? message.attributes AttributeName.deduplicationId,
        fifoField? message.attributes AttributeName.groupId with
    | some deduplicationId, some groupId =>
      .ok ⟨body, attributes, some deduplicationId, some groupId⟩
    | _, _ => .error (.invalid (.fifoFieldsMissing destination))
  else .ok ⟨body, attributes, none, none⟩

/-- Puts the messages of a batch into envelopes from position `start` on. The first message
that cannot be sent decides for all. -/
def packFrom (destination : String) (stamps : Nat → Stamp) :
    Nat → List Message → Except Error (List Envelope)
  | _, [] => .ok []
  | start, message :: rest =>
    match pack destination message (stamps start) with
    | .error e => .error e
    | .ok envelope =>
      match packFrom destination stamps (start + 1) rest with
      | .error e => .error e
      | .ok envelopes => .ok (envelope :: envelopes)

/-- Puts all messages of a batch into envelopes, the one at position `i` with the `i`-th
stamp, or none of them. -/
def packAll (destination : String) (stamps : Nat → Stamp) (messages : List Message) :
    Except Error (List Envelope) :=
  packFrom destination stamps 0 messages

end Envelope

end Dispatch
