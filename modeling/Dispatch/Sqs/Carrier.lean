import Dispatch.Carrier
import Dispatch.Sqs.EntryId

/-!
# The carrier of the queue service

A destination is the address of a queue, or the name of a queue whose address is looked up
once and then remembered. A batch is put into envelopes as a whole before the service is
asked for anything.

## Main definitions

* `Sqs.Directory`: the addresses looked up so far.
* `Sqs.resolve`: the address of a destination.
* `Sqs.submit`: a batch.
* `Sqs.carrier`: the carrier that a service makes.
-/
namespace Dispatch.Sqs

/-- The most entries that a batch may have. -/
def batchLimit : Nat := 10

/-- Addresses of queues under their names. -/
abbrev Directory : Type := Table String

/-- Whether a destination is the address of a queue rather than its name. -/
def isUrl (destination : String) : Bool :=
  "https://".toList.isPrefixOf destination.toList ||
    "http://".toList.isPrefixOf destination.toList

/-- The address of a destination, and the directory afterwards. Only an address that the
service gave is remembered. -/
def resolve (directory : Directory) (destination : String) :
    Exchange (Except Error String × Directory) :=
  if isUrl destination then .done (.ok destination, directory)
  else match directory.get? destination with
    | some url => .done (.ok url, directory)
    | none => .ask (.getQueueUrl destination) fun
      | .error fault =>
        .done (.error (.remote (.getQueueUrl destination) fault.message), directory)
      | .ok none => .done (.error (.failure (.noQueueUrl destination)), directory)
      | .ok (some url) => .done (.ok url, directory.insert destination url)

/-- Sends envelopes to an address. -/
def post (destination url : String) (envelopes : List Envelope) :
    Exchange (Except Error Receipt) :=
  .ask (.sendMessageBatch url (entries envelopes)) fun
    | .error fault =>
      .done (.error (.remote (.sendMessageBatch destination envelopes.length) fault.message))
    | .ok response => .done (receipt response)

/-- Sends a batch. No messages need no request; too many, or one that cannot be put into
its envelope, are refused without one. -/
def submit (directory : Directory) (stamps : Nat → Stamp) (destination : String)
    (messages : List Message) : Exchange (Except Error Receipt × Directory) :=
  if messages.isEmpty then .done (.ok .empty, directory)
  else if batchLimit < messages.length then
    .done (.error (.invalid (.batchOverLimit destination messages.length batchLimit)), directory)
  else match Envelope.packAll destination stamps messages with
    | .error e => .done (.error e, directory)
    | .ok envelopes => (resolve directory destination).andThen fun
      | (.error e, directory) => .done (.error e, directory)
      | (.ok url, directory) =>
        (post destination url envelopes).andThen fun answer => .done (answer, directory)

/-- What the carrier remembers between calls, and the state of its service. -/
structure Session (ε : Type) where
  directory : Directory
  world : ε

variable {ε : Type}

/-- Looks up the address of a destination. -/
def queueUrl (service : Service ε) (destination : String) (s : Session ε) :
    Except Error String × Session ε :=
  let ((url, directory), world) := (resolve s.directory destination).run service s.world
  (url, ⟨directory, world⟩)

/-- The carrier that a service makes. -/
def carrier (service : Service ε) : Carrier (Session ε) Message where
  sendBatch destination messages s :=
    let (stamps, world) := service.stamps s.world
    let ((answer, directory), world) :=
      (submit s.directory stamps destination messages).run service world
    (answer, ⟨directory, world⟩)
  limit := batchLimit

end Dispatch.Sqs
