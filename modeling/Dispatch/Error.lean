import Dispatch.Json.Encoding
import Dispatch.Receipt

/-!
# Errors

Each error names its cause. The wording of every cause is in `Error.message`.

## Main definitions

* `Invalid`: what is refused before anything is sent.
* `Failure`: other failures of this side, such as settings that cannot be read.
* `Call`: a call of a remote service that failed.
* `Error`, `Error.message`, `Error.status`.
-/
namespace Dispatch

/-- What is refused before anything is sent. -/
inductive Invalid where
  /-- Batches of no messages. -/
  | noBatchSize
  /-- Batches larger than the carrier takes. -/
  | batchSizeOverLimit (size limit : Nat)
  /-- A message for a FIFO destination without its two FIFO fields. -/
  | fifoFieldsMissing (destination : String)
  /-- A batch larger than the queue service takes. -/
  | batchOverLimit (destination : String) (size limit : Nat)
  | other (text : String)
  deriving DecidableEq, Repr

/-- Failures of this side. -/
inductive Failure where
  /-- Settings were asked for before any were given. -/
  | notConfigured
  /-- A settings file is missing or is no text. -/
  | cannotRead (path : String)
  /-- The settings are not well-formed, or a value has the wrong type. -/
  | malformedSettings
  /-- The service knows a queue but gives no address for it. -/
  | noQueueUrl (destination : String)
  /-- The service answered for an entry that no batch can have. -/
  | notAnEntryId (id : String)
  | other (text : String)
  deriving DecidableEq, Repr

/-- A call of a remote service. -/
inductive Call where
  | getQueueUrl (destination : String)
  | sendMessageBatch (destination : String) (size : Nat)
  | other (text : String)
  deriving DecidableEq, Repr

/-- Why an operation failed. -/
inductive Error where
  /-- A remote call failed. -/
  | remote (call : Call) (cause : String)
  /-- Entries of a batch were refused. -/
  | batchFailed (destination : String) (total : Nat) (refused : List Refusal)
  /-- The outbox takes no more messages. -/
  | closed (destination : String)
  /-- Several operations failed. -/
  | several (errors : List Error)
  /-- A payload has no JSON value. -/
  | encoding (cause : EncodingError)
  | failure (cause : Failure)
  | invalid (cause : Invalid)
  deriving Repr, Inhabited

/-- The wording of a refusal. -/
def Invalid.message : Invalid → String
  | noBatchSize => "max_batch_size: must be at least 1"
  | batchSizeOverLimit size limit =>
    "max_batch_size: " ++ toString size ++ " exceeds the sender limit of " ++ toString limit
  | fifoFieldsMissing destination =>
    destination ++ ": FIFO destinations require the message-deduplication-id and " ++
      "message-group-id attributes"
  | batchOverLimit destination size limit =>
    destination ++ ": " ++ toString size ++ " messages exceeds the SQS batch limit of " ++
      toString limit
  | other text => text

/-- The wording of a failure. -/
def Failure.message : Failure → String
  | notConfigured => "config not set"
  | cannotRead path => path ++ ": cannot read"
  | malformedSettings => "toml: malformed settings"
  | noQueueUrl destination => destination ++ ": no queue URL"
  | notAnEntryId id => id ++ ": not a batch entry id"
  | other text => text

/-- The wording of a call. -/
def Call.text : Call → String
  | getQueueUrl destination => "get_queue_url(" ++ destination ++ ")"
  | sendMessageBatch destination size =>
    "send_message_batch(" ++ destination ++ ", " ++ toString size ++ ")"
  | other text => text

namespace Error

mutual

/-- The wording of an error; several errors stand on a line each. -/
def message : Error → String
  | remote call cause => call.text ++ ": " ++ cause
  | batchFailed destination total refused =>
    destination ++ ": " ++ toString refused.length ++ " of " ++ toString total ++
      " messages failed"
  | closed destination => destination ++ ": pump is closed"
  | several errors => messages errors
  | encoding cause => "serde: " ++ cause.message
  | failure cause => cause.message
  | invalid cause => cause.message

/-- The wordings of errors with line breaks between them. -/
def messages : List Error → String
  | [] => ""
  | [e] => message e
  | e :: es => message e ++ "\n" ++ messages es

end

/-- The HTTP status that fits best. -/
def status : Error → Nat
  | remote .. => 424
  | batchFailed .. => 424
  | closed _ => 503
  | encoding _ => 422
  | invalid _ => 400
  | several _ => 500
  | failure _ => 500

end Error

end Dispatch
