import Dispatch.Envelope

/-!
# Exchanges with the queue service

The service looks up the address of a queue and takes batches of entries. An exchange is a
value that waits for the replies to its requests, so it can be held with any service.

## Main definitions

* `Sqs.Entry`, `Sqs.Request`, `Sqs.Response`, `Sqs.Fault`.
* `Sqs.Exchange`: requests, each followed by what its reply leads to.
* `Sqs.Service`: gives the replies; `Sqs.Exchange.run` holds an exchange with it.
-/
namespace Dispatch.Sqs

/-- A message in a request. Its identifier tells it apart from the others of the batch. -/
structure Entry where
  id : String
  envelope : Envelope
  deriving DecidableEq, Repr

/-- What the service may be asked. -/
inductive Request where
  | getQueueUrl (name : String)
  | sendMessageBatch (url : String) (entries : List Entry)
  deriving DecidableEq, Repr

/-- Why a request brought no response. -/
inductive Fault where
  /-- The service refused the request as a whole. -/
  | service (code : String)
  /-- The service could not be reached. -/
  | dispatch
  deriving DecidableEq, Repr

/-- The wording of a fault. -/
def Fault.message : Fault → String
  | service _ => "service error"
  | dispatch => "dispatch failure"

/-- An entry that the service took. -/
structure Accepted where
  id : String
  messageId : String
  deriving DecidableEq, Repr

/-- An entry that the service refused. -/
structure Rejected where
  id : String
  senderFault : Bool
  code : String
  message : Option String
  deriving DecidableEq, Repr

/-- The response to a batch. -/
structure Response where
  successful : List Accepted
  failed : List Rejected
  deriving DecidableEq, Repr

/-- What a request is replied with. -/
def Request.Reply : Request → Type
  | .getQueueUrl _ => Except Fault (Option String)
  | .sendMessageBatch _ _ => Except Fault Response

/-- Requests one after the other, and the value that comes out. -/
inductive Exchange (α : Type) : Type where
  | done (value : α)
  | ask (request : Request) (next : request.Reply → Exchange α)

/-- Whoever replies to requests, and marks messages on their way out with an identifier
each and the time. What it remembers is the state `ε`. -/
structure Service (ε : Type) where
  reply : (request : Request) → ε → request.Reply × ε
  stamps : ε → (Nat → Stamp) × ε

namespace Exchange

variable {α β ε : Type}

/-- Goes on with the value that comes out. -/
def andThen : Exchange α → (α → Exchange β) → Exchange β
  | done value, f => f value
  | ask request next, f => ask request fun reply => (next reply).andThen f

/-- Holds an exchange with a service. -/
def run (service : Service ε) : Exchange α → ε → α × ε
  | done value, state => (value, state)
  | ask request next, state =>
    let (reply, state) := service.reply request state
    (next reply).run service state

@[simp] theorem run_done (service : Service ε) (value : α) (state : ε) :
    (done value).run service state = (value, state) := rfl

@[simp] theorem andThen_done (value : α) (f : α → Exchange β) :
    (done value).andThen f = f value := rfl

/-- An exchange in two parts is held part by part. -/
theorem run_andThen (service : Service ε) (x : Exchange α) (f : α → Exchange β) (state : ε) :
    (x.andThen f).run service state =
      (f (x.run service state).1).run service (x.run service state).2 := by
  induction x generalizing state with
  | done value => rfl
  | ask request next ih => exact ih _ _

end Exchange

end Dispatch.Sqs
