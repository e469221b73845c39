import Dispatch.Carrier
import Dispatch.Log.Basic
import Dispatch.Settings.Basic
import Dispatch.Table

/-!
# The outbox

An outbox keeps, for every destination, the messages that wait to be sent, and hands them to
a carrier in batches. While the carrier holds a batch, other operations may be started on
the same outbox; they end before the carrier answers. So the batches in flight form a stack,
and the flush of a destination is busy as long as one of them is its own.

## Main definitions

* `Operation`: what a caller may ask for; `Outcome` is what it gets.
* `Purpose`: what goes on after the flush that a batch belongs to.
* `Flight`: a batch that the carrier holds.
* `Outbox`: queues, flights, and whether it is closed; `Outbox.create?` makes a new one, and
  `Outbox.ofSettings?` one for batches of the size that settings ask for.
* `Notice`: what an operation lets the world see.
-/
namespace Dispatch

/-- What a caller may ask for. A message to send is one that was encoded, or the reason why
it could not be. -/
inductive Operation (μ : Type) where
  | send (destination : String) (message : Except EncodingError μ)
  | flush (destination : String)
  | flushAll
  | close

/-- What an operation that succeeds gives back. -/
inductive Outcome where
  /-- The message waits in its queue. -/
  | queued
  /-- Everything asked for was sent. -/
  | drained (log : Log)
  deriving DecidableEq, Repr

/-- What goes on after the flush of a destination. -/
inductive Purpose (μ : Type) where
  /-- Nothing: the flush was what the caller asked for. -/
  | flush
  /-- A message is put into the queue that had no room for it. -/
  | send (message : μ)
  /-- The flushes of more destinations, with the log and the errors so far. -/
  | sweep (rest : List String) (log : Log) (errors : List Error)

/-- A batch that the carrier holds, with the log of its flush so far. -/
structure Flight (μ : Type) where
  destination : String
  batch : List μ
  log : Log
  purpose : Purpose μ

/-- How full the queue of a destination is. -/
inductive Fill where
  | empty
  | accumulating
  /-- At least a batch waits; the next message flushes first. -/
  | atCapacity
  deriving DecidableEq, Repr

/-- Messages that wait, batches in flight (the latest first), and whether more are taken. -/
structure Outbox (μ : Type) where
  batchSize : Nat
  batchSize_pos : 0 < batchSize
  queues : Table (List μ)
  flights : List (Flight μ)
  closed : Bool

/-- What an operation lets the world see, in the order it happens. -/
inductive Notice (μ : Type) where
  /-- A message was accepted and joined its queue. -/
  | queued (destination : String) (message : μ)
  /-- A batch was handed to the carrier. -/
  | handed (destination : String) (batch : List μ)
  /-- The carrier answered for a batch. -/
  | answered (destination : String) (batch : List μ) (answer : Answer)
  | event (event : Event)
  /-- The operation is over. -/
  | finished (result : Except Error Outcome)
  /-- The operation would have to wait for the flush of a destination and is given up. -/
  | blocked (destination : String)

namespace Outbox

variable {μ : Type}

/-- A new outbox for batches of the given size, which the carrier has to allow. -/
def create? (limit size : Nat) : Except Error (Outbox μ) :=
  if h : size = 0 then .error (.invalid .noBatchSize)
  else if limit < size then .error (.invalid (.batchSizeOverLimit size limit))
  else .ok ⟨size, Nat.pos_of_ne_zero h, ∅, [], false⟩

/-- A new outbox for batches of the size that the settings ask for. -/
def ofSettings? (limit : Nat) (settings : Settings) : Except Error (Outbox μ) := do
  create? limit (← settings.maxBatchSize)

/-- The messages that wait for a destination. -/
def queue (o : Outbox μ) (destination : String) : List μ :=
  (o.queues.get? destination).getD []

/-- How many messages wait for a destination. -/
def pending (o : Outbox μ) (destination : String) : Nat := (o.queue destination).length

/-- How full the queue of a destination is. -/
def fill (o : Outbox μ) (destination : String) : Fill :=
  if o.pending destination = 0 then .empty
  else if o.pending destination < o.batchSize then .accumulating
  else .atCapacity

/-- The destinations with a queue, in ascending order. -/
def destinations (o : Outbox μ) : List String := o.queues.names

/-- Whether a batch of the destination is in flight. Its flush is not over until the
carrier has answered, and another one has to wait. -/
def isBusy (o : Outbox μ) (destination : String) : Bool :=
  o.flights.any fun f => f.destination == destination

/-- Replaces the queue of a destination. -/
def setQueue (o : Outbox μ) (destination : String) (messages : List μ) : Outbox μ :=
  { o with queues := o.queues.insert destination messages }

/-- Puts a message at the tail of a queue. -/
def push (o : Outbox μ) (destination : String) (message : μ) : Outbox μ :=
  o.setQueue destination (o.queue destination ++ [message])

/-- Puts messages back at the head of a queue, before what has joined it since. -/
def restore (o : Outbox μ) (destination : String) (messages : List μ) : Outbox μ :=
  o.setQueue destination (messages ++ o.queue destination)

/-- All messages that wait, destination by destination. -/
def waiting (o : Outbox μ) : List μ := o.queues.fields.flatMap fun entry => entry.2

/-- All messages in flight. -/
def flying (o : Outbox μ) : List μ := o.flights.flatMap fun f => f.batch

/-- How many messages wait or are in flight. -/
def load (o : Outbox μ) : Nat := o.waiting.length + o.flying.length

@[simp] theorem queue_setQueue_self (o : Outbox μ) (d : String) (ms : List μ) :
    (o.setQueue d ms).queue d = ms := by simp [setQueue, queue]

theorem queue_setQueue_of_ne (o : Outbox μ) {d other : String} (ms : List μ)
    (h : other ≠ d) : (o.setQueue d ms).queue other = o.queue other := by
  simp [setQueue, queue, Table.get?_insert_of_ne ms h]

@[simp] theorem queue_push_self (o : Outbox μ) (d : String) (m : μ) :
    (o.push d m).queue d = o.queue d ++ [m] := by simp [push]

@[simp] theorem queue_restore_self (o : Outbox μ) (d : String) (ms : List μ) :
    (o.restore d ms).queue d = ms ++ o.queue d := by simp [restore]

end Outbox

end Dispatch
