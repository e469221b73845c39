import Dispatch.Outbox.Basic

/-!
# One step of the outbox

An operation runs until it is over, has to wait for a busy flush, or hands a batch to the
carrier; in the last case it goes on when the carrier answers. Every function here gives
back the outbox after the step and the notices of the step.

## Main definitions

* `Outbox.sweep`: the flushes of the destinations that are left.
* `Outbox.resume`: what follows the end of a flush.
* `Outbox.proceed`: a flush with nothing in flight.
* `Outbox.start`, `Outbox.settle`: the start of an operation, and the answer to the latest
  batch in flight.
* `Outbox.run`: a history of operations and answers.
-/
namespace Dispatch

/-- What happens to an outbox from outside. -/
inductive Input (μ : Type) where
  | start (operation : Operation μ)
  /-- The carrier answers for the batch it was handed last. -/
  | answer (answer : Answer)

/-! ## The lines of the log -/

namespace LogLine

/-- A batch was delivered. -/
def delivered (destination : String) (total : Nat) : String :=
  "send_batch(" ++ destination ++ ", " ++ toString total ++ ") succeeded"

/-- A batch could not be sent. -/
def notSent (destination : String) (total : Nat) (e : Error) : String :=
  "send_batch(" ++ destination ++ ", " ++ toString total ++ ") failed: " ++ e.message

/-- An entry of a batch was refused. -/
def refused (destination : String) (r : Refusal) : String :=
  "send_batch(" ++ destination ++ ") entry " ++ toString r.index ++ " failed: sender_fault=" ++
    toString r.senderFault ++ " code=" ++ r.code ++ " message=" ++ r.message

/-- The flush of a destination failed. -/
def notFlushed (destination : String) (e : Error) : String :=
  "flush(" ++ destination ++ ") failed: " ++ e.message

end LogLine

namespace Outbox

variable {μ : Type}

/-- The notice of a warning. -/
def warning (line : String) : Notice μ := .event ⟨.warning, line⟩

/-- Hands the first messages of a queue to the carrier. -/
def handOver (o : Outbox μ) (destination : String) (log : Log) (purpose : Purpose μ) :
    Outbox μ × List (Notice μ) :=
  let batch := (o.queue destination).take o.batchSize
  let left := o.setQueue destination ((o.queue destination).drop o.batchSize)
  ({ left with flights := ⟨destination, batch, log, purpose⟩ :: o.flights },
    [.handed destination batch])

/-- The result of flushing several destinations. -/
def conclude (log : Log) : List Error → Except Error Outcome
  | [] => .ok (.drained log)
  | [e] => .error e
  | errors => .error (.several errors)

/-- Flushes the destinations that are left, each of them whatever became of the others. -/
def sweep (o : Outbox μ) : List String → Log → List Error → Outbox μ × List (Notice μ)
  | [], log, errors => (o, [.finished (conclude log errors)])
  | destination :: rest, log, errors =>
    if o.isBusy destination then (o, [.blocked destination])
    else if (o.queue destination).isEmpty then o.sweep rest log errors
    else o.handOver destination .empty (.sweep rest log errors)

/-- What follows the end of a flush. -/
def resume (o : Outbox μ) (destination : String) (result : Except Error Log) :
    Purpose μ → Outbox μ × List (Notice μ)
  | .flush => (o, [.finished (result.map .drained)])
  | .send message =>
    match result with
    | .ok _ =>
      (o.push destination message, [.queued destination message, .finished (.ok .queued)])
    | .error e => (o, [.finished (.error e)])
  | .sweep rest log errors =>
    match result with
    | .ok flushed => o.sweep rest (log.append flushed) errors
    | .error e =>
      let line := LogLine.notFlushed destination e
      let (next, notices) := o.sweep rest (log.write .warning line) (errors ++ [e])
      (next, warning line :: notices)

/-- Goes on with a flush that has nothing in flight: it is over when the queue is empty. -/
def proceed (o : Outbox μ) (destination : String) (log : Log) (purpose : Purpose μ) :
    Outbox μ × List (Notice μ) :=
  if (o.queue destination).isEmpty then o.resume destination (.ok log) purpose
  else o.handOver destination log purpose

/-- Starts the flush of a destination. -/
def beginFlush (o : Outbox μ) (destination : String) (purpose : Purpose μ) :
    Outbox μ × List (Notice μ) :=
  if o.isBusy destination then (o, [.blocked destination])
  else o.proceed destination .empty purpose

/-- Starts an operation. A closed outbox refuses messages, and a queue that holds a batch is
flushed before another message joins it. -/
def start (o : Outbox μ) : Operation μ → Outbox μ × List (Notice μ)
  | .send destination message =>
    if o.closed then (o, [.finished (.error (.closed destination))])
    else match message with
      | .error cause => (o, [.finished (.error (.encoding cause))])
      | .ok message =>
        if o.batchSize ≤ o.pending destination then o.beginFlush destination (.send message)
        else o.resume destination (.ok .empty) (.send message)
  | .flush destination => o.beginFlush destination .flush
  | .flushAll => o.sweep o.destinations .empty []
  | .close => ({ o with closed := true } : Outbox μ).sweep o.destinations .empty []

/-- Takes the answer for a batch that is no longer in flight. After a clean receipt the
flush goes on, whatever the receipt lists as delivered; else it is over, and what was not
reported delivered is back in its queue. -/
def land (o : Outbox μ) (f : Flight μ) : Answer → Outbox μ × List (Notice μ)
  | .error e =>
    let line := LogLine.notSent f.destination f.batch.length e
    let (next, notices) :=
      (o.restore f.destination f.batch).resume f.destination (.error e) f.purpose
    (next, warning line :: notices)
  | .ok receipt =>
    if receipt.isClean then
      let line := LogLine.delivered f.destination f.batch.length
      let (next, notices) := o.proceed f.destination (f.log.write .debug line) f.purpose
      (next, .event ⟨.debug, line⟩ :: notices)
    else
      let (next, notices) :=
        (o.restore f.destination (receipt.undelivered f.batch)).resume f.destination
          (.error (.batchFailed f.destination f.batch.length receipt.refused)) f.purpose
      (next, receipt.refused.map (fun r => warning (LogLine.refused f.destination r)) ++ notices)

/-- The carrier answers for the latest batch in flight. Without one there is nothing to
answer. -/
def settle (o : Outbox μ) (answer : Answer) : Outbox μ × List (Notice μ) :=
  match o.flights with
  | [] => (o, [])
  | f :: outer =>
    let (next, notices) := ({ o with flights := outer } : Outbox μ).land f answer
    (next, .answered f.destination f.batch answer :: notices)

/-- One step. -/
def step (o : Outbox μ) : Input μ → Outbox μ × List (Notice μ)
  | .start operation => o.start operation
  | .answer answer => o.settle answer

/-- A history of operations and answers, with all its notices. -/
def run (o : Outbox μ) : List (Input μ) → Outbox μ × List (Notice μ)
  | [] => (o, [])
  | input :: inputs =>
    let (next, notices) := o.step input
    let (last, more) := next.run inputs
    (last, notices ++ more)

/-- What giving up an outbox reports: the messages that were never sent, unless there are
none. -/
def abandon (o : Outbox μ) : List Event :=
  let left := o.queues.fields.filter fun entry => !entry.2.isEmpty
  if left.isEmpty then []
  else [⟨.warning, "message pump dropped with " ++ toString o.waiting.length ++
    " unsent messages across " ++ toString left.length ++ " destinations"⟩]

@[simp] theorem run_nil (o : Outbox μ) : o.run [] = (o, []) := rfl

theorem run_cons (o : Outbox μ) (input : Input μ) (inputs : List (Input μ)) :
    o.run (input :: inputs) =
      (((o.step input).1.run inputs).1, (o.step input).2 ++ ((o.step input).1.run inputs).2) :=
  rfl

/-- A history may be cut anywhere. -/
theorem run_append (o : Outbox μ) (before after : List (Input μ)) :
    o.run (before ++ after) =
      (((o.run before).1.run after).1, (o.run before).2 ++ ((o.run before).1.run after).2) := by
  induction before generalizing o with
  | nil => rfl
  | cons input inputs ih => simp [run_cons, ih]

end Outbox

end Dispatch
