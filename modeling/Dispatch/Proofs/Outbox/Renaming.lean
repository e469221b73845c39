import Dispatch.Outbox.Step

/-!
# An outbox does not look into its messages

What an outbox does depends on how many messages it holds and never on what they are. So a
history with every message replaced through a function is the same history, seen through
that function (`Outbox.run_map`). Messages may therefore carry a mark of their own, which
tells equal ones apart and changes nothing.

## Main definitions

* `Outbox.map`, `Notice.map`, `Input.map`, and `map` for what they are made of.
* `Outbox.image`: the result of a step, seen through a function.
-/
namespace Dispatch

variable {μ ν α β : Type}

namespace Table

/-- Replaces the values and keeps the names. -/
def mapValues (f : α → β) (t : Table α) : Table β where
  fields := t.fields.map fun (entry : String × α) => (entry.1, f entry.2)
  sorted := List.pairwise_map.2 t.sorted

@[simp] theorem names_mapValues (f : α → β) (t : Table α) : (t.mapValues f).names = t.names := by
  simp [names, Fields.names, mapValues, Function.comp_def]

theorem get?_mapValues (f : α → β) (t : Table α) (name : String) :
    (t.mapValues f).get? name = (t.get? name).map f := by
  simp only [get?, mapValues]
  induction t.fields with
  | nil => rfl
  | cons entry rest ih =>
    simp only [List.map_cons, Fields.get?]
    split
    · rfl
    · exact ih

theorem insert_mapValues (f : α → β) (t : Table α) (name : String) (value : α) :
    (t.mapValues f).insert name (f value) = (t.insert name value).mapValues f := by
  ext1 other
  rw [get?_insert, get?_mapValues, get?_mapValues, get?_insert]
  split <;> rfl

end Table

/-- An operation with its message replaced. -/
def Operation.map (f : μ → ν) : Operation μ → Operation ν
  | send destination message => send destination (message.map f)
  | flush destination => flush destination
  | flushAll => flushAll
  | close => close

/-- An input with its message replaced. -/
def Input.map (f : μ → ν) : Input μ → Input ν
  | start operation => start (operation.map f)
  | answer reply => answer reply

/-- A purpose with its message replaced. -/
def Purpose.map (f : μ → ν) : Purpose μ → Purpose ν
  | flush => flush
  | send message => send (f message)
  | sweep rest log errors => sweep rest log errors

/-- A flight with its messages replaced. -/
def Flight.map (f : μ → ν) (x : Flight μ) : Flight ν :=
  ⟨x.destination, x.batch.map f, x.log, x.purpose.map f⟩

/-- A notice with its messages replaced. -/
def Notice.map (f : μ → ν) : Notice μ → Notice ν
  | queued destination message => queued destination (f message)
  | handed destination batch => handed destination (batch.map f)
  | answered destination batch answer => answered destination (batch.map f) answer
  | event e => event e
  | finished result => finished result
  | blocked destination => blocked destination

theorem Receipt.undelivered_map (f : μ → ν) (r : Receipt) (batch : List μ) :
    r.undelivered (batch.map f) = (r.undelivered batch).map f := by
  suffices h : ∀ start, r.undeliveredFrom start (batch.map f) =
      (r.undeliveredFrom start batch).map f from h 0
  induction batch with
  | nil => exact fun _ => rfl
  | cons m ms ih =>
    intro start
    simp only [List.map_cons, undeliveredFrom, ih]
    split <;> rfl

namespace Outbox

/-- An outbox with its messages replaced. -/
def map (f : μ → ν) (o : Outbox μ) : Outbox ν where
  batchSize := o.batchSize
  batchSize_pos := o.batchSize_pos
  queues := o.queues.mapValues (·.map f)
  flights := o.flights.map (·.map f)
  closed := o.closed

/-- The result of a step, with the messages replaced. -/
def image (f : μ → ν) (result : Outbox μ × List (Notice μ)) : Outbox ν × List (Notice ν) :=
  (result.1.map f, result.2.map (·.map f))

variable (f : μ → ν) (o : Outbox μ)

@[simp] theorem queue_map (d : String) : (o.map f).queue d = (o.queue d).map f := by
  simp only [queue, map, Table.get?_mapValues]
  cases o.queues.get? d <;> rfl

@[simp] theorem pending_map (d : String) : (o.map f).pending d = o.pending d := by
  simp [pending]

@[simp] theorem isBusy_map (d : String) : (o.map f).isBusy d = o.isBusy d := by
  simp [isBusy, map, Flight.map, Function.comp_def]

@[simp] theorem destinations_map : (o.map f).destinations = o.destinations :=
  Table.names_mapValues _ _

theorem setQueue_map (d : String) (ms : List μ) :
    (o.map f).setQueue d (ms.map f) = (o.setQueue d ms).map f := by
  simp only [setQueue, map, Table.insert_mapValues]

theorem push_map (d : String) (m : μ) : (o.map f).push d (f m) = (o.push d m).map f := by
  simp only [push, ← setQueue_map, queue_map, List.map_append, List.map_cons, List.map_nil]

theorem restore_map (d : String) (ms : List μ) :
    (o.map f).restore d (ms.map f) = (o.restore d ms).map f := by
  simp only [restore, ← setQueue_map, queue_map, List.map_append]

theorem create?_map (limit size : Nat) :
    (create? limit size : Except Error (Outbox ν)) = (create? limit size).map (map f) := by
  simp only [create?]
  split
  · rfl
  · split <;> rfl

/-! ## Each function of a step -/

theorem handOver_map (d : String) (log : Log) (purpose : Purpose μ) :
    (o.map f).handOver d log (purpose.map f) = image f (o.handOver d log purpose) := by
  simp only [handOver, image, queue_map, ← List.map_take, ← List.map_drop, setQueue_map]
  rfl

theorem sweep_map (ds : List String) (log : Log) (errors : List Error) :
    (o.map f).sweep ds log errors = image f (o.sweep ds log errors) := by
  induction ds with
  | nil => rfl
  | cons d rest ih =>
    simp only [sweep, isBusy_map, queue_map, List.isEmpty_map]
    split
    · rfl
    · split
      · exact ih
      · exact o.handOver_map f d .empty (.sweep rest log errors)

theorem resume_map (d : String) (result : Except Error Log) (purpose : Purpose μ) :
    (o.map f).resume d result (purpose.map f) = image f (o.resume d result purpose) := by
  cases purpose with
  | flush => rfl
  | send m =>
    cases result with
    | error e => rfl
    | ok log => simp [resume, Purpose.map, push_map, image, Notice.map]
  | sweep rest log errors =>
    cases result with
    | error e => simp [resume, Purpose.map, sweep_map, image, Notice.map, warning]
    | ok flushed => exact o.sweep_map f rest _ _

theorem proceed_map (d : String) (log : Log) (purpose : Purpose μ) :
    (o.map f).proceed d log (purpose.map f) = image f (o.proceed d log purpose) := by
  simp only [proceed, queue_map, List.isEmpty_map]
  split
  · exact o.resume_map f d _ purpose
  · exact o.handOver_map f d log purpose

theorem beginFlush_map (d : String) (purpose : Purpose μ) :
    (o.map f).beginFlush d (purpose.map f) = image f (o.beginFlush d purpose) := by
  simp only [beginFlush, isBusy_map]
  split
  · rfl
  · exact o.proceed_map f d .empty purpose

theorem start_map (operation : Operation μ) :
    (o.map f).start (operation.map f) = image f (o.start operation) := by
  cases operation with
  | flush d => exact o.beginFlush_map f d .flush
  | flushAll =>
    simp only [start, Operation.map, destinations_map]
    exact o.sweep_map f _ .empty []
  | close =>
    simp only [start, Operation.map, destinations_map]
    exact sweep_map f { o with closed := true } _ .empty []
  | send d message =>
    have closed : (o.map f).closed = o.closed := rfl
    have size : (o.map f).batchSize = o.batchSize := rfl
    simp only [start, Operation.map, pending_map, closed, size]
    by_cases hc : o.closed
    · simp [hc, image, Notice.map]
    · simp only [hc]
      cases message with
      | error cause => rfl
      | ok m =>
        by_cases full : o.batchSize ≤ o.pending d
        · simpa [Except.map, full, Purpose.map] using o.beginFlush_map f d (.send m)
        · simpa [Except.map, full, Purpose.map] using o.resume_map f d (.ok .empty) (.send m)

theorem land_map (x : Flight μ) (answer : Answer) :
    (o.map f).land (x.map f) answer = image f (o.land x answer) := by
  cases answer with
  | error e =>
    simp only [land, Flight.map, restore_map, resume_map, List.length_map]
    rfl
  | ok receipt =>
    simp only [land, Flight.map, List.length_map, Receipt.undelivered_map, restore_map,
      resume_map, proceed_map]
    split
    · rfl
    · simp [image, Notice.map, warning]

theorem settle_map (answer : Answer) :
    (o.map f).settle answer = image f (o.settle answer) := by
  simp only [settle]
  cases h : o.flights with
  | nil => simp [map, h, image]
  | cons x outer =>
    have top : (o.map f).flights = x.map f :: outer.map (·.map f) := by simp [map, h]
    have rest : ({ o.map f with flights := outer.map (·.map f) } : Outbox ν) =
        ({ o with flights := outer } : Outbox μ).map f := rfl
    simp only [top, rest, land_map]
    rfl

theorem step_map (input : Input μ) : (o.map f).step (input.map f) = image f (o.step input) := by
  cases input with
  | start operation => exact o.start_map f operation
  | answer answer => exact o.settle_map f answer

/-- **A history does not depend on what the messages are.** -/
theorem run_map (inputs : List (Input μ)) :
    (o.map f).run (inputs.map (·.map f)) = image f (o.run inputs) := by
  induction inputs generalizing o with
  | nil => rfl
  | cons input inputs ih =>
    simp only [List.map_cons, run_cons, step_map, image]
    rw [ih]
    simp [image]

end Outbox

end Dispatch
