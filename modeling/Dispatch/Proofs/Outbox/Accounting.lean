import Dispatch.Log.Desk
import Dispatch.Proofs.Outbox.Batches
import Dispatch.Proofs.Outbox.Performing
import Dispatch.Proofs.Outbox.Purposes

/-!
# Logs and events account for the calls

An operation calls the carrier, reports events, and gives back a log when all went well. Here the
three are compared. What an operation makes known itself, apart from the operations that were
started on top of it, can be read off its calls: each answer has its events, and when several
destinations are flushed, the failure of a flush is remarked on right after the answer that ended
it. A log has a line for each call, in their order, and no warning.

The comparison is carried by `Outbox.Balanced`, which speaks of an operation under way: the log
that it has so far is spread over the flight of its batch and over what the flight is for.

## Main definitions

* `History.events`, `History.consignments`: the events, and the batches that were handed over.
* `Shipment.report`, `Shipment.failure?`, `Shipment.remark`: what goes with a call and its answer.
* `Log.ofShipments`: the log of calls that went well.
* `Outbox.Balanced`, `Outbox.Stands`: how an operation stands to what it has made known.

## Main statements

* `Outbox.settle_stands`: an answer keeps the balance.
* `Outbox.Stands.run`: an operation keeps it to its end, whatever is started meanwhile.
* `Outbox.logs_account_for_calls`: what follows of logs and events.
-/
namespace Dispatch

variable {μ : Type}

/-- Whether an operation flushes all destinations. -/
def Operation.sweeps : Operation μ → Bool
  | .flushAll | .close => true
  | .send .. | .flush _ => false

namespace Purpose

/-- Whether other destinations follow. -/
def sweeps : Purpose μ → Bool
  | .sweep .. => true
  | .flush | .send _ => false

/-- The log of the destinations before. -/
def log : Purpose μ → Log
  | .sweep _ log _ => log
  | .flush | .send _ => .empty

/-- The errors of the destinations before. -/
def errors : Purpose μ → List Error
  | .sweep _ _ errors => errors
  | .flush | .send _ => []

end Purpose

namespace Shipment

/-- What is reported of a call: one event when nothing was refused, one for each entry that was
refused otherwise, and one when the call failed as a whole. -/
def report (s : Shipment μ) : List Event :=
  match s.answer with
  | .error e => [⟨.warning, LogLine.notSent s.destination s.batch.length e⟩]
  | .ok receipt =>
    if receipt.refused = [] then [⟨.debug, LogLine.delivered s.destination s.batch.length⟩]
    else receipt.refused.map fun r => ⟨.warning, LogLine.refused s.destination r⟩

/-- The error of the flush that the answer ends, if it does not go well. -/
def failure? (s : Shipment μ) : Option Error :=
  match s.answer with
  | .error e => some e
  | .ok receipt =>
    if receipt.refused = [] then none
    else some (.batchFailed s.destination s.batch.length receipt.refused)

/-- What is remarked on the flush of a destination, when it is one of several: that it failed. -/
def remark (s : Shipment μ) : List Event :=
  s.failure?.toList.map fun e => ⟨.warning, LogLine.notFlushed s.destination e⟩

/-- The events that go with a call of an operation. -/
def events (sweeps : Bool) (s : Shipment μ) : List Event :=
  s.report ++ if sweeps then s.remark else []

/-- A call that went well has one event. -/
theorem events_of_well {s : Shipment μ} (well : s.failure? = none) (sweeps : Bool) :
    s.events sweeps = [⟨.debug, LogLine.delivered s.destination s.batch.length⟩] := by
  cases s with
  | mk d batch answer =>
    cases answer with
    | error e => cases well
    | ok receipt =>
      by_cases clean : receipt.refused = []
      · cases sweeps <;> simp [events, report, remark, failure?, clean]
      · simp [failure?, clean] at well

end Shipment

namespace Log

/-- The log of calls that went well: a line for each of them. -/
def ofShipments (shipments : List (Shipment μ)) : Log :=
  ⟨shipments.map fun s => LogLine.delivered s.destination s.batch.length, false⟩

/-- The line of a call is not empty, so it is not left out. -/
theorem write_delivered (shipments : List (Shipment μ)) (s : Shipment μ) :
    (ofShipments shipments).write .debug (LogLine.delivered s.destination s.batch.length) =
      ofShipments (shipments ++ [s]) := by
  have some_text : LogLine.delivered s.destination s.batch.length ≠ "" := by
    intro none
    have chars := congrArg String.length none
    simp [LogLine.delivered] at chars
  simp [write, some_text, ofShipments]

theorem append_write (log other : Log) (level : Level) (line : String) :
    (log.append other).write level line = log.append (other.write level line) := by
  by_cases blank : line = ""
  · simp [write, blank]
  · simp [write, blank, append, Bool.or_assoc]

end Log

namespace History

/-- The events, in order. -/
def events (h : List (Notice μ)) : List Event :=
  h.filterMap fun
    | .event e => some e
    | _ => none

/-- The batches that were handed over, with their destinations, in order. -/
def consignments (h : List (Notice μ)) : List (String × List μ) :=
  h.filterMap fun
    | .handed d batch => some (d, batch)
    | _ => none

@[simp] theorem events_append (h k : List (Notice μ)) : events (h ++ k) = events h ++ events k :=
  List.filterMap_append

@[simp] theorem consignments_append (h k : List (Notice μ)) :
    consignments (h ++ k) = consignments h ++ consignments k := List.filterMap_append

@[simp] theorem events_events (es : List Event) :
    events (es.map .event : List (Notice μ)) = es := by
  simp [events, List.filterMap_map]

@[simp] theorem shipments_events (es : List Event) :
    shipments (es.map .event : List (Notice μ)) = [] := by
  simp [shipments, List.filterMap_map, Function.comp_def, Notice.shipment?]

@[simp] theorem consignments_events (es : List Event) :
    consignments (es.map .event : List (Notice μ)) = [] := by
  simp [consignments, List.filterMap_map]

end History

open History

namespace Flight

/-- The call that a flight amounts to when it is answered for. -/
def shipment (f : Flight μ) (answer : Answer) : Shipment μ := ⟨f.destination, f.batch, answer⟩

@[simp] theorem shipment_destination (f : Flight μ) (answer : Answer) :
    (f.shipment answer).destination = f.destination := rfl

@[simp] theorem shipment_batch (f : Flight μ) (answer : Answer) :
    (f.shipment answer).batch = f.batch := rfl

@[simp] theorem shipment_answer (f : Flight μ) (answer : Answer) :
    (f.shipment answer).answer = answer := rfl

theorem report_eq (f : Flight μ) (answer : Answer) :
    f.report answer = (f.shipment answer).report := by
  cases answer <;> rfl

/-- A flush ends well, or with the failure of the call. -/
theorem result_eq (f : Flight μ) (answer : Answer) :
    f.result answer =
      match (f.shipment answer).failure? with
      | none => .ok f.written
      | some e => .error e := by
  cases answer with
  | error e => rfl
  | ok receipt =>
    by_cases clean : receipt.refused = []
    · simp [result, shipment, Shipment.failure?, clean]
    · simp [result, shipment, Shipment.failure?, clean]

end Flight

namespace Outbox

variable {o : Outbox μ} {base : List (Flight μ)} {sweeps : Bool} {h k : List (Notice μ)}
  {away : List (String × List μ)} {plan : List String} {log : Log} {errors : List Error}

/-! ## The balance -/

/-- How an operation stands to what it has made known itself, where `away` is its batch in flight,
`plan` lists the destinations that it may still flush, and `log` and `errors` are what it has
gathered. Every call but that for the batch in flight was answered for, each answer has its events,
and a destination whose flush failed gets no other call. Without an error every call went well, and
has its line. -/
structure Balanced (sweeps : Bool) (h : List (Notice μ)) (away : List (String × List μ))
    (plan : List String) (log : Log) (errors : List Error) : Prop where
  events : events h = (shipments h).flatMap (Shipment.events sweeps)
  calls : consignments h = (shipments h).map (fun s => (s.destination, s.batch)) ++ away
  ordered : (shipments h).Pairwise fun s s' => s.failure? ≠ none → s'.destination ≠ s.destination
  failed : ∀ s ∈ shipments h, s.failure? ≠ none → s.destination ∉ plan
  logged : errors = [] → (∀ s ∈ shipments h, s.failure? = none) ∧ log = .ofShipments (shipments h)

namespace Balanced

theorem new (sweeps : Bool) (plan : List String) :
    Balanced sweeps ([] : List (Notice μ)) [] plan .empty [] :=
  ⟨rfl, rfl, List.Pairwise.nil, by simp [shipments], fun _ => ⟨by simp [shipments], rfl⟩⟩

variable (B : Balanced sweeps h away plan log errors)
include B

/-- Fewer destinations may be left. -/
theorem mono {rest : List String} (fewer : rest ⊆ plan) :
    Balanced sweeps h away rest log errors :=
  ⟨B.events, B.calls, B.ordered, fun s among failed there => B.failed s among failed (fewer there),
    B.logged⟩

/-- Notices that are no events and no calls do not matter. -/
theorem quiet (no_events : History.events k = []) (no_answers : shipments k = [])
    (no_calls : consignments k = []) : Balanced sweeps (h ++ k) away plan log errors := by
  have same : shipments (h ++ k) = shipments h := by
    rw [shipments_append, no_answers, List.append_nil]
  refine ⟨?_, ?_, ?_, ?_, ?_⟩
  · rw [events_append, no_events, List.append_nil, same]
    exact B.events
  · rw [consignments_append, no_calls, List.append_nil, same]
    exact B.calls
  · rw [same]
    exact B.ordered
  · rw [same]
    exact B.failed
  · rw [same]
    exact B.logged

end Balanced

/-- A batch that is handed over is a call, which is not answered for yet. -/
theorem Balanced.hand (B : Balanced sweeps h [] plan log errors) (d : String) (batch : List μ) :
    Balanced sweeps (h ++ [.handed d batch]) [(d, batch)] plan log errors := by
  have same : shipments (h ++ [.handed d batch]) = shipments h := by
    rw [shipments_append]
    exact List.append_nil _
  refine ⟨?_, ?_, ?_, ?_, ?_⟩
  · rw [events_append, same, ← B.events]
    exact List.append_nil _
  · rw [consignments_append, B.calls, same, List.append_nil]
    rfl
  · rw [same]
    exact B.ordered
  · rw [same]
    exact B.failed
  · rw [same]
    exact B.logged

/-- What is noticed of a call that is answered for. -/
def told (sweeps : Bool) (s : Shipment μ) : List (Notice μ) :=
  .answered s.destination s.batch s.answer :: (s.events sweeps).map .event

/-- Of a call that went well there is one notice more than the answer. -/
theorem told_of_well {s : Shipment μ} (well : s.failure? = none) (sweeps : Bool) :
    told sweeps s = .answered s.destination s.batch s.answer :: s.report.map .event := by
  simp [told, Shipment.events, Shipment.remark, well]

/-- Of a call that failed, its failure is remarked on last. -/
theorem told_of_failed {s : Shipment μ} {e : Error} (failed : s.failure? = some e) (sweeps : Bool) :
    told sweeps s = (.answered s.destination s.batch s.answer :: s.report.map .event) ++
      if sweeps then [warning (LogLine.notFlushed s.destination e)] else [] := by
  cases sweeps <;> simp [told, Shipment.events, Shipment.remark, failed, warning]

/-- An answer comes with its events. When the call failed, its destination is done with. -/
theorem Balanced.answer {s : Shipment μ}
    (B : Balanced sweeps h [(s.destination, s.batch)] plan log errors) (here : s.destination ∈ plan)
    {rest : List String} (fewer : rest ⊆ plan) {log' : Log} {errors' : List Error}
    (done : s.failure? ≠ none → s.destination ∉ rest ∧ errors' ≠ [])
    (well : s.failure? = none → errors' = errors ∧
      log' = log.write .debug (LogLine.delivered s.destination s.batch.length)) :
    Balanced sweeps (h ++ told sweeps s) [] rest log' errors' := by
  have parts : told sweeps s =
      [.answered s.destination s.batch s.answer] ++ (s.events sweeps).map .event := rfl
  have answered : shipments (h ++ told sweeps s) = shipments h ++ [s] := by
    rw [shipments_append, parts, shipments_append, shipments_events]
    rfl
  refine ⟨?_, ?_, ?_, ?_, ?_⟩
  · rw [answered, List.flatMap_append, ← B.events, events_append, parts, events_append,
      events_events]
    simp [History.events]
  · rw [answered, List.map_append, consignments_append, B.calls, parts, consignments_append,
      consignments_events]
    simp [consignments]
  · rw [answered, List.pairwise_append]
    refine ⟨B.ordered, List.pairwise_singleton _ _, ?_⟩
    intro s' among s'' new failed same
    rw [List.mem_singleton.1 new] at same
    exact B.failed s' among failed (same ▸ here)
  · intro s' among failed
    rw [answered, List.mem_append, List.mem_singleton] at among
    rcases among with old | rfl
    · exact fun there => B.failed s' old failed (fewer there)
    · exact (done failed).1
  · intro none
    have went_well : s.failure? = Option.none := by
      by_contra failed
      exact (done failed).2 none
    obtain ⟨rfl, rfl⟩ := well went_well
    obtain ⟨each, same⟩ := B.logged none
    rw [answered]
    constructor
    · intro s' among
      rcases List.mem_append.1 among with old | new
      · exact each s' old
      · rw [List.mem_singleton.1 new]
        exact went_well
    · rw [same]
      exact Log.write_delivered _ s

/-! ## An operation keeps the balance -/

/-- An operation on top of flights is under way with a batch of its own, which others may lie upon,
or it is over or given up. Either way it is in balance, and a log that it gives back is what it has
gathered, with no error. -/
inductive Stands (base : List (Flight μ)) (sweeps : Bool) (h : List (Notice μ)) (o : Outbox μ) :
    Prop
  | underway {inner : List (Flight μ)} {f : Flight μ} (place : o.flights = inner ++ f :: base)
      (kind : f.purpose.sweeps = sweeps)
      (balanced : Balanced sweeps h [(f.destination, f.batch)] (f.destination :: f.purpose.rest)
        (f.purpose.log.append f.log) f.purpose.errors)
  | halted (ended : o.flights = base) {log : Log} {errors : List Error}
      (balanced : Balanced sweeps h [] [] log errors)
      (result : ∀ last, h.getLast? = some (.finished (.ok (.drained last))) →
        errors = [] ∧ last = log)

/-- With an error there is no log to give back. -/
theorem eq_of_conclude {last : Log} (well : conclude log errors = .ok (.drained last)) :
    errors = [] ∧ last = log := by
  match errors with
  | [] =>
    cases well
    exact ⟨rfl, rfl⟩
  | [e] => cases well
  | e :: e' :: errors => cases well

/-- A batch leaves: its operation is under way. -/
theorem handOver_stands (o : Outbox μ) (d : String) (log : Log) (purpose : Purpose μ)
    (B : Balanced purpose.sweeps h [] (d :: purpose.rest) (purpose.log.append log)
      purpose.errors) :
    Stands o.flights purpose.sweeps (h ++ (o.handOver d log purpose).2)
      (o.handOver d log purpose).1 := by
  have place : (o.handOver d log purpose).1.flights =
      [] ++ ⟨d, (o.queue d).take o.batchSize, log, purpose⟩ :: o.flights := rfl
  exact .underway place rfl (B.hand d _)

/-- An operation that is given up has reported nothing of it. -/
theorem blocked_stands (o : Outbox μ) (d : String) (B : Balanced sweeps h [] [] log errors) :
    Stands o.flights sweeps (h ++ [.blocked d]) o := by
  refine .halted rfl (B.quiet rfl rfl rfl) ?_
  intro last given_back
  rw [List.getLast?_concat] at given_back
  cases given_back

/-- An operation that is over gives back a result. -/
theorem finished_stands (o : Outbox μ) {result : Except Error Outcome}
    (B : Balanced sweeps h [] [] log errors)
    (well : ∀ last, result = .ok (.drained last) → errors = [] ∧ last = log) :
    Stands o.flights sweeps (h ++ [.finished result]) o := by
  refine .halted rfl (B.quiet rfl rfl rfl) ?_
  intro last given_back
  rw [List.getLast?_concat, Option.some.injEq, Notice.finished.injEq] at given_back
  exact well last given_back

theorem sweep_stands (o : Outbox μ) {ds : List String} (B : Balanced true h [] ds log errors) :
    Stands o.flights true (h ++ (o.sweep ds log errors).2) (o.sweep ds log errors).1 := by
  induction ds with
  | nil => exact o.finished_stands B fun last well => eq_of_conclude well
  | cons d rest ih =>
    simp only [sweep]
    split
    · exact o.blocked_stands d (B.mono (List.nil_subset _))
    · split
      · exact ih (B.mono (List.subset_cons_self d rest))
      · have whole : Balanced (Purpose.sweep (μ := μ) rest log errors).sweeps h [] (d :: rest)
            (log.append .empty) errors := by
          rw [Log.append_empty]
          exact B
        exact o.handOver_stands d .empty (.sweep rest log errors) whole

/-- After a flush that went well follows what it was for. -/
theorem resume_ok_stands (o : Outbox μ) (d : String) (log : Log) (purpose : Purpose μ)
    (B : Balanced purpose.sweeps h [] purpose.rest (purpose.log.append log) purpose.errors) :
    Stands o.flights purpose.sweeps (h ++ (o.resume d (.ok log) purpose).2)
      (o.resume d (.ok log) purpose).1 := by
  cases purpose with
  | flush =>
    apply o.finished_stands B
    intro last well
    cases well
    exact ⟨rfl, (Log.empty_append _).symm⟩
  | send m =>
    refine .halted rfl (B.quiet rfl rfl rfl) ?_
    intro last given_back
    rw [resume, getLast?_append_of_getLast? rfl] at given_back
    cases given_back
  | sweep rest before errors => exact o.sweep_stands B

/-- After a flush that failed this is remarked on, if others follow. -/
theorem resume_error_stands (o : Outbox μ) (d : String) (e : Error) (purpose : Purpose μ)
    (B : ∀ log, Balanced purpose.sweeps
      (h ++ if purpose.sweeps then [warning (LogLine.notFlushed d e)] else []) [] purpose.rest log
      (purpose.errors ++ [e])) :
    Stands o.flights purpose.sweeps (h ++ (o.resume d (.error e) purpose).2)
      (o.resume d (.error e) purpose).1 := by
  cases purpose with
  | flush | send =>
    have still := B .empty
    simp only [Purpose.sweeps, Bool.false_eq_true, if_false, List.append_nil] at still
    exact o.finished_stands still fun last well => by cases well
  | sweep rest log errors =>
    have next := o.sweep_stands (B (log.write .warning (LogLine.notFlushed d e)))
    rw [List.append_assoc] at next
    exact next

theorem proceed_stands (o : Outbox μ) (d : String) (log : Log) (purpose : Purpose μ)
    (B : Balanced purpose.sweeps h [] (d :: purpose.rest) (purpose.log.append log)
      purpose.errors) :
    Stands o.flights purpose.sweeps (h ++ (o.proceed d log purpose).2)
      (o.proceed d log purpose).1 := by
  simp only [proceed]
  split
  · exact o.resume_ok_stands d log purpose (B.mono (List.subset_cons_self d _))
  · exact o.handOver_stands d log purpose B

theorem beginFlush_stands (o : Outbox μ) (d : String) (purpose : Purpose μ)
    (B : Balanced purpose.sweeps h [] (d :: purpose.rest) (purpose.log.append .empty)
      purpose.errors) :
    Stands o.flights purpose.sweeps (h ++ (o.beginFlush d purpose).2)
      (o.beginFlush d purpose).1 := by
  simp only [beginFlush]
  split
  · exact o.blocked_stands d (B.mono (List.nil_subset _))
  · exact o.proceed_stands d .empty purpose B

theorem start_stands (o : Outbox μ) (operation : Operation μ) :
    Stands o.flights operation.sweeps (o.start operation).2 (o.start operation).1 := by
  cases operation with
  | send d message =>
    simp only [start]
    split
    · exact o.finished_stands (.new false []) fun last well => by cases well
    · cases message with
      | error cause => exact o.finished_stands (.new false []) fun last well => by cases well
      | ok m =>
        dsimp only
        split
        · exact o.beginFlush_stands d (.send m) (.new false [d])
        · have new : Balanced false ([] : List (Notice μ)) [] [] (Log.empty.append .empty) [] :=
            .new false []
          exact o.resume_ok_stands d .empty (.send m) new
  | flush d => exact o.beginFlush_stands d .flush (.new false [d])
  | flushAll => exact o.sweep_stands (.new true o.destinations)
  | close => exact sweep_stands { o with closed := true } (.new true o.destinations)

/-- **An answer keeps the balance** of the operation whose batch it is for. -/
theorem settle_stands {f : Flight μ} (top : o.flights = f :: base)
    (once : f.destination ∉ f.purpose.rest)
    (B : Balanced f.purpose.sweeps h [(f.destination, f.batch)] (f.destination :: f.purpose.rest)
      (f.purpose.log.append f.log) f.purpose.errors) (answer : Answer) :
    Stands base f.purpose.sweeps (h ++ (o.settle answer).2) (o.settle answer).1 := by
  have here : f.destination ∈ f.destination :: f.purpose.rest := List.mem_cons_self ..
  have others := List.subset_cons_self f.destination f.purpose.rest
  simp only [settle, top, land_eq, f.report_eq, f.result_eq]
  generalize left_eq : ({ o with flights := base } : Outbox μ) = left
  have flights_eq : left.flights = base := by rw [← left_eq]
  cases outcome : (f.shipment answer).failure? with
  | none =>
    have next := B.answer (s := f.shipment answer) here (List.Subset.refl _)
      (fun failed => absurd outcome failed) fun _ => ⟨rfl, rfl⟩
    rw [Log.append_write] at next
    have stands := left.proceed_stands f.destination f.written f.purpose next
    rw [flights_eq, told_of_well outcome] at stands
    simpa using stands
  | some e =>
    have next (log : Log) : Balanced f.purpose.sweeps
        (h ++ told f.purpose.sweeps (f.shipment answer)) [] f.purpose.rest log
        (f.purpose.errors ++ [e]) := by
      apply B.answer here others
      · exact fun _ => ⟨once, List.concat_ne_nil e f.purpose.errors⟩
      · exact fun well => by cases outcome.symm.trans well
    simp only [told_of_failed outcome, ← List.append_assoc] at next
    have stands := (left.reclaim f answer).resume_error_stands f.destination e f.purpose next
    rw [flights_reclaim, flights_eq] at stands
    simpa using stands

/-! ## From its start to its end -/

/-- A step above the batch of an operation does not answer for it. -/
theorem answersFor_above {inner : List (Flight μ)} {f : Flight μ}
    (place : o.flights = inner ++ f :: base) {input : Input μ}
    (others : ∀ answer, input = .answer answer → inner ≠ []) :
    o.answersFor base.length input = false := by
  cases input with
  | start operation => rfl
  | answer answer =>
    have above := List.length_pos_iff.2 (others answer rfl)
    simp only [answersFor, place, List.length_append, List.length_cons, beq_eq_false_iff_ne]
    omega

/-- **An operation stays in balance**, whatever is started on top of it. -/
theorem Stands.run (stands : Stands base sweeps h o) (sound : o.Sound) {inputs : List (Input μ)}
    (ongoing : Ongoing base.length o inputs) :
    Stands base sweeps (h ++ own base.length o inputs) (o.run inputs).1 := by
  induction inputs generalizing o h with
  | nil => simpa [own] using stands
  | cons input inputs ih =>
    obtain ⟨deep, later⟩ := ongoing
    rw [run_cons, own, ← List.append_assoc]
    cases stands with
    | halted ended =>
      rw [ended] at deep
      exact absurd deep (Nat.lt_irrefl _)
    | @underway inner f place kind balanced =>
      apply ih _ (sound.step input) later
      by_cases latest : ∃ answer, input = .answer answer ∧ inner = []
      · obtain ⟨answer, rfl, rfl⟩ := latest
        have its_own : o.answersFor base.length (.answer answer) = true := by
          simp [answersFor, place]
        have once := (List.nodup_cons.1 (sound.planned f (place ▸ List.mem_cons_self ..))).1
        subst kind
        rw [if_pos its_own]
        exact settle_stands place once balanced answer
      · have others : ∀ answer, input = .answer answer → inner ≠ [] :=
          fun answer same none => latest ⟨answer, same, none⟩
        obtain ⟨inner', place'⟩ := exists_below place others
        obtain ⟨new, stack⟩ := below_suffix_step sound.exclusive input
        rw [place', ← List.append_assoc] at stack
        rw [answersFor_above place others, if_neg Bool.false_ne_true, List.append_nil]
        exact .underway stack.symm kind balanced

/-- The operation that comes to its end has the last word. -/
theorem exists_last_own (sound : o.Sound) {n : ℕ} (deep : n < o.flights.length)
    {inputs : List (Input μ)} (ongoing : Ongoing n o inputs)
    (ended : (o.run inputs).1.flights.length = n) :
    ∃ last, (own n o inputs).getLast? = some last ∧ (o.run inputs).2.getLast? = some last := by
  induction inputs generalizing o with
  | nil => exact absurd deep (Nat.not_lt.2 (Nat.le_of_eq ended))
  | cons input inputs ih =>
    by_cases deeper : n < (o.step input).1.flights.length
    · obtain ⟨last, own_last, run_last⟩ := ih (sound.step input) deeper ongoing.2 ended
      exact ⟨last, getLast?_append_of_getLast? own_last, getLast?_append_of_getLast? run_last⟩
    · obtain rfl := eq_nil_of_ongoing ongoing.2 (Nat.le_of_not_lt deeper)
      have least := (below_suffix_step sound.exclusive input).length_le
      cases input with
      | start operation => exact absurd (Nat.lt_of_lt_of_le deep least) deeper
      | answer answer =>
        rw [below, List.length_tail] at least
        obtain ⟨f, outer, top⟩ := List.exists_cons_of_length_pos (Nat.zero_lt_of_lt deep)
        have its_own : o.answersFor n (.answer answer) = true := by
          simp only [answersFor, beq_iff_eq]
          omega
        simp [run_cons, own, its_own, step, settle, top, List.getLast?_cons]

theorem Returns.last_own (sound : o.Sound) {operation : Operation μ} {during : List (Input μ)}
    {result : Except Error Outcome} (returned : o.Returns operation during result) :
    (o.ownNotices operation during).getLast? = some (.finished result) := by
  obtain ⟨ongoing, ended, last_notice⟩ := returned
  replace last_notice : ((o.start operation).2 ++ ((o.start operation).1.run during).2).getLast? =
    some (.finished result) := last_notice
  cases during with
  | nil => simpa [ownNotices, own] using last_notice
  | cons input inputs =>
    obtain ⟨last, own_last, run_last⟩ :=
      exists_last_own (sound.step (.start operation)) ongoing.1 ongoing ended
    rw [step] at run_last
    rw [getLast?_append_of_getLast? run_last] at last_notice
    rw [ownNotices, ← last_notice]
    exact getLast?_append_of_getLast? own_last

/-- **Logs and events account for the calls.** Take an outbox after any history and an operation
with whatever is started on top of it while the carrier answers. What the operation makes known
itself accounts for its calls. Its events are, call by call and in their order: one of the lowest
level when nothing was refused, a warning for each entry that was refused otherwise, in the order
of the answer, and one warning when the call failed as a whole; right after those of a call that
ends the flush of a destination with a failure comes a warning of that, if the operation flushes
all destinations. A destination whose flush has failed is not called again. When the operation is
over, every batch that it handed over was answered for. If it gives a log, this has a line for each
of its calls, in their order, and no warning, and its events are these lines. To copy a log emits
nothing. -/
theorem logs_account_for_calls {limit : ℕ} {fresh : Outbox μ} (made : fresh.Made limit)
    (before : List (Input μ)) (operation : Operation μ) {during : List (Input μ)}
    (ongoing : Ongoing (fresh.run before).1.flights.length
      ((fresh.run before).1.start operation).1 during) :
    let o := (fresh.run before).1
    let own := o.ownNotices operation during
    events own = (shipments own).flatMap (Shipment.events operation.sweeps) ∧
    (shipments own).Pairwise (fun s later => s.failure? ≠ none →
      later.destination ≠ s.destination) ∧
    (∀ result, o.Returns operation during result →
      consignments own = (shipments own).map fun s => (s.destination, s.batch)) ∧
    (∀ log, o.Returns operation during (.ok (.drained log)) →
      log.lines = (consignments own).map (fun call => LogLine.delivered call.1 call.2.length) ∧
        log.warned = false ∧ events own = log.lines.map fun line => ⟨.debug, line⟩) ∧
    ∀ (desk : Desk) (handle source : ℕ), (desk.step (.extend handle source)).2 = [] := by
  intro o own
  have sound : o.Sound := made.sound.run before
  have stands : Stands o.flights operation.sweeps own (o.run (.start operation :: during)).1 :=
    (o.start_stands operation).run (sound.step (.start operation)) ongoing
  have at_end {result} (returned : o.Returns operation during result) :
      ∃ log errors, Balanced operation.sweeps own [] [] log errors ∧
        ∀ last, result = .ok (.drained last) → errors = [] ∧ last = log := by
    cases stands with
    | underway place kind balanced =>
      have same := returned.ended
      rw [place, List.length_append, List.length_cons] at same
      omega
    | halted ended balanced result_eq =>
      refine ⟨_, _, balanced, fun last drained => result_eq last ?_⟩
      rw [returned.last_own sound, drained]
  refine ⟨?_, ?_, ?_, ?_, fun desk handle source => ?_⟩
  · cases stands with
    | underway place kind balanced => exact balanced.events
    | halted ended balanced => exact balanced.events
  · cases stands with
    | underway place kind balanced => exact balanced.ordered
    | halted ended balanced => exact balanced.ordered
  · intro result returned
    obtain ⟨log, errors, balanced, -⟩ := at_end returned
    simpa using balanced.calls
  · intro log returned
    obtain ⟨log, errors, balanced, drained⟩ := at_end returned
    obtain ⟨none, rfl⟩ := drained _ rfl
    obtain ⟨well, rfl⟩ := balanced.logged none
    have calls := balanced.calls
    rw [List.append_nil] at calls
    refine ⟨?_, rfl, ?_⟩
    · rw [calls, List.map_map]
      rfl
    · rw [balanced.events, Log.ofShipments, List.map_map, List.map_eq_flatMap]
      exact List.flatMap_congr fun s among => Shipment.events_of_well (well s among) _
  · simp only [Desk.step]
    split <;> rfl

/-- A message waits for each of two destinations. -/
def twoWait : List (Input ℕ) := [.start (.send "a" (.ok 1)), .start (.send "b" (.ok 5))]

/-- While the first batch is in flight, another message joins its queue, and the other destination
is flushed; all calls go well. -/
def otherFlushed : List (Input ℕ) :=
  [.start (.send "a" (.ok 2)), .start (.flush "b"), .answer (.ok ⟨[⟨0, "x"⟩], []⟩),
    .answer (.ok ⟨[⟨0, "y"⟩], []⟩), .answer (.ok ⟨[⟨0, "z"⟩], []⟩)]

/-- The log has a line for each of the two calls for its destination, and none for the other. -/
theorem other_flush_not_in_log :
    let o := ((single ℕ).run twoWait).1
    let own := o.ownNotices (.flush "a") otherFlushed
    let line := LogLine.delivered "a" 1
    (single ℕ).Made 10 ∧ Ongoing o.flights.length (o.start (.flush "a")).1 otherFlushed ∧
      o.Returns (.flush "a") otherFlushed (.ok (.drained ⟨[line, line], false⟩)) ∧
      events own = [⟨.debug, line⟩, ⟨.debug, line⟩] := by
  have made : (single ℕ).Made 10 := .inl ⟨1, rfl⟩
  have ongoing : Ongoing 0 (((single ℕ).run twoWait).1.start (.flush "a")).1 otherFlushed := by
    decide
  have returned : ((single ℕ).run twoWait).1.Returns (.flush "a") otherFlushed
      (.ok (.drained ⟨[LogLine.delivered "a" 1, LogLine.delivered "a" 1], false⟩)) :=
    ⟨ongoing, by decide, by rfl⟩
  obtain ⟨-, -, -, logs, -⟩ := logs_account_for_calls made twoWait (.flush "a") ongoing
  obtain ⟨-, -, reported⟩ := logs _ returned
  exact ⟨made, ongoing, returned, reported⟩

end Outbox

end Dispatch
