import Dispatch.Outbox.Perform
import Dispatch.Proofs.Outbox.Flushing
import Dispatch.Proofs.Outbox.Load
import Mathlib.Algebra.GroupWithZero.Nat

/-!
# Operations at one go

When nothing is started while a batch is in flight, an operation is under way alone, and every
answer leaves it with fewer messages to hand over (`Outbox.due_settle_lt`). So as many answers as
there are messages always suffice, and how many are allowed does not matter
(`Outbox.deliver_eq_deliver`). What such an operation does can then be said flush by flush: the
flush of one destination is a loop of its own (`Outbox.flushed`), and flushing several is one such
loop after the other.

## Main definitions

* `Outbox.waitingFor`, `Outbox.due`: how many messages may still be handed over.
* `Outbox.Resting`: an outbox between operations.
* `Outbox.carried`: what the carrier makes of a step.
* `Outbox.flushed`: the flush of a destination, with nothing else in flight.

## Main statements

* `Outbox.deliver_eq_deliver`: enough answers bring an operation to its end.
* `Outbox.perform_ends`: an operation comes to its end and leaves nothing in flight.
* `Outbox.carried_proceed`: a flush at one go, and then what it was for.
* `Outbox.perform_flush`, `Outbox.perform_send`, `Outbox.carried_sweep`: operations, flush by flush.
-/
namespace Dispatch

open History

/-- All that is noticed of a batch when the carrier answers at once. -/
def Flight.told {μ : Type} (f : Flight μ) (answer : Answer) : List (Notice μ) :=
  .handed f.destination f.batch :: .answered f.destination f.batch answer ::
    (f.report answer).map .event

theorem Flight.calls_told {μ : Type} (f : Flight μ) (answer : Answer) (d : String) :
    handedTo (f.told answer) d = (if f.destination = d then [f.batch] else []) ∧
      shipmentsTo (f.told answer) d =
        if f.destination = d then [⟨f.destination, f.batch, answer⟩] else [] := by
  have parts : f.told answer = [.handed f.destination f.batch] ++
      ([.answered f.destination f.batch answer] ++ (f.report answer).map .event) := rfl
  rw [parts, handedTo_append, handedTo_append, shipmentsTo_append, shipmentsTo_append,
    handedTo_events, shipmentsTo_events, shipmentsTo_answered]
  by_cases same : f.destination = d <;> simp [same, handedTo, shipmentsTo, shipments,
    Notice.shipment?]

namespace Outbox

variable {σ μ : Type} {o : Outbox μ}

/-! ## How many messages are still to be handed over -/

/-- How many messages wait for the destinations of a list. -/
def waitingFor (o : Outbox μ) (plan : List String) : ℕ := (plan.map o.pending).sum

/-- How many messages the operations under way have in flight or may still hand over. -/
def due (o : Outbox μ) : ℕ :=
  (o.flights.map fun f => f.batch.length + o.waitingFor (f.destination :: f.purpose.rest)).sum

theorem due_of_grounded (grounded : o.flights = []) : o.due = 0 := by
  rw [due, grounded, List.map_nil, List.sum_nil]

theorem due_of_flying {f : Flight μ} (alone : o.flights = [f]) :
    o.due = f.batch.length + o.waitingFor (f.destination :: f.purpose.rest) := by
  rw [due, alone, List.map_singleton, List.sum_singleton]

@[simp] theorem waitingFor_cons (o : Outbox μ) (d : String) (plan : List String) :
    o.waitingFor (d :: plan) = o.pending d + o.waitingFor plan := by
  simp [waitingFor]

theorem waitingFor_le_of_suffix {plan rest : List String} (planned : rest <:+ plan) :
    o.waitingFor rest ≤ o.waitingFor plan := by
  obtain ⟨first, rfl⟩ := planned
  simp [waitingFor]

theorem waitingFor_congr {o' : Outbox μ} {plan : List String}
    (same : ∀ d ∈ plan, o'.queue d = o.queue d) : o'.waitingFor plan = o.waitingFor plan := by
  refine congrArg List.sum (List.map_congr_left fun d hd => ?_)
  rw [pending, same d hd, pending]

/-- What waits for other destinations does not depend on a queue. -/
theorem waitingFor_setQueue {d : String} {plan : List String} (other : d ∉ plan) (ms : List μ) :
    (o.setQueue d ms).waitingFor plan = o.waitingFor plan :=
  waitingFor_congr fun _ hd' => queue_setQueue_of_ne o ms fun same => other (same ▸ hd')

/-- Messages that wait for different destinations are different messages. -/
theorem waitingFor_le_load (o : Outbox μ) {plan : List String} (once : plan.Nodup) :
    o.waitingFor plan + o.flying.length ≤ o.load := by
  induction plan generalizing o with
  | nil => simp [waitingFor, load]
  | cons d plan ih =>
    obtain ⟨other, later⟩ := List.nodup_cons.1 once
    -- without the messages for the first destination the others are as many
    have emptied := o.load_setQueue d []
    have rest := ih (o.setQueue d []) later
    rw [waitingFor_setQueue other] at rest
    have flying : (o.setQueue d []).flying = o.flying := rfl
    rw [flying] at rest
    rw [waitingFor_cons, pending]
    rw [List.length_nil] at emptied
    omega

/-- One operation is under way at most. -/
theorem grounded_or_flying (alone : o.flights.length ≤ 1) :
    o.flights = [] ∨ ∃ f, o.flights = [f] := by
  match o.flights, alone with
  | [], _ => exact .inl rfl
  | [f], _ => exact .inr ⟨f, rfl⟩

/-- What is due then never exceeds the load. -/
theorem due_le_load (sound : o.Sound) (alone : o.flights.length ≤ 1) : o.due ≤ o.load := by
  rcases grounded_or_flying alone with grounded | ⟨f, flying⟩
  · simp [due_of_grounded grounded]
  · have once := sound.planned f (by simp [flying])
    have few := o.waitingFor_le_load once
    have batch : o.flying.length = f.batch.length := by simp [Outbox.flying, flying]
    rw [due_of_flying flying]
    omega

theorem due_pos (sound : o.Sound) {f : Flight μ} (flying : o.flights = [f]) : 0 < o.due := by
  have batch := List.length_pos_iff.2 (sound.loaded f (by simp [flying])).1
  rw [due_of_flying flying]
  omega

/-- The messages that wait for a destination are due when its first batch leaves. -/
theorem due_handOver (grounded : o.flights = []) {d : String} (log : Log) {purpose : Purpose μ}
    (once : (d :: purpose.rest).Nodup) :
    (o.handOver d log purpose).1.due = o.waitingFor (d :: purpose.rest) := by
  have flying : (o.handOver d log purpose).1.flights =
      [⟨d, (o.queue d).take o.batchSize, log, purpose⟩] := by
    rw [flights_handOver, grounded]
  have parts := congrArg List.length (List.take_append_drop o.batchSize (o.queue d))
  have left : (o.handOver d log purpose).1.pending d = ((o.queue d).drop o.batchSize).length := by
    rw [pending, queue_handOver, if_pos rfl]
  have rest : (o.handOver d log purpose).1.waitingFor purpose.rest =
      o.waitingFor purpose.rest := waitingFor_setQueue (List.nodup_cons.1 once).1 _
  rw [due_of_flying flying, waitingFor_cons, waitingFor_cons, left, rest, pending]
  rw [List.length_append] at parts
  dsimp only
  omega

/-- When a step comes to rest, no more is due than waits for the destinations ahead. -/
theorem Halts.due_le {next : Outbox μ} {plan : List String} {notices : List (Notice μ)}
    (h : Halts o plan notices next) (grounded : o.flights = []) (once : plan.Nodup) :
    next.due ≤ o.waitingFor plan := by
  induction h with
  | event e later ih => exact ih
  | finished | blocked => simp [due_of_grounded grounded]
  | @queued d m room =>
    have still : (o.push d m).flights = [] := grounded
    simp [due_of_grounded still]
  | @handed d log purpose idle waiting planned =>
    rw [due_handOver grounded log (once.sublist planned.sublist)]
    exact waitingFor_le_of_suffix planned

/-- **Every answer leaves less to be handed over.** -/
theorem due_settle_lt (sound : o.Sound) {f : Flight μ} (alone : o.flights = [f])
    (answer : Answer) : (o.settle answer).1.due < o.due := by
  have once := sound.planned f (by simp [alone])
  obtain ⟨some, -⟩ := sound.loaded f (by simp [alone])
  have batch := List.length_pos_iff.2 some
  rw [due_of_flying alone, waitingFor_cons]
  by_cases ends : o.endsFlush f.destination (.answer answer)
  · -- what comes next is for other destinations, whose queues are as they were
    obtain ⟨g, outer, notices, top, -, -, halts⟩ := settle_of_endsFlush ends
    obtain ⟨rfl, rfl⟩ := List.cons.inj (top.symm.trans alone)
    obtain ⟨other, later⟩ := List.nodup_cons.1 once
    have grounded : (o.noted (.answer answer)).flights = [] := by
      rw [flights_noted, below, alone, List.tail_cons]
    have same : (o.noted (.answer answer)).waitingFor g.purpose.rest =
        o.waitingFor g.purpose.rest := by
      refine waitingFor_congr fun d hd => ?_
      simp only [noted, alone]
      exact queue_reclaim_of_ne _ answer fun same => other (same ▸ hd)
    have few := halts.due_le grounded later
    omega
  · have goes_on : o.endsFlush f.destination (.answer answer) = false := by simpa using ends
    have grounded : ({ o with flights := [] } : Outbox μ).flights = [] := rfl
    have same : ({ o with flights := [] } : Outbox μ).waitingFor (f.destination :: f.purpose.rest) =
        o.waitingFor (f.destination :: f.purpose.rest) := waitingFor_congr fun _ _ => rfl
    rw [settle_of_goes_on alone goes_on, due_handOver grounded f.written once, same,
      waitingFor_cons]
    omega

/-! ## Enough answers -/

/-- Between operations: what holds of every outbox, and nothing in flight. A new outbox is like
this, and so is what an operation that is carried to its end leaves (`perform_ends`). -/
structure Resting (o : Outbox μ) : Prop where
  sound : o.Sound
  grounded : o.flights = []

theorem Resting.idle (h : o.Resting) (d : String) : o.isBusy d = false := by
  simp [isBusy, h.grounded]

theorem Resting.setQueue (h : o.Resting) (d : String) (ms : List μ) :
    (o.setQueue d ms).Resting := ⟨h.sound.setQueue d ms, h.grounded⟩

/-- An outbox may take no more messages. -/
theorem Resting.closed (h : o.Resting) : ({ o with closed := true } : Outbox μ).Resting :=
  ⟨h.sound.noted (.start .close), h.grounded⟩

theorem resting_new {limit size : ℕ} (made : create? limit size = .ok o) : o.Resting :=
  ⟨sound_new made, (empty_of_create? made).2.1⟩

variable (carrier : Carrier σ μ)

/-- A step with nothing below it leaves one operation under way at most, and when it leaves none,
the operation is over. -/
theorem alone_step (sound : o.Sound) {input : Input μ} (grounded : o.below input = [])
    (asked : ∀ answer, input = .answer answer → o.flights ≠ []) :
    (o.step input).1.flights.length ≤ 1 ∧
      ((o.step input).1.flights = [] →
        ∃ result, (o.step input).2.getLast? = some (.finished result)) := by
  refine ⟨?_, finished_of_grounded sound.exclusive asked⟩
  rcases step_ending sound.exclusive asked with ⟨same, -⟩ | ⟨f', top, -⟩
  · simp [same, grounded]
  · simp [top, grounded]

theorem alone_settle (sound : o.Sound) {f : Flight μ} (alone : o.flights = [f])
    (answer : Answer) :
    (o.settle answer).1.flights.length ≤ 1 ∧
      ((o.settle answer).1.flights = [] →
        ∃ result, (o.settle answer).2.getLast? = some (.finished result)) := by
  have grounded : o.below (.answer answer) = [] := by rw [below, alone, List.tail_cons]
  exact alone_step sound grounded (by simp [alone])

/-- **How many answers are allowed does not matter** when there are enough of them for what is
due: then nothing is in flight at the end. -/
theorem deliver_eq_deliver (sound : o.Sound) (alone : o.flights.length ≤ 1) {calls more : ℕ}
    (enough : o.due ≤ calls) (enough' : o.due ≤ more) (state : σ) :
    (deliver carrier calls o state).1.flights = [] ∧
      deliver carrier more o state = deliver carrier calls o state := by
  induction calls generalizing o more state with
  | zero =>
    rcases grounded_or_flying alone with grounded | ⟨f, flying⟩
    · cases more <;> simp [deliver, grounded]
    · exact absurd (Nat.lt_of_lt_of_le (due_pos sound flying) enough) (Nat.lt_irrefl 0)
  | succ calls ih =>
    rcases grounded_or_flying alone with grounded | ⟨f, flying⟩
    · cases more <;> simp [deliver, grounded]
    obtain ⟨more, rfl⟩ : ∃ less, more = less + 1 := by
      have some := due_pos sound flying
      exact Nat.exists_eq_succ_of_ne_zero (by omega)
    rcases said : carrier.sendBatch f.destination f.batch state with ⟨answer, next⟩
    have less := due_settle_lt sound flying answer
    have kept : (o.settle answer).1.Sound := sound.step (.answer answer)
    have less_than : (o.settle answer).1.due ≤ calls := by omega
    have less_than' : (o.settle answer).1.due ≤ more := by omega
    obtain ⟨ended, same⟩ :=
      ih kept (alone_settle sound flying answer).1 less_than less_than' next
    simp [deliver, consult, flying, said, ended, same]

/-- What was noticed before. -/
def after (earlier : List (Notice μ)) (last : Outbox μ × List (Notice μ) × σ) :
    Outbox μ × List (Notice μ) × σ := (last.1, earlier ++ last.2.1, last.2.2)

/-- What the carrier makes of a step, when it answers for all that is in flight. -/
def carried (step : Outbox μ × List (Notice μ)) (state : σ) : Outbox μ × List (Notice μ) × σ :=
  after step.2 (deliver carrier step.1.load step.1 state)

theorem perform_eq_carried (operation : Operation μ) (o : Outbox μ) (state : σ) :
    perform carrier operation o state = carried carrier (o.start operation) state := rfl

theorem carried_append (next : Outbox μ) (earlier notices : List (Notice μ)) (state : σ) :
    carried carrier (next, earlier ++ notices) state =
      after earlier (carried carrier (next, notices) state) := by
  simp [carried, after]

theorem after_after (h k : List (Notice μ)) (last : Outbox μ × List (Notice μ) × σ) :
    after h (after k last) = after (h ++ k) last := by
  simp [after]

theorem carried_of_grounded {step : Outbox μ × List (Notice μ)} (grounded : step.1.flights = [])
    (state : σ) : carried carrier step state = (step.1, step.2, state) := by
  have none : deliver carrier step.1.load step.1 state = (step.1, [], state) := by
    cases step.1.load <;> simp [deliver, grounded]
  simp [carried, after, none]

/-- The carrier answers for the batch in flight, and goes on. -/
theorem carried_of_flying {step : Outbox μ × List (Notice μ)} (sound : step.1.Sound)
    {f : Flight μ} (alone : step.1.flights = [f]) (state : σ) :
    carried carrier step state =
      let (answer, next) := carrier.sendBatch f.destination f.batch state
      after step.2 (carried carrier (step.1.settle answer) next) := by
  obtain ⟨o, notices⟩ := step
  dsimp only at sound alone ⊢
  rcases said : carrier.sendBatch f.destination f.batch state with ⟨answer, next⟩
  have enough := due_le_load sound (by simp [alone])
  have less := due_settle_lt sound alone answer
  have kept : (o.settle answer).1.Sound := sound.step (.answer answer)
  have few := (alone_settle sound alone answer).1
  obtain ⟨calls, load_eq⟩ : ∃ calls, o.load = calls + 1 :=
    Nat.exists_eq_succ_of_ne_zero (by omega)
  have same := (deliver_eq_deliver carrier kept few (due_le_load kept few)
    (show _ ≤ calls by omega) next).2
  simp only [carried, load_eq, deliver, alone, consult, said, List.isEmpty_cons,
    Bool.false_eq_true, if_false, same, after]

/-- **Carried to its end, an operation leaves nothing in flight and gives a result.** -/
theorem carried_ends {step : Outbox μ × List (Notice μ)} (sound : step.1.Sound)
    (alone : step.1.flights.length ≤ 1)
    (finishes : step.1.flights = [] → ∃ result, step.2.getLast? = some (.finished result))
    (state : σ) :
    (carried carrier step state).1.Resting ∧
      ∃ result, (carried carrier step state).2.1.getLast? = some (.finished result) := by
  induction left : step.1.due using Nat.strongRecOn generalizing step state with
  | ind n ih =>
    rcases grounded_or_flying alone with grounded | ⟨f, flying⟩
    · rw [carried_of_grounded carrier grounded]
      exact ⟨⟨sound, grounded⟩, finishes grounded⟩
    · rcases said : carrier.sendBatch f.destination f.batch state with ⟨answer, next⟩
      have less := due_settle_lt sound flying answer
      obtain ⟨few, ended⟩ := alone_settle sound flying answer
      obtain ⟨rest, result, last⟩ :=
        ih _ (left ▸ less) (sound.step (.answer answer)) few ended next rfl
      rw [carried_of_flying carrier sound flying, said]
      exact ⟨rest, result, getLast?_append_of_getLast? last⟩

theorem perform_ends (rest : o.Resting) (operation : Operation μ) (state : σ) :
    (perform carrier operation o state).1.Resting ∧
      ∃ result, (perform carrier operation o state).2.1.getLast? = some (.finished result) := by
  have below : o.below (.start operation) = [] := rest.grounded
  obtain ⟨few, finishes⟩ := alone_step rest.sound below (by simp)
  exact carried_ends carrier (rest.sound.step (.start operation)) few finishes state

/-! ## A flush at one go -/

/-- The first batch of the flush of a destination. -/
def firstBatch (o : Outbox μ) (d : String) (log : Log) : Flight μ :=
  ⟨d, (o.queue d).take o.batchSize, log, .flush⟩

/-- The outbox without the first batch. -/
def taken (o : Outbox μ) (d : String) : Outbox μ := o.setQueue d ((o.queue d).drop o.batchSize)

theorem pending_taken_lt {d : String} (waiting : o.queue d ≠ []) :
    (o.taken d).pending d < o.pending d := by
  have some := List.length_pos_iff.2 waiting
  have pos := o.batchSize_pos
  rw [pending, taken, queue_setQueue_self, List.length_drop, pending]
  omega

/-- What the flush of a destination comes to. -/
structure Flushed (σ μ : Type) where
  outbox : Outbox μ
  notices : List (Notice μ)
  state : σ
  result : Except Error Log

/-- The flush of a destination with nothing in flight: batch by batch, until the queue is empty or
an answer ends it. -/
def flushed (d : String) (o : Outbox μ) (log : Log) (state : σ) : Flushed σ μ :=
  if o.queue d = [] then ⟨o, [], state, .ok log⟩
  else
    let f := o.firstBatch d log
    let (answer, next) := carrier.sendBatch d f.batch state
    match f.result answer with
    | .ok written =>
      let rest := flushed d (o.taken d) written next
      { rest with notices := f.told answer ++ rest.notices }
    | .error e => ⟨(o.taken d).reclaim f answer, f.told answer, next, .error e⟩
termination_by o.pending d
decreasing_by exact pending_taken_lt ‹_›

variable {d : String}

/-- The first batch, the answer, and what follows from it. -/
theorem flushed_of_waiting (waiting : o.queue d ≠ []) {log : Log} {answer : Answer}
    {state next : σ}
    (said : carrier.sendBatch d (o.firstBatch d log).batch state = (answer, next)) :
    flushed carrier d o log state =
      match (o.firstBatch d log).result answer with
      | .ok written =>
        let rest := flushed carrier d (o.taken d) written next
        { rest with notices := (o.firstBatch d log).told answer ++ rest.notices }
      | .error e =>
        ⟨(o.taken d).reclaim (o.firstBatch d log) answer, (o.firstBatch d log).told answer, next,
          .error e⟩ := by
  rw [flushed, if_neg waiting]
  simp only [said]

/-- After an answer the flush goes on, or what it was for. -/
theorem land_eq (o : Outbox μ) (f : Flight μ) (answer : Answer) :
    o.land f answer =
      let (next, notices) :=
        match f.result answer with
        | .ok written => o.proceed f.destination written f.purpose
        | .error e => (o.reclaim f answer).resume f.destination (.error e) f.purpose
      (next, (f.report answer).map .event ++ notices) := by
  cases answer with
  | error e => rfl
  | ok receipt =>
    by_cases clean : receipt.refused = []
    · simp [land, Flight.result, Flight.report, clean, Flight.written]
    · simp only [land, reclaim, Flight.result, Flight.report, Receipt.isClean_iff, clean, if_false,
        List.map_map]
      rfl

/-- The answer for the first batch is taken by the outbox that is left. -/
theorem settle_handOver (grounded : o.flights = []) (log : Log) (purpose : Purpose μ)
    (answer : Answer) :
    (o.handOver d log purpose).1.settle answer =
      let (next, notices) := (o.taken d).land ⟨d, (o.queue d).take o.batchSize, log, purpose⟩ answer
      (next, .answered d ((o.queue d).take o.batchSize) answer :: notices) := by
  have landed : ({ (o.handOver d log purpose).1 with flights := [] } : Outbox μ) = o.taken d := by
    simp [taken, handOver, setQueue, grounded]
  rw [settle, flights_handOver, grounded]
  simp only [landed]

/-- A batch is handed over and answered for, and then the answer decides what follows. -/
theorem carried_proceed_of_waiting (rest : o.Resting) {log : Log} {purpose : Purpose μ}
    (once : (d :: purpose.rest).Nodup) {state next : σ} {answer : Answer} (waiting : o.queue d ≠ [])
    (said : carrier.sendBatch d (o.firstBatch d log).batch state = (answer, next)) :
    carried carrier (o.proceed d log purpose) state =
      after ((o.firstBatch d log).told answer) (carried carrier
        (match (o.firstBatch d log).result answer with
          | .ok written => (o.taken d).proceed d written purpose
          | .error e =>
            ((o.taken d).reclaim (o.firstBatch d log) answer).resume d (.error e) purpose)
        next) := by
  have more : ¬(o.queue d).isEmpty := by simpa using waiting
  have kept := (Halts.handed log purpose (rest.idle d) waiting (List.suffix_refl _)).sound
    rest.sound once
  have flying : (o.handOver d log purpose).1.flights =
      [⟨d, (o.queue d).take o.batchSize, log, purpose⟩] := by
    rw [flights_handOver, rest.grounded]
  have asked : carrier.sendBatch d ((o.queue d).take o.batchSize) state = (answer, next) := said
  rw [proceed, if_neg more, carried_of_flying carrier kept flying]
  simp only [asked, settle_handOver rest.grounded, land_eq]
  rw [← List.cons_append, carried_append, after_after]
  rfl

/-- **A flush at one go, and then what it was for**: this is what the carrier makes of a flush with
nothing else in flight. -/
theorem carried_proceed (rest : o.Resting) (log : Log) {purpose : Purpose μ}
    (once : (d :: purpose.rest).Nodup) (state : σ) :
    carried carrier (o.proceed d log purpose) state =
      let r := flushed carrier d o log state
      after r.notices (carried carrier (r.outbox.resume d r.result purpose) r.state) := by
  fun_induction flushed carrier d o log state with
  | case1 o log state empty =>
    rw [proceed, if_pos (List.isEmpty_iff.2 empty)]
    rfl
  | case2 o log state waiting f answer next said written well later ih =>
    rw [carried_proceed_of_waiting carrier rest once waiting said, well]
    dsimp only
    rw [ih (rest.setQueue d _), after_after]
  | case3 o log state waiting f answer next said e failed =>
    rw [carried_proceed_of_waiting carrier rest once waiting said, failed]

/-! ## What a flush at one go leaves alone -/

/-- What replacing the queue of the destination keeps, and asking the carrier for it, its flush
keeps. -/
theorem flushed_invariant {P : Outbox μ → σ → Prop}
    (replaced : ∀ o ms state, P o state → P (o.setQueue d ms) state)
    (asked : ∀ o batch state, P o state → P o (carrier.sendBatch d batch state).2)
    (log : Log) {state : σ} (start : P o state) :
    P (flushed carrier d o log state).outbox (flushed carrier d o log state).state := by
  fun_induction flushed carrier d o log state with
  | case1 => exact start
  | case2 o log state waiting f answer next said written well later ih =>
    have before := asked o f.batch state start
    rw [said] at before
    exact ih (replaced o _ next before)
  | case3 o log state waiting f answer next said e failed =>
    have before := asked o f.batch state start
    rw [said] at before
    have left : P (o.taken d) next := replaced o _ next before
    cases answer with
    | error e => exact replaced _ _ _ left
    | ok receipt =>
      simp only [reclaim]
      split
      · exact left
      · exact replaced _ _ _ left

theorem flushed_resting (rest : o.Resting) (log : Log) (state : σ) :
    (flushed carrier d o log state).outbox.Resting :=
  flushed_invariant carrier (P := fun o _ => o.Resting) (fun _ _ _ h => h.setQueue _ _)
    (fun _ _ _ h => h) log rest

/-- The carrier is asked for no other destination. -/
theorem flushed_silent {d' : String} (other : d' ≠ d) (log : Log) (state : σ) :
    handedTo (flushed carrier d o log state).notices d' = [] ∧
      shipmentsTo (flushed carrier d o log state).notices d' = [] := by
  have quiet {f : Flight μ} (here : f.destination = d) (answer : Answer) :
      handedTo (f.told answer) d' = [] ∧ shipmentsTo (f.told answer) d' = [] := by
    have elsewhere : f.destination ≠ d' := here ▸ Ne.symm other
    obtain ⟨handed, shipped⟩ := f.calls_told answer d'
    rw [handed, shipped, if_neg elsewhere, if_neg elsewhere]
    exact ⟨rfl, rfl⟩
  fun_induction flushed carrier d o log state with
  | case1 => exact ⟨rfl, rfl⟩
  | case2 o log state waiting f answer next said written well later ih =>
    obtain ⟨handed, shipped⟩ := quiet (f := f) rfl answer
    rw [handedTo_append, shipmentsTo_append, handed, shipped]
    exact ih
  | case3 o log state waiting f answer next said e failed => exact quiet rfl answer

/-! ## Operations, flush by flush -/

theorem perform_flush (rest : o.Resting) (state : σ) :
    perform carrier (.flush d) o state =
      let r := flushed carrier d o .empty state
      (r.outbox, r.notices ++ [.finished (r.result.map .drained)], r.state) := by
  rw [perform_eq_carried, start, beginFlush, if_neg (by simp [rest.idle]),
    carried_proceed carrier rest _ (List.nodup_singleton d)]
  exact congrArg (after _)
    (carried_of_grounded carrier (flushed_resting carrier rest .empty state).grounded _)

/-- The flush that a message waits for, if its queue is full. -/
def roomMade (d : String) (o : Outbox μ) (state : σ) : Flushed σ μ :=
  if o.batchSize ≤ o.pending d then flushed carrier d o .empty state
  else ⟨o, [], state, .ok .empty⟩

/-- A message is refused, or it joins its queue when there is room for it. -/
theorem perform_send (rest : o.Resting) (message : Except EncodingError μ) (state : σ) :
    perform carrier (.send d message) o state =
      if o.closed then (o, [.finished (.error (.closed d))], state)
      else match message with
        | .error cause => (o, [.finished (.error (.encoding cause))], state)
        | .ok m =>
          let r := roomMade carrier d o state
          let last := r.outbox.resume d r.result (.send m)
          (last.1, r.notices ++ last.2, r.state) := by
  simp only [perform_eq_carried, start, roomMade]
  split
  · exact carried_of_grounded carrier rest.grounded state
  · cases message with
    | error cause => exact carried_of_grounded carrier rest.grounded state
    | ok m =>
      dsimp only
      split
      · have down := (flushed_resting carrier rest (d := d) .empty state).grounded
        rw [beginFlush, if_neg (by simp [rest.idle]),
          carried_proceed carrier rest _ (List.nodup_singleton d)]
        refine congrArg (after _) (carried_of_grounded carrier ?_ _)
        cases (flushed carrier d o .empty state).result <;> exact down
      · exact carried_of_grounded carrier rest.grounded state

theorem performAll_cons (operation : Operation μ) (operations : List (Operation μ))
    (o : Outbox μ) (state : σ) :
    performAll carrier (operation :: operations) o state =
      let r := perform carrier operation o state
      after r.2.1 (performAll carrier operations r.1 r.2.2) := rfl

/-- The flushes of several destinations begin like the flush of the first. -/
theorem sweep_cons (rest : o.Resting) (d : String) (ds : List String) (log : Log)
    (errors : List Error) :
    o.sweep (d :: ds) log errors = o.proceed d .empty (.sweep ds log errors) := by
  simp only [sweep, rest.idle, Bool.false_eq_true, if_false, proceed, resume, Log.append_empty]

/-- After the first flush the others follow, whatever became of it. -/
theorem resume_sweep (o : Outbox μ) (d : String) (result : Except Error Log) (ds : List String)
    (log : Log) (errors : List Error) :
    ∃ (events : List Event) (log' : Log) (errors' : List Error),
      o.resume d result (.sweep ds log errors) =
        ((o.sweep ds log' errors').1, events.map .event ++ (o.sweep ds log' errors').2) := by
  cases result with
  | ok flushed => exact ⟨[], log.append flushed, errors, rfl⟩
  | error e =>
    let line := LogLine.notFlushed d e
    exact ⟨[⟨.warning, line⟩], log.write .warning line, errors ++ [e], rfl⟩

/-- **Flushing several destinations is flushing them one by one**: it leaves the same outbox and
asks the carrier for the same. -/
theorem carried_sweep (rest : o.Resting) {ds : List String} (once : ds.Nodup) (log : Log)
    (errors : List Error) (state : σ) :
    let r := carried carrier (o.sweep ds log errors) state
    let each := performAll carrier (ds.map .flush) o state
    r.1 = each.1 ∧ r.2.2 = each.2.2 ∧
      ∀ d, handedTo r.2.1 d = handedTo each.2.1 d ∧
        shipmentsTo r.2.1 d = shipmentsTo each.2.1 d := by
  induction ds generalizing o log errors state with
  | nil =>
    rw [sweep, carried_of_grounded carrier rest.grounded]
    exact ⟨rfl, rfl, fun d => ⟨rfl, rfl⟩⟩
  | cons d ds ih =>
    have still := flushed_resting carrier rest (d := d) .empty state
    rw [sweep_cons rest, carried_proceed carrier rest _ once, List.map_cons, performAll_cons,
      perform_flush carrier rest]
    generalize flushed carrier d o .empty state = r at still ⊢
    obtain ⟨events, log', errors', followed⟩ := resume_sweep r.outbox d r.result ds log errors
    obtain ⟨same, remembered, calls⟩ := ih still (List.nodup_cons.1 once).2 log' errors' r.state
    dsimp only
    rw [followed, carried_append, after_after]
    refine ⟨same, remembered, fun d' => ?_⟩
    obtain ⟨handed, shipped⟩ := calls d'
    simp only [after, handedTo_append, shipmentsTo_append, handedTo_events, shipmentsTo_events,
      handedTo_finished, shipmentsTo_finished, List.append_nil, handed, shipped, and_self]

end Outbox

end Dispatch
