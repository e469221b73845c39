import Dispatch.Proofs.Outbox.Trace

/-!
# How a step comes to rest

A step takes note of its input: an operation that starts may close the outbox, and an answer
puts back what it leaves of the latest batch. Then it reports events, and comes to rest in one
of four ways (`Outbox.Halts`): the operation is over, its message joins a queue, it would have
to wait and is given up, or it hands over a batch. The flights below the step are as it found
them, and at most one new flight lies on top of them. So operations are nested, and one that
is under way keeps its place in the stack until it is over (`Outbox.Ongoing.invariant`).

## Main definitions

* `Outbox.below`, `Outbox.noted`, `Outbox.heard`, `Outbox.ahead`: what a step leaves alone,
  where it starts from, what it notices first, and the destinations it may come to flush.
* `Outbox.Halts`: how a step comes to rest.
* `Outbox.Ongoing`, `Outbox.Returns`: an operation that is under way, and one that is over.

## Main statements

* `Outbox.step_cases`: every step takes note of its input and comes to rest.
* `Outbox.outstanding_step`: what a step does to the messages still to be delivered.
* `Outbox.Sound.run`: what holds of the queues and the flights after any history.
* `Outbox.Ongoing.invariant`, `Outbox.Returns.invariant`: what every answer to an operation and
  every step above it keep, holds until the operation is over.
-/
namespace Dispatch

open History

variable {μ : Type}

/-- The destinations to be flushed after the one whose flush this is. -/
def Purpose.rest : Purpose μ → List String
  | sweep rest _ _ => rest
  | _ => []

namespace Outbox

/-- The flights that a step leaves alone: all of them when an operation starts, all but the
latest when the carrier answers. -/
def below (o : Outbox μ) : Input μ → List (Flight μ)
  | .start _ => o.flights
  | .answer _ => o.flights.tail

/-- The outbox when a step has taken note of its input. -/
def noted (o : Outbox μ) : Input μ → Outbox μ
  | .start .close => { o with closed := true }
  | .start _ => o
  | .answer answer =>
    match o.flights with
    | [] => o
    | f :: outer => ({ o with flights := outer } : Outbox μ).reclaim f answer

/-- The first notice of a step: the answer, if the carrier was asked. -/
def heard (o : Outbox μ) : Input μ → List (Notice μ)
  | .start _ => []
  | .answer answer =>
    match o.flights with
    | [] => []
    | f :: _ => [.answered f.destination f.batch answer]

/-- The destinations that a step may come to flush, in this order. -/
def ahead (o : Outbox μ) : Input μ → List String
  | .start (.send d _) => [d]
  | .start (.flush d) => [d]
  | .start .flushAll => o.destinations
  | .start .close => o.destinations
  | .answer _ =>
    match o.flights with
    | [] => []
    | f :: _ => f.destination :: f.purpose.rest

/-- Events, and then the last act of a step: the operation is over, its message joins a queue,
it is given up, or a batch leaves. The batch is for one of the destinations ahead, and those
after it are still to come. -/
inductive Halts (o : Outbox μ) (plan : List String) : List (Notice μ) → Outbox μ → Prop
  | event (e : Event) {notices : List (Notice μ)} {next : Outbox μ}
      (later : Halts o plan notices next) : Halts o plan (.event e :: notices) next
  | finished {result : Except Error Outcome} (other : result ≠ .ok .queued) :
      Halts o plan [.finished result] o
  | queued {d : String} (m : μ) (room : o.pending d < o.batchSize) :
      Halts o plan [.queued d m, .finished (.ok .queued)] (o.push d m)
  | blocked {d : String} (busy : o.isBusy d = true) : Halts o plan [.blocked d] o
  | handed {d : String} (log : Log) (purpose : Purpose μ) (idle : o.isBusy d = false)
      (waiting : o.queue d ≠ []) (planned : d :: purpose.rest <:+ plan) :
      Halts o plan (o.handOver d log purpose).2 (o.handOver d log purpose).1

/-! ## Every step comes to rest -/

variable {o next : Outbox μ} {plan : List String} {notices : List (Notice μ)}

theorem Halts.events (h : Halts o plan notices next) (es : List Event) :
    Halts o plan (es.map .event ++ notices) next := by
  induction es with
  | nil => exact h
  | cons e es ih => exact .event e ih

theorem sweep_halts (o : Outbox μ) {ds : List String} (planned : ds <:+ plan) (log : Log)
    (errors : List Error) :
    Halts o plan (o.sweep ds log errors).2 (o.sweep ds log errors).1 := by
  induction ds with
  | nil =>
    refine .finished ?_
    match errors with
    | [] | [_] | _ :: _ :: _ => simp [conclude]
  | cons d rest ih =>
    simp only [sweep]
    split
    · next busy => exact .blocked busy
    · next idle =>
      split
      · exact ih ((List.suffix_cons d rest).trans planned)
      · next waiting =>
        exact .handed _ _ (by simpa using idle) (by simpa using waiting) planned

theorem resume_halts (o : Outbox μ) (d : String) (result : Except Error Log)
    {purpose : Purpose μ} (planned : purpose.rest <:+ plan)
    (room : ∀ log, result = .ok log → o.pending d < o.batchSize) :
    Halts o plan (o.resume d result purpose).2 (o.resume d result purpose).1 := by
  cases purpose with
  | flush =>
    refine .finished ?_
    cases result <;> simp [Except.map]
  | send m =>
    cases result with
    | error e => exact .finished (by simp)
    | ok log => exact .queued m (room log rfl)
  | sweep rest log errors =>
    cases result with
    | error e => exact .event _ (o.sweep_halts planned _ _)
    | ok flushed => exact o.sweep_halts planned _ _

theorem proceed_halts (o : Outbox μ) {d : String} (log : Log) {purpose : Purpose μ}
    (idle : o.isBusy d = false) (planned : d :: purpose.rest <:+ plan) :
    Halts o plan (o.proceed d log purpose).2 (o.proceed d log purpose).1 := by
  simp only [proceed]
  split
  · next empty =>
    refine o.resume_halts d _ ((List.suffix_cons d _).trans planned) fun _ _ => ?_
    simpa [pending, List.isEmpty_iff.1 empty] using o.batchSize_pos
  · next waiting => exact .handed _ _ idle (by simpa using waiting) planned

theorem beginFlush_halts (o : Outbox μ) {d : String} {purpose : Purpose μ}
    (planned : d :: purpose.rest <:+ plan) :
    Halts o plan (o.beginFlush d purpose).2 (o.beginFlush d purpose).1 := by
  simp only [beginFlush]
  split
  · next busy => exact .blocked busy
  · next idle => exact o.proceed_halts _ (by simpa using idle) planned

theorem start_halts (o : Outbox μ) (operation : Operation μ) :
    Halts (o.noted (.start operation)) (o.ahead (.start operation)) (o.start operation).2
      (o.start operation).1 := by
  cases operation with
  | send d message =>
    simp only [start]
    split
    · exact .finished (by simp)
    · cases message with
      | error cause => exact .finished (by simp)
      | ok m =>
        dsimp only
        split
        · exact o.beginFlush_halts (List.suffix_refl _)
        · next room =>
          exact o.resume_halts d _ (List.nil_suffix) fun _ _ => by simpa using room
  | flush d => exact o.beginFlush_halts (List.suffix_refl _)
  | flushAll => exact o.sweep_halts (List.suffix_refl _) _ _
  | close => exact sweep_halts { o with closed := true } (List.suffix_refl _) _ _

/-- After an answer the flush of the batch goes on or ends. -/
theorem land_halts {o : Outbox μ} (f : Flight μ) (idle : o.isBusy f.destination = false)
    (answer : Answer) :
    Halts (o.reclaim f answer) (f.destination :: f.purpose.rest) (o.land f answer).2
      (o.land f answer).1 := by
  have after : f.purpose.rest <:+ f.destination :: f.purpose.rest := List.suffix_cons _ _
  cases answer with
  | error e => exact .event _ (resume_halts _ _ _ after (by simp))
  | ok receipt =>
    simp only [reclaim, land, Receipt.isClean_iff]
    split
    · exact .event _ (o.proceed_halts _ idle (List.suffix_refl _))
    · have rest := resume_halts (o.restore f.destination (receipt.undelivered f.batch))
        f.destination (.error (.batchFailed f.destination f.batch.length receipt.refused))
        after (by simp)
      have all := rest.events
        (receipt.refused.map fun r => ⟨.warning, LogLine.refused f.destination r⟩)
      rw [List.map_map] at all
      exact all

/-- **Every step takes note of its input and comes to rest**, unless the carrier answers with
nothing in flight. -/
theorem step_cases (h : o.Exclusive) (input : Input μ) :
    (o.step input = (o, []) ∧ o.flights = [] ∧ ∃ answer, input = .answer answer) ∨
    ∃ notices, (o.step input).2 = o.heard input ++ notices ∧
      Halts (o.noted input) (o.ahead input) notices (o.step input).1 := by
  cases input with
  | start operation => exact .inr ⟨_, rfl, o.start_halts operation⟩
  | answer answer =>
    cases top : o.flights with
    | nil => exact .inl ⟨by simp [step, settle, top], rfl, answer, rfl⟩
    | cons f outer =>
      have landing := land_halts f (h.idle_outer top) answer
      refine .inr ⟨(({ o with flights := outer } : Outbox μ).land f answer).2, ?_, ?_⟩
      · simp [step, settle, heard, top]
      · simpa only [step, settle, noted, ahead, top] using landing

@[simp] theorem flights_noted (o : Outbox μ) (input : Input μ) :
    (o.noted input).flights = o.below input := by
  cases input with
  | start operation => cases operation <;> rfl
  | answer answer =>
    simp only [noted, below]
    cases top : o.flights with
    | nil => exact top
    | cons f outer => simp

/-- A flight that a step does not answer for stays where it is. -/
theorem exists_below {f : Flight μ} {inner outer : List (Flight μ)}
    (place : o.flights = inner ++ f :: outer) {input : Input μ}
    (others : ∀ answer, input = .answer answer → inner ≠ []) :
    ∃ inner', o.below input = inner' ++ f :: outer := by
  cases input with
  | start operation => exact ⟨inner, place⟩
  | answer answer =>
    obtain ⟨g, inner', rfl⟩ := List.exists_cons_of_ne_nil (others answer rfl)
    exact ⟨inner', by simp [below, place]⟩

theorem mem_heard {input : Input μ} {n : Notice μ} (h : n ∈ o.heard input) :
    ∃ d batch answer, n = .answered d batch answer := by
  cases input with
  | start operation => simp [heard] at h
  | answer answer =>
    cases top : o.flights with
    | nil => simp [heard, top] at h
    | cons f outer => exact ⟨_, _, _, by simpa [heard, top] using h⟩

/-- Nothing is accepted before a step does anything. -/
theorem accepted_heard (o : Outbox μ) (input : Input μ) (d : String) :
    accepted (o.heard input) d = [] := by
  cases input with
  | start operation => rfl
  | answer answer =>
    simp only [heard]
    split <;> rfl

/-! ## What the last act does -/

namespace Halts

/-- The operation is over or given up, and nothing is in flight above what was; or a batch has
left, and lies on top. -/
theorem ending (h : Halts o plan notices next) :
    (next.flights = o.flights ∧
      ((∃ result, notices.getLast? = some (.finished result)) ∨
        ∃ d, o.isBusy d = true ∧ notices.getLast? = some (.blocked d))) ∨
    ∃ f, next.flights = f :: o.flights ∧ f.destination :: f.purpose.rest <:+ plan ∧
      f.batch = (o.queue f.destination).take o.batchSize ∧ o.queue f.destination ≠ [] ∧
      notices.getLast? = some (.handed f.destination f.batch) := by
  induction h with
  | event e later ih =>
    rcases ih with ⟨same, ⟨result, last⟩ | ⟨d, busy, last⟩⟩ |
      ⟨f, top, planned, batch, waiting, last⟩
    · exact .inl ⟨same, .inl ⟨result, by simp [List.getLast?_cons, last]⟩⟩
    · exact .inl ⟨same, .inr ⟨d, busy, by simp [List.getLast?_cons, last]⟩⟩
    · exact .inr ⟨f, top, planned, batch, waiting, by simp [List.getLast?_cons, last]⟩
  | finished => exact .inl ⟨rfl, .inl ⟨_, rfl⟩⟩
  | queued => exact .inl ⟨rfl, .inl ⟨_, rfl⟩⟩
  | @blocked d busy => exact .inl ⟨rfl, .inr ⟨d, busy, rfl⟩⟩
  | handed log purpose idle waiting planned =>
    exact .inr ⟨_, rfl, planned, rfl, waiting, rfl⟩

/-- Nothing is answered for. -/
theorem shipmentsTo_eq_nil (h : Halts o plan notices next) (d : String) :
    shipmentsTo notices d = [] := by
  induction h with
  | event e later ih => exact ih
  | _ => rfl

@[simp] theorem closed_eq (h : Halts o plan notices next) : next.closed = o.closed := by
  induction h with
  | event e later ih => exact ih
  | _ => rfl

@[simp] theorem batchSize_eq (h : Halts o plan notices next) : next.batchSize = o.batchSize := by
  induction h with
  | event e later ih => exact ih
  | _ => rfl

/-- What is outstanding stays so, and an accepted message joins it at the end. -/
theorem outstanding_eq (h : Halts o plan notices next) (d : String) :
    next.outstanding d = o.outstanding d ++ accepted notices d := by
  induction h with
  | event e later ih => exact ih
  | finished | blocked => exact (List.append_nil _).symm
  | @queued d' m room => rw [outstanding_push, accepted_queued]
  | @handed d' log purpose idle waiting planned =>
    rw [outstanding_handOver o idle]
    exact (List.append_nil _).symm

/-- A destination with a batch in flight gets no other one, and its queue only grows. -/
theorem of_busy (h : Halts o plan notices next) {d : String} (busy : o.isBusy d = true) :
    handedTo notices d = [] ∧ next.queue d = o.queue d ++ accepted notices d := by
  induction h with
  | event e later ih => exact ih
  | finished | blocked => exact ⟨rfl, (List.append_nil _).symm⟩
  | @queued d' m room =>
    refine ⟨rfl, ?_⟩
    rw [accepted_queued]
    by_cases same : d' = d
    · subst same
      simp
    · simp [same, queue_push_of_ne o m (Ne.symm same)]
  | @handed d' log purpose idle waiting planned =>
    have other : d' ≠ d := by
      rintro rfl
      simp [busy] at idle
    refine ⟨by simp [handOver, handedTo, other], ?_⟩
    rw [queue_handOver, if_neg other]
    exact (List.append_nil _).symm

/-- An operation that is given up leaves everything as it was. -/
theorem of_blocked (h : Halts o plan notices next) {d : String} (given_up : .blocked d ∈ notices) :
    next = o ∧ o.isBusy d = true ∧ acceptances notices = [] := by
  induction h with
  | event e later ih =>
    rcases List.mem_cons.1 given_up with impossible | given_up
    · cases impossible
    · exact ih given_up
  | finished => simp at given_up
  | queued => simp at given_up
  | blocked busy =>
    cases List.mem_singleton.1 given_up
    exact ⟨rfl, busy, rfl⟩
  | handed => simp [handOver] at given_up

end Halts

/-! ## What a step does -/

/-- **The flights below a step are left alone**, and at most one lies on top of them
afterwards: then the operation goes on, else it is over or given up. -/
theorem step_ending (h : o.Exclusive) {input : Input μ}
    (asked : ∀ answer, input = .answer answer → o.flights ≠ []) :
    ((o.step input).1.flights = o.below input ∧
      ((∃ result, (o.step input).2.getLast? = some (.finished result)) ∨
        ∃ d, (o.noted input).isBusy d = true ∧ (o.step input).2.getLast? = some (.blocked d))) ∨
    ∃ f, (o.step input).1.flights = f :: o.below input ∧
      f.destination :: f.purpose.rest <:+ o.ahead input ∧
      (o.step input).2.getLast? = some (.handed f.destination f.batch) := by
  rcases step_cases h input with ⟨-, none, answer, rfl⟩ | ⟨notices, all, halts⟩
  · exact absurd none (asked answer rfl)
  have ending := halts.ending
  rw [flights_noted] at ending
  rw [all]
  rcases ending with ⟨same, ⟨result, last⟩ | ⟨d, busy, last⟩⟩ | ⟨f, top, planned, -, -, last⟩
  · exact .inl ⟨same, .inl ⟨result, by simp [last]⟩⟩
  · exact .inl ⟨same, .inr ⟨d, busy, by simp [last]⟩⟩
  · exact .inr ⟨f, top, planned, by simp [last]⟩

theorem below_suffix_step (h : o.Exclusive) (input : Input μ) :
    o.below input <:+ (o.step input).1.flights := by
  rcases step_cases h input with ⟨same, none, answer, rfl⟩ | ⟨notices, -, halts⟩
  · simp [same, below, none]
  · rcases halts.ending with ⟨same, -⟩ | ⟨f, top, -⟩
    · have unchanged : (o.step input).1.flights = o.below input := by rw [same, flights_noted]
      exact unchanged ▸ List.suffix_refl _
    · rw [top, flights_noted]
      exact List.suffix_cons _ _

/-- What is outstanding after a step is what its input leaves so, and then what the step
accepts. -/
theorem outstanding_step (h : o.Exclusive) (input : Input μ) (d : String) :
    (o.step input).1.outstanding d =
      (o.noted input).outstanding d ++ accepted (o.step input).2 d := by
  rcases step_cases h input with ⟨same, none, answer, rfl⟩ | ⟨notices, all, halts⟩
  · simp [same, noted, none, accepted, acceptances]
  · rw [halts.outstanding_eq, all, accepted_append, accepted_heard, List.nil_append]

/-- Taking note of an input leaves no more outstanding than there was, in the same order. -/
theorem outstanding_noted_sublist (h : o.Exclusive) (input : Input μ) (d : String) :
    ((o.noted input).outstanding d).Sublist (o.outstanding d) := by
  cases input with
  | start operation => cases operation <;> exact List.Sublist.refl _
  | answer answer =>
    simp only [noted]
    split
    · exact List.Sublist.refl _
    · next f outer top =>
      by_cases same : d = f.destination
      · subst same
        rw [h.outstanding_reclaim top, h.outstanding_top top]
        exact (List.append_sublist_append_right _).2 Shipment.left_sublist
      · rw [outstanding_reclaim_of_ne top answer same]

/-! ## What holds of every outbox that a history leads to -/

/-- A batch in flight is the only one of its destination, which has a queue; it has messages, no
more than a batch may have, and no destination is flushed twice by one operation. -/
structure Sound (o : Outbox μ) : Prop where
  exclusive : o.Exclusive
  known : ∀ f ∈ o.flights, f.destination ∈ o.destinations
  loaded : ∀ f ∈ o.flights, f.batch ≠ [] ∧ f.batch.length ≤ o.batchSize
  planned : ∀ f ∈ o.flights, (f.destination :: f.purpose.rest).Nodup

theorem mem_destinations_setQueue {d d' : String} {ms : List μ} :
    d' ∈ (o.setQueue d ms).destinations ↔ d' = d ∨ d' ∈ o.destinations :=
  Table.mem_names_insert

/-- Only a known destination has messages that wait. -/
theorem mem_destinations_of_waiting {d : String} (waiting : o.queue d ≠ []) :
    d ∈ o.destinations := by
  by_contra unknown
  simp [queue, Table.get?_eq_none_iff.2 unknown] at waiting

/-- Replacing a queue keeps what does not speak of the messages that wait. -/
theorem Sound.setQueue (h : o.Sound) (d : String) (ms : List μ) : (o.setQueue d ms).Sound where
  exclusive := h.exclusive
  known f hf := mem_destinations_setQueue.2 (.inr (h.known f hf))
  loaded := h.loaded
  planned := h.planned

/-- Taking note of an input keeps it all: at most the latest batch is in flight no more. -/
theorem Sound.noted (h : o.Sound) (input : Input μ) : (o.noted input).Sound := by
  cases input with
  | start operation =>
    cases operation with
    | close => exact ⟨h.exclusive, h.known, h.loaded, h.planned⟩
    | send | flush | flushAll => exact h
  | answer answer =>
    simp only [Outbox.noted]
    split
    · exact h
    · next f outer top =>
      have inside : ∀ g ∈ outer, g ∈ o.flights := fun g hg => top ▸ List.mem_cons_of_mem f hg
      have left : Sound { o with flights := outer } := by
        refine ⟨?_, fun g hg => h.known g (inside g hg),
          fun g hg => h.loaded g (inside g hg), fun g hg => h.planned g (inside g hg)⟩
        have exclusive := h.exclusive
        rw [Exclusive, top, List.map_cons, List.nodup_cons] at exclusive
        exact exclusive.2
      cases answer with
      | error e => exact left.setQueue _ _
      | ok receipt =>
        simp only [reclaim]
        split
        · exact left
        · exact left.setQueue _ _

theorem Sound.nodup_ahead (h : o.Sound) (input : Input μ) : (o.ahead input).Nodup := by
  cases input with
  | start operation =>
    cases operation with
    | send | flush => exact List.nodup_singleton _
    | flushAll | close => exact o.queues.nodup_names
  | answer answer =>
    simp only [ahead]
    split
    · exact List.nodup_nil
    · next f outer top => exact h.planned f (top ▸ List.mem_cons_self ..)

theorem Halts.sound (h : Halts o plan notices next) (ho : o.Sound) (once : plan.Nodup) :
    next.Sound := by
  induction h with
  | event e later ih => exact ih
  | finished | blocked => exact ho
  | queued m room => exact ho.setQueue _ _
  | @handed d log purpose idle waiting planned =>
    have left := ho.setQueue d ((o.queue d).drop o.batchSize)
    refine ⟨(Move.hand log purpose idle waiting).exclusive ho.exclusive, ?_, ?_, ?_⟩
    · intro f hf
      rcases List.mem_cons.1 hf with rfl | hf
      · exact mem_destinations_setQueue.2 (.inl rfl)
      · exact left.known f hf
    · intro f hf
      rcases List.mem_cons.1 hf with rfl | hf
      · have := o.batchSize_pos
        exact ⟨by simp [waiting]; omega, List.length_take_le _ _⟩
      · exact left.loaded f hf
    · intro f hf
      rcases List.mem_cons.1 hf with rfl | hf
      · exact once.sublist planned.sublist
      · exact left.planned f hf

theorem Sound.step (h : o.Sound) (input : Input μ) : (o.step input).1.Sound := by
  rcases step_cases h.exclusive input with ⟨same, -⟩ | ⟨notices, -, halts⟩
  · rwa [same]
  · exact halts.sound (h.noted input) (h.nodup_ahead input)

theorem Sound.run (h : o.Sound) (inputs : List (Input μ)) : (o.run inputs).1.Sound := by
  induction inputs generalizing o with
  | nil => exact h
  | cons input inputs ih => exact ih (h.step input)

theorem batchSize_noted (o : Outbox μ) (input : Input μ) :
    (o.noted input).batchSize = o.batchSize := by
  cases input with
  | start operation => cases operation <;> rfl
  | answer answer =>
    simp only [Outbox.noted]
    split
    · rfl
    · exact batchSize_reclaim _ _ answer

/-- Batches keep their size. -/
theorem batchSize_step (h : o.Sound) (input : Input μ) :
    (o.step input).1.batchSize = o.batchSize := by
  rcases step_cases h.exclusive input with ⟨same, -⟩ | ⟨notices, -, halts⟩
  · rw [same]
  · rw [halts.batchSize_eq, batchSize_noted]

theorem batchSize_run (h : o.Sound) (inputs : List (Input μ)) :
    (o.run inputs).1.batchSize = o.batchSize := by
  induction inputs generalizing o with
  | nil => rfl
  | cons input inputs ih => rw [run_cons, ih (h.step input), batchSize_step h]

/-- A new outbox has batches of a size that the carrier allows. -/
theorem batchSize_of_create? {limit size : ℕ} (made : create? limit size = .ok o) :
    o.batchSize = size ∧ size ≤ limit := by
  simp only [create?] at made
  split at made
  · cases made
  · split at made
    · cases made
    · next allowed =>
      cases made
      exact ⟨rfl, Nat.le_of_not_lt allowed⟩

theorem sound_new {limit size : ℕ} (made : create? limit size = .ok o) : o.Sound := by
  obtain ⟨-, flights, -⟩ := empty_of_create? made
  refine ⟨?_, ?_, ?_, ?_⟩ <;> simp [flights, Exclusive]

/-! ## Operations under way -/

/-- Before each of the inputs more than `n` batches are in flight: what has been started on
top of the first `n` is not over. -/
def Ongoing (n : ℕ) : Outbox μ → List (Input μ) → Prop
  | _, [] => True
  | o, input :: inputs => n < o.flights.length ∧ Ongoing n (o.step input).1 inputs

/-- The operation is started, goes on through the inputs, and is over with the result. -/
structure Returns (o : Outbox μ) (operation : Operation μ) (during : List (Input μ))
    (result : Except Error Outcome) : Prop where
  ongoing : Ongoing o.flights.length (o.start operation).1 during
  ended : (o.run (.start operation :: during)).1.flights.length = o.flights.length
  result_eq : (o.run (.start operation :: during)).2.getLast? = some (.finished result)

instance (n : ℕ) (o : Outbox μ) (inputs : List (Input μ)) : Decidable (Ongoing n o inputs) :=
  match inputs with
  | [] => .isTrue trivial
  | input :: inputs =>
    have := instDecidableOngoing n (o.step input).1 inputs
    inferInstanceAs (Decidable (_ ∧ _))

/-- The last notice of an operation that has gone through some inputs is that of its last step. -/
theorem getLast?_append_of_getLast? {h k : List (Notice μ)} {n : Notice μ}
    (last : k.getLast? = some n) : (h ++ k).getLast? = some n := by
  rw [List.getLast?_append, last, Option.some_or]

/-- **Induction over the course of an operation** that lies on the flights `base`. What holds
of its flight and is kept by every step above it and by every answer to it, holds until the
operation is over; what its last answer then brings about holds at the end. -/
theorem Ongoing.invariant {base : List (Flight μ)} {P : Flight μ → Outbox μ → Prop}
    {Q : List (Notice μ) → Outbox μ → Prop}
    (above : ∀ (o : Outbox μ) inner f (input : Input μ), o.Sound →
      o.flights = inner ++ f :: base → (∀ answer, input = .answer answer → inner ≠ []) → P f o →
      P f (o.step input).1)
    (own : ∀ (o : Outbox μ) f answer, o.Sound → o.flights = f :: base → P f o →
      (∃ f', (o.settle answer).1.flights = f' :: base ∧ P f' (o.settle answer).1) ∨
      (o.settle answer).1.flights = base ∧ Q (o.settle answer).2 (o.settle answer).1)
    {o : Outbox μ} (sound : o.Sound) {inner : List (Flight μ)} {f : Flight μ}
    (place : o.flights = inner ++ f :: base) (start : P f o) {inputs : List (Input μ)}
    (going : Ongoing base.length o inputs) :
    (∃ inner f, (o.run inputs).1.flights = inner ++ f :: base ∧ P f (o.run inputs).1) ∨
    (o.run inputs).1.flights = base ∧
      ∃ earlier last, (o.run inputs).2 = earlier ++ last ∧ Q last (o.run inputs).1 := by
  induction inputs generalizing o inner f with
  | nil => exact .inl ⟨inner, f, place, start⟩
  | cons input inputs ih =>
    obtain ⟨-, rest⟩ := going
    simp only [run_cons]
    by_cases latest : ∃ answer, input = .answer answer ∧ inner = []
    · obtain ⟨answer, rfl, rfl⟩ := latest
      rcases own o f answer sound place start with ⟨f', place', kept⟩ | ⟨ended, done⟩
      · have top : (o.step (.answer answer)).1.flights = [] ++ f' :: base := place'
        rcases ih (sound.step _) top kept rest with going | ⟨ended, h, last, all, done⟩
        · exact .inl going
        · exact .inr ⟨ended, (o.step (.answer answer)).2 ++ h, last, by simp [all], done⟩
      · cases inputs with
        | nil => exact .inr ⟨ended, [], _, by simp [step], done⟩
        | cons next inputs =>
          have more := rest.1
          simp only [step, ended] at more
          exact absurd more (Nat.lt_irrefl _)
    · have others : ∀ answer, input = .answer answer → inner ≠ [] :=
        fun answer same none => latest ⟨answer, same, none⟩
      obtain ⟨inner', place'⟩ := exists_below place others
      obtain ⟨new, stack⟩ := below_suffix_step sound.exclusive input
      rw [place', ← List.append_assoc] at stack
      have kept := above o inner f input sound place others start
      rcases ih (sound.step _) stack.symm kept rest with going | ⟨ended, h, last, all, done⟩
      · exact .inl going
      · exact .inr ⟨ended, (o.step input).2 ++ h, last, by simp [all], done⟩

/-- **An operation that returns has gone through its course**: what its start brings about, each
step above it and each answer to it keep, until its end. -/
theorem Returns.invariant {operation : Operation μ} {during : List (Input μ)}
    {result : Except Error Outcome} {P : Flight μ → Outbox μ → Prop}
    {Q : List (Notice μ) → Outbox μ → Prop}
    (first : (∃ f, (o.start operation).1.flights = f :: o.flights ∧ P f (o.start operation).1) ∨
      (o.start operation).1.flights = o.flights ∧ Q (o.start operation).2 (o.start operation).1)
    (above : ∀ (o' : Outbox μ) inner f (input : Input μ), o'.Sound →
      o'.flights = inner ++ f :: o.flights → (∀ answer, input = .answer answer → inner ≠ []) →
      P f o' → P f (o'.step input).1)
    (own : ∀ (o' : Outbox μ) f answer, o'.Sound → o'.flights = f :: o.flights → P f o' →
      (∃ f', (o'.settle answer).1.flights = f' :: o.flights ∧ P f' (o'.settle answer).1) ∨
      (o'.settle answer).1.flights = o.flights ∧ Q (o'.settle answer).2 (o'.settle answer).1)
    (sound : o.Sound) (returned : o.Returns operation during result) :
    ∃ last, Q last (o.run (.start operation :: during)).1 ∧
      ∀ n, last.getLast? = some n → n = .finished result := by
  obtain ⟨ongoing, ended, result_eq⟩ := returned
  replace ended : ((o.start operation).1.run during).1.flights.length = o.flights.length := ended
  replace result_eq : ((o.start operation).2 ++ ((o.start operation).1.run during).2).getLast? =
    some (.finished result) := result_eq
  change ∃ last, Q last ((o.start operation).1.run during).1 ∧ _
  rcases first with ⟨f, top, start⟩ | ⟨same, done⟩
  · have started : (o.start operation).1.Sound := sound.step (.start operation)
    have place : (o.start operation).1.flights = [] ++ f :: o.flights := top
    rcases ongoing.invariant above own started place start with
      ⟨inner, f, place, -⟩ | ⟨-, earlier, last, all, done⟩
    · have longer := congrArg List.length place
      simp only [List.length_append, List.length_cons] at longer
      omega
    · refine ⟨last, done, fun n ends => ?_⟩
      rw [all, ← List.append_assoc, getLast?_append_of_getLast? ends] at result_eq
      exact Option.some.inj result_eq
  · cases during with
    | nil =>
      refine ⟨(o.start operation).2, done, fun n ends => ?_⟩
      rw [run_nil, List.append_nil, ends] at result_eq
      exact Option.some.inj result_eq
    | cons input inputs => exact absurd (same ▸ ongoing.1) (Nat.lt_irrefl _)

end Outbox

end Dispatch
