import Dispatch.Outbox.Step
import Dispatch.Proofs.Outbox.History
import Mathlib.Data.List.Nodup

/-!
# What a step of the outbox can do

A step is built from calls of functions that call each other, but it changes an outbox in
few ways: a message joins a queue, a batch leaves one, what a carrier did not take goes back,
or the outbox is closed. `Outbox.Move` lists these ways once, each with the notices that go
with it, and `Outbox.run_moves` takes every history apart into them. A property of all
histories is then a property that each kind of move keeps (`Outbox.Moves.invariant`).

## Main definitions

* `Outbox.inFlight`, `Outbox.outstanding`: what is still to be delivered to a destination.
* `Outbox.Exclusive`: no destination has two batches in flight.
* `Outbox.reclaim`: what an answer puts back into a queue.
* `Outbox.Move`, `Outbox.Moves`: one change of an outbox, and changes one after the other.
* `Outbox.single`, `Outbox.double`: new outboxes for the smallest batches.
-/
namespace Dispatch.Outbox

variable {μ : Type}

/-- The messages of a destination that are in flight. -/
def inFlight (o : Outbox μ) (destination : String) : List μ :=
  (o.flights.filter (·.destination == destination)).flatMap (·.batch)

/-- The messages of a destination that are in flight or wait, in this order. -/
def outstanding (o : Outbox μ) (destination : String) : List μ :=
  o.inFlight destination ++ o.queue destination

/-- No destination has two batches in flight. -/
def Exclusive (o : Outbox μ) : Prop := (o.flights.map (·.destination)).Nodup

/-- Puts back into its queue what an answer leaves of a batch: all of it after an error,
nothing after a clean receipt, else what was not reported delivered. -/
def reclaim (o : Outbox μ) (f : Flight μ) : Answer → Outbox μ
  | .error _ => o.restore f.destination f.batch
  | .ok receipt =>
    if receipt.refused = [] then o else o.restore f.destination (receipt.undelivered f.batch)

/-- One change of an outbox, with the notices that go with it. A message joins its queue
exactly when a send returns. -/
inductive Move : Outbox μ → List (Notice μ) → Outbox μ → Prop
  | close (o : Outbox μ) : Move o [] { o with closed := true }
  | queue {o : Outbox μ} {d : String} (m : μ) (room : o.pending d < o.batchSize) :
      Move o [.queued d m, .finished (.ok .queued)] (o.push d m)
  | hand {o : Outbox μ} {d : String} (log : Log) (purpose : Purpose μ)
      (idle : o.isBusy d = false) (waiting : o.queue d ≠ []) :
      Move o (o.handOver d log purpose).2 (o.handOver d log purpose).1
  | reclaim {o : Outbox μ} {f : Flight μ} {outer : List (Flight μ)} (answer : Answer)
      (top : o.flights = f :: outer) :
      Move o [.answered f.destination f.batch answer]
        (({ o with flights := outer } : Outbox μ).reclaim f answer)
  | event (o : Outbox μ) (e : Event) : Move o [.event e] o
  | finish (o : Outbox μ) {result : Except Error Outcome} (other : result ≠ .ok .queued) :
      Move o [.finished result] o
  | block {o : Outbox μ} {d : String} (busy : o.isBusy d = true) : Move o [.blocked d] o

/-- Changes one after the other, with all their notices. -/
inductive Moves : Outbox μ → List (Notice μ) → Outbox μ → Prop
  | refl (o : Outbox μ) : Moves o [] o
  | head {o next last : Outbox μ} {notices more : List (Notice μ)}
      (first : Move o notices next) (rest : Moves next more last) : Moves o (notices ++ more) last

namespace Moves

variable {o next last : Outbox μ} {notices more : List (Notice μ)}

theorem single (h : Move o notices next) : Moves o notices next := by
  simpa using head h (refl next)

theorem trans (h : Moves o notices next) (k : Moves next more last) :
    Moves o (notices ++ more) last := by
  induction h with
  | refl => exact k
  | head first _ ih => rw [List.append_assoc]; exact head first (ih k)

/-- Events leave the outbox as it is. -/
theorem events (o : Outbox μ) (es : List Event) : Moves o (es.map .event) o := by
  induction es with
  | nil => exact refl o
  | cons e es ih => exact head (.event o e) ih

/-- What every move keeps, every sequence of moves keeps. The property may speak of the
history so far. -/
theorem invariant {P : List (Notice μ) → Outbox μ → Prop}
    (step : ∀ {history notices} {o next : Outbox μ}, P history o → Move o notices next →
      P (history ++ notices) next)
    (h : Moves o notices next) {history : List (Notice μ)} (start : P history o) :
    P (history ++ notices) next := by
  induction h generalizing history with
  | refl => simpa using start
  | head first _ ih => simpa using ih (step start first)

end Moves

/-! ## Views of an outbox -/

@[simp] theorem flights_push (o : Outbox μ) (d : String) (m : μ) :
    (o.push d m).flights = o.flights := rfl

@[simp] theorem flights_handOver (o : Outbox μ) (d : String) (log : Log) (purpose : Purpose μ) :
    (o.handOver d log purpose).1.flights =
      ⟨d, (o.queue d).take o.batchSize, log, purpose⟩ :: o.flights := rfl

@[simp] theorem flights_reclaim (o : Outbox μ) (f : Flight μ) (answer : Answer) :
    (o.reclaim f answer).flights = o.flights := by
  cases answer with
  | error e => rfl
  | ok receipt => simp only [reclaim]; split <;> rfl

theorem batchSize_reclaim (o : Outbox μ) (f : Flight μ) (answer : Answer) :
    (o.reclaim f answer).batchSize = o.batchSize := by
  cases answer with
  | error e => rfl
  | ok receipt => simp only [reclaim]; split <;> rfl

theorem empty_of_create? {limit size : Nat} {o : Outbox μ} (made : create? limit size = .ok o) :
    o.queues = ∅ ∧ o.flights = [] ∧ o.closed = false := by
  simp only [create?] at made
  split at made
  · simp at made
  · split at made
    · simp at made
    · cases made
      exact ⟨rfl, rfl, rfl⟩

/-- A new outbox for batches of one message. -/
def single (μ : Type) : Outbox μ := ⟨1, by decide, ∅, [], false⟩

/-- A new outbox for batches of two messages. -/
def double (μ : Type) : Outbox μ := ⟨2, by decide, ∅, [], false⟩

theorem isBusy_eq_false {o : Outbox μ} {d : String} :
    o.isBusy d = false ↔ ∀ f ∈ o.flights, f.destination ≠ d := by
  simp [isBusy]

/-- An idle destination has nothing in flight. -/
theorem inFlight_of_idle {o : Outbox μ} {d : String} (idle : o.isBusy d = false) :
    o.inFlight d = [] := by
  have none : o.flights.filter (·.destination == d) = [] :=
    List.filter_eq_nil_iff.2 fun f hf => by simpa using isBusy_eq_false.1 idle f hf
  simp [inFlight, none]

@[simp] theorem inFlight_push (o : Outbox μ) (d d' : String) (m : μ) :
    (o.push d m).inFlight d' = o.inFlight d' := rfl

theorem inFlight_handOver (o : Outbox μ) (d d' : String) (log : Log) (purpose : Purpose μ) :
    (o.handOver d log purpose).1.inFlight d' =
      (if d = d' then (o.queue d).take o.batchSize else []) ++ o.inFlight d' := by
  by_cases h : d = d' <;> simp [inFlight, h]

theorem inFlight_reclaim (o : Outbox μ) (f : Flight μ) (answer : Answer) (d : String) :
    (o.reclaim f answer).inFlight d = o.inFlight d := by simp [inFlight]

theorem queue_push_of_ne (o : Outbox μ) {d d' : String} (m : μ) (h : d' ≠ d) :
    (o.push d m).queue d' = o.queue d' := queue_setQueue_of_ne o _ h

theorem queue_handOver (o : Outbox μ) (d d' : String) (log : Log) (purpose : Purpose μ) :
    (o.handOver d log purpose).1.queue d' =
      if d = d' then (o.queue d).drop o.batchSize else o.queue d' := by
  change (o.setQueue d ((o.queue d).drop o.batchSize)).queue d' = _
  by_cases h : d = d'
  · subst h
    simp
  · rw [if_neg h]
    exact queue_setQueue_of_ne o _ (Ne.symm h)

theorem queue_reclaim_self (o : Outbox μ) (f : Flight μ) (answer : Answer) :
    (o.reclaim f answer).queue f.destination =
      Shipment.left ⟨f.destination, f.batch, answer⟩ ++ o.queue f.destination := by
  cases answer with
  | error e => simp [reclaim, Shipment.left]
  | ok receipt => by_cases h : receipt.refused = [] <;> simp [reclaim, Shipment.left, h]

theorem queue_reclaim_of_ne (o : Outbox μ) {f : Flight μ} (answer : Answer) {d : String}
    (h : d ≠ f.destination) : (o.reclaim f answer).queue d = o.queue d := by
  cases answer with
  | error e => exact queue_setQueue_of_ne o _ h
  | ok receipt =>
    simp only [reclaim]
    split
    · rfl
    · exact queue_setQueue_of_ne o _ h

/-- When the latest batch is no longer in flight, its destination is idle. -/
theorem Exclusive.idle_outer {o : Outbox μ} (h : o.Exclusive) {f : Flight μ}
    {outer : List (Flight μ)} (top : o.flights = f :: outer) :
    ({ o with flights := outer } : Outbox μ).isBusy f.destination = false := by
  rw [Exclusive, top, List.map_cons, List.nodup_cons] at h
  refine isBusy_eq_false.2 fun g hg heq => h.1 ?_
  rw [← heq]
  exact List.mem_map_of_mem hg

/-- The latest batch is the only one in flight for its destination. -/
theorem Exclusive.inFlight_top {o : Outbox μ} (h : o.Exclusive) {f : Flight μ}
    {outer : List (Flight μ)} (top : o.flights = f :: outer) :
    o.inFlight f.destination = f.batch := by
  have none := inFlight_of_idle (h.idle_outer top)
  simp only [inFlight] at none
  simp [inFlight, top, none]

theorem inFlight_of_ne {o : Outbox μ} {f : Flight μ} {outer : List (Flight μ)}
    (top : o.flights = f :: outer) {d : String} (h : d ≠ f.destination) :
    o.inFlight d = ({ o with flights := outer } : Outbox μ).inFlight d := by
  simp [inFlight, top, Ne.symm h]

/-! ### What is outstanding -/

theorem outstanding_push (o : Outbox μ) (d d' : String) (m : μ) :
    (o.push d m).outstanding d' = o.outstanding d' ++ if d = d' then [m] else [] := by
  by_cases h : d = d'
  · subst h
    simp [outstanding]
  · simp [outstanding, h, queue_push_of_ne o m (Ne.symm h)]

/-- A batch that is handed over stays outstanding, at the head. -/
theorem outstanding_handOver (o : Outbox μ) {d : String} (idle : o.isBusy d = false)
    (d' : String) (log : Log) (purpose : Purpose μ) :
    (o.handOver d log purpose).1.outstanding d' = o.outstanding d' := by
  rw [outstanding, inFlight_handOver, queue_handOver]
  by_cases h : d = d'
  · subst h
    simp [outstanding, inFlight_of_idle idle]
  · simp [outstanding, h]

theorem Exclusive.outstanding_top {o : Outbox μ} (h : o.Exclusive) {f : Flight μ}
    {outer : List (Flight μ)} (top : o.flights = f :: outer) :
    o.outstanding f.destination = f.batch ++ o.queue f.destination := by
  rw [outstanding, h.inFlight_top top]

theorem take_sublist_outstanding (o : Outbox μ) (d : String) :
    ((o.queue d).take o.batchSize).Sublist (o.outstanding d) :=
  (List.take_sublist _ _).trans (List.sublist_append_right _ _)

theorem Exclusive.batch_sublist_outstanding {o : Outbox μ} (h : o.Exclusive) {f : Flight μ}
    {outer : List (Flight μ)} (top : o.flights = f :: outer) :
    f.batch.Sublist (o.outstanding f.destination) := by
  rw [h.outstanding_top top]
  exact List.sublist_append_left _ _

/-- After an answer, what it leaves of the batch stands before the queue. -/
theorem Exclusive.outstanding_reclaim {o : Outbox μ} (h : o.Exclusive) {f : Flight μ}
    {outer : List (Flight μ)} (top : o.flights = f :: outer) (answer : Answer) :
    (({ o with flights := outer } : Outbox μ).reclaim f answer).outstanding f.destination =
      Shipment.left ⟨f.destination, f.batch, answer⟩ ++ o.queue f.destination := by
  rw [outstanding, inFlight_reclaim, inFlight_of_idle (h.idle_outer top), queue_reclaim_self]
  rfl

theorem outstanding_reclaim_of_ne {o : Outbox μ} {f : Flight μ} {outer : List (Flight μ)}
    (top : o.flights = f :: outer) (answer : Answer) {d : String} (h : d ≠ f.destination) :
    (({ o with flights := outer } : Outbox μ).reclaim f answer).outstanding d =
      o.outstanding d := by
  rw [outstanding, inFlight_reclaim, queue_reclaim_of_ne _ _ h, outstanding,
    inFlight_of_ne top h]
  rfl

theorem Move.exclusive {o next : Outbox μ} {notices : List (Notice μ)}
    (h : Move o notices next) (ho : o.Exclusive) : next.Exclusive := by
  cases h with
  | close | event | finish | block => exact ho
  | queue => simpa [Exclusive] using ho
  | @hand d log purpose idle waiting =>
    rw [Exclusive, flights_handOver, List.map_cons, List.nodup_cons]
    refine ⟨fun hmem => ?_, ho⟩
    obtain ⟨f, hf, hd⟩ := List.mem_map.1 hmem
    exact isBusy_eq_false.1 idle f hf hd
  | reclaim answer top =>
    rw [Exclusive, top, List.map_cons, List.nodup_cons] at ho
    simpa [Exclusive] using ho.2

theorem Moves.exclusive {o next : Outbox μ} {notices : List (Notice μ)}
    (h : Moves o notices next) (ho : o.Exclusive) : next.Exclusive := by
  induction h with
  | refl => exact ho
  | head first _ ih => exact ih (first.exclusive ho)

/-! ## The functions of a step, as moves -/

theorem sweep_moves (o : Outbox μ) (ds : List String) (log : Log) (errors : List Error) :
    Moves o (o.sweep ds log errors).2 (o.sweep ds log errors).1 := by
  induction ds with
  | nil =>
    refine .single (.finish o ?_)
    match errors with
    | [] | [_] | _ :: _ :: _ => simp [conclude]
  | cons d rest ih =>
    simp only [sweep]
    split
    · next busy => exact .single (.block busy)
    · next idle =>
      split
      · exact ih
      · next waiting => exact .single (.hand _ _ (by simpa using idle) (by simpa using waiting))

/-- The end of a flush makes room for the message that waited for it. -/
theorem resume_moves (o : Outbox μ) (d : String) (result : Except Error Log)
    (purpose : Purpose μ)
    (room : ∀ log, result = .ok log → o.pending d < o.batchSize) :
    Moves o (o.resume d result purpose).2 (o.resume d result purpose).1 := by
  cases purpose with
  | flush =>
    refine .single (.finish o ?_)
    cases result <;> simp [Except.map]
  | send m =>
    cases result with
    | error e => exact .single (.finish o (by simp))
    | ok log => exact .single (.queue m (room log rfl))
  | sweep rest log errors =>
    cases result with
    | error e => exact .head (.event o _) (o.sweep_moves rest _ _)
    | ok flushed => exact o.sweep_moves rest _ _

theorem proceed_moves (o : Outbox μ) (d : String) (log : Log) (purpose : Purpose μ)
    (idle : o.isBusy d = false) :
    Moves o (o.proceed d log purpose).2 (o.proceed d log purpose).1 := by
  simp only [proceed]
  split
  · next empty =>
    refine o.resume_moves d _ purpose fun _ _ => ?_
    simpa [pending, List.isEmpty_iff.1 empty] using o.batchSize_pos
  · next waiting => exact .single (.hand _ _ idle (by simpa using waiting))

theorem beginFlush_moves (o : Outbox μ) (d : String) (purpose : Purpose μ) :
    Moves o (o.beginFlush d purpose).2 (o.beginFlush d purpose).1 := by
  simp only [beginFlush]
  split
  · next busy => exact .single (.block busy)
  · next idle => exact o.proceed_moves d _ purpose (by simpa using idle)

theorem start_moves (o : Outbox μ) (operation : Operation μ) :
    Moves o (o.start operation).2 (o.start operation).1 := by
  cases operation with
  | send d message =>
    simp only [start]
    split
    · exact .single (.finish o (by simp))
    · cases message with
      | error cause => exact .single (.finish o (by simp))
      | ok m =>
        dsimp only
        split
        · exact o.beginFlush_moves d _
        · next room => exact o.resume_moves d _ _ fun _ _ => by simpa using room
  | flush d => exact o.beginFlush_moves d _
  | flushAll => exact o.sweep_moves _ _ _
  | close => exact .head (.close o) (sweep_moves _ _ _ _)

/-- An answer first puts back what it leaves of the batch; then the flush goes on or ends. -/
theorem settle_moves {o : Outbox μ} (h : o.Exclusive) (answer : Answer) :
    Moves o (o.settle answer).2 (o.settle answer).1 := by
  rw [settle]
  split
  · exact .refl o
  · next f outer top =>
    refine .head (.reclaim answer top) ?_
    have idle := h.idle_outer top
    generalize ({ o with flights := outer } : Outbox μ) = rest at idle ⊢
    cases answer with
    | error e => exact .head (.event _ _) (resume_moves _ _ _ _ (by simp))
    | ok receipt =>
      simp only [reclaim, land, Receipt.isClean_iff]
      split
      · exact .head (.event _ _) (rest.proceed_moves _ _ _ idle)
      · have warnings := Moves.events (rest.restore f.destination (receipt.undelivered f.batch))
          (receipt.refused.map fun r => ⟨.warning, LogLine.refused f.destination r⟩)
        rw [List.map_map] at warnings
        exact warnings.trans (resume_moves _ _ _ _ (by simp))

theorem step_moves {o : Outbox μ} (h : o.Exclusive) (input : Input μ) :
    Moves o (o.step input).2 (o.step input).1 := by
  cases input with
  | start operation => exact o.start_moves operation
  | answer answer => exact settle_moves h answer

/-- **Every history is a sequence of moves.** -/
theorem run_moves {o : Outbox μ} (h : o.Exclusive) (inputs : List (Input μ)) :
    Moves o (o.run inputs).2 (o.run inputs).1 := by
  induction inputs generalizing o with
  | nil => exact .refl o
  | cons input inputs ih =>
    have first := step_moves h input
    exact first.trans (ih (first.exclusive h))

end Dispatch.Outbox
