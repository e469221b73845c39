import Dispatch.Proofs.Outbox.Nesting
import Dispatch.Proofs.Outbox.Numbering

/-!
# One flush for each destination

A destination is locked while a batch of its own is in flight: whoever wants to flush it then is
given up and changes nothing. From the hand-over of a batch until the end of its flush, the only
batches that leave for the destination are the next ones of this flush, one after another, and
they take its messages from the head of the queue (`Outbox.flushing_run`). The flush ends when
the carrier fails, when it refuses messages, or when the queue is empty, and each time the
destination is unlocked (`Outbox.unlocked_of_endsFlush`). So an operation that was started with
nothing in flight finds no destination locked that it comes to, and ends with a result.

## Main definitions

* `Outbox.endsFlush`: the answers that end the flush of a destination.
* `Outbox.Flushing`: no input ends it.
* `Outbox.Continues`: what a flush has become.

## Main statements

* `Outbox.flushing_step`, `Outbox.flushing_run`: a flush goes on until it is ended.
* `Outbox.unlocked_of_endsFlush`, `Outbox.failed_step`: the end of a flush unlocks its destination,
  and what a flush that failed leaves.
* `Outbox.blocked_step`: an operation that would have to wait changes nothing.
* `Outbox.one_flush_per_destination`: all of it, for any history.
-/
namespace Dispatch

open History

namespace Flight

variable {μ : Type}

/-- The log of a flush after its batch was delivered. -/
def written (f : Flight μ) : Log :=
  f.log.write .debug (LogLine.delivered f.destination f.batch.length)

/-- The result of a flush when this answer for its batch is the last. -/
def result (f : Flight μ) : Answer → Except Error Log
  | .error e => .error e
  | .ok receipt =>
    if receipt.refused = [] then .ok f.written
    else .error (.batchFailed f.destination f.batch.length receipt.refused)

/-- What is reported of an answer for a batch. -/
def report (f : Flight μ) : Answer → List Event
  | .error e => [⟨.warning, LogLine.notSent f.destination f.batch.length e⟩]
  | .ok receipt =>
    if receipt.refused = [] then [⟨.debug, LogLine.delivered f.destination f.batch.length⟩]
    else receipt.refused.map fun r => ⟨.warning, LogLine.refused f.destination r⟩

end Flight

namespace Outbox

variable {μ : Type} {o : Outbox μ}

/-! ## The end of a flush -/

/-- Whether an input ends the flush of a destination: it answers for its batch, and the carrier
failed, refused messages, or got the last ones. -/
def endsFlush (o : Outbox μ) (d : String) : Input μ → Bool
  | .start _ => false
  | .answer answer =>
    match o.flights with
    | [] => false
    | f :: _ =>
      f.destination == d &&
        match answer with
        | .error _ => true
        | .ok receipt => receipt.refused ≠ [] || (o.queue d).isEmpty

/-- None of the inputs ends the flush of the destination. -/
def Flushing (d : String) : Outbox μ → List (Input μ) → Prop
  | _, [] => True
  | o, input :: inputs => o.endsFlush d input = false ∧ Flushing d (o.step input).1 inputs

instance (d : String) (o : Outbox μ) (inputs : List (Input μ)) : Decidable (Flushing d o inputs) :=
  match inputs with
  | [] => .isTrue trivial
  | input :: inputs =>
    have := instDecidableFlushing d (o.step input).1 inputs
    inferInstanceAs (Decidable (_ ∧ _))

/-- A flush goes on only after a clean receipt, with messages that wait. -/
theorem clean_of_goes_on {f : Flight μ} {outer : List (Flight μ)} (top : o.flights = f :: outer)
    {answer : Answer} (goes_on : o.endsFlush f.destination (.answer answer) = false) :
    ∃ receipt, answer = .ok receipt ∧ receipt.refused = [] ∧ o.queue f.destination ≠ [] := by
  cases answer with
  | error e => simp [endsFlush, top] at goes_on
  | ok receipt =>
    simp only [endsFlush, top, beq_self_eq_true, Bool.true_and, Bool.or_eq_false_iff,
      decide_eq_false_iff_not, ne_eq, not_not, List.isEmpty_eq_false_iff] at goes_on
    exact ⟨receipt, rfl, goes_on⟩

/-- An answer that does not end the flush makes it hand over its next batch. -/
theorem settle_of_goes_on {f : Flight μ} {outer : List (Flight μ)} (top : o.flights = f :: outer)
    {answer : Answer} (goes_on : o.endsFlush f.destination (.answer answer) = false) :
    o.settle answer =
      ((({ o with flights := outer } : Outbox μ).handOver f.destination f.written f.purpose).1,
        [.answered f.destination f.batch answer,
          .event ⟨.debug, LogLine.delivered f.destination f.batch.length⟩,
          .handed f.destination ((o.queue f.destination).take o.batchSize)]) := by
  obtain ⟨receipt, rfl, clean, waiting⟩ := clean_of_goes_on top goes_on
  have more : (({ o with flights := outer } : Outbox μ).queue f.destination).isEmpty = false :=
    List.isEmpty_eq_false_iff.2 waiting
  simp only [settle, top, land, Receipt.isClean_iff, clean, if_true, proceed, more,
    Bool.false_eq_true, if_false]
  rfl

/-- The next batch of a flush lies where the one before it did, and was the head of the queue. -/
theorem next_of_goes_on {f : Flight μ} {outer : List (Flight μ)} (top : o.flights = f :: outer)
    {answer : Answer} (goes_on : o.endsFlush f.destination (.answer answer) = false) :
    (o.settle answer).1.flights =
        ⟨f.destination, (o.queue f.destination).take o.batchSize, f.written, f.purpose⟩ :: outer ∧
      (o.settle answer).1.queue f.destination = (o.queue f.destination).drop o.batchSize := by
  rw [settle_of_goes_on top goes_on]
  refine ⟨rfl, ?_⟩
  rw [queue_handOver, if_pos rfl]
  rfl

/-- An answer that ends the flush is reported, and what the flush was for goes on with its
result. -/
theorem settle_eq_resume {f : Flight μ} {outer : List (Flight μ)} (top : o.flights = f :: outer)
    {answer : Answer} (ends : o.endsFlush f.destination (.answer answer)) :
    o.settle answer =
      let (next, notices) := (({ o with flights := outer } : Outbox μ).reclaim f answer).resume
        f.destination (f.result answer) f.purpose
      (next, .answered f.destination f.batch answer ::
        ((f.report answer).map .event ++ notices)) := by
  simp only [endsFlush, top, beq_self_eq_true, Bool.true_and] at ends
  cases answer with
  | error e => simp [settle, top, land, reclaim, Flight.result, Flight.report, warning]
  | ok receipt =>
    by_cases clean : receipt.refused = []
    · have last : (({ o with flights := outer } : Outbox μ).queue f.destination).isEmpty := by
        simp only [clean, ne_eq, not_true_eq_false, decide_false, Bool.false_or] at ends
        exact ends
      simp only [settle, top, land, reclaim, Flight.result, Flight.report, Receipt.isClean_iff,
        clean, proceed, last, if_true]
      rfl
    · simp only [settle, top, land, reclaim, Flight.result, Flight.report, Receipt.isClean_iff,
        clean, if_false, List.map_map]
      rfl

/-- After the end of a flush its operation is over, or goes on with other destinations. -/
theorem settle_of_endsFlush {d : String} {answer : Answer} (ends : o.endsFlush d (.answer answer)) :
    ∃ f outer notices, o.flights = f :: outer ∧ f.destination = d ∧
      (o.settle answer).2 = o.heard (.answer answer) ++ notices ∧
      Halts (o.noted (.answer answer)) f.purpose.rest notices (o.settle answer).1 := by
  obtain ⟨f, outer, top, rfl⟩ : ∃ f outer, o.flights = f :: outer ∧ f.destination = d := by
    cases top : o.flights with
    | nil => simp [endsFlush, top] at ends
    | cons f outer =>
      simp only [endsFlush, top, Bool.and_eq_true, beq_iff_eq] at ends
      exact ⟨f, outer, rfl, ends.1⟩
  let left := ({ o with flights := outer } : Outbox μ).reclaim f answer
  -- a flush that ends well leaves an empty queue, with room for a message
  have room : ∀ log, f.result answer = .ok log → left.pending f.destination < left.batchSize := by
    intro log well
    simp only [endsFlush, top, beq_self_eq_true, Bool.true_and] at ends
    cases answer with
    | error e => cases well
    | ok receipt =>
      by_cases clean : receipt.refused = []
      · have empty : o.queue f.destination = [] := by simpa [clean] using ends
        have none : o.pending f.destination < o.batchSize := by
          simpa [pending, empty] using o.batchSize_pos
        simp only [left, reclaim, clean, if_true]
        exact none
      · simp [Flight.result, clean] at well
  have halts := resume_halts left f.destination (f.result answer)
    (List.suffix_refl f.purpose.rest) room
  refine ⟨f, outer, (f.report answer).map .event ++
    (left.resume f.destination (f.result answer) f.purpose).2, top, rfl, ?_, ?_⟩
  · simp only [settle_eq_resume top ends, heard, top]
    rfl
  · simp only [settle_eq_resume top ends, noted, top]
    exact halts.events _

/-- A step hands over nothing for a destination that is not ahead of it. -/
theorem Halts.handedTo_of_unplanned {next : Outbox μ} {plan : List String}
    {notices : List (Notice μ)} (h : Halts o plan notices next) {d : String}
    (unplanned : d ∉ plan) : handedTo notices d = [] := by
  induction h with
  | event e later ih => exact ih
  | @handed d' log purpose idle waiting planned =>
    have other : d' ≠ d := by
      rintro rfl
      exact unplanned (planned.subset (List.mem_cons_self ..))
    simp [handOver, handedTo, other]
  | _ => rfl

/-- **The end of a flush unlocks its destination**, whatever ended it, and its step hands over no
batch of this destination. -/
theorem unlocked_of_endsFlush (sound : o.Sound) {d : String} {input : Input μ}
    (ends : o.endsFlush d input) :
    (o.step input).1.isBusy d = false ∧ handedTo (o.step input).2 d = [] := by
  cases input with
  | start operation => cases ends
  | answer answer =>
    obtain ⟨f, outer, notices, top, rfl, all, halts⟩ := settle_of_endsFlush ends
    have once : f.destination ∉ f.purpose.rest :=
      (List.nodup_cons.1 (sound.planned f (by simp [top]))).1
    have idle := isBusy_eq_false.1 (sound.exclusive.idle_outer top)
    simp only [step]
    constructor
    · refine isBusy_eq_false.2 fun g hg => ?_
      have ending := halts.ending
      rw [flights_noted, below, top, List.tail_cons] at ending
      rcases ending with ⟨same, -⟩ | ⟨g', on_top, planned, -⟩
      · exact idle g (same ▸ hg)
      · rw [on_top, List.mem_cons] at hg
        rcases hg with rfl | hg
        · intro again
          exact once (again ▸ planned.subset (List.mem_cons_self ..))
        · exact idle g hg
    · rw [all, handedTo_append, halts.handedTo_of_unplanned once]
      simp [heard, top, handedTo]

/-- What follows a flush that failed accepts no message. -/
theorem resume_error_accepts_none (o : Outbox μ) (d : String) (e : Error) (purpose : Purpose μ) :
    arrivals (o.resume d (.error e) purpose).2 = [] := by
  cases purpose with
  | flush | send => rfl
  | sweep rest log errors => exact (o.sweep_accepts_none rest _ _).1

/-- **After a flush that failed its destination is idle**, and what its answer leaves of the batch
stands before the queue. -/
theorem failed_step (sound : o.Sound) {f : Flight μ} {outer : List (Flight μ)}
    (top : o.flights = f :: outer) {answer : Answer}
    (failed : ∀ receipt, answer = .ok receipt → receipt.refused ≠ []) :
    (o.step (.answer answer)).1.isBusy f.destination = false ∧
      (o.step (.answer answer)).1.queue f.destination =
        Shipment.left ⟨f.destination, f.batch, answer⟩ ++ o.queue f.destination := by
  have ends : o.endsFlush f.destination (.answer answer) := by
    cases answer with
    | error e => simp [endsFlush, top]
    | ok receipt => simp [endsFlush, top, failed receipt rfl]
  have none : arrivals (o.step (.answer answer)).2 = [] := by
    cases answer with
    | error e =>
      simp only [step, settle, top, land]
      exact resume_error_accepts_none _ _ _ _
    | ok receipt =>
      simp only [step, settle, top, land, Receipt.isClean_iff, failed receipt rfl, if_false]
      rw [← List.singleton_append, arrivals_append, arrivals_append, arrivals_refusals,
        resume_error_accepts_none]
      rfl
  have idle := (unlocked_of_endsFlush sound ends).1
  have quiet := accepted_sublist (o.step (.answer answer)).2 f.destination
  rw [none, List.sublist_nil] at quiet
  have left := outstanding_step sound.exclusive (.answer answer) f.destination
  rw [quiet, List.append_nil, outstanding, inFlight_of_idle idle, List.nil_append] at left
  refine ⟨idle, ?_⟩
  rw [left, ← sound.exclusive.outstanding_reclaim top]
  simp only [noted, top]

/-! ## A flush that goes on -/

/-- What a flush with its flight above others has become: it is where it was, with a batch that
is the only one of its destination. The batches of the destination that were handed over since
are those that followed each other in this flush, and they were taken from the head of the
queue. -/
structure Continues (o : Outbox μ) (f : Flight μ) (outer : List (Flight μ))
    (seen : Outbox μ × List (Notice μ)) (f' : Flight μ) : Prop where
  place : ∃ inner, seen.1.flights = inner ++ f' :: outer ∧
    ∀ g ∈ inner ++ outer, g.destination ≠ f.destination
  destination : f'.destination = f.destination
  purpose : f'.purpose = f.purpose
  calls : f.batch :: handedTo seen.2 f.destination =
    (shipmentsTo seen.2 f.destination).map (·.batch) ++ [f'.batch]
  queue : f.batch ++ o.queue f.destination ++ accepted seen.2 f.destination =
    (shipmentsTo seen.2 f.destination).flatMap (·.batch) ++ f'.batch ++
      seen.1.queue f.destination

/-- The flight of a destination is the only one. -/
theorem Exclusive.alone (h : o.Exclusive) {f : Flight μ} {inner outer : List (Flight μ)}
    (place : o.flights = inner ++ f :: outer) :
    ∀ g ∈ inner ++ outer, g.destination ≠ f.destination := by
  intro g hg same
  rw [Exclusive, place, List.map_append, List.map_cons, List.nodup_middle, List.nodup_cons] at h
  refine h.1 ?_
  rw [← List.map_append, ← same]
  exact List.mem_map_of_mem hg

theorem Continues.refl (exclusive : o.Exclusive) {f : Flight μ} {inner outer : List (Flight μ)}
    (place : o.flights = inner ++ f :: outer) : Continues o f outer (o, []) f where
  place := ⟨inner, place, exclusive.alone place⟩
  destination := rfl
  purpose := rfl
  calls := by simp [handedTo, shipmentsTo, shipments]
  queue := by simp [accepted, acceptances, shipmentsTo, shipments]

theorem Continues.trans {o' : Outbox μ} {h k : List (Notice μ)} {last : Outbox μ}
    {f f' f'' : Flight μ} {outer : List (Flight μ)} (first : Continues o f outer (o', h) f')
    (then_ : Continues o' f' outer (last, k) f'') : Continues o f outer (last, h ++ k) f'' where
  place := first.destination ▸ then_.place
  destination := then_.destination.trans first.destination
  purpose := then_.purpose.trans first.purpose
  calls := by
    have later := then_.calls
    rw [first.destination] at later
    rw [handedTo_append, ← List.cons_append, first.calls, shipmentsTo_append, List.map_append,
      List.append_assoc, List.append_assoc, ← later]
    rfl
  queue := by
    have now := first.queue
    have later := then_.queue
    rw [first.destination] at later
    rw [accepted_append, ← List.append_assoc, now, shipmentsTo_append, List.flatMap_append]
    simp only [List.append_assoc] at later ⊢
    rw [later]

/-- What happens above a flight does not touch it: its destination gets neither a batch nor an
answer, and its queue only grows. -/
theorem step_above (sound : o.Sound) {f : Flight μ} {inner outer : List (Flight μ)}
    (place : o.flights = inner ++ f :: outer) {input : Input μ}
    (others : ∀ answer, input = .answer answer → inner ≠ []) :
    (∃ inner', (o.step input).1.flights = inner' ++ f :: outer) ∧
      handedTo (o.step input).2 f.destination = [] ∧
      shipmentsTo (o.step input).2 f.destination = [] ∧
      (o.step input).1.queue f.destination =
        o.queue f.destination ++ accepted (o.step input).2 f.destination := by
  obtain ⟨inner', waits⟩ := exists_below place others
  rcases step_cases sound.exclusive input with ⟨-, none, -⟩ | ⟨notices, all, halts⟩
  · simp [place] at none
  have busy : (o.noted input).isBusy f.destination = true := by
    simp [isBusy, waits]
  obtain ⟨quiet, grows⟩ := halts.of_busy busy
  -- the answer is for another destination
  have other : handedTo (o.heard input) f.destination = [] ∧
      shipmentsTo (o.heard input) f.destination = [] ∧
      accepted (o.heard input) f.destination = [] ∧
      (o.noted input).queue f.destination = o.queue f.destination := by
    cases input with
    | start operation => cases operation <;> exact ⟨rfl, rfl, rfl, rfl⟩
    | answer answer =>
      obtain ⟨g, inner', rfl⟩ := List.exists_cons_of_ne_nil (others answer rfl)
      have apart : g.destination ≠ f.destination := sound.exclusive.alone place g (by simp)
      rw [List.cons_append] at place
      simp only [heard, noted, place]
      refine ⟨rfl, by rw [shipmentsTo_answered, if_neg apart], rfl, ?_⟩
      exact queue_reclaim_of_ne _ answer (Ne.symm apart)
  obtain ⟨new, stack⟩ := below_suffix_step sound.exclusive input
  rw [waits, ← List.append_assoc] at stack
  refine ⟨⟨_, stack.symm⟩, ?_, ?_, ?_⟩
  · rw [all, handedTo_append, other.1, quiet, List.append_nil]
  · rw [all, shipmentsTo_append, other.2.1, halts.shipmentsTo_eq_nil, List.append_nil]
  · rw [all, accepted_append, other.2.2.1, List.nil_append, grows, other.2.2.2]

/-- Below the top, a flush waits, and its queue only grows. -/
theorem continues_below (sound : o.Sound) {f : Flight μ} {inner outer : List (Flight μ)}
    (place : o.flights = inner ++ f :: outer) {input : Input μ}
    (others : ∀ answer, input = .answer answer → inner ≠ []) :
    Continues o f outer (o.step input) f := by
  obtain ⟨⟨inner', place'⟩, quiet, unanswered, grows⟩ := step_above sound place others
  refine ⟨⟨inner', place', (sound.step input).exclusive.alone place'⟩, rfl, rfl, ?_, ?_⟩
  · simp [quiet, unanswered]
  · simp [unanswered, grows]

/-- On the top, a flush goes on with its next batch. -/
theorem continues_top (sound : o.Sound) {f : Flight μ} {outer : List (Flight μ)}
    (top : o.flights = f :: outer) {answer : Answer}
    (goes_on : o.endsFlush f.destination (.answer answer) = false) :
    ∃ f', Continues o f outer (o.step (.answer answer)) f' := by
  have next := settle_of_goes_on top goes_on
  have alone := sound.exclusive.alone (show o.flights = [] ++ f :: outer from top)
  have notices : (o.step (.answer answer)).2 = [.answered f.destination f.batch answer] ++
      [.event ⟨.debug, LogLine.delivered f.destination f.batch.length⟩,
        .handed f.destination ((o.queue f.destination).take o.batchSize)] := by
    simp [step, next]
  have answered : shipmentsTo (o.step (.answer answer)).2 f.destination =
      [⟨f.destination, f.batch, answer⟩] := by
    rw [notices, shipmentsTo_append, shipmentsTo_answered, if_pos rfl]
    rfl
  obtain ⟨above, rest⟩ := next_of_goes_on top goes_on
  refine ⟨⟨f.destination, (o.queue f.destination).take o.batchSize, f.written, f.purpose⟩,
    ⟨[], above, alone⟩, rfl, rfl, ?_, ?_⟩
  · rw [answered, notices]
    simp [handedTo]
  · rw [answered, step, rest, ← step, notices]
    simp [accepted, acceptances, Notice.acceptance?]

/-- **A flush goes on until an input ends it.** -/
theorem flushing_step (sound : o.Sound) {f : Flight μ} {inner outer : List (Flight μ)}
    (place : o.flights = inner ++ f :: outer) {input : Input μ}
    (goes_on : o.endsFlush f.destination input = false) :
    ∃ f', Continues o f outer (o.step input) f' := by
  by_cases latest : ∃ answer, input = .answer answer ∧ inner = []
  · obtain ⟨answer, rfl, rfl⟩ := latest
    exact continues_top sound place goes_on
  · exact ⟨f, continues_below sound place fun answer same none => latest ⟨answer, same, none⟩⟩

theorem flushing_run (sound : o.Sound) {f : Flight μ} {inner outer : List (Flight μ)}
    (place : o.flights = inner ++ f :: outer) {inputs : List (Input μ)}
    (goes_on : Flushing f.destination o inputs) :
    ∃ f', Continues o f outer (o.run inputs) f' := by
  induction inputs generalizing o f inner with
  | nil => exact ⟨f, .refl sound.exclusive place⟩
  | cons input inputs ih =>
    obtain ⟨first, rest⟩ := goes_on
    obtain ⟨f', continues⟩ := flushing_step sound place first
    obtain ⟨inner', place', -⟩ := continues.place
    obtain ⟨last, later⟩ := ih (sound.step input) place' (continues.destination ▸ rest)
    exact ⟨last, continues.trans later⟩

/-! ## Operations that have to wait -/

/-- Whoever wants to flush a destination with a batch in flight is given up, and nobody else. -/
theorem start_flush_blocked_iff (o : Outbox μ) (d : String) :
    o.start (.flush d) = (o, [.blocked d]) ↔ ∃ f ∈ o.flights, f.destination = d := by
  have locked : o.isBusy d = true ↔ ∃ f ∈ o.flights, f.destination = d := by simp [isBusy]
  rw [← locked]
  constructor
  · intro given_up
    by_contra idle
    have notices := congrArg Prod.snd given_up
    simp only [start, beginFlush, if_neg idle, proceed] at notices
    split at notices
    · simp [resume] at notices
    · simp [handOver] at notices
  · intro busy
    simp [start, beginFlush, busy]

/-- A batch that leaves lies on top of what is in flight. -/
theorem Halts.of_handed {next : Outbox μ} {plan : List String} {notices : List (Notice μ)}
    (h : Halts o plan notices next) {d : String} {batch : List μ}
    (handed : .handed d batch ∈ notices) :
    ∃ f, next.flights = f :: o.flights ∧ f.destination = d ∧ f.batch = batch := by
  induction h with
  | event e later ih => exact ih (by simpa using handed)
  | @handed d' log purpose idle waiting planned =>
    simp only [handOver, List.mem_singleton, Notice.handed.injEq] at handed
    obtain ⟨rfl, rfl⟩ := handed
    exact ⟨_, rfl, rfl, rfl⟩
  | _ => simp at handed

theorem handed_step (sound : o.Sound) {input : Input μ} {d : String} {batch : List μ}
    (handed : .handed d batch ∈ (o.step input).2) :
    ∃ f, (o.step input).1.flights = f :: o.below input ∧ f.destination = d ∧
      f.batch = batch := by
  rcases step_cases sound.exclusive input with ⟨same, -⟩ | ⟨notices, all, halts⟩
  · simp [same] at handed
  have unheard : .handed d batch ∉ o.heard input := fun first => by
    obtain ⟨_, _, _, impossible⟩ := mem_heard first
    cases impossible
  rw [all, List.mem_append] at handed
  simpa using halts.of_handed (handed.resolve_left unheard)

/-- An answer is for a known destination. -/
theorem Sound.destinations_noted (sound : o.Sound) (input : Input μ) :
    (o.noted input).destinations = o.destinations := by
  cases input with
  | start operation => cases operation <;> rfl
  | answer answer =>
    simp only [Outbox.noted]
    split
    · rfl
    · next f outer top =>
      have known : f.destination ∈ o.destinations := sound.known f (by simp [top])
      have same (ms : List μ) : (o.setQueue f.destination ms).destinations = o.destinations :=
        o.queues.names_insert known ms
      cases answer with
      | error e => exact same _
      | ok receipt =>
        simp only [reclaim]
        split
        · rfl
        · exact same _

/-- **An operation that would have to wait is given up and changes nothing**: what it would wait
for lies below it, and the queue of that destination and the destinations known stay. -/
theorem blocked_step (sound : o.Sound) {input : Input μ} {d : String}
    (given_up : .blocked d ∈ (o.step input).2) :
    (∃ f ∈ o.below input, f.destination = d) ∧ (o.step input).1 = o.noted input ∧
      (o.step input).1.queue d = o.queue d ∧
      (o.step input).1.destinations = o.destinations := by
  rcases step_cases sound.exclusive input with ⟨same, -⟩ | ⟨notices, all, halts⟩
  · simp [same] at given_up
  have unheard : .blocked d ∉ o.heard input := fun first => by
    obtain ⟨_, _, _, impossible⟩ := mem_heard first
    cases impossible
  rw [all, List.mem_append] at given_up
  obtain ⟨same, busy, -⟩ := halts.of_blocked (given_up.resolve_left unheard)
  have waits : ∃ f ∈ o.below input, f.destination = d := by simpa [isBusy] using busy
  rw [same]
  refine ⟨waits, rfl, ?_, sound.destinations_noted input⟩
  cases input with
  | start operation => cases operation <;> rfl
  | answer answer =>
    cases top : o.flights with
    | nil => simp [noted, top]
    | cons f outer =>
      obtain ⟨g, hg, rfl⟩ := waits
      simp only [below, top, List.tail_cons] at hg
      simp only [noted, top]
      exact queue_reclaim_of_ne _ answer
        (isBusy_eq_false.1 (sound.exclusive.idle_outer top) g hg)

/-! ## Operations that end -/

/-- An operation that is over leaves in flight what lay below it, and nothing else. -/
theorem below_of_finished (exclusive : o.Exclusive) {input : Input μ}
    {result : Except Error Outcome}
    (ended : (o.step input).2.getLast? = some (.finished result)) :
    (o.step input).1.flights = o.below input := by
  rcases step_cases exclusive input with ⟨same, -⟩ | ⟨notices, all, halts⟩
  · simp [same] at ended
  rcases halts.ending with ⟨same, -⟩ | ⟨f, -, -, -, -, handed⟩
  · rw [same, flights_noted]
  · rw [all, getLast?_append_of_getLast? handed] at ended
    cases ended

/-- When nothing is in flight any more, the operation has not been given up. -/
theorem finished_of_grounded (exclusive : o.Exclusive) {input : Input μ}
    (asked : ∀ answer, input = .answer answer → o.flights ≠ [])
    (grounded : (o.step input).1.flights = []) :
    ∃ result, (o.step input).2.getLast? = some (.finished result) := by
  rcases step_ending exclusive asked with ⟨same, finished | ⟨d, busy, -⟩⟩ | ⟨f, top, -⟩
  · exact finished
  · have none : o.below input = [] := same.symm.trans grounded
    simp [isBusy, none] at busy
  · simp [grounded] at top

/-- An operation that is started with nothing in flight ends with a result. -/
theorem finished_of_ongoing (sound : o.Sound) {input : Input μ}
    (asked : ∀ answer, input = .answer answer → o.flights ≠ []) {inputs : List (Input μ)}
    (ongoing : Ongoing 0 (o.step input).1 inputs)
    (grounded : (o.run (input :: inputs)).1.flights = []) :
    ∃ result, (o.run (input :: inputs)).2.getLast? = some (.finished result) := by
  induction inputs generalizing o input with
  | nil => simpa [run_cons] using finished_of_grounded sound.exclusive asked grounded
  | cons next inputs ih =>
    have flying : (o.step input).1.flights ≠ [] := List.ne_nil_of_length_pos ongoing.1
    obtain ⟨result, last⟩ := ih (sound.step input) (fun _ _ => flying) ongoing.2 grounded
    exact ⟨result, by rw [run_cons]; exact getLast?_append_of_getLast? last⟩

/-- **One flush for each destination, and its lock is always given back.** At any moment of any
history,
* a flush is given up exactly if a batch of its destination is in flight;
* a batch that leaves lies on top of what is in flight, and until an input ends its flush, only
  this flush hands over batches for the destination, taken from the head of the queue;
* the end of a flush unlocks the destination and hands over nothing for it;
* an operation that is given up waits for a batch below it, and leaves the queue of that
  destination and the destinations known as they were;
* an operation that is over leaves nothing in flight above what it found, and one that found
  nothing ends with a result. -/
theorem one_flush_per_destination {limit size : ℕ} (made : create? limit size = .ok o)
    (before : List (Input μ)) :
    let now := (o.run before).1
    (∀ d, now.start (.flush d) = (now, [.blocked d]) ↔ ∃ f ∈ now.flights, f.destination = d) ∧
    (∀ input d batch, .handed d batch ∈ (now.step input).2 →
      ∃ f, (now.step input).1.flights = f :: now.below input ∧ f.destination = d ∧
        f.batch = batch) ∧
    (∀ inner f outer inputs, now.flights = inner ++ f :: outer →
      Flushing f.destination now inputs → ∃ f', Continues now f outer (now.run inputs) f') ∧
    (∀ d input, now.endsFlush d input →
      (now.step input).1.isBusy d = false ∧ handedTo (now.step input).2 d = []) ∧
    (∀ input d, .blocked d ∈ (now.step input).2 →
      (∃ f ∈ now.below input, f.destination = d) ∧ (now.step input).1 = now.noted input ∧
        (now.step input).1.queue d = now.queue d ∧
        (now.step input).1.destinations = now.destinations) ∧
    (∀ input result, (now.step input).2.getLast? = some (.finished result) →
      (now.step input).1.flights = now.below input) ∧
    (now.flights = [] → ∀ operation during, Ongoing 0 (now.start operation).1 during →
      (now.run (.start operation :: during)).1.flights = [] →
        ∃ result, now.Returns operation during result) := by
  intro now
  have sound : now.Sound := (sound_new made).run before
  refine ⟨now.start_flush_blocked_iff, fun input d batch => handed_step sound, ?_, ?_,
    fun input d => blocked_step sound, fun input result => below_of_finished sound.exclusive, ?_⟩
  · intro inner f outer inputs place goes_on
    exact flushing_run sound place goes_on
  · intro d input ends
    exact unlocked_of_endsFlush sound ends
  · intro grounded operation during ongoing ended
    have asked : ∀ answer, Input.start operation = .answer answer → now.flights ≠ [] := by simp
    obtain ⟨result, last⟩ := finished_of_ongoing sound asked ongoing ended
    exact ⟨result, by simpa [grounded] using ongoing, by simp [ended, grounded], last⟩

/-- A message waits for the flush of the one before it. -/
def secondWaits : List (Input ℕ) :=
  [.start (.send "orders" (.ok 1)), .start (.send "orders" (.ok 2))]

/-- While the batch is away, a message joins the queue, and whoever would flush it is given up;
then the flush goes on with it. -/
def thirdJoins : List (Input ℕ) :=
  [.start (.send "orders" (.ok 3)), .start (.flush "orders"), .start .flushAll,
    .start (.send "orders" (.ok 4)), .start .close, .answer (.ok ⟨[⟨0, "a"⟩], []⟩)]

/-- The message that joined leaves with the flush that another message waits for. -/
theorem third_leaves_for_second :
    let now := ((single ℕ).run secondWaits).1
    let waiting : Flight ℕ := ⟨"orders", [1], .empty, .send 2⟩
    create? 10 1 = .ok (single ℕ) ∧ now.start (.flush "orders") = (now, [.blocked "orders"]) ∧
      Flushing "orders" now thirdJoins ∧
      ∃ f, Continues now waiting [] (now.run thirdJoins) f ∧ f.batch = [3] := by
  intro now waiting
  have made : create? 10 1 = .ok (single ℕ) := rfl
  have place : now.flights = [] ++ waiting :: [] := rfl
  have goes_on : Flushing "orders" now thirdJoins := by decide
  obtain ⟨locked, -, flush, -⟩ := one_flush_per_destination made secondWaits
  obtain ⟨f, continues⟩ := flush [] waiting [] thirdJoins place goes_on
  refine ⟨made, (locked "orders").2 ⟨waiting, place ▸ List.mem_singleton_self _, rfl⟩,
    goes_on, f, continues, ?_⟩
  have handed : handedTo (now.run thirdJoins).2 "orders" = [[3]] := rfl
  have answered : (shipmentsTo (now.run thirdJoins).2 "orders").map (·.batch) = [[1]] := rfl
  have calls := continues.calls
  rw [handed, answered, List.cons_append, List.cons.injEq] at calls
  simpa using calls.2.symm

end Outbox

end Dispatch
