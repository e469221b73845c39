import Dispatch.Proofs.Outbox.Flushing

/-!
# What a flush is for does not matter until it ends

A flush is made because a caller asked for it, because a message needs room, or on the way over all
destinations. What it was made for is written on its flight, and nobody looks there before the flush
is over: with another purpose, the same things happen to it and above it, with the same notices
(`Outbox.lockstep`). So an operation that begins with the flush of a destination does what the flush
alone would do, and then what it has left to do (`Leg.exists_serves`, `Leg.Serves.onward_append`).

## Main definitions

* `History.calls`: the calls of the carrier and its answers.
* `Outbox.upon`: an outbox whose flights lie upon others.
* `Outbox.own`, `Outbox.ownNotices`: what an operation itself makes known.
* `Outbox.onward`: a step, and what follows it.
* `Leg`, `Leg.Serves`, `Leg.Leads`: a flush that is over, and what it is for.

## Main statements

* `Outbox.lockstep`: with another purpose a flush goes on alike.
* `Leg.exists_serves`: an operation that begins with a flush comes to the end of it.
* `Leg.Serves.onward_append`: and goes on from there.
* `Leg.exists_leads`: a flush that returns leads from one outbox to another one.
-/
namespace Dispatch

open History

variable {μ : Type}

/-- Whether a notice is of a batch that is handed over, or of the answer for it. -/
def Notice.isCall : Notice μ → Bool
  | .handed .. | .answered .. => true
  | .queued .. | .event _ | .finished _ | .blocked _ => false

/-- The batches that were handed over and the answers for them, in the order it happened. -/
def History.calls (h : List (Notice μ)) : List (Notice μ) := h.filter Notice.isCall

theorem History.calls_append (h k : List (Notice μ)) : calls (h ++ k) = calls h ++ calls k :=
  List.filter_append _ _

/-- The same batch, handed over for something else. -/
def Flight.for (f : Flight μ) (purpose : Purpose μ) : Flight μ := { f with purpose := purpose }

/-- A flush that is over: its destination, what happened meanwhile, all that was noticed before its
end, what it made known itself, and its result. -/
structure Leg (μ : Type) where
  destination : String
  during : List (Input μ)
  told : List (Notice μ)
  said : List (Notice μ)
  result : Except Error Log

namespace Outbox

/-! ## Flights upon others -/

/-- The outbox with its flights upon others. -/
def upon (o : Outbox μ) (base : List (Flight μ)) : Outbox μ :=
  { o with flights := o.flights ++ base }

variable {o : Outbox μ} {base base' : List (Flight μ)}

@[simp] theorem flights_upon (o : Outbox μ) (base : List (Flight μ)) :
    (o.upon base).flights = o.flights ++ base := rfl

theorem isBusy_upon (o : Outbox μ) (base : List (Flight μ)) (d : String) :
    (o.upon base).isBusy d = (o.isBusy d || base.any (·.destination == d)) := by
  simp [isBusy, upon]

theorem upon_inj {o' : Outbox μ} {f f' : Flight μ}
    (same : o.upon (f :: base) = o'.upon (f' :: base)) : o = o' ∧ f = f' := by
  obtain ⟨above, below⟩ := List.append_inj' (congrArg flights same) rfl
  refine ⟨?_, (List.cons.inj below).1⟩
  cases o
  cases o'
  simp only [upon, mk.injEq] at same above ⊢
  exact ⟨same.1, same.2.1, above, same.2.2.2⟩

/-- Two steps with different flights at the bottom do the same above them. -/
def Same (base base' : List (Flight μ)) (r r' : Outbox μ × List (Notice μ)) : Prop :=
  ∃ (next : Outbox μ) (notices : List (Notice μ)),
    r = (next.upon base, notices) ∧ r' = (next.upon base', notices)

theorem Same.cons {r r' : Outbox μ × List (Notice μ)} (h : Same base base' r r') (n : Notice μ) :
    Same base base' (r.1, n :: r.2) (r'.1, n :: r'.2) := by
  obtain ⟨next, notices, rfl, rfl⟩ := h
  exact ⟨next, n :: notices, rfl, rfl⟩

theorem Same.append {r r' : Outbox μ × List (Notice μ)} (h : Same base base' r r')
    (earlier : List (Notice μ)) :
    Same base base' (r.1, earlier ++ r.2) (r'.1, earlier ++ r'.2) := by
  obtain ⟨next, notices, rfl, rfl⟩ := h
  exact ⟨next, earlier ++ notices, rfl, rfl⟩

section Bottom

variable (same : base.map (·.destination) = base'.map (·.destination))
include same

/-- Which destinations are busy depends on the destinations of the flights alone. -/
theorem isBusy_upon_congr (o : Outbox μ) (d : String) :
    (o.upon base').isBusy d = (o.upon base).isBusy d := by
  have any (fs : List (Flight μ)) :
      fs.any (·.destination == d) = (fs.map (·.destination)).any (· == d) := by
    rw [List.any_map]
    rfl
  rw [isBusy_upon, isBusy_upon, any, any, same]

theorem sweep_upon (o : Outbox μ) (ds : List String) (log : Log) (errors : List Error) :
    Same base base' ((o.upon base).sweep ds log errors) ((o.upon base').sweep ds log errors) := by
  induction ds with
  | nil => exact ⟨o, _, rfl, rfl⟩
  | cons d rest ih =>
    simp only [sweep, isBusy_upon_congr same]
    split
    · exact ⟨o, _, rfl, rfl⟩
    · change Same base base' (if (o.queue d).isEmpty then _ else _)
        (if (o.queue d).isEmpty then _ else _)
      split
      · exact ih
      · exact ⟨(o.handOver d .empty (.sweep rest log errors)).1, _, rfl, rfl⟩

theorem resume_upon (o : Outbox μ) (d : String) (result : Except Error Log)
    (purpose : Purpose μ) :
    Same base base' ((o.upon base).resume d result purpose)
      ((o.upon base').resume d result purpose) := by
  cases purpose with
  | flush => exact ⟨o, _, rfl, rfl⟩
  | send m =>
    cases result with
    | ok log => exact ⟨o.push d m, _, rfl, rfl⟩
    | error e => exact ⟨o, _, rfl, rfl⟩
  | sweep rest log errors =>
    cases result with
    | ok flushed => exact sweep_upon same o rest _ errors
    | error e => exact (sweep_upon same o rest _ _).cons _

theorem proceed_upon (o : Outbox μ) (d : String) (log : Log) (purpose : Purpose μ) :
    Same base base' ((o.upon base).proceed d log purpose)
      ((o.upon base').proceed d log purpose) := by
  change Same base base' (if (o.queue d).isEmpty then _ else _)
    (if (o.queue d).isEmpty then _ else _)
  split
  · exact resume_upon same o d _ purpose
  · exact ⟨(o.handOver d log purpose).1, _, rfl, rfl⟩

theorem beginFlush_upon (o : Outbox μ) (d : String) (purpose : Purpose μ) :
    Same base base' ((o.upon base).beginFlush d purpose)
      ((o.upon base').beginFlush d purpose) := by
  simp only [beginFlush, isBusy_upon_congr same]
  split
  · exact ⟨o, _, rfl, rfl⟩
  · exact proceed_upon same o d _ purpose

/-- An operation that starts does not see what the flights at the bottom are for. -/
theorem start_upon (o : Outbox μ) (operation : Operation μ) :
    Same base base' ((o.upon base).start operation) ((o.upon base').start operation) := by
  cases operation with
  | send d message =>
    change Same base base' (if o.closed then _ else _) (if o.closed then _ else _)
    split
    · exact ⟨o, _, rfl, rfl⟩
    · cases message with
      | error cause => exact ⟨o, _, rfl, rfl⟩
      | ok m =>
        change Same base base' (if o.batchSize ≤ o.pending d then _ else _)
          (if o.batchSize ≤ o.pending d then _ else _)
        split
        · exact beginFlush_upon same o d _
        · exact resume_upon same o d _ _
  | flush d => exact beginFlush_upon same o d _
  | flushAll => exact sweep_upon same o _ _ _
  | close => exact sweep_upon same { o with closed := true } _ _ _

theorem land_upon (o : Outbox μ) (f : Flight μ) (answer : Answer) :
    Same base base' ((o.upon base).land f answer) ((o.upon base').land f answer) := by
  cases answer with
  | error e => exact (resume_upon same (o.restore f.destination f.batch) _ _ f.purpose).cons _
  | ok receipt =>
    simp only [land]
    split
    · exact (proceed_upon same o _ _ f.purpose).cons _
    · exact (resume_upon same (o.restore f.destination (receipt.undelivered f.batch)) _ _
        f.purpose).append _

/-- Nor does an answer for a batch above them. -/
theorem step_upon (o : Outbox μ) {input : Input μ}
    (above : ∀ answer, input = .answer answer → o.flights ≠ []) :
    Same base base' ((o.upon base).step input) ((o.upon base').step input) := by
  cases input with
  | start operation => exact start_upon same o operation
  | answer answer =>
    obtain ⟨f, inner, top⟩ := List.exists_cons_of_ne_nil (above answer rfl)
    have landed := (land_upon same ({ o with flights := inner } : Outbox μ) f answer).cons
      (.answered f.destination f.batch answer)
    simp only [step, settle, flights_upon, top, List.cons_append]
    exact landed

end Bottom

/-! ## What an operation itself makes known -/

/-- Whether an input answers for the batch of the operation that lies on `n` flights. -/
def answersFor (o : Outbox μ) (n : ℕ) : Input μ → Bool
  | .start _ => false
  | .answer _ => o.flights.length == n + 1

/-- The notices of the steps of the operation that lies on `n` flights: those that answer for a
batch of its own. The operations above it have theirs. -/
def own (n : ℕ) : Outbox μ → List (Input μ) → List (Notice μ)
  | _, [] => []
  | o, input :: inputs =>
    (if o.answersFor n input then (o.step input).2 else []) ++ own n (o.step input).1 inputs

/-- All that an operation itself makes known, from its start on. -/
def ownNotices (o : Outbox μ) (operation : Operation μ) (during : List (Input μ)) :
    List (Notice μ) :=
  (o.start operation).2 ++ own o.flights.length (o.start operation).1 during

theorem acceptances_append (h k : List (Notice μ)) :
    acceptances (h ++ k) = acceptances h ++ acceptances k := List.filterMap_append

theorem own_append (n : ℕ) (o : Outbox μ) (first later : List (Input μ)) :
    own n o (first ++ later) = own n o first ++ own n (o.run first).1 later := by
  induction first generalizing o with
  | nil => rfl
  | cons input first ih => simp [own, run_cons, ih]

theorem ongoing_append {n : ℕ} {o : Outbox μ} {first later : List (Input μ)} :
    Ongoing n o (first ++ later) ↔ Ongoing n o first ∧ Ongoing n (o.run first).1 later := by
  induction first generalizing o with
  | nil => simp [Ongoing]
  | cons input first ih => simp [Ongoing, run_cons, ih, and_assoc]

/-- Nothing goes on when nothing lies above. -/
theorem eq_nil_of_ongoing {n : ℕ} {o : Outbox μ} {inputs : List (Input μ)}
    (ongoing : Ongoing n o inputs) (low : o.flights.length ≤ n) : inputs = [] := by
  cases inputs with
  | nil => rfl
  | cons input inputs => exact absurd ongoing.1 (Nat.not_lt.2 low)

/-- A step, and what follows it. -/
def onward (step : Outbox μ × List (Notice μ)) (inputs : List (Input μ)) :
    Outbox μ × List (Notice μ) :=
  ((step.1.run inputs).1, step.2 ++ (step.1.run inputs).2)

theorem run_start (o : Outbox μ) (operation : Operation μ) (inputs : List (Input μ)) :
    o.run (.start operation :: inputs) = onward (o.start operation) inputs := rfl

@[simp] theorem onward_nil (step : Outbox μ × List (Notice μ)) : onward step [] = step := by
  simp [onward]

theorem onward_append (step : Outbox μ × List (Notice μ)) (first later : List (Input μ)) :
    onward step (first ++ later) = onward (onward step first) later := by
  simp [onward, run_append]

/-! ## A flush with another purpose -/

variable {top : Outbox μ} {f : Flight μ}

/-- Which inputs end a flush does not depend on what it is for. -/
theorem endsFlush_for (top : Outbox μ) (f : Flight μ) (purpose : Purpose μ) (d : String)
    (input : Input μ) :
    (top.upon (f.for purpose :: base)).endsFlush d input =
      (top.upon (f :: base)).endsFlush d input := by
  cases input with
  | start operation => rfl
  | answer answer =>
    simp only [endsFlush, flights_upon]
    cases top.flights <;> rfl

theorem answersFor_for (top : Outbox μ) (f : Flight μ) (purpose : Purpose μ) (n : ℕ)
    (input : Input μ) :
    (top.upon (f.for purpose :: base)).answersFor n input =
      (top.upon (f :: base)).answersFor n input := by
  cases input with
  | start operation => rfl
  | answer answer => simp [answersFor]

/-- While the flush goes on, a step does the same whatever it is for. -/
theorem step_for (purpose : Purpose μ) {input : Input μ}
    (goes_on : (top.upon (f :: base)).endsFlush f.destination input = false) :
    ∃ (top' : Outbox μ) (g : Flight μ) (notices : List (Notice μ)),
      g.destination = f.destination ∧ g.purpose = f.purpose ∧
        (top.upon (f :: base)).step input = (top'.upon (g :: base), notices) ∧
        (top.upon (f.for purpose :: base)).step input =
          (top'.upon (g.for purpose :: base), notices) := by
  by_cases latest : ∃ answer, input = .answer answer ∧ top.flights = []
  · obtain ⟨answer, rfl, none⟩ := latest
    have place (q : Purpose μ) : (top.upon (f.for q :: base)).flights = f.for q :: base := by
      rw [flights_upon, none, List.nil_append]
    have next (q : Purpose μ) :
        (({ top.upon (f.for q :: base) with flights := base } : Outbox μ).handOver f.destination
          f.written q).1 =
        (top.setQueue f.destination ((top.queue f.destination).drop top.batchSize)).upon
          (⟨f.destination, (top.queue f.destination).take top.batchSize, f.written, q⟩ ::
            base) := by
      simp [handOver, upon, none, setQueue, queue]
    have still (q : Purpose μ) :
        (top.upon (f.for q :: base)).endsFlush f.destination (.answer answer) = false :=
      (endsFlush_for top f q _ _).trans goes_on
    have settled (q : Purpose μ) := settle_of_goes_on (place q) (still q)
    refine ⟨_, ⟨f.destination, _, f.written, f.purpose⟩, _, rfl, rfl,
      (settled f.purpose).trans (Prod.ext (next f.purpose) rfl),
      (settled purpose).trans (Prod.ext (next purpose) rfl)⟩
  · have above : ∀ answer, input = .answer answer → top.flights ≠ [] :=
      fun answer same none => latest ⟨answer, same, none⟩
    have same : (f :: base).map (·.destination) = (f.for purpose :: base).map (·.destination) :=
      rfl
    obtain ⟨next, notices, first, second⟩ := step_upon same top above
    exact ⟨next, f, notices, rfl, rfl, first, second⟩

/-- A flush that goes on accepts no message itself. -/
theorem quiet_of_goes_on {input : Input μ}
    (goes_on : (top.upon (f :: base)).endsFlush f.destination input = false)
    (answers : (top.upon (f :: base)).answersFor base.length input) :
    acceptances ((top.upon (f :: base)).step input).2 = [] := by
  cases input with
  | start operation => cases answers
  | answer answer =>
    have none : top.flights = [] := by simpa [answersFor] using answers
    have here : (top.upon (f :: base)).flights = f :: base := by simp [none]
    rw [step, settle_of_goes_on here goes_on]
    rfl

/-- Two histories of a flush that differ in what it is for, and in nothing else: it goes on in both
of them, with the same notices. -/
structure Lockstep (f : Flight μ) (base : List (Flight μ)) (purpose : Purpose μ)
    (top : Outbox μ) (inputs : List (Input μ)) (top' : Outbox μ) (g : Flight μ)
    (notices : List (Notice μ)) : Prop where
  destination : g.destination = f.destination
  purpose_eq : g.purpose = f.purpose
  run_eq : (top.upon (f :: base)).run inputs = (top'.upon (g :: base), notices)
  run_for : (top.upon (f.for purpose :: base)).run inputs =
    (top'.upon (g.for purpose :: base), notices)
  own_for : own base.length (top.upon (f.for purpose :: base)) inputs =
    own base.length (top.upon (f :: base)) inputs
  quiet : acceptances (own base.length (top.upon (f :: base)) inputs) = []
  ongoing : Ongoing base.length (top.upon (f :: base)) inputs
  ongoing_for : Ongoing base.length (top.upon (f.for purpose :: base)) inputs

theorem exists_lockstep (purpose : Purpose μ) {inputs : List (Input μ)}
    (goes_on : Flushing f.destination (top.upon (f :: base)) inputs) :
    ∃ top' g notices, Lockstep f base purpose top inputs top' g notices := by
  induction inputs generalizing top f with
  | nil => exact ⟨top, f, [], rfl, rfl, rfl, rfl, rfl, rfl, trivial, trivial⟩
  | cons input inputs ih =>
    obtain ⟨first, later⟩ := goes_on
    obtain ⟨next, g, notices, destination, purpose_eq, step_eq, step_for_eq⟩ :=
      step_for purpose first
    rw [step_eq, ← destination] at later
    obtain ⟨top', g', more, rest⟩ := ih later
    have above (q : Purpose μ) : base.length < (top.upon (f.for q :: base)).flights.length := by
      simp only [flights_upon, List.length_append, List.length_cons]
      omega
    refine ⟨top', g', notices ++ more, rest.destination.trans destination,
      rest.purpose_eq.trans purpose_eq, ?_, ?_, ?_, ?_, ?_, ?_⟩
    · rw [run_cons, step_eq, rest.run_eq]
    · rw [run_cons, step_for_eq, rest.run_for]
    · rw [own, own, answersFor_for, step_eq, step_for_eq, rest.own_for]
    · rw [own, acceptances_append]
      split
      · next answers => rw [quiet_of_goes_on first answers, step_eq, rest.quiet, List.nil_append]
      · rw [step_eq, rest.quiet]
        rfl
    · exact ⟨above f.purpose, step_eq ▸ rest.ongoing⟩
    · exact ⟨above purpose, step_for_eq ▸ rest.ongoing_for⟩

/-- **A flush goes on alike, whatever it is for.** -/
theorem lockstep {inputs : List (Input μ)}
    (goes_on : Flushing f.destination (top.upon (f :: base)) inputs) :
    ∃ top' g notices, ∀ purpose, Lockstep f base purpose top inputs top' g notices := by
  obtain ⟨last, g, notices, here⟩ := exists_lockstep f.purpose goes_on
  refine ⟨last, g, notices, fun purpose => ?_⟩
  obtain ⟨last', g', notices', along⟩ := exists_lockstep purpose goes_on
  obtain ⟨same, rfl⟩ := Prod.mk.inj (along.run_eq.symm.trans here.run_eq)
  obtain ⟨rfl, rfl⟩ := upon_inj same
  exact along

/-! ## A flush that is over -/

/-- Either none of the inputs ends the flush of a destination, or there is a first one that does. -/
theorem flushing_or_ends (d : String) (o : Outbox μ) (inputs : List (Input μ)) :
    Flushing d o inputs ∨ ∃ first answer later, inputs = first ++ .answer answer :: later ∧
      Flushing d o first ∧ (o.run first).1.endsFlush d (.answer answer) := by
  induction inputs generalizing o with
  | nil => exact .inl trivial
  | cons input inputs ih =>
    by_cases ends : o.endsFlush d input
    · cases input with
      | start operation => cases ends
      | answer answer => exact .inr ⟨[], answer, inputs, rfl, trivial, ends⟩
    · have goes_on : o.endsFlush d input = false := by simpa using ends
      rcases ih (o.step input).1 with all | ⟨first, answer, later, rfl, begins, last⟩
      · exact .inl ⟨goes_on, all⟩
      · exact .inr ⟨input :: first, answer, later, rfl, ⟨goes_on, begins⟩, last⟩

/-- When an answer ends a flush, nothing lies above it. -/
theorem flights_eq_nil_of_endsFlush (exclusive : (top.upon (f :: base)).Exclusive)
    {answer : Answer} (ends : (top.upon (f :: base)).endsFlush f.destination (.answer answer)) :
    top.flights = [] := by
  cases above : top.flights with
  | nil => rfl
  | cons g inner =>
    have apart := exclusive.alone (flights_upon top (f :: base)) g (by simp [above])
    simp [endsFlush, above, apart] at ends

/-- **The end of a flush is the same whatever it is for**: then that follows, with the outbox that
the flush left and with its result. -/
theorem exists_landing (exclusive : (top.upon (f :: base)).Exclusive) {first : List (Input μ)}
    {answer : Answer} (goes_on : Flushing f.destination (top.upon (f :: base)) first)
    (ends : ((top.upon (f :: base)).run first).1.endsFlush f.destination (.answer answer)) :
    ∃ (left : Outbox μ) (told said : List (Notice μ)) (result : Except Error Log),
      left.flights = base ∧ acceptances said = [] ∧ ∀ purpose : Purpose μ,
        let o := top.upon (f.for purpose :: base)
        let next := left.resume f.destination result purpose
        o.run (first ++ [.answer answer]) = (next.1, told ++ next.2) ∧
          own base.length o (first ++ [.answer answer]) = said ++ next.2 ∧
          Ongoing base.length o (first ++ [.answer answer]) := by
  have still : ((top.upon (f :: base)).run first).1.Exclusive :=
    (run_moves exclusive first).exclusive exclusive
  obtain ⟨last, g, notices, along⟩ := lockstep goes_on
  obtain ⟨destination, -, begun, -, -, quiet, -, -⟩ := along f.purpose
  rw [begun] at still ends
  rw [← destination] at ends ⊢
  have none := flights_eq_nil_of_endsFlush still ends
  let told : List (Notice μ) :=
    .answered g.destination g.batch answer :: (g.report answer).map .event
  refine ⟨({ last with flights := base } : Outbox μ).reclaim g answer, notices ++ told,
    own base.length (top.upon (f :: base)) first ++ told, g.result answer, flights_reclaim _ _ _,
    ?_, ?_⟩
  · rw [acceptances_append, quiet]
    simp [told, acceptances, Notice.acceptance?]
  intro purpose o next
  have here := along purpose
  have place : (last.upon (g.for purpose :: base)).flights = g.for purpose :: base := by
    rw [flights_upon, none, List.nil_append]
  have last_step : (last.upon (g.for purpose :: base)).step (.answer answer) =
      (next.1, told ++ next.2) := by
    rw [step, settle_eq_resume place ((endsFlush_for last g purpose _ _).trans ends)]
    rfl
  have answers : (last.upon (g.for purpose :: base)).answersFor base.length (.answer answer) := by
    rw [answersFor, place]
    simp
  refine ⟨?_, ?_, ?_⟩
  · rw [run_append, here.run_for, run_cons, run_nil, last_step, List.append_nil,
      List.append_assoc]
  · rw [own_append, here.own_for, here.run_for, own, own, if_pos answers, last_step,
      List.append_nil, List.append_assoc]
  · rw [ongoing_append, here.run_for]
    refine ⟨here.ongoing_for, ?_, trivial⟩
    rw [place, List.length_cons]
    exact Nat.lt_succ_self _

end Outbox

/-! ## Operations that begin with a flush -/

namespace Leg

open Outbox

variable {o left : Outbox μ} {leg : Leg μ} {d : String}

/-- What becomes of an operation that begins with a flush, when this is over: all that the flush
does, and then what follows it. -/
structure Serves (leg : Leg μ) (o left : Outbox μ) (purpose : Purpose μ) : Prop where
  run_eq : onward (o.proceed leg.destination .empty purpose) leg.during =
    ((left.resume leg.destination leg.result purpose).1,
      leg.told ++ (left.resume leg.destination leg.result purpose).2)
  own_eq : (o.proceed leg.destination .empty purpose).2 ++
      own o.flights.length (o.proceed leg.destination .empty purpose).1 leg.during =
    leg.said ++ (left.resume leg.destination leg.result purpose).2
  ongoing : Ongoing o.flights.length (o.proceed leg.destination .empty purpose).1 leg.during

/-- A flush that was asked for leads from one outbox to another one, where it is over. It has
accepted no message itself. -/
structure Leads (leg : Leg μ) (o left : Outbox μ) : Prop where
  returns : o.Returns (.flush leg.destination) leg.during (leg.result.map .drained)
  run_eq : o.run (.start (.flush leg.destination) :: leg.during) =
    (left, leg.told ++ [.finished (leg.result.map .drained)])
  own_eq : o.ownNotices (.flush leg.destination) leg.during =
    leg.said ++ [.finished (leg.result.map .drained)]
  flights_eq : left.flights = o.flights
  quiet : acceptances leg.said = []

/-- The flush of an empty queue is over at once. -/
theorem serves_of_empty (empty : o.queue d = []) (purpose : Purpose μ) :
    Serves ⟨d, [], [], [], .ok .empty⟩ o o purpose := by
  have at_once : o.proceed d .empty purpose = o.resume d (.ok .empty) purpose := by
    rw [proceed, if_pos (List.isEmpty_iff.2 empty)]
  refine ⟨?_, ?_, trivial⟩
  · rw [onward_nil, at_once]
    rfl
  · rw [at_once, own, List.append_nil]
    rfl

/-- **An operation that begins with a flush comes to the end of it**, if it is over at some time. -/
theorem exists_serves (exclusive : o.Exclusive) (idle : o.isBusy d = false) {purpose : Purpose μ}
    {inputs : List (Input μ)}
    (ongoing : Ongoing o.flights.length (o.proceed d .empty purpose).1 inputs)
    (ended : (onward (o.proceed d .empty purpose) inputs).1.flights.length ≤ o.flights.length) :
    ∃ (leg : Leg μ) (left : Outbox μ) (later : List (Input μ)), leg.destination = d ∧
      inputs = leg.during ++ later ∧ left.flights = o.flights ∧ acceptances leg.said = [] ∧
        ∀ purpose' : Purpose μ, leg.Serves o left purpose' := by
  by_cases empty : o.queue d = []
  · exact ⟨⟨d, [], [], [], .ok .empty⟩, o, inputs, rfl, rfl, rfl, rfl, serves_of_empty empty⟩
  have waiting : ¬(o.queue d).isEmpty := by simpa using empty
  -- the first batch lies upon the flights that were there
  let f : Flight μ := ⟨d, (o.queue d).take o.batchSize, .empty, purpose⟩
  let top : Outbox μ :=
    { o.setQueue d ((o.queue d).drop o.batchSize) with flights := [] }
  have begun (q : Purpose μ) : o.proceed d .empty q =
      (top.upon (f.for q :: o.flights), [.handed d ((o.queue d).take o.batchSize)]) := by
    rw [proceed, if_neg waiting]
    rfl
  have still : (top.upon (f :: o.flights)).Exclusive :=
    (Move.hand .empty purpose idle empty).exclusive exclusive
  rw [begun] at ongoing ended
  rcases flushing_or_ends d (top.upon (f :: o.flights)) inputs with
    all | ⟨first, answer, later, rfl, goes_on, ends⟩
  · -- its batch would still be in flight
    obtain ⟨last, g, notices, along⟩ := lockstep (f := f) all
    have place := congrArg Prod.fst (along purpose).run_eq
    change ((top.upon (f :: o.flights)).run inputs).1.flights.length ≤ o.flights.length at ended
    rw [place, flights_upon, List.length_append, List.length_cons] at ended
    omega
  · obtain ⟨left, told, said, result, flights_eq, quiet, landed⟩ :=
      exists_landing (f := f) still goes_on ends
    refine ⟨⟨d, first ++ [.answer answer], .handed d ((o.queue d).take o.batchSize) :: told,
      .handed d ((o.queue d).take o.batchSize) :: said, result⟩, left, later, rfl, by simp,
      flights_eq, quiet, fun q => ?_⟩
    obtain ⟨run_eq, own_eq, going⟩ := landed q
    refine ⟨?_, ?_, ?_⟩
    · rw [begun, onward, run_eq]
      rfl
    · rw [begun, own_eq]
      rfl
    · rw [begun]
      exact going

/-- **A flush leads from an outbox to another one**, if it begins an operation that is over at some
time. -/
theorem leads_of_serves (idle : o.isBusy leg.destination = false)
    (serves : leg.Serves o left .flush) (flights_eq : left.flights = o.flights)
    (quiet : acceptances leg.said = []) : leg.Leads o left := by
  have start : o.start (.flush leg.destination) = o.proceed leg.destination .empty .flush := by
    simp [Outbox.start, beginFlush, idle]
  have run_eq : o.run (.start (.flush leg.destination) :: leg.during) =
      (left, leg.told ++ [.finished (leg.result.map .drained)]) := by
    rw [run_start, start, serves.run_eq]
    rfl
  refine ⟨⟨?_, ?_, ?_⟩, run_eq, ?_, flights_eq, quiet⟩
  · rw [start]
    exact serves.ongoing
  · rw [run_eq, flights_eq]
  · rw [run_eq]
    exact List.getLast?_concat
  · rw [ownNotices, start, serves.own_eq]
    rfl

/-- Where the flush is over, the operation goes on with what it has left to do. -/
theorem Serves.onward_append {purpose : Purpose μ} (serves : leg.Serves o left purpose)
    (later : List (Input μ)) :
    let next := left.resume leg.destination leg.result purpose
    onward (o.proceed leg.destination .empty purpose) (leg.during ++ later) =
        ((onward next later).1, leg.told ++ (onward next later).2) ∧
      (Ongoing o.flights.length (o.proceed leg.destination .empty purpose).1
          (leg.during ++ later) ↔ Ongoing o.flights.length next.1 later) := by
  intro next
  have reached : ((o.proceed leg.destination .empty purpose).1.run leg.during).1 = next.1 := by
    have run_eq := congrArg Prod.fst serves.run_eq
    exact run_eq
  constructor
  · rw [Outbox.onward_append, serves.run_eq]
    simp only [onward, List.append_assoc, next]
  · rw [ongoing_append, reached, and_iff_right serves.ongoing]

/-- A flush that returns is one that is over. -/
theorem exists_leads (exclusive : o.Exclusive) (idle : o.isBusy d = false)
    {during : List (Input μ)} {outcome : Except Error Outcome}
    (returned : o.Returns (.flush d) during outcome) :
    ∃ (leg : Leg μ) (left : Outbox μ), leg.destination = d ∧ leg.during = during ∧
      outcome = leg.result.map .drained ∧ leg.Leads o left ∧
        ∀ purpose : Purpose μ, leg.Serves o left purpose := by
  have start : o.start (.flush d) = o.proceed d .empty .flush := by
    simp [Outbox.start, beginFlush, idle]
  obtain ⟨ongoing, ended, result_eq⟩ := returned
  rw [run_start, start] at ended result_eq
  rw [start] at ongoing
  obtain ⟨leg, left, later, rfl, rfl, flights_eq, quiet, serves⟩ :=
    exists_serves exclusive idle ongoing (Nat.le_of_eq ended)
  obtain ⟨goes_on, still⟩ := (serves .flush).onward_append later
  obtain rfl : later = [] :=
    eq_nil_of_ongoing (still.1 ongoing) (Nat.le_of_eq (congrArg List.length flights_eq))
  rw [goes_on, onward_nil, getLast?_append_of_getLast? rfl, Option.some.injEq] at result_eq
  refine ⟨leg, left, rfl, (List.append_nil _).symm, ?_,
    leads_of_serves idle (serves .flush) flights_eq quiet, serves⟩
  cases result_eq
  rfl

end Leg

end Dispatch
