import Dispatch.Proofs.Outbox.Draining

/-!
# A close that succeeds is final

Closing an outbox sweeps over all its destinations. A sweep that meets a destination with a batch
in flight is given up, so a close that was started while a batch was in flight never comes to its
end (`Outbox.not_returns_of_flying`). One that starts with nothing in flight goes on while other
operations are started and end on top of it. As nobody waits and every send is refused, a
destination that has nothing outstanding any more stays so; when the sweep is over without an
error, that holds of all of them (`Outbox.drained_of_returns`), and then nothing can ever change
again (`Outbox.Drained.run`).

## Main definitions

* `Outbox.Closing`: what holds while a close is under way.
* `Outbox.Drained`: a closed outbox with nothing left.

## Main statements

* `Outbox.sweep_cases`: what a sweep comes to.
* `Outbox.Closing.step`, `Outbox.Closing.settle`: what steps above a close and answers to it keep.
* `Outbox.final_of_close_ok`: a close that succeeds leaves nothing, for ever.
-/
namespace Dispatch

open History

namespace Outbox

variable {μ : Type} {o : Outbox μ}

/-! ## What a sweep comes to -/

/-- A sweep passes over destinations that are idle and have nothing waiting, to the end or up to
one that is busy, where it is given up, or has messages, of which it hands over a batch. -/
theorem sweep_cases (o : Outbox μ) (ds : List String) (log : Log) (errors : List Error) :
    (∀ d ∈ ds, o.isBusy d = false ∧ o.queue d = []) ∧
      o.sweep ds log errors = (o, [.finished (conclude log errors)]) ∨
    ∃ skipped d rest, ds = skipped ++ d :: rest ∧
      (∀ x ∈ skipped, o.isBusy x = false ∧ o.queue x = []) ∧
      (o.isBusy d = true ∧ o.sweep ds log errors = (o, [.blocked d]) ∨
        o.isBusy d = false ∧ o.queue d ≠ [] ∧
          o.sweep ds log errors = o.handOver d .empty (.sweep rest log errors)) := by
  induction ds with
  | nil => exact .inl ⟨by simp, rfl⟩
  | cons d ds ih =>
    by_cases busy : o.isBusy d = true
    · exact .inr ⟨[], d, ds, rfl, by simp, .inl ⟨busy, by simp [sweep, busy]⟩⟩
    have idle : o.isBusy d = false := by simpa using busy
    by_cases empty : (o.queue d).isEmpty
    · have here : o.isBusy d = false ∧ o.queue d = [] := ⟨idle, List.isEmpty_iff.1 empty⟩
      have goes_on : o.sweep (d :: ds) log errors = o.sweep ds log errors := by
        rw [sweep, if_neg busy, if_pos empty]
      rw [goes_on]
      rcases ih with ⟨all, ended⟩ | ⟨skipped, d', rest, rfl, none, stop⟩
      · exact .inl ⟨List.forall_mem_cons.2 ⟨here, all⟩, ended⟩
      · exact .inr ⟨d :: skipped, d', rest, rfl, List.forall_mem_cons.2 ⟨here, none⟩, stop⟩
    · refine .inr ⟨[], d, ds, rfl, by simp, .inr ⟨idle, by simpa using empty, ?_⟩⟩
      rw [sweep, if_neg busy, if_neg empty]

/-- An answer to a flight of a sweep lets its flush go on, or the sweep; then its flush has gone
well only if nothing waits for the destination any more. -/
theorem settle_sweep {f : Flight μ} {outer : List (Flight μ)} (top : o.flights = f :: outer)
    {rest : List String} {log : Log} {errors : List Error}
    (purpose : f.purpose = .sweep rest log errors) (answer : Answer) :
    let left := ({ o with flights := outer } : Outbox μ).reclaim f answer
    (∃ f', (o.settle answer).1.flights = f' :: outer ∧ f'.destination = f.destination ∧
      f'.purpose = f.purpose) ∨
    ∃ log' errors' earlier, (o.settle answer).1 = (left.sweep rest log' errors').1 ∧
      (o.settle answer).2 = earlier ++ (left.sweep rest log' errors').2 ∧
      (errors' = [] → errors = [] ∧ left.queue f.destination = []) := by
  intro left
  cases answer with
  | error e =>
    refine .inr ⟨log.write .warning (LogLine.notFlushed f.destination e), errors ++ [e],
      [.answered f.destination f.batch (.error e),
        warning (LogLine.notSent f.destination f.batch.length e),
        warning (LogLine.notFlushed f.destination e)], ?_, ?_, by simp⟩ <;>
      simp [left, settle, top, land, purpose, resume, reclaim]
  | ok receipt =>
    by_cases clean : receipt.refused = []
    · by_cases empty : (left.queue f.destination).isEmpty
      · have none := List.isEmpty_iff.1 empty
        simp only [left, reclaim, clean, if_true] at empty none ⊢
        refine .inr ⟨log.append (f.log.write .debug
            (LogLine.delivered f.destination f.batch.length)), errors,
          [.answered f.destination f.batch (.ok receipt),
            .event ⟨.debug, LogLine.delivered f.destination f.batch.length⟩], ?_, ?_,
          fun fine => ⟨fine, none⟩⟩ <;>
          simp [settle, top, land, clean, proceed, empty, purpose, resume]
      · simp only [left, reclaim, clean, if_true] at empty ⊢
        refine .inl ⟨⟨f.destination, (o.queue f.destination).take o.batchSize,
          f.log.write .debug (LogLine.delivered f.destination f.batch.length), f.purpose⟩, ?_,
          rfl, rfl⟩
        simp only [settle, top, land, Receipt.isClean_iff, clean, proceed, empty, if_true]
        rfl
    · let e : Error := .batchFailed f.destination f.batch.length receipt.refused
      refine .inr ⟨log.write .warning (LogLine.notFlushed f.destination e), errors ++ [e],
        .answered f.destination f.batch (.ok receipt) ::
          (receipt.refused.map (fun r => warning (LogLine.refused f.destination r)) ++
            [warning (LogLine.notFlushed f.destination e)]), ?_, ?_, by simp⟩ <;>
        simp [left, e, settle, top, land, clean, purpose, resume, reclaim]

/-! ## A close on top of a batch in flight -/

/-- A sweep that has a busy destination before it is given up, or goes on with it still to
come. -/
theorem sweep_of_busy {ds : List String} {b : String} (before : b ∈ ds)
    (busy : o.isBusy b = true) (log : Log) (errors : List Error) :
    (∃ d, o.sweep ds log errors = (o, [.blocked d])) ∨
    ∃ f rest, (o.sweep ds log errors).1.flights = f :: o.flights ∧
      f.purpose = .sweep rest log errors ∧ b ∈ rest := by
  rcases o.sweep_cases ds log errors with ⟨all, -⟩ | ⟨skipped, d, rest, rfl, none, stop⟩
  · simp [(all b before).1] at busy
  · rcases stop with ⟨-, blocked⟩ | ⟨idle, -, handed⟩
    · exact .inl ⟨d, blocked⟩
    · refine .inr ⟨_, rest, by rw [handed]; rfl, rfl, ?_⟩
      rcases List.mem_append.1 before with passed | later
      · simp [(none b passed).1] at busy
      · refine (List.mem_cons.1 later).resolve_left ?_
        rintro rfl
        simp [busy] at idle

/-- An answer to a sweep with a busy destination still to come leaves it before that, or the sweep
is given up. -/
theorem settle_of_busy {f : Flight μ} {outer : List (Flight μ)} (top : o.flights = f :: outer)
    {rest : List String} {log : Log} {errors : List Error}
    (purpose : f.purpose = .sweep rest log errors) {g : Flight μ} (flying : g ∈ outer)
    (still : g.destination ∈ rest) (answer : Answer) :
    (∃ f', (o.settle answer).1.flights = f' :: outer ∧
      ∃ rest log errors, f'.purpose = .sweep rest log errors ∧ g.destination ∈ rest) ∨
    (o.settle answer).1.flights = outer ∧
      ∃ d, (o.settle answer).2.getLast? = some (.blocked d) := by
  rcases settle_sweep top purpose answer with
    ⟨f', goes_on, -, same⟩ | ⟨log', errors', earlier, next, all, -⟩
  · exact .inl ⟨f', goes_on, rest, log, errors, same.trans purpose, still⟩
  have busy : (({ o with flights := outer } : Outbox μ).reclaim f answer).isBusy
      g.destination = true := by
    simpa [isBusy] using ⟨g, flying, rfl⟩
  rcases sweep_of_busy still busy log' errors' with
    ⟨d, blocked⟩ | ⟨f', rest', goes_on, purpose', later⟩
  · refine .inr ⟨by rw [next, blocked]; simp, d, ?_⟩
    rw [all, blocked]
    exact getLast?_append_of_getLast? rfl
  · rw [next]
    exact .inl ⟨f', by simpa using goes_on, rest', log', errors', purpose', later⟩

/-- **A close that was started while a batch was in flight does not come to its end**: sooner or
later it has to wait for the destination of that batch. -/
theorem not_returns_of_flying (sound : o.Sound) {g : Flight μ} (flying : g ∈ o.flights)
    (during : List (Input μ)) (result : Except Error Outcome) :
    ¬o.Returns .close during result := by
  intro returned
  have known : g.destination ∈ o.destinations := sound.known g flying
  have busy : o.isBusy g.destination = true := by simpa [isBusy] using ⟨g, flying, rfl⟩
  have course := returned.invariant
    (P := fun f _ => ∃ rest log errors, f.purpose = .sweep rest log errors ∧ g.destination ∈ rest)
    (Q := fun last _ => ∃ d, last.getLast? = some (.blocked d)) ?first
    (fun _ _ _ _ _ _ _ kept => kept) ?own sound
  case first =>
    rcases sweep_of_busy (o := { o with closed := true }) known busy .empty [] with
      ⟨d, blocked⟩ | ⟨f, rest, top, purpose, still⟩
    · refine .inr ⟨congrArg (·.1.flights) blocked, d, ?_⟩
      exact (congrArg (·.2.getLast?) blocked).trans rfl
    · exact .inl ⟨f, top, rest, .empty, [], purpose, still⟩
  case own =>
    rintro o' f answer - top ⟨rest, log, errors, purpose, still⟩
    exact settle_of_busy top purpose flying still answer
  obtain ⟨last, ⟨d, blocked⟩, finished⟩ := course
  cases finished _ blocked

/-! ## A close with nothing in flight -/

theorem outstanding_of_grounded (grounded : o.flights = []) (d : String) :
    o.outstanding d = o.queue d := by
  simp [outstanding, inFlight, grounded]

/-- While nobody waits, a closed outbox keeps outstanding what a step leaves of it. -/
theorem outstanding_step_of_closed (exclusive : o.Exclusive) (closed : o.closed)
    (nobody : o.held = []) (input : Input μ) (d : String) :
    (o.step input).1.outstanding d = (o.noted input).outstanding d ∧
      (o.step input).1.held = [] := by
  have accepts := step_accepts_of_closed closed input
  rw [nobody, List.sublist_nil, List.append_eq_nil_iff] at accepts
  have quiet := accepted_sublist (o.step input).2 d
  rw [accepts.1, List.sublist_nil] at quiet
  refine ⟨?_, accepts.2⟩
  rw [outstanding_step exclusive, quiet, List.append_nil]

/-- What holds while a close is under way that lies at the bottom of the stack, with the flight of
its latest batch: nobody waits, and if all went well so far, only that destination and those
still to come have anything outstanding. -/
structure Closing (f : Flight μ) (o : Outbox μ) : Prop where
  closed : o.closed
  nobody : o.held = []
  swept : ∃ rest log errors, f.purpose = .sweep rest log errors ∧
    (errors = [] → ∀ d ∉ f.destination :: rest, o.outstanding d = [])

/-- Nothing is left, nothing is in flight, and nothing more is taken. -/
structure Drained (o : Outbox μ) : Prop where
  closed : o.closed
  grounded : o.flights = []
  empty : ∀ d, o.queue d = []

/-- Every step keeps that a close is under way, as long as its flight lies in the stack. -/
theorem Closing.step {f f' : Flight μ} (h : Closing f o) (exclusive : o.Exclusive)
    (input : Input μ) (destination : f'.destination = f.destination)
    (purpose : f'.purpose = f.purpose) : Closing f' (o.step input).1 := by
  obtain ⟨rest, log, errors, swept, clear⟩ := h.swept
  refine ⟨(closed_step exclusive input).2 (.inl h.closed),
    (outstanding_step_of_closed exclusive h.closed h.nobody input f.destination).2,
    rest, log, errors, purpose.trans swept, fun fine d hd => ?_⟩
  rw [destination] at hd
  have fewer := outstanding_noted_sublist exclusive input d
  rw [clear fine d hd, List.sublist_nil] at fewer
  rw [(outstanding_step_of_closed exclusive h.closed h.nobody input d).1, fewer]

/-- A sweep of a closed outbox with nothing in flight goes on with a batch, or is over; then it
has gone well only if nothing is left. -/
theorem sweep_closing (closed : o.closed) (grounded : o.flights = []) {ds : List String} (log : Log)
    {errors : List Error} (clear : errors = [] → ∀ d ∉ ds, o.queue d = []) :
    (∃ f, (o.sweep ds log errors).1.flights = [f] ∧ Closing f (o.sweep ds log errors).1) ∨
    o.sweep ds log errors = (o, [.finished (conclude log errors)]) ∧
      (errors = [] → o.Drained) := by
  have idle (d : String) : o.isBusy d = false := by simp [isBusy, grounded]
  rcases o.sweep_cases ds log errors with ⟨all, ended⟩ | ⟨skipped, d, rest, rfl, none, stop⟩
  · refine .inr ⟨ended, fun fine => ⟨closed, grounded, fun d => ?_⟩⟩
    by_cases swept : d ∈ ds
    · exact (all d swept).2
    · exact clear fine d swept
  · have handed : o.sweep (skipped ++ d :: rest) log errors =
        o.handOver d .empty (.sweep rest log errors) := by
      rcases stop with ⟨busy, -⟩ | ⟨-, -, handed⟩
      · simp [idle d] at busy
      · exact handed
    rw [handed]
    refine .inl ⟨_, by rw [flights_handOver, grounded], closed, ?_, rest, log, errors, rfl,
      fun fine x later => ?_⟩
    · simp [held, grounded, Purpose.message?]
    · rw [outstanding_handOver o (idle d), outstanding_of_grounded grounded]
      by_cases swept : x ∈ skipped
      · exact (none x swept).2
      · refine clear fine x fun among => ?_
        exact (List.mem_append.1 among).elim swept later

/-- Flushing several destinations goes well only if none of the flushes failed. -/
theorem eq_nil_of_conclude {log : Log} {errors : List Error}
    (ok : (conclude log errors).isOk) : errors = [] := by
  match errors with
  | [] => rfl
  | [_] | _ :: _ :: _ => cases ok

/-- An answer to a close lets it go on, or its last sweep ends there. -/
theorem Closing.settle {f : Flight μ} (h : Closing f o) (exclusive : o.Exclusive)
    (top : o.flights = [f]) (answer : Answer) :
    (∃ f', (o.settle answer).1.flights = [f'] ∧ Closing f' (o.settle answer).1) ∨
    (o.settle answer).1.flights = [] ∧ ∃ result,
      (o.settle answer).2.getLast? = some (.finished result) ∧
        (result.isOk → (o.settle answer).1.Drained) := by
  obtain ⟨rest, log, errors, purpose, clear⟩ := h.swept
  rcases settle_sweep top purpose answer with
    ⟨f', goes_on, destination, same⟩ | ⟨log', errors', earlier, next, all, clean⟩
  · exact .inl ⟨f', goes_on, h.step exclusive (.answer answer) destination same⟩
  let left := ({ o with flights := [] } : Outbox μ).reclaim f answer
  have closed : left.closed := by rw [closed_reclaim]; exact h.closed
  have grounded : left.flights = [] := by simp [left]
  have clear' : errors' = [] → ∀ d ∉ rest, left.queue d = [] := by
    intro fine d later
    obtain ⟨before, emptied⟩ := clean fine
    by_cases here : d = f.destination
    · exact here ▸ emptied
    · have fewer := outstanding_noted_sublist exclusive (.answer answer) d
      rw [clear before d (by simp [here, later]), List.sublist_nil] at fewer
      rw [← outstanding_of_grounded grounded]
      simpa [left, noted, top] using fewer
  rw [next, all]
  rcases sweep_closing closed grounded log' clear' with ⟨f', top', closing⟩ | ⟨ended, drained⟩
  · exact .inl ⟨f', top', closing⟩
  · rw [ended]
    exact .inr ⟨grounded, conclude log' errors', getLast?_append_of_getLast? rfl,
      fun fine => drained (eq_nil_of_conclude fine)⟩

/-- **A close that succeeds leaves nothing behind**: nothing waits and nothing is in flight. -/
theorem drained_of_returns (sound : o.Sound) {during : List (Input μ)} {outcome : Outcome}
    (returned : o.Returns .close during (.ok outcome)) :
    (o.run (.start .close :: during)).1.Drained := by
  have grounded : o.flights = [] := by
    by_contra flying
    obtain ⟨g, outer, top⟩ := List.exists_cons_of_ne_nil flying
    exact not_returns_of_flying sound (g := g) (by simp [top]) during _ returned
  have unknown : ∀ d ∉ o.destinations, o.queue d = [] :=
    fun d hd => not_not.1 fun waiting => hd (mem_destinations_of_waiting waiting)
  have course := returned.invariant (P := Closing)
    (Q := fun last o => ∃ result, last.getLast? = some (.finished result) ∧
      (result.isOk → o.Drained)) ?first
    (fun _ _ _ input sound' _ _ closing => closing.step sound'.exclusive input rfl rfl) ?own sound
  case first =>
    rw [grounded]
    rcases sweep_closing (o := { o with closed := true }) rfl grounded .empty fun _ => unknown with
      going | ⟨all, drained⟩
    · exact .inl going
    · have first : o.start .close = ({ o with closed := true }, [.finished (conclude .empty [])]) :=
        all
      rw [first]
      exact .inr ⟨grounded, _, rfl, fun _ => drained rfl⟩
  case own =>
    rw [grounded]
    exact fun o' f answer sound' top closing => closing.settle sound'.exclusive top answer
  obtain ⟨last, ⟨result, ends, drained⟩, finished⟩ := course
  cases finished _ ends
  exact drained rfl

/-! ## Afterwards -/

/-- A sweep of a drained outbox passes over every destination. -/
theorem Drained.sweep_eq (h : o.Drained) (ds : List String) (log : Log) (errors : List Error) :
    o.sweep ds log errors = (o, [.finished (conclude log errors)]) := by
  rcases o.sweep_cases ds log errors with ⟨-, ended⟩ | ⟨skipped, d, rest, -, -, stop⟩
  · exact ended
  · have idle : o.isBusy d = false := by simp [isBusy, h.grounded]
    rcases stop with ⟨busy, -⟩ | ⟨-, waiting, -⟩
    · simp [idle] at busy
    · exact absurd (h.empty d) waiting

/-- **Nothing changes a drained outbox**, and every step is over at once. -/
theorem Drained.step (h : o.Drained) (input : Input μ) :
    (o.step input).1 = o ∧ ∀ d, handedTo (o.step input).2 d = [] := by
  cases input with
  | answer answer => simp [Outbox.step, settle, h.grounded, handedTo]
  | start operation =>
    cases operation with
    | send d message =>
      simp only [Outbox.step, start_send_of_closed h.closed]
      exact ⟨trivial, fun _ => rfl⟩
    | flush d =>
      have idle : o.isBusy d = false := by simp [isBusy, h.grounded]
      simp [Outbox.step, start, beginFlush, idle, proceed, h.empty, resume, handedTo]
    | flushAll =>
      simp only [Outbox.step, start, h.sweep_eq]
      exact ⟨trivial, fun _ => rfl⟩
    | close =>
      have same : ({ o with closed := true } : Outbox μ) = o := by rw [← h.closed]
      simp only [Outbox.step, start, same, h.sweep_eq]
      exact ⟨trivial, fun _ => rfl⟩

theorem Drained.run (h : o.Drained) (inputs : List (Input μ)) :
    (o.run inputs).1 = o ∧ ∀ d, handedTo (o.run inputs).2 d = [] := by
  induction inputs with
  | nil => exact ⟨rfl, fun _ => rfl⟩
  | cons input inputs ih =>
    obtain ⟨same, quiet⟩ := h.step input
    rw [run_cons, same]
    exact ⟨ih.1, fun d => by rw [handedTo_append, quiet d, ih.2 d, List.append_nil]⟩

/-- **A close that succeeds is final.** When it is over, nothing waits for any destination and
nothing is in flight. Whatever happens afterwards, the outbox stays as it is, with the same
destinations; the carrier gets no batch any more, and every send is refused. -/
theorem final_of_close_ok {limit size : ℕ} (made : create? limit size = .ok o)
    (before during : List (Input μ)) {outcome : Outcome}
    (returned : (o.run before).1.Returns .close during (.ok outcome)) (after : List (Input μ)) :
    let final := (o.run (before ++ .start .close :: during)).1
    let later := final.run after
    final.flights = [] ∧ (∀ d, final.queue d = []) ∧
      later.1 = final ∧ (∀ d, handedTo later.2 d = []) ∧
      ∀ d message,
        later.1.start (.send d message) = (later.1, [.finished (.error (.closed d))]) := by
  intro final later
  have drained : final.Drained := by
    have sound := (sound_new made).run before
    simpa [final, run_append] using drained_of_returns sound returned
  obtain ⟨same, quiet⟩ : later.1 = final ∧ ∀ d, handedTo later.2 d = [] := drained.run after
  refine ⟨drained.grounded, drained.empty, same, quiet, fun d message => ?_⟩
  rw [same]
  exact start_send_of_closed drained.closed d message

/-- Two destinations have a message each. -/
def oneEach : List (Input ℕ) := [.start (.send "a" (.ok 1)), .start (.send "b" (.ok 2))]

/-- While the first batch of a close is away, a send is refused, and the flush of another
destination comes to its end. -/
def flushedMeanwhile : List (Input ℕ) :=
  [.start (.send "b" (.ok 3)), .start (.flush "b"), .answer (.ok ⟨[⟨0, "x"⟩], []⟩),
    .answer (.ok ⟨[⟨0, "y"⟩], []⟩)]

/-- The close is over when its batch is answered for, and nothing can change any more. -/
theorem drained_by_close :
    let final := ((single ℕ).run (oneEach ++ .start .close :: flushedMeanwhile)).1
    create? 10 1 = .ok (single ℕ) ∧
      ((single ℕ).run oneEach).1.Returns .close flushedMeanwhile
        (.ok (.drained ⟨[LogLine.delivered "a" 1], false⟩)) ∧
      final.destinations = ["a", "b"] ∧ ∀ after, (final.run after).1 = final := by
  have made : create? 10 1 = .ok (single ℕ) := rfl
  have returned : ((single ℕ).run oneEach).1.Returns .close flushedMeanwhile
      (.ok (.drained ⟨[LogLine.delivered "a" 1], false⟩)) := ⟨by decide, by decide, by rfl⟩
  exact ⟨made, returned, by decide,
    fun after => (final_of_close_ok made oneEach flushedMeanwhile returned after).2.2.1⟩

end Outbox

end Dispatch
