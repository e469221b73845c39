import Dispatch.Proofs.Outbox.Load
import Dispatch.Proofs.Outbox.Numbering

/-!
# A closed outbox drains

From the moment an outbox is closed, every send that starts is refused. A send that was let in
before may still be waiting for the flush that makes room for its message, and when that flush
ends well, its message is put into the queue of the closed outbox. Nothing else is: so a closed
outbox takes no message whatever happens exactly when nobody waits
(`Outbox.closed_takes_only_held`).

## Main statements

* `Outbox.closed_run`: an outbox is closed once it has been asked to close.
* `Outbox.accepts_of_closed`: what a closed outbox accepts had been waiting, in this order.
* `Outbox.exists_accepted_of_held`: whoever waits can still be let in.
* `Outbox.closed_takes_only_held`: what that makes of its load.
-/
namespace Dispatch

open History

namespace Outbox

variable {μ : Type} {o : Outbox μ}

/-! ## Closed outboxes -/

theorem closed_reclaim (o : Outbox μ) (f : Flight μ) (answer : Answer) :
    (o.reclaim f answer).closed = o.closed := by
  cases answer with
  | error e => rfl
  | ok receipt => simp only [reclaim]; split <;> rfl

/-- An operation that closes the outbox is the only input that changes whether it is closed. -/
theorem closed_step (h : o.Exclusive) (input : Input μ) :
    (o.step input).1.closed ↔ o.closed ∨ input = .start .close := by
  rcases step_cases h input with ⟨same, -, answer, rfl⟩ | ⟨notices, -, halts⟩
  · simp [same]
  rw [halts.closed_eq]
  cases input with
  | start operation => cases operation <;> simp [noted]
  | answer answer =>
    simp only [noted]
    split <;> simp [closed_reclaim]

/-- An outbox is closed once it has been asked to close, and stays so. -/
theorem closed_run (h : o.Sound) (inputs : List (Input μ)) :
    (o.run inputs).1.closed ↔ o.closed ∨ .start .close ∈ inputs := by
  induction inputs generalizing o with
  | nil => simp
  | cons input inputs ih =>
    rw [run_cons, ih (h.step input), closed_step h.exclusive, List.mem_cons, or_assoc,
      eq_comm (a := input)]

/-- A closed outbox refuses to send. -/
theorem start_send_of_closed (closed : o.closed) (d : String)
    (message : Except EncodingError μ) :
    o.start (.send d message) = (o, [.finished (.error (.closed d))]) := by
  simp [start, closed]

/-- What a step of a closed outbox accepts had been waiting, and nobody starts to wait. -/
theorem step_accepts_of_closed (closed : o.closed) (input : Input μ) :
    (arrivals (o.step input).2 ++ (o.step input).1.held).Sublist o.held := by
  have accepts := o.step_accepts input
  cases input with
  | answer answer => simpa [Input.message?] using accepts
  | start operation =>
    cases operation with
    | send d message =>
      simp only [step, start_send_of_closed closed]
      exact List.Sublist.refl _
    | flush | flushAll | close => simpa [Input.message?, Operation.message?] using accepts

/-- What a closed outbox accepts had been waiting, and is let in in the order of its stack. -/
theorem accepts_of_closed (h : o.Sound) (closed : o.closed) (inputs : List (Input μ)) :
    (arrivals (o.run inputs).2 ++ (o.run inputs).1.held).Sublist o.held := by
  induction inputs generalizing o with
  | nil => exact List.Sublist.refl _
  | cons input inputs ih =>
    have still := (closed_step h.exclusive input).2 (.inl closed)
    have rest := ih (h.step input) still
    simp only [run_cons, arrivals_append, List.append_assoc]
    exact ((List.append_sublist_append_left _).2 rest).trans (step_accepts_of_closed closed input)

/-! ## Whoever waits can be let in -/

/-- With errors for answers, the latest operation comes to its end. -/
theorem exists_answers_end (h : o.Sound) {f : Flight μ} {outer : List (Flight μ)}
    (top : o.flights = f :: outer) : ∃ answers, (o.run answers).1.flights = outer := by
  induction steps : f.purpose.rest.length using Nat.strongRecOn generalizing o f with
  | ind n ih =>
    let answer : Input μ := .answer (.error (.closed f.destination))
    have sound := h.step answer
    have halts := resume_halts (({ o with flights := outer } : Outbox μ).restore f.destination
      f.batch) f.destination (.error (.closed f.destination)) (List.suffix_refl f.purpose.rest)
      (by simp)
    have next : (o.step answer).1 = ((({ o with flights := outer } : Outbox μ).restore
        f.destination f.batch).resume f.destination (.error (.closed f.destination))
          f.purpose).1 := by
      simp [answer, step, settle, top, land]
    rw [← next] at halts
    rcases halts.ending with ⟨ended, -⟩ | ⟨f', on_top, planned, -⟩
    · exact ⟨[answer], ended⟩
    · have fewer : f'.purpose.rest.length < n := by
        have := planned.length_le
        simp only [List.length_cons] at this
        omega
      obtain ⟨answers, ended⟩ := ih _ fewer sound on_top rfl
      exact ⟨answer :: answers, ended⟩

/-- With clean receipts, the flush that a message waits for ends well. -/
theorem exists_accepted_of_top {f : Flight μ} {outer : List (Flight μ)}
    (top : o.flights = f :: outer) {m : μ} (waits : f.purpose = .send m) :
    ∃ answers, m ∈ arrivals (o.run answers).2 := by
  induction left : (o.queue f.destination).length using Nat.strongRecOn generalizing o f with
  | ind n ih =>
    let answer : Input μ := .answer (.ok .empty)
    let rest : Outbox μ := { o with flights := outer }
    let log := f.log.write .debug (LogLine.delivered f.destination f.batch.length)
    have next : (o.step answer).1 = (rest.proceed f.destination log f.purpose).1 := by
      simp [answer, rest, log, step, settle, top, land]
    have notices : (o.step answer).2 = .answered f.destination f.batch (.ok .empty) ::
        .event ⟨.debug, LogLine.delivered f.destination f.batch.length⟩ ::
          (rest.proceed f.destination log f.purpose).2 := by
      simp [answer, rest, log, step, settle, top, land]
    by_cases empty : (rest.queue f.destination).isEmpty
    · refine ⟨[answer], ?_⟩
      simp [run_cons, notices, proceed, empty, waits, resume, arrivals, acceptances,
        Notice.acceptance?]
    · have goes_on : (o.step answer).1 = (rest.handOver f.destination log f.purpose).1 := by
        rw [next, proceed, if_neg empty]
      have on_top : (o.step answer).1.flights = ⟨f.destination,
          (rest.queue f.destination).take o.batchSize, log, f.purpose⟩ :: outer := by
        rw [goes_on]
        rfl
      have shorter : ((o.step answer).1.queue f.destination).length < n := by
        have waiting : 0 < (o.queue f.destination).length := by
          rw [List.length_pos_iff]
          exact fun none => empty (List.isEmpty_iff.2 none)
        have size := o.batchSize_pos
        rw [goes_on, queue_handOver, if_pos rfl, List.length_drop]
        change (o.queue f.destination).length - o.batchSize < n
        omega
      obtain ⟨answers, accepted⟩ := ih _ shorter on_top waits rfl
      refine ⟨answer :: answers, ?_⟩
      rw [run_cons, arrivals_append, List.mem_append]
      exact .inr accepted

/-- **Whoever waits can still be let in.** -/
theorem exists_accepted_of_held (h : o.Sound) {m : μ} (hm : m ∈ o.held) :
    ∃ inputs, m ∈ arrivals (o.run inputs).2 := by
  induction stack : o.flights generalizing o with
  | nil => simp [held, stack] at hm
  | cons f outer ih =>
    by_cases waits : f.purpose.message? = some m
    · have purpose : f.purpose = .send m := by
        cases kind : f.purpose with
        | send m' => simpa [kind, Purpose.message?] using waits
        | flush | sweep => simp [kind, Purpose.message?] at waits
      exact exists_accepted_of_top stack purpose
    · -- the operation above comes to its end first
      obtain ⟨answers, ended⟩ := exists_answers_end h stack
      have below : m ∈ (o.run answers).1.held := by
        simp only [held, stack, ended, List.mem_filterMap, List.mem_cons] at hm ⊢
        obtain ⟨g, rfl | hg, message⟩ := hm
        · exact absurd message waits
        · exact ⟨g, hg, message⟩
      obtain ⟨inputs, accepted⟩ := ih (h.run answers) below ended
      refine ⟨answers ++ inputs, ?_⟩
      rw [run_append, arrivals_append, List.mem_append]
      exact .inr accepted

/-! ## What a closed outbox takes -/

/-- **A closed outbox takes only what had been waiting.** Once it has been asked to close, it
refuses every send that starts. What it accepts after that are messages of sends that were
waiting for a flush to end, each at most once; its load grows by these alone and shrinks by what
answers keep out of the queues. So it is certain to accept nothing more exactly when no send
waits. -/
theorem closed_takes_only_held {limit size : ℕ} (made : create? limit size = .ok o)
    {before : List (Input μ)} (closed : .start .close ∈ before) (after : List (Input μ)) :
    let now := (o.run before).1
    let later := now.run after
    (∀ d message,
      later.1.start (.send d message) = (later.1, [.finished (.error (.closed d))])) ∧
    (arrivals later.2).Sublist now.held ∧
    later.1.load + (departed later.2).length = now.load + (arrivals later.2).length ∧
    ((∀ inputs, arrivals (now.run inputs).2 = []) ↔ now.held = []) := by
  intro now later
  have sound : now.Sound := (sound_new made).run before
  have shut : now.closed := (closed_run (sound_new made) before).2 (.inr closed)
  have still : later.1.closed := (closed_run sound after).2 (.inl shut)
  refine ⟨fun d message => start_send_of_closed still d message, ?_, load_run sound after, ?_⟩
  · exact (List.sublist_append_left _ _).trans (accepts_of_closed sound shut after)
  · constructor
    · intro none
      refine List.eq_nil_iff_forall_not_mem.2 fun m hm => ?_
      obtain ⟨inputs, accepted⟩ := exists_accepted_of_held sound hm
      simp [none inputs] at accepted
    · intro nobody inputs
      have accepts := accepts_of_closed sound shut inputs
      rw [nobody, List.sublist_nil, List.append_eq_nil_iff] at accepts
      exact accepts.1

/-- A second message waits for the flush of the first, and the outbox is closed meanwhile. -/
def closedMeanwhile : List (Input ℕ) :=
  [.start (.send "orders" (.ok 1)), .start (.send "orders" (.ok 2)), .start .close]

/-- One message had been waiting when the outbox was closed, and no other can be accepted. -/
theorem only_second_accepted :
    create? 10 1 = .ok (single ℕ) ∧ .start .close ∈ closedMeanwhile ∧
    (∀ after, (arrivals (((single ℕ).run closedMeanwhile).1.run after).2).Sublist [2]) ∧
    ¬∀ inputs, arrivals (((single ℕ).run closedMeanwhile).1.run inputs).2 = [] := by
  have made : create? 10 1 = .ok (single ℕ) := rfl
  have closed : .start .close ∈ closedMeanwhile := by simp [closedMeanwhile]
  have waits : ((single ℕ).run closedMeanwhile).1.held = [2] := by decide
  refine ⟨made, closed, fun after => ?_, fun none => ?_⟩
  · exact waits ▸ (closed_takes_only_held made closed after).2.1
  · have nobody := (closed_takes_only_held made closed []).2.2.2.1 none
    rw [waits] at nobody
    cases nobody

/-- **A closed outbox takes one more message**, after it has refused another. -/
theorem taken_when_closed :
    let now := ((single ℕ).run closedMeanwhile).1
    let later := now.run [.start (.send "orders" (.ok 3)), .answer (.ok ⟨[⟨0, "a"⟩], []⟩)]
    now.closed = true ∧ now.queue "orders" = [] ∧
      accepted later.2 "orders" = [2] ∧ later.1.queue "orders" = [2] := by
  decide

end Outbox

end Dispatch
