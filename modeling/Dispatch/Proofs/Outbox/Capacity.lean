import Dispatch.Proofs.Outbox.Nesting

/-!
# How long queues get

A message joins a queue only while fewer messages than a batch wait there. So a queue could never
be longer than a batch, were it not for batches that come back: while one is away, as many messages
again may join, and when the carrier fails they stand behind all of it. Two batches is then the
most that ever waits (`Outbox.Bounded`), and it is reached (`Outbox.exists_pending_eq`). Without
operations that start while a batch is away, nothing joins meanwhile, and one batch is the most
(`Outbox.Tight`).

## Main definitions

* `Outbox.Bounded`: what holds of the queues after any history.
* `Outbox.Undisturbed`: no operation is started while a batch is in flight.
* `Outbox.Tight`: what holds of the queues after such a history.

## Main statements

* `Outbox.Bounded.move`: every move keeps the bound.
* `Outbox.Tight.step`: every step of an undisturbed history keeps the tight one.
* `Outbox.pending_le`: how much waits at most, in every history.
-/
namespace Dispatch

open History

namespace Outbox

variable {μ : Type} {o next : Outbox μ} {notices : List (Notice μ)}

/-! ## Any history -/

theorem pending_push_self (o : Outbox μ) (d : String) (m : μ) :
    (o.push d m).pending d = o.pending d + 1 := by simp [pending]

theorem pending_push_of_ne (o : Outbox μ) {d d' : String} (m : μ) (h : d' ≠ d) :
    (o.push d m).pending d' = o.pending d' := by simp [pending, queue_push_of_ne o m h]

theorem pending_handOver_self (o : Outbox μ) (d : String) (log : Log) (purpose : Purpose μ) :
    (o.handOver d log purpose).1.pending d = o.pending d - o.batchSize := by
  simp [pending, queue_handOver]

theorem pending_handOver_le (o : Outbox μ) (d d' : String) (log : Log) (purpose : Purpose μ) :
    (o.handOver d log purpose).1.pending d' ≤ o.pending d' := by
  by_cases same : d = d'
  · subst same
    rw [pending_handOver_self]
    omega
  · simp [pending, queue_handOver, same]

/-- At most two batches wait for a destination. While a batch of its own is in flight, this one has
no more messages than a batch may have, and no more than that many wait behind it. -/
structure Bounded (o : Outbox μ) : Prop where
  waiting : ∀ d, o.pending d ≤ 2 * o.batchSize
  flying : ∀ f ∈ o.flights,
    f.batch.length ≤ o.batchSize ∧ o.pending f.destination ≤ o.batchSize

/-- A message joins only a queue with room for it. -/
theorem Bounded.push (h : o.Bounded) {d : String} (m : μ) (room : o.pending d < o.batchSize) :
    (o.push d m).Bounded := by
  have longer : ∀ d', (o.push d m).pending d' ≤ o.pending d' ∨
      (o.push d m).pending d' ≤ o.batchSize := by
    intro d'
    by_cases same : d' = d
    · subst same
      rw [pending_push_self]
      omega
    · rw [pending_push_of_ne o m same]
      omega
  refine ⟨fun d' => ?_, fun f hf => ⟨(h.flying f hf).1, ?_⟩⟩
  · have before := h.waiting d'
    have now := longer d'
    change _ ≤ 2 * o.batchSize
    omega
  · have before := (h.flying f hf).2
    have now := longer f.destination
    change _ ≤ o.batchSize
    omega

/-- What a batch takes from the head of a queue leaves room behind it. -/
theorem Bounded.handOver (h : o.Bounded) (d : String) (log : Log) (purpose : Purpose μ) :
    (o.handOver d log purpose).1.Bounded := by
  refine ⟨fun d' => ?_, fun f hf => ?_⟩
  · exact Nat.le_trans (o.pending_handOver_le d d' log purpose) (h.waiting d')
  · rcases List.mem_cons.1 hf with rfl | hf
    · refine ⟨List.length_take_le _ _, ?_⟩
      have before := h.waiting d
      rw [pending_handOver_self]
      change _ ≤ o.batchSize
      omega
    · obtain ⟨small, room⟩ := h.flying f hf
      exact ⟨small, Nat.le_trans (o.pending_handOver_le d f.destination log purpose) room⟩

/-- A batch that comes back stands before a queue that had no more than its own room. -/
theorem Bounded.reclaim (h : o.Bounded) (exclusive : o.Exclusive) {f : Flight μ}
    {outer : List (Flight μ)} (top : o.flights = f :: outer) (answer : Answer) :
    (({ o with flights := outer } : Outbox μ).reclaim f answer).Bounded := by
  have size : (({ o with flights := outer } : Outbox μ).reclaim f answer).batchSize = o.batchSize :=
    batchSize_reclaim _ f answer
  have others : ∀ d ≠ f.destination,
      (({ o with flights := outer } : Outbox μ).reclaim f answer).pending d = o.pending d :=
    fun d hd => congrArg List.length (queue_reclaim_of_ne _ answer hd)
  obtain ⟨small, room⟩ := h.flying f (by simp [top])
  constructor
  · intro d
    rw [size]
    by_cases here : d = f.destination
    · subst here
      have back := (Shipment.left_sublist (s := ⟨f.destination, f.batch, answer⟩)).length_le
      simp only [pending, queue_reclaim_self, List.length_append] at room ⊢
      change _ + (o.queue f.destination).length ≤ _
      simp only at back
      omega
    · rw [others d here]
      exact h.waiting d
  · intro g hg
    rw [flights_reclaim] at hg
    have inside : g ∈ o.flights := top ▸ List.mem_cons_of_mem f hg
    have apart := isBusy_eq_false.1 (exclusive.idle_outer top) g hg
    rw [size, others _ apart]
    exact h.flying g inside

/-- **Every move keeps the bound.** -/
theorem Bounded.move (h : o.Bounded) (exclusive : o.Exclusive) (hm : Move o notices next) :
    next.Bounded := by
  cases hm with
  | close => exact ⟨h.waiting, h.flying⟩
  | queue m room => exact h.push m room
  | hand log purpose => exact h.handOver _ log purpose
  | reclaim answer top => exact h.reclaim exclusive top answer
  | event | finish | block => exact h

theorem Moves.bounded (h : Moves o notices next) (exclusive : o.Exclusive) (ho : o.Bounded) :
    next.Bounded := by
  induction h with
  | refl => exact ho
  | head first _ ih => exact ih (first.exclusive exclusive) (ho.move exclusive first)

/-! ## Undisturbed histories -/

/-- No operation is started while a batch is in flight. -/
def Undisturbed : Outbox μ → List (Input μ) → Prop
  | _, [] => True
  | o, input :: inputs =>
    (∀ operation, input = .start operation → o.flights = []) ∧ Undisturbed (o.step input).1 inputs

/-- At most one batch is in flight, and with it no more messages are outstanding for a destination
than a batch may have. -/
structure Tight (o : Outbox μ) : Prop where
  lone : o.flights.length ≤ 1
  outstanding : ∀ d, (o.outstanding d).length ≤ o.batchSize

/-- With nothing in flight, a step that comes to rest keeps what is outstanding within a batch. -/
theorem Halts.tight {plan : List String} (h : Halts o plan notices next)
    (grounded : o.flights = []) (before : ∀ d, (o.outstanding d).length ≤ o.batchSize) :
    next.Tight := by
  induction h with
  | event e later ih => exact ih
  | finished | blocked => exact ⟨by simp [grounded], before⟩
  | @queued d m room =>
    refine ⟨by simp [grounded], fun d' => ?_⟩
    rw [outstanding_push, List.length_append]
    change _ ≤ o.batchSize
    by_cases same : d = d'
    · subst same
      simp only [Outbox.outstanding, inFlight, grounded, pending] at room ⊢
      simp
      omega
    · simpa [same] using before d'
  | @handed d log purpose idle waiting planned =>
    refine ⟨by simp [grounded], fun d' => ?_⟩
    rw [outstanding_handOver o idle]
    exact before d'

/-- **Every step of an undisturbed history keeps the tight bound.** -/
theorem Tight.step (h : o.Tight) (exclusive : o.Exclusive) {input : Input μ}
    (alone : ∀ operation, input = .start operation → o.flights = []) :
    (o.step input).1.Tight := by
  rcases step_cases exclusive input with ⟨same, -⟩ | ⟨notices, -, halts⟩
  · rwa [same]
  · have grounded : (o.noted input).flights = [] := by
      rw [flights_noted]
      cases input with
      | start operation => exact alone operation rfl
      | answer answer =>
        refine List.eq_nil_of_length_eq_zero ?_
        have lone := h.lone
        rw [below, List.length_tail]
        omega
    refine halts.tight grounded fun d => ?_
    rw [batchSize_noted]
    exact Nat.le_trans (outstanding_noted_sublist exclusive input d).length_le (h.outstanding d)

theorem tight_run (h : o.Tight) (sound : o.Sound) {inputs : List (Input μ)}
    (alone : o.Undisturbed inputs) : (o.run inputs).1.Tight := by
  induction inputs generalizing o with
  | nil => exact h
  | cons input inputs ih => exact ih (h.step sound.exclusive alone.1) (sound.step input) alone.2

/-! ## The bound is reached -/

/-- As long as there is room, messages join the queue one after another. -/
theorem run_sends (open_ : o.closed = false) (d : String) (m : μ) {k : ℕ}
    (room : o.pending d + k ≤ o.batchSize) :
    let sent := (o.run (List.replicate k (.start (.send d (.ok m))))).1
    sent.queue d = o.queue d ++ List.replicate k m ∧ sent.flights = o.flights ∧
      sent.batchSize = o.batchSize ∧ sent.closed = false := by
  induction k generalizing o with
  | zero => simp [open_]
  | succ k ih =>
    have first : o.step (.start (.send d (.ok m))) =
        (o.push d m, [.queued d m, .finished (.ok .queued)]) := by
      have some_room : ¬o.batchSize ≤ o.pending d := by omega
      simp [step, start, open_, some_room, resume]
    have later : (o.push d m).pending d + k ≤ (o.push d m).batchSize := by
      rw [pending_push_self]
      change _ ≤ o.batchSize
      omega
    obtain ⟨queue_eq, flights_eq, size_eq, still⟩ := ih (o := o.push d m) open_ later
    simp only [List.replicate_succ, run_cons, first]
    refine ⟨?_, flights_eq, size_eq, still⟩
    rw [queue_eq, queue_push_self, List.append_assoc, List.singleton_append]

/-- **Two batches may wait for a destination.** A batch leaves, as many messages join the queue
while it is away, and then the carrier fails. -/
theorem exists_pending_eq {limit size : ℕ} (made : create? limit size = .ok o) (d : String)
    (m : μ) : ∃ inputs, (o.run inputs).1.pending d = 2 * size := by
  obtain ⟨queues, flights, open_⟩ := empty_of_create? made
  obtain ⟨rfl, -⟩ := batchSize_of_create? made
  let sends : List (Input μ) := List.replicate o.batchSize (.start (.send d (.ok m)))
  have none : o.queue d = [] := by simp [queue, queues]
  obtain ⟨filled, grounded, size, still⟩ :=
    run_sends open_ d m (k := o.batchSize) (by simp [pending, none])
  rw [none, List.nil_append] at filled
  -- the batch leaves
  let full := (o.run sends).1
  have idle : full.isBusy d = false := by simp [isBusy, full, sends, grounded, flights]
  have waiting : (full.queue d).isEmpty = false := by
    have pos := o.batchSize_pos
    simp [full, sends, filled]
    omega
  have leaves : full.step (.start (.flush d)) = full.handOver d .empty .flush := by
    simp [step, start, beginFlush, idle, proceed, waiting]
  let away := (full.handOver d .empty .flush).1
  have taken : away.queue d = [] := by
    simp only [away, queue_handOver, if_true]
    simp [full, sends, filled, size]
  -- as many messages join, and the batch comes back
  obtain ⟨joined, flying, -, -⟩ := run_sends (o := away) still d m (k := o.batchSize) (by
    change _ ≤ full.batchSize
    simp [pending, taken, full, sends, size])
  rw [taken, List.nil_append] at joined
  refine ⟨sends ++ .start (.flush d) :: (sends ++ [.answer (.error (.closed d))]), ?_⟩
  rw [run_append, run_cons]
  change (((full.step (.start (.flush d))).1.run
    (sends ++ [.answer (.error (.closed d))])).1).pending d = _
  rw [leaves, run_append]
  change (((away.run sends).1).step (.answer (.error (.closed d)))).1.pending d = _
  have top : (away.run sends).1.flights = ⟨d, (full.queue d).take full.batchSize, .empty, .flush⟩ ::
      full.flights := flying
  simp only [step, settle, top, land, resume, pending, queue_restore_self, List.length_append]
  change _ + ((away.run sends).1.queue d).length = _
  rw [joined, filled]
  simp [full, sends, size]
  omega

/-- **Back pressure.** After every history, at most two batches wait for a destination, and while
a batch of its own is in flight, that batch has no more messages than a batch may have, and no more
wait behind it. Two batches is what may indeed wait. In a history where no operation is started
while a batch is in flight, no more than a batch is ever outstanding for a destination. -/
theorem pending_le {limit size : ℕ} (made : create? limit size = .ok o)
    (inputs : List (Input μ)) :
    let now := (o.run inputs).1
    (∀ d, now.pending d ≤ 2 * size) ∧
    (∀ f ∈ now.flights, f.batch.length ≤ size ∧ now.pending f.destination ≤ size) ∧
    (Undisturbed o inputs → ∀ d, (now.inFlight d).length + now.pending d ≤ size) ∧
    ∀ d (_ : μ), ∃ inputs, (o.run inputs).1.pending d = 2 * size := by
  intro now
  obtain ⟨queues, flights, -⟩ := empty_of_create? made
  have sound := sound_new made
  have size_eq : now.batchSize = size :=
    (batchSize_run sound inputs).trans (batchSize_of_create? made).1
  have new : o.Bounded := ⟨by simp [pending, queue, queues], by simp [flights]⟩
  have bounded : now.Bounded := (run_moves sound.exclusive inputs).bounded sound.exclusive new
  refine ⟨?_, ?_, fun alone d => ?_, fun d m => exists_pending_eq made d m⟩
  · simpa only [size_eq] using bounded.waiting
  · simpa only [size_eq] using bounded.flying
  · have start : o.Tight := by
      refine ⟨by simp [flights], fun d => ?_⟩
      simp [outstanding, inFlight, queue, queues, flights]
    have few := (tight_run start sound alone).outstanding d
    rw [outstanding, List.length_append] at few
    exact size_eq ▸ few

/-- The carrier fails while another message has joined the queue. -/
def comesBack : List (Input ℕ) :=
  [.start (.send "orders" (.ok 1)), .start (.flush "orders"), .start (.send "orders" (.ok 2)),
    .answer (.error (.closed "orders"))]

/-- A batch of one message comes back and stands before another one; when nothing joins while it
is away, it stands alone. -/
theorem two_batches_wait :
    create? 10 1 = .ok (single ℕ) ∧
    ((single ℕ).run comesBack).1.queue "orders" = [1, 2] ∧
    (∀ d, ((single ℕ).run comesBack).1.pending d ≤ 2) ∧
    Undisturbed (single ℕ) [comesBack[0], comesBack[1], comesBack[3]] ∧
    ∀ d, ((single ℕ).run [comesBack[0], comesBack[1], comesBack[3]]).1.pending d ≤ 1 := by
  have made : create? 10 1 = .ok (single ℕ) := rfl
  have alone : Undisturbed (single ℕ) [comesBack[0], comesBack[1], comesBack[3]] := by
    refine ⟨fun _ _ => rfl, fun _ _ => rfl, fun operation impossible => ?_, trivial⟩
    cases impossible
  have calm := (pending_le made [comesBack[0], comesBack[1], comesBack[3]]).2.2.1 alone
  exact ⟨made, by decide, (pending_le made comesBack).1, alone,
    fun d => Nat.le_trans (Nat.le_add_left _ _) (calm d)⟩

end Outbox

end Dispatch
