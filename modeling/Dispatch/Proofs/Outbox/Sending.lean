import Dispatch.Message
import Dispatch.Proofs.Outbox.Batches
import Dispatch.Proofs.Outbox.Course
import Dispatch.Proofs.Outbox.Draining
import Dispatch.Proofs.Outbox.Purposes
import Dispatch.Proofs.Text.ByteOrder

/-!
# A send does all or nothing

A send is refused, or its message joins the queue, or the flush that it waits for decides between
the two (`Outbox.exists_whole`). It is the last thing that a send does, so whatever fails, the send
itself has changed no queue. Destinations become known by messages that are accepted, and in no
other way (`Outbox.Witnessed`).

## Main definitions

* `Outbox.Whole`: what a send that is over has done itself.
* `Outbox.Witnessed`: which destinations are known after a history.

## Main statements

* `Outbox.exists_whole`: a send that is over has done all or nothing.
* `Outbox.exists_returns_send`: answers bring it to its end.
* `Outbox.Witnessed.move`: every move keeps which destinations are known.
* `Outbox.send_all_or_nothing`: all of it, after any history.
-/
namespace Dispatch

open History

variable {μ : Type}

namespace Outbox

variable {o next left : Outbox μ} {d : String} {h notices : List (Notice μ)}
  {message : Except EncodingError μ} {during : List (Input μ)}

/-! ## Known destinations -/

/-- A destination is known when a message was accepted for it, and only then. -/
structure Witnessed (h : List (Notice μ)) (o : Outbox μ) : Prop where
  flying : ∀ f ∈ o.flights, f.destination ∈ o.destinations
  known : ∀ d, d ∈ o.destinations ↔ accepted h d ≠ []

/-- Replacing the queue of a known destination makes none known. -/
theorem mem_destinations_setQueue_of_known (known : d ∈ o.destinations) (ms : List μ)
    (d' : String) : d' ∈ (o.setQueue d ms).destinations ↔ d' ∈ o.destinations := by
  rw [mem_destinations_setQueue, or_iff_right_of_imp]
  rintro rfl
  exact known

theorem mem_destinations_reclaim {f : Flight μ} (known : f.destination ∈ o.destinations)
    (answer : Answer) (d' : String) :
    d' ∈ (o.reclaim f answer).destinations ↔ d' ∈ o.destinations := by
  cases answer with
  | error e => exact mem_destinations_setQueue_of_known known _ d'
  | ok receipt =>
    simp only [reclaim]
    split
    · exact Iff.rfl
    · exact mem_destinations_setQueue_of_known known _ d'

/-- When nothing is accepted and no destination becomes known, nothing changes. -/
theorem Witnessed.quiet (W : Witnessed h o) (none : ∀ d, accepted notices d = [])
    (same : ∀ d, d ∈ next.destinations ↔ d ∈ o.destinations)
    (flying : ∀ f ∈ next.flights, f.destination ∈ o.destinations) :
    Witnessed (h ++ notices) next := by
  refine ⟨fun f hf => (same f.destination).2 (flying f hf), fun d => ?_⟩
  rw [accepted_append, none, List.append_nil, same]
  exact W.known d

/-- **Every move keeps which destinations are known**: only a message that is accepted adds one. -/
theorem Witnessed.move (W : Witnessed h o) (hm : Move o notices next) :
    Witnessed (h ++ notices) next := by
  cases hm with
  | close | event | finish | block => exact W.quiet (fun d => rfl) (fun d => Iff.rfl) W.flying
  | @queue d m room =>
    refine ⟨fun f hf => mem_destinations_setQueue.2 (.inr (W.flying f hf)), fun d' => ?_⟩
    rw [push, mem_destinations_setQueue, W.known d', accepted_append, accepted_queued]
    by_cases same : d' = d
    · simp [same]
    · simp [same, Ne.symm same]
  | @hand d log purpose idle waiting =>
    have known := mem_destinations_of_waiting waiting
    refine W.quiet (fun d' => rfl) (mem_destinations_setQueue_of_known known _) fun f hf => ?_
    rcases List.mem_cons.1 hf with rfl | hf
    · exact known
    · exact W.flying f hf
  | @reclaim f outer answer top =>
    have known : f.destination ∈ ({ o with flights := outer } : Outbox μ).destinations :=
      W.flying f (top ▸ List.mem_cons_self ..)
    refine W.quiet (fun d' => rfl) (mem_destinations_reclaim known answer) fun g hg => ?_
    rw [flights_reclaim] at hg
    exact W.flying g (top ▸ List.mem_cons_of_mem f hg)

theorem Made.witnessed {limit : ℕ} (made : o.Made limit) (inputs : List (Input μ)) :
    Witnessed (o.run inputs).2 (o.run inputs).1 := by
  obtain ⟨size, created⟩ := made.create
  obtain ⟨queues, flights, -⟩ := empty_of_create? created
  have new : Witnessed [] o := by
    refine ⟨by simp [flights], fun d => ?_⟩
    simp [destinations, queues,  accepted, acceptances]
  have holds := (run_moves made.sound.exclusive inputs).invariant
    (fun holds move => Witnessed.move holds move) new
  rwa [List.nil_append] at holds

/-! ## What a send does itself -/

theorem fill_eq_atCapacity : o.fill d = .atCapacity ↔ o.batchSize ≤ o.pending d := by
  have pos := o.batchSize_pos
  simp only [fill]
  split
  · simp
    omega
  · split
    · simp
      omega
    · simp
      omega

/-- What a send that is over has done itself, where `left` is the outbox just before its end. It
joins its message to the queue or does nothing; it calls the carrier when it is for an open outbox,
has a message and finds the queue full, and then as the flush of this destination does, which
decides its result; else it is over at once. -/
structure Whole (o : Outbox μ) (d : String) (message : Except EncodingError μ)
    (during : List (Input μ)) (result : Except Error Outcome) (left : Outbox μ) : Prop where
  returns : o.Returns (.send d message) during result
  all : ∀ outcome, result = .ok outcome → ∃ m, message = .ok m ∧
    acceptances (o.ownNotices (.send d message) during) = [(d, m)] ∧
    (o.run (.start (.send d message) :: during)).1 = left.push d m
  nothing : ∀ e, result = .error e →
    acceptances (o.ownNotices (.send d message) during) = [] ∧
    (o.run (.start (.send d message) :: during)).1 = left
  calls_iff : calls (o.ownNotices (.send d message) during) ≠ [] ↔
    o.closed = false ∧ (∃ m, message = .ok m) ∧ o.fill d = .atCapacity
  flushed : calls (o.ownNotices (.send d message) during) ≠ [] →
    ∃ flushed, o.Returns (.flush d) during flushed ∧ result = flushed.map (fun _ => .queued) ∧
      (o.run (.start (.flush d) :: during)).1 = left ∧
      calls (o.ownNotices (.send d message) during) = calls (o.ownNotices (.flush d) during)
  at_once : calls (o.ownNotices (.send d message) during) = [] →
    left = o ∧ during = [] ∧
      (o.closed = false → ∀ m, message = .ok m → result = .ok .queued)

/-- A send that is over with its first step, without a call of the carrier. -/
theorem whole_of_start {result : Except Error Outcome}
    (started : o.start (.send d message) = (next, notices)) (flights_eq : next.flights = o.flights)
    (last : notices.getLast? = some (.finished result)) (silent : calls notices = [])
    (all : ∀ outcome, result = .ok outcome →
      ∃ m, message = .ok m ∧ acceptances notices = [(d, m)] ∧ next = o.push d m)
    (nothing : ∀ e, result = .error e → acceptances notices = [] ∧ next = o)
    (no_flush : ¬(o.closed = false ∧ (∃ m, message = .ok m) ∧ o.fill d = .atCapacity))
    (granted : o.closed = false → ∀ m, message = .ok m → result = .ok .queued) :
    Whole o d message [] result o := by
  have run_eq : o.run [.start (.send d message)] = (next, notices) := by
    rw [run_start, started, onward_nil]
  have own_eq : o.ownNotices (.send d message) [] = notices := by
    rw [ownNotices, started]
    exact List.append_nil _
  refine ⟨⟨trivial, by rw [run_eq, flights_eq], by rw [run_eq, last]⟩, ?_, ?_, ?_, ?_, ?_⟩
  · rwa [own_eq, run_eq]
  · rwa [own_eq, run_eq]
  · rw [own_eq]
    exact iff_of_false (fun some => some silent) no_flush
  · rw [own_eq]
    exact fun some => absurd silent some
  · exact fun _ => ⟨rfl, rfl, granted⟩

/-- A send that is refused changes nothing. -/
theorem whole_of_refused {e : Error}
    (refused : o.start (.send d message) = (o, [.finished (.error e)]))
    (reason : o.closed = false → ∀ m, message ≠ .ok m) :
    Whole o d message [] (.error e) o := by
  refine whole_of_start refused rfl rfl rfl ?_ (fun _ _ => ⟨rfl, rfl⟩) ?_ ?_
  · intro outcome well
    cases well
  · rintro ⟨still, ⟨m, given⟩, -⟩
    exact reason still m given
  · exact fun still m given => absurd given (reason still m)

/-- A message joins a queue that has room for it. -/
theorem whole_of_room (still : o.closed = false) (room : o.fill d ≠ .atCapacity) (m : μ) :
    Whole o d (.ok m) [] (.ok .queued) o := by
  have few : ¬o.batchSize ≤ o.pending d := fun full => room (fill_eq_atCapacity.2 full)
  have joined : o.start (.send d (.ok m)) =
      (o.push d m, [.queued d m, .finished (.ok .queued)]) := by
    simp [start, still, few, resume]
  refine whole_of_start joined rfl rfl rfl (fun _ _ => ⟨m, rfl, rfl, rfl⟩) ?_ ?_ (fun _ _ _ => rfl)
  · intro e failed
    cases failed
  · exact fun h => room h.2.2

/-- For a full queue a send begins with a flush. -/
theorem start_send_of_full (still : o.closed = false) (full : o.fill d = .atCapacity)
    (idle : o.isBusy d = false) (m : μ) :
    o.start (.send d (.ok m)) = o.proceed d .empty (.send m) := by
  simp [start, still, fill_eq_atCapacity.1 full, beginFlush, idle]

/-- With the flush the send is over, without another call. -/
theorem resume_send_ends (left : Outbox μ) (d : String) (flushed : Except Error Log) (m : μ) :
    (left.resume d flushed (.send m)).1.flights = left.flights ∧
      (left.resume d flushed (.send m)).2.getLast? =
        some (.finished (flushed.map fun _ => .queued)) ∧
      calls (left.resume d flushed (.send m)).2 = [] := by
  cases flushed <;> exact ⟨rfl, rfl, rfl⟩

/-- **The flush decides** whether the message joins the queue. -/
theorem whole_of_serves {leg : Leg μ} (still : o.closed = false)
    (full : o.fill leg.destination = .atCapacity) (idle : o.isBusy leg.destination = false) {m : μ}
    (serves : leg.Serves o left (.send m)) (leads : leg.Leads o left) :
    Whole o leg.destination (.ok m) leg.during (leg.result.map fun _ => .queued) left := by
  have start := start_send_of_full still full idle m
  obtain ⟨flights_eq, last, silent⟩ := resume_send_ends left leg.destination leg.result m
  have run_eq := serves.run_eq
  have own_eq := serves.own_eq
  have ongoing := serves.ongoing
  rw [← start] at run_eq own_eq ongoing
  -- a full queue is not empty, so the flush hands over a batch
  have called : calls (o.ownNotices (.send leg.destination (.ok m)) leg.during) ≠ [] := by
    have waiting : ¬(o.queue leg.destination).isEmpty := by
      have pos := o.batchSize_pos
      have many := fill_eq_atCapacity.1 full
      rw [List.isEmpty_iff_length_eq_zero]
      exact Nat.ne_of_gt (Nat.lt_of_lt_of_le pos many)
    rw [ownNotices, start, proceed, if_neg waiting]
    exact List.cons_ne_nil _ _
  refine ⟨⟨ongoing, ?_, ?_⟩, fun outcome well => ?_, fun e failed => ?_,
    iff_of_true called ⟨still, ⟨m, rfl⟩, full⟩,
    fun _ => ⟨_, leads.returns, ?_, congrArg Prod.fst leads.run_eq, ?_⟩,
    fun none => absurd none called⟩
  · rw [run_start, run_eq]
    exact congrArg List.length (flights_eq.trans leads.flights_eq)
  · rw [run_start, run_eq]
    exact getLast?_append_of_getLast? last
  · rw [run_start, run_eq, ownNotices, own_eq, acceptances_append, leads.quiet]
    cases flushed : leg.result with
    | error e =>
      rw [flushed] at well
      cases well
    | ok log => exact ⟨m, rfl, rfl, rfl⟩
  · rw [run_start, run_eq, ownNotices, own_eq, acceptances_append, leads.quiet]
    cases flushed : leg.result with
    | error e => exact ⟨rfl, rfl⟩
    | ok log =>
      rw [flushed] at failed
      cases failed
  · cases leg.result <;> rfl
  · rw [leads.own_eq, ownNotices, own_eq, calls_append, calls_append, silent]
    rfl

/-- A send that need not wait is over at once, or it begins with the flush of a full queue. -/
theorem whole_or_flushes (unblocked : .blocked d ∉ (o.start (.send d message)).2) :
    (∃ result, Whole o d message [] result o) ∨
      ∃ m, message = .ok m ∧ o.closed = false ∧ o.fill d = .atCapacity ∧ o.isBusy d = false := by
  by_cases closed : o.closed
  · have refused := start_send_of_closed closed d message
    exact .inl ⟨_, whole_of_refused refused fun still => absurd closed (by simp [still])⟩
  have still : o.closed = false := by simpa using closed
  cases message with
  | error cause =>
    have refused : o.start (.send d (.error cause)) =
        (o, [.finished (.error (.encoding cause))]) := by simp [start, still]
    exact .inl ⟨_, whole_of_refused refused fun _ m given => by cases given⟩
  | ok m =>
    by_cases full : o.fill d = .atCapacity
    · refine .inr ⟨m, rfl, still, full, ?_⟩
      by_contra busy
      have given_up : o.start (.send d (.ok m)) = (o, [.blocked d]) := by
        simp [start, still, fill_eq_atCapacity.1 full, beginFlush, eq_true_of_ne_false busy]
      exact unblocked (given_up ▸ List.mem_singleton_self _)
    · exact .inl ⟨_, whole_of_room still full m⟩

/-- **A send that is over has done all or nothing**, unless it had to wait for another flush. -/
theorem exists_whole (sound : o.Sound)
    (unblocked : .blocked d ∉ (o.start (.send d message)).2)
    (ongoing : Ongoing o.flights.length (o.start (.send d message)).1 during)
    (ended : (o.run (.start (.send d message) :: during)).1.flights.length ≤ o.flights.length) :
    ∃ result left, Whole o d message during result left := by
  rcases whole_or_flushes unblocked with ⟨result, whole⟩ | ⟨m, rfl, still, full, idle⟩
  · obtain rfl := eq_nil_of_ongoing ongoing (Nat.le_of_eq whole.returns.ended)
    exact ⟨result, o, whole⟩
  · rw [run_start, start_send_of_full still full idle] at ended
    rw [start_send_of_full still full idle] at ongoing
    obtain ⟨leg, left, later, rfl, rfl, flights_eq, quiet, serves⟩ :=
      Leg.exists_serves sound.exclusive idle ongoing ended
    have going := ((serves (.send m)).onward_append later).2.1 ongoing
    obtain ⟨same, -⟩ := resume_send_ends left leg.destination leg.result m
    obtain rfl := eq_nil_of_ongoing going (by rw [same, flights_eq])
    have leads := Leg.leads_of_serves idle (serves .flush) flights_eq quiet
    rw [List.append_nil]
    exact ⟨_, left, whole_of_serves still full idle (serves (.send m)) leads⟩

/-- Answers alone bring a send to its end, no more of them than messages wait. -/
theorem exists_returns_send (sound : o.Sound)
    (unblocked : .blocked d ∉ (o.start (.send d message)).2) {answers : List Answer}
    (enough : o.pending d ≤ answers.length) :
    ∃ k ≤ o.pending d, ∃ result,
      o.Returns (.send d message) ((answers.take k).map .answer) result := by
  rcases whole_or_flushes unblocked with ⟨result, whole⟩ | ⟨m, rfl, still, full, idle⟩
  · exact ⟨0, Nat.zero_le _, result, whole.returns⟩
  · obtain ⟨k, few, outcome, returned⟩ := exists_returns idle enough
    obtain ⟨leg, left, rfl, during_eq, -, leads, serves⟩ :=
      Leg.exists_leads sound.exclusive idle returned
    have whole := whole_of_serves still full idle (serves (.send m)) leads
    exact ⟨k, few, _, during_eq ▸ whole.returns⟩

/-! ## After any history -/

/-- A message carries the value of its payload. -/
theorem ofPayload_eq_ok_iff {payload : Payload} {attributes : Attributes} {m : Message} :
    Message.ofPayload payload attributes = .ok m ↔
      ∃ value, payload.encode = .ok value ∧ m = ⟨value, attributes⟩ := by
  rw [Message.ofPayload]
  cases payload.encode with
  | error cause => simp [bind, Except.bind]
  | ok value => simp [bind, Except.bind, eq_comm]

/-- **A send does all or nothing.** After any history, whatever is in flight:
* the known destinations ascend in the order of their bytes, and they are those that a message was
  accepted for, so a send that does nothing makes none known;
* a closed outbox refuses every message as such, and an open one refuses a payload without a value,
  and nothing changes;
* a send that need not wait for another flush and is over, with whatever was started meanwhile, has
  done all or nothing, with the flush of a full queue or at once; and as many answers as there are
  messages that wait bring it to its end. -/
theorem send_all_or_nothing {limit : ℕ} {fresh : Outbox Message} (made : fresh.Made limit)
    (before : List (Input Message)) (d : String) (payload : Payload) (attributes : Attributes) :
    let o := (fresh.run before).1
    let message := Message.ofPayload payload attributes
    ((o.destinations.Pairwise fun a b => Text.utf8 a < Text.utf8 b) ∧
      ∀ d', d' ∈ o.destinations ↔ accepted (fresh.run before).2 d' ≠ []) ∧
    (o.closed → o.start (.send d message) = (o, [.finished (.error (.closed d))])) ∧
    (o.closed = false → ∀ cause, payload.encode = .error cause →
      o.start (.send d message) = (o, [.finished (.error (.encoding cause))])) ∧
    (∀ m, message = .ok m ↔ ∃ value, payload.encode = .ok value ∧ m = ⟨value, attributes⟩) ∧
    (.blocked d ∉ (o.start (.send d message)).2 →
      (∀ during : List (Input Message),
        Ongoing o.flights.length (o.start (.send d message)).1 during →
        (o.run (.start (.send d message) :: during)).1.flights.length ≤ o.flights.length →
        ∃ result left, Whole o d message during result left) ∧
      ∀ answers : List Answer, o.pending d ≤ answers.length →
        ∃ k ≤ o.pending d, ∃ result,
          o.Returns (.send d message) ((answers.take k).map .answer) result) := by
  intro o message
  have sound : o.Sound := made.sound.run before
  refine ⟨⟨o.queues.ascending_names, (made.witnessed before).known⟩, ?_, ?_,
    fun m => ofPayload_eq_ok_iff, fun unblocked => ⟨?_, ?_⟩⟩
  · exact fun closed => start_send_of_closed closed d message
  · intro still cause encoded
    simp [message, Message.ofPayload, encoded, bind, Except.bind, start, still]
  · exact fun during => exists_whole sound unblocked
  · exact fun answers => exists_returns_send sound unblocked

/-- An order waits, and batches have one message. -/
def orderWaits : Outbox Message :=
  ((single Message).run [.start (.send "orders" (.ok ⟨.ofNat 7, ∅⟩))]).1

/-- While the batch that has to leave is away, another order finds room; then the call fails. -/
def secondJoins : List (Input Message) :=
  [.start (.send "orders" (.ok ⟨.ofNat 8, ∅⟩)),
    .answer (.error (.failure (.other "network down")))]

/-- The send whose flush failed has done nothing, although another message joined meanwhile. -/
theorem third_not_sent :
    let message := Message.ofPayload (.json .null) ∅
    .blocked "orders" ∉ (orderWaits.start (.send "orders" message)).2 ∧
      Ongoing 0 (orderWaits.start (.send "orders" message)).1 secondJoins ∧
      orderWaits.Returns (.send "orders" message) secondJoins
        (.error (.failure (.other "network down"))) ∧
      (orderWaits.run (.start (.send "orders" message) :: secondJoins)).1.queue "orders" =
        [⟨.ofNat 7, ∅⟩, ⟨.ofNat 8, ∅⟩] ∧
      ∃ left, Whole orderWaits "orders" message secondJoins
        (.error (.failure (.other "network down"))) left := by
  intro message
  have made : (single Message).Made 10 := .inl ⟨1, rfl⟩
  have handed : (orderWaits.start (.send "orders" message)).2 =
      [.handed "orders" [⟨.ofNat 7, ∅⟩]] := by rfl
  have unblocked : .blocked "orders" ∉ (orderWaits.start (.send "orders" message)).2 := by
    simp [handed]
  have ongoing : Ongoing 0 (orderWaits.start (.send "orders" message)).1 secondJoins := by decide
  have ended : (orderWaits.run (.start (.send "orders" message) :: secondJoins)).1.flights.length ≤
      0 := by decide
  obtain ⟨-, -, -, -, sends⟩ := send_all_or_nothing made _ "orders" (.json .null) ∅
  obtain ⟨result, left, whole⟩ := (sends unblocked).1 secondJoins ongoing ended
  have last : (orderWaits.run (.start (.send "orders" message) :: secondJoins)).2.getLast? =
      some (.finished (.error (.failure (.other "network down")))) := by rfl
  obtain rfl : result = .error (.failure (.other "network down")) :=
    Notice.finished.inj (Option.some.inj (whole.returns.result_eq.symm.trans last))
  exact ⟨unblocked, ongoing, whole.returns, by rfl, left, whole⟩

end Outbox

end Dispatch
