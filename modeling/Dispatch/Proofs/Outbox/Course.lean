import Dispatch.Proofs.Outbox.Flushing

/-!
# The course of a flush

While a flush has a batch with the carrier, more messages may join its queue, and then the carrier
answers. These rounds are all that a flush depends on: `Outbox.course` computes from them, and from
the queue at the start, which batches are handed over, where the flush stands, and how it ends. A
history in which the flush takes place reads off its rounds from its notices, and follows that
course (`Outbox.follows_course`).

## Main definitions

* `History.Round`, `History.rounds`: the answers for a destination, each with the messages that
  joined the queue before it.
* `Outbox.course`: what a flush does in given rounds.
* `Outbox.Standing.Holds`: an outbox is where a flush stands.

## Main statements

* `Outbox.length_course_le`, `Outbox.course_of_alone`: how many batches there are.
* `Outbox.flush_takes_its_course`: a flush takes this course and no other, and comes to an end.
-/
namespace Dispatch

variable {μ : Type}

namespace History

/-- An answer of the carrier, and the messages that joined the queue while it had the batch. -/
structure Round (μ : Type) where
  joined : List μ
  answer : Answer

/-- The rounds of a destination, and the messages that have joined since the last of them. What
had joined before the notices counts for the first round. -/
def rounds (d : String) : List μ → List (Notice μ) → List (Round μ) × List μ
  | joined, [] => ([], joined)
  | joined, .queued d' m :: h => rounds d (if d' = d then joined ++ [m] else joined) h
  | joined, .answered d' _ answer :: h =>
    if d' = d then
      let (later, since) := rounds d [] h
      (⟨joined, answer⟩ :: later, since)
    else rounds d joined h
  | joined, _ :: h => rounds d joined h

variable {d : String} (joined : List μ)

/-- Without an answer, what is accepted joins the queue. -/
theorem rounds_cons_of_unanswered {n : Notice μ} (unanswered : shipmentsTo [n] d = [])
    (h : List (Notice μ)) : rounds d joined (n :: h) = rounds d (joined ++ accepted [n] d) h := by
  cases n with
  | queued d' m =>
    by_cases same : d' = d <;> simp [rounds, same, accepted, acceptances, Notice.acceptance?]
  | answered d' batch answer =>
    have other : d' ≠ d := by
      rintro rfl
      simp [shipmentsTo_answered] at unanswered
    have none : accepted [.answered d' batch answer] d = [] := rfl
    rw [none, List.append_nil, rounds, if_neg other]
  | handed | event | finished | blocked =>
    change _ = rounds d (joined ++ []) h
    rw [List.append_nil]
    rfl

theorem rounds_append_of_unanswered {k : List (Notice μ)} (unanswered : shipmentsTo k d = [])
    (h : List (Notice μ)) : rounds d joined (k ++ h) = rounds d (joined ++ accepted k d) h := by
  induction k generalizing joined with
  | nil => simp [accepted, acceptances]
  | cons n k ih =>
    rw [← List.singleton_append, shipmentsTo_append, List.append_eq_nil_iff] at unanswered
    obtain ⟨first, rest⟩ := unanswered
    rw [List.cons_append, rounds_cons_of_unanswered _ first, ih _ rest, List.append_assoc,
      ← accepted_append, List.singleton_append]

theorem rounds_of_unanswered {k : List (Notice μ)} (unanswered : shipmentsTo k d = []) :
    rounds d joined k = ([], joined ++ accepted k d) := by
  rw [← List.append_nil k, rounds_append_of_unanswered _ unanswered, List.append_nil]
  rfl

/-- The rounds have the answers of the carrier, and with what joined since the last one they have
all that was accepted. -/
theorem rounds_spec (h : List (Notice μ)) :
    (rounds d joined h).1.map (·.answer) = (shipmentsTo h d).map (·.answer) ∧
      (rounds d joined h).1.flatMap (·.joined) ++ (rounds d joined h).2 =
        joined ++ accepted h d := by
  induction h generalizing joined with
  | nil => simp [rounds, shipmentsTo, shipments, accepted, acceptances]
  | cons n h ih =>
    rw [← List.singleton_append, shipmentsTo_append, accepted_append, List.singleton_append]
    by_cases unanswered : shipmentsTo [n] d = []
    · rw [rounds_cons_of_unanswered _ unanswered, unanswered, List.nil_append,
        ← List.append_assoc]
      exact ih _
    · cases n with
      | answered d' batch answer =>
        have here : d' = d := by
          by_contra other
          exact unanswered (by rw [shipmentsTo_answered, if_neg other])
        have none : accepted [.answered d' batch answer] d = [] := rfl
        obtain ⟨answers, all⟩ := ih []
        rw [List.nil_append] at all
        rw [shipmentsTo_answered, if_pos here, none, rounds, if_pos here]
        simp only [List.map_cons, List.singleton_append, answers, List.flatMap_cons,
          List.append_assoc, all, List.nil_append, true_and]
      | _ => exact absurd rfl unanswered

end History

open History

namespace Outbox

/-! ## The course -/

/-- How a flush stands. -/
inductive Standing (μ : Type) where
  /-- The carrier has a batch, and this is left of the queue it was taken from. -/
  | away (batch rest : List μ)
  /-- The flush is over, with this queue and this result. -/
  | ended (queue : List μ) (result : Except Error Log)

/-- The batches that the flush of a queue hands over, and how it stands after the rounds. A batch
is the head of the queue. The flush is over when the queue is empty, and right after an answer that
is an error or lists refused messages; then the messages of the batch whose positions are not
reported delivered stand before those that were not taken and those that joined. -/
def course (d : String) (size : ℕ) : List (Round μ) → List μ → Log → List (List μ) × Standing μ
  | _, [], log => ([], .ended [] (.ok log))
  | [], queue, _ => ([queue.take size], .away (queue.take size) (queue.drop size))
  | ⟨joined, .error e⟩ :: _, queue, _ =>
    ([queue.take size], .ended (queue.take size ++ (queue.drop size ++ joined)) (.error e))
  | ⟨joined, .ok receipt⟩ :: rounds, queue, log =>
    let batch := queue.take size
    let rest := queue.drop size ++ joined
    if receipt.refused = [] then
      let line := LogLine.delivered d batch.length
      let (batches, standing) := course d size rounds rest (log.write .debug line)
      (batch :: batches, standing)
    else
      let kept := (batch.zipIdx.filter fun entry => !receipt.reports entry.2).map (·.1)
      ([batch], .ended (kept ++ rest) (.error (.batchFailed d batch.length receipt.refused)))

variable {d : String} {size : ℕ}

@[simp] theorem course_empty (rounds : List (Round μ)) (log : Log) :
    course d size rounds [] log = ([], .ended [] (.ok log)) := by
  cases rounds <;> rfl

/-- A flush goes on after a clean receipt. -/
theorem course_cons_of_clean {queue : List μ} (waiting : queue ≠ []) {receipt : Receipt}
    (clean : receipt.refused = []) (joined : List μ) (rounds : List (Round μ)) (log : Log) :
    course d size (⟨joined, .ok receipt⟩ :: rounds) queue log =
      let next := course d size rounds (queue.drop size ++ joined)
        (log.write .debug (LogLine.delivered d (queue.take size).length))
      (queue.take size :: next.1, next.2) := by
  obtain ⟨m, ms, rfl⟩ := List.exists_cons_of_ne_nil waiting
  simp only [course, clean, if_true]

/-! ### How many batches there are -/

/-- A flush hands over no more batches than there are messages in the queue and messages that join
it. -/
theorem length_course_le (pos : 0 < size) (rounds : List (Round μ)) (queue : List μ) (log : Log) :
    (course d size rounds queue log).1.length ≤
      queue.length + (rounds.flatMap (·.joined)).length := by
  induction rounds generalizing queue log with
  | nil =>
    cases queue with
    | nil => simp
    | cons m ms => simp [course]
  | cons round rounds ih =>
    obtain ⟨joined, answer⟩ := round
    by_cases empty : queue = []
    · simp [empty]
    have some : 0 < queue.length := List.length_pos_iff.2 empty
    simp only [List.flatMap_cons, List.length_append]
    by_cases goes_on : ∃ receipt, answer = .ok receipt ∧ receipt.refused = []
    · obtain ⟨receipt, rfl, clean⟩ := goes_on
      have later := ih (queue.drop size ++ joined)
        (log.write .debug (LogLine.delivered d (queue.take size).length))
      rw [List.length_append, List.length_drop] at later
      rw [course_cons_of_clean empty clean, List.length_cons]
      omega
    · obtain ⟨m, ms, rfl⟩ := List.exists_cons_of_ne_nil empty
      have last : (course d size (⟨joined, answer⟩ :: rounds) (m :: ms) log).1.length = 1 := by
        cases answer with
        | error e => rfl
        | ok receipt =>
          have refused : ¬receipt.refused = [] := fun clean => goes_on ⟨receipt, rfl, clean⟩
          simp [course, refused]
      omega

/-- A batch of full size less makes one batch less. -/
theorem ceil_sub (pos : 0 < size) {n : ℕ} (some : 0 < n) :
    (n - size + size - 1) / size + 1 = (n + size - 1) / size := by
  rw [← Nat.add_div_right _ pos]
  by_cases small : n < size
  · have last : n - size + size - 1 + size = (size - 1) + size := by omega
    have one : n + size - 1 = (n - 1) + size := by omega
    rw [last, one, Nat.add_div_right _ pos, Nat.add_div_right _ pos,
      Nat.div_eq_of_lt (by omega), Nat.div_eq_of_lt (by omega)]
  · congr 1
    omega

/-- When the flush of a queue with messages ends well, its first answer was a clean receipt. -/
theorem clean_of_course_ok {rounds : List (Round μ)} {joined queue left : List μ} {answer : Answer}
    {log last : Log} (waiting : queue ≠ [])
    (well : (course d size (⟨joined, answer⟩ :: rounds) queue log).2 = .ended left (.ok last)) :
    ∃ receipt, answer = .ok receipt ∧ receipt.refused = [] := by
  obtain ⟨m, ms, rfl⟩ := List.exists_cons_of_ne_nil waiting
  cases answer with
  | error e => simp [course] at well
  | ok receipt =>
    by_cases clean : receipt.refused = []
    · exact ⟨receipt, rfl, clean⟩
    · simp [course, clean] at well

/-- When nothing joins and the flush ends well, the queue has been cut into batches of full size,
but for the last one. -/
theorem course_of_alone (pos : 0 < size) {rounds : List (Round μ)}
    (alone : ∀ round ∈ rounds, round.joined = []) {queue left : List μ} {log last : Log}
    (well : (course d size rounds queue log).2 = .ended left (.ok last)) :
    (course d size rounds queue log).1.length = (queue.length + size - 1) / size ∧
      ∀ batch ∈ (course d size rounds queue log).1.dropLast, batch.length = size := by
  induction rounds generalizing queue log with
  | nil =>
    cases queue with
    | nil =>
      have none : (size - 1) / size = 0 := Nat.div_eq_of_lt (by omega)
      simp [none]
    | cons m ms => simp [course] at well
  | cons round rounds ih =>
    obtain ⟨joined, answer⟩ := round
    obtain ⟨rfl, later_alone⟩ : joined = [] ∧ ∀ round ∈ rounds, round.joined = [] := by
      simpa using alone
    by_cases empty : queue = []
    · have none : (size - 1) / size = 0 := Nat.div_eq_of_lt (by omega)
      simp [empty, none]
    obtain ⟨receipt, rfl, clean⟩ := clean_of_course_ok empty well
    rw [course_cons_of_clean empty clean, List.append_nil] at well ⊢
    obtain ⟨count, full⟩ := ih later_alone well
    rw [List.length_drop] at count
    constructor
    · rw [List.length_cons, count]
      exact ceil_sub pos (List.length_pos_iff.2 empty)
    · by_cases few : queue.length ≤ size
      · simp [List.drop_eq_nil_of_le few]
      · intro batch among
        -- the queue is longer than a batch, so the first batch is not the last one
        have more : (course d size rounds (queue.drop size)
            (log.write .debug (LogLine.delivered d (queue.take size).length))).1 ≠ [] := by
          rw [← List.length_pos_iff, count]
          exact Nat.div_pos (by omega) pos
        rw [List.dropLast_cons_of_ne_nil more] at among
        rcases List.mem_cons.1 among with rfl | among
        · rw [List.length_take]
          omega
        · exact full batch among

/-! ## A flush follows its course -/

/-- A history is where a flush stands that lies on the flights `base`: its batch is with the
carrier, and what joined since the last answer stands behind the rest of the queue; or it is over
and its result is the last notice. -/
def Standing.Holds (seen : Outbox μ × List (Notice μ)) (d : String) (base : List (Flight μ))
    (since : List μ) : Standing μ → Prop
  | .away batch rest =>
    (∃ inner f, seen.1.flights = inner ++ f :: base ∧ f.destination = d ∧ f.batch = batch) ∧
      seen.1.queue d = rest ++ since
  | .ended queue result =>
    seen.1.flights = base ∧ seen.1.queue d = queue ∧ since = [] ∧
      seen.2.getLast? = some (.finished (result.map .drained))

/-- Where a flush stands does not depend on what was noticed first. -/
theorem Standing.Holds.prepend {standing : Standing μ} {now : Outbox μ} {h : List (Notice μ)}
    {base : List (Flight μ)} {since : List μ} (holds : standing.Holds (now, h) d base since)
    (earlier : List (Notice μ)) : standing.Holds (now, earlier ++ h) d base since := by
  cases standing with
  | away batch rest => exact holds
  | ended queue result =>
    obtain ⟨flights, left, none, last⟩ := holds
    exact ⟨flights, left, none, getLast?_append_of_getLast? last⟩

variable {o : Outbox μ} {f : Flight μ} {base inner : List (Flight μ)} {queue joined : List μ}

/-- The answer that ends a flush ends its course, with the queue that it leaves. -/
theorem course_of_endsFlush (top : o.flights = f :: base) (waiting : queue ≠ [])
    (batch : f.batch = queue.take o.batchSize)
    (left : o.queue f.destination = queue.drop o.batchSize ++ joined) {answer : Answer}
    (ends : o.endsFlush f.destination (.answer answer)) :
    course f.destination o.batchSize [⟨joined, answer⟩] queue f.log =
      ([f.batch], .ended ((({ o with flights := base } : Outbox μ).reclaim f answer).queue
        f.destination) (f.result answer)) := by
  obtain ⟨m, ms, rfl⟩ := List.exists_cons_of_ne_nil waiting
  have same : (({ o with flights := base } : Outbox μ).queue f.destination) =
      (m :: ms).drop o.batchSize ++ joined := left
  cases answer with
  | error e => simp [course, reclaim, same, batch, Flight.result]
  | ok receipt =>
    by_cases clean : receipt.refused = []
    · have none : o.queue f.destination = [] := by simpa [endsFlush, top, clean] using ends
      rw [left] at none
      rw [course_cons_of_clean waiting clean, none]
      simp [reclaim, clean, same, none, batch, Flight.result, Flight.written]
    · simp [course, clean, reclaim, same, batch, Flight.result, Receipt.undelivered_eq_filter]

/-- How a history goes on with a flush whose latest batch was taken from the queue, while messages
have joined it: what it hands over, and where it stands at the end, is as its rounds have it. -/
structure Follows (size : ℕ) (f : Flight μ) (base : List (Flight μ)) (queue joined : List μ)
    (seen : Outbox μ × List (Notice μ)) : Prop where
  calls : f.batch :: handedTo seen.2 f.destination =
    (course f.destination size (rounds f.destination joined seen.2).1 queue f.log).1
  standing : (course f.destination size (rounds f.destination joined seen.2).1 queue f.log).2.Holds
    seen f.destination base (rounds f.destination joined seen.2).2

/-- What is accepted before the first answer joins the queue. -/
theorem Follows.prepend {size : ℕ} {now : Outbox μ} {k h : List (Notice μ)}
    (unanswered : shipmentsTo k f.destination = []) (quiet : handedTo k f.destination = [])
    (later : Follows size f base queue (joined ++ accepted k f.destination) (now, h)) :
    Follows size f base queue joined (now, k ++ h) := by
  constructor
  · rw [handedTo_append, quiet, rounds_append_of_unanswered _ unanswered]
    exact later.calls
  · rw [rounds_append_of_unanswered _ unanswered]
    exact later.standing.prepend k

/-- The last answer ends the course. -/
theorem follows_of_endsFlush (top : o.flights = f :: base) (asked : f.purpose = .flush)
    (waiting : queue ≠ []) (batch : f.batch = queue.take o.batchSize)
    (left : o.queue f.destination = queue.drop o.batchSize ++ joined) {answer : Answer}
    (ends : o.endsFlush f.destination (.answer answer)) :
    (o.settle answer).1.flights = base ∧
      Follows o.batchSize f base queue joined (o.settle answer) := by
  let rest : List (Notice μ) :=
    (f.report answer).map .event ++ [.finished ((f.result answer).map .drained)]
  have settled : o.settle answer = (({ o with flights := base } : Outbox μ).reclaim f answer,
      .answered f.destination f.batch answer :: rest) := by
    rw [settle_eq_resume top ends, asked]
    rfl
  have unanswered : shipmentsTo rest f.destination = [] := by
    simp [rest, shipmentsTo, shipments, Notice.shipment?]
  have none : accepted rest f.destination = [] := by
    simp [rest, accepted, acceptances, Notice.acceptance?]
  have read : rounds f.destination joined (o.settle answer).2 = ([⟨joined, answer⟩], []) := by
    rw [settled, rounds, if_pos rfl, rounds_of_unanswered _ unanswered, none, List.append_nil]
  have ended := course_of_endsFlush top waiting batch left ends
  refine ⟨by rw [settled]; exact flights_reclaim _ _ _, ?_, ?_⟩
  · rw [read, ended, settled]
    simp [rest, handedTo]
  · rw [read, ended, settled]
    exact ⟨flights_reclaim _ _ _, rfl, rfl, by simp [rest, List.getLast?_cons]⟩

/-- After another answer the flush goes on with the head of what waits. -/
theorem follows_of_goes_on (top : o.flights = f :: base) (waiting : queue ≠ [])
    (batch : f.batch = queue.take o.batchSize)
    (left : o.queue f.destination = queue.drop o.batchSize ++ joined) {answer : Answer}
    (goes_on : o.endsFlush f.destination (.answer answer) = false) {inputs : List (Input μ)}
    (later : Follows o.batchSize
      ⟨f.destination, (o.queue f.destination).take o.batchSize, f.written, f.purpose⟩ base
      (o.queue f.destination) [] ((o.settle answer).1.run inputs)) :
    Follows o.batchSize f base queue joined (o.run (.answer answer :: inputs)) := by
  obtain ⟨receipt, rfl, clean, -⟩ := clean_of_goes_on top goes_on
  obtain ⟨calls, standing⟩ := later
  rw [run_cons, step]
  generalize (o.settle (.ok receipt)).1.run inputs = seen at calls standing ⊢
  have read : rounds f.destination joined ((o.settle (.ok receipt)).2 ++ seen.2) =
      (⟨joined, .ok receipt⟩ :: (rounds f.destination [] seen.2).1,
        (rounds f.destination [] seen.2).2) := by
    rw [settle_of_goes_on top goes_on]
    simp [rounds]
  constructor
  · rw [read, course_cons_of_clean waiting clean, ← left, ← batch, settle_of_goes_on top goes_on]
    simpa [handedTo, Flight.written] using calls
  · rw [read, course_cons_of_clean waiting clean, ← left, ← batch]
    exact standing.prepend _

/-- **A flush follows its course**, from a batch that was taken from the queue on, whatever
happens above it. -/
theorem follows_course (sound : o.Sound) (place : o.flights = inner ++ f :: base)
    (asked : f.purpose = .flush) (waiting : queue ≠ [])
    (batch : f.batch = queue.take o.batchSize)
    (left : o.queue f.destination = queue.drop o.batchSize ++ joined) {inputs : List (Input μ)}
    (going : Ongoing base.length o inputs) :
    Follows o.batchSize f base queue joined (o.run inputs) := by
  induction inputs generalizing o f inner queue joined with
  | nil =>
    obtain ⟨m, ms, rfl⟩ := List.exists_cons_of_ne_nil waiting
    exact ⟨by simp [rounds, course, batch, handedTo], ⟨inner, f, place, rfl, batch⟩, left⟩
  | cons input inputs ih =>
    obtain ⟨-, later⟩ := going
    have kept := sound.step input
    have size := batchSize_step sound input
    by_cases latest : ∃ answer, input = .answer answer ∧ inner = []
    · obtain ⟨answer, rfl, rfl⟩ := latest
      rw [List.nil_append] at place
      by_cases ends : o.endsFlush f.destination (.answer answer)
      · obtain ⟨landed, follows⟩ := follows_of_endsFlush place asked waiting batch left ends
        cases inputs with
        | nil => simpa [run_cons, step] using follows
        | cons next inputs =>
          have more := later.1
          rw [step, landed] at more
          exact absurd more (Nat.lt_irrefl _)
      · have goes_on : o.endsFlush f.destination (.answer answer) = false := by simpa using ends
        obtain ⟨-, -, -, more⟩ := clean_of_goes_on place goes_on
        obtain ⟨top, rest⟩ := next_of_goes_on place goes_on
        rw [step] at kept size later
        rw [← size] at rest top
        have follows := ih kept (show _ = [] ++ _ :: base from top) asked more rfl
          (rest.trans (List.append_nil _).symm) later
        rw [size] at follows
        exact follows_of_goes_on place waiting batch left goes_on follows
    · have others : ∀ answer, input = .answer answer → inner ≠ [] :=
        fun answer same none => latest ⟨answer, same, none⟩
      obtain ⟨⟨inner', place'⟩, quiet, unanswered, grows⟩ := step_above sound place others
      rw [left, List.append_assoc, ← size] at grows
      have follows := ih kept place' asked waiting (size ▸ batch) grows later
      rw [size] at follows
      exact follows.prepend unanswered quiet

/-! ## The flush of a destination -/

variable {d : String}

/-- The flush of a queue with messages starts with its first batch. -/
theorem start_flush (idle : o.isBusy d = false) :
    o.start (.flush d) =
      if o.queue d = [] then (o, [.finished (.ok (.drained .empty))])
      else o.handOver d .empty .flush := by
  simp only [start, beginFlush, idle, Bool.false_eq_true, if_false, proceed, List.isEmpty_iff]
  rfl

/-- The whole flush follows its course. -/
theorem start_follows_course (sound : o.Sound) (idle : o.isBusy d = false)
    {during : List (Input μ)} (ongoing : Ongoing o.flights.length (o.start (.flush d)).1 during) :
    let seen := o.run (.start (.flush d) :: during)
    let read := rounds d [] seen.2
    let reached := course d o.batchSize read.1 (o.queue d) .empty
    handedTo seen.2 d = reached.1 ∧ reached.2.Holds seen d o.flights read.2 := by
  have first := start_flush idle
  by_cases empty : o.queue d = []
  · rw [if_pos empty] at first
    cases during with
    | nil =>
      simp only [run_cons, step, first, run_nil, List.append_nil, empty, course_empty]
      exact ⟨rfl, rfl, empty, rfl, rfl⟩
    | cons input inputs =>
      have more := ongoing.1
      rw [first] at more
      exact absurd more (Nat.lt_irrefl _)
  · rw [if_neg empty] at first
    have kept := sound.step (.start (.flush d))
    rw [step, first] at kept
    rw [first] at ongoing
    have rest : (o.handOver d .empty .flush).1.queue d = (o.queue d).drop o.batchSize ++ [] := by
      rw [queue_handOver, if_pos rfl, List.append_nil]
    obtain ⟨calls, standing⟩ := follows_course kept
      (show _ = [] ++ _ :: o.flights from flights_handOver o d .empty .flush) rfl empty rfl rest
      ongoing
    have handed (h : List (Notice μ)) :
        handedTo ((o.handOver d .empty .flush).2 ++ h) d =
          (o.queue d).take o.batchSize :: handedTo h d := by
      simp [handOver, handedTo]
    simp only [run_cons, step, first]
    rw [handed]
    exact ⟨calls, standing.prepend _⟩

/-! ## A flush ends -/

/-- A flush that waits for its batch is over after at most one answer more than messages wait. -/
theorem exists_ended (top : o.flights = f :: base) (asked : f.purpose = .flush)
    {answers : List Answer} (enough : (o.queue f.destination).length < answers.length) :
    ∃ k ≤ (o.queue f.destination).length + 1, ∃ result,
      Ongoing base.length o ((answers.take k).map .answer) ∧
        (o.run ((answers.take k).map .answer)).1.flights = base ∧
        (o.run ((answers.take k).map .answer)).2.getLast? = some (.finished result) := by
  induction answers generalizing o f with
  | nil => exact absurd enough (Nat.not_lt_zero _)
  | cons answer answers ih =>
    have flying : base.length < o.flights.length := by simp [top]
    by_cases ends : o.endsFlush f.destination (.answer answer)
    · have settled := settle_eq_resume top ends
      rw [asked, resume] at settled
      refine ⟨1, by omega, (f.result answer).map .drained, ⟨flying, trivial⟩, ?_, ?_⟩
      · simp [run_cons, step, settled]
      · simp [run_cons, step, settled, List.getLast?_cons]
    · have goes_on : o.endsFlush f.destination (.answer answer) = false := by simpa using ends
      obtain ⟨-, -, -, more⟩ := clean_of_goes_on top goes_on
      obtain ⟨above, rest⟩ := next_of_goes_on top goes_on
      have fewer : ((o.settle answer).1.queue f.destination).length <
          (o.queue f.destination).length := by
        have pos := o.batchSize_pos
        have some := List.length_pos_iff.2 more
        rw [rest, List.length_drop]
        omega
      have still : ((o.settle answer).1.queue f.destination).length < answers.length := by
        rw [List.length_cons] at enough
        omega
      obtain ⟨k, small, result, ongoing, ended, last⟩ := ih above asked still
      dsimp only at small
      exact ⟨k + 1, by omega, result, ⟨flying, ongoing⟩, ended, getLast?_append_of_getLast? last⟩

/-- Answers alone bring the flush of a destination to its end, no more of them than messages
wait. -/
theorem exists_returns (idle : o.isBusy d = false) {answers : List Answer}
    (enough : (o.queue d).length ≤ answers.length) :
    ∃ k ≤ (o.queue d).length, ∃ result,
      o.Returns (.flush d) ((answers.take k).map .answer) result := by
  have first := start_flush idle
  by_cases empty : o.queue d = []
  · rw [if_pos empty] at first
    refine ⟨0, Nat.zero_le _, .ok (.drained .empty), trivial, ?_, ?_⟩
    · simp [run_cons, step, first]
    · simp [run_cons, step, first]
  · rw [if_neg empty] at first
    have fewer : ((o.start (.flush d)).1.queue d).length < (o.queue d).length := by
      have pos := o.batchSize_pos
      have some := List.length_pos_iff.2 empty
      rw [first, queue_handOver, if_pos rfl, List.length_drop]
      omega
    have above : (o.start (.flush d)).1.flights =
        ⟨d, (o.queue d).take o.batchSize, .empty, .flush⟩ :: o.flights := by
      rw [first]
      exact flights_handOver o d .empty .flush
    obtain ⟨k, small, result, ongoing, ended, last⟩ :=
      exists_ended above rfl (Nat.lt_of_lt_of_le fewer enough)
    exact ⟨k, Nat.le_trans small fewer, result, ongoing, congrArg List.length ended,
      getLast?_append_of_getLast? last⟩

/-- A flush that is over gives its result. -/
theorem Standing.Holds.returns {standing : Standing μ} {d : String} {during : List (Input μ)}
    {since left : List μ} {result : Except Error Log}
    (holds : standing.Holds (o.run (.start (.flush d) :: during)) d o.flights since)
    (stands : standing = .ended left result)
    (ongoing : Ongoing o.flights.length (o.start (.flush d)).1 during) :
    o.Returns (.flush d) during (result.map .drained) := by
  subst stands
  obtain ⟨flights, -, -, last⟩ := holds
  exact ⟨ongoing, congrArg List.length flights, last⟩

/-- And one that gave a log has ended with it. -/
theorem Standing.Holds.ended {standing : Standing μ} {d : String} {during : List (Input μ)}
    {since : List μ} {log : Log}
    (holds : standing.Holds (o.run (.start (.flush d) :: during)) d o.flights since)
    (returned : o.Returns (.flush d) during (.ok (.drained log))) :
    ∃ left, standing = .ended left (.ok log) := by
  cases standing with
  | away batch rest =>
    -- its batch would still be in flight
    obtain ⟨⟨inner, f, place, -⟩, -⟩ := holds
    have same := returned.ended
    rw [place, List.length_append, List.length_cons] at same
    omega
  | ended left result =>
    obtain ⟨-, -, -, last⟩ := holds
    rw [returned.result_eq] at last
    cases result with
    | error e => cases last
    | ok log' =>
      cases last
      exact ⟨left, rfl⟩

/-- **A flush takes its course.** Take an outbox with any queues, as every history leaves it, and
the flush of a destination that has no batch in flight, with whatever is started meanwhile. The
answers for the destination and the messages that joined its queue before each of them determine
what the flush does, as `course` computes it: the batches it hands over, what is left in the queue,
and its result. It hands over no more batches than there are messages, those that joined included;
if none joined and it ends well, all batches are full but for the last one, so there are as few as
there can be. It ends after at most as many answers as there are messages, and where none waits, or
the destination is not known, it ends at once and hands over nothing. -/
theorem flush_takes_its_course (sound : o.Sound) {d : String} (idle : o.isBusy d = false)
    {during : List (Input μ)} (ongoing : Ongoing o.flights.length (o.start (.flush d)).1 during) :
    let seen := o.run (.start (.flush d) :: during)
    let read := rounds d [] seen.2
    let reached := course d o.batchSize read.1 (o.queue d) .empty
    (read.1.map (·.answer) = (shipmentsTo seen.2 d).map (·.answer) ∧
      read.1.flatMap (·.joined) ++ read.2 = accepted seen.2 d) ∧
    (handedTo seen.2 d = reached.1 ∧ reached.2.Holds seen d o.flights read.2) ∧
    (∀ queue result, reached.2 = .ended queue result →
      o.Returns (.flush d) during (result.map .drained)) ∧
    (handedTo seen.2 d).length ≤ (o.queue d).length + (accepted seen.2 d).length ∧
    (∀ log, o.Returns (.flush d) during (.ok (.drained log)) → accepted seen.2 d = [] →
      (handedTo seen.2 d).length = ((o.queue d).length + o.batchSize - 1) / o.batchSize ∧
        ∀ batch ∈ (handedTo seen.2 d).dropLast, batch.length = o.batchSize) ∧
    (∀ answers : List Answer, (o.queue d).length ≤ answers.length →
      ∃ k ≤ (o.queue d).length, ∃ result,
        o.Returns (.flush d) ((answers.take k).map .answer) result) ∧
    (d ∉ o.destinations ∨ o.queue d = [] →
      o.start (.flush d) = (o, [.finished (.ok (.drained .empty))])) := by
  intro seen read reached
  obtain ⟨answers_eq, joined_eq⟩ := rounds_spec (d := d) [] seen.2
  rw [List.nil_append] at joined_eq
  obtain ⟨calls, holds⟩ := start_follows_course sound idle ongoing
  refine ⟨⟨answers_eq, joined_eq⟩, ⟨calls, holds⟩, ?_, ?_, ?_, ?_, ?_⟩
  · intro queue result ended
    exact holds.returns ended ongoing
  · rw [calls, ← joined_eq, List.length_append]
    have bound := length_course_le (d := d) o.batchSize_pos read.1 (o.queue d) .empty
    exact Nat.le_trans bound (Nat.add_le_add_left (Nat.le_add_right _ _) _)
  · intro log returned none
    rw [none, List.append_eq_nil_iff, List.flatMap_eq_nil_iff] at joined_eq
    obtain ⟨queue, well⟩ := holds.ended returned
    rw [calls]
    exact course_of_alone o.batchSize_pos joined_eq.1 well
  · intro answers enough
    exact exists_returns idle enough
  · intro nothing
    have empty : o.queue d = [] := by
      by_contra waiting
      exact nothing.elim (fun unknown => unknown (mem_destinations_of_waiting waiting)) waiting
    rw [start_flush idle, if_pos empty]

/-- Three messages wait, and batches have two. -/
def threeWait : Outbox ℕ :=
  (double ℕ).setQueue "orders" [1, 2, 3]

/-- A message joins the queue during each of two calls; the first call goes well, and in the second
one an entry is refused. -/
def secondCallRefused : List (Input ℕ) :=
  [.start (.send "orders" (.ok 4)), .answer (.ok ⟨[⟨0, "a"⟩, ⟨1, "b"⟩], []⟩),
    .start (.send "orders" (.ok 5)),
    .answer (.ok ⟨[⟨1, "d"⟩], [⟨0, true, "Rejected", "too old"⟩]⟩)]

/-- The message that was refused stands before the one that joined last; the one that joined first
has been taken with it. -/
theorem third_stands_before_fifth :
    let seen := threeWait.run (.start (.flush "orders") :: secondCallRefused)
    let failed : Error := .batchFailed "orders" 2 [⟨0, true, "Rejected", "too old"⟩]
    threeWait.Sound ∧ threeWait.isBusy "orders" = false ∧
      Ongoing 0 (threeWait.start (.flush "orders")).1 secondCallRefused ∧
      handedTo seen.2 "orders" = [[1, 2], [3, 4]] ∧ seen.1.queue "orders" = [3, 5] ∧
      threeWait.Returns (.flush "orders") secondCallRefused (.error failed) := by
  intro seen failed
  have made : create? 10 2 = .ok (double ℕ) := rfl
  have sound : threeWait.Sound := (sound_new made).setQueue _ _
  have idle : threeWait.isBusy "orders" = false := rfl
  have ongoing : Ongoing 0 (threeWait.start (.flush "orders")).1 secondCallRefused := by decide
  obtain ⟨-, ⟨calls, holds⟩, returns, -⟩ := flush_takes_its_course sound idle ongoing
  exact ⟨sound, idle, ongoing, calls, holds.2.1, returns [3, 5] (.error failed) rfl⟩

end Outbox

end Dispatch
