import Dispatch.Proofs.Envelope.Packing
import Dispatch.Proofs.Outbox.Attended
import Dispatch.Proofs.Outbox.Capacity
import Dispatch.Proofs.Outbox.Performing

/-!
# Messages that are never sent

A carrier may fail every batch with a certain message. The batch goes back to the head of its queue
each time, so the message stays in the next batch, and what joins the queue later waits behind it
(`Outbox.Stuck`). Nothing is lost, but nothing gets past it either. When operations are carried out
one after the other, a queue holds no more than a batch, so that every message that waits is in the
next batch (`Outbox.Resting.stuck`).

## Main definitions

* `Outbox.Stuck`: a message is in the next batch for its destination, or in the one in flight.
* `Outbox.Fails`: a carrier fails every batch with the message.

## Main statements

* `Outbox.Stuck.step`: a step keeps the message there, if its batch fails.
* `Outbox.hosted_stuck`: what holds of whole histories then.
* `Outbox.queue_of_accepted`: a message that was accepted waits when its operation is over.
* `Outbox.perform_flush_of_stuck`, `Outbox.perform_send_of_stuck`: operations that change nothing.
-/
namespace Dispatch

open History

namespace Outbox

variable {σ μ : Type} {o next : Outbox μ} {d : String} {m : μ} {plan : List String}
  {notices : List (Notice μ)}

/-! ## A message at the head -/

/-- A message is among those that the next batch for its destination takes, or a batch with it is
in flight. -/
structure Stuck (d : String) (m : μ) (o : Outbox μ) : Prop where
  flying : ∀ f ∈ o.flights, f.destination = d → m ∈ f.batch
  waiting : o.isBusy d = false → m ∈ (o.queue d).take o.batchSize

/-- What joins the queue stands behind it, and a batch that leaves takes it along. -/
theorem Stuck.halts (S : o.Stuck d m) (h : Halts o plan notices next) : next.Stuck d m := by
  induction h with
  | event e later ih => exact ih
  | finished | blocked => exact S
  | @queued d' m' room =>
    refine ⟨S.flying, fun idle => ?_⟩
    have before := S.waiting idle
    by_cases here : d = d'
    · subst here
      rw [queue_push_self]
      change m ∈ (o.queue d ++ [m']).take o.batchSize
      rw [List.take_append]
      exact List.mem_append_left _ before
    · rw [queue_push_of_ne o m' here]
      exact before
  | @handed d' log purpose idle waiting planned =>
    refine ⟨fun f among here => ?_, fun still => ?_⟩
    · rcases List.mem_cons.1 among with rfl | among
      · subst here
        exact S.waiting idle
      · exact S.flying f among here
    · have apart : d' ≠ d := isBusy_eq_false.1 still _ (List.mem_cons_self ..)
      have idle_before : o.isBusy d = false :=
        isBusy_eq_false.2 fun f among => isBusy_eq_false.1 still f (List.mem_cons_of_mem _ among)
      rw [queue_handOver, if_neg apart]
      exact S.waiting idle_before

/-- The batch that an answer is for fails, if it is for the destination. -/
def FailsFor (d : String) (o : Outbox μ) (input : Input μ) : Prop :=
  ∀ f outer answer, o.flights = f :: outer → input = .answer answer → f.destination = d →
    ∃ e, answer = .error e

/-- A batch that fails goes back to the head of its queue, and nothing is lost. -/
theorem Stuck.noted (S : o.Stuck d m) (sound : o.Sound) {input : Input μ}
    (fails : o.FailsFor d input) :
    (o.noted input).Stuck d m ∧ (o.noted input).outstanding d = o.outstanding d := by
  cases input with
  | start operation =>
    cases operation with
    | close => exact ⟨⟨S.flying, S.waiting⟩, rfl⟩
    | send | flush | flushAll => exact ⟨S, rfl⟩
  | answer answer =>
    cases top : o.flights with
    | nil =>
      simp only [Outbox.noted, top]
      exact ⟨S, trivial⟩
    | cons f outer =>
      have inside : ∀ g ∈ outer, g ∈ o.flights := fun g among => top ▸ List.mem_cons_of_mem f among
      simp only [Outbox.noted, top]
      by_cases here : f.destination = d
      · subst here
        obtain ⟨e, rfl⟩ := fails f outer answer top rfl rfl
        have among := S.flying f (by simp [top]) rfl
        have small := (sound.loaded f (by simp [top])).2
        refine ⟨⟨fun g there => ?_, fun _ => ?_⟩, ?_⟩
        · rw [flights_reclaim] at there
          exact S.flying g (inside g there)
        · rw [queue_reclaim_self, batchSize_reclaim, List.take_append]
          refine List.mem_append_left _ ?_
          rwa [Shipment.left, List.take_of_length_le small]
        · rw [sound.exclusive.outstanding_reclaim top, sound.exclusive.outstanding_top top]
          rfl
      · refine ⟨⟨fun g there => ?_, fun idle => ?_⟩, ?_⟩
        · rw [flights_reclaim] at there
          exact S.flying g (inside g there)
        · have idle_before : o.isBusy d = false := by
            rw [isBusy_eq_false, flights_reclaim] at idle
            rw [isBusy_eq_false, top]
            exact List.forall_mem_cons.2 ⟨here, idle⟩
          rw [queue_reclaim_of_ne _ answer (Ne.symm here), batchSize_reclaim]
          exact S.waiting idle_before
        · exact outstanding_reclaim_of_ne top answer (Ne.symm here)

/-- **A step keeps the message where it is**, and only adds to what is outstanding. -/
theorem Stuck.step (S : o.Stuck d m) (sound : o.Sound) {input : Input μ}
    (fails : o.FailsFor d input) :
    (o.step input).1.Stuck d m ∧
      (o.step input).1.outstanding d = o.outstanding d ++ accepted (o.step input).2 d := by
  obtain ⟨still, same⟩ := S.noted sound fails
  rw [outstanding_step sound.exclusive, same]
  refine ⟨?_, rfl⟩
  rcases step_cases sound.exclusive input with ⟨unchanged, -⟩ | ⟨notices, -, halts⟩
  · rwa [unchanged]
  · exact still.halts halts

/-- A step answers for the latest batch, if for any. -/
theorem answer_of_shipmentsTo (exclusive : o.Exclusive) {input : Input μ} {s : Shipment μ}
    (among : s ∈ shipmentsTo (o.step input).2 d) :
    ∃ f outer, o.flights = f :: outer ∧ f.destination = d ∧ input = .answer s.answer := by
  rcases step_cases exclusive input with ⟨unchanged, -⟩ | ⟨notices, all, halts⟩
  · simp [unchanged, shipmentsTo, shipments] at among
  · rw [all, shipmentsTo_append, halts.shipmentsTo_eq_nil, List.append_nil] at among
    cases input with
    | start operation => simp [heard, shipmentsTo, shipments] at among
    | answer answer =>
      cases top : o.flights with
      | nil => simp [heard, top, shipmentsTo, shipments] at among
      | cons f outer =>
        simp only [heard, top, shipmentsTo_answered] at among
        split at among
        · next here =>
          rw [List.mem_singleton.1 among]
          exact ⟨f, outer, rfl, here, rfl⟩
        · cases among

/-! ## A carrier that never takes it -/

/-- A carrier fails every batch for a destination that has the message, up to a size. These calls
and those for other destinations keep a property of what the carrier remembers. -/
structure Fails (c : Carrier σ μ) (d : String) (m : μ) (size : ℕ) (e : Error) (P : σ → Prop) :
    Prop where
  answer : ∀ batch state, P state → m ∈ batch → batch.length ≤ size →
    (c.sendBatch d batch state).1 = .error e
  kept : ∀ d' batch state, P state → (d' = d → m ∈ batch ∧ batch.length ≤ size) →
    P (c.sendBatch d' batch state).2

variable {c : Carrier σ μ} {e : Error} {P : σ → Prop} {state : σ}

/-- The input that a turn amounts to fails the batch, if it is for it. -/
theorem Fails.heed (F : Fails c d m o.batchSize e P) (sound : o.Sound) (S : o.Stuck d m)
    (start : P state) (turn : Turn μ) :
    P (heed c o state turn).2 ∧ ∀ f outer answer, o.flights = f :: outer →
      (heed c o state turn).1 = .answer answer → f.destination = d → answer = .error e := by
  cases turn with
  | start operation =>
    refine ⟨start, ?_⟩
    intro f outer answer top asked
    cases asked
  | answer =>
    cases top : o.flights with
    | nil =>
      simp only [Outbox.heed, top]
      exact ⟨start, fun f outer answer impossible => by cases impossible⟩
    | cons f outer =>
      have small := (sound.loaded f (by simp [top])).2
      have among := S.flying f (by simp [top])
      simp only [Outbox.heed, top]
      refine ⟨F.kept _ _ _ start fun here => ⟨among here, small⟩, ?_⟩
      intro g outer' answer same asked here
      cases same
      cases asked
      subst here
      exact F.answer _ _ start (among rfl) small

/-- **A carrier that fails every batch with the message** is asked for its destination in vain:
all that is outstanding stays so, and later messages stand behind it. -/
theorem hosted_stuck (F : Fails c d m o.batchSize e P) (sound : o.Sound) (S : o.Stuck d m)
    (start : P state) (turns : List (Turn μ)) :
    let seen := hosted c turns o state
    seen.1.Stuck d m ∧ P seen.2.2 ∧
      seen.1.outstanding d = o.outstanding d ++ accepted seen.2.1 d ∧
      ∀ s ∈ shipmentsTo seen.2.1 d, s.answer = .error e := by
  induction turns generalizing o state with
  | nil => exact ⟨S, start, (List.append_nil _).symm, fun s among => by cases among⟩
  | cons turn turns ih =>
    obtain ⟨kept, answered⟩ := F.heed sound S start turn
    have fails : o.FailsFor d (Outbox.heed c o state turn).1 :=
      fun f outer answer top asked here => ⟨e, answered f outer answer top asked here⟩
    obtain ⟨still, grows⟩ := S.step sound fails
    have same_size := batchSize_step sound (Outbox.heed c o state turn).1
    obtain ⟨at_end, remembered, later, others⟩ :=
      ih (same_size.symm ▸ F) (sound.step _) still kept
    rw [hosted_cons]
    refine ⟨at_end, remembered, ?_, ?_⟩
    · rw [accepted_append, ← List.append_assoc, ← grows]
      exact later
    · intro s among
      rw [shipmentsTo_append, List.mem_append] at among
      rcases among with here | there
      · obtain ⟨f, outer, top, at_d, asked⟩ := answer_of_shipmentsTo sound.exclusive here
        exact answered f outer s.answer top asked at_d
      · exact others s there

/-! ## Operations carried to their ends -/

/-- A message that was accepted waits, and nothing lies above what was in flight. -/
theorem Halts.queue_of_accepted (h : Halts o plan notices next) (joined : m ∈ accepted notices d) :
    next.flights = o.flights ∧ m ∈ next.queue d := by
  induction h with
  | event e later ih => exact ih joined
  | finished | blocked | handed => cases joined
  | @queued d' m' room =>
    rw [accepted_queued] at joined
    split at joined
    · next here =>
      subst here
      rw [List.mem_singleton.1 joined]
      exact ⟨rfl, by simp⟩
    · cases joined

theorem queue_of_accepted_step (exclusive : o.Exclusive) (input : Input μ)
    (joined : m ∈ accepted (o.step input).2 d) :
    (o.step input).1.flights = o.below input ∧ m ∈ (o.step input).1.queue d := by
  rcases step_cases exclusive input with ⟨unchanged, -⟩ | ⟨notices, all, halts⟩
  · rw [unchanged] at joined
    cases joined
  · rw [all, accepted_append, accepted_heard, List.nil_append] at joined
    obtain ⟨same, there⟩ := halts.queue_of_accepted joined
    exact ⟨same.trans (flights_noted o input), there⟩

theorem deliver_of_grounded (grounded : o.flights = []) (calls : ℕ) (state : σ) :
    deliver c calls o state = (o, [], state) := by
  cases calls <;> simp [deliver, grounded]

/-- **A message that was accepted waits when its operation is over.** -/
theorem queue_of_accepted_deliver (sound : o.Sound) (alone : o.flights.length ≤ 1) {calls : ℕ}
    (joined : m ∈ accepted (deliver c calls o state).2.1 d) :
    m ∈ (deliver c calls o state).1.queue d := by
  induction calls generalizing o state with
  | zero => cases joined
  | succ calls ih =>
    rcases grounded_or_flying alone with grounded | ⟨f, flying⟩
    · rw [deliver_of_grounded grounded] at joined
      cases joined
    rcases said : c.sendBatch f.destination f.batch state with ⟨answer, later⟩
    have parts : deliver c (calls + 1) o state =
        after (o.settle answer).2 (deliver c calls (o.settle answer).1 later) := by
      simp [deliver, consult, flying, said, after]
    rw [parts] at joined ⊢
    rw [after, accepted_append, List.mem_append] at joined
    rcases joined with first | rest
    · obtain ⟨below, there⟩ := queue_of_accepted_step sound.exclusive (.answer answer) first
      have grounded : (o.settle answer).1.flights = [] := by
        rw [step, Outbox.below, flying] at below
        exact below
      rw [after, deliver_of_grounded grounded]
      exact there
    · exact ih (sound.step (.answer answer)) (alone_settle sound flying answer).1 rest

theorem queue_of_accepted (rest : o.Resting) {operation : Operation μ}
    (joined : m ∈ accepted (perform c operation o state).2.1 d) :
    m ∈ (perform c operation o state).1.queue d := by
  have below : o.below (.start operation) = [] := rest.grounded
  obtain ⟨few, -⟩ := alone_step rest.sound below (by simp)
  rw [perform_eq_carried, carried, after] at joined ⊢
  rw [accepted_append, List.mem_append] at joined
  rcases joined with first | later
  · obtain ⟨same, there⟩ := queue_of_accepted_step rest.sound.exclusive (.start operation) first
    have grounded : (o.start operation).1.flights = [] := same.trans below
    rw [deliver_of_grounded grounded]
    exact there
  · exact queue_of_accepted_deliver (rest.sound.step (.start operation)) few later

theorem tight_deliver (sound : o.Sound) (tight : o.Tight) (calls : ℕ) (state : σ) :
    (deliver c calls o state).1.Tight := by
  induction calls generalizing o state with
  | zero => exact tight
  | succ calls ih =>
    cases top : o.flights with
    | nil =>
      rw [deliver_of_grounded top]
      exact tight
    | cons f outer =>
      rcases said : c.sendBatch f.destination f.batch state with ⟨answer, later⟩
      have kept : (o.step (.answer answer)).1.Tight :=
        tight.step sound.exclusive fun operation impossible => by cases impossible
      simp only [deliver, consult, top, said, List.isEmpty_cons, Bool.false_eq_true, if_false]
      exact ih (sound.step (.answer answer)) kept later

theorem tight_new {limit size : ℕ} (made : create? limit size = .ok o) : o.Tight := by
  obtain ⟨queues, flights, -⟩ := empty_of_create? made
  exact ⟨by simp [flights], fun d => by simp [outstanding, inFlight, queue, queues, flights]⟩

/-- Between operations, no queue holds more than a batch. -/
theorem tight_perform (rest : o.Resting) (tight : o.Tight) (operation : Operation μ) (state : σ) :
    (perform c operation o state).1.Tight := by
  have started : (o.step (.start operation)).1.Tight :=
    tight.step rest.sound.exclusive fun _ _ => rest.grounded
  exact tight_deliver (rest.sound.step (.start operation)) started _ state

theorem batchSize_perform (rest : o.Resting) (operation : Operation μ) (state : σ) :
    (perform c operation o state).1.batchSize = o.batchSize := by
  obtain ⟨turns, same⟩ := perform_eq_hosted c operation o state
  rw [same]
  exact batchSize_run rest.sound _

theorem performAll_rests (rest : o.Resting) (tight : o.Tight) (operations : List (Operation μ))
    (state : σ) :
    let now := performAll c operations o state
    now.1.Resting ∧ now.1.Tight ∧ now.1.batchSize = o.batchSize := by
  induction operations generalizing o state with
  | nil => exact ⟨rest, tight, rfl⟩
  | cons operation operations ih =>
    rw [← batchSize_perform rest operation state]
    exact ih (perform_ends c rest operation state).1 (tight_perform rest tight operation state) _

theorem Resting.outstanding (rest : o.Resting) (d : String) : o.outstanding d = o.queue d := by
  rw [Outbox.outstanding, inFlight_of_idle (rest.idle d), List.nil_append]

theorem pending_le_of_tight (rest : o.Resting) (tight : o.Tight) (d : String) :
    o.pending d ≤ o.batchSize := by
  rw [pending, ← rest.outstanding]
  exact tight.outstanding d

/-- Every message that waits is in the next batch then. -/
theorem Resting.stuck (rest : o.Resting) (tight : o.Tight) (there : m ∈ o.queue d) :
    o.Stuck d m := by
  refine ⟨by simp [rest.grounded], fun _ => ?_⟩
  rwa [List.take_of_length_le (pending_le_of_tight rest tight d)]

/-- After operations that accepted it, the message is stuck. -/
theorem stuck_of_accepted (F : Fails c d m o.batchSize e fun _ => True) (rest : o.Resting)
    (tight : o.Tight) {operations : List (Operation μ)}
    (joined : m ∈ accepted (performAll c operations o state).2.1 d) :
    (performAll c operations o state).1.Stuck d m := by
  induction operations generalizing o state with
  | nil => cases joined
  | cons operation operations ih =>
    have size := batchSize_perform (c := c) rest operation state
    have still := (perform_ends c rest operation state).1
    have tight_still := tight_perform (c := c) rest tight operation state
    rw [performAll_cons] at joined ⊢
    rw [after, accepted_append, List.mem_append] at joined
    rcases joined with first | later
    · have stuck := still.stuck tight_still (queue_of_accepted rest first)
      obtain ⟨others, rest_same⟩ := performAll_eq_hosted c operations
        (perform c operation o state).1 (perform c operation o state).2.2
      rw [after, rest_same]
      exact (hosted_stuck (size ▸ F) still.sound stuck trivial others).1
    · exact ih (size ▸ F) still tight_still later

/-! ## Operations that change nothing -/

/-- A queue that is what it was. -/
theorem setQueue_queue (waiting : o.queue d ≠ []) (ms : List μ) :
    (o.setQueue d ms).setQueue d (o.queue d) = o := by
  have held : o.queues.get? d = some (o.queue d) := by
    cases known : o.queues.get? d with
    | none => simp [queue, known] at waiting
    | some _ => simp [queue, known]
  have queues : (o.queues.insert d ms).insert d (o.queue d) = o.queues := by
    ext1 name
    rw [Table.get?_insert, Table.get?_insert]
    split
    · next same => rw [same, held]
    · rfl
  simp only [setQueue, queues]

/-- The batch comes back to where it was taken from. -/
theorem reclaim_taken (waiting : o.queue d ≠ []) (log : Log) (e : Error) :
    (o.taken d).reclaim (o.firstBatch d log) (.error e) = o := by
  rw [reclaim, restore, firstBatch, taken, queue_setQueue_self, List.take_append_drop]
  exact setQueue_queue waiting _

/-- The flush fails, and leaves everything as it was. -/
theorem flushed_of_stuck (F : Fails c d m o.batchSize e P) (rest : o.Resting) (S : o.Stuck d m)
    (start : P state) :
    (flushed c d o .empty state).outbox = o ∧ (flushed c d o .empty state).result = .error e := by
  have among := S.waiting (rest.idle d)
  have waiting : o.queue d ≠ [] := by
    intro none
    simp [none] at among
  have fails := F.answer _ _ start among (List.length_take_le _ _)
  rcases said : c.sendBatch d (o.firstBatch d .empty).batch state with ⟨answer, next⟩
  obtain rfl : answer = .error e := (congrArg Prod.fst said).symm.trans fails
  rw [flushed_of_waiting c waiting said]
  exact ⟨reclaim_taken waiting .empty e, rfl⟩

theorem perform_flush_of_stuck (F : Fails c d m o.batchSize e P) (rest : o.Resting)
    (S : o.Stuck d m) (start : P state) :
    (perform c (.flush d) o state).1 = o ∧
      (perform c (.flush d) o state).2.1.getLast? = some (.finished (.error e)) := by
  obtain ⟨same, failed⟩ := flushed_of_stuck F rest S start
  rw [perform_flush c rest]
  refine ⟨same, ?_⟩
  dsimp only
  rw [List.getLast?_concat, failed]
  rfl

/-- A message for a full queue is refused. -/
theorem perform_send_of_stuck (F : Fails c d m o.batchSize e P) (rest : o.Resting)
    (S : o.Stuck d m) (start : P state) (full : o.fill d = .atCapacity)
    (message : Except EncodingError μ) :
    (perform c (.send d message) o state).1 = o ∧
      ∃ e', (perform c (.send d message) o state).2.1.getLast? = some (.finished (.error e')) := by
  obtain ⟨same, failed⟩ := flushed_of_stuck F rest S start
  have no_room : o.batchSize ≤ o.pending d := by
    simp only [fill] at full
    split at full
    · cases full
    · split at full
      · cases full
      · omega
  rw [perform_send c rest]
  split
  · exact ⟨rfl, _, rfl⟩
  · cases message with
    | error cause => exact ⟨rfl, _, rfl⟩
    | ok m' =>
      simp only [roomMade, if_pos no_room, failed, resume]
      exact ⟨same, e, List.getLast?_concat⟩

end Outbox

end Dispatch
