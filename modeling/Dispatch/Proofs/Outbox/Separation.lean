import Dispatch.Proofs.Outbox.Performing
import Mathlib.Logic.Function.Basic

/-!
# Destinations do not interfere

When the carrier keeps its destinations apart, what happens to one of them does not depend on the
others. Two outboxes that agree on a destination go on to agree on it, if one of them carries out
all operations and the other only those that concern the destination: operations that name another
one leave it alone, those that name it do the same to both outboxes, and those that flush all
destinations are one flush after the other, of which one at most is for this destination.

## Main definitions

* `Carrier.apart`: a carrier with a memory of its own for each destination.
* `Operation.destination?`, `Operation.concerns`: the destination that an operation names, and
  the operations that name no other one.
* `Outbox.Alike`, `Outbox.Agree`: two outboxes agree on a destination, and two runs do.
* `Outbox.KeepsApart`: what an operation does to a destination depends on nothing else.

## Main statements

* `Outbox.flushed_alike`, `Outbox.perform_alike`: what is done to a destination depends on nothing
  else.
* `Outbox.perform_of_ne`: what is done to others leaves it alone.
* `Outbox.destinations_apart`: operations for other destinations make no difference.
-/
namespace Dispatch

open History

variable {τ μ : Type}

/-- A carrier that answers for each destination by what it remembers of this destination alone,
like one that goes through a list of outcomes for each of them. -/
def Carrier.apart (reply : String → List μ → τ → Answer × τ) (limit : ℕ) :
    Carrier (String → τ) μ where
  sendBatch d batch memory :=
    let (answer, next) := reply d batch (memory d)
    (answer, Function.update memory d next)
  limit := limit

namespace Operation

/-- The destination that an operation names. -/
def destination? : Operation μ → Option String
  | send d _ => some d
  | flush d => some d
  | flushAll => none
  | close => none

/-- Whether the operation names this destination, or none at all. -/
def concerns (d : String) (operation : Operation μ) : Bool :=
  operation.destination?.all (· == d)

end Operation

namespace Outbox

/-! ## Agreement on a destination -/

/-- Two outboxes between operations, each with what its carrier remembers, agree on a destination:
on its queue and whether it is known, on the memory of it, and on how many messages a batch may
have and whether more are taken. -/
structure Alike (d : String) (o : Outbox μ) (s : String → τ) (o' : Outbox μ) (s' : String → τ) :
    Prop where
  resting : o.Resting
  resting' : o'.Resting
  batchSize : o.batchSize = o'.batchSize
  closed : o.closed = o'.closed
  queue : o.queue d = o'.queue d
  known : d ∈ o.destinations ↔ d ∈ o'.destinations
  memory : s d = s' d

namespace Alike

variable {d : String} {o o' o'' : Outbox μ} {s s' s'' : String → τ}

theorem refl (rest : o.Resting) (d : String) (s : String → τ) : Alike d o s o s :=
  ⟨rest, rest, rfl, rfl, rfl, Iff.rfl, rfl⟩

theorem symm (h : Alike d o s o' s') : Alike d o' s' o s :=
  ⟨h.resting', h.resting, h.batchSize.symm, h.closed.symm, h.queue.symm, h.known.symm,
    h.memory.symm⟩

theorem trans (h : Alike d o s o' s') (k : Alike d o' s' o'' s'') : Alike d o s o'' s'' :=
  ⟨h.resting, k.resting', h.batchSize.trans k.batchSize, h.closed.trans k.closed,
    h.queue.trans k.queue, h.known.trans k.known, h.memory.trans k.memory⟩

/-- With the same messages in their queues the outboxes still agree. -/
theorem setQueue (h : Alike d o s o' s') (ms : List μ) :
    Alike d (o.setQueue d ms) s (o'.setQueue d ms) s' where
  resting := h.resting.setQueue d ms
  resting' := h.resting'.setQueue d ms
  batchSize := h.batchSize
  closed := h.closed
  queue := by rw [queue_setQueue_self, queue_setQueue_self]
  known := by simp [mem_destinations_setQueue]
  memory := h.memory

/-- The queue of another destination does not matter. -/
theorem setQueue_of_ne (h : Alike d o s o' s') {other : String} (ne : d ≠ other) (ms : List μ) :
    Alike d o s (o'.setQueue other ms) s' where
  resting := h.resting
  resting' := h.resting'.setQueue other ms
  batchSize := h.batchSize
  closed := h.closed
  queue := by rw [queue_setQueue_of_ne o' ms ne, h.queue]
  known := by rw [mem_destinations_setQueue, h.known, or_iff_right ne]
  memory := h.memory

theorem update (h : Alike d o s o' s') (value : τ) :
    Alike d o (Function.update s d value) o' (Function.update s' d value) :=
  { h with memory := by rw [Function.update_self, Function.update_self] }

/-- Nor does what is remembered of another one. -/
theorem update_of_ne (h : Alike d o s o' s') {other : String} (ne : d ≠ other) (value : τ) :
    Alike d o s o' (Function.update s' other value) :=
  { h with memory := by rw [Function.update_of_ne ne, h.memory] }

theorem taken (h : Alike d o s o' s') : Alike d (o.taken d) s (o'.taken d) s' := by
  rw [Outbox.taken, Outbox.taken, h.queue, h.batchSize]
  exact h.setQueue _

/-- An answer puts the same messages back. -/
theorem reclaim (h : Alike d o s o' s') {f : Flight μ} (here : f.destination = d)
    (answer : Answer) : Alike d (o.reclaim f answer) s (o'.reclaim f answer) s' := by
  subst here
  cases answer with
  | error e =>
    simp only [Outbox.reclaim, restore, h.queue]
    exact h.setQueue _
  | ok receipt =>
    simp only [Outbox.reclaim]
    split
    · exact h
    · simp only [restore, h.queue]
      exact h.setQueue _

/-- A message that waited for a flush joins the queue of both outboxes or of none. -/
theorem resume_send (h : Alike d o s o' s') (result : Except Error Log) (m : μ) :
    (o.resume d result (.send m)).2 = (o'.resume d result (.send m)).2 ∧
      Alike d (o.resume d result (.send m)).1 s (o'.resume d result (.send m)).1 s' := by
  cases result with
  | error e => exact ⟨rfl, h⟩
  | ok log =>
    refine ⟨rfl, ?_⟩
    simp only [resume, push, h.queue]
    exact h.setQueue _

end Alike

/-- Two runs agree on a destination: they come to outboxes that agree on it, and on the way the
carrier was asked for the same batches and gave the same answers. -/
structure Agree (d : String) (r r' : Outbox μ × List (Notice μ) × (String → τ)) : Prop where
  last : Alike d r.1 r.2.2 r'.1 r'.2.2
  handed : handedTo r.2.1 d = handedTo r'.2.1 d
  answered : shipmentsTo r.2.1 d = shipmentsTo r'.2.1 d

namespace Agree

variable {d : String} {r r' r'' : Outbox μ × List (Notice μ) × (String → τ)}

theorem symm (h : Agree d r r') : Agree d r' r :=
  ⟨h.last.symm, h.handed.symm, h.answered.symm⟩

theorem trans (h : Agree d r r') (k : Agree d r' r'') : Agree d r r'' :=
  ⟨h.last.trans k.last, h.handed.trans k.handed, h.answered.trans k.answered⟩

/-- Runs that go on from runs that agree. -/
theorem after {first first' : Outbox μ × List (Notice μ) × (String → τ)}
    (h : Agree d first first') (k : Agree d r r') :
    Agree d (after first.2.1 r) (after first'.2.1 r') := by
  refine ⟨k.last, ?_, ?_⟩
  · simp only [Outbox.after, handedTo_append, h.handed, k.handed]
  · simp only [Outbox.after, shipmentsTo_append, h.answered, k.answered]

/-- A run that leaves the destination alone, and another one that does after it. -/
theorem andThen {o : Outbox μ} {s : String → τ}
    {first last : Outbox μ × List (Notice μ) × (String → τ)} (h : Agree d (o, [], s) first)
    (k : Agree d (first.1, [], first.2.2) last) :
    Agree d (o, [], s) (Outbox.after first.2.1 last) := by
  refine ⟨h.last.trans k.last, ?_, ?_⟩
  · rw [Outbox.after, handedTo_append, ← h.handed, ← k.handed]
    rfl
  · rw [Outbox.after, shipmentsTo_append, ← h.answered, ← k.answered]
    rfl

/-- An operation that is over at once leaves every destination alone. -/
theorem finished {o : Outbox μ} (rest : o.Resting) (d : String) (s : String → τ)
    (result : Except Error Outcome) : Agree d (o, [], s) (o, [.finished result], s) :=
  ⟨.refl rest d s, rfl, rfl⟩

end Agree

variable {d : String} {o o' : Outbox μ} {s s' : String → τ}
variable (reply : String → List μ → τ → Answer × τ) (limit : ℕ)

/-! ## One flush -/

/-- The flush of another destination leaves a destination alone. -/
theorem flushed_of_ne (rest : o.Resting) {other : String} (ne : d ≠ other) (log : Log) :
    let r := flushed (Carrier.apart reply limit) other o log s
    Agree d (o, [], s) (r.outbox, r.notices, r.state) := by
  obtain ⟨handed, answered⟩ := flushed_silent (Carrier.apart reply limit) (o := o) ne log s
  refine ⟨?_, handed.symm, answered.symm⟩
  exact flushed_invariant (Carrier.apart reply limit) (P := fun o' s' => Alike d o s o' s')
    (fun _ ms _ h => h.setQueue_of_ne ne ms) (fun _ _ _ h => h.update_of_ne ne _) log
    (.refl rest d s)

/-- The first batch is the same in both outboxes, and so is the answer for it. -/
theorem Alike.asked (h : Alike d o s o' s') {log : Log} {answer : Answer} {next : String → τ}
    (said : (Carrier.apart reply limit).sendBatch d (o.firstBatch d log).batch s =
      (answer, next)) :
    o'.firstBatch d log = o.firstBatch d log ∧ ∃ next',
      (Carrier.apart reply limit).sendBatch d (o.firstBatch d log).batch s' = (answer, next') ∧
        Alike d (o.taken d) next (o'.taken d) next' := by
  obtain ⟨rfl, rfl⟩ := Prod.mk.inj said
  rw [h.memory]
  exact ⟨by rw [firstBatch, firstBatch, h.queue, h.batchSize], _, rfl, h.taken.update _⟩

/-- **The flush of a destination depends on nothing else**: with outboxes that agree on it, the
same is noticed, with the same result, and they agree on it afterwards. -/
theorem flushed_alike (h : Alike d o s o' s') (log : Log) :
    let r := flushed (Carrier.apart reply limit) d o log s
    let r' := flushed (Carrier.apart reply limit) d o' log s'
    r.notices = r'.notices ∧ r.result = r'.result ∧
      Alike d r.outbox r.state r'.outbox r'.state := by
  -- the induction is on the first flush; batch by batch the second one keeps up with it
  induction o, log, s using flushed.induct (Carrier.apart reply limit) d generalizing o' s' with
  | case1 o log s empty =>
    rw [flushed, if_pos empty, flushed, if_pos (h.queue ▸ empty)]
    exact ⟨rfl, rfl, h⟩
  | case2 o log s waiting f answer next said written well =>
    rename_i ih
    obtain ⟨same, next', said', left⟩ := h.asked reply limit said
    obtain ⟨notices, results, last⟩ := ih left
    rw [flushed_of_waiting _ waiting said, flushed_of_waiting _ (h.queue ▸ waiting) (same ▸ said'),
      same, well]
    exact ⟨congrArg (_ ++ ·) notices, results, last⟩
  | case3 o log s waiting f answer next said e =>
    rename_i failed
    obtain ⟨same, next', said', left⟩ := h.asked reply limit said
    rw [flushed_of_waiting _ waiting said, flushed_of_waiting _ (h.queue ▸ waiting) (same ▸ said'),
      same, failed]
    exact ⟨rfl, rfl, left.reclaim rfl answer⟩

/-! ## One operation -/

/-- Room is made for a message that concerns the destination as in the other outbox. -/
theorem roomMade_alike (h : Alike d o s o' s') :
    let r := roomMade (Carrier.apart reply limit) d o s
    let r' := roomMade (Carrier.apart reply limit) d o' s'
    r.notices = r'.notices ∧ r.result = r'.result ∧
      Alike d r.outbox r.state r'.outbox r'.state := by
  have pending : o.pending d = o'.pending d := congrArg List.length h.queue
  unfold roomMade
  rw [h.batchSize, pending]
  by_cases full : o'.batchSize ≤ o'.pending d
  · rw [if_pos full, if_pos full]
    exact flushed_alike reply limit h .empty
  · rw [if_neg full, if_neg full]
    exact ⟨rfl, rfl, h⟩

/-- **An operation that names the destination does the same to both outboxes.** -/
theorem perform_alike (h : Alike d o s o' s') {operation : Operation μ}
    (named : operation.destination? = some d) :
    let r := perform (Carrier.apart reply limit) operation o s
    let r' := perform (Carrier.apart reply limit) operation o' s'
    r.2.1 = r'.2.1 ∧ Alike d r.1 r.2.2 r'.1 r'.2.2 := by
  cases operation with
  | flushAll | close => cases named
  | flush x =>
    obtain rfl : x = d := Option.some.inj named
    obtain ⟨notices, results, last⟩ := flushed_alike reply limit h .empty
    rw [perform_flush _ h.resting, perform_flush _ h.resting']
    exact ⟨by dsimp only; rw [notices, results], last⟩
  | send x message =>
    obtain rfl : x = d := Option.some.inj named
    rw [perform_send _ h.resting, perform_send _ h.resting', h.closed]
    by_cases shut : o'.closed
    · rw [if_pos shut, if_pos shut]
      exact ⟨rfl, h⟩
    · rw [if_neg shut, if_neg shut]
      cases message with
      | error cause => exact ⟨rfl, h⟩
      | ok m =>
        obtain ⟨notices, results, last⟩ := roomMade_alike reply limit h
        obtain ⟨same, joined⟩ := last.resume_send (roomMade _ x o s).result m
        dsimp only
        rw [← results, notices, same]
        exact ⟨rfl, joined⟩

/-- Making room for a message to another destination leaves a destination alone. -/
theorem roomMade_of_ne (rest : o.Resting) {other : String} (ne : d ≠ other) :
    let r := roomMade (Carrier.apart reply limit) other o s
    Agree d (o, [], s) (r.outbox, r.notices, r.state) := by
  unfold roomMade
  split
  · exact flushed_of_ne reply limit rest ne .empty
  · exact ⟨.refl rest d s, rfl, rfl⟩

/-- So does a message that joins another queue, or that had to wait for a flush that failed. -/
theorem resume_send_of_ne (rest : o.Resting) {other : String} (ne : d ≠ other)
    (result : Except Error Log) (m : μ) :
    let (next, notices) := o.resume other result (.send m)
    Agree d (o, [], s) (next, notices, s) := by
  cases result with
  | error e => exact .finished rest d s (.error e)
  | ok log => exact ⟨(Alike.refl rest d s).setQueue_of_ne ne _, rfl, rfl⟩

/-- **An operation that names another destination leaves a destination alone.** -/
theorem perform_of_ne (rest : o.Resting) {operation : Operation μ} {other : String}
    (named : operation.destination? = some other) (ne : d ≠ other) :
    Agree d (o, [], s) (perform (Carrier.apart reply limit) operation o s) := by
  cases operation with
  | flushAll | close => cases named
  | flush x =>
    obtain rfl : x = other := Option.some.inj named
    have flush := flushed_of_ne reply limit rest (s := s) ne .empty
    rw [perform_flush _ rest]
    exact flush.andThen (.finished flush.last.resting' d _ _)
  | send x message =>
    obtain rfl : x = other := Option.some.inj named
    rw [perform_send _ rest]
    split
    · exact .finished rest d s _
    cases message with
    | error cause => exact .finished rest d s _
    | ok m =>
      have room := roomMade_of_ne reply limit rest (s := s) ne
      exact room.andThen (resume_send_of_ne room.last.resting' ne _ m)

/-! ## Operations one after the other -/

/-- What an operation does to a destination depends on nothing else: if it concerns the destination,
it does the same to both outboxes, and otherwise nothing. -/
def KeepsApart (carrier : Carrier (String → τ) μ) (d : String) (operation : Operation μ) : Prop :=
  ∀ ⦃o o' : Outbox μ⦄ ⦃s s' : String → τ⦄, Alike d o s o' s' →
    Agree d (perform carrier operation o s)
      (if operation.concerns d then perform carrier operation o' s' else (o', [], s'))

/-- Then operations that do not concern the destination make no difference. -/
theorem performAll_agree {carrier : Carrier (String → τ) μ} {operations : List (Operation μ)}
    (each : ∀ operation ∈ operations, KeepsApart carrier d operation) (h : Alike d o s o' s') :
    Agree d (performAll carrier operations o s)
      (performAll carrier (operations.filter (·.concerns d)) o' s') := by
  induction operations generalizing o o' s s' with
  | nil => exact ⟨h, rfl, rfl⟩
  | cons operation operations ih =>
    obtain ⟨this, later⟩ := List.forall_mem_cons.1 each
    have first := this h
    by_cases concerned : operation.concerns d
    · rw [if_pos concerned] at first
      rw [List.filter_cons_of_pos concerned, performAll_cons, performAll_cons]
      exact first.after (ih later first.last)
    · rw [if_neg concerned] at first
      rw [List.filter_cons_of_neg concerned, performAll_cons]
      exact first.after (ih later first.last)

theorem keepsApart_of_named {operation : Operation μ} {x : String}
    (named : operation.destination? = some x) :
    KeepsApart (Carrier.apart reply limit) d operation := by
  intro o o' s s' h
  have concerned : operation.concerns d = (x == d) := by rw [Operation.concerns, named]; rfl
  by_cases same : x = d
  · subst same
    obtain ⟨notices, last⟩ := perform_alike reply limit h named
    rw [concerned, beq_self_eq_true, if_pos rfl]
    exact ⟨last, by rw [notices], by rw [notices]⟩
  · have left := perform_of_ne reply limit h.resting (s := s) named (Ne.symm same)
    rw [concerned, beq_false_of_ne same, if_neg Bool.false_ne_true]
    exact left.symm.trans ⟨h, rfl, rfl⟩

/-- Of the flushes of different destinations at most one concerns a destination. -/
theorem filter_flushes {ds : List String} (once : ds.Nodup) (d : String) :
    (ds.map (.flush : String → Operation μ)).filter (·.concerns d) =
      if d ∈ ds then [.flush d] else [] := by
  have same : (fun x => (Operation.flush x : Operation μ).concerns d) = (· == d) := rfl
  rw [List.filter_map, Function.comp_def, same, List.filter_beq, List.Nodup.count once]
  split <;> rfl

/-- Flushing all destinations is, for this one, its own flush, if it is known. -/
theorem sweep_agree (h : Alike d o s o' s') :
    Agree d (carried (Carrier.apart reply limit) (o.sweep o.destinations .empty []) s)
      (performAll (Carrier.apart reply limit) (if d ∈ o.destinations then [.flush d] else [])
        o' s') := by
  have once : o.destinations.Nodup := o.queues.nodup_names
  obtain ⟨same, remembered, calls⟩ :=
    carried_sweep (Carrier.apart reply limit) h.resting once .empty [] s
  have flushes : ∀ operation ∈ o.destinations.map (.flush : String → Operation μ),
      KeepsApart (Carrier.apart reply limit) d operation := by
    intro operation listed
    obtain ⟨x, -, rfl⟩ := List.mem_map.1 listed
    exact keepsApart_of_named reply limit rfl
  have each := performAll_agree flushes h
  rw [filter_flushes once] at each
  refine ⟨?_, (calls d).1.trans each.handed, (calls d).2.trans each.answered⟩
  rw [same, remembered]
  exact each.last

/-- So flushing all destinations does the same to this one, whatever others there are. -/
theorem sweep_alike (h : Alike d o s o' s') :
    Agree d (carried (Carrier.apart reply limit) (o.sweep o.destinations .empty []) s)
      (carried (Carrier.apart reply limit) (o'.sweep o'.destinations .empty []) s') := by
  have here := sweep_agree reply limit h
  have there := sweep_agree reply limit (.refl h.resting' d s')
  rw [if_congr h.known rfl rfl] at here
  exact here.trans there.symm

theorem keepsApart (operation : Operation μ) :
    KeepsApart (Carrier.apart reply limit) d operation := by
  cases operation with
  | send x message => exact keepsApart_of_named reply limit rfl
  | flush x => exact keepsApart_of_named reply limit rfl
  | flushAll =>
    intro o o' s s' h
    exact sweep_alike reply limit h
  | close =>
    intro o o' s s' h
    have shut : Alike d { o with closed := true } s { o' with closed := true } s' :=
      ⟨h.resting.closed, h.resting'.closed, h.batchSize, rfl, h.queue, h.known, h.memory⟩
    exact sweep_alike reply limit shut

/-- **Destinations do not interfere.** An outbox with nothing in flight carries out some operations
with a carrier that keeps its destinations apart, and then, from the same start, only those of them
that name no other destination. Both times the same messages wait for the destination in the end,
it is known or not, and the carrier was asked for the same batches and gave the same answers; and
an operation that names the destination now comes to its end with the same result, and all else
that is noticed of it is the same too. The operations may be any beginning of a run, so this is so
at every point of it. -/
theorem destinations_apart (rest : o.Resting) (operations : List (Operation μ)) :
    let all := performAll (Carrier.apart reply limit) operations o s
    let own := performAll (Carrier.apart reply limit) (operations.filter (·.concerns d)) o s
    all.1.queue d = own.1.queue d ∧ (d ∈ all.1.destinations ↔ d ∈ own.1.destinations) ∧
      handedTo all.2.1 d = handedTo own.2.1 d ∧ shipmentsTo all.2.1 d = shipmentsTo own.2.1 d ∧
      ∀ operation : Operation μ, operation.destination? = some d →
        ∃ result,
          (perform (Carrier.apart reply limit) operation all.1 all.2.2).2.1.getLast? =
            some (.finished result) ∧
          (perform (Carrier.apart reply limit) operation own.1 own.2.2).2.1 =
            (perform (Carrier.apart reply limit) operation all.1 all.2.2).2.1 := by
  have each : ∀ operation ∈ operations, KeepsApart (Carrier.apart reply limit) d operation :=
    fun operation _ => keepsApart reply limit operation
  obtain ⟨last, handed, answered⟩ := performAll_agree each (.refl rest d s)
  refine ⟨last.queue, last.known, handed, answered, fun operation named => ?_⟩
  obtain ⟨-, result, told⟩ := perform_ends (Carrier.apart reply limit) last.resting operation _
  exact ⟨result, told, (perform_alike reply limit last named).1.symm⟩

/-- The next of the outcomes that are listed for a destination; when there is none left, the
network is down. -/
def nextListed {μ : Type} : String → List μ → List Answer → Answer × List Answer
  | _, _, [] => (.error (.failure (.other "network down")), [])
  | _, _, answer :: outcomes => (answer, outcomes)

/-- One call for orders goes well, in the next one the second entry is refused, and no call for
billing ever succeeds. -/
def ordersOnly : String → List Answer := fun d =>
  if d = "orders" then
    [.ok ⟨[⟨0, "a"⟩], []⟩, .ok ⟨[⟨0, "b"⟩], [⟨1, true, "Rejected", "too old"⟩]⟩]
  else []

/-- Messages for two destinations, of which billing runs full and cannot be flushed. -/
def billingWedged : List (Operation ℕ) :=
  [.send "billing" (.ok 1), .send "billing" (.ok 2), .send "orders" (.ok 7),
    .send "billing" (.ok 3), .flushAll, .send "orders" (.ok 8), .flush "billing",
    .send "orders" (.ok 9)]

/-- What waits for billing differs, but not what becomes of the orders: the flush of the two that
wait is the same, and the second one is left. -/
theorem orders_apart_from_billing :
    let carrier : Carrier (String → List Answer) ℕ := Carrier.apart nextListed 10
    let fresh : Outbox ℕ := double ℕ
    let all := performAll carrier billingWedged fresh ordersOnly
    let own := performAll carrier (billingWedged.filter (·.concerns "orders")) fresh ordersOnly
    fresh.Resting ∧ (all.1.queue "billing" = [1, 2] ∧ own.1.queue "billing" = []) ∧
      (all.1.queue "orders" = [8, 9] ∧ own.1.queue "orders" = [8, 9]) ∧
      (handedTo all.2.1 "orders" = [[7]] ∧ handedTo own.2.1 "orders" = [[7]]) ∧
      (perform carrier (.flush "orders") all.1 all.2.2).1.queue "orders" = [9] ∧
      (perform carrier (.flush "orders") own.1 own.2.2).2.1 =
        (perform carrier (.flush "orders") all.1 all.2.2).2.1 := by
  intro carrier fresh all own
  have made : create? 10 2 = .ok fresh := rfl
  have rest : fresh.Resting := resting_new made
  have waiting : own.1.queue "orders" = [8, 9] := by decide
  have asked : handedTo own.2.1 "orders" = [[7]] := by decide
  have wedged : all.1.queue "billing" = [1, 2] ∧ own.1.queue "billing" = [] := by decide
  have left : (perform carrier (.flush "orders") all.1 all.2.2).1.queue "orders" = [9] := by decide
  obtain ⟨queue, -, calls, -, results⟩ :=
    destinations_apart (d := "orders") (s := ordersOnly) nextListed 10 rest billingWedged
  obtain ⟨-, -, same⟩ := results (.flush "orders") rfl
  -- spelled out like this, the runs are the same terms, and none of them is evaluated again
  simp only [all, own, carrier] at waiting asked wedged left ⊢
  exact ⟨rest, wedged, ⟨queue.trans waiting, waiting⟩, ⟨calls.trans asked, asked⟩, left, same⟩

end Outbox

end Dispatch
