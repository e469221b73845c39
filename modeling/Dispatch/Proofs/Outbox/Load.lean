import Dispatch.Proofs.Outbox.Nesting

/-!
# How many messages an outbox holds

The load of an outbox counts the messages that wait or are in flight, over all destinations. A
message that is accepted adds one, and an answer takes away what it keeps out of the queue;
nothing else changes it (`Outbox.load_run`).

## Main definitions

* `History.departed`: the messages that answers kept out of the queues.
-/
namespace Dispatch

open History

variable {μ : Type}

/-! ## Tables of lists -/

/-- With a list in place of another, a table holds as many more values as the list is longer. -/
theorem Fields.Sorted.length_insert {fields : Fields (List μ)} (h : fields.Sorted) (name : String)
    (ms : List μ) :
    ((Fields.insert fields name ms).flatMap (·.2)).length + ((fields.get? name).getD []).length =
      (fields.flatMap (·.2)).length + ms.length := by
  induction fields with
  | nil => simp [Fields.insert]
  | cons entry rest ih =>
    obtain ⟨k, v⟩ := entry
    simp only [Fields.insert]
    split
    · next before => simp [h.get?_of_lt before, Nat.add_comm]
    · split
      · next same =>
        subst same
        simp [Fields.get?_cons]
        omega
      · next other =>
        have smaller := ih (List.pairwise_cons.1 h).2
        simp only [List.flatMap_cons, List.length_append, Fields.get?_cons, if_neg (Ne.symm other)]
        omega

/-! ## What an answer makes of a batch -/

theorem Receipt.length_confirmed_add_undelivered (r : Receipt) (batch : List μ) :
    (r.confirmed batch).length + (r.undelivered batch).length = batch.length := by
  have parts := List.length_eq_length_filter_add (l := batch.zipIdx) fun e => r.reports e.2
  simp only [List.length_zipIdx] at parts
  simp only [confirmed, undelivered_eq_filter, List.length_map]
  omega

/-- Every message of a batch goes back to its queue or does not. -/
theorem Shipment.length_left_add_removed (s : Shipment μ) :
    s.left.length + s.removed.length = s.batch.length := by
  simp only [left, removed, confirmed, omitted, List.length_append]
  cases s.answer with
  | error e => simp
  | ok receipt =>
    have parts := receipt.length_confirmed_add_undelivered s.batch
    by_cases clean : receipt.refused = [] <;> simp [clean] <;> omega

namespace History

/-- The messages that answers kept out of the queues. -/
def departed (h : List (Notice μ)) : List μ := (shipments h).flatMap Shipment.removed

@[simp] theorem departed_append (h k : List (Notice μ)) :
    departed (h ++ k) = departed h ++ departed k := by simp [departed]

end History

namespace Outbox

variable {o next : Outbox μ} {plan : List String} {notices : List (Notice μ)}

/-! ## The load after each operation -/

theorem load_setQueue (o : Outbox μ) (d : String) (ms : List μ) :
    (o.setQueue d ms).load + (o.queue d).length = o.load + ms.length := by
  have wait := o.queues.sorted.length_insert d ms
  simp only [load, waiting, flying, setQueue, queue, Table.insert, Table.get?] at wait ⊢
  omega

theorem load_push (o : Outbox μ) (d : String) (m : μ) : (o.push d m).load = o.load + 1 := by
  have replaced := o.load_setQueue d (o.queue d ++ [m])
  simp only [List.length_append, List.length_singleton] at replaced
  simp only [push]
  omega

/-- A batch that leaves its queue is in flight. -/
theorem load_handOver (o : Outbox μ) (d : String) (log : Log) (purpose : Purpose μ) :
    (o.handOver d log purpose).1.load = o.load := by
  have replaced := o.load_setQueue d ((o.queue d).drop o.batchSize)
  have parts := congrArg List.length (List.take_append_drop o.batchSize (o.queue d))
  simp only [load, waiting, flying, handOver, setQueue, List.flatMap_cons,
    List.length_append] at replaced parts ⊢
  omega

/-- An answer takes away what it keeps out of the queue. -/
theorem load_reclaim {f : Flight μ} {outer : List (Flight μ)} (top : o.flights = f :: outer)
    (answer : Answer) :
    (({ o with flights := outer } : Outbox μ).reclaim f answer).load +
      (Shipment.removed ⟨f.destination, f.batch, answer⟩).length = o.load := by
  have parts := Shipment.length_left_add_removed ⟨f.destination, f.batch, answer⟩
  have landed : ({ o with flights := outer } : Outbox μ).load + f.batch.length = o.load := by
    simp only [load, waiting, flying, top, List.flatMap_cons, List.length_append]
    omega
  have restored (ms : List μ) :
      (({ o with flights := outer } : Outbox μ).restore f.destination ms).load =
        ({ o with flights := outer } : Outbox μ).load + ms.length := by
    have replaced := load_setQueue { o with flights := outer } f.destination
      (ms ++ ({ o with flights := outer } : Outbox μ).queue f.destination)
    simp only [List.length_append] at replaced
    simp only [restore]
    omega
  cases answer with
  | error e =>
    simp only [Shipment.left] at parts
    simp only [reclaim, restored]
    omega
  | ok receipt =>
    by_cases clean : receipt.refused = []
    · simp only [Shipment.left, clean, if_true, List.length_nil] at parts
      simp only [reclaim, clean, if_true]
      omega
    · simp only [Shipment.left, clean, if_false] at parts
      simp only [reclaim, clean, if_false, restored]
      omega

/-- Coming to rest changes the load by what is accepted. -/
theorem Halts.load_eq (h : Halts o plan notices next) :
    next.load = o.load + (arrivals notices).length ∧ departed notices = [] := by
  induction h with
  | event e later ih => exact ih
  | finished | blocked => exact ⟨rfl, rfl⟩
  | queued m room => exact ⟨load_push _ _ m, rfl⟩
  | handed log purpose idle waiting planned => exact ⟨load_handOver _ _ log purpose, rfl⟩

/-- **A step adds what it accepts and takes away what its answer keeps out.** -/
theorem load_step (h : o.Sound) (input : Input μ) :
    (o.step input).1.load + (departed (o.step input).2).length =
      o.load + (arrivals (o.step input).2).length := by
  rcases step_cases h.exclusive input with ⟨same, -⟩ | ⟨notices, all, halts⟩
  · simp [same, departed, arrivals, acceptances, shipments]
  · obtain ⟨load_eq, none⟩ := halts.load_eq
    have first : (o.noted input).load + (departed (o.heard input)).length = o.load ∧
        arrivals (o.heard input) = [] := by
      cases input with
      | start operation => cases operation <;> exact ⟨rfl, rfl⟩
      | answer answer =>
        simp only [noted, heard]
        split
        · exact ⟨rfl, rfl⟩
        · next f outer top =>
          refine ⟨?_, rfl⟩
          simpa [departed, shipments, Notice.shipment?] using load_reclaim top answer
    rw [all, departed_append, arrivals_append, none, first.2, load_eq, List.append_nil,
      List.nil_append]
    omega

/-- **What comes in and what goes out** make up the change of the load in every history. -/
theorem load_run (h : o.Sound) (inputs : List (Input μ)) :
    (o.run inputs).1.load + (departed (o.run inputs).2).length =
      o.load + (arrivals (o.run inputs).2).length := by
  induction inputs generalizing o with
  | nil => rfl
  | cons input inputs ih =>
    have first := load_step h input
    have rest := ih (h.step input)
    simp only [run_cons, departed_append, arrivals_append, List.length_append]
    omega

end Outbox

end Dispatch
