import Dispatch.Proofs.Outbox.Conservation
import Dispatch.Proofs.Outbox.Nesting

/-!
# The batches that an outbox hands over

What is outstanding for a destination was accepted for it, and stays in that order
(`Outbox.Move.outstanding_sublist`). A batch is the head of a queue with messages, so it has at
least one of them, at most as many as a batch may have, and all were accepted for its destination
before (`Outbox.Traced`).

## Main definitions

* `Outbox.Made`: a new outbox, with the size of its batches given or taken from settings.
* `Outbox.Traced`: where the messages of the batches come from.

## Main statements

* `Outbox.Made.bounds`: a new outbox is empty, and has batches of a size that the carrier allows.
* `Outbox.Traced.move`: every move keeps where batches come from.
* `Outbox.Made.handed`: what holds of every batch that is handed over.
-/
namespace Dispatch

open History

namespace Outbox

variable {μ : Type} {o next : Outbox μ} {h notices : List (Notice μ)}

/-! ## New outboxes -/

/-- A new outbox for a carrier with this limit: the size of its batches is given, or settings ask
for it. -/
def Made (limit : ℕ) (o : Outbox μ) : Prop :=
  (∃ size, create? limit size = .ok o) ∨ ∃ settings, ofSettings? limit settings = .ok o

/-- Settings are read for a size, which has to be one that may be given. -/
theorem ofSettings?_eq_ok_iff {limit : ℕ} {settings : Settings} :
    ofSettings? limit settings = .ok o ↔
      ∃ size, settings.maxBatchSize = .ok size ∧ create? limit size = .ok o := by
  cases asked : settings.maxBatchSize with
  | error e => simp [ofSettings?, asked, bind, Except.bind]
  | ok size => simp [ofSettings?, asked, bind, Except.bind]

theorem Made.create {limit : ℕ} (made : o.Made limit) : ∃ size, create? limit size = .ok o := by
  rcases made with given | ⟨settings, read⟩
  · exact given
  · obtain ⟨size, -, made⟩ := ofSettings?_eq_ok_iff.1 read
    exact ⟨size, made⟩

theorem Made.bounds {limit : ℕ} (made : o.Made limit) :
    1 ≤ o.batchSize ∧ o.batchSize ≤ limit := by
  obtain ⟨size, created⟩ := made.create
  obtain ⟨rfl, allowed⟩ := batchSize_of_create? created
  exact ⟨o.batchSize_pos, allowed⟩

theorem Made.sound {limit : ℕ} (made : o.Made limit) : o.Sound := by
  obtain ⟨size, created⟩ := made.create
  exact sound_new created

/-! ## Where batches come from -/

/-- A move adds to what is outstanding only what it accepts, at the end. -/
theorem Move.outstanding_sublist (hm : Move o notices next) (exclusive : o.Exclusive) (d : String) :
    (next.outstanding d).Sublist (o.outstanding d ++ accepted notices d) := by
  cases hm with
  | close | event | finish | block => exact List.sublist_append_left _ _
  | queue m room =>
    rw [outstanding_push, accepted_queued]
  | hand log purpose idle waiting =>
    rw [outstanding_handOver o idle]
    exact List.sublist_append_left _ _
  | @reclaim f outer answer top =>
    refine List.Sublist.trans ?_ (List.sublist_append_left _ _)
    by_cases here : d = f.destination
    · subst here
      rw [exclusive.outstanding_reclaim top, exclusive.outstanding_top top]
      exact (List.append_sublist_append_right _).2 Shipment.left_sublist
    · rw [outstanding_reclaim_of_ne top answer here]

/-- How the batches handed over stand to the history: what is outstanding was accepted before, for
its own destination and in this order, and each batch was a part of that, neither empty nor too
large. -/
structure Traced (h : List (Notice μ)) (o : Outbox μ) : Prop where
  exclusive : o.Exclusive
  outstanding : ∀ d, (o.outstanding d).Sublist (accepted h d)
  handed : ∀ past d batch rest, h = past ++ .handed d batch :: rest →
    batch ≠ [] ∧ batch.length ≤ o.batchSize ∧ batch.Sublist (accepted past d)

theorem Move.batchSize_eq (hm : Move o notices next) : next.batchSize = o.batchSize := by
  cases hm with
  | reclaim answer top => exact batchSize_reclaim _ _ answer
  | _ => rfl

/-- Only a batch that leaves is handed over: it is the head of a queue. -/
theorem Move.handed (hm : Move o notices next) {mid rest : List (Notice μ)} {d : String}
    {batch : List μ} (split : notices = mid ++ .handed d batch :: rest) :
    mid = [] ∧ o.queue d ≠ [] ∧ batch = (o.queue d).take o.batchSize := by
  have among : .handed d batch ∈ notices := by simp [split]
  cases hm with
  | @hand d' log purpose idle waiting =>
    cases mid with
    | nil =>
      simp only [handOver, List.nil_append, List.cons.injEq, Notice.handed.injEq] at split
      obtain ⟨⟨rfl, same⟩, -⟩ := split
      exact ⟨rfl, waiting, same.symm⟩
    | cons n mid => simp [handOver] at split
  | _ => simp at among

/-- A notice of a history with more at its end is one of those before, or one of the new ones. -/
theorem eq_append_cons {past rest : List (Notice μ)} {n : Notice μ}
    (split : h ++ notices = past ++ n :: rest) :
    (∃ mid, past = h ++ mid ∧ notices = mid ++ n :: rest) ∨ ∃ old, h = past ++ n :: old := by
  rcases List.append_eq_append_iff.1 split with ⟨mid, before, new⟩ | ⟨old, before, after⟩
  · exact .inl ⟨mid, before, new⟩
  · cases old with
    | nil => exact .inl ⟨[], by simpa using before.symm, by simpa using after.symm⟩
    | cons n' old =>
      obtain ⟨rfl, -⟩ := List.cons.inj after
      exact .inr ⟨old, before⟩

/-- **Every move keeps where batches come from.** -/
theorem Traced.move (T : Traced h o) (hm : Move o notices next) : Traced (h ++ notices) next := by
  refine ⟨hm.exclusive T.exclusive, fun d => ?_, ?_⟩
  · rw [accepted_append]
    exact (hm.outstanding_sublist T.exclusive d).trans
      ((List.append_sublist_append_right _).2 (T.outstanding d))
  · intro past d batch rest split
    rw [hm.batchSize_eq]
    rcases eq_append_cons split with ⟨mid, rfl, new⟩ | ⟨old, before⟩
    · obtain ⟨rfl, waiting, rfl⟩ := hm.handed new
      have pos := o.batchSize_pos
      refine ⟨by simp [waiting]; omega, List.length_take_le _ _, ?_⟩
      rw [List.append_nil]
      exact (o.take_sublist_outstanding d).trans (T.outstanding d)
    · exact T.handed past d batch old before

theorem Moves.traced (hm : Moves o notices next) (T : Traced h o) :
    Traced (h ++ notices) next :=
  hm.invariant (fun holds move => holds.move move) T

/-- **Every batch that is handed over** has at least one message and at most as many as a batch may
have, and all of them were accepted for its destination before, in this order. -/
theorem Made.handed {limit : ℕ} (made : o.Made limit) (inputs : List (Input μ))
    {past rest : List (Notice μ)} {d : String} {batch : List μ}
    (split : (o.run inputs).2 = past ++ .handed d batch :: rest) :
    batch ≠ [] ∧ batch.length ≤ o.batchSize ∧ batch.Sublist (accepted past d) := by
  obtain ⟨size, created⟩ := made.create
  obtain ⟨queues, flights, -⟩ := empty_of_create? created
  have new : Traced [] o := by
    refine ⟨made.sound.exclusive, fun d => ?_, by simp⟩
    simp [outstanding, inFlight, queue, queues, flights]
  have traced := (run_moves made.sound.exclusive inputs).traced new
  rw [List.nil_append] at traced
  rw [← batchSize_run made.sound inputs]
  exact traced.handed past d batch rest split

end Outbox

end Dispatch
