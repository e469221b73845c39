import Dispatch.Outbox.Basic
import Mathlib.Data.List.Basic

/-!
# What the notices of an outbox tell

The notices of a history say which messages were accepted, which batches the carrier got, and
what it answered. Here this is read off, with no look at the outbox itself.

## Main definitions

* `Receipt.confirmed`: the messages of a batch that a receipt reports delivered.
* `Shipment`: a batch for a destination with its answer; `Shipment.confirmed`,
  `Shipment.left` and `Shipment.omitted` say what became of its messages.
* `History.accepted`, `History.shipments`: the messages that sends were told are queued, and
  the batches that were answered for, both in order.
* `History.reported`, `History.omitted`: what the answers for a destination reported
  delivered, and what they passed over.
-/
namespace Dispatch

variable {μ : Type}

namespace Receipt

/-- The messages of a batch whose positions are reported delivered, in their order. -/
def confirmed (r : Receipt) (batch : List μ) : List μ :=
  (batch.zipIdx.filter fun entry => r.reports entry.2).map (·.1)

theorem undelivered_eq_filter (r : Receipt) (batch : List μ) :
    r.undelivered batch = (batch.zipIdx.filter fun entry => !r.reports entry.2).map (·.1) := by
  suffices h : ∀ start, r.undeliveredFrom start batch =
      ((batch.zipIdx start).filter fun entry => !r.reports entry.2).map (·.1) from h 0
  induction batch with
  | nil => exact fun _ => rfl
  | cons m ms ih =>
    intro start
    simp only [undeliveredFrom, List.zipIdx_cons, ih (start + 1)]
    by_cases h : r.reports start <;> simp [h]

theorem mem_confirmed {r : Receipt} {batch : List μ} {m : μ} :
    m ∈ r.confirmed batch ↔ ∃ i, batch[i]? = some m ∧ r.reports i := by
  simp [confirmed, List.mem_zipIdx_iff_getElem?]

theorem mem_undelivered {r : Receipt} {batch : List μ} {m : μ} :
    m ∈ r.undelivered batch ↔ ∃ i, batch[i]? = some m ∧ r.reports i = false := by
  simp [undelivered_eq_filter, List.mem_zipIdx_iff_getElem?]

/-- A receipt passes over no message of a batch when it reports every position of it. -/
theorem undelivered_eq_nil {r : Receipt} {batch : List μ} :
    r.undelivered batch = [] ↔ ∀ i < batch.length, r.reports i := by
  rw [List.eq_nil_iff_forall_not_mem]
  constructor
  · intro h i hi
    by_contra hr
    exact h batch[i] (mem_undelivered.2 ⟨i, List.getElem?_eq_getElem hi, by simpa using hr⟩)
  · intro h m hm
    obtain ⟨i, hi, hr⟩ := mem_undelivered.1 hm
    obtain ⟨hlt, -⟩ := List.getElem?_eq_some_iff.1 hi
    simp [h i hlt] at hr

/-- A receipt that reports every position confirms the whole batch. -/
theorem confirmed_eq_self {r : Receipt} {batch : List μ}
    (h : ∀ i < batch.length, r.reports i) : r.confirmed batch = batch := by
  have all : batch.zipIdx.filter (fun entry => r.reports entry.2) = batch.zipIdx := by
    refine List.filter_eq_self.2 fun entry he => h entry.2 ?_
    obtain ⟨hlt, -⟩ := List.getElem?_eq_some_iff.1 (List.mem_zipIdx_iff_getElem?.1 he)
    exact hlt
  rw [confirmed, all, List.zipIdx_map_fst]

end Receipt

/-- A batch that was carried to a destination, and what the carrier said to it. -/
structure Shipment (μ : Type) where
  destination : String
  batch : List μ
  answer : Answer

namespace Shipment

/-- The messages that the answer reports delivered. -/
def confirmed (s : Shipment μ) : List μ :=
  match s.answer with
  | .error _ => []
  | .ok receipt => receipt.confirmed s.batch

/-- The messages that go back to the queue: all of them after an error, none after a clean
receipt, else those that are not reported delivered. -/
def left (s : Shipment μ) : List μ :=
  match s.answer with
  | .error _ => s.batch
  | .ok receipt => if receipt.refused = [] then [] else receipt.undelivered s.batch

/-- The messages that a receipt without refusals does not report delivered either. -/
def omitted (s : Shipment μ) : List μ :=
  match s.answer with
  | .error _ => []
  | .ok receipt => if receipt.refused = [] then receipt.undelivered s.batch else []

/-- The messages that do not go back to the queue. -/
def removed (s : Shipment μ) : List μ := s.confirmed ++ s.omitted

/-- A receipt without refusals reports every position of the batch. -/
def Complete (s : Shipment μ) : Prop :=
  ∀ receipt, s.answer = .ok receipt → receipt.refused = [] →
    ∀ i < s.batch.length, receipt.reports i

/-- The answer is an error or reports every position of the batch. -/
def AllOrNothing (s : Shipment μ) : Prop :=
  ∀ receipt, s.answer = .ok receipt → ∀ i < s.batch.length, receipt.reports i

variable {s : Shipment μ} {m : μ}

theorem mem_batch_of_confirmed (h : m ∈ s.confirmed) : m ∈ s.batch := by
  simp only [confirmed] at h
  split at h
  · simp at h
  · obtain ⟨i, hi, -⟩ := Receipt.mem_confirmed.1 h
    exact List.mem_of_getElem? hi

theorem mem_batch_of_omitted (h : m ∈ s.omitted) : m ∈ s.batch := by
  simp only [omitted] at h
  split at h
  · simp at h
  · split at h
    · exact (Receipt.undeliveredFrom_sublist _ _ _).subset h
    · simp at h

theorem mem_batch_of_removed (h : m ∈ s.removed) : m ∈ s.batch :=
  (List.mem_append.1 h).elim mem_batch_of_confirmed mem_batch_of_omitted

/-- What goes back to the queue is part of the batch, in order. -/
theorem left_sublist : s.left.Sublist s.batch := by
  simp only [left]
  split
  · exact List.Sublist.refl _
  · split
    · exact List.nil_sublist _
    · exact Receipt.undeliveredFrom_sublist _ _ _

theorem mem_removed_of_confirmed (h : m ∈ s.confirmed) : m ∈ s.removed :=
  List.mem_append_left _ h

/-- Complete receipts are those that pass over nothing. -/
theorem omitted_eq_nil : s.omitted = [] ↔ s.Complete := by
  simp only [omitted, Complete]
  cases s.answer with
  | error e => simp
  | ok receipt => by_cases h : receipt.refused = [] <;> simp [h, Receipt.undelivered_eq_nil]

instance (s : Shipment μ) : Decidable s.Complete :=
  decidable_of_iff (s.omitted.isEmpty = true) (by rw [List.isEmpty_iff, omitted_eq_nil])

instance (s : Shipment μ) : Decidable s.AllOrNothing :=
  match h : s.answer with
  | .error _ => .isTrue fun receipt ok => by simp [h] at ok
  | .ok receipt =>
    decidable_of_iff (∀ i < s.batch.length, receipt.reports i) (by simp [AllOrNothing, h])

theorem AllOrNothing.confirmed_eq (h : s.AllOrNothing) :
    s.confirmed = if s.answer.isOk then s.batch else [] := by
  simp only [AllOrNothing] at h
  simp only [confirmed]
  cases ha : s.answer with
  | error e => simp [Except.isOk, Except.toBool]
  | ok receipt => simp [Except.isOk, Except.toBool, Receipt.confirmed_eq_self (h receipt ha)]

theorem AllOrNothing.left_eq (h : s.AllOrNothing) :
    s.confirmed ++ s.left = s.batch := by
  simp only [AllOrNothing] at h
  simp only [confirmed, left]
  cases ha : s.answer with
  | error e => simp
  | ok receipt =>
    have every := h receipt ha
    simp [Receipt.confirmed_eq_self every, Receipt.undelivered_eq_nil.2 every]

end Shipment

/-- The message that a send was told is queued, with its destination. -/
def Notice.acceptance? : Notice μ → Option (String × μ)
  | queued destination m => some (destination, m)
  | _ => none

/-- The batch that was answered for. -/
def Notice.shipment? : Notice μ → Option (Shipment μ)
  | answered destination batch answer => some ⟨destination, batch, answer⟩
  | _ => none

/-- The messages handed to the carrier, or answered for. -/
def Notice.batch : Notice μ → List μ
  | handed _ batch => batch
  | answered _ batch _ => batch
  | _ => []

theorem Notice.batch_of_shipment? {n : Notice μ} {s : Shipment μ} (h : n.shipment? = some s) :
    n.batch = s.batch := by
  cases n with
  | answered d batch answer => cases h; rfl
  | _ => cases h

/-- The messages that an answer reports delivered. -/
def Notice.confirmed (n : Notice μ) : List μ := n.shipment?.elim [] Shipment.confirmed

/-- The messages that an answer keeps out of the queue. -/
def Notice.removed (n : Notice μ) : List μ := n.shipment?.elim [] Shipment.removed

namespace History

/-- The accepted messages with their destinations, in order. -/
def acceptances (h : List (Notice μ)) : List (String × μ) := h.filterMap Notice.acceptance?

/-- The accepted messages, in order. -/
def arrivals (h : List (Notice μ)) : List μ := (acceptances h).map (·.2)

/-- The messages accepted for a destination, in order. -/
def accepted (h : List (Notice μ)) (destination : String) : List μ :=
  ((acceptances h).filter (·.1 == destination)).map (·.2)

/-- The batches that were answered for, in order. -/
def shipments (h : List (Notice μ)) : List (Shipment μ) := h.filterMap Notice.shipment?

/-- The batches for a destination that were answered for, in order. -/
def shipmentsTo (h : List (Notice μ)) (destination : String) : List (Shipment μ) :=
  (shipments h).filter (·.destination == destination)

/-- The batches handed to the carrier for a destination, in order. -/
def handedTo (h : List (Notice μ)) (destination : String) : List (List μ) :=
  h.filterMap fun
    | .handed d batch => if d = destination then some batch else none
    | _ => none

/-- The messages reported delivered to a destination, batch by batch. -/
def reported (h : List (Notice μ)) (destination : String) : List μ :=
  (shipmentsTo h destination).flatMap Shipment.confirmed

/-- The batches for a destination that the carrier did not fail to send, joined. -/
def delivered (h : List (Notice μ)) (destination : String) : List μ :=
  ((shipmentsTo h destination).filter (·.answer.isOk)).flatMap (·.batch)

/-- The messages for a destination that receipts without refusals passed over. -/
def omitted (h : List (Notice μ)) (destination : String) : List μ :=
  (shipmentsTo h destination).flatMap Shipment.omitted

/-- The messages for a destination that an answer kept out of the queue. -/
def removed (h : List (Notice μ)) (destination : String) : List μ :=
  (shipmentsTo h destination).flatMap Shipment.removed

variable (h k : List (Notice μ)) (d : String)

@[simp] theorem arrivals_append : arrivals (h ++ k) = arrivals h ++ arrivals k := by
  simp [arrivals, acceptances]

@[simp] theorem accepted_append : accepted (h ++ k) d = accepted h d ++ accepted k d := by
  simp [accepted, acceptances]

@[simp] theorem shipments_append : shipments (h ++ k) = shipments h ++ shipments k := by
  simp [shipments]

@[simp] theorem shipmentsTo_append :
    shipmentsTo (h ++ k) d = shipmentsTo h d ++ shipmentsTo k d := by
  simp [shipmentsTo]

@[simp] theorem handedTo_append : handedTo (h ++ k) d = handedTo h d ++ handedTo k d := by
  simp [handedTo]

@[simp] theorem removed_append : removed (h ++ k) d = removed h d ++ removed k d := by
  simp [removed]

@[simp] theorem reported_append : reported (h ++ k) d = reported h d ++ reported k d := by
  simp [reported]

theorem accepted_queued (d' : String) (m : μ) (result : Except Error Outcome) :
    accepted [.queued d m, .finished result] d' = if d = d' then [m] else [] := by
  by_cases same : d = d' <;> simp [accepted, acceptances, Notice.acceptance?, same]

theorem shipmentsTo_answered (d' : String) (batch : List μ) (answer : Answer) :
    shipmentsTo [.answered d batch answer] d' = if d = d' then [⟨d, batch, answer⟩] else [] := by
  by_cases same : d = d' <;> simp [shipmentsTo, shipments, Notice.shipment?, same]

/-- Events say nothing of messages. -/
@[simp] theorem shipmentsTo_events (es : List Event) :
    shipmentsTo (es.map .event : List (Notice μ)) d = [] := by
  simp [shipmentsTo, shipments, Notice.shipment?, List.filterMap_map, Function.comp_def]

@[simp] theorem handedTo_events (es : List Event) :
    handedTo (es.map .event : List (Notice μ)) d = [] := by
  simp [handedTo, List.filterMap_map]

/-- Nor does the end of an operation. -/
@[simp] theorem handedTo_finished (result : Except Error Outcome) :
    handedTo [(.finished result : Notice μ)] d = [] := rfl

@[simp] theorem shipmentsTo_finished (result : Except Error Outcome) :
    shipmentsTo [(.finished result : Notice μ)] d = [] := rfl

theorem removed_answered (d' : String) (batch : List μ) (answer : Answer) :
    removed [.answered d batch answer] d' =
      if d = d' then Shipment.removed ⟨d, batch, answer⟩ else [] := by
  rw [removed, shipmentsTo_answered]
  by_cases same : d = d' <;> simp [same]

theorem mem_removed {h : List (Notice μ)} {d : String} {m : μ} :
    m ∈ removed h d ↔ m ∈ reported h d ∨ m ∈ omitted h d := by
  simp only [removed, reported, omitted, Shipment.removed, List.mem_flatMap, List.mem_append]
  constructor
  · rintro ⟨s, hs, hm | hm⟩
    · exact .inl ⟨s, hs, hm⟩
    · exact .inr ⟨s, hs, hm⟩
  · rintro (⟨s, hs, hm⟩ | ⟨s, hs, hm⟩)
    · exact ⟨s, hs, .inl hm⟩
    · exact ⟨s, hs, .inr hm⟩

/-- When the answers are all or nothing, what is reported is what was carried without
failure. -/
theorem reported_eq_delivered {h : List (Notice μ)} {d : String}
    (whole : ∀ s ∈ shipmentsTo h d, s.AllOrNothing) : reported h d = delivered h d := by
  simp only [reported, delivered]
  generalize shipmentsTo h d = answered at whole ⊢
  induction answered with
  | nil => rfl
  | cons s rest ih =>
    have first := (whole s (List.mem_cons_self ..)).confirmed_eq
    have others := ih fun s hs => whole s (List.mem_cons_of_mem _ hs)
    rw [List.flatMap_cons, first, others, List.filter_cons]
    by_cases sent : s.answer.isOk <;> simp [sent]

theorem mem_shipmentsTo {h : List (Notice μ)} {d : String} {s : Shipment μ} :
    s ∈ shipmentsTo h d ↔ s ∈ shipments h ∧ s.destination = d := by
  simp [shipmentsTo]

theorem accepted_sublist : (accepted h d).Sublist (arrivals h) :=
  List.filter_sublist.map _

theorem mem_accepted {h : List (Notice μ)} {d : String} {m : μ} :
    m ∈ accepted h d ↔ (d, m) ∈ acceptances h := by
  simp [accepted]

end History

end Dispatch
