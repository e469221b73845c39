import Dispatch.Proofs.Outbox.Conservation

/-!
# Batches do not overtake each other

A message that was accepted before another for the same destination may be delivered after
it, but only because both were in one batch and the answer took the other alone. The reason
is that a batch is the head of all that is outstanding: when a later message is in it, so is
every earlier one that is still to be delivered (`Outbox.Orderly`).

## Main definitions

* `Shipment.Excuses`: what allows one shipment to deliver what another left behind.
* `Outbox.Orderly`: the invariant over histories.
* `Outbox.InOrder`: what holds without numbers: calls are answered in order, and whole batches
  are delivered in order.

## Main statements

* `Outbox.orderly_run`, `Outbox.inOrder_run`: both hold after every history.
* `Outbox.overtaken_only_within_batch`: who may overtake whom, and that nobody does when
  batches are delivered as a whole.
-/
namespace Dispatch

open History

variable {μ : Type}

/-! ## Order in a list -/

/-- In a list without repetitions, what stands before a member of the front does so in the
front. -/
theorem before_left {front back : List μ} (unique : (front ++ back).Nodup) {m m' : μ}
    (before : [m, m'].Sublist (front ++ back)) (hm' : m' ∈ front) :
    [m, m'].Sublist front := by
  obtain ⟨xs, ys, split, left, right⟩ := List.sublist_append_iff.1 before
  by_cases last : ys = []
  · rwa [split, last, List.append_nil]
  · have end_eq : ys.getLast last = m' := by
      have : (xs ++ ys).getLast (by simp [last]) = m' := by simp [← split]
      rwa [List.getLast_append_of_ne_nil _ last] at this
    have hback : m' ∈ back := right.subset (end_eq ▸ List.getLast_mem last)
    exact absurd rfl ((List.nodup_append.1 unique).2.2 m' hm' m' hback)

/-- Messages that are not taken away keep their order. -/
theorem before_without {order others : List (Numbered μ)} {m m' : Numbered μ}
    (before : [m, m'].Sublist order) (hm : m ∈ without order others)
    (hm' : m' ∈ without order others) : [m, m'].Sublist (without order others) := by
  have kept := before.filter fun x => x.number ∉ numbers others
  simpa [without, (mem_without.1 hm).2, (mem_without.1 hm').2] using kept

/-! ## The invariant -/

/-- When the later shipment delivers a message that was accepted before one which the earlier
shipment delivers, the earlier one carried both and left it behind. -/
def Shipment.Excuses (order : List μ) (earlier later : Shipment μ) : Prop :=
  ∀ m m', [m, m'].Sublist order → m' ∈ earlier.confirmed → m ∈ later.confirmed →
    m ∈ earlier.batch ∧ m' ∈ earlier.batch ∧ m ∉ earlier.confirmed

namespace Outbox

/-- Of what was accepted before a message that a shipment delivered, all that is still
outstanding was in the same batch; and what left a message behind excuses what delivered it
later. -/
structure Orderly (h : List (Notice (Numbered μ))) (o : Outbox (Numbered μ)) : Prop where
  conserved : Conserved h o
  carried : ∀ s ∈ shipments h, ∀ d m m', [m, m'].Sublist (accepted h d) →
    m' ∈ s.confirmed → m ∈ o.outstanding d → m ∈ s.batch
  excused : ∀ d, (shipments h).Pairwise (Shipment.Excuses (accepted h d))

namespace Conserved

variable {h notices : List (Notice (Numbered μ))} {o : Outbox (Numbered μ)}

/-- What a shipment delivered was accepted for its destination. -/
theorem accepted_of_confirmed (H : Conserved h o) {s : Shipment (Numbered μ)}
    (hs : s ∈ shipments h) {m : Numbered μ} (hm : m ∈ s.confirmed) :
    m ∈ accepted h s.destination :=
  H.removed_accepted s.destination m <|
    List.mem_flatMap.2 ⟨s, mem_shipmentsTo.2 ⟨hs, rfl⟩, Shipment.mem_removed_of_confirmed hm⟩

/-- What a shipment delivered is not outstanding. -/
theorem not_outstanding_of_confirmed (H : Conserved h o) (distinct : Distinct (arrivals h))
    {s : Shipment (Numbered μ)} (hs : s ∈ shipments h) {m : Numbered μ} (hm : m ∈ s.confirmed)
    (d : String) : m ∉ o.outstanding d := by
  obtain ⟨n, hn, shipped⟩ := List.mem_filterMap.1 hs
  refine H.not_outstanding_of_removed distinct hn ?_ d
  simpa [Notice.removed, shipped] using Shipment.mem_removed_of_confirmed hm

/-- What comes before a delivered message was accepted no later than it. -/
theorem before_confirmed (H : Conserved h o) (distinct : Distinct (arrivals (h ++ notices)))
    {s : Shipment (Numbered μ)} (hs : s ∈ shipments h) {d : String} {m m' : Numbered μ}
    (hm' : m' ∈ s.confirmed) (before : [m, m'].Sublist (accepted (h ++ notices) d)) :
    [m, m'].Sublist (accepted h d) := by
  have old := H.accepted_of_confirmed hs hm'
  have here : m' ∈ accepted (h ++ notices) d := before.subset (by simp)
  have there : m' ∈ accepted (h ++ notices) s.destination := by
    rw [accepted_append]
    exact List.mem_append_left _ old
  have same := destination_unique distinct there here rfl
  have unique := (distinct.sublist (accepted_sublist _ d)).nodup
  rw [accepted_append] at before unique
  exact before_left unique before (same ▸ old)

variable {f : Flight (Numbered μ)} {outer : List (Flight (Numbered μ))}

theorem outstanding_of_batch (H : Conserved h o) (top : o.flights = f :: outer)
    {m : Numbered μ} (hm : m ∈ f.batch) : m ∈ o.outstanding f.destination :=
  (H.exclusive.batch_sublist_outstanding top).subset hm

/-- The messages of a batch were accepted for its destination only. -/
theorem destination_of_batch (H : Conserved h o) (distinct : Distinct (arrivals h))
    (top : o.flights = f :: outer) {m : Numbered μ} (hm : m ∈ f.batch) {d : String}
    (hd : m ∈ accepted h d) : f.destination = d :=
  destination_unique distinct (H.accepted_of_outstanding (H.outstanding_of_batch top hm)) hd rfl

/-- A batch in flight is the head of what is outstanding: whatever was accepted before a
message of it and is still outstanding is in it. -/
theorem mem_batch_of_before (H : Conserved h o) (distinct : Distinct (arrivals h))
    (top : o.flights = f :: outer) {m m' : Numbered μ} (hm' : m' ∈ f.batch)
    (before : [m, m'].Sublist (accepted h f.destination))
    (out : m ∈ o.outstanding f.destination) : m ∈ f.batch := by
  have unique := (H.distinct_outstanding distinct f.destination).nodup
  have out' := H.outstanding_of_batch top hm'
  rw [H.outstanding_eq] at out out'
  have both := before_without before out out'
  rw [← H.outstanding_eq, H.exclusive.outstanding_top top] at both
  rw [H.exclusive.outstanding_top top] at unique
  exact (before_left unique both hm').subset (List.mem_cons_self ..)

end Conserved

namespace Orderly

variable {h notices : List (Notice (Numbered μ))} {o next : Outbox (Numbered μ)}

/-- As long as nothing is answered for, what was accepted later stands behind all that was
delivered. -/
theorem unanswered (H : Orderly h o) (distinct : Distinct (arrivals (h ++ notices)))
    (conserved : Conserved (h ++ notices) next) (answers : shipments notices = []) :
    Orderly (h ++ notices) next := by
  have still : shipments (h ++ notices) = shipments h := by
    rw [shipments_append, answers, List.append_nil]
  have kept (d : String) : removed (h ++ notices) d = removed h d := by
    simp [removed, shipmentsTo, answers]
  refine ⟨conserved, fun s hs d m m' before hm' out => ?_, fun d => ?_⟩
  · rw [still] at hs
    have before := H.conserved.before_confirmed distinct hs hm' before
    refine H.carried s hs d m m' before hm' ?_
    rw [conserved.outstanding_eq, kept] at out
    rw [H.conserved.outstanding_eq]
    exact mem_without.2 ⟨before.subset (List.mem_cons_self ..), (mem_without.1 out).2⟩
  · rw [still]
    refine (H.excused d).imp_of_mem ?_
    intro earlier later he _ excuse m m' before hm' hm
    exact excuse m m' (H.conserved.before_confirmed distinct he hm' before) hm' hm

/-- An answer delivers from the head of what is outstanding, so what it delivers was left
behind by every shipment that delivered a later message. -/
theorem reclaim (H : Orderly h o) (distinct : Distinct (arrivals h))
    {f : Flight (Numbered μ)} {outer : List (Flight (Numbered μ))}
    (top : o.flights = f :: outer) (answer : Answer) :
    Orderly (h ++ [.answered f.destination f.batch answer])
      (({ o with flights := outer } : Outbox (Numbered μ)).reclaim f answer) := by
  have conserved := H.conserved.reclaim distinct top answer
  have quiet (d : String) :
      accepted (h ++ [.answered f.destination f.batch answer]) d = accepted h d := by
    rw [accepted_append]
    exact List.append_nil _
  have now : shipments (h ++ [.answered f.destination f.batch answer]) =
      shipments h ++ [⟨f.destination, f.batch, answer⟩] := shipments_append ..
  -- an answer brings nothing back that was not outstanding before
  have known {d : String} {m : Numbered μ}
      (hm : m ∈ (({ o with flights := outer } : Outbox (Numbered μ)).reclaim f
        answer).outstanding d) : m ∈ o.outstanding d := by
    rw [conserved.outstanding_eq, quiet, removed_append, ← without_without,
      ← H.conserved.outstanding_eq] at hm
    exact (mem_without.1 hm).1
  refine ⟨conserved, fun s hs d m m' before hm' out => ?_, fun d => ?_⟩
  · rw [now] at hs
    rw [quiet] at before
    rcases List.mem_append.1 hs with hs | hs
    · exact H.carried s hs d m m' before hm' (known out)
    · cases List.mem_singleton.1 hs
      have carried := Shipment.mem_batch_of_confirmed hm'
      have same := H.conserved.destination_of_batch distinct top carried
        (before.subset (by simp))
      subst same
      exact H.conserved.mem_batch_of_before distinct top carried before (known out)
  · rw [now, quiet]
    refine List.pairwise_append.2 ⟨H.excused d, List.pairwise_singleton _ _, ?_⟩
    intro earlier he later hl m m' before hm' hm
    cases List.mem_singleton.1 hl
    have carried := Shipment.mem_batch_of_confirmed hm
    have same := H.conserved.destination_of_batch distinct top carried
      (before.subset (List.mem_cons_self ..))
    subst same
    have out := H.conserved.outstanding_of_batch top carried
    refine ⟨H.carried earlier he _ m m' before hm' out, Shipment.mem_batch_of_confirmed hm',
      fun delivered => ?_⟩
    exact H.conserved.not_outstanding_of_confirmed distinct he delivered _ out

/-- **Every move keeps the order.** -/
theorem move (H : Orderly h o) (distinct : Distinct (arrivals (h ++ notices)))
    (hm : Move o notices next) : Orderly (h ++ notices) next := by
  have conserved := H.conserved.move distinct hm
  cases hm with
  | reclaim answer top => exact H.reclaim distinct.past top answer
  | close | queue | hand | event | finish | block =>
    exact H.unanswered distinct conserved rfl

end Orderly

/-- **The order is kept through every history.** -/
theorem orderly_run {o : Outbox (Numbered μ)} {limit size : ℕ}
    (made : create? limit size = .ok o) {inputs : List (Input (Numbered μ))}
    (distinct : Distinct (arrivals (o.run inputs).2)) :
    Orderly (o.run inputs).2 (o.run inputs).1 := by
  have start := conserved_new made
  have ordered : Orderly [] o :=
    ⟨start, fun _ hs => by simp [shipments] at hs, fun _ => List.Pairwise.nil⟩
  exact invariant_run start.exclusive ordered (fun distinct H hm => H.move distinct hm) distinct

/-! ## Calls and answers -/

/-- The carrier answers the calls for a destination in the order they were made, and when
each of them fails or delivers its whole batch, what was delivered and what is outstanding
make up what was accepted. -/
structure InOrder (h : List (Notice μ)) (o : Outbox μ) : Prop where
  exclusive : o.Exclusive
  calls : ∀ d, handedTo h d = (shipmentsTo h d).map (·.batch) ++
    (o.flights.filter (·.destination == d)).map (·.batch)
  whole : ∀ d, (∀ s ∈ shipmentsTo h d, s.AllOrNothing) →
    reported h d ++ o.outstanding d = accepted h d

namespace InOrder

variable {h : List (Notice μ)} {o next : Outbox μ}

/-- Notices that bring and answer for nothing change nothing, if as much is outstanding. -/
theorem whole_silent (H : InOrder h o) {notices : List (Notice μ)} {d : String}
    (brings : accepted notices d = []) (answers : shipmentsTo notices d = [])
    (same : next.outstanding d = o.outstanding d)
    (whole : ∀ s ∈ shipmentsTo (h ++ notices) d, s.AllOrNothing) :
    reported (h ++ notices) d ++ next.outstanding d = accepted (h ++ notices) d := by
  rw [shipmentsTo_append, answers, List.append_nil] at whole
  rw [accepted_append, brings, reported, shipmentsTo_append, answers, List.append_nil,
    List.append_nil, same]
  exact H.whole d whole

/-- What an answer leaves of a batch follows what it delivers, when that is all or nothing. -/
theorem whole_reclaim (H : InOrder h o) {f : Flight μ} {outer : List (Flight μ)}
    (top : o.flights = f :: outer) (answer : Answer) (d : String)
    (whole : ∀ s ∈ shipmentsTo (h ++ [.answered f.destination f.batch answer]) d,
      s.AllOrNothing) :
    reported (h ++ [.answered f.destination f.batch answer]) d ++
        (({ o with flights := outer } : Outbox μ).reclaim f answer).outstanding d =
      accepted (h ++ [.answered f.destination f.batch answer]) d := by
  have quiet : accepted [.answered f.destination f.batch answer] d = [] := rfl
  rw [shipmentsTo_append, shipmentsTo_answered] at whole
  have so_far := H.whole d fun s hs => whole s (List.mem_append_left _ hs)
  rw [accepted_append, quiet, List.append_nil, ← so_far, reported_append, reported,
    reported, shipmentsTo_answered]
  by_cases same : f.destination = d
  · subst same
    have now : Shipment.AllOrNothing ⟨f.destination, f.batch, answer⟩ :=
      whole _ (List.mem_append_right _ (by simp))
    have split : f.batch = Shipment.confirmed ⟨f.destination, f.batch, answer⟩ ++
        Shipment.left ⟨f.destination, f.batch, answer⟩ := now.left_eq.symm
    rw [H.exclusive.outstanding_reclaim top, H.exclusive.outstanding_top top]
    conv_rhs => rw [split]
    simp
  · rw [outstanding_reclaim_of_ne top answer (Ne.symm same)]
    simp [same]

/-- The latest batch is answered for before any other of its destination is handed over. -/
theorem calls_reclaim (H : InOrder h o) {f : Flight μ} {outer : List (Flight μ)}
    (top : o.flights = f :: outer) (answer : Answer) (d : String) :
    handedTo h d = (shipmentsTo (h ++ [.answered f.destination f.batch answer]) d).map (·.batch) ++
      (outer.filter (·.destination == d)).map (·.batch) := by
  rw [H.calls d, top, shipmentsTo_append, shipmentsTo_answered]
  by_cases same : f.destination = d <;> simp [same]

theorem move (H : InOrder h o) {notices : List (Notice μ)} (hm : Move o notices next) :
    InOrder (h ++ notices) next := by
  refine ⟨hm.exclusive H.exclusive, ?_, ?_⟩
  · intro d
    rw [handedTo_append]
    cases hm with
    | @hand d' log purpose idle waiting =>
      have answered := H.calls d
      rw [shipmentsTo_append, answered, flights_handOver]
      by_cases same : d' = d
      · subst same
        have none : o.flights.filter (·.destination == d') = [] :=
          List.filter_eq_nil_iff.2 fun f hf => by simpa using isBusy_eq_false.1 idle f hf
        simp [none, handOver, handedTo, shipmentsTo, shipments, Notice.shipment?]
      · simp [same, handOver, handedTo, shipmentsTo, shipments, Notice.shipment?]
    | reclaim answer top => simpa [handedTo] using H.calls_reclaim top answer d
    | queue | close | event | finish | block =>
      rw [shipmentsTo_append]
      change handedTo h d ++ [] = (shipmentsTo h d ++ []).map _ ++ _
      rw [List.append_nil, List.append_nil]
      exact H.calls d
  · intro d whole
    cases hm with
    | @queue d' m room =>
      have so_far := H.whole d fun s hs => whole s <| by
        rw [shipmentsTo_append]
        exact List.mem_append_left _ hs
      rw [outstanding_push, reported_append, accepted_append, accepted_queued, ← so_far]
      change (reported h d ++ []) ++ _ = _
      simp
    | @hand d' log purpose idle waiting =>
      exact H.whole_silent rfl rfl (o.outstanding_handOver idle d log purpose) whole
    | reclaim answer top => exact H.whole_reclaim top answer d whole
    | close | event | finish | block => exact H.whole_silent rfl rfl rfl whole

end InOrder

theorem inOrder_run {o : Outbox μ} {limit size : ℕ} (made : create? limit size = .ok o)
    (inputs : List (Input μ)) : InOrder (o.run inputs).2 (o.run inputs).1 := by
  obtain ⟨queues, flights, -⟩ := empty_of_create? made
  have exclusive : o.Exclusive := by simp [Exclusive, flights]
  have start : InOrder [] o := by
    refine ⟨exclusive, fun d => ?_, fun d _ => ?_⟩
    · simp [handedTo, shipmentsTo, shipments, flights]
    · simp [reported, shipmentsTo, shipments, accepted, acceptances, outstanding, inFlight,
        queue, queues, flights]
  exact Moves.invariant (P := InOrder) (fun H hm => H.move hm) (run_moves exclusive inputs) start

/-! ## Who overtakes whom -/

section Numbered

variable {limit size : ℕ} {o : Outbox (Numbered μ)}

/-- **Overtaking only within a batch.** The calls for a destination are answered in the order
they are made. When a message is reported delivered by an earlier
answer than one that was accepted before it, that answer was for a batch with both and did
not report the other. When every call for a destination fails or delivers its whole batch,
the delivered batches, what is in flight and what waits make up what was accepted, in
order. -/
theorem overtaken_only_within_batch (made : create? limit size = .ok o)
    (inputs : List (Input μ)) :
    let seen := o.run (Input.number inputs)
    (o.map Numbered.message).run inputs = image Numbered.message seen ∧
    Distinct (arrivals seen.2) ∧
    (∀ d, (shipmentsTo seen.2 d).map (·.batch) <+: handedTo seen.2 d) ∧
    (∀ d, (shipments seen.2).Pairwise (Shipment.Excuses (accepted seen.2 d))) ∧
    ∀ d, (∀ s ∈ shipmentsTo seen.2 d, s.AllOrNothing) →
      delivered seen.2 d ++ seen.1.outstanding d = accepted seen.2 d := by
  have distinct := distinct_run made inputs
  have H := orderly_run made distinct
  have I := inOrder_run made (Input.number inputs)
  refine ⟨o.run_number inputs, distinct, fun d => ?_, H.excused, fun d whole => ?_⟩
  · rw [I.calls d]
    exact List.prefix_append _ _
  · rw [← reported_eq_delivered whole]
    exact I.whole d whole

/-- The second of two messages is delivered first, because the first was refused; another
destination gets all or nothing. -/
def secondFirst : List (Input ℕ) :=
  [.start (.send "orders" (.ok 7)), .start (.send "orders" (.ok 8)), .start (.flush "orders"),
    .start (.send "events" (.ok 1)), .start (.flush "events"), .answer (.error (.closed "a")),
    .answer (.ok ⟨[⟨1, "a"⟩], [⟨0, false, "Busy", ""⟩]⟩),
    .start (.flush "events"), .start (.send "events" (.ok 2)), .answer (.ok ⟨[⟨0, "b"⟩], []⟩),
    .start (.flush "orders"), .answer (.ok ⟨[⟨0, "c"⟩], []⟩)]

theorem first_left_behind :
    let seen := (double (Numbered ℕ)).run (Input.number secondFirst)
    create? 10 2 = .ok (double (Numbered ℕ)) ∧
    reported seen.2 "orders" = [⟨1, 8⟩, ⟨0, 7⟩] ∧
    (shipments seen.2).Pairwise (Shipment.Excuses [⟨0, 7⟩, ⟨1, 8⟩]) ∧
    (∀ s ∈ shipmentsTo seen.2 "events", s.AllOrNothing) ∧
    delivered seen.2 "events" ++ seen.1.outstanding "events" = [⟨3, 1⟩, ⟨8, 2⟩] := by
  intro seen
  have made : create? 10 2 = .ok (double (Numbered ℕ)) := rfl
  have orders : accepted seen.2 "orders" = [⟨0, 7⟩, ⟨1, 8⟩] := by decide
  have whole : ∀ s ∈ shipmentsTo seen.2 "events", s.AllOrNothing := by decide
  obtain ⟨-, -, -, excused, ordered⟩ := overtaken_only_within_batch made secondFirst
  exact ⟨made, by decide, orders ▸ excused "orders", whole, ordered "events" whole⟩

end Numbered

end Outbox

end Dispatch
