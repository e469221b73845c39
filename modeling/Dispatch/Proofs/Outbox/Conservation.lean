import Dispatch.Proofs.Outbox.Numbering
import Dispatch.Proofs.Outbox.Trace
import Mathlib.Data.List.Pairwise

/-!
# Nothing is lost, nothing is sent twice

At every moment of a history, what is in flight for a destination followed by what waits for
it is the list of the messages accepted for it, in the order they were accepted, less those
that an answer kept out of the queue (`Outbox.Conserved`). An answer keeps out what it
reports delivered. A receipt without refusals also keeps out what it passes over, and that
is the only way in which an accepted message gets lost.

## Main definitions

* `Outbox.Conserved`: the invariant that ties an outbox to its history.

## Main statements

* `Outbox.conserved_run`: it holds after every history.
* `Outbox.accounted_iff_not_omitted`: which messages are lost.
* `Outbox.outstanding_of_complete`: with complete receipts none is, and the order is kept.
-/
namespace Dispatch

open History

variable {μ : Type}

/-! ## What an answer leaves of a batch -/

/-- A receipt leaves the messages that it does not confirm. -/
theorem Receipt.undelivered_eq_without {batch : List (Numbered μ)} (distinct : Distinct batch)
    (r : Receipt) : r.undelivered batch = without batch (r.confirmed batch) := by
  have confirmed_sub : ∀ m ∈ r.confirmed batch, m ∈ batch := by
    intro m hm
    obtain ⟨i, hi, -⟩ := Receipt.mem_confirmed.1 hm
    exact List.mem_of_getElem? hi
  have entries : batch = batch.zipIdx.map (·.1) := (List.zipIdx_map_fst 0 batch).symm
  rw [without]
  conv_rhs => rw [entries, List.filter_map]
  rw [Receipt.undelivered_eq_filter, ← entries]
  congr 1
  refine List.filter_congr fun entry he => ?_
  have at_entry := List.mem_zipIdx_iff_getElem?.1 he
  have hm : entry.1 ∈ batch := List.mem_of_getElem? at_entry
  have mem_iff : entry.1 ∈ r.confirmed batch ↔ r.reports entry.2 = true := by
    rw [Receipt.mem_confirmed]
    constructor
    · rintro ⟨i, hi, hr⟩
      obtain ⟨hlt, -⟩ := List.getElem?_eq_some_iff.1 hi
      rwa [← (List.getElem?_inj hlt distinct.nodup).1 (hi.trans at_entry.symm)]
    · intro hr
      exact ⟨entry.2, at_entry, hr⟩
  simp only [Function.comp, distinct.number_mem_iff confirmed_sub hm, mem_iff]
  simp

theorem Shipment.left_eq_without {s : Shipment (Numbered μ)} (distinct : Distinct s.batch) :
    s.left = without s.batch s.removed := by
  simp only [left, removed, confirmed, omitted]
  cases s.answer with
  | error e => exact (without_eq_self (by simp [numbers])).symm
  | ok receipt =>
    by_cases clean : receipt.refused = []
    · simp only [clean, if_true]
      rw [Receipt.undelivered_eq_without distinct, ← without_without]
      refine (List.filter_eq_nil_iff.2 fun m hm => ?_).symm
      simpa using mem_numbers hm
    · simp only [clean, if_false, List.append_nil]
      exact Receipt.undelivered_eq_without distinct receipt

/-- No message is both reported delivered and passed over. -/
theorem Shipment.not_omitted_of_confirmed {s : Shipment (Numbered μ)}
    (distinct : Distinct s.batch) {m : Numbered μ} (h : m ∈ s.confirmed) : m ∉ s.omitted := by
  simp only [confirmed, omitted] at h ⊢
  cases hs : s.answer with
  | error e => simp [hs] at h
  | ok receipt =>
    rw [hs] at h
    by_cases clean : receipt.refused = []
    · simp only [clean, if_true, Receipt.undelivered_eq_without distinct, mem_without, not_and,
        not_not]
      exact fun _ => mem_numbers h
    · simp [clean]

/-! ## The invariant -/

/-- A message is accepted for one destination. -/
theorem History.destination_unique {h : List (Notice (Numbered μ))}
    (distinct : Distinct (arrivals h)) {d d' : String} {m m' : Numbered μ}
    (hm : m ∈ accepted h d) (hm' : m' ∈ accepted h d') (same : m.number = m'.number) :
    d = d' := by
  have unique : ((acceptances h).map fun entry => entry.2.number).Nodup := by
    simpa [Distinct, numbers, arrivals, Function.comp_def] using distinct
  exact (Prod.mk.inj (List.inj_on_of_nodup_map unique (mem_accepted.1 hm) (mem_accepted.1 hm')
    same)).1

/-- What happened before did not accept a number twice either. -/
theorem Distinct.past {h notices : List (Notice (Numbered μ))}
    (distinct : Distinct (arrivals (h ++ notices))) : Distinct (arrivals h) := by
  rw [arrivals_append] at distinct
  exact distinct.sublist (List.sublist_append_left _ _)

namespace Outbox

/-- How an outbox stands to its history: what is outstanding for a destination is what was
accepted for it, less what answers kept out of the queue; and none of that is handed over
again. -/
structure Conserved (h : List (Notice (Numbered μ))) (o : Outbox (Numbered μ)) : Prop where
  exclusive : o.Exclusive
  outstanding_eq : ∀ d, o.outstanding d = without (accepted h d) (removed h d)
  removed_accepted : ∀ d, ∀ m ∈ removed h d, m ∈ accepted h d
  batch_distinct : ∀ n ∈ h, Distinct n.batch
  never_again : h.Pairwise fun earlier later => ∀ m ∈ earlier.removed, m ∉ later.batch

namespace Conserved

variable {h : List (Notice (Numbered μ))} {o next : Outbox (Numbered μ)}

theorem accepted_of_outstanding (H : Conserved h o) {d : String} {m : Numbered μ}
    (hm : m ∈ o.outstanding d) : m ∈ accepted h d := by
  rw [H.outstanding_eq d] at hm
  exact (mem_without.1 hm).1

theorem distinct_outstanding (H : Conserved h o) (distinct : Distinct (arrivals h))
    (d : String) : Distinct (o.outstanding d) := by
  rw [H.outstanding_eq d]
  exact distinct.sublist ((without_sublist _ _).trans (accepted_sublist h d))

/-- What an answer kept out of the queue is not outstanding, for any destination. -/
theorem not_outstanding_of_removed (H : Conserved h o) (distinct : Distinct (arrivals h))
    {n : Notice (Numbered μ)} (hn : n ∈ h) {m : Numbered μ} (hm : m ∈ n.removed) (d : String) :
    m ∉ o.outstanding d := by
  intro out
  cases hs : n.shipment? with
  | none => simp [Notice.removed, hs] at hm
  | some s =>
    have shipped : s ∈ shipmentsTo h s.destination :=
      mem_shipmentsTo.2 ⟨List.mem_filterMap.2 ⟨n, hn, hs⟩, rfl⟩
    have hr : m ∈ removed h s.destination :=
      List.mem_flatMap.2 ⟨s, shipped, by simpa [Notice.removed, hs] using hm⟩
    have same := destination_unique distinct (H.removed_accepted _ m hr)
      (H.accepted_of_outstanding out) rfl
    rw [H.outstanding_eq d, ← same] at out
    exact (mem_without.1 out).2 (mem_numbers hr)

/-- A batch that is handed over or answered for is outstanding. -/
theorem batch_distinct_append (H : Conserved h o) (distinct : Distinct (arrivals h))
    {n : Notice (Numbered μ)} {d : String} (hb : n.batch.Sublist (o.outstanding d)) :
    ∀ n' ∈ h ++ [n], Distinct n'.batch := by
  intro n' hn'
  rcases List.mem_append.1 hn' with hn' | hn'
  · exact H.batch_distinct n' hn'
  · rw [List.mem_singleton.1 hn']
    exact (H.distinct_outstanding distinct d).sublist hb

/-- Nothing of a batch that is outstanding was kept out before. -/
theorem never_again_append (H : Conserved h o) (distinct : Distinct (arrivals h))
    {n : Notice (Numbered μ)} {d : String} (hb : n.batch.Sublist (o.outstanding d)) :
    (h ++ [n]).Pairwise fun earlier later => ∀ m ∈ earlier.removed, m ∉ later.batch := by
  refine List.pairwise_append.2 ⟨H.never_again, List.pairwise_singleton _ _, ?_⟩
  intro earlier he later hl m hm hbatch
  rw [List.mem_singleton.1 hl] at hbatch
  exact H.not_outstanding_of_removed distinct he hm d (hb.subset hbatch)

/-- A notice that brings, hands over and answers for nothing changes nothing. -/
theorem silent (H : Conserved h o) {n : Notice (Numbered μ)} (brings : n.acceptance? = none)
    (answers : n.shipment? = none) (hands : n.batch = []) : Conserved (h ++ [n]) o where
  exclusive := H.exclusive
  outstanding_eq d := by
    simpa [accepted, removed, shipmentsTo, acceptances, shipments, brings, answers]
      using H.outstanding_eq d
  removed_accepted d := by
    simpa [accepted, removed, shipmentsTo, acceptances, shipments, brings, answers]
      using H.removed_accepted d
  batch_distinct n' hn' := by
    rcases List.mem_append.1 hn' with hn' | hn'
    · exact H.batch_distinct n' hn'
    · rw [List.mem_singleton.1 hn', hands]
      exact List.nodup_nil
  never_again := by
    refine List.pairwise_append.2 ⟨H.never_again, List.pairwise_singleton _ _, ?_⟩
    intro earlier _ later hl m _
    simp [List.mem_singleton.1 hl, hands]

/-- A message that joins a queue is new, so no answer has kept it out. -/
theorem queue (H : Conserved h o) {d : String} {m : Numbered μ}
    (distinct : Distinct (arrivals (h ++ [.queued d m, .finished (.ok .queued)]))) :
    Conserved (h ++ [.queued d m, .finished (.ok .queued)]) (o.push d m) where
  exclusive := H.exclusive
  outstanding_eq d' := by
    have fresh : m.number ∉ numbers (removed h d') := by
      intro hn
      obtain ⟨x, hx, same⟩ := List.mem_map.1 hn
      have known : x ∈ arrivals h :=
        (accepted_sublist h d').subset (H.removed_accepted d' x hx)
      simp only [Distinct, arrivals_append, numbers_append] at distinct
      exact (List.nodup_append.1 distinct).2.2 x.number (mem_numbers known) m.number
        (mem_numbers (by simp [arrivals, acceptances, Notice.acceptance?])) same
    have quiet : removed [.queued d m, .finished (.ok .queued)] d' = [] := rfl
    rw [outstanding_push, accepted_append, removed_append, quiet, List.append_nil,
      without_append, H.outstanding_eq d', accepted_queued]
    congr 1
    refine (without_eq_self fun x hx => ?_).symm
    split at hx
    · rwa [List.mem_singleton.1 hx]
    · simp at hx
  removed_accepted d' x hx := by
    rw [removed_append, List.mem_append] at hx
    rw [accepted_append, List.mem_append]
    exact hx.imp (H.removed_accepted d' x) fun none => by
      simp [removed, shipmentsTo, shipments, Notice.shipment?] at none
  batch_distinct n hn := by
    rcases List.mem_append.1 hn with hn | hn
    · exact H.batch_distinct n hn
    · rcases List.mem_cons.1 hn with rfl | hn
      · exact List.nodup_nil
      · rw [List.mem_singleton.1 hn]
        exact List.nodup_nil
  never_again := by
    refine List.pairwise_append.2 ⟨H.never_again, by simp [Notice.batch], ?_⟩
    intro earlier _ later hl m' _
    rcases List.mem_cons.1 hl with rfl | hl
    · simp [Notice.batch]
    · simp [List.mem_singleton.1 hl, Notice.batch]

/-- A batch that is handed over is the head of what waits, and nothing was in flight. -/
theorem hand (H : Conserved h o) (distinct : Distinct (arrivals h)) {d : String} (log : Log)
    (purpose : Purpose (Numbered μ)) (idle : o.isBusy d = false) (waiting : o.queue d ≠ []) :
    Conserved (h ++ (o.handOver d log purpose).2) (o.handOver d log purpose).1 where
  exclusive := (Move.hand log purpose idle waiting).exclusive H.exclusive
  outstanding_eq d' := by
    rw [outstanding_handOver o idle, accepted_append, removed_append]
    change _ = without (accepted h d' ++ []) (removed h d' ++ [])
    rw [List.append_nil, List.append_nil]
    exact H.outstanding_eq d'
  removed_accepted d' x hx := by
    rw [accepted_append, List.mem_append]
    rw [removed_append, List.mem_append] at hx
    exact hx.imp (H.removed_accepted d' x) id
  batch_distinct := H.batch_distinct_append distinct (o.take_sublist_outstanding d)
  never_again := H.never_again_append distinct (o.take_sublist_outstanding d)

/-- An answer keeps out what it reports delivered and, if it refuses nothing, the rest of
the batch as well; what it leaves stands before the queue. -/
theorem reclaim (H : Conserved h o) (distinct : Distinct (arrivals h))
    {f : Flight (Numbered μ)} {outer : List (Flight (Numbered μ))}
    (top : o.flights = f :: outer) (answer : Answer) :
    Conserved (h ++ [.answered f.destination f.batch answer])
      (({ o with flights := outer } : Outbox (Numbered μ)).reclaim f answer) where
  exclusive := (Move.reclaim answer top).exclusive H.exclusive
  outstanding_eq d := by
    have quiet : accepted [.answered f.destination f.batch answer] d = [] := rfl
    rw [accepted_append, quiet, List.append_nil, removed_append, removed_answered,
      ← without_without, ← H.outstanding_eq d]
    by_cases same : f.destination = d
    · subst same
      have before := H.exclusive.outstanding_top top
      have unique := H.distinct_outstanding distinct f.destination
      rw [before] at unique
      rw [H.exclusive.outstanding_reclaim top, before, if_pos rfl, without_append]
      congr 1
      · exact Shipment.left_eq_without (unique.sublist (List.sublist_append_left _ _))
      · refine (without_eq_self fun m hm hn => ?_).symm
        obtain ⟨x, hx, heq⟩ := List.mem_map.1 hn
        simp only [Distinct, numbers_append] at unique
        exact (List.nodup_append.1 unique).2.2 x.number
          (mem_numbers (Shipment.mem_batch_of_removed hx)) m.number (mem_numbers hm) heq
    · rw [if_neg same, outstanding_reclaim_of_ne top answer (Ne.symm same)]
      exact (without_eq_self (by simp [numbers])).symm
  removed_accepted d x hx := by
    rw [accepted_append, List.mem_append]
    rw [removed_append, removed_answered, List.mem_append] at hx
    refine .inl (hx.elim (H.removed_accepted d x) fun now => ?_)
    split at now
    · next same =>
      subst same
      refine H.accepted_of_outstanding ?_
      rw [H.exclusive.outstanding_top top]
      exact List.mem_append_left _ (Shipment.mem_batch_of_removed now)
    · simp at now
  batch_distinct := H.batch_distinct_append distinct (H.exclusive.batch_sublist_outstanding top)
  never_again := H.never_again_append distinct (H.exclusive.batch_sublist_outstanding top)

/-- **Every move keeps the invariant.** -/
theorem move (H : Conserved h o) {notices : List (Notice (Numbered μ))}
    (distinct : Distinct (arrivals (h ++ notices))) (hm : Move o notices next) :
    Conserved (h ++ notices) next := by
  cases hm with
  | close =>
    rw [List.append_nil]
    exact ⟨H.exclusive, H.outstanding_eq, H.removed_accepted, H.batch_distinct, H.never_again⟩
  | queue m room => exact H.queue distinct
  | hand log purpose idle waiting => exact H.hand distinct.past log purpose idle waiting
  | reclaim answer top => exact H.reclaim distinct.past top answer
  | event | finish | block => exact H.silent rfl rfl rfl

end Conserved

/-- A new outbox is tied to the empty history. -/
theorem conserved_new {o : Outbox (Numbered μ)} {limit size : ℕ}
    (made : create? limit size = .ok o) : Conserved [] o := by
  obtain ⟨queues, flights, -⟩ := empty_of_create? made
  refine ⟨?_, fun d => ?_, fun d m hm => hm, fun n hn => by simp at hn, List.Pairwise.nil⟩
  · simp [Exclusive, flights]
  · simp [outstanding, inFlight, queue, queues, flights, accepted, acceptances, without]

/-- What holds of a new outbox, and is kept by every move that accepts no number twice, holds
after every history that does not. -/
theorem invariant_run {P : List (Notice (Numbered μ)) → Outbox (Numbered μ) → Prop}
    {o : Outbox (Numbered μ)} (exclusive : o.Exclusive) (start : P [] o)
    (step : ∀ {h notices} {o next : Outbox (Numbered μ)}, Distinct (arrivals (h ++ notices)) →
      P h o → Move o notices next → P (h ++ notices) next)
    {inputs : List (Input (Numbered μ))} (distinct : Distinct (arrivals (o.run inputs).2)) :
    P (o.run inputs).2 (o.run inputs).1 := by
  refine Moves.invariant (P := fun h o => Distinct (arrivals h) → P h o) ?_
    (run_moves exclusive inputs) (fun _ => start) distinct
  intro h notices o next H hm distinct
  exact step distinct (H distinct.past) hm

/-- **The invariant holds after every history.** -/
theorem conserved_run {o : Outbox (Numbered μ)} {limit size : ℕ}
    (made : create? limit size = .ok o) {inputs : List (Input (Numbered μ))}
    (distinct : Distinct (arrivals (o.run inputs).2)) :
    Conserved (o.run inputs).2 (o.run inputs).1 := by
  have start := conserved_new made
  exact invariant_run start.exclusive start (fun distinct H hm => H.move distinct hm) distinct

/-! ## What becomes of an accepted message -/

namespace Conserved

variable {h : List (Notice (Numbered μ))} {o : Outbox (Numbered μ)}

/-- What one answer kept out of the queue, another did not. -/
theorem removed_once (H : Conserved h o) {s s' : Shipment (Numbered μ)} (hs : s ∈ shipments h)
    (hs' : s' ∈ shipments h) (ne : s ≠ s') {m : Numbered μ} (hm : m ∈ s.removed) :
    m ∉ s'.removed := by
  have apart : (shipments h).Pairwise fun s s' => ∀ m ∈ s.removed, m ∉ s'.removed := by
    refine List.pairwise_filterMap.2 (H.never_again.imp ?_)
    intro n n' never x hx y hy m hm hm'
    have shipped : n.removed = x.removed := by simp [Notice.removed, hx]
    refine never m (shipped ▸ hm) ?_
    rw [Notice.batch_of_shipment? hy]
    exact Shipment.mem_batch_of_removed hm'
  have symm : Std.Symm fun s s' : Shipment (Numbered μ) => ∀ m ∈ s.removed, m ∉ s'.removed :=
    ⟨fun s s' h m hm' hm => h m hm hm'⟩
  exact apart.forall hs hs' ne m hm

theorem distinct_batch (H : Conserved h o) {s : Shipment (Numbered μ)} (hs : s ∈ shipments h) :
    Distinct s.batch := by
  obtain ⟨n, hn, heq⟩ := List.mem_filterMap.1 hs
  rw [← Notice.batch_of_shipment? heq]
  exact H.batch_distinct n hn

/-- No message is reported delivered by one answer and passed over by another. -/
theorem not_omitted_of_reported (H : Conserved h o) {d : String} {m : Numbered μ}
    (hm : m ∈ reported h d) : m ∉ omitted h d := by
  intro hm'
  obtain ⟨s, hs, confirmed⟩ := List.mem_flatMap.1 hm
  obtain ⟨s', hs', omitted⟩ := List.mem_flatMap.1 hm'
  have shipped := (mem_shipmentsTo.1 hs).1
  by_cases same : s = s'
  · subst same
    exact Shipment.not_omitted_of_confirmed (H.distinct_batch shipped) confirmed omitted
  · exact H.removed_once shipped (mem_shipmentsTo.1 hs').1 same
      (Shipment.mem_removed_of_confirmed confirmed) (List.mem_append_right _ omitted)

/-- An accepted message is outstanding or reported delivered, unless a receipt without
refusals passed over it. -/
theorem accounted_iff (H : Conserved h o) (distinct : Distinct (arrivals h)) {d : String}
    {m : Numbered μ} (hm : m ∈ accepted h d) :
    m ∈ o.outstanding d ∨ m ∈ reported h d ↔ m ∉ omitted h d := by
  have unique : Distinct (accepted h d) := distinct.sublist (accepted_sublist h d)
  rw [H.outstanding_eq d, mem_without, unique.number_mem_iff (H.removed_accepted d) hm,
    mem_removed]
  constructor
  · rintro (⟨-, kept⟩ | said)
    · exact fun omitted => kept (.inr omitted)
    · exact H.not_omitted_of_reported said
  · intro kept
    by_cases said : m ∈ reported h d
    · exact .inr said
    · exact .inl ⟨hm, fun out => out.elim said kept⟩

/-- A message whose batch is answered for is gone for good exactly when the answer keeps it
out of the queue. -/
theorem gone_iff_removed (H : Conserved h o) {f : Flight (Numbered μ)}
    {outer : List (Flight (Numbered μ))} (top : o.flights = f :: outer) {answer : Answer}
    {rest : List (Notice (Numbered μ))} {last : Outbox (Numbered μ)}
    (L : Conserved (h ++ .answered f.destination f.batch answer :: rest) last)
    (distinct : Distinct (arrivals (h ++ .answered f.destination f.batch answer :: rest)))
    {m : Numbered μ} (hm : m ∈ f.batch) :
    ((∀ d, m ∉ last.outstanding d) ∧ ∀ n ∈ rest, m ∉ n.batch) ↔
      m ∈ Shipment.removed ⟨f.destination, f.batch, answer⟩ := by
  constructor
  · rintro ⟨gone, later⟩
    have out := (H.exclusive.batch_sublist_outstanding top).subset hm
    have known : m ∈ accepted (h ++ .answered f.destination f.batch answer :: rest)
        f.destination := by
      rw [accepted_append]
      exact List.mem_append_left _ (H.accepted_of_outstanding out)
    have unique := distinct.sublist (accepted_sublist _ f.destination)
    have taken : m ∈ removed (h ++ .answered f.destination f.batch answer :: rest)
        f.destination := by
      by_contra kept
      refine gone f.destination ?_
      rw [L.outstanding_eq, mem_without, unique.number_mem_iff (L.removed_accepted _) known]
      exact ⟨known, kept⟩
    rw [← List.singleton_append, removed_append, removed_append, removed_answered, if_pos rfl,
      List.mem_append, List.mem_append] at taken
    -- it was not taken out before, as it is still in flight, nor after, as no later batch has it
    rcases taken with before | now | after
    · rw [H.outstanding_eq] at out
      exact absurd (mem_numbers before) (mem_without.1 out).2
    · exact now
    · obtain ⟨s, hs, removed⟩ := List.mem_flatMap.1 after
      obtain ⟨n, hn, shipped⟩ := List.mem_filterMap.1 (mem_shipmentsTo.1 hs).1
      refine absurd ?_ (later n hn)
      rw [Notice.batch_of_shipment? shipped]
      exact Shipment.mem_batch_of_removed removed
  · intro removed
    have answered : Notice.answered f.destination f.batch answer ∈
        h ++ .answered f.destination f.batch answer :: rest := by simp
    refine ⟨L.not_outstanding_of_removed distinct answered removed, fun n hn => ?_⟩
    have never := (List.pairwise_append.1 L.never_again).2.1
    exact (List.pairwise_cons.1 never).1 n hn m removed

end Conserved

/-- Receipts pass over nothing exactly when they are complete. -/
theorem omitted_eq_nil_iff {h : List (Notice μ)} :
    (∀ d, omitted h d = []) ↔ ∀ s ∈ shipments h, s.Complete := by
  simp only [omitted, List.flatMap_eq_nil_iff, Shipment.omitted_eq_nil, mem_shipmentsTo]
  exact ⟨fun h s hs => h s.destination s ⟨hs, rfl⟩, fun h d s hs => h s hs.1⟩

section Numbered

variable {limit size : ℕ} {o : Outbox (Numbered μ)}

/-- In a numbered history no number is accepted twice. -/
theorem distinct_run (made : create? limit size = .ok o) (inputs : List (Input μ)) :
    Distinct (arrivals (o.run (Input.number inputs)).2) :=
  distinct_arrivals (empty_of_create? made).2.1 (Input.distinct_number inputs)

/-- **Which messages are lost.** An accepted message stays in flight or waiting until an
answer reports it delivered, whatever the answers are, unless its batch was answered with a
receipt that refuses nothing and does not list its position either. So nothing is lost in a
history exactly when all receipts without refusals are complete. -/
theorem accounted_iff_not_omitted (made : create? limit size = .ok o)
    (inputs : List (Input μ)) :
    let seen := o.run (Input.number inputs)
    (o.map Numbered.message).run inputs = image Numbered.message seen ∧
    Distinct (arrivals seen.2) ∧
    (∀ d, ∀ m ∈ accepted seen.2 d,
      m ∈ seen.1.outstanding d ∨ m ∈ reported seen.2 d ↔ m ∉ omitted seen.2 d) ∧
    ((∀ d, ∀ m ∈ accepted seen.2 d, m ∈ seen.1.outstanding d ∨ m ∈ reported seen.2 d) ↔
      ∀ s ∈ shipments seen.2, s.Complete) := by
  have distinct := distinct_run made inputs
  have H := conserved_run made distinct
  refine ⟨o.run_number inputs, distinct, fun d m hm => H.accounted_iff distinct hm, ?_⟩
  rw [← omitted_eq_nil_iff]
  constructor
  · intro kept d
    refine List.eq_nil_iff_forall_not_mem.2 fun m omitted => ?_
    have hm := H.removed_accepted d m (mem_removed.2 (.inr omitted))
    exact (H.accounted_iff distinct hm).1 (kept d m hm) omitted
  · intro none d m hm
    exact (H.accounted_iff distinct hm).2 (by simp [none d])

/-- Two equal messages leave in one batch, and the receipt speaks of the first only. -/
def halfConfirmed : List (Input ℕ) :=
  [.start (.send "orders" (.ok 7)), .start (.send "orders" (.ok 7)), .start (.flush "orders"),
    .answer (.ok ⟨[⟨0, "a"⟩], []⟩)]

/-- The second of two equal messages is accounted for nowhere. -/
theorem second_unaccounted :
    create? 10 2 = .ok (double (Numbered ℕ)) ∧
    ⟨1, 7⟩ ∈ accepted ((double (Numbered ℕ)).run (Input.number halfConfirmed)).2 "orders" ∧
    ¬ (⟨1, 7⟩ ∈ ((double (Numbered ℕ)).run (Input.number halfConfirmed)).1.outstanding "orders" ∨
      ⟨1, 7⟩ ∈ reported ((double (Numbered ℕ)).run (Input.number halfConfirmed)).2 "orders") := by
  have made : create? 10 2 = .ok (double (Numbered ℕ)) := rfl
  have queued : ⟨1, 7⟩ ∈
      accepted ((double (Numbered ℕ)).run (Input.number halfConfirmed)).2 "orders" := by decide
  have passed_over : ⟨1, 7⟩ ∈
      omitted ((double (Numbered ℕ)).run (Input.number halfConfirmed)).2 "orders" := by decide
  have exactly := (accounted_iff_not_omitted made halfConfirmed).2.2.1 "orders" ⟨1, 7⟩ queued
  exact ⟨made, queued, fun kept => exactly.1 kept passed_over⟩

/-- An accepted message is lost to a receipt that says nothing. -/
theorem lost_to_silent_receipt :
    let seen := (double (Numbered ℕ)).run (Input.number
      [.start (.send "orders" (.ok 7)), .start (.flush "orders"), .answer (.ok ⟨[], []⟩)])
    accepted seen.2 "orders" = [⟨0, 7⟩] ∧ seen.1.outstanding "orders" = [] ∧
      reported seen.2 "orders" = [] := by
  decide

/-- **Order-preserving conservation.** With complete receipts, what is in flight for a
destination followed by what waits for it is what was accepted for it, in that order, less
exactly what was reported delivered; and nothing reported delivered is handed over again. -/
theorem outstanding_of_complete (made : create? limit size = .ok o) (inputs : List (Input μ))
    (complete : ∀ s ∈ shipments (o.run (Input.number inputs)).2, s.Complete) :
    let seen := o.run (Input.number inputs)
    (o.map Numbered.message).run inputs = image Numbered.message seen ∧
    Distinct (arrivals seen.2) ∧
    (∀ d, seen.1.outstanding d = without (accepted seen.2 d) (reported seen.2 d)) ∧
    seen.2.Pairwise fun earlier later => ∀ m ∈ earlier.confirmed, m ∉ later.batch := by
  have distinct := distinct_run made inputs
  have H := conserved_run made distinct
  have none := omitted_eq_nil_iff.2 complete
  refine ⟨o.run_number inputs, distinct, fun d => ?_, H.never_again.imp ?_⟩
  · rw [H.outstanding_eq d]
    exact without_congr fun m => by rw [mem_removed, none d]; simp
  · intro earlier later never m hm
    refine never m ?_
    cases hs : earlier.shipment? with
    | none => simp [Notice.confirmed, hs] at hm
    | some s =>
      simp only [Notice.confirmed, Notice.removed, hs, Option.elim] at hm ⊢
      exact Shipment.mem_removed_of_confirmed hm

/-- The second of two equal messages is refused while a third is accepted; it goes back
before the third. -/
def halfRefused : List (Input ℕ) :=
  [.start (.send "orders" (.ok 7)), .start (.send "orders" (.ok 7)), .start (.flush "orders"),
    .start (.send "orders" (.ok 8)),
    .answer (.ok ⟨[⟨0, "a"⟩], [⟨1, true, "Rejected", ""⟩]⟩)]

theorem refused_before_later :
    create? 10 2 = .ok (double (Numbered ℕ)) ∧
    (∀ s ∈ shipments ((double (Numbered ℕ)).run (Input.number halfRefused)).2, s.Complete) ∧
    ((double (Numbered ℕ)).run (Input.number halfRefused)).1.outstanding "orders" =
      without [⟨0, 7⟩, ⟨1, 7⟩, ⟨3, 8⟩] [⟨0, 7⟩] := by
  have made : create? 10 2 = .ok (double (Numbered ℕ)) := rfl
  have complete :
      ∀ s ∈ shipments ((double (Numbered ℕ)).run (Input.number halfRefused)).2, s.Complete := by
    decide
  have conserved := (outstanding_of_complete made halfRefused complete).2.2.1 "orders"
  exact ⟨made, complete, conserved⟩

end Numbered

end Outbox

end Dispatch
