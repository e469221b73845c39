import Dispatch.Proofs.Outbox.Attended
import Dispatch.Proofs.Outbox.Flushing
import Dispatch.Proofs.Sqs.Resending

/-!
# Entries answer for their own messages

Entry `i` of a request is the envelope of message `i` of the batch, under the digits of `i`. A
response that lists every entry once, in whatever order and on whichever side, says of each
message what became of it: the positions in the receipt are those of the batch, each with what
the response says of its own entry, and the outbox puts back the messages whose own entries were
refused.

## Main definitions

* `Sqs.Response.Covers`: a response lists every entry of a batch exactly once.
* `Sqs.Response.refusedOf`: the messages whose own entries it refuses.

## Main statements

* `Sqs.Response.Covers.indexes_perm`: the positions of the receipt are those of the batch.
* `Sqs.conversation_of_packed`: the one request that a batch makes, after looking up its address.
* `Sqs.entries_answer_for_messages`: from the batch in flight to what the outbox puts back.
-/
namespace Dispatch.Sqs

open Outbox History

/-! ## Identifiers of a batch -/

theorem map_id_entries (envelopes : List Envelope) :
    (entries envelopes).map (·.id) = (List.range envelopes.length).map entryId := by
  refine List.ext_getElem? fun i => ?_
  rw [List.getElem?_map, getElem?_entries, List.getElem?_map, Option.map_map]
  by_cases inside : i < envelopes.length
  · simp [List.getElem?_eq_getElem inside, List.getElem?_range inside]
  · have outside : envelopes.length ≤ i := Nat.le_of_not_lt inside
    simp [outside]

/-- The identifiers of a batch that is not too large are read back. -/
theorem position?_of_fits {n i : ℕ} (fits : n ≤ batchLimit) (h : i < n) :
    position? (entryId i) = some i := by
  have small : batchLimit ≤ Word.maxUnsigned := by decide
  exact position?_entryId (by omega)

/-! ## Responses that list every entry once -/

/-- The response lists every entry of a batch of `n` messages exactly once, as taken or as
refused. -/
def Response.Covers (response : Response) (n : ℕ) : Prop :=
  (response.successful.map (·.id) ++ response.failed.map (·.id)).Perm ((List.range n).map entryId)

instance (response : Response) (n : ℕ) : Decidable (response.Covers n) :=
  inferInstanceAs (Decidable (List.Perm _ _))

/-- The messages of a batch whose own entries the response refuses, in their order. -/
def Response.refusedOf {μ : Type} (response : Response) (batch : List μ) : List μ :=
  (batch.zipIdx.filter fun entry => response.failed.any (·.id == entryId entry.2)).map (·.1)

namespace Response.Covers

variable {response : Response} {n : ℕ}

/-- Every identifier in the response is that of a position of the batch. -/
theorem exists_position (h : response.Covers n) {id : String}
    (listed : id ∈ response.successful.map (·.id) ∨ id ∈ response.failed.map (·.id)) :
    ∃ i < n, id = entryId i := by
  have among := h.mem_iff.1 (List.mem_append.2 listed)
  obtain ⟨i, hi, same⟩ := List.mem_map.1 among
  exact ⟨i, List.mem_range.1 hi, same.symm⟩

theorem readable (h : response.Covers n) (fits : n ≤ batchLimit) : response.Readable := by
  constructor
  · intro a ha
    obtain ⟨i, hi, same⟩ := h.exists_position (.inl (List.mem_map_of_mem ha))
    rw [same, position?_of_fits fits hi]
    rfl
  · intro r hr
    obtain ⟨i, hi, same⟩ := h.exists_position (.inr (List.mem_map_of_mem hr))
    rw [same, position?_of_fits fits hi]
    rfl

/-- Only the identifier of a position stands for it. -/
theorem position_eq_iff (h : response.Covers n) (fits : n ≤ batchLimit) {id : String}
    (listed : id ∈ response.successful.map (·.id) ∨ id ∈ response.failed.map (·.id)) {i : ℕ}
    (hi : i < n) : (position? id).getD 0 = i ↔ id = entryId i := by
  obtain ⟨j, hj, rfl⟩ := h.exists_position listed
  rw [position?_of_fits fits hj, Option.getD_some]
  constructor
  · rintro rfl
    rfl
  · intro same
    have read := position?_of_fits fits hj
    rw [same, position?_of_fits fits hi] at read
    exact (Option.some.inj read).symm

/-- **The positions of the receipt are those of the batch**, each of them once. -/
theorem indexes_perm (h : response.Covers n) (fits : n ≤ batchLimit) :
    ((response.successful.map Accepted.delivery).map (·.index) ++
      (response.failed.map Rejected.refusal).map (·.index)).Perm (List.range n) := by
  have read := h.map fun id => (position? id).getD 0
  have positions : ((List.range n).map entryId).map (fun id => (position? id).getD 0) =
      (List.range n).map id := by
    rw [List.map_map]
    refine List.map_congr_left fun i hi => ?_
    rw [Function.comp_apply, position?_of_fits fits (List.mem_range.1 hi)]
    rfl
  rw [positions, List.map_id, List.map_append] at read
  simpa [List.map_map, Function.comp_def, Accepted.delivery, Rejected.refusal] using read

/-- A position is delivered with the identifier of the message in its own entry. -/
theorem mem_delivered_iff (h : response.Covers n) (fits : n ≤ batchLimit) {i : ℕ} (hi : i < n)
    {messageId : String} :
    ⟨i, messageId⟩ ∈ response.successful.map Accepted.delivery ↔
      ⟨entryId i, messageId⟩ ∈ response.successful := by
  constructor
  · intro delivered
    obtain ⟨a, ha, same⟩ := List.mem_map.1 delivered
    obtain ⟨index, rfl⟩ := Delivery.mk.inj same
    rw [← (h.position_eq_iff fits (.inl (List.mem_map_of_mem ha)) hi).1 index]
    exact ha
  · intro taken
    have index := position?_of_fits fits hi
    exact List.mem_map.2 ⟨_, taken, by simp [Accepted.delivery, index]⟩

/-- A position is refused with the fault, the code and the message in its own entry. -/
theorem mem_refused_iff (h : response.Covers n) (fits : n ≤ batchLimit) {i : ℕ} (hi : i < n)
    {fault : Bool} {code text : String} :
    ⟨i, fault, code, text⟩ ∈ response.failed.map Rejected.refusal ↔
      ∃ message, ⟨entryId i, fault, code, message⟩ ∈ response.failed ∧
        message.getD "" = text := by
  constructor
  · intro refused
    obtain ⟨r, hr, same⟩ := List.mem_map.1 refused
    obtain ⟨index, rfl, rfl, rfl⟩ := Refusal.mk.inj same
    rw [← (h.position_eq_iff fits (.inr (List.mem_map_of_mem hr)) hi).1 index]
    exact ⟨r.message, hr, rfl⟩
  · rintro ⟨message, listed, rfl⟩
    have index := position?_of_fits fits hi
    exact List.mem_map.2 ⟨_, listed, by simp [Rejected.refusal, index]⟩

/-- A position is reported exactly if its own entry was not refused. -/
theorem reports_eq (h : response.Covers n) (fits : n ≤ batchLimit) {i : ℕ} (hi : i < n)
    {r : Receipt} (read : receipt response = .ok r) :
    r.reports i = !response.failed.any (·.id == entryId i) := by
  obtain ⟨-, rfl⟩ := receipt_eq_ok_iff.1 read
  have perm := h.indexes_perm fits
  have once := perm.nodup_iff.2 List.nodup_range
  have among := perm.mem_iff.2 (List.mem_range.2 hi)
  rw [List.nodup_append] at once
  rw [List.mem_append] at among
  have reported : Receipt.reports ⟨response.successful.map Accepted.delivery,
      response.failed.map Rejected.refusal⟩ i = true ↔
        i ∈ (response.successful.map Accepted.delivery).map (·.index) := by
    simp [Receipt.reports]
  have refused : response.failed.any (·.id == entryId i) = true ↔
      i ∈ (response.failed.map Rejected.refusal).map (·.index) := by
    simp only [List.any_eq_true, beq_iff_eq, List.mem_map]
    constructor
    · rintro ⟨r, hr, same⟩
      exact ⟨r.refusal, ⟨r, hr, rfl⟩,
        (h.position_eq_iff fits (.inr (List.mem_map_of_mem hr)) hi).2 same⟩
    · rintro ⟨_, ⟨r, hr, rfl⟩, index⟩
      exact ⟨r, hr, (h.position_eq_iff fits (.inr (List.mem_map_of_mem hr)) hi).1 index⟩
  rw [Bool.eq_iff_iff, reported, Bool.not_eq_true', ← Bool.not_eq_true, refused]
  constructor
  · intro delivered again
    exact once.2.2 i delivered i again rfl
  · exact fun kept => among.resolve_right kept

/-- **What goes back to the queue** are the messages whose own entries were refused. -/
theorem left_eq (h : response.Covers n) (fits : n ≤ batchLimit) {r : Receipt}
    (read : receipt response = .ok r) {μ : Type} {batch : List μ} (all : batch.length = n)
    (destination : String) :
    Shipment.left ⟨destination, batch, .ok r⟩ = response.refusedOf batch := by
  have undelivered : r.undelivered batch = response.refusedOf batch := by
    rw [Receipt.undelivered_eq_filter, Response.refusedOf]
    congr 1
    refine List.filter_congr fun entry he => ?_
    obtain ⟨inside, -⟩ := List.getElem?_eq_some_iff.1 (List.mem_zipIdx_iff_getElem?.1 he)
    rw [h.reports_eq fits (all ▸ inside) read, Bool.not_not]
  simp only [Shipment.left, undelivered]
  split
  · next clean =>
    obtain ⟨-, rfl⟩ := receipt_eq_ok_iff.1 read
    have none : response.failed = [] := List.map_eq_nil_iff.1 clean
    simp [Response.refusedOf, none]
  · rfl

end Response.Covers

/-! ## The request for a batch -/

variable {ε : Type} {service : Service ε}

/-- Looking up an address asks for nothing else. -/
theorem request_of_resolve {directory : Directory} {destination : String} {state : ε} {x : Heard}
    (h : x ∈ (resolve directory destination).talk service state) :
    x.request = .getQueueUrl destination := by
  revert h
  simp only [resolve]
  split
  · simp
  · split
    · simp
    · simp only [Exchange.talk]
      intro h
      rcases List.mem_cons.1 h with rfl | h
      · rfl
      · revert h
        split <;> simp

/-- A post is one request. -/
theorem talk_post (service : Service ε) (destination url : String) (envelopes : List Envelope)
    (state : ε) :
    ∃ reply, (post destination url envelopes).talk service state =
      [⟨.sendMessageBatch url (entries envelopes), reply⟩] := by
  refine ⟨(service.reply (.sendMessageBatch url (entries envelopes)) state).1, ?_⟩
  simp only [post, Exchange.talk]
  split <;> simp

/-- The entries of a batch in envelopes: one for each message, with the digits of its position and
its envelope. -/
theorem entries_of_packed {destination : String} {stamps : ℕ → Stamp} {messages : List Message}
    {envelopes : List Envelope}
    (packed : Envelope.packAll destination stamps messages = .ok envelopes) :
    (entries envelopes).length = messages.length ∧
      ∀ i message, messages[i]? = some message → ∃ envelope,
        Envelope.pack destination message (stamps i) = .ok envelope ∧
          (entries envelopes)[i]? = some ⟨toString i, envelope⟩ := by
  obtain ⟨same_length, each⟩ := Envelope.packAll_spec packed
  refine ⟨?_, fun i message listed => ?_⟩
  · have ids := congrArg List.length (map_id_entries envelopes)
    simpa [same_length] using ids
  · obtain ⟨envelope, found, envelope_eq⟩ := each i message listed
    exact ⟨envelope, envelope_eq, by rw [getElem?_entries, found]; rfl⟩

/-- **A batch that can be put into envelopes makes one request**, once its address is known: it
has one entry for each message, with the digits of its position and its envelope. -/
theorem conversation_of_packed {destination url : String} {messages : List Message}
    {session : Session ε} (some_message : messages ≠ []) (fits : messages.length ≤ batchLimit)
    {envelopes : List Envelope}
    (packed : Envelope.packAll destination (service.stamps session.world).1 messages =
      .ok envelopes)
    (found : (queueUrl service destination
      ⟨session.directory, (service.stamps session.world).2⟩).1 = .ok url) :
    ∃ lookups posted reply, conversation service destination messages session =
        lookups ++ [⟨.sendMessageBatch url posted, reply⟩] ∧
      (∀ x ∈ lookups, x.request = .getQueueUrl destination) ∧
      posted.length = messages.length ∧
      ∀ i message, messages[i]? = some message → ∃ envelope,
        Envelope.pack destination message ((service.stamps session.world).1 i) = .ok envelope ∧
          posted[i]? = some ⟨toString i, envelope⟩ := by
  have not_empty : messages.isEmpty = false := by simpa using some_message
  have address : ((resolve session.directory destination).run service
      (service.stamps session.world).2).1.1 = .ok url := found
  obtain ⟨reply, spoken⟩ : ∃ reply, conversation service destination messages session =
      (resolve session.directory destination).talk service (service.stamps session.world).2 ++
        [⟨.sendMessageBatch url (entries envelopes), reply⟩] := by
    simp only [conversation, submit, not_empty, Nat.not_lt.2 fits, packed, Bool.false_eq_true,
      if_false, Exchange.talk_andThen]
    generalize (resolve session.directory destination).run service
      (service.stamps session.world).2 = result at address
    obtain ⟨⟨looked_up, directory⟩, world⟩ := result
    obtain rfl : looked_up = .ok url := address
    obtain ⟨reply, asked⟩ := talk_post service destination url envelopes world
    exact ⟨reply, by simp [Exchange.talk_andThen, asked]⟩
  obtain ⟨same_length, each⟩ := entries_of_packed packed
  exact ⟨_, entries envelopes, reply, spoken, fun x hx => request_of_resolve hx, same_length, each⟩

/-! ## A batch in flight -/

/-- An answer that covers the batch puts back the messages whose own entries were refused, before
those that wait. Its flush is over then; without such an entry the batch counts as delivered. -/
theorem Response.Covers.answered {μ : Type} {o : Outbox μ} (sound : o.Sound) {f : Flight μ}
    {outer : List (Flight μ)} (top : o.flights = f :: outer) {response : Response}
    (h : response.Covers f.batch.length) (fits : f.batch.length ≤ batchLimit) {r : Receipt}
    (read : receipt response = .ok r) :
    let next := o.step (.answer (.ok r))
    ∃ rest, next.2 = .answered f.destination f.batch (.ok r) :: rest ∧
      next.1.outstanding f.destination =
        response.refusedOf f.batch ++ o.queue f.destination ++ accepted rest f.destination ∧
      (response.failed ≠ [] → next.1.isBusy f.destination = false ∧
        next.1.queue f.destination = response.refusedOf f.batch ++ o.queue f.destination) ∧
      (response.failed = [] → response.refusedOf f.batch = [] ∧
        .event ⟨.debug, LogLine.delivered f.destination f.batch.length⟩ ∈ rest) := by
  intro next
  let rest := (({ o with flights := outer } : Outbox μ).land f (.ok r)).2
  have notices : next.2 = .answered f.destination f.batch (.ok r) :: rest := by
    simp [next, step, settle, top, rest]
  have left := h.left_eq fits read rfl f.destination
  have refused : r.refused = [] ↔ response.failed = [] := by
    obtain ⟨-, rfl⟩ := receipt_eq_ok_iff.1 read
    exact List.map_eq_nil_iff
  refine ⟨rest, notices, ?_, ?_, ?_⟩
  · have outstanding := outstanding_step sound.exclusive (.answer (.ok r)) f.destination
    have back := sound.exclusive.outstanding_reclaim top (.ok r)
    have noted : o.noted (.answer (.ok r)) =
        ({ o with flights := outer } : Outbox μ).reclaim f (.ok r) := by simp only [noted, top]
    have silent : accepted next.2 f.destination = accepted rest f.destination := by
      rw [notices]
      rfl
    rw [noted, back, left, silent] at outstanding
    exact outstanding
  · intro some_refused
    rw [← left]
    refine failed_step sound top ?_
    rintro _ ⟨rfl⟩
    exact mt refused.1 some_refused
  · intro none
    have clean : r.refused = [] := refused.2 none
    exact ⟨by simp [Response.refusedOf, none], by simp [rest, land, clean]⟩

variable {size : ℕ} {o : Outbox Message}

/-- **Entries answer for their own messages, from end to end.** At any moment of an outbox over the
queue service, its latest batch has messages, and no more than a batch may have. If they can be put
into envelopes and the address is known, exactly one request is made: entry `i` is the envelope of
message `i`, under the digits of `i`. If the response lists each identifier once, the positions of
its receipt are those of the batch, each with what the response says of its own entry; the messages
whose own entries were refused are put back, in the order of the batch, before those that wait;
without such an entry the batch counts as delivered. -/
theorem entries_answer_for_messages (made : create? (carrier service).limit size = .ok o)
    (session : Session ε) (before : List (Turn Message)) {f : Flight Message}
    {outer : List (Flight Message)}
    (top : (hosted (carrier service) before o session).1.flights = f :: outer) :
    let past := hosted (carrier service) before o session
    let next := hosted (carrier service) (before ++ [.answer]) o session
    let stamps := service.stamps past.2.2.world
    let spoken := conversation service f.destination f.batch past.2.2
    (f.batch ≠ [] ∧ f.batch.length ≤ batchLimit) ∧
    (∀ envelopes url, Envelope.packAll f.destination stamps.1 f.batch = .ok envelopes →
      (queueUrl service f.destination ⟨past.2.2.directory, stamps.2⟩).1 = .ok url →
      ∃ lookups posted reply, spoken = lookups ++ [⟨.sendMessageBatch url posted, reply⟩] ∧
        (∀ x ∈ lookups, x.request = .getQueueUrl f.destination) ∧
        posted.length = f.batch.length ∧
        ∀ i message, f.batch[i]? = some message → ∃ envelope,
          Envelope.pack f.destination message (stamps.1 i) = .ok envelope ∧
            posted[i]? = some ⟨toString i, envelope⟩) ∧
    ∀ url posted response, ⟨.sendMessageBatch url posted, .ok response⟩ ∈ spoken →
      (response.successful.map (·.id) ++ response.failed.map (·.id)).Perm (posted.map (·.id)) →
      ∃ receipt rest,
        next.2.1 = past.2.1 ++ .answered f.destination f.batch (.ok receipt) :: rest ∧
        (receipt.delivered.map (·.index) ++ receipt.refused.map (·.index)).Perm
          (List.range f.batch.length) ∧
        (∀ i < f.batch.length, ∀ messageId,
          ⟨i, messageId⟩ ∈ receipt.delivered ↔
            ⟨toString i, messageId⟩ ∈ response.successful) ∧
        (∀ i < f.batch.length, ∀ fault code text,
          ⟨i, fault, code, text⟩ ∈ receipt.refused ↔
            ∃ message, ⟨toString i, fault, code, message⟩ ∈ response.failed ∧
              message.getD "" = text) ∧
        next.1.outstanding f.destination = response.refusedOf f.batch ++
          past.1.queue f.destination ++ accepted rest f.destination ∧
        (response.failed ≠ [] → next.1.isBusy f.destination = false ∧
          next.1.queue f.destination =
            response.refusedOf f.batch ++ past.1.queue f.destination) ∧
        (response.failed = [] → response.refusedOf f.batch = [] ∧
          .event ⟨.debug, LogLine.delivered f.destination f.batch.length⟩ ∈ rest) := by
  intro past next stamps spoken
  have sound : past.1.Sound := (sound_new made).run _
  have loaded := sound.loaded f (by simp [past, top])
  have fits : f.batch.length ≤ batchLimit := by
    obtain ⟨size_eq, allowed⟩ := batchSize_of_create? made
    have kept : past.1.batchSize = o.batchSize := batchSize_run (sound_new made) _
    rw [kept, size_eq] at loaded
    exact Nat.le_trans loaded.2 allowed
  refine ⟨⟨loaded.1, fits⟩, fun envelopes url packed found =>
    conversation_of_packed loaded.1 fits packed found, ?_⟩
  intro url posted response heard once
  obtain ⟨-, ⟨envelopes, packed, rfl⟩, answer_eq⟩ := heard_of_submit heard
  have covers : response.Covers f.batch.length := by
    rwa [map_id_entries, (Envelope.packAll_spec packed).1] at once
  let receipt : Receipt :=
    ⟨response.successful.map Accepted.delivery, response.failed.map Rejected.refusal⟩
  have read : Sqs.receipt response = .ok receipt :=
    receipt_eq_ok_iff.2 ⟨covers.readable fits, rfl⟩
  have said : ((carrier service).sendBatch f.destination f.batch past.2.2).1 = .ok receipt :=
    answer_eq.trans read
  have turn : next = ((past.1.step (.answer (.ok receipt))).1,
      past.2.1 ++ (past.1.step (.answer (.ok receipt))).2,
      ((carrier service).sendBatch f.destination f.batch past.2.2).2) := by
    rw [← said]
    exact hosted_answer (carrier service) top
  obtain ⟨rest, notices, outstanding, ended, delivered⟩ := covers.answered sound top fits read
  rw [turn]
  exact ⟨receipt, rest, by rw [notices], covers.indexes_perm fits,
    fun i hi messageId => covers.mem_delivered_iff fits hi,
    fun i hi fault code text => covers.mem_refused_iff fits hi, outstanding, ended, delivered⟩

/-- Two different messages are sent, and their queue is flushed. -/
def nullAndTrue : List (Turn Message) :=
  [.start (.send "https://q" (.ok ⟨.null, ∅⟩)),
    .start (.send "https://q" (.ok ⟨.bool true, ∅⟩)), .start (.flush "https://q")]

/-- The first entry was refused; the second was taken, and stands before it. -/
def firstRefused : Response := ⟨[⟨"1", "b"⟩], [⟨"0", true, "Rejected", some "no"⟩]⟩

/-- The message of the first entry is put back, though the response speaks of it last. -/
theorem first_put_back :
    create? batchLimit 2 = .ok (double Message) ∧
    (∃ posted, ⟨.sendMessageBatch "https://q" posted, .ok firstRefused⟩ ∈
      conversation (constant firstRefused) "https://q" [⟨.null, ∅⟩, ⟨.bool true, ∅⟩] ⟨∅, ()⟩ ∧
      (firstRefused.successful.map (·.id) ++ firstRefused.failed.map (·.id)).Perm
        (posted.map (·.id))) ∧
    (hosted (carrier (constant firstRefused)) (nullAndTrue ++ [.answer]) (double Message)
      ⟨∅, ()⟩).1.queue "https://q" = [⟨.null, ∅⟩] := by
  have made : create? batchLimit 2 = .ok (double Message) := rfl
  have top : (hosted (carrier (constant firstRefused)) nullAndTrue (double Message)
      ⟨∅, ()⟩).1.flights =
        [⟨"https://q", [⟨.null, ∅⟩, ⟨.bool true, ∅⟩], .empty, .flush⟩] := rfl
  have said : ∃ posted, ⟨.sendMessageBatch "https://q" posted, .ok firstRefused⟩ ∈
      conversation (constant firstRefused) "https://q" [⟨.null, ∅⟩, ⟨.bool true, ∅⟩] ⟨∅, ()⟩ ∧
      (firstRefused.successful.map (·.id) ++ firstRefused.failed.map (·.id)).Perm
        (posted.map (·.id)) := ⟨_, List.mem_singleton.2 rfl, by decide⟩
  refine ⟨made, said, ?_⟩
  obtain ⟨posted, heard, once⟩ := said
  obtain ⟨-, -, answered⟩ := entries_answer_for_messages made ⟨∅, ()⟩ nullAndTrue top
  obtain ⟨_, _, -, -, -, -, -, ended, -⟩ := answered "https://q" posted firstRefused heard once
  exact (ended (by simp [firstRefused])).2

end Dispatch.Sqs
