import Dispatch.Proofs.Outbox.Batches
import Dispatch.Proofs.Outbox.Stuck
import Dispatch.Proofs.Sqs.Addresses

/-!
# A message without its FIFO texts holds up its destination

A FIFO destination needs two texts of every message. A message without them is accepted all the
same, since it is put into its envelope only when its batch is sent. Then the batch is refused as a
whole, before anything is asked for, and goes back to its queue, where the message is in the next
batch again (`Outbox.Stuck`).

## Main definitions

* `Message.Misfit`: a message without one of the two texts.

## Main statements

* `Sqs.submit_of_misfit`: a batch with a misfit is refused.
* `Sqs.misfit_holds_up_destination`: what becomes of a destination that has accepted one.
* `Sqs.misfit_behind_returned_batch`: why that needs operations one after the other.
-/
namespace Dispatch

open History Envelope

/-- A message lacks a text that FIFO destinations ask for: it is absent, null or empty. -/
def Message.Misfit (message : Message) : Prop :=
  message.attributes.Unusable AttributeName.deduplicationId ∨
    message.attributes.Unusable AttributeName.groupId

namespace Sqs

variable {ε : Type} {service : Service ε} {d : String} {m : Message}

/-- A batch with a misfit is refused without a request. -/
theorem submit_of_misfit (fifo : ∃ front, d = front ++ "fifo") (misfit : m.Misfit)
    {messages : List Message} (among : m ∈ messages) (few : messages.length ≤ batchLimit)
    (directory : Directory) (stamps : ℕ → Stamp) :
    submit directory stamps d messages =
      .done (.error (.invalid (.fifoFieldsMissing d)), directory) := by
  rcases refuses_or_packs directory stamps d messages with ⟨answer, submitted, refused, -⟩ |
    ⟨envelopes, packed, -⟩
  · rw [submitted]
    cases refused with
    | none => cases among
    | many many => exact absurd few (Nat.not_le.2 many)
    | invalid few packs fails => rw [(pack_eq_error_iff.1 fails).2]
  · obtain ⟨i, listed⟩ := List.mem_iff_getElem?.1 among
    obtain ⟨envelope, fits⟩ := allPack_of_packAll packed i m listed
    rw [pack_eq_error_iff.2 ⟨⟨fifo, misfit⟩, rfl⟩] at fits
    cases fits

/-- What was said since, and nothing of it for a destination. -/
def Ledger.SilentOn (d : String) (book : List Said) (ledger : Ledger ε) : Prop :=
  ∃ new, ledger.book = book ++ new ∧
    ∀ said ∈ new, said.destination ≠ d ∧ said.heard.request ≠ .getQueueUrl d

theorem answer_of_misfit (service : Service ε) (fifo : ∃ front, d = front ++ "fifo")
    (misfit : m.Misfit) {messages : List Message} (among : m ∈ messages)
    (few : messages.length ≤ batchLimit) (ledger : Ledger ε) :
    let sent := (recording service).sendBatch d messages ledger
    sent.1 = .error (.invalid (.fifoFieldsMissing d)) ∧ sent.2.book = ledger.book := by
  simp [recording, carrier, conversation, submit_of_misfit fifo misfit among few, Ledger.note]

/-- What is sent to another destination is not said for this one. -/
theorem Ledger.SilentOn.sendBatch {book : List Said} {ledger : Ledger ε}
    (silent : ledger.SilentOn d book) {d' : String} (other : d' ≠ d) (messages : List Message) :
    ((recording service).sendBatch d' messages ledger).2.SilentOn d book := by
  obtain ⟨new, grown, quiet⟩ := silent
  refine ⟨new ++ (conversation service d' messages ledger.session).map fun h => ⟨d', h⟩, ?_, ?_⟩
  · rw [← List.append_assoc, ← grown]
    rfl
  · intro said among
    rcases List.mem_append.1 among with before | now
    · exact quiet said before
    · obtain ⟨h, heard, rfl⟩ := List.mem_map.1 now
      refine ⟨other, fun asked => other ?_⟩
      have talks := submit_talks service ledger.session.directory
        (service.stamps ledger.session.world).1 d' messages (service.stamps ledger.session.world).2
      exact (talks.eq_of_asked heard asked).symm

/-- The carrier fails every batch with a misfit, and says nothing for its destination. -/
theorem recording_fails (service : Service ε) (fifo : ∃ front, d = front ++ "fifo")
    (misfit : m.Misfit) {size : ℕ} (small : size ≤ batchLimit) (book : List Said) :
    Outbox.Fails (recording service) d m size (.invalid (.fifoFieldsMissing d))
      (Ledger.SilentOn d book) := by
  refine ⟨fun batch ledger _ among few => ?_, fun d' batch ledger silent here => ?_⟩
  · exact (answer_of_misfit service fifo misfit among (Nat.le_trans few small) ledger).1
  · by_cases same : d' = d
    · obtain ⟨among, few⟩ := here same
      subst same
      have said := (answer_of_misfit service fifo misfit among (Nat.le_trans few small) ledger).2
      obtain ⟨new, grown, quiet⟩ := silent
      exact ⟨new, said.trans grown, quiet⟩
    · exact silent.sendBatch same batch

/-- **A misfit holds up its destination, and nothing is lost.** Take a new outbox over the queue
service and operations carried out one after the other, by which a message without its FIFO texts
was accepted for a FIFO destination. Whatever operations follow, nothing is asked for on behalf of
the destination, neither its address nor that a batch is taken, and every flush of it fails with the
same validation error, those of several destinations included. Its queue has all that it had, and
behind this all that was accepted since, no more than a batch. A flush of the destination at any
time gives that error and leaves the outbox exactly as it was, and so does a message for a full
queue, which is refused with some error. If operations are started while batches of others are in
flight, still nothing is asked for, and what is outstanding only grows at its end. -/
theorem misfit_holds_up_destination (service : Service ε) {o : Outbox Message}
    (made : o.Made (carrier service).limit) (ledger : Ledger ε) (before : List (Operation Message))
    (fifo : ∃ front, d = front ++ "fifo") (misfit : m.Misfit)
    (joined : m ∈ accepted (Outbox.performAll (recording service) before o ledger).2.1 d) :
    let now := Outbox.performAll (recording service) before o ledger
    let refusal : Error := .invalid (.fifoFieldsMissing d)
    Outbox.performAll (carrier service) before o ledger.session =
      (now.1, now.2.1, now.2.2.session) ∧
    (∀ after : List (Operation Message),
      let seen := Outbox.performAll (recording service) after now.1 now.2.2
      Outbox.performAll (carrier service) after now.1 now.2.2.session =
        (seen.1, seen.2.1, seen.2.2.session) ∧
      seen.2.2.SilentOn d now.2.2.book ∧
      (∀ s ∈ shipmentsTo seen.2.1 d, s.answer = .error refusal) ∧
      seen.1.queue d = now.1.queue d ++ accepted seen.2.1 d ∧ seen.1.pending d ≤ o.batchSize ∧
      (let flush := Outbox.perform (recording service) (.flush d) seen.1 seen.2.2
       flush.1 = seen.1 ∧ flush.2.1.getLast? = some (.finished (.error refusal))) ∧
      (seen.1.fill d = .atCapacity → ∀ message,
        let send := Outbox.perform (recording service) (.send d message) seen.1 seen.2.2
        send.1 = seen.1 ∧ ∃ e, send.2.1.getLast? = some (.finished (.error e)))) ∧
    ∀ turns : List (Turn Message),
      let seen := Outbox.hosted (recording service) turns now.1 now.2.2
      seen.2.2.SilentOn d now.2.2.book ∧
      (∀ s ∈ shipmentsTo seen.2.1 d, s.answer = .error refusal) ∧
      seen.1.outstanding d = now.1.queue d ++ accepted seen.2.1 d := by
  intro now refusal
  obtain ⟨-, small⟩ := made.bounds
  obtain ⟨size, created⟩ := made.create
  obtain ⟨rest, tight, same_size⟩ := Outbox.performAll_rests (c := recording service)
    (Outbox.resting_new created) (Outbox.tight_new created) before ledger
  have always : Outbox.Fails (recording service) d m o.batchSize refusal fun _ => True := by
    refine ⟨fun batch state _ among few => ?_, fun _ _ _ _ _ => trivial⟩
    exact (answer_of_misfit service fifo misfit among (Nat.le_trans few small) state).1
  have stuck : now.1.Stuck d m := Outbox.stuck_of_accepted always
    (Outbox.resting_new created) (Outbox.tight_new created) joined
  have fails : Outbox.Fails (recording service) d m now.1.batchSize refusal
      (Ledger.SilentOn d now.2.2.book) :=
    recording_fails service fifo misfit (same_size ▸ small) now.2.2.book
  have silent : now.2.2.SilentOn d now.2.2.book :=
    ⟨[], (List.append_nil _).symm, fun said among => by cases among⟩
  have onward (turns : List (Turn Message)) :=
    Outbox.hosted_stuck fails rest.sound stuck silent turns
  refine ⟨performAll_recording service before o ledger, ?_, ?_⟩
  · intro after seen
    obtain ⟨turns, hosted⟩ := Outbox.performAll_eq_hosted (recording service) after now.1 now.2.2
    obtain ⟨still, quiet, grows, answers⟩ := onward turns
    rw [← hosted] at still quiet grows answers
    obtain ⟨rest', tight', same_size'⟩ :=
      Outbox.performAll_rests (c := recording service) rest tight after now.2.2
    have fails' : Outbox.Fails (recording service) d m seen.1.batchSize refusal
        (Ledger.SilentOn d now.2.2.book) := same_size'.symm ▸ fails
    rw [rest'.outstanding, rest.outstanding] at grows
    have bound := Outbox.pending_le_of_tight rest' tight' d
    rw [same_size', same_size] at bound
    refine ⟨performAll_recording service after now.1 now.2.2, quiet, answers, grows, bound, ?_, ?_⟩
    · exact Outbox.perform_flush_of_stuck fails' rest' still quiet
    · exact fun full message => Outbox.perform_send_of_stuck fails' rest' still quiet full message
  · intro turns seen
    obtain ⟨-, quiet, grows, answers⟩ := onward turns
    rw [rest.outstanding] at grows
    exact ⟨quiet, answers, grows⟩

/-- A message without attributes waits for a FIFO destination, and batches have one message. -/
def bareWaits : Outbox Message × List (Notice Message) × Ledger Unit :=
  Outbox.performAll (recording (constant secondRefused)) [.send "orders.fifo" (.ok ⟨.null, ∅⟩)]
    (Outbox.single Message) ⟨⟨∅, ()⟩, []⟩

/-- It cannot be flushed, and no other message is taken. -/
theorem bare_message_holds_up_orders :
    let c := recording (constant secondRefused)
    let refusal : Error := .invalid (.fifoFieldsMissing "orders.fifo")
    let flush := Outbox.perform c (.flush "orders.fifo") bareWaits.1 bareWaits.2.2
    let send := Outbox.perform c (.send "orders.fifo" (.ok ⟨.null, ∅⟩)) bareWaits.1 bareWaits.2.2
    Message.Misfit ⟨.null, ∅⟩ ∧ accepted bareWaits.2.1 "orders.fifo" = [⟨.null, ∅⟩] ∧
      flush.1 = bareWaits.1 ∧ flush.2.1.getLast? = some (.finished (.error refusal)) ∧
      flush.2.2.SilentOn "orders.fifo" bareWaits.2.2.book ∧ send.1 = bareWaits.1 := by
  intro c refusal flush send
  have made : (Outbox.single Message).Made (carrier (constant secondRefused)).limit :=
    .inl ⟨1, rfl⟩
  have misfit : Message.Misfit ⟨.null, ∅⟩ := .inl (.absent rfl)
  have listed : accepted bareWaits.2.1 "orders.fifo" = [⟨.null, ∅⟩] := rfl
  have joined : ⟨.null, ∅⟩ ∈ accepted bareWaits.2.1 "orders.fifo" :=
    listed ▸ List.mem_singleton_self _
  obtain ⟨-, each, -⟩ := misfit_holds_up_destination (constant secondRefused) made ⟨⟨∅, ()⟩, []⟩
    [.send "orders.fifo" (.ok ⟨.null, ∅⟩)] ⟨"orders.", rfl⟩ misfit joined
  obtain ⟨-, -, -, -, -, ⟨same, failed⟩, full⟩ := each []
  obtain ⟨-, silent, -⟩ := each [.flush "orders.fifo"]
  exact ⟨misfit, listed, same, failed, silent, (full rfl (.ok ⟨.null, ∅⟩)).1⟩

/-- A message without attributes is accepted while one with both texts is in flight to the same
destination; then the service cannot be reached. Batches have one message. -/
def bareBehind : Outbox Message × List (Notice Message) ×
    Ledger (List (Except Fault (Option String))) :=
  Outbox.hosted (recording scripted)
    [.start (.send "https://q.fifo" (.ok withTexts)), .start (.flush "https://q.fifo"),
      .start (.send "https://q.fifo" (.ok ⟨.null, ∅⟩)), .answer]
    (Outbox.single Message) ⟨⟨∅, []⟩, []⟩

/-- **A misfit that joins behind a batch in flight need not hold up its destination.** The batch
comes back before it, so more than a batch waits, and the next flush posts a batch without the
misfit. That flush fails too, but not because a message is not valid. -/
theorem misfit_behind_returned_batch :
    let flush :=
      Outbox.perform (recording scripted) (.flush "https://q.fifo") bareBehind.1 bareBehind.2.2
    (Outbox.single Message).Made (carrier scripted).limit ∧
      (∃ front, "https://q.fifo" = front ++ "fifo") ∧ Message.Misfit ⟨.null, ∅⟩ ∧
      ⟨.null, ∅⟩ ∈ accepted bareBehind.2.1 "https://q.fifo" ∧
      bareBehind.1.queue "https://q.fifo" = [withTexts, ⟨.null, ∅⟩] ∧
      ¬bareBehind.1.pending "https://q.fifo" ≤ bareBehind.1.batchSize ∧
      (∃ posted, flush.2.2.book = bareBehind.2.2.book ++
        [⟨"https://q.fifo", ⟨.sendMessageBatch "https://q.fifo" posted, .error .dispatch⟩⟩]) ∧
      ¬flush.2.2.SilentOn "https://q.fifo" bareBehind.2.2.book ∧
      flush.2.1.getLast? = some (.finished (.error
        (.remote (.sendMessageBatch "https://q.fifo" 1) "dispatch failure"))) := by
  intro flush
  have accepts : accepted bareBehind.2.1 "https://q.fifo" = [withTexts, ⟨.null, ∅⟩] := rfl
  have many : ¬bareBehind.1.pending "https://q.fifo" ≤ bareBehind.1.batchSize := by
    decide +kernel
  have posts : ∃ posted, flush.2.2.book = bareBehind.2.2.book ++
      [⟨"https://q.fifo", ⟨.sendMessageBatch "https://q.fifo" posted, .error .dispatch⟩⟩] :=
    ⟨_, rfl⟩
  refine ⟨.inl ⟨1, rfl⟩, ⟨"https://q.", rfl⟩, .inl (.absent rfl), ?_, rfl, many, posts, ?_, rfl⟩
  · rw [accepts]
    exact List.mem_cons_of_mem _ (List.mem_singleton_self _)
  · rintro ⟨new, grown, quiet⟩
    obtain ⟨posted, book⟩ := posts
    obtain rfl := List.append_cancel_left (grown.symm.trans book)
    exact (quiet _ (List.mem_singleton_self _)).1 rfl

end Sqs

end Dispatch
