import Dispatch.Proofs.Outbox.Batches
import Dispatch.Proofs.Sqs.Resending
import Mathlib.Logic.Function.Iterate

/-!
# Batches that the queue service can take

The carrier of the queue service answers at once for a batch without messages, and refuses one with
too many. An outbox that was made for it, however often it is shared, never gets there: every batch
that it hands over goes on to be put into envelopes.

## Main definitions

* `Sqs.ship`: what becomes of a batch that is neither empty nor too large.

## Main statements

* `Sqs.submit_eq_ship`: for such a batch the carrier takes no short cut.
* `Sqs.batches_fit`: all batches that an outbox hands over are such.
-/
namespace Dispatch

open History

/-- However many times it is shared, a carrier keeps its limit and sends batches alike. -/
theorem Carrier.shared_iterate {σ μ : Type} (c : Carrier σ μ) (depth : ℕ) :
    (shared^[depth] c).limit = c.limit ∧ (shared^[depth] c).sendBatch = c.sendBatch := by
  induction depth with
  | zero => exact ⟨rfl, rfl⟩
  | succ depth ih =>
    rw [Function.iterate_succ_apply', shared_limit, shared_sendBatch]
    exact ih

namespace Sqs

open Outbox

/-- Puts a batch into envelopes and sends them to the address of its destination. -/
def ship (directory : Directory) (stamps : ℕ → Stamp) (destination : String)
    (messages : List Message) : Exchange (Except Error Receipt × Directory) :=
  match Envelope.packAll destination stamps messages with
  | .error e => .done (.error e, directory)
  | .ok envelopes => (resolve directory destination).andThen fun
    | (.error e, directory) => .done (.error e, directory)
    | (.ok url, directory) =>
      (post destination url envelopes).andThen fun answer => .done (answer, directory)

/-- A batch that is neither empty nor too large is put into envelopes. -/
theorem submit_eq_ship {messages : List Message} (some_message : messages ≠ [])
    (fits : messages.length ≤ batchLimit) (directory : Directory) (stamps : ℕ → Stamp)
    (destination : String) :
    submit directory stamps destination messages = ship directory stamps destination messages := by
  have not_empty : ¬messages.isEmpty := by simpa using some_message
  rw [submit, if_neg not_empty, if_neg (Nat.not_lt.2 fits)]
  rfl

/-- **The bounds of a batch.** A new outbox has batches of a size that is at least one and at most
what the carrier allows, and it keeps that size. Every batch that it hands over, after whatever
history, has at least one message and at most that many; they were accepted before, for the
destination of the batch and no other, and stand in that order. So an outbox over the queue service,
shared or not, hands over no batch that its carrier would answer for without putting it into
envelopes: neither an empty one nor one with too many messages. -/
theorem batches_fit {σ μ : Type} (c : Carrier σ μ) {o : Outbox (Numbered μ)}
    (made : o.Made c.limit) (inputs : List (Input μ)) :
    let seen := o.run (Input.number inputs)
    ((o.map Numbered.message).run inputs = image Numbered.message seen ∧
      Distinct (arrivals seen.2)) ∧
    (1 ≤ o.batchSize ∧ o.batchSize ≤ c.limit ∧ seen.1.batchSize = o.batchSize) ∧
    (∀ past d batch rest, seen.2 = past ++ .handed d batch :: rest →
      1 ≤ batch.length ∧ batch.length ≤ o.batchSize ∧ batch.Sublist (accepted past d) ∧
        ∀ m ∈ batch, ∀ d' ≠ d, m ∉ accepted seen.2 d') ∧
    ∀ {ε : Type} (service : Service ε) (depth : ℕ) (o : Outbox Message),
      o.Made (Carrier.shared^[depth] (carrier service)).limit →
      (Carrier.shared^[depth] (carrier service)).sendBatch = (carrier service).sendBatch ∧
      ∀ inputs past d batch rest, (o.run inputs).2 = past ++ .handed d batch :: rest →
        batch.isEmpty = false ∧ batch.length ≤ batchLimit ∧
          ∀ directory stamps, submit directory stamps d batch = ship directory stamps d batch := by
  intro seen
  have distinct : Distinct (arrivals seen.2) := by
    obtain ⟨size, created⟩ := made.create
    exact distinct_run created inputs
  obtain ⟨pos, allowed⟩ := made.bounds
  refine ⟨⟨o.run_number inputs, distinct⟩, ⟨pos, allowed, batchSize_run made.sound _⟩, ?_, ?_⟩
  · intro past d batch rest split
    obtain ⟨some_message, small, accepted_before⟩ := made.handed (Input.number inputs) split
    refine ⟨List.length_pos_iff.2 some_message, small, accepted_before, ?_⟩
    intro m hm d' other accepted_there
    have accepted_here : m ∈ accepted seen.2 d := by
      rw [split, accepted_append]
      exact List.mem_append_left _ (accepted_before.subset hm)
    exact other (destination_unique distinct accepted_there accepted_here rfl)
  · intro ε service depth o made
    obtain ⟨limit_eq, send_eq⟩ := (carrier service).shared_iterate depth
    refine ⟨send_eq, fun inputs past d batch rest split => ?_⟩
    obtain ⟨some_message, small, -⟩ := made.handed inputs split
    have fits : batch.length ≤ batchLimit := by
      have allowed := made.bounds.2
      rw [limit_eq] at allowed
      exact Nat.le_trans small allowed
    refine ⟨by simpa using some_message, fits, fun directory stamps => ?_⟩
    exact submit_eq_ship some_message fits directory stamps d

/-- Two messages come back from a service that could not be reached, and stand before two more. -/
def aheadOfTwo : List (Input Message) :=
  let message : Operation Message := .send "https://q" (.ok ⟨.null, ∅⟩)
  [.start message, .start message, .start (.flush "https://q"), .start message, .start message,
    .answer (.error (.closed "https://q")), .start (.flush "https://q")]

/-- Four messages wait, and two are handed over: those that were accepted first. The carrier of the
service, shared twice, sends them. -/
theorem first_two_fit :
    let service := constant secondRefused
    let seen := (double (Numbered Message)).run (Input.number aheadOfTwo)
    (double (Numbered Message)).Made (carrier service).limit ∧
    ((handedTo seen.2 "https://q").map fun batch => batch.map Numbered.number) = [[0, 1], [0, 1]] ∧
    (seen.1.queue "https://q").map Numbered.number = [3, 4] ∧
    (∀ past d batch rest, seen.2 = past ++ .handed d batch :: rest →
      1 ≤ batch.length ∧ batch.length ≤ 2 ∧ batch.Sublist (accepted past d)) ∧
    ((double (Numbered Message)).map Numbered.message).Made (carrier service).shared.shared.limit ∧
    ∀ past d batch rest, (image Numbered.message seen).2 = past ++ .handed d batch :: rest →
      ∀ directory stamps, submit directory stamps d batch = ship directory stamps d batch := by
  intro service seen
  have made : (double (Numbered Message)).Made (carrier service).limit := .inl ⟨2, rfl⟩
  have plain : ((double (Numbered Message)).map Numbered.message).Made
      (carrier service).shared.shared.limit := .inl ⟨2, rfl⟩
  obtain ⟨⟨same, -⟩, -, each, over_service⟩ := batches_fit (carrier service) made aheadOfTwo
  refine ⟨made, rfl, rfl, fun past d batch rest split => ?_, plain,
    fun past d batch rest split => ?_⟩
  · obtain ⟨some_message, small, accepted_before, -⟩ := each past d batch rest split
    exact ⟨some_message, small, accepted_before⟩
  · obtain ⟨-, through⟩ := over_service service 2 _ plain
    obtain ⟨-, -, shipped⟩ := through aheadOfTwo past d batch rest (same ▸ split)
    exact shipped

end Sqs

end Dispatch
