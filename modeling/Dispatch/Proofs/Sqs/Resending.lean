import Dispatch.Proofs.Outbox.Attended
import Dispatch.Proofs.Sqs.Submit

/-!
# What the queue service took is sent again only after an unreadable response

A response lists the entries that the service took. When it can be read, their messages leave
the outbox for good. When a single identifier in it cannot be read, among the refused entries
as well, the whole batch counts as failed, and what the service took is sent once more.

## Main statements

* `Sqs.gone_iff_readable`: when a message that the service took is gone.
* `Sqs.taken_twice`: a message that it gets again.
-/
namespace Dispatch.Sqs

open Outbox History

variable {ε : Type} {service : Service ε}

/-- What a readable response lists as taken is confirmed by its receipt. -/
theorem confirmed_of_listed {μ : Type} {response : Response} (readable : response.Readable)
    {batch : List μ} (fits : batch.length ≤ batchLimit) {i : ℕ} {m : μ}
    (hm : batch[i]? = some m) (listed : ∃ a ∈ response.successful, a.id = entryId i) :
    ∃ r, receipt response = .ok r ∧ m ∈ r.confirmed batch := by
  refine ⟨_, receipt_eq_ok_iff.2 ⟨readable, rfl⟩, Receipt.mem_confirmed.2 ⟨i, hm, ?_⟩⟩
  obtain ⟨a, ha, same⟩ := listed
  obtain ⟨hlt, -⟩ := List.getElem?_eq_some_iff.1 hm
  have small : i ≤ Word.maxUnsigned := by
    have : batchLimit ≤ Word.maxUnsigned := by decide
    omega
  have index : a.delivery.index = i := by
    rw [Accepted.delivery, same, position?_entryId small, Option.getD_some]
  simp only [Receipt.reports, List.any_eq_true, List.mem_map]
  exact ⟨a.delivery, ⟨a, ha, rfl⟩, by simp [index]⟩

/-- The entry at a position is that of the message at the position. -/
theorem message_of_entry {destination : String} {stamps : ℕ → Stamp}
    {batch : List (Numbered Message)} {envelopes : List Envelope}
    (packed : Envelope.packAll destination stamps (batch.map Numbered.message) = .ok envelopes)
    {i : ℕ} {entry : Entry} (at_i : (entries envelopes)[i]? = some entry) :
    ∃ m, batch[i]? = some m ∧ entry.id = entryId i ∧
      Envelope.pack destination m.message (stamps i) = .ok entry.envelope := by
  obtain ⟨same_length, each⟩ := Envelope.packAll_spec packed
  rw [getElem?_entries] at at_i
  obtain ⟨envelope, found, rfl⟩ := Option.map_eq_some_iff.1 at_i
  obtain ⟨hlt, -⟩ := List.getElem?_eq_some_iff.1 found
  have inside : i < batch.length := by simpa [same_length] using hlt
  have hm : batch[i]? = some batch[i] := List.getElem?_eq_getElem inside
  obtain ⟨e, he, pack_eq⟩ := each i _ (by rw [List.getElem?_map, hm, Option.map_some])
  have same := Option.some.inj (found.symm.trans he)
  exact ⟨batch[i], hm, rfl, same ▸ pack_eq⟩

/-- **Once taken, gone, if the response can be read.** When a response to a batch lists the
identifier of an entry as taken, the message of that entry is neither outstanding nor handed
over ever again exactly when the response is readable; else the carrier answers with an
error. -/
theorem gone_iff_readable {size : ℕ} {o : Outbox (Numbered Message)}
    (made : create? (carrier service).limit size = .ok o) (session : Session ε)
    (before after : List (Turn Message)) {f : Flight (Numbered Message)}
    {outer : List (Flight (Numbered Message))}
    (top : (host (carrier service) before o session).1.flights = f :: outer)
    {url : String} {posted : List Entry} {response : Response}
    (heard : ⟨.sendMessageBatch url posted, .ok response⟩ ∈
      conversation service f.destination (f.batch.map Numbered.message)
        (memory (carrier service) before o session))
    {i : ℕ} {entry : Entry} (at_i : posted[i]? = some entry)
    (listed : ∃ a ∈ response.successful, a.id = entry.id) :
    let stamps := (service.stamps (memory (carrier service) before o session).world).1
    let past := host (carrier service) before o session
    let seen := host (carrier service) (before ++ .answer :: after) o session
    hosted (carrier service) (before ++ .answer :: after) (o.map Numbered.message) session =
      ((image Numbered.message seen).1, (image Numbered.message seen).2,
        memory (carrier service) (before ++ .answer :: after) o session) ∧
    Distinct (arrivals seen.2) ∧ ∃ answer rest m,
      seen.2 = past.2 ++ .answered f.destination f.batch answer :: rest ∧
      f.batch[i]? = some m ∧ Envelope.pack f.destination m.message (stamps i) = .ok entry.envelope ∧
      (((∀ d, m ∉ seen.1.outstanding d) ∧ ∀ n ∈ rest, m ∉ n.batch) ↔ response.Readable) ∧
      ((∃ e, answer = .error e) ↔ ¬response.Readable) := by
  intro stamps past seen
  obtain ⟨fits, ⟨envelopes, packed, rfl⟩, answer_eq⟩ := heard_of_submit heard
  obtain ⟨rest, notices⟩ := host_answer top after
  have said : ((carrier service).sendBatch f.destination (f.batch.map Numbered.message)
      (memory (carrier service) before o session)).1 = receipt response := answer_eq
  rw [said] at notices
  obtain ⟨m, hm, id_eq, envelope_eq⟩ := message_of_entry packed at_i
  have distinct : Distinct (arrivals seen.2) := distinct_run made _
  have H : Conserved past.2 past.1 := conserved_run made (distinct_run made _)
  have L : Conserved seen.2 seen.1 := conserved_run made distinct
  have carried : m ∈ f.batch := List.mem_of_getElem? hm
  refine ⟨hosted_eq_image _ _ o session, distinct, receipt response, rest, m, notices, hm,
    envelope_eq, ?_, receipt_eq_error_iff⟩
  rw [notices] at L distinct
  rw [H.gone_iff_removed top L distinct carried]
  constructor
  · intro removed
    by_contra unreadable
    obtain ⟨e, failed⟩ := receipt_eq_error_iff.2 unreadable
    simp [Shipment.removed, Shipment.confirmed, Shipment.omitted, failed] at removed
  · intro readable
    rw [List.length_map] at fits
    obtain ⟨r, hr, confirmed⟩ := confirmed_of_listed readable fits hm (id_eq ▸ listed)
    refine Shipment.mem_removed_of_confirmed ?_
    rw [Shipment.confirmed, hr]
    exact confirmed

/-- A service that gives every batch the same response. -/
def constant (response : Response) : Service Unit where
  reply
    | .getQueueUrl _, state => (.ok none, state)
    | .sendMessageBatch _ _, state => (.ok response, state)
  stamps state := (fun _ => default, state)

/-- Two equal messages are sent, and their queue is flushed. -/
def twoSent : List (Turn Message) :=
  [.start (.send "https://q" (.ok ⟨.null, ∅⟩)), .start (.send "https://q" (.ok ⟨.null, ∅⟩)),
    .start (.flush "https://q")]

/-- The second entry was refused, by its identifier. -/
def secondRefused : Response := ⟨[⟨"0", "a"⟩], [⟨"1", true, "Rejected", none⟩]⟩

/-- The first of two equal messages is gone, whatever becomes of the second. -/
theorem first_gone :
    create? batchLimit 2 = .ok (double (Numbered Message)) ∧
    (∃ posted entry, ⟨.sendMessageBatch "https://q" posted, .ok secondRefused⟩ ∈
      conversation (constant secondRefused) "https://q" [⟨.null, ∅⟩, ⟨.null, ∅⟩] ⟨∅, ()⟩ ∧
      posted[0]? = some entry ∧ entry.id = "0") ∧
    secondRefused.Readable ∧
    ∀ d, ⟨0, ⟨.null, ∅⟩⟩ ∉ (host (carrier (constant secondRefused))
      (twoSent ++ .answer :: [.start (.flush "https://q")]) (double (Numbered Message))
      ⟨∅, ()⟩).1.outstanding d := by
  have made : create? batchLimit 2 = .ok (double (Numbered Message)) := rfl
  have top : (host (carrier (constant secondRefused)) twoSent (double (Numbered Message))
      ⟨∅, ()⟩).1.flights = [⟨"https://q", [⟨0, ⟨.null, ∅⟩⟩, ⟨1, ⟨.null, ∅⟩⟩], .empty, .flush⟩] :=
    rfl
  have said : ∃ posted entry, ⟨.sendMessageBatch "https://q" posted, .ok secondRefused⟩ ∈
      conversation (constant secondRefused) "https://q" [⟨.null, ∅⟩, ⟨.null, ∅⟩] ⟨∅, ()⟩ ∧
      posted[0]? = some entry ∧ entry.id = "0" := ⟨_, _, List.mem_singleton.2 rfl, rfl, rfl⟩
  have readable : secondRefused.Readable := by decide
  refine ⟨made, said, readable, ?_⟩
  obtain ⟨posted, entry, heard, at_zero, id_eq⟩ := said
  have listed : ∃ a ∈ secondRefused.successful, a.id = entry.id :=
    ⟨⟨"0", "a"⟩, List.mem_singleton_self _, id_eq.symm⟩
  obtain ⟨-, -, answer, rest, m, -, hm, -, gone, -⟩ :=
    gone_iff_readable made ⟨∅, ()⟩ twoSent [.start (.flush "https://q")] top heard at_zero listed
  cases hm
  exact (gone.2 readable).1

/-- Both entries were taken, and one more that was never posted. -/
def strangerTaken : Response := ⟨[⟨"0", "a"⟩, ⟨"1", "b"⟩, ⟨"x", "c"⟩], []⟩

/-- **Messages that the service took are sent again**, because of one identifier that stands
for no position. -/
theorem taken_twice :
    let service := constant strangerTaken
    let seen := host (carrier service) (twoSent ++ [.answer, .start (.flush "https://q")])
      (double (Numbered Message)) ⟨∅, ()⟩
    (∃ posted, ⟨.sendMessageBatch "https://q" posted, .ok strangerTaken⟩ ∈
      conversation service "https://q" [⟨.null, ∅⟩, ⟨.null, ∅⟩] ⟨∅, ()⟩ ∧
      posted.map (·.id) = ["0", "1"]) ∧
    (∀ id ∈ ["0", "1"], ∃ a ∈ strangerTaken.successful, a.id = id) ∧
    handedTo seen.2 "https://q" =
      [[⟨0, ⟨.null, ∅⟩⟩, ⟨1, ⟨.null, ∅⟩⟩], [⟨0, ⟨.null, ∅⟩⟩, ⟨1, ⟨.null, ∅⟩⟩]] :=
  ⟨⟨_, List.mem_singleton.2 rfl, rfl⟩, by decide, rfl⟩

end Dispatch.Sqs
