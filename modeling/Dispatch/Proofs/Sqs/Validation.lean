import Dispatch.Proofs.Sqs.Fitting
import Dispatch.Proofs.Sqs.Matching

/-!
# Nothing is asked for on behalf of a batch that cannot be sent

A batch is put into envelopes as a whole before the service is asked for anything
(`Sqs.ship`). So either all of it goes out, or the batch is refused without a request and nothing is
remembered (`Sqs.Refuses`). A batch that goes out makes two requests at most: one for the address of
its destination, unless it is known, and one with all messages (`Sqs.Asks`).

## Main definitions

* `Envelope.AllPack`: every message of a batch can be put into an envelope.
* `Sqs.Refuses`: the answers for batches that cannot be sent.
* `Sqs.Asks`: the requests of a batch that can be sent.

## Main statements

* `Envelope.packAll_cases`: all messages can be put into envelopes, or a first one cannot.
* `Sqs.asks_of_packed`: what is asked for on behalf of a batch in envelopes.
* `Sqs.validated_before_requests`: a batch is refused or goes out as a whole.
-/
namespace Dispatch

/-! ## Batches that can be put into envelopes -/

namespace Envelope

variable {destination : String} {stamps : ℕ → Stamp}

/-- Every message of a batch can be put into an envelope. -/
def AllPack (destination : String) (stamps : ℕ → Stamp) (messages : List Message) : Prop :=
  ∀ i message, messages[i]? = some message →
    ∃ envelope, pack destination message (stamps i) = .ok envelope

/-- Either there are envelopes for all messages, or a first message decides for all. -/
theorem packFrom_cases (start : ℕ) (messages : List Message) :
    (∃ envelopes, packFrom destination stamps start messages = .ok envelopes) ∨
      ∃ before message after e, messages = before ++ message :: after ∧
        (∃ envelopes, packFrom destination stamps start before = .ok envelopes) ∧
        pack destination message (stamps (start + before.length)) = .error e ∧
        packFrom destination stamps start messages = .error e := by
  induction messages generalizing start with
  | nil => exact .inl ⟨[], rfl⟩
  | cons message rest ih =>
    cases first : pack destination message (stamps start) with
    | error e =>
      refine .inr ⟨[], message, rest, e, rfl, ⟨[], rfl⟩, first, ?_⟩
      simp [packFrom, first]
    | ok envelope =>
      rcases ih (start + 1) with ⟨envelopes, others⟩ |
        ⟨before, message', after, e, rfl, ⟨envelopes, others⟩, fails, all⟩
      · exact .inl ⟨envelope :: envelopes, by simp [packFrom, first, others]⟩
      · refine .inr ⟨message :: before, message', after, e, rfl,
          ⟨envelope :: envelopes, by simp [packFrom, first, others]⟩, ?_, ?_⟩
        · rwa [List.length_cons, Nat.add_comm before.length, ← Nat.add_assoc]
        · simp [packFrom, first, all]

/-- Envelopes for all messages are there when there is one for each. -/
theorem allPack_of_packAll {messages : List Message} {envelopes : List Envelope}
    (packed : packAll destination stamps messages = .ok envelopes) :
    AllPack destination stamps messages := by
  intro i message listed
  obtain ⟨envelope, -, each⟩ := (packAll_spec packed).2 i message listed
  exact ⟨envelope, each⟩

theorem packAll_cases (destination : String) (stamps : ℕ → Stamp) (messages : List Message) :
    (∃ envelopes, packAll destination stamps messages = .ok envelopes) ∨
      ∃ before message after e, messages = before ++ message :: after ∧
        AllPack destination stamps before ∧
        pack destination message (stamps before.length) = .error e ∧
        packAll destination stamps messages = .error e := by
  rcases packFrom_cases 0 messages with packed |
    ⟨before, message, after, e, whole, ⟨envelopes, packed⟩, fails, all⟩
  · exact .inl packed
  · rw [Nat.zero_add] at fails
    exact .inr ⟨before, message, after, e, whole, allPack_of_packAll packed, fails, all⟩

/-- A message that cannot be put into an envelope stops its whole batch. -/
theorem not_allPack {before after : List Message} {message : Message} {e : Error}
    (fails : pack destination message (stamps before.length) = .error e) :
    ¬AllPack destination stamps (before ++ message :: after) := by
  intro all
  obtain ⟨envelope, packed⟩ := all before.length message (by simp)
  rw [fails] at packed
  cases packed

end Envelope

namespace Sqs

open Envelope

variable {ε : Type} {service : Service ε}

/-! ## What is asked for -/

/-- Whether a destination is an address, and not the name of a queue. -/
def IsAddress (destination : String) : Prop :=
  (∃ rest, destination = "https://" ++ rest) ∨ ∃ rest, destination = "http://" ++ rest

theorem isPrefixOf_iff {scheme destination : String} :
    scheme.toList.isPrefixOf destination.toList = true ↔ ∃ rest, destination = scheme ++ rest := by
  rw [List.isPrefixOf_iff_prefix]
  constructor
  · rintro ⟨rest, whole⟩
    refine ⟨String.ofList rest, String.toList_injective ?_⟩
    rw [String.toList_append, String.toList_ofList, ← whole]
  · rintro ⟨rest, rfl⟩
    rw [String.toList_append]
    exact List.prefix_append _ _

theorem isUrl_iff {destination : String} : isUrl destination = true ↔ IsAddress destination := by
  rw [isUrl, Bool.or_eq_true, isPrefixOf_iff, isPrefixOf_iff]
  rfl

/-- The requests of a batch with these entries: an address is not asked for, nor is one that was
looked up before; any other name is looked up, and if that gives an address, the entries go
there. -/
inductive Asks (service : Service ε) (directory : Directory) (destination : String)
    (posted : List Entry) (world : ε) : List Request → Prop
  | address (address : IsAddress destination) :
      Asks service directory destination posted world [.sendMessageBatch destination posted]
  | known {url : String} (name : ¬IsAddress destination)
      (cached : directory.get? destination = some url) :
      Asks service directory destination posted world [.sendMessageBatch url posted]
  | found {url : String} (name : ¬IsAddress destination)
      (unknown : directory.get? destination = none)
      (replied : (service.reply (.getQueueUrl destination) world).1 = .ok (some url)) :
      Asks service directory destination posted world
        [.getQueueUrl destination, .sendMessageBatch url posted]
  | missing (name : ¬IsAddress destination) (unknown : directory.get? destination = none)
      (replied : ∀ url, (service.reply (.getQueueUrl destination) world).1 ≠ .ok (some url)) :
      Asks service directory destination posted world [.getQueueUrl destination]

theorem Asks.ne_nil {directory : Directory} {destination : String} {posted : List Entry} {world : ε}
    {requests : List Request} (h : Asks service directory destination posted world requests) :
    requests ≠ [] := by
  cases h <;> exact List.cons_ne_nil _ _

/-- A batch in envelopes is sent to the address of its destination. -/
theorem asks_of_packed {directory : Directory} {stamps : ℕ → Stamp} {destination : String}
    {messages : List Message} {envelopes : List Envelope}
    (packed : packAll destination stamps messages = .ok envelopes) (world : ε) :
    Asks service directory destination (entries envelopes) world
      (((ship directory stamps destination messages).talk service world).map (·.request)) := by
  have posts (url : String) (directory : Directory) (world : ε) :
      (((post destination url envelopes).andThen fun answer =>
        .done (answer, directory)).talk service world).map (·.request) =
      [.sendMessageBatch url (entries envelopes)] := by
    obtain ⟨reply, spoken⟩ := talk_post service destination url envelopes world
    rw [Exchange.talk_andThen, spoken]
    rfl
  rw [ship, packed]
  dsimp only
  by_cases address : isUrl destination
  · have named := isUrl_iff.1 address
    simp only [resolve, address, if_true, Exchange.andThen_done]
    rw [posts]
    exact .address named
  · have named := mt isUrl_iff.2 address
    cases cached : directory.get? destination with
    | some url =>
      simp only [resolve, address, cached, Bool.false_eq_true, if_false, Exchange.andThen_done]
      rw [posts]
      exact .known named cached
    | none =>
      simp only [resolve, address, cached, Bool.false_eq_true, if_false, Exchange.andThen,
        Exchange.talk, List.map_cons]
      split
      · next fault replied =>
        exact .missing named cached fun url found => by cases replied.symm.trans found
      · next replied =>
        exact .missing named cached fun url found => by cases replied.symm.trans found
      · next url replied =>
        rw [Exchange.andThen_done, posts]
        exact .found named cached replied

/-! ## What is refused -/

/-- Batches for which nothing is asked, with the answers for them: none for no messages, and errors
for more than the service takes, and else for the first message that has no envelope. -/
inductive Refuses (destination : String) (stamps : ℕ → Stamp) :
    List Message → Except Error Receipt → Prop
  | none : Refuses destination stamps [] (.ok .empty)
  | many {messages : List Message} (many : 10 < messages.length) :
      Refuses destination stamps messages
        (.error (.invalid (.batchOverLimit destination messages.length 10)))
  | invalid {before after : List Message} {message : Message} {e : Error}
      (few : (before ++ message :: after).length ≤ 10)
      (packed : AllPack destination stamps before)
      (fails : pack destination message (stamps before.length) = .error e) :
      Refuses destination stamps (before ++ message :: after) (.error e)

/-- A batch is refused at once, or there are envelopes for all its messages. -/
theorem refuses_or_packs (directory : Directory) (stamps : ℕ → Stamp) (destination : String)
    (messages : List Message) :
    (∃ answer, submit directory stamps destination messages = .done (answer, directory) ∧
      Refuses destination stamps messages answer ∧
      ¬(1 ≤ messages.length ∧ messages.length ≤ 10 ∧ AllPack destination stamps messages)) ∨
    ∃ envelopes, packAll destination stamps messages = .ok envelopes ∧
      submit directory stamps destination messages = ship directory stamps destination messages ∧
      1 ≤ messages.length ∧ messages.length ≤ 10 := by
  by_cases empty : messages = []
  · subst empty
    exact .inl ⟨.ok .empty, rfl, .none, by simp⟩
  by_cases many : 10 < messages.length
  · have too_many : batchLimit < messages.length := many
    refine .inl ⟨_, ?_, .many many, fun h => Nat.not_lt.2 h.2.1 many⟩
    rw [submit, if_neg (by simpa using empty), if_pos too_many]
    rfl
  have few : messages.length ≤ 10 := Nat.le_of_not_lt many
  have shipped := submit_eq_ship empty few directory stamps destination
  rcases packAll_cases destination stamps messages with ⟨envelopes, packed⟩ |
    ⟨before, message, after, e, rfl, packed, fails, all⟩
  · exact .inr ⟨envelopes, packed, shipped, List.length_pos_iff.2 empty, few⟩
  · refine .inl ⟨.error e, ?_, .invalid few packed fails,
      fun h => not_allPack fails h.2.2⟩
    rw [shipped, ship, all]

/-- **A batch is checked before anything is asked for**, and goes out as a whole or not at all. Some
request is made exactly if there are one to ten messages and every one of them can be put into an
envelope. Else the directory of addresses stays as it is, and the answer says what was wrong first.
The requests are then one for the address, if the destination is a name that the directory does not
have, and, once there is an address, one with an entry for every message, in their order. -/
theorem validated_before_requests (service : Service ε) (s : Session ε) (destination : String)
    (messages : List Message) :
    let stamps := (service.stamps s.world).1
    let world := (service.stamps s.world).2
    let requests := (conversation service destination messages s).map (·.request)
    let sent := (carrier service).sendBatch destination messages s
    (requests ≠ [] ↔
      1 ≤ messages.length ∧ messages.length ≤ 10 ∧ AllPack destination stamps messages) ∧
    (requests = [] →
      sent.2.directory = s.directory ∧ Refuses destination stamps messages sent.1) ∧
    (requests ≠ [] → ∃ posted : List Entry, posted.length = messages.length ∧
      (∀ i message, messages[i]? = some message → ∃ envelope,
        pack destination message (stamps i) = .ok envelope ∧
          posted[i]? = some ⟨toString i, envelope⟩) ∧
      Asks service s.directory destination posted world requests) := by
  intro stamps world requests sent
  rcases refuses_or_packs s.directory stamps destination messages with
    ⟨answer, submitted, refused, fails⟩ | ⟨envelopes, packed, shipped, some_message, few⟩
  · have none : requests = [] := by
      simp only [requests, conversation]
      rw [submitted]
      rfl
    have answered : sent = (answer, ⟨s.directory, world⟩) := by
      simp only [sent, carrier]
      rw [submitted]
      rfl
    refine ⟨iff_of_false (fun asked => asked none) fails, fun _ => ?_,
      fun asked => absurd none asked⟩
    rw [answered]
    exact ⟨rfl, refused⟩
  · have asks : Asks service s.directory destination (entries envelopes) world requests := by
      simp only [requests, conversation]
      rw [shipped]
      exact asks_of_packed packed world
    obtain ⟨same_length, each⟩ := entries_of_packed packed
    exact ⟨iff_of_true asks.ne_nil ⟨some_message, few, allPack_of_packAll packed⟩,
      fun none => absurd none asks.ne_nil, fun _ => ⟨entries envelopes, same_length, each, asks⟩⟩

/-- A message with both FIFO texts. -/
def withTexts : Message :=
  ⟨.null, Table.ofList [(AttributeName.deduplicationId, .string "a"),
    (AttributeName.groupId, .string "g")]⟩

/-- Of two messages the first one has both FIFO texts and the second one has none. -/
def firstHasTexts : List Message := [withTexts, ⟨.null, ∅⟩]

/-- The first message does not go out alone, and not even the address of the queue is asked for. -/
theorem nothing_asked_before_second :
    let service := constant secondRefused
    let sent := (carrier service).sendBatch "orders.fifo" firstHasTexts ⟨∅, ()⟩
    (conversation service "orders.fifo" firstHasTexts ⟨∅, ()⟩).map (·.request) = [] ∧
      sent.2.directory = ∅ ∧ Refuses "orders.fifo" (fun _ => default) firstHasTexts sent.1 ∧
      sent.1 = .error (.invalid (.fifoFieldsMissing "orders.fifo")) := by
  intro service sent
  obtain ⟨asked_iff, refused, -⟩ :=
    validated_before_requests service ⟨∅, ()⟩ "orders.fifo" firstHasTexts
  have fails : pack "orders.fifo" ⟨.null, ∅⟩ default =
      .error (.invalid (.fifoFieldsMissing "orders.fifo")) := rfl
  have none : (conversation service "orders.fifo" firstHasTexts ⟨∅, ()⟩).map (·.request) = [] := by
    by_contra asked
    have each := (asked_iff.1 asked).2.2
    obtain ⟨envelope, packed⟩ := each 1 ⟨.null, ∅⟩ rfl
    cases fails.symm.trans packed
  exact ⟨none, (refused none).1, (refused none).2, rfl⟩

end Sqs

end Dispatch
