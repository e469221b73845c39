import Dispatch.Proofs.Sqs.EntryId
import Dispatch.Sqs.Carrier

/-!
# What a batch makes the carrier say and hear

The requests of an exchange are recorded with their replies. A batch is posted at most once,
with one entry for each of its messages, and its answer is what the response to that post
amounts to (`Sqs.heard_of_submit`).

## Main definitions

* `Sqs.Heard`, `Sqs.Exchange.talk`: requests with their replies.
* `Sqs.conversation`: what is said and heard on behalf of a batch.

## Main statements

* `Sqs.heard_of_submit`: where a response to a batch comes from, and what it leads to.
-/
namespace Dispatch

/-! ## Envelopes of a batch -/

namespace Envelope

variable {destination : String} {stamps : ℕ → Stamp}

/-- A batch that can be put into envelopes needs one for each message. -/
theorem packFrom_spec {start : ℕ} {messages : List Message} {envelopes : List Envelope}
    (h : packFrom destination stamps start messages = .ok envelopes) :
    envelopes.length = messages.length ∧
    ∀ i message, messages[i]? = some message → ∃ envelope, envelopes[i]? = some envelope ∧
      pack destination message (stamps (start + i)) = .ok envelope := by
  induction messages generalizing start envelopes with
  | nil =>
    cases h
    simp
  | cons message rest ih =>
    simp only [packFrom] at h
    cases first : pack destination message (stamps start) with
    | error e => simp [first] at h
    | ok envelope =>
      cases others : packFrom destination stamps (start + 1) rest with
      | error e => simp [first, others] at h
      | ok more =>
        simp only [first, others, Except.ok.injEq] at h
        subst h
        obtain ⟨same_length, each⟩ := ih others
        refine ⟨by simp [same_length], fun i m hm => ?_⟩
        cases i with
        | zero =>
          cases hm
          exact ⟨envelope, rfl, first⟩
        | succ i =>
          obtain ⟨e, he, packed⟩ := each i m hm
          refine ⟨e, he, ?_⟩
          rwa [Nat.add_right_comm, Nat.add_assoc] at packed

theorem packAll_spec {messages : List Message} {envelopes : List Envelope}
    (h : packAll destination stamps messages = .ok envelopes) :
    envelopes.length = messages.length ∧
    ∀ i message, messages[i]? = some message → ∃ envelope, envelopes[i]? = some envelope ∧
      pack destination message (stamps i) = .ok envelope := by
  simpa using packFrom_spec h

end Envelope

namespace Sqs

/-- A request with its reply. -/
structure Heard where
  request : Request
  reply : request.Reply

namespace Exchange

variable {α β ε : Type} (service : Service ε)

/-- The requests of an exchange with a service, each with its reply, in order. -/
def talk : Exchange α → ε → List Heard
  | done _, _ => []
  | ask request next, state =>
    let (reply, state) := service.reply request state
    ⟨request, reply⟩ :: (next reply).talk state

@[simp] theorem talk_done (value : α) (state : ε) : (done value).talk service state = [] := rfl

theorem talk_andThen (x : Exchange α) (f : α → Exchange β) (state : ε) :
    (x.andThen f).talk service state = x.talk service state ++
      (f (x.run service state).1).talk service (x.run service state).2 := by
  induction x generalizing state with
  | done value => rfl
  | ask request next ih =>
    simp only [andThen, talk, List.cons_append]
    rw [ih]
    rfl

end Exchange

/-! ## A batch -/

variable {ε : Type} {service : Service ε}

/-- What is said and heard on behalf of a batch. -/
def conversation (service : Service ε) (destination : String) (messages : List Message)
    (s : Session ε) : List Heard :=
  (submit s.directory (service.stamps s.world).1 destination messages).talk service
    (service.stamps s.world).2

/-- Looking up an address posts nothing. -/
theorem not_posted_of_resolve {directory : Directory} {destination url : String}
    {posted : List Entry} {reply : Except Fault Response} {state : ε} :
    ⟨.sendMessageBatch url posted, reply⟩ ∉
      (resolve directory destination).talk service state := by
  simp only [resolve]
  split
  · simp
  · split
    · simp
    · simp only [Exchange.talk]
      intro h
      rcases List.mem_cons.1 h with h | h
      · cases h
      · revert h
        split <;> simp

/-- A response to a post is what the answer is made of. -/
theorem heard_of_post {destination address url : String} {envelopes : List Envelope}
    {posted : List Entry} {response : Response} {state : ε}
    (heard : ⟨.sendMessageBatch url posted, .ok response⟩ ∈
      (post destination address envelopes).talk service state) :
    posted = entries envelopes ∧
    ((post destination address envelopes).run service state).1 = receipt response := by
  simp only [post, Exchange.talk] at heard
  rcases List.mem_cons.1 heard with heard | heard
  · obtain ⟨asked, replied⟩ := Heard.mk.inj heard
    cases asked
    have replied := eq_of_heq replied
    refine ⟨rfl, ?_⟩
    simp only [post, Exchange.run, ← replied]
  · revert heard
    split <;> simp

/-- A response to a batch was given to its one post: there is an entry for each message, and
the answer is what the response amounts to. -/
theorem heard_of_submit {directory : Directory} {stamps : ℕ → Stamp} {destination url : String}
    {messages : List Message} {posted : List Entry} {response : Response} {state : ε}
    (heard : ⟨.sendMessageBatch url posted, .ok response⟩ ∈
      (submit directory stamps destination messages).talk service state) :
    messages.length ≤ batchLimit ∧
    (∃ envelopes, Envelope.packAll destination stamps messages = .ok envelopes ∧
      posted = entries envelopes) ∧
    ((submit directory stamps destination messages).run service state).1.1 =
      receipt response := by
  by_cases empty : messages.isEmpty
  · simp [submit, empty] at heard
  by_cases too_many : batchLimit < messages.length
  · simp [submit, empty, too_many] at heard
  cases packed : Envelope.packAll destination stamps messages with
  | error e => simp [submit, empty, too_many, packed] at heard
  | ok envelopes =>
    simp only [submit, empty, too_many, packed, Bool.false_eq_true, if_false] at heard ⊢
    rw [Exchange.talk_andThen, List.mem_append] at heard
    rw [Exchange.run_andThen]
    have heard := heard.resolve_left not_posted_of_resolve
    generalize (resolve directory destination).run service state = found at heard ⊢
    obtain ⟨⟨address, directory⟩, state⟩ := found
    cases address with
    | error e => simp at heard
    | ok address =>
      simp only [Exchange.talk_andThen, Exchange.talk_done, List.append_nil] at heard
      obtain ⟨same, answer⟩ := heard_of_post heard
      refine ⟨Nat.le_of_not_lt too_many, ⟨envelopes, rfl, same⟩, ?_⟩
      simp only [Exchange.run_andThen, Exchange.run_done]
      exact answer

end Sqs

end Dispatch
