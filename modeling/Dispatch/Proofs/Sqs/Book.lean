import Dispatch.Proofs.Outbox.Attended
import Dispatch.Proofs.Sqs.Submit

/-!
# A book of what is said to the service

Several holders may use one carrier, directly or through outboxes. To speak of all requests of a
history, the carrier keeps a book: it remembers what its session does, and what was said and heard
on behalf of which destination, in order. The book is written and never read, so whatever happens
with it happens without it (`Sqs.hosted_recording`, `Sqs.performAll_recording`).

## Main definitions

* `Carrier.Shows`: a carrier that remembers more than another one, and answers alike.
* `Sqs.Said`, `Sqs.Ledger`: a request with its reply on behalf of a destination; a session with its
  book.
* `Sqs.Ledger.queueUrl`, `Sqs.recording`: a lookup and the carrier, with the book.

## Main statements

* `Outbox.hosted_shows`, `Outbox.performAll_shows`: what a carrier remembers besides, changes
  nothing.
* `Outbox.hosted_keeps`, `Outbox.perform_keeps`: what every call keeps, every history keeps.
-/
namespace Dispatch

/-! ## Carriers that remember more -/

/-- A carrier answers like another one, which remembers a part of what it remembers. -/
def Carrier.Shows {σ τ μ : Type} (c : Carrier σ μ) (view : σ → τ) (c' : Carrier τ μ) : Prop :=
  ∀ d messages state, c'.sendBatch d messages (view state) =
    ((c.sendBatch d messages state).1, view (c.sendBatch d messages state).2)

namespace Outbox

variable {σ τ μ : Type} {c : Carrier σ μ} {c' : Carrier τ μ} {view : σ → τ}

section Shows

variable (shows_it : c.Shows view c')
include shows_it

theorem heed_shows (o : Outbox μ) (state : σ) (turn : Turn μ) :
    heed c' o (view state) turn = ((heed c o state turn).1, view (heed c o state turn).2) := by
  cases turn with
  | start operation => rfl
  | answer =>
    simp only [heed]
    cases o.flights with
    | nil => rfl
    | cons f outer =>
      exact congrArg (fun said => (Input.answer said.1, said.2))
        (shows_it f.destination f.batch state)

theorem attend_shows (turns : List (Turn μ)) (o : Outbox μ) (state : σ) :
    attend c' turns o (view state) =
      ((attend c turns o state).1, view (attend c turns o state).2) := by
  induction turns generalizing o state with
  | nil => rfl
  | cons turn turns ih =>
    simp only [attend]
    rw [heed_shows shows_it]
    dsimp only
    rw [ih]

/-- **What a carrier remembers besides** changes nothing in a history. -/
theorem hosted_shows (turns : List (Turn μ)) (o : Outbox μ) (state : σ) :
    hosted c' turns o (view state) =
      let (last, notices, now) := hosted c turns o state
      (last, notices, view now) := by
  simp only [hosted]
  rw [attend_shows shows_it]

theorem consult_shows (o : Outbox μ) (state : σ) :
    consult c' o (view state) =
      let (next, notices, now) := consult c o state
      (next, notices, view now) := by
  rw [consult_eq_hosted, consult_eq_hosted]
  exact hosted_shows shows_it _ o state

theorem deliver_shows (calls : ℕ) (o : Outbox μ) (state : σ) :
    deliver c' calls o (view state) =
      let (last, notices, now) := deliver c calls o state
      (last, notices, view now) := by
  induction calls generalizing o state with
  | zero => rfl
  | succ calls ih =>
    simp only [deliver]
    split
    · rfl
    · rw [consult_shows shows_it]
      dsimp only
      rw [ih]

theorem perform_shows (operation : Operation μ) (o : Outbox μ) (state : σ) :
    perform c' operation o (view state) =
      let (last, notices, now) := perform c operation o state
      (last, notices, view now) := by
  simp only [perform]
  rw [deliver_shows shows_it]

theorem performAll_shows (operations : List (Operation μ)) (o : Outbox μ) (state : σ) :
    performAll c' operations o (view state) =
      let (last, notices, now) := performAll c operations o state
      (last, notices, view now) := by
  induction operations generalizing o state with
  | nil => rfl
  | cons operation operations ih =>
    simp only [performAll]
    rw [perform_shows shows_it]
    dsimp only
    rw [ih]

end Shows

/-! ## What every call keeps -/

section Keeps

variable {P : σ → Prop} (keeps : ∀ d messages state, P state → P (c.sendBatch d messages state).2)
include keeps

theorem heed_keeps (o : Outbox μ) {state : σ} (start : P state) (turn : Turn μ) :
    P (heed c o state turn).2 := by
  cases turn with
  | start operation => exact start
  | answer =>
    simp only [heed]
    split
    · exact start
    · exact keeps _ _ _ start

/-- **What every call of a carrier keeps**, holds after any history. -/
theorem hosted_keeps (turns : List (Turn μ)) (o : Outbox μ) {state : σ} (start : P state) :
    P (hosted c turns o state).2.2 := by
  induction turns generalizing o state with
  | nil => exact start
  | cons turn turns ih =>
    rw [hosted_cons]
    exact ih _ (heed_keeps keeps o start turn)

theorem perform_keeps (operation : Operation μ) (o : Outbox μ) {state : σ} (start : P state) :
    P (perform c operation o state).2.2 := by
  obtain ⟨turns, same⟩ := perform_eq_hosted c operation o state
  rw [same]
  exact hosted_keeps keeps turns o start

end Keeps

end Outbox

/-! ## The book -/

namespace Sqs

variable {ε : Type}

/-- A request with its reply, on behalf of a destination. -/
structure Said where
  destination : String
  heard : Heard

/-- A session, and all that was said and heard so far. -/
structure Ledger (ε : Type) where
  session : Session ε
  book : List Said

/-- What is said and heard when an address is looked up. -/
def inquiry (service : Service ε) (destination : String) (s : Session ε) : List Heard :=
  (resolve s.directory destination).talk service s.world

namespace Ledger

/-- Goes on with a session after something was said and heard. -/
def note (ledger : Ledger ε) (destination : String) (heard : List Heard) (session : Session ε) :
    Ledger ε :=
  ⟨session, ledger.book ++ heard.map fun h => ⟨destination, h⟩⟩

/-- Looks up the address of a destination. -/
def queueUrl (service : Service ε) (destination : String) (ledger : Ledger ε) :
    Except Error String × Ledger ε :=
  let (url, session) := Sqs.queueUrl service destination ledger.session
  (url, ledger.note destination (inquiry service destination ledger.session) session)

end Ledger

/-- The carrier that a service makes, with a book. -/
def recording (service : Service ε) : Carrier (Ledger ε) Message where
  sendBatch destination messages ledger :=
    let (answer, session) := (carrier service).sendBatch destination messages ledger.session
    (answer,
      ledger.note destination (conversation service destination messages ledger.session) session)
  limit := batchLimit

theorem recording_shows (service : Service ε) :
    (recording service).Shows Ledger.session (carrier service) := fun _ _ _ => rfl

/-- **Nothing changes because it is written down.** -/
theorem hosted_recording (service : Service ε) (turns : List (Turn Message)) (o : Outbox Message)
    (ledger : Ledger ε) :
    Outbox.hosted (carrier service) turns o ledger.session =
      let (last, notices, now) := Outbox.hosted (recording service) turns o ledger
      (last, notices, now.session) :=
  Outbox.hosted_shows (recording_shows service) turns o ledger

theorem performAll_recording (service : Service ε) (operations : List (Operation Message))
    (o : Outbox Message) (ledger : Ledger ε) :
    Outbox.performAll (carrier service) operations o ledger.session =
      let (last, notices, now) := Outbox.performAll (recording service) operations o ledger
      (last, notices, now.session) :=
  Outbox.performAll_shows (recording_shows service) operations o ledger

end Sqs

end Dispatch
