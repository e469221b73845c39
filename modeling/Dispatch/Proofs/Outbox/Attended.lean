import Dispatch.Outbox.Perform
import Dispatch.Proofs.Outbox.Conservation

/-!
# Histories with a carrier

When an outbox has a carrier, only the operations come from outside: the answers are those of
the carrier, whose state goes from call to call. Such a history is a history like any other,
so all that is known of those holds for it.

## Main definitions

* `Turn`: an operation starts, or the carrier answers.
* `Outbox.attend`: the inputs that turns amount to when a carrier answers.
* `Outbox.hosted`, `Outbox.host`: the history of these inputs, plain and numbered.

## Main statements

* `Outbox.performAll_eq_hosted`: operations carried to their ends are such a history.
* `Outbox.host_answer`: a history cut at one of its answers.
-/
namespace Dispatch

open History

/-- What happens to an outbox with a carrier: an operation starts, or the carrier answers for
the batch that it was handed last. -/
inductive Turn (μ : Type) where
  | start (operation : Operation μ)
  | answer

namespace Outbox

variable {σ μ : Type} (carrier : Carrier σ μ)

/-- The input that a turn amounts to, and what the carrier remembers afterwards. With nothing
in flight, the carrier is not asked, and the answer counts for nothing. -/
def heed (o : Outbox μ) (state : σ) : Turn μ → Input μ × σ
  | .start operation => (.start operation, state)
  | .answer =>
    match o.flights with
    | [] => (.answer (.ok .empty), state)
    | f :: _ =>
      let (answer, state) := carrier.sendBatch f.destination f.batch state
      (.answer answer, state)

/-- The inputs that turns amount to, and what the carrier remembers afterwards. -/
def attend : List (Turn μ) → Outbox μ → σ → List (Input μ) × σ
  | [], _, state => ([], state)
  | turn :: turns, o, state =>
    let (input, state) := heed carrier o state turn
    let (inputs, state) := attend turns (o.step input).1 state
    (input :: inputs, state)

/-- A history with a carrier may be cut anywhere. -/
theorem attend_append (before after : List (Turn μ)) (o : Outbox μ) (state : σ) :
    attend carrier (before ++ after) o state =
      let (inputs, now) := attend carrier before o state
      let (more, last) := attend carrier after (o.run inputs).1 now
      (inputs ++ more, last) := by
  induction before generalizing o state with
  | nil => rfl
  | cons turn turns ih =>
    simp only [List.cons_append, attend, ih]
    rfl

/-- An outbox with a carrier after some turns: the outbox, its notices, and what the carrier
remembers. -/
def hosted (turns : List (Turn μ)) (o : Outbox μ) (state : σ) : Outbox μ × List (Notice μ) × σ :=
  let (inputs, last) := attend carrier turns o state
  ((o.run inputs).1, (o.run inputs).2, last)

theorem hosted_cons (turn : Turn μ) (turns : List (Turn μ)) (o : Outbox μ) (state : σ) :
    hosted carrier (turn :: turns) o state =
      let (input, now) := heed carrier o state turn
      let (last, more, state) := hosted carrier turns (o.step input).1 now
      (last, (o.step input).2 ++ more, state) := rfl

theorem hosted_append (before after : List (Turn μ)) (o : Outbox μ) (state : σ) :
    hosted carrier (before ++ after) o state =
      let (next, notices, now) := hosted carrier before o state
      let (last, more, state) := hosted carrier after next now
      (last, notices ++ more, state) := by
  simp only [hosted, attend_append, run_append]

/-! ## Operations carried to their ends -/

theorem consult_eq_hosted (o : Outbox μ) (state : σ) :
    consult carrier o state = hosted carrier [.answer] o state := by
  simp only [consult, hosted, attend, heed, run_cons, run_nil, List.append_nil]
  cases top : o.flights with
  | nil => simp [step, settle, top]
  | cons f outer => rfl

/-- After the turn of the carrier its answer for the latest batch has been taken. -/
theorem hosted_answer {before : List (Turn μ)} {o : Outbox μ} {state : σ} {f : Flight μ}
    {outer : List (Flight μ)} (top : (hosted carrier before o state).1.flights = f :: outer) :
    hosted carrier (before ++ [.answer]) o state =
      let past := hosted carrier before o state
      let (answer, now) := carrier.sendBatch f.destination f.batch past.2.2
      ((past.1.step (.answer answer)).1, past.2.1 ++ (past.1.step (.answer answer)).2, now) := by
  rw [hosted_append]
  rcases past : hosted carrier before o state with ⟨next, notices, now⟩
  replace top : next.flights = f :: outer := by simpa only [past] using top
  simp only [← consult_eq_hosted, consult, top]
  rfl

theorem deliver_eq_hosted (calls : ℕ) (o : Outbox μ) (state : σ) :
    ∃ turns, deliver carrier calls o state = hosted carrier turns o state := by
  induction calls generalizing o state with
  | zero => exact ⟨[], rfl⟩
  | succ calls ih =>
    rw [deliver]
    by_cases idle : o.flights.isEmpty
    · exact ⟨[], by rw [if_pos idle]; rfl⟩
    · rcases consulted : consult carrier o state with ⟨next, notices, now⟩
      obtain ⟨turns, rest⟩ := ih next now
      refine ⟨[.answer] ++ turns, ?_⟩
      rw [if_neg idle, hosted_append, ← consult_eq_hosted]
      simp only [consulted, rest]

theorem perform_eq_hosted (operation : Operation μ) (o : Outbox μ) (state : σ) :
    ∃ turns, perform carrier operation o state = hosted carrier turns o state := by
  obtain ⟨turns, rest⟩ := deliver_eq_hosted carrier (o.start operation).1.load
    (o.start operation).1 state
  refine ⟨.start operation :: turns, ?_⟩
  rw [hosted_cons]
  simp only [heed, step]
  rw [perform, ← rest]

/-- **Operations carried to their ends** one after the other are turns of an outbox with a
carrier. -/
theorem performAll_eq_hosted (operations : List (Operation μ)) (o : Outbox μ) (state : σ) :
    ∃ turns, performAll carrier operations o state = hosted carrier turns o state := by
  induction operations generalizing o state with
  | nil => exact ⟨[], rfl⟩
  | cons operation operations ih =>
    obtain ⟨first, performed⟩ := perform_eq_hosted carrier operation o state
    rcases carried : perform carrier operation o state with ⟨next, notices, now⟩
    obtain ⟨others, rest⟩ := ih next now
    refine ⟨first ++ others, ?_⟩
    rw [hosted_append, ← performed]
    simp only [performAll, carried, rest]

/-! ## Numbered histories with a carrier -/

/-- The numbered history of an outbox with a carrier. -/
def host (turns : List (Turn μ)) (o : Outbox (Numbered μ)) (state : σ) :
    Outbox (Numbered μ) × List (Notice (Numbered μ)) :=
  o.run (Input.number (attend carrier turns (o.map Numbered.message) state).1)

/-- What the carrier remembers after some turns of a numbered outbox. -/
def memory (turns : List (Turn μ)) (o : Outbox (Numbered μ)) (state : σ) : σ :=
  (attend carrier turns (o.map Numbered.message) state).2

/-- The numbers can be taken off a history with a carrier. -/
theorem hosted_eq_image (turns : List (Turn μ)) (o : Outbox (Numbered μ)) (state : σ) :
    hosted carrier turns (o.map Numbered.message) state =
      let seen := image Numbered.message (host carrier turns o state)
      (seen.1, seen.2, memory carrier turns o state) := by
  simp only [host, ← run_number]
  rfl

variable {carrier}

/-- The carrier is asked for the batch that is in flight, and what it says is noticed. -/
theorem host_answer {before : List (Turn μ)} {o : Outbox (Numbered μ)} {state : σ}
    {f : Flight (Numbered μ)} {outer : List (Flight (Numbered μ))}
    (top : (host carrier before o state).1.flights = f :: outer) (after : List (Turn μ)) :
    ∃ rest, (host carrier (before ++ .answer :: after) o state).2 =
      (host carrier before o state).2 ++ .answered f.destination f.batch
        (carrier.sendBatch f.destination (f.batch.map Numbered.message)
          (memory carrier before o state)).1 :: rest := by
  -- the carrier sees the plain outbox, with the same batch in flight
  have plain : ((o.map Numbered.message).run
      (attend carrier before (o.map Numbered.message) state).1).1.flights =
        f.map Numbered.message :: outer.map (·.map Numbered.message) := by
    rw [run_number]
    change (host carrier before o state).1.flights.map _ = _
    rw [top, List.map_cons]
  simp only [host, memory] at top ⊢
  simp only [attend_append, attend, heed, plain, Input.number, Input.numberFrom_append,
    Input.numberFrom, run_append, run_cons] at top ⊢
  simp only [Input.map, step, settle, top, List.cons_append]
  exact ⟨_, rfl⟩

end Outbox

end Dispatch
