import Dispatch.Outbox.Step

/-!
# Operations carried to their end

With a carrier at hand an operation runs to its end at once: every batch that is handed
over is answered before anything else happens. An operation hands over every waiting message
at most once, so the number of messages bounds the number of calls.

## Main definitions

* `Outbox.consult`: one answer of the carrier.
* `Outbox.deliver`: answers for all that is in flight.
* `Outbox.perform`: one operation.
* `Outbox.performAll`: operations one after the other.
-/
namespace Dispatch

namespace Outbox

variable {σ μ : Type}

/-- Lets the carrier answer for the latest batch in flight. -/
def consult (carrier : Carrier σ μ) (o : Outbox μ) (state : σ) :
    Outbox μ × List (Notice μ) × σ :=
  match o.flights with
  | [] => (o, [], state)
  | f :: _ =>
    let (answer, state) := carrier.sendBatch f.destination f.batch state
    let (next, notices) := o.settle answer
    (next, notices, state)

/-- Lets the carrier answer for what is in flight, in at most `calls` calls. -/
def deliver (carrier : Carrier σ μ) : Nat → Outbox μ → σ → Outbox μ × List (Notice μ) × σ
  | 0, o, state => (o, [], state)
  | calls + 1, o, state =>
    if o.flights.isEmpty then (o, [], state)
    else
      let (next, notices, state) := consult carrier o state
      let (last, more, state) := deliver carrier calls next state
      (last, notices ++ more, state)

/-- Carries an operation to its end. -/
def perform (carrier : Carrier σ μ) (operation : Operation μ) (o : Outbox μ) (state : σ) :
    Outbox μ × List (Notice μ) × σ :=
  let (next, notices) := o.start operation
  let (last, more, state) := deliver carrier next.load next state
  (last, notices ++ more, state)

/-- Carries operations to their ends, one after the other. -/
def performAll (carrier : Carrier σ μ) :
    List (Operation μ) → Outbox μ → σ → Outbox μ × List (Notice μ) × σ
  | [], o, state => (o, [], state)
  | operation :: operations, o, state =>
    let (next, notices, state) := perform carrier operation o state
    let (last, more, state) := performAll carrier operations next state
    (last, notices ++ more, state)

end Outbox

end Dispatch
