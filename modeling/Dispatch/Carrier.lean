import Dispatch.Error
import Dispatch.Numeral.Word

/-!
# Carriers

A carrier takes a batch of messages to one destination in one call. Entries that were
refused are listed in its receipt; an error means that nothing is known to have been
delivered. What a carrier remembers between calls is the state `σ`.

## Main definitions

* `Answer`: a receipt or an error.
* `Carrier`: the calls. A carrier need only say how it sends batches.
* `Carrier.shared`: a carrier as several holders see it.
-/
namespace Dispatch

/-- What a carrier says to a batch. -/
abbrev Answer : Type := Except Error Receipt

/-- Sends batches of messages, and single messages as batches of one unless it says
otherwise. -/
structure Carrier (σ μ : Type) where
  sendBatch : String → List μ → σ → Answer × σ
  send : String → μ → σ → Answer × σ := fun destination message =>
    sendBatch destination [message]
  /-- The largest batch that is taken. -/
  limit : Nat := Word.maxUnsigned

namespace Carrier

variable {σ μ : Type}

/-- A carrier as its several holders see it. It sends batches and limits them like the
carrier itself, and sends a single message as a batch of one. -/
def shared (c : Carrier σ μ) : Carrier σ μ where
  sendBatch := c.sendBatch
  limit := c.limit

@[simp] theorem shared_sendBatch (c : Carrier σ μ) : c.shared.sendBatch = c.sendBatch := rfl

@[simp] theorem shared_limit (c : Carrier σ μ) : c.shared.limit = c.limit := rfl

theorem shared_send (c : Carrier σ μ) (destination : String) (message : μ) :
    c.shared.send destination message = c.sendBatch destination [message] := rfl

end Carrier

end Dispatch
