/-!
# Receipts

The answer of a carrier for one batch: which positions of the batch were delivered and
which were refused. A receipt need not be complete, and it may name a position twice or one
that the batch does not have; whoever reads it has to cope.

## Main definitions

* `Delivery`, `Refusal`, `Receipt`.
* `Receipt.isClean`: nothing was refused.
* `Receipt.undelivered`: the messages of the batch that were not reported delivered.
-/
namespace Dispatch

/-- A position of a batch that was delivered. -/
structure Delivery where
  index : Nat
  /-- The identifier given to the message on arrival. -/
  messageId : String
  deriving DecidableEq, Repr

/-- A position of a batch that was refused. -/
structure Refusal where
  index : Nat
  /-- Whether the sending side is to blame. -/
  senderFault : Bool
  code : String
  message : String
  deriving DecidableEq, Repr

/-- What became of a batch. -/
structure Receipt where
  delivered : List Delivery
  refused : List Refusal
  deriving DecidableEq, Repr

namespace Receipt

/-- The receipt of an empty batch. -/
def empty : Receipt := ⟨[], []⟩

/-- Whether nothing was refused. -/
def isClean (r : Receipt) : Bool := r.refused.isEmpty

/-- Whether a position was reported delivered. -/
def reports (r : Receipt) (index : Nat) : Bool := r.delivered.any (·.index == index)

/-- The messages from position `start` on whose positions were not reported delivered. -/
def undeliveredFrom {μ : Type} (r : Receipt) : Nat → List μ → List μ
  | _, [] => []
  | start, m :: ms =>
    if r.reports start then undeliveredFrom r (start + 1) ms
    else m :: undeliveredFrom r (start + 1) ms

/-- The messages of a batch whose positions were not reported delivered, in their order. -/
def undelivered {μ : Type} (r : Receipt) (batch : List μ) : List μ := r.undeliveredFrom 0 batch

@[simp] theorem refused_empty : empty.refused = [] := rfl

@[simp] theorem isClean_iff {r : Receipt} : r.isClean = true ↔ r.refused = [] := List.isEmpty_iff

/-- What is left of a batch is part of it, in order. -/
theorem undeliveredFrom_sublist {μ : Type} (r : Receipt) (start : Nat) (ms : List μ) :
    (r.undeliveredFrom start ms).Sublist ms := by
  induction ms generalizing start with
  | nil => exact .slnil
  | cons m ms ih =>
    simp only [undeliveredFrom]
    split
    · exact (ih _).cons m
    · exact (ih _).cons_cons m

end Receipt

end Dispatch
