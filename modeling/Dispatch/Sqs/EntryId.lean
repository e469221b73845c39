import Dispatch.Error
import Dispatch.Numeral.Word
import Dispatch.Sqs.Exchange
import Dispatch.Text.Reader
import Dispatch.Text.Digits

/-!
# Entry identifiers

The entry at position `i` of a batch has the digits of `i` as its identifier, and a response
names entries by their identifiers. Reading them back gives the receipt of the batch.

## Main definitions

* `Sqs.entries`: the entries of a batch.
* `Sqs.position?`: the position that an identifier stands for.
* `Sqs.receipt`: the receipt that a response amounts to.
-/
namespace Dispatch.Sqs

/-- The identifier of the entry at a position. -/
def entryId (position : Nat) : String := toString position

/-- The entries for envelopes from position `start` on. -/
def entriesFrom : Nat → List Envelope → List Entry
  | _, [] => []
  | start, envelope :: rest => ⟨entryId start, envelope⟩ :: entriesFrom (start + 1) rest

/-- The entries of a batch, numbered from zero. -/
def entries (envelopes : List Envelope) : List Entry := entriesFrom 0 envelopes

/-- The position that an identifier stands for: its digits, which a plus sign may precede,
denote a 64-bit number. -/
def position? (id : String) : Option Nat :=
  let digits := match id.toList with
    | '+' :: digits => digits
    | digits => digits
  let value := Digits.value 10 digits
  if digits ≠ [] ∧ digits.all Digits.isDecimal ∧ value ≤ Word.maxUnsigned then some value
  else none

/-- The position of an entry that a response names. -/
def position (id : String) : Except Error Nat :=
  match position? id with
  | some value => .ok value
  | none => .error (.failure (.notAnEntryId id))

/-- The deliveries that a response lists. -/
def deliveries : List Accepted → Except Error (List Delivery)
  | [] => .ok []
  | a :: rest => do
    let index ← position a.id
    let more ← deliveries rest
    .ok (⟨index, a.messageId⟩ :: more)

/-- The refusals that a response lists. A message that is left out is empty. -/
def refusals : List Rejected → Except Error (List Refusal)
  | [] => .ok []
  | r :: rest => do
    let index ← position r.id
    let more ← refusals rest
    .ok (⟨index, r.senderFault, r.code, r.message.getD ""⟩ :: more)

/-- The receipt that a response amounts to. Every identifier in it has to be one that an
entry can have. -/
def receipt (response : Response) : Except Error Receipt := do
  let delivered ← deliveries response.successful
  let refused ← refusals response.failed
  .ok ⟨delivered, refused⟩

end Dispatch.Sqs
