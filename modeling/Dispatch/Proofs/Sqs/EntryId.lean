import Dispatch.Sqs.EntryId
import Mathlib.Data.List.Basic

/-!
# Entry identifiers stand for positions

The identifier that an entry gets is read back as its position. A response amounts to a
receipt exactly when all its identifiers can be read, those of refused entries as well as
those of delivered ones (`Sqs.receipt_eq_ok_iff`).

## Main definitions

* `Sqs.Response.Readable`: every identifier of a response stands for a position.
* `Sqs.Accepted.delivery`, `Sqs.Rejected.refusal`: what a readable entry amounts to.

## Main statements

* `Sqs.position?_entryId`: identifiers are read back.
* `Sqs.receipt_eq_ok_iff`, `Sqs.receipt_eq_error_iff`: what a response amounts to.
-/
namespace Dispatch

namespace Digits

theorem isDecimal_eq_isDigit (c : Char) : isDecimal c = c.isDigit := by
  simp [isDecimal, Char.isDigit, Char.le_def]

/-- Runs of decimal digits denote what they do in the standard library. -/
theorem value_eq_ofDigitChars {cs : List Char} (h : ∀ c ∈ cs, c.isDigit) :
    value 10 cs = Nat.ofDigitChars 10 cs 0 := by
  suffices hfold : ∀ start, cs.foldl (fun n c => n * 10 + (hexValue? c).getD 0) start =
      Nat.ofDigitChars 10 cs start from hfold 0
  induction cs with
  | nil => exact fun _ => rfl
  | cons c cs ih =>
    intro start
    have hc : isDecimal c := by rw [isDecimal_eq_isDigit]; exact h c (List.mem_cons_self ..)
    have digit : hexValue? c = some (c.toNat - '0'.toNat) := by
      simp only [isDecimal, Bool.and_eq_true, decide_eq_true_eq] at hc
      rw [hexValue?, if_pos hc]
    rw [List.foldl_cons, ih fun x hx => h x (List.mem_cons_of_mem _ hx), Nat.ofDigitChars_cons,
      digit, Option.getD_some, Nat.mul_comm]

end Digits

namespace Sqs

/-! ## Identifiers of entries -/

/-- An identifier of digits alone stands for the number they denote. -/
theorem position?_of_digits {id : String} (some_digit : id.toList ≠ [])
    (digits : ∀ c ∈ id.toList, c.isDigit)
    (fits : Nat.ofDigitChars 10 id.toList 0 ≤ Word.maxUnsigned) :
    position? id = some (Nat.ofDigitChars 10 id.toList 0) := by
  have decimal : id.toList.all Digits.isDecimal := by
    rw [List.all_eq_true]
    intro c hc
    rw [Digits.isDecimal_eq_isDigit]
    exact digits c hc
  simp only [position?]
  split
  · next rest heq =>
    have plus := digits '+' (by simp [heq])
    simp [Char.isDigit] at plus
  · rw [Digits.value_eq_ofDigitChars digits, if_pos ⟨some_digit, decimal, fits⟩]

/-- **An identifier is read back as its position**, if that fits a word. -/
theorem position?_entryId {i : ℕ} (h : i ≤ Word.maxUnsigned) :
    position? (entryId i) = some i := by
  have text : (entryId i).toList = Nat.toDigits 10 i := Nat.toList_repr
  have value : Nat.ofDigitChars 10 (entryId i).toList 0 = i := by
    rw [text, Nat.ofDigitChars_ten_toDigits]
  have digits : ∀ c ∈ (entryId i).toList, c.isDigit := by
    rw [text]
    exact fun c hc => Nat.isDigit_of_mem_toDigits (by decide) (by decide) hc
  have some_digit : (entryId i).toList ≠ [] := by
    rw [text]
    exact Nat.toDigits_ne_nil
  rw [position?_of_digits some_digit digits (by rwa [value]), value]

theorem getElem?_entriesFrom (start : ℕ) (envelopes : List Envelope) (i : ℕ) :
    (entriesFrom start envelopes)[i]? = envelopes[i]?.map (⟨entryId (start + i), ·⟩) := by
  induction envelopes generalizing start i with
  | nil => rfl
  | cons envelope rest ih =>
    cases i with
    | zero => rfl
    | succ i =>
      have := ih (start + 1) i
      simpa [entriesFrom, Nat.add_comm, Nat.add_left_comm] using this

/-- The entry at a position has the position as its identifier. -/
theorem getElem?_entries (envelopes : List Envelope) (i : ℕ) :
    (entries envelopes)[i]? = envelopes[i]?.map (⟨entryId i, ·⟩) := by
  rw [entries, getElem?_entriesFrom, Nat.zero_add]

/-! ## Reading a response -/

/-- Every identifier of the response stands for a position. -/
def Response.Readable (response : Response) : Prop :=
  (∀ a ∈ response.successful, (position? a.id).isSome) ∧
    ∀ r ∈ response.failed, (position? r.id).isSome

instance (response : Response) : Decidable response.Readable :=
  inferInstanceAs (Decidable (_ ∧ _))

/-- What an entry that was taken amounts to, if its identifier can be read. -/
def Accepted.delivery (a : Accepted) : Delivery := ⟨(position? a.id).getD 0, a.messageId⟩

/-- What an entry that was refused amounts to, if its identifier can be read. -/
def Rejected.refusal (r : Rejected) : Refusal :=
  ⟨(position? r.id).getD 0, r.senderFault, r.code, r.message.getD ""⟩

section Reading

variable {α β : Type} {id : α → String} {build : α → ℕ → β}

/-- Reads the positions of a list one after the other. -/
def readAll (id : α → String) (build : α → ℕ → β) : List α → Except Error (List β)
  | [] => .ok []
  | x :: rest => do
    let index ← position (id x)
    let more ← readAll id build rest
    .ok (build x index :: more)

theorem readAll_cons (x : α) (rest : List α) :
    readAll id build (x :: rest) = (position (id x)).bind fun index =>
      (readAll id build rest).bind fun more => .ok (build x index :: more) := rfl

/-- One identifier that cannot be read spoils the list. -/
theorem readAll_eq_ok_iff {xs : List α} {ys : List β} :
    readAll id build xs = .ok ys ↔ (∀ x ∈ xs, (position? (id x)).isSome) ∧
      ys = xs.map fun x => build x ((position? (id x)).getD 0) := by
  induction xs generalizing ys with
  | nil =>
    simp only [readAll, Except.ok.injEq, List.map_nil]
    exact ⟨fun h => ⟨by simp, h.symm⟩, fun h => h.2.symm⟩
  | cons x rest ih =>
    rw [readAll_cons, position]
    cases hindex : position? (id x) with
    | none =>
      simp only [Except.bind, List.forall_mem_cons, hindex, Option.isSome_none]
      constructor
      · intro h
        cases h
      · exact fun h => absurd h.1.1 (by decide)
    | some index =>
      cases others : readAll id build rest with
      | error e =>
        have spoilt : ¬∀ x ∈ rest, (position? (id x)).isSome := fun all => by
          have := ih.2 ⟨all, rfl⟩
          simp [others] at this
        simp only [Except.bind, List.forall_mem_cons, hindex]
        constructor
        · intro h
          cases h
        · exact fun h => absurd h.1.2 spoilt
      | ok more =>
        obtain ⟨all, same⟩ := ih.1 others
        simp only [Except.bind, List.forall_mem_cons, hindex, List.map_cons, Option.getD_some,
          Except.ok.injEq, same]
        exact ⟨fun h => ⟨⟨rfl, all⟩, h.symm⟩, fun h => h.2.symm⟩

end Reading

theorem deliveries_eq_readAll (taken : List Accepted) :
    deliveries taken = readAll Accepted.id (fun a index => ⟨index, a.messageId⟩) taken := by
  induction taken with
  | nil => rfl
  | cons a rest ih => rw [deliveries, readAll, ih]

theorem refusals_eq_readAll (refused : List Rejected) :
    refusals refused = readAll Rejected.id
      (fun r index => ⟨index, r.senderFault, r.code, r.message.getD ""⟩) refused := by
  induction refused with
  | nil => rfl
  | cons r rest ih => rw [refusals, readAll, ih]

/-- **What a response amounts to.** It has to be readable, and then every entry counts. -/
theorem receipt_eq_ok_iff {response : Response} {r : Receipt} :
    receipt response = .ok r ↔ response.Readable ∧
      r = ⟨response.successful.map Accepted.delivery, response.failed.map Rejected.refusal⟩ := by
  rw [receipt, deliveries_eq_readAll, refusals_eq_readAll]
  constructor
  · intro h
    cases taken : readAll Accepted.id (fun a index => Delivery.mk index a.messageId)
      response.successful with
    | error e => simp [taken, bind, Except.bind] at h
    | ok ds =>
      cases refused : readAll Rejected.id
        (fun r index => Refusal.mk index r.senderFault r.code (r.message.getD ""))
        response.failed with
      | error e => simp [taken, refused, bind, Except.bind] at h
      | ok rs =>
        obtain ⟨readable, hds⟩ := readAll_eq_ok_iff.1 taken
        obtain ⟨readable', hrs⟩ := readAll_eq_ok_iff.1 refused
        simp only [taken, refused, bind, Except.bind, Except.ok.injEq] at h
        exact ⟨⟨readable, readable'⟩, by rw [← h, hds, hrs]; rfl⟩
  · rintro ⟨readable, rfl⟩
    rw [readAll_eq_ok_iff.2 ⟨readable.1, rfl⟩, readAll_eq_ok_iff.2 ⟨readable.2, rfl⟩]
    rfl

/-- A response amounts to an error exactly when it cannot be read. -/
theorem receipt_eq_error_iff {response : Response} :
    (∃ e, receipt response = .error e) ↔ ¬response.Readable := by
  constructor
  · rintro ⟨e, failed⟩ readable
    rw [receipt_eq_ok_iff.2 ⟨readable, rfl⟩] at failed
    cases failed
  · intro unreadable
    cases h : receipt response with
    | error e => exact ⟨e, rfl⟩
    | ok r => exact absurd (receipt_eq_ok_iff.1 h).1 unreadable

end Sqs

end Dispatch
