import Dispatch.Proofs.Outbox.History
import Dispatch.Proofs.Outbox.Renaming
import Mathlib.Data.List.Nodup
import Mathlib.Data.List.Perm.Subperm

/-!
# Numbered messages

Two messages may be equal, and still one of them may be delivered and the other not. To
follow a single message, each is given the number of the input that brings it. An outbox
does not look into its messages, so the numbered history is the plain one
(`Outbox.run_number`), and no number is accepted twice (`Outbox.distinct_arrivals`). What is
shown of numbered histories holds of all (`Outbox.exists_numbered`).

## Main definitions

* `Numbered`: a message with a number; `Distinct`: no number occurs twice.
* `without`: the messages of a list whose numbers do not occur in another.
* `Input.number`: inputs with numbered messages.
-/
namespace Dispatch

/-- A message with the number of the input that brought it. -/
structure Numbered (μ : Type) where
  number : ℕ
  message : μ
  deriving DecidableEq, Repr

variable {μ : Type}

/-- The numbers of messages. -/
def numbers (ms : List (Numbered μ)) : List ℕ := ms.map (·.number)

/-- No number occurs twice. -/
def Distinct (ms : List (Numbered μ)) : Prop := (numbers ms).Nodup

/-- The messages whose numbers do not occur among others, in order. -/
def without (ms others : List (Numbered μ)) : List (Numbered μ) :=
  ms.filter fun m => m.number ∉ numbers others

section Distinct

variable {ms ms' others : List (Numbered μ)} {m m' : Numbered μ}

theorem mem_numbers (h : m ∈ ms) : m.number ∈ numbers ms := List.mem_map_of_mem h

@[simp] theorem numbers_append : numbers (ms ++ ms') = numbers ms ++ numbers ms' := by
  simp [numbers]

theorem Distinct.sublist (h : Distinct ms') (hs : ms.Sublist ms') : Distinct ms :=
  List.Nodup.sublist (hs.map _) h

theorem Distinct.nodup (h : Distinct ms) : ms.Nodup := List.Nodup.of_map _ h

/-- In a list with distinct numbers the number tells the message. -/
theorem Distinct.eq_of_number (h : Distinct ms) (hm : m ∈ ms) (hm' : m' ∈ ms)
    (heq : m.number = m'.number) : m = m' :=
  List.inj_on_of_nodup_map h hm hm' heq

/-- In a list with distinct numbers, a number belongs to a part of it exactly when its
message does. -/
theorem Distinct.number_mem_iff (h : Distinct ms) (hs : ∀ x ∈ others, x ∈ ms) (hm : m ∈ ms) :
    m.number ∈ numbers others ↔ m ∈ others := by
  refine ⟨fun hn => ?_, mem_numbers⟩
  obtain ⟨x, hx, heq⟩ := List.mem_map.1 hn
  rwa [← h.eq_of_number (hs x hx) hm heq]

theorem without_append (ms ms' others : List (Numbered μ)) :
    without (ms ++ ms') others = without ms others ++ without ms' others :=
  List.filter_append ..

theorem without_without (ms others others' : List (Numbered μ)) :
    without (without ms others) others' = without ms (others ++ others') := by
  simp only [without, List.filter_filter, numbers_append, List.mem_append, not_or]
  refine List.filter_congr fun m _ => ?_
  simp [Bool.and_comm]

theorem without_eq_self (h : ∀ m ∈ ms, m.number ∉ numbers others) : without ms others = ms :=
  List.filter_eq_self.2 fun m hm => by simpa using h m hm

theorem without_sublist (ms others : List (Numbered μ)) : (without ms others).Sublist ms :=
  List.filter_sublist

theorem mem_without : m ∈ without ms others ↔ m ∈ ms ∧ m.number ∉ numbers others := by
  simp [without]

/-- What is taken away counts only as a set. -/
theorem without_congr {others' : List (Numbered μ)} (h : ∀ x, x ∈ others ↔ x ∈ others') :
    without ms others = without ms others' := by
  refine List.filter_congr fun m _ => ?_
  have same : m.number ∈ numbers others ↔ m.number ∈ numbers others' := by
    simp only [numbers, List.mem_map, h]
  simp [same]

end Distinct

/-! ## Numbering the inputs -/

/-- The message that an operation brings. -/
def Operation.message? : Operation μ → Option μ
  | send _ (.ok m) => some m
  | _ => none

/-- The message that an input brings. -/
def Input.message? : Input μ → Option μ
  | start operation => operation.message?
  | _ => none

/-- The message that waits for the end of a flush. -/
def Purpose.message? : Purpose μ → Option μ
  | send m => some m
  | _ => none

/-- Inputs with their messages numbered from `next` on, one number an input. -/
def Input.numberFrom : ℕ → List (Input μ) → List (Input (Numbered μ))
  | _, [] => []
  | next, input :: inputs => input.map (⟨next, ·⟩) :: numberFrom (next + 1) inputs

/-- Inputs with their messages numbered. -/
def Input.number (inputs : List (Input μ)) : List (Input (Numbered μ)) := numberFrom 0 inputs

namespace Input

theorem map_message_map (input : Input μ) (n : ℕ) :
    (input.map (fun m => (⟨n, m⟩ : Numbered μ))).map Numbered.message = input := by
  cases input with
  | answer _ => rfl
  | start operation =>
    cases operation with
    | send d message => cases message <;> rfl
    | flush | flushAll | close => rfl

/-- The numbers can be taken off again. -/
theorem map_message_number (inputs : List (Input μ)) :
    (number inputs).map (·.map Numbered.message) = inputs := by
  suffices h : ∀ start, (numberFrom start inputs).map (·.map Numbered.message) = inputs from h 0
  induction inputs with
  | nil => exact fun _ => rfl
  | cons input inputs ih =>
    intro start
    simp only [numberFrom, List.map_cons, map_message_map, ih]

theorem numberFrom_append (start : ℕ) (inputs more : List (Input μ)) :
    numberFrom start (inputs ++ more) =
      numberFrom start inputs ++ numberFrom (start + inputs.length) more := by
  induction inputs generalizing start with
  | nil => simp [numberFrom]
  | cons input inputs ih => simp [numberFrom, ih, Nat.add_comm, Nat.add_left_comm]

theorem message?_map {ν : Type} (f : μ → ν) (input : Input μ) :
    (input.map f).message? = input.message?.map f := by
  cases input with
  | answer _ => rfl
  | start operation =>
    cases operation with
    | send d message => cases message <;> rfl
    | flush | flushAll | close => rfl

theorem le_of_mem_numberFrom {start : ℕ} {inputs : List (Input μ)} {m : Numbered μ}
    (h : m ∈ (numberFrom start inputs).filterMap message?) : start ≤ m.number := by
  induction inputs generalizing start with
  | nil => simp [numberFrom] at h
  | cons input inputs ih =>
    simp only [numberFrom, List.filterMap_cons, message?_map] at h
    cases hm : input.message? with
    | none => rw [hm] at h; exact Nat.le_of_succ_le (ih h)
    | some x =>
      rw [hm] at h
      rcases List.mem_cons.1 h with rfl | h
      · exact Nat.le_refl _
      · exact Nat.le_of_succ_le (ih h)

/-- No two inputs bring messages of one number. -/
theorem distinct_number (inputs : List (Input μ)) :
    Distinct ((number inputs).filterMap message?) := by
  suffices h : ∀ start, Distinct ((numberFrom start inputs).filterMap message?) from h 0
  induction inputs with
  | nil => exact fun _ => List.nodup_nil
  | cons input inputs ih =>
    intro start
    simp only [numberFrom, List.filterMap_cons, message?_map]
    cases input.message? with
    | none => exact ih (start + 1)
    | some x =>
      refine List.nodup_cons.2 ⟨fun hmem => ?_, ih (start + 1)⟩
      obtain ⟨y, hy, heq⟩ := List.mem_map.1 hmem
      have := le_of_mem_numberFrom hy
      simp only at heq
      omega

end Input

namespace Outbox

open History

/-- The numbered history is the plain one. -/
theorem run_number (o : Outbox (Numbered μ)) (inputs : List (Input μ)) :
    (o.map Numbered.message).run inputs =
      image Numbered.message (o.run (Input.number inputs)) := by
  rw [← run_map, Input.map_message_number]

/-- Every new outbox is one for numbered messages, with the numbers taken off. -/
theorem exists_numbered {limit size : ℕ} {plain : Outbox μ}
    (made : create? limit size = .ok plain) :
    ∃ o : Outbox (Numbered μ), create? limit size = .ok o ∧ o.map Numbered.message = plain := by
  rw [create?_map Numbered.message] at made
  cases numbered : (create? limit size : Except Error (Outbox (Numbered μ))) with
  | error e => simp [numbered, Except.map] at made
  | ok o =>
    rw [numbered] at made
    exact ⟨o, rfl, Except.ok.inj made⟩

/-! ## Where accepted messages come from

Every message that is accepted was brought by an input, and none is accepted twice: a send
either queues its message at once, or the message waits for the end of one flush. -/

/-- The messages that wait for the end of a flush. -/
def held (o : Outbox μ) : List μ := o.flights.filterMap (·.purpose.message?)

theorem held_handOver (o : Outbox μ) (d : String) (log : Log) (purpose : Purpose μ) :
    (o.handOver d log purpose).1.held = purpose.message?.toList ++ o.held := by
  cases h : purpose.message? <;> simp [held, handOver, setQueue, h]

/-- No message is accepted while the other flushes of a sweep go on, and none starts to
wait. -/
theorem sweep_accepts_none (o : Outbox μ) (ds : List String) (log : Log) (errors : List Error) :
    arrivals (o.sweep ds log errors).2 = [] ∧ (o.sweep ds log errors).1.held = o.held := by
  induction ds with
  | nil => exact ⟨rfl, rfl⟩
  | cons d rest ih =>
    simp only [sweep]
    split
    · exact ⟨rfl, rfl⟩
    · split
      · exact ih
      · exact ⟨rfl, by simp [held_handOver, Purpose.message?]⟩

theorem resume_accepts (o : Outbox μ) (d : String) (result : Except Error Log)
    (purpose : Purpose μ) :
    (arrivals (o.resume d result purpose).2 ++ (o.resume d result purpose).1.held).Sublist
      (purpose.message?.toList ++ o.held) := by
  cases purpose with
  | flush => exact .refl _
  | send m =>
    cases result with
    | error e => exact List.sublist_append_right _ _
    | ok log => exact .refl _
  | sweep rest log errors =>
    cases result with
    | error e =>
      obtain ⟨none, same⟩ := o.sweep_accepts_none rest
        (log.write .warning (LogLine.notFlushed d e)) (errors ++ [e])
      simp only [resume]
      change (arrivals (o.sweep rest _ _).2 ++ _).Sublist _
      rw [none, same]
      exact .refl _
    | ok flushed =>
      obtain ⟨none, same⟩ := o.sweep_accepts_none rest (log.append flushed) errors
      simp only [resume, none, same]
      exact .refl _

theorem proceed_accepts (o : Outbox μ) (d : String) (log : Log) (purpose : Purpose μ) :
    (arrivals (o.proceed d log purpose).2 ++ (o.proceed d log purpose).1.held).Sublist
      (purpose.message?.toList ++ o.held) := by
  simp only [proceed]
  split
  · exact o.resume_accepts d _ purpose
  · rw [held_handOver]
    exact .refl _

theorem start_accepts (o : Outbox μ) (operation : Operation μ) :
    (arrivals (o.start operation).2 ++ (o.start operation).1.held).Sublist
      (operation.message?.toList ++ o.held) := by
  have begin_accepts (d : String) (purpose : Purpose μ) :
      (arrivals (o.beginFlush d purpose).2 ++ (o.beginFlush d purpose).1.held).Sublist
        (purpose.message?.toList ++ o.held) := by
    simp only [beginFlush]
    split
    · exact List.sublist_append_right _ _
    · exact o.proceed_accepts d _ purpose
  cases operation with
  | flush d => exact begin_accepts d .flush
  | flushAll =>
    obtain ⟨none, same⟩ := o.sweep_accepts_none o.destinations .empty []
    simp only [start, none, same]
    exact .refl _
  | close =>
    obtain ⟨none, same⟩ :=
      sweep_accepts_none { o with closed := true } o.destinations .empty []
    simp only [start]
    rw [none, same]
    exact .refl _
  | send d message =>
    simp only [start]
    split
    · exact List.sublist_append_right _ _
    · cases message with
      | error cause => exact .refl _
      | ok m =>
        dsimp only
        split
        · exact begin_accepts d (.send m)
        · exact o.resume_accepts d _ (.send m)

/-- Warnings of refusals accept nothing. -/
theorem arrivals_refusals (d : String) (refused : List Refusal) :
    arrivals (refused.map fun r => (warning (LogLine.refused d r) : Notice μ)) = [] := by
  simp [arrivals, acceptances, List.filterMap_map, Function.comp_def, warning,
    Notice.acceptance?]

theorem land_accepts (o : Outbox μ) (f : Flight μ) (answer : Answer) :
    (arrivals (o.land f answer).2 ++ (o.land f answer).1.held).Sublist
      (f.purpose.message?.toList ++ o.held) := by
  cases answer with
  | error e => exact resume_accepts (o.restore f.destination f.batch) _ _ _
  | ok receipt =>
    simp only [land]
    split
    · exact o.proceed_accepts _ _ _
    · rw [arrivals_append, arrivals_refusals, List.nil_append]
      exact resume_accepts (o.restore f.destination (receipt.undelivered f.batch)) _ _ _

theorem step_accepts (o : Outbox μ) (input : Input μ) :
    (arrivals (o.step input).2 ++ (o.step input).1.held).Sublist
      (input.message?.toList ++ o.held) := by
  cases input with
  | start operation => exact o.start_accepts operation
  | answer answer =>
    simp only [step, settle]
    split
    · exact .refl _
    · next f outer top =>
      have waiting : o.held = f.purpose.message?.toList ++
          ({ o with flights := outer } : Outbox μ).held := by
        cases h : f.purpose.message? <;> simp [held, top, h]
      have landing := land_accepts { o with flights := outer } f answer
      rw [← waiting] at landing
      exact landing

/-- The messages that are accepted, or wait to be, were brought by the inputs, each by one
of its own. -/
theorem run_accepts (o : Outbox μ) (inputs : List (Input μ)) :
    (arrivals (o.run inputs).2 ++ (o.run inputs).1.held).Subperm
      (inputs.filterMap Input.message? ++ o.held) := by
  induction inputs generalizing o with
  | nil => exact List.Subperm.refl _
  | cons input inputs ih =>
    have first := (o.step_accepts input).subperm
    have rest := ih (o.step input).1
    have brought : (input :: inputs).filterMap Input.message? =
        input.message?.toList ++ inputs.filterMap Input.message? := by
      cases h : input.message? <;> simp [h]
    simp only [run_cons, arrivals_append, brought, List.append_assoc]
    -- what the rest accepts may have waited since the first input
    have later := (List.subperm_append_left (arrivals (o.step input).2)).2 rest
    have shuffle := (List.perm_append_comm_assoc (arrivals (o.step input).2)
      (inputs.filterMap Input.message?) (o.step input).1.held).subperm
    have sooner := (List.subperm_append_left (inputs.filterMap Input.message?)).2 first
    have unshuffle := (List.perm_append_comm_assoc (inputs.filterMap Input.message?)
      input.message?.toList o.held).subperm
    exact later.trans (shuffle.trans (sooner.trans unshuffle))

/-- **No number is accepted twice.** -/
theorem distinct_arrivals {o : Outbox (Numbered μ)} (idle : o.flights = [])
    {inputs : List (Input (Numbered μ))} (h : Distinct (inputs.filterMap Input.message?)) :
    Distinct (arrivals (o.run inputs).2) := by
  have from_inputs := o.run_accepts inputs
  simp only [held, idle, List.filterMap_nil, List.append_nil] at from_inputs
  have part : (arrivals (o.run inputs).2).Subperm (inputs.filterMap Input.message?) :=
    (List.sublist_append_left _ _).subperm.trans from_inputs
  obtain ⟨some_inputs, same, sub⟩ := part
  exact (same.map _).nodup_iff.1 (h.sublist sub)

end Outbox

end Dispatch
