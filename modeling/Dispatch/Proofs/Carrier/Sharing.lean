import Dispatch.Proofs.Sqs.Book
import Dispatch.Proofs.Sqs.Fitting

/-!
# What sharing a carrier changes

A carrier may be held by several outboxes and by others that call it directly, itself or through any
number of layers of sharing. All they do with it goes one after the other, and an outbox may be left
between the turns of an operation, so anything may happen while the carrier holds a batch. For
outboxes sharing makes no difference, since they only send batches and ask for the limit. A single
message however is always sent as a batch of one by a shared carrier, also when the carrier itself
has a way of its own for it.

## Main definitions

* `Carrier.Use`, `Carrier.Shown`: what can be done with a carrier, and what can be seen of it.
* `Carrier.Holding`: the outboxes over a carrier, and what the carrier remembers.
* `Carrier.use`, `Carrier.useAll`: one use, and uses one after the other.
* `Carrier.Use.inBatches`: the same use, but for single messages, which are sent as batches.

## Main statements

* `Carrier.useAll_shared`: a shared carrier does what the carrier does without single messages.
* `Carrier.useAll_shared_queue`: the carrier of the queue service may be shared freely.
* `Carrier.sharing_shows_in_single_messages`: so sharing changes nothing else, and nothing at all
  exactly if the carrier too sends single messages as batches of one.
-/
namespace Dispatch.Carrier

variable {σ μ : Type}

/-! ## Uses of a carrier -/

/-- What can be done with a carrier: it is called, or an outbox over it is made or goes on. The
outboxes have numbers, in the order they were made. -/
inductive Use (μ : Type) where
  | sendBatch (destination : String) (batch : List μ)
  | send (destination : String) (message : μ)
  | limit
  /-- An outbox is made for batches of some size. -/
  | create (size : ℕ)
  /-- An outbox is made for batches of the size that settings ask for. -/
  | configure (settings : Settings)
  /-- An outbox starts an operation, or its latest batch in flight is answered for. -/
  | turn (number : ℕ) (turn : Turn μ)
  /-- An outbox carries an operation to its end. -/
  | perform (number : ℕ) (operation : Operation μ)

/-- What can be seen of a use. -/
inductive Shown (μ : Type) where
  | answer (answer : Answer)
  | limit (limit : ℕ)
  | made (result : Except Error Unit)
  | notices (notices : List (Notice μ))

/-- The outboxes over a carrier, and what the carrier remembers. -/
structure Holding (σ μ : Type) where
  outboxes : List (Outbox μ)
  memory : σ

namespace Holding

/-- Hears what the carrier replies to a call. -/
def hear (h : Holding σ μ) (reply : σ → Answer × σ) : Shown μ × Holding σ μ :=
  let (answer, memory) := reply h.memory
  (.answer answer, { h with memory })

/-- Adds an outbox that could be made. -/
def add (h : Holding σ μ) : Except Error (Outbox μ) → Shown μ × Holding σ μ
  | .error e => (.made (.error e), h)
  | .ok o => (.made (.ok ()), { h with outboxes := h.outboxes ++ [o] })

/-- Lets an outbox go on, if there is one of that number. -/
def proceed (h : Holding σ μ) (number : ℕ)
    (go : Outbox μ → σ → Outbox μ × List (Notice μ) × σ) : Shown μ × Holding σ μ :=
  match h.outboxes[number]? with
  | none => (.notices [], h)
  | some o =>
    let (next, notices, memory) := go o h.memory
    (.notices notices, ⟨h.outboxes.set number next, memory⟩)

end Holding

/-- One use of a carrier. -/
def use (c : Carrier σ μ) (h : Holding σ μ) : Use μ → Shown μ × Holding σ μ
  | .sendBatch d batch => h.hear (c.sendBatch d batch)
  | .send d message => h.hear (c.send d message)
  | .limit => (.limit c.limit, h)
  | .create size => h.add (Outbox.create? c.limit size)
  | .configure settings => h.add (Outbox.ofSettings? c.limit settings)
  | .turn number turn => h.proceed number (Outbox.hosted c [turn])
  | .perform number operation => h.proceed number (Outbox.perform c operation)

/-- Uses of a carrier, one after the other. -/
def useAll (c : Carrier σ μ) : List (Use μ) → Holding σ μ → List (Shown μ) × Holding σ μ
  | [], h => ([], h)
  | u :: uses, h =>
    let (shown, h) := c.use h u
    let (more, last) := useAll c uses h
    (shown :: more, last)

/-- The same use, but a single message is sent as a batch of one. -/
def Use.inBatches : Use μ → Use μ
  | .send d message => .sendBatch d [message]
  | u => u

/-- Whether a carrier has no way of its own for single messages. -/
def SendsInBatches (c : Carrier σ μ) : Prop :=
  ∀ d message state, c.send d message state = c.sendBatch d [message] state

/-! ## Layers of sharing -/

variable (c : Carrier σ μ)

/-- A carrier that is shared remembers and answers like the carrier itself. -/
theorem shows_shared (depth : ℕ) : c.Shows id (shared^[depth] c) := by
  intro d messages state
  rw [(c.shared_iterate depth).2]
  rfl

theorem hosted_shared (depth : ℕ) (turns : List (Turn μ)) :
    Outbox.hosted (shared^[depth] c) turns = Outbox.hosted c turns := by
  funext o state
  exact Outbox.hosted_shows (c.shows_shared depth) turns o state

theorem perform_shared (depth : ℕ) (operation : Operation μ) :
    Outbox.perform (shared^[depth] c) operation = Outbox.perform c operation := by
  funext o state
  exact Outbox.perform_shows (c.shows_shared depth) operation o state

theorem send_shared (depth : ℕ) (d : String) (message : μ) :
    (shared^[depth + 1] c).send d message = c.sendBatch d [message] := by
  rw [Function.iterate_succ_apply', shared_send, (c.shared_iterate depth).2]

/-- **One use of a shared carrier** is the same use of the carrier itself, but for single
messages. -/
theorem use_shared (depth : ℕ) (h : Holding σ μ) (u : Use μ) :
    (shared^[depth + 1] c).use h u = c.use h u.inBatches := by
  obtain ⟨same_limit, same_batch⟩ := c.shared_iterate (depth + 1)
  cases u with
  | sendBatch d batch => rw [use, same_batch]; rfl
  | send d message => rw [use, send_shared]; rfl
  | limit => rw [use, same_limit]; rfl
  | create size => rw [use, same_limit]; rfl
  | configure settings => rw [use, same_limit]; rfl
  | turn number turn => rw [use, hosted_shared]; rfl
  | perform number operation => rw [use, perform_shared]; rfl

/-- A shared carrier does what the carrier itself does when single messages are sent as batches. -/
theorem useAll_shared (depth : ℕ) (uses : List (Use μ)) (h : Holding σ μ) :
    (shared^[depth + 1] c).useAll uses h = c.useAll (uses.map Use.inBatches) h := by
  induction uses generalizing h with
  | nil => rfl
  | cons u uses ih =>
    simp only [useAll, List.map_cons, use_shared]
    rw [ih]

variable {c}

theorem use_inBatches (batches : c.SendsInBatches) (h : Holding σ μ) (u : Use μ) :
    c.use h u.inBatches = c.use h u := by
  cases u with
  | send d message => simp only [Use.inBatches, use, Holding.hear, batches d message]
  | sendBatch | limit | create | configure | turn | perform => rfl

/-- Without a way of its own for single messages, a carrier may be told to send them as batches. -/
theorem useAll_inBatches (batches : c.SendsInBatches) (uses : List (Use μ)) (h : Holding σ μ) :
    c.useAll (uses.map Use.inBatches) h = c.useAll uses h := by
  induction uses generalizing h with
  | nil => rfl
  | cons u uses ih =>
    simp only [useAll, List.map_cons, use_inBatches batches]
    rw [ih]

theorem map_inBatches {uses : List (Use μ)} (none_alone : ∀ d m, Use.send d m ∉ uses) :
    uses.map Use.inBatches = uses := by
  have each : ∀ u ∈ uses, u.inBatches = id u := by
    intro u used
    cases u with
    | send d message => exact absurd used (none_alone d message)
    | sendBatch | limit | create | configure | turn | perform => rfl
  rw [List.map_congr_left each, List.map_id]

/-- When a message sent alone shows no difference, it was sent as a batch of one. -/
theorem sendsInBatches_of_useAll_eq {depth : ℕ}
    (same : ∀ uses h, (shared^[depth + 1] c).useAll uses h = c.useAll uses h) :
    c.SendsInBatches := by
  intro d message state
  have seen : c.useAll [.sendBatch d [message]] ⟨[], state⟩ =
      c.useAll [.send d message] ⟨[], state⟩ :=
    (c.useAll_shared depth [.send d message] _).symm.trans (same _ _)
  simp only [useAll, use, Holding.hear, Prod.mk.injEq, List.cons.injEq, Shown.answer.injEq,
    Holding.mk.injEq, and_true, true_and] at seen
  exact Prod.ext seen.1.symm seen.2.symm

/-- **What sharing a carrier changes.** Through any number of layers of sharing a carrier gives and
remembers the same as without, whatever is done with it, if no single message is sent: for batches,
for the limit, and for all outboxes that are made over it, with anything else between the turns of
their operations. With single messages, what is seen and remembered is what the carrier itself shows
when each of them is sent as a batch of one. So sharing never makes a difference exactly if the
carrier sends them so; one that has a way of its own for single messages loses it. -/
theorem sharing_shows_in_single_messages (c : Carrier σ μ) (depth : ℕ) :
    (∀ uses h, (∀ d m, Use.send d m ∉ uses) →
      (shared^[depth] c).useAll uses h = c.useAll uses h) ∧
    (∀ uses h, (shared^[depth + 1] c).useAll uses h = c.useAll (uses.map Use.inBatches) h) ∧
    ((∀ uses h, (shared^[depth + 1] c).useAll uses h = c.useAll uses h) ↔
      ∀ d m state, c.send d m state = c.sendBatch d [m] state) := by
  refine ⟨fun uses h none_alone => ?_, c.useAll_shared depth, sendsInBatches_of_useAll_eq, ?_⟩
  · cases depth with
    | zero => rfl
    | succ depth => rw [useAll_shared, map_inBatches none_alone]
  · intro batches uses h
    rw [useAll_shared, useAll_inBatches batches]

/-- The carrier of the queue service has no way of its own for single messages, so it may be shared
without a difference. -/
theorem useAll_shared_queue {ε : Type} (service : Sqs.Service ε) (depth : ℕ)
    (uses : List (Use Message)) (h : Holding (Sqs.Session ε) Message) :
    (shared^[depth + 1] (Sqs.carrier service)).useAll uses h =
      (Sqs.carrier service).useAll uses h := by
  have batches : (Sqs.carrier service).SendsInBatches := fun _ _ _ => rfl
  rw [useAll_shared, useAll_inBatches batches]

/-- A carrier that sends single messages by an express of their own, and remembers what went out
by which way. -/
def withExpress : Carrier (List (String × ℕ)) ℕ where
  sendBatch _ batch sent :=
    (.ok ⟨batch.zipIdx.map fun (_, i) => ⟨i, "bulk"⟩, []⟩, sent ++ batch.map fun m => ("bulk", m))
  send _ message sent := (.ok ⟨[⟨0, "express"⟩], []⟩, sent ++ [("express", message)])

/-- An outbox over a carrier, a batch in flight, and another batch before it is answered for. -/
def busyLine : List (Use ℕ) :=
  [.create 2, .perform 0 (.send "orders" (.ok 7)), .turn 0 (.start (.flush "orders")),
    .sendBatch "billing" [8, 9], .turn 0 .answer, .limit]

/-- Shared twice, the carrier with an express remembers the same batches. -/
theorem two_layers_show_nothing :
    (∀ d m, Use.send d m ∉ busyLine) ∧
    (withExpress.shared.shared.useAll busyLine ⟨[], []⟩) = withExpress.useAll busyLine ⟨[], []⟩ ∧
    (withExpress.useAll busyLine ⟨[], []⟩).2.memory = [("bulk", 8), ("bulk", 9), ("bulk", 7)] := by
  have none_alone : ∀ d m, Use.send d m ∉ busyLine := by simp [busyLine]
  obtain ⟨same, -, -⟩ := sharing_shows_in_single_messages withExpress 2
  exact ⟨none_alone, same busyLine _ none_alone, rfl⟩

/-- Sharing does make a difference: a single message misses the express of the carrier. -/
theorem shared_misses_express :
    (withExpress.useAll [.send "orders" 7] ⟨[], []⟩).2.memory = [("express", 7)] ∧
    (withExpress.shared.useAll [.send "orders" 7] ⟨[], []⟩).2.memory = [("bulk", 7)] ∧
    ¬∀ (σ μ : Type) (c : Carrier σ μ) (depth : ℕ) (uses : List (Use μ)) (h : Holding σ μ),
      (shared^[depth] c).useAll uses h = c.useAll uses h := by
  refine ⟨rfl, rfl, fun same => ?_⟩
  have remembered := congrArg (fun seen => seen.2.memory)
    (same _ _ withExpress 1 [.send "orders" 7] ⟨[], []⟩)
  exact absurd remembered (by decide)

end Dispatch.Carrier
