import Dispatch.Log.Desk
import Mathlib.Data.List.Basic

/-!
# Where the lines of a log come from

Handles that were shared stand for one log, and a log may be extended by another one, which was
extended by a third. So a line may reach a log through any number of handles and logs. Here this is
told from the steps alone: `Desk.shown` lists, for every handle, the events with which the lines it
shows were once written. A desk keeps less, the lines and one flag for each log, and loses nothing
by it: the flag says whether one of these events was a warning.

## Main definitions

* `Desk.origins`, `Desk.Clones`: the handle that each log was started with, and handles of one log.
* `Desk.shown`: what each handle shows, after steps that are listed latest first.
* `Log.ofEvents`: the log of lines that were written with these events.
* `Desk.Tells`: a desk stands for what was done.

## Main statements

* `Desk.Tells.step`: every step keeps that a desk stands for what was done.
* `Desk.run_events`: the events are those of the lines that were written.
* `Desk.logs_account_for_writes`: all of it, after any steps.
-/
namespace Dispatch

/-- The log of lines that were written with these events. -/
def Log.ofEvents (events : List Event) : Log :=
  ⟨events.map (·.text), events.any (·.level = .warning)⟩

theorem Log.ofEvents_append (events more : List Event) :
    ofEvents (events ++ more) = (ofEvents events).append (ofEvents more) := by
  simp [ofEvents, append]

/-- A line is written with its event. -/
theorem Log.write_eq_append_ofEvents (log : Log) (level : Level) (line : String) :
    log.write level line = log.append (ofEvents (Event.ofLine level line)) := by
  by_cases blank : line = ""
  · simp [write, Event.ofLine, blank, ofEvents, append]
  · simp [write, Event.ofLine, blank, ofEvents, append]

namespace Desk

/-! ## What was done -/

/-- For every handle, the one that its log was started with. The latest step comes first. -/
def origins : List Step → List Nat
  | [] => []
  | .start :: past => origins past ++ [(origins past).length]
  | .share handle :: past => origins past ++ (origins past)[handle]?.toList
  | .write .. :: past => origins past
  | .extend .. :: past => origins past

/-- How many handles have been handed out. The next one gets this number. -/
def issued (past : List Step) : Nat := (origins past).length

/-- Two handles of one log. -/
def Clones (past : List Step) (a b : Nat) : Prop :=
  a < issued past ∧ (origins past)[a]? = (origins past)[b]?

instance (past : List Step) (a b : Nat) : Decidable (Clones past a b) :=
  inferInstanceAs (Decidable (_ ∧ _))

/-- The events with which the lines that a handle shows were once written. A line that is written is
shown through all handles of its log, and so is what a source shows when its lines are copied, but
for a source that is a handle of the same log. -/
def shown : List Step → Nat → List Event
  | [], _ => []
  | .start :: past, handle => shown past handle
  | .share old :: past, handle => shown past (if handle = issued past then old else handle)
  | .write target level line :: past, handle =>
    shown past handle ++ if Clones past handle target then Event.ofLine level line else []
  | .extend target source :: past, handle =>
    shown past handle ++
      if Clones past handle target ∧ ¬Clones past handle source then shown past source else []

/-- The events of a step: that of the line it writes, unless this is empty. -/
def Step.events : Step → List Event
  | .write _ level line => Event.ofLine level line
  | .start | .share _ | .extend .. => []

/-- Whether a step writes a line that is not empty. -/
def Step.isWrite : Step → Bool
  | .write _ _ line => line ≠ ""
  | .start | .share _ | .extend .. => false

variable {past : List Step} {d : Desk} {a b : Nat}

theorem lt_issued_of_mem {origin : Nat} (h : origin ∈ origins past) : origin < issued past := by
  induction past with
  | nil => simp [origins] at h
  | cons step past ih =>
    simp only [issued] at ih ⊢
    cases step with
    | start =>
      rcases List.mem_append.1 h with h | h
      · have := ih h
        simp only [origins, List.length_append, List.length_singleton]
        omega
      · simp_all [origins]
    | share handle =>
      have known : origin ∈ origins past := by
        rcases List.mem_append.1 h with h | h
        · exact h
        · exact List.mem_of_getElem? (Option.mem_toList.1 h)
      have := ih known
      simp only [origins, List.length_append]
      omega
    | write | extend => exact ih h

/-! ## What a desk shows -/

theorem read_of_missing (missing : d.position? a = none) : d.read a = .empty := by
  rw [read, missing]
  rfl

theorem read_congr (same : d.position? a = d.position? b) : d.read a = d.read b := by
  rw [read, read, same]

/-- Replacing the log behind a handle shows through all handles of this log, and through no
others. -/
theorem read_update (inside : ∀ position ∈ d.handles, position < d.logs.length) {target : Nat}
    (log : Log) (known : target < d.handles.length) :
    (d.update target log).read a =
      if d.position? a = d.position? target then log else d.read a := by
  have found : d.position? target = some d.handles[target] := List.getElem?_eq_getElem known
  have there : d.handles[target] < d.logs.length := inside _ (List.getElem_mem known)
  simp only [update, found, read]
  change ((d.position? a).bind fun position => (d.logs.set d.handles[target] log)[position]?).getD
    .empty = _
  cases d.position? a with
  | none => rfl
  | some position =>
    by_cases here : position = d.handles[target]
    · simp [here, there]
    · simp [here, List.getElem?_set_ne (Ne.symm here)]

/-- A handle that has not been handed out shows nothing, and nothing is written through it. -/
theorem update_of_missing (missing : d.position? a = none) (log : Log) : d.update a log = d := by
  rw [update, missing]

/-- A desk stands for what was done: its handles stand for the same logs as the steps tell, and show
what these tell. -/
structure Tells (d : Desk) (past : List Step) : Prop where
  inside : ∀ position ∈ d.handles, position < d.logs.length
  count : d.handles.length = issued past
  same : ∀ a b, d.position? a = d.position? b ↔ (origins past)[a]? = (origins past)[b]?
  read : ∀ handle, d.read handle = .ofEvents (shown past handle)

theorem tells_empty : Tells empty [] where
  inside := by simp [empty]
  count := rfl
  same := by simp [empty, position?, origins]
  read handle := rfl

/-- Two lists tell the same handles apart, also with one more on each, if this is among the others
in both of them at the same places, or in none of them. -/
theorem same_append {α β : Type} {xs : List α} {ys : List β} (length_eq : xs.length = ys.length)
    (same : ∀ a b : Nat, xs[a]? = xs[b]? ↔ ys[a]? = ys[b]?) {x : α} {y : β}
    (places : ∀ a : Nat, xs[a]? = some x ↔ ys[a]? = some y) (a b : Nat) :
    (xs ++ [x])[a]? = (xs ++ [x])[b]? ↔ (ys ++ [y])[a]? = (ys ++ [y])[b]? := by
  simp only [List.getElem?_append, length_eq]
  grind

namespace Tells

variable (T : Tells d past)
include T

theorem position_eq_none_iff : d.position? a = none ↔ issued past ≤ a := by
  rw [position?, List.getElem?_eq_none_iff, T.count]

theorem clones_iff : Clones past a b ↔ a < issued past ∧ d.position? a = d.position? b := by
  rw [Clones, T.same]

/-- Handles of one log show the same. -/
theorem read_eq_of_clones (clones : Clones past a b) : d.read a = d.read b :=
  read_congr (T.clones_iff.1 clones).2

/-- Another handle shows what the log behind it shows; the others show what they did. -/
theorem read_append {handles : List Nat} {logs : List Log} {position : Nat}
    (handles_eq : handles = d.handles ++ [position])
    (logs_eq : ∀ i < d.logs.length, logs[i]? = d.logs[i]?) :
    (⟨logs, handles⟩ : Desk).read a =
      if a = issued past then (logs[position]?).getD .empty else d.read a := by
  subst handles_eq
  simp only [Desk.read, position?, List.getElem?_append, T.count, List.getElem?_singleton]
  by_cases old : a < issued past
  · have known : a < d.handles.length := T.count ▸ old
    have found : d.handles[a]? = some d.handles[a] := List.getElem?_eq_getElem known
    have there := T.inside _ (List.getElem_mem known)
    simp [old, Nat.ne_of_lt old, found, logs_eq _ there]
  · have missing : d.handles[a]? = none := List.getElem?_eq_none (by rw [T.count]; omega)
    by_cases new : a = issued past
    · simp [new]
    · have beyond : a - issued past ≠ 0 := by omega
      simp [old, new, missing, beyond]

/-- A new log has no handle but its own, and no lines. -/
theorem start : Tells (d.step .start).1 (.start :: past) := by
  refine ⟨?_, ?_, ?_, ?_⟩
  · intro position among
    simp only [step, List.mem_append, List.mem_singleton, List.length_append,
      List.length_singleton] at among ⊢
    rcases among with old | rfl
    · have := T.inside position old
      omega
    · omega
  · simp [step, issued, origins, T.count]
  · apply same_append T.count T.same
    intro a
    apply iff_of_false
    · intro found
      exact Nat.lt_irrefl _ (T.inside _ (List.mem_of_getElem? found))
    · intro found
      exact Nat.lt_irrefl _ (lt_issued_of_mem (List.mem_of_getElem? found))
  · intro handle
    simp only [step, shown, ← T.read]
    rw [T.read_append rfl fun i inside => List.getElem?_append_left inside]
    split
    · next new =>
      rw [read_of_missing (T.position_eq_none_iff.2 (Nat.le_of_eq new.symm))]
      simp
    · rfl

/-- A handle that is shared stands for the log of the other one from then on. -/
theorem share (old : Nat) : Tells (d.step (.share old)).1 (.share old :: past) := by
  cases found : d.position? old with
  | none =>
    have beyond := T.position_eq_none_iff.1 found
    have none : (origins past)[old]? = none := List.getElem?_eq_none beyond
    have still : origins (.share old :: past) = origins past := by simp [origins, none]
    simp only [step, found]
    refine ⟨T.inside, ?_, ?_, ?_⟩
    · rw [T.count, issued, issued, still]
    · rw [still]
      exact T.same
    · intro handle
      rw [shown, ← T.read]
      split
      · next same =>
        have unknown := T.position_eq_none_iff.2 (Nat.le_of_eq same.symm)
        rw [read_of_missing found, read_of_missing unknown]
      · rfl
  | some position =>
    have known : old < issued past := by
      by_contra beyond
      rw [T.position_eq_none_iff.2 (Nat.le_of_not_lt beyond)] at found
      cases found
    have origin := List.getElem?_eq_getElem known
    have grown : origins (.share old :: past) = origins past ++ [(origins past)[old]] := by
      rw [origins, origin]
      rfl
    simp only [step, found]
    refine ⟨?_, ?_, ?_, ?_⟩
    · intro other among
      rcases List.mem_append.1 among with before | new
      · exact T.inside other before
      · rw [List.mem_singleton.1 new]
        exact T.inside position (List.mem_of_getElem? found)
    · simp [issued, grown, T.count]
    · rw [grown]
      apply same_append T.count T.same
      intro a
      rw [← origin, ← T.same a old, found]
      rfl
    · intro handle
      rw [shown, ← T.read, T.read_append rfl fun i _ => rfl]
      split
      · rw [Desk.read, found]
        rfl
      · rfl

/-- No handle is a clone of one that has not been handed out. -/
theorem not_clones_of_missing (missing : d.position? b = none) : ¬Clones past a b := by
  intro clones
  obtain ⟨known, same⟩ := T.clones_iff.1 clones
  rw [missing, T.position_eq_none_iff] at same
  omega

/-- What is added to a log through one handle is shown through all handles of this log, and through
no others. -/
theorem add {target : Nat} {step : Step} {events : List Event}
    (quiet : origins (step :: past) = origins past)
    (told : ∀ handle, shown (step :: past) handle =
      shown past handle ++ if Clones past handle target then events else []) :
    Tells (d.update target ((d.read target).append (.ofEvents events))) (step :: past) := by
  cases found : d.position? target with
  | none =>
    rw [update_of_missing found]
    refine ⟨T.inside, ?_, ?_, ?_⟩
    · rw [T.count, issued, issued, quiet]
    · rw [quiet]
      exact T.same
    · intro handle
      rw [told, if_neg (T.not_clones_of_missing found), List.append_nil, T.read]
  | some position =>
    have known : target < d.handles.length := (List.getElem?_eq_some_iff.1 found).1
    have handles_eq (log : Log) : (d.update target log).handles = d.handles := by
      rw [update, found]
    refine ⟨?_, ?_, ?_, ?_⟩
    · intro other among
      rw [handles_eq] at among
      have := T.inside other among
      simpa [update, found] using this
    · rw [handles_eq, T.count, issued, issued, quiet]
    · intro a b
      rw [position?, position?, handles_eq, quiet]
      exact T.same a b
    · intro handle
      rw [told, read_update T.inside _ known]
      by_cases here : d.position? handle = d.position? target
      · have clones : Clones past handle target := by
          rw [T.clones_iff, here, and_iff_left rfl]
          by_contra beyond
          rw [T.position_eq_none_iff.2 (Nat.le_of_not_lt beyond), found] at here
          cases here
        rw [if_pos here, if_pos clones, Log.ofEvents_append, ← T.read handle, read_congr here]
      · have apart : ¬Clones past handle target := fun clones => here (T.clones_iff.1 clones).2
        rw [if_neg here, if_neg apart, List.append_nil, T.read]

/-- Lines are copied from another log, and from none if it is the same. -/
theorem extend (target source : Nat) :
    Tells (d.step (.extend target source)).1 (.extend target source :: past) := by
  by_cases same : d.position? target = d.position? source
  · have nothing (handle : Nat) : ¬(Clones past handle target ∧ ¬Clones past handle source) := by
      rintro ⟨clones, apart⟩
      rw [T.clones_iff] at clones apart
      exact apart (same ▸ clones)
    simp only [step, if_pos same]
    refine ⟨T.inside, T.count, T.same, ?_⟩
    intro handle
    rw [shown, if_neg (nothing handle), List.append_nil, T.read]
  · simp only [step, if_neg same]
    rw [T.read source]
    apply T.add rfl
    intro handle
    rw [shown]
    congr 1
    apply if_congr _ rfl rfl
    rw [T.clones_iff, T.clones_iff]
    grind

/-- **Every step keeps that a desk stands for what was done.** -/
theorem step (s : Step) : Tells (d.step s).1 (s :: past) := by
  cases s with
  | start => exact T.start
  | share old => exact T.share old
  | write target level line =>
    rw [Desk.step, Log.write_eq_append_ofEvents]
    exact T.add rfl fun handle => rfl
  | extend target source => exact T.extend target source

theorem run (steps : List Step) : Tells (d.run steps).1 (steps.reverse ++ past) := by
  induction steps generalizing d past with
  | nil => exact T
  | cons s steps ih =>
    rw [List.reverse_cons, List.append_assoc]
    exact ih (T.step s)

end Tells

/-! ## After any steps -/

/-- **Lines that are written make events**, and nothing else does. -/
theorem run_events (d : Desk) (steps : List Step) :
    (d.run steps).2 = steps.flatMap Step.events := by
  have first (d : Desk) (s : Step) : (d.step s).2 = s.events := by
    cases s with
    | start | write => rfl
    | share handle =>
      simp only [step]
      split <;> rfl
    | extend target source =>
      simp only [step]
      split <;> rfl
  induction steps generalizing d with
  | nil => rfl
  | cons s steps ih =>
    rw [List.flatMap_cons, ← first d s, ← ih]
    rfl

theorem Step.length_events (s : Step) : s.events.length = if s.isWrite then 1 else 0 := by
  cases s with
  | write target level line =>
    by_cases blank : line = ""
    · simp [events, isWrite, Event.ofLine, blank]
    · simp [events, isWrite, Event.ofLine, blank]
  | _ => rfl

theorem length_flatMap_events (steps : List Step) :
    (steps.flatMap Step.events).length = steps.countP Step.isWrite := by
  induction steps with
  | nil => rfl
  | cons s steps ih =>
    rw [List.flatMap_cons, List.length_append, ih, s.length_events, List.countP_cons, Nat.add_comm]

/-- What has been handed out stays as it is. -/
theorem origins_isPrefix (later past : List Step) : origins past <+: origins (later ++ past) := by
  induction later with
  | nil => exact List.prefix_refl _
  | cons s later ih =>
    apply ih.trans
    cases s with
    | start | share => exact List.prefix_append _ _
    | write | extend => exact List.prefix_refl _

/-- A handle stands for the log that it was made for ever after. -/
theorem clones_of_share (later past : List Step) {old : Nat} (known : old < issued past) :
    Clones (later ++ .share old :: past) old (issued past) := by
  have origin : (origins past)[old]? = some (origins past)[old] := List.getElem?_eq_getElem known
  have now : origins (.share old :: past) = origins past ++ [(origins past)[old]] := by
    rw [origins, origin]
    rfl
  obtain ⟨more, grown⟩ := origins_isPrefix later (.share old :: past)
  rw [now, List.append_assoc] at grown
  have beyond : (origins past).length ≤ issued past := Nat.le_refl _
  rw [Clones, issued, ← grown, List.getElem?_append_left known, List.getElem?_append_right beyond]
  constructor
  · rw [List.length_append]
    exact Nat.lt_add_right _ known
  · rw [origin, issued, Nat.sub_self]
    rfl

/-- **Logs account for what was written.** After any steps, each handle shows the lines that were
written through a handle of its log, and those that its sources showed when they were copied, in the
order of the steps. It shows a warning exactly if one of these lines was once written as a warning,
and it is empty exactly if there are none. A handle that was shared shows the same as the one that
was made from it, and so do all handles of one log. There is an event for each line that was written
and not empty, in the order of the steps, and no other. -/
theorem logs_account_for_writes (steps : List Step) :
    let seen := empty.run steps
    let past := steps.reverse
    (∀ handle, (seen.1.read handle).lines = (shown past handle).map (·.text) ∧
      ((seen.1.read handle).warned = true ↔ ∃ e ∈ shown past handle, e.level = .warning) ∧
      ((seen.1.read handle).isEmpty = true ↔ (seen.1.read handle).lines = [])) ∧
    (∀ a b, Clones past a b → seen.1.read a = seen.1.read b) ∧
    (∀ before old after, steps = before ++ .share old :: after → old < issued before.reverse →
      Clones past old (issued before.reverse)) ∧
    seen.2 = steps.flatMap Step.events ∧ seen.2.length = steps.countP Step.isWrite := by
  intro seen past
  have tells : Tells seen.1 past := by
    have run := tells_empty.run steps
    rwa [List.append_nil] at run
  refine ⟨?_, ?_, ?_, run_events _ _, ?_⟩
  · intro handle
    rw [tells.read]
    refine ⟨rfl, ?_, ?_⟩
    · simp [Log.ofEvents]
    · rw [Log.isEmpty, List.isEmpty_iff]
  · intro a b clones
    exact tells.read_eq_of_clones clones
  · rintro before old after rfl known
    have shared := clones_of_share after.reverse before.reverse known
    simpa [past] using shared
  · rw [run_events]
    exact length_flatMap_events steps

/-- A warning is written through a handle that was shared. The other log copies it through the first
handle, before another line is written; then the first log is told to copy itself. -/
def copiedBetween : List Step :=
  [.start, .start, .share 0, .write 2 .warning "disk full", .extend 1 0, .write 0 .debug "done",
    .extend 2 0, .write 1 .debug ""]

/-- The copy shows the warning as one, and not the line that was written later. -/
theorem warning_reaches_copy :
    let seen := empty.run copiedBetween
    Clones copiedBetween.reverse 0 2 ∧ seen.1.read 0 = seen.1.read 2 ∧
      (seen.1.read 2).lines = ["disk full", "done"] ∧ (seen.1.read 1).lines = ["disk full"] ∧
      (seen.1.read 1).warned = true ∧ seen.2.length = 2 := by
  intro seen
  obtain ⟨each, clones_show, shared, -, count⟩ := logs_account_for_writes copiedBetween
  have clones : Clones copiedBetween.reverse 0 2 := shared [.start, .start] 0 _ rfl (by decide)
  refine ⟨clones, clones_show 0 2 clones, (each 2).1, (each 1).1, ?_, count⟩
  apply (each 1).2.1.2
  exact ⟨⟨.warning, "disk full"⟩, by decide, rfl⟩

end Desk

end Dispatch
