import Dispatch.Settings.Basic
import Mathlib.Data.List.Basic

/-!
# The latest steps decide

A builder holds its flag twice, by itself and in the settings it has put together, and it may hold
an error in the place of settings. Every step keeps the parts in accord: after any steps the builder
is the one that the latest text, or the error met when it was read, and the latest flag make
(`Settings.Builder.run_empty`). What was given before them leaves no trace, and a flag counts
wherever it was given.

## Main definitions

* `Settings.Builder.latest`: what the last of the steps says that say anything.
* `Settings.Builder.settled`: the builder that a text or an error and a flag make.
* `Settings.Builder.Offers`, `Settings.Builder.Flagged`, `Settings.Builder.Yields`: the text that a
  step gives, the flag that steps leave, and what comes out of them, told from the steps alone.

## Main statements

* `Settings.Builder.step_settled`: a step makes a settled builder from a settled one.
* `Settings.Builder.build_eq_iff`: what is built is what the steps yield.
* `Settings.Builder.latest_steps_decide`: so a flag and a text change places freely, and errors do
  not outlast a text.
-/
namespace Dispatch.Settings.Builder

/-! ## What the steps say -/

/-- What a step says about the text: the text, or why there is none. -/
def Step.offer? (places : Places) : Step → Option (Except Error String)
  | .debug _ => none
  | .text toml => some (.ok toml)
  | .file name => some ((load places name).mapError .failure)

/-- What a step says about the flag. -/
def Step.flag? : Step → Option Bool
  | .debug value => some value
  | .text _ | .file _ => none

/-- What the last of the steps says that say anything. -/
def latest {α : Type} (about : Step → Option α) (steps : List Step) : Option α :=
  steps.reverse.findSome? about

section Latest

variable {α : Type} (about : Step → Option α)

@[simp] theorem latest_nil : latest about [] = none := rfl

theorem latest_append (before after : List Step) :
    latest about (before ++ after) = (latest about after).or (latest about before) := by
  simp [latest, List.findSome?_append]

theorem latest_cons (s : Step) (after : List Step) :
    latest about (s :: after) = (latest about after).or (about s) := by
  rw [← List.singleton_append, latest_append]
  cases said : about s <;> simp [latest, said]

@[simp] theorem latest_singleton (s : Step) : latest about [s] = about s := by
  rw [latest_cons, latest_nil, Option.none_or]

variable {about}

theorem latest_eq_none_iff {steps : List Step} :
    latest about steps = none ↔ ∀ s ∈ steps, about s = none := by
  simp [latest, List.findSome?_eq_none_iff]

theorem latest_of_silent {s : Step} {a : α} {after : List Step} (here : about s = some a)
    (silent : ∀ t ∈ after, about t = none) (before : List Step) :
    latest about (before ++ s :: after) = some a := by
  rw [latest_append, latest_cons, latest_eq_none_iff.2 silent, here]
  rfl

/-- What was said last was said by a step with none after it that says anything. -/
theorem latest_eq_some_iff {steps : List Step} {a : α} :
    latest about steps = some a ↔
      ∃ before s after, steps = before ++ s :: after ∧ about s = some a ∧
        ∀ t ∈ after, about t = none := by
  constructor
  · intro said
    obtain ⟨after, s, before, split, here, silent⟩ := List.findSome?_eq_some_iff.1 said
    refine ⟨before.reverse, s, after.reverse, ?_, here, ?_⟩
    · simpa using congrArg List.reverse split
    · simpa using silent
  · rintro ⟨before, s, after, rfl, here, silent⟩
    exact latest_of_silent here silent before

end Latest

/-! ## Settled builders -/

/-- The builder that a text or an error, if there is either, and a flag make. -/
def settled (offered : Option (Except Error String)) (flag : Bool) : Builder :=
  match offered with
  | none => ⟨none, flag, none⟩
  | some (.ok toml) => ⟨some ⟨flag, toml⟩, flag, none⟩
  | some (.error e) => ⟨none, flag, some e⟩

@[simp] theorem debug_settled (offered : Option (Except Error String)) (flag : Bool) :
    (settled offered flag).debug = flag := by
  rcases offered with _ | (_ | _) <;> rfl

/-- What comes out of a settled builder. -/
def outcome (flag : Bool) (offered : Except Error String) : Except Error Settings :=
  offered.map fun toml => ⟨flag, toml⟩

variable {places : Places}

/-- **A step keeps the parts of a builder in accord**: what it says takes the place of what was said
before, and the rest stays. -/
theorem step_settled (offered : Option (Except Error String)) (flag : Bool) (s : Step) :
    (settled offered flag).step places s =
      settled ((s.offer? places).or offered) (s.flag?.getD flag) := by
  cases s with
  | debug value =>
    -- the flag is set in both places, or in one when there are no settings
    rcases offered with _ | (_ | _) <;> rfl
  | text toml =>
    rw [step, debug_settled]
    rfl
  | file name =>
    simp only [step, Step.offer?, Step.flag?, debug_settled]
    cases load places name <;> rfl

theorem run_settled (steps : List Step) (offered : Option (Except Error String)) (flag : Bool) :
    run places steps (settled offered flag) =
      settled ((latest (Step.offer? places) steps).or offered)
        ((latest Step.flag? steps).getD flag) := by
  induction steps generalizing offered flag with
  | nil => rfl
  | cons s steps ih =>
    rw [run, step_settled, ih, latest_cons, latest_cons, Option.or_assoc]
    cases latest Step.flag? steps <;> rfl

/-- After any steps a builder is settled by the latest of them. -/
theorem run_empty (steps : List Step) :
    run places steps .empty =
      settled (latest (Step.offer? places) steps) ((latest Step.flag? steps).getD false) := by
  have settles := @run_settled places steps none false
  rwa [Option.or_none] at settles

theorem build_settled (offered : Option (Except Error String)) (flag : Bool) :
    (settled offered flag).build =
      (offered.elim (.error (.failure .notConfigured)) (outcome flag)) := by
  rcases offered with _ | (_ | _) <;> rfl

/-! ## The outcome of steps -/

/-- The text that a step gives, or why it gives none. A file is read in the home folder or, if it
is no text there, in the working folder. -/
inductive Offers (places : Places) : Step → Except Error String → Prop
  | text (toml : String) : Offers places (.text toml) (.ok toml)
  | home {name toml : String} (here : places.home.readText? name = some toml) :
    Offers places (.file name) (.ok toml)
  | working {name toml : String} (not_home : places.home.readText? name = none)
    (here : places.working.readText? name = some toml) : Offers places (.file name) (.ok toml)
  | nowhere {name : String} (not_home : places.home.readText? name = none)
    (not_working : places.working.readText? name = none) :
    Offers places (.file name) (.error (.failure (.cannotRead ("./" ++ name))))

/-- The flag that steps leave: the last one given, and false if none is. -/
inductive Flagged : List Step → Bool → Prop
  | never {steps : List Step} (silent : ∀ value, Step.debug value ∉ steps) : Flagged steps false
  | last {before after : List Step} {value : Bool} (silent : ∀ later, Step.debug later ∉ after) :
    Flagged (before ++ .debug value :: after) value

/-- What comes out of steps: the text that the last step gives that is about a text, with the flag
that all steps leave. -/
inductive Yields (places : Places) : List Step → Except Error Settings → Prop
  | unset {steps : List Step} (only_flags : ∀ s ∈ steps, ∃ value, s = .debug value) :
    Yields places steps (.error (.failure .notConfigured))
  | set {before after : List Step} {s : Step} {offered : Except Error String} {flag : Bool}
    (offers : Offers places s offered) (only_flags : ∀ t ∈ after, ∃ value, t = .debug value)
    (flagged : Flagged (before ++ s :: after) flag) :
    Yields places (before ++ s :: after) (outcome flag offered)

theorem offer?_eq_some_iff {s : Step} {offered : Except Error String} :
    s.offer? places = some offered ↔ Offers places s offered := by
  constructor
  · cases s with
    | debug value => simp [Step.offer?]
    | text toml =>
      rintro ⟨⟩
      exact .text toml
    | file name =>
      intro said
      obtain rfl := Option.some.inj said
      rw [load]
      cases home : places.home.readText? name with
      | some toml => exact .home home
      | none =>
        cases working : places.working.readText? name with
        | some toml => exact .working home working
        | none => exact .nowhere home working
  · rintro (_ | here | ⟨not_home, here⟩ | ⟨not_home, not_working⟩)
    · rfl
    · simp only [Step.offer?, load, here, Except.mapError]
    · simp only [Step.offer?, load, not_home, here, Except.mapError]
    · simp only [Step.offer?, load, not_home, not_working, Except.mapError]

theorem offer?_eq_none_iff {s : Step} : s.offer? places = none ↔ ∃ value, s = .debug value := by
  cases s <;> simp [Step.offer?]

theorem flag?_eq_none_iff {s : Step} : s.flag? = none ↔ ∀ value, s ≠ .debug value := by
  cases s <;> simp [Step.flag?]

theorem flag?_eq_some_iff {s : Step} {value : Bool} :
    s.flag? = some value ↔ s = .debug value := by
  cases s <;> simp [Step.flag?]

theorem no_flag_iff {steps : List Step} :
    (∀ s ∈ steps, s.flag? = none) ↔ ∀ value, Step.debug value ∉ steps := by
  simp only [flag?_eq_none_iff]
  constructor
  · intro silent value given
    exact silent _ given value rfl
  · rintro silent s given value rfl
    exact silent value given

theorem flagged_iff {steps : List Step} {flag : Bool} :
    (latest Step.flag? steps).getD false = flag ↔ Flagged steps flag := by
  constructor
  · rintro rfl
    cases said : latest Step.flag? steps with
    | none => exact .never (no_flag_iff.1 (latest_eq_none_iff.1 said))
    | some value =>
      obtain ⟨before, s, after, rfl, here, silent⟩ := latest_eq_some_iff.1 said
      obtain rfl := flag?_eq_some_iff.1 here
      exact .last (no_flag_iff.1 silent)
  · rintro (silent | silent)
    · rw [latest_eq_none_iff.2 (no_flag_iff.2 silent)]
      rfl
    · rw [latest_of_silent (flag?_eq_some_iff.2 rfl) (no_flag_iff.2 silent)]
      rfl

/-- What is built after some steps is what they yield. -/
theorem build_eq_iff {steps : List Step} {result : Except Error Settings} :
    (run places steps .empty).build = result ↔ Yields places steps result := by
  rw [run_empty, build_settled]
  constructor
  · rintro rfl
    cases said : latest (Step.offer? places) steps with
    | none =>
      refine .unset fun s given => ?_
      exact offer?_eq_none_iff.1 (latest_eq_none_iff.1 said s given)
    | some offered =>
      obtain ⟨before, s, after, rfl, here, silent⟩ := latest_eq_some_iff.1 said
      refine .set (offer?_eq_some_iff.1 here) (fun t later => ?_) (flagged_iff.1 rfl)
      exact offer?_eq_none_iff.1 (silent t later)
  · rintro (only_flags | ⟨offers, only_flags, flagged⟩)
    · have silent : latest (Step.offer? places) steps = none :=
        latest_eq_none_iff.2 fun s given => offer?_eq_none_iff.2 (only_flags s given)
      rw [silent]
      rfl
    · rw [flagged_iff.2 flagged, latest_of_silent (offer?_eq_some_iff.2 offers)
        fun t later => offer?_eq_none_iff.2 (only_flags t later)]
      rfl

/-! ## One more step -/

/-- A flag and a text change places without a difference to the builder. -/
theorem run_swap (before after : List Step) (value : Bool) {s : Step}
    (is_text : ∀ v, s ≠ .debug v) :
    run places (before ++ s :: .debug value :: after) .empty =
      run places (before ++ .debug value :: s :: after) .empty := by
  have no_flag : s.flag? = none := flag?_eq_none_iff.2 is_text
  simp only [run_empty, latest_append, latest_cons, no_flag]
  simp [Step.offer?]

theorem Offers.is_text {s : Step} {offered : Except Error String} (offers : Offers places s offered)
    (v : Bool) : s ≠ .debug v := by
  rintro rfl
  cases offers

/-- A text makes all that was given before forgotten, but for the flag. -/
theorem build_of_offers {s : Step} {offered : Except Error String}
    (offers : Offers places s offered) (steps : List Step) :
    (run places (steps ++ [s]) .empty).build =
      outcome ((latest Step.flag? steps).getD false) offered := by
  have no_flag : s.flag? = none := flag?_eq_none_iff.2 offers.is_text
  rw [run_empty, build_settled, latest_append, latest_append, latest_singleton, latest_singleton,
    offer?_eq_some_iff.2 offers, no_flag]
  rfl

/-- A flag changes the flag of what is built, and leaves an error as it is. -/
theorem build_of_flag (steps : List Step) (value : Bool) :
    (run places (steps ++ [.debug value]) .empty).build =
      (run places steps .empty).build.map fun settings => { settings with debug := value } := by
  rw [run_empty, run_empty, build_settled, build_settled, latest_append, latest_append,
    latest_singleton, latest_singleton]
  rcases latest (Step.offer? places) steps with _ | (_ | _) <;> rfl

/-- Each error says that nothing was given, or which file could not be read. -/
theorem Yields.message_eq {steps : List Step} {e : Error}
    (yields : Yields places steps (.error e)) :
    e.message = "config not set" ∨
      ∃ name, Step.file name ∈ steps ∧ e.message = "./" ++ name ++ ": cannot read" := by
  generalize failed : Except.error e = result at yields
  cases yields with
  | unset =>
    obtain rfl := Except.error.inj failed
    exact .inl rfl
  | set offers =>
    cases offers with
    | text | home | working => cases failed
    | @nowhere name =>
      obtain rfl := Except.error.inj failed
      exact .inr ⟨name, by simp, rfl⟩

/-- **The latest steps decide.** What is built after any steps, in whatever order, comes from two of
them at most: the last one about a text, and the last one that gives a flag. The text is the one
given, or that of a file, read in the home folder or else in the working folder. There is an error
instead when the file is no text in either of them, and when no step is about a text. The flag is
the one given last, wherever it stands, and false if none is. So neighbours of which one gives a
flag and the other is about a text may change places; an error is gone once a text follows, and a
flag does not remove it. -/
theorem latest_steps_decide (places : Places) (steps : List Step) :
    (∀ result, (run places steps .empty).build = result ↔ Yields places steps result) ∧
    (∀ before value s after, steps = before ++ .debug value :: s :: after →
      (∀ v, s ≠ .debug v) →
      run places (before ++ s :: .debug value :: after) .empty = run places steps .empty) ∧
    (∀ s toml, Offers places s (.ok toml) → ∃ flag, Flagged steps flag ∧
      (run places (steps ++ [s]) .empty).build = .ok ⟨flag, toml⟩) ∧
    (∀ value, (run places (steps ++ [.debug value]) .empty).build =
      (run places steps .empty).build.map fun settings => { settings with debug := value }) ∧
    ∀ e, (run places steps .empty).build = .error e → e.message = "config not set" ∨
      ∃ name, Step.file name ∈ steps ∧ e.message = "./" ++ name ++ ": cannot read" := by
  refine ⟨fun result => build_eq_iff, ?_, ?_, build_of_flag steps, ?_⟩
  · rintro before value s after rfl is_text
    exact run_swap before after value is_text
  · intro s toml offers
    exact ⟨_, flagged_iff.1 rfl, build_of_offers offers steps⟩
  · intro e failed
    exact (build_eq_iff.1 failed).message_eq

/-- A file that is no text at home, and one in the working folder. -/
def overlaid : Places where
  home := ⟨[(["pump.toml"], .file ⟨#[0xff]⟩)]⟩
  working := ⟨[(["pump.toml"], .file "a = 1".toUTF8)]⟩

/-- A missing file leaves an error, which the flag after it does not remove and the other file
does. -/
theorem second_file_counts :
    let missing : List Step := [.debug true, .file "gone.toml", .debug false]
    let steps : List Step := missing ++ [.file "pump.toml", .debug true]
    Yields overlaid steps (.ok ⟨true, "a = 1"⟩) ∧
    run overlaid [.file "gone.toml", .debug true, .debug false] .empty =
      run overlaid missing .empty ∧
    (∃ flag, Flagged missing flag ∧
      (run overlaid (missing ++ [.file "pump.toml"]) .empty).build = .ok ⟨flag, "a = 1"⟩) ∧
    ∃ e, (run overlaid missing .empty).build = .error e ∧
      (e.message = "config not set" ∨
        ∃ name, Step.file name ∈ missing ∧ e.message = "./" ++ name ++ ": cannot read") := by
  intro missing steps
  obtain ⟨built, -, -, -, -⟩ := latest_steps_decide overlaid steps
  obtain ⟨-, swapped, cleared, -, wording⟩ := latest_steps_decide overlaid missing
  have second : Offers overlaid (.file "pump.toml") (.ok "a = 1") :=
    .working (by decide) (by decide)
  refine ⟨(built _).1 rfl, ?_, cleared _ _ second, _, rfl, wording _ rfl⟩
  exact swapped [] true (.file "gone.toml") [.debug false] rfl (by simp)

end Dispatch.Settings.Builder
