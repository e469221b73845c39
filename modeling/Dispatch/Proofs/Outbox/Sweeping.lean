import Dispatch.Proofs.Outbox.Batches
import Dispatch.Proofs.Outbox.Performing
import Dispatch.Proofs.Outbox.Purposes
import Dispatch.Proofs.Text.ByteOrder

/-!
# Flushing all destinations

Flushing all destinations goes through those that are known when it starts. Each of them is flushed
from where the one before has led, whatever became of that one, and while a batch is in flight
anything else may happen, new destinations included. So it is a tour (`Outbox.Tour`): what a caller
does who asks for these flushes one after the other. What it gives back is a summary of their
results.

## Main definitions

* `Leg.inputs`, `Outbox.Tour`: flushes that a caller asks for, one after the other.
* `Leg.failures`, `Outbox.Summary`: the errors of the flushes, and what is made of their results.

## Main statements

* `Outbox.exists_tour`: flushing several destinations is such a tour.
* `Outbox.conclude_summary`: its result is the summary.
* `Outbox.exists_answered`: it is over after as many answers as there are messages.
* `Outbox.flushAll_tours`: flushing all destinations is flushing each of them once.
-/
namespace Dispatch

open History

variable {μ : Type}

/-- The lines of several logs, one log after the other. -/
def Log.concat (logs : List Log) : Log := ⟨logs.flatMap (·.lines), logs.any (·.warned)⟩

theorem Log.concat_cons (log : Log) (logs : List Log) :
    concat (log :: logs) = log.append (concat logs) := rfl

/-- A line that is written is a log of its own that is added. -/
theorem Log.write_eq_append (log : Log) (level : Level) (line : String) :
    log.write level line = log.append (empty.write level line) := by
  by_cases blank : line = ""
  · simp [write, blank]
  · simp [write, blank, append, empty]

namespace Leg

/-- A caller asks for the flush. -/
def inputs (leg : Leg μ) : List (Input μ) := .start (.flush leg.destination) :: leg.during

/-- All that is noticed when a caller asks for the flush. -/
def notices (leg : Leg μ) : List (Notice μ) :=
  leg.told ++ [.finished (leg.result.map .drained)]

def failure? (leg : Leg μ) : Option Error :=
  match leg.result with
  | .ok _ => none
  | .error e => some e

/-- The errors of the flushes that failed, in the order of the flushes. -/
def failures (legs : List (Leg μ)) : List Error := legs.filterMap failure?

theorem failures_cons (leg : Leg μ) (legs : List (Leg μ)) :
    failures (leg :: legs) = failures [leg] ++ failures legs :=
  List.filterMap_append (l := [leg])

/-- What flushing several destinations logs of a flush: its log, or that it failed. -/
def entry (leg : Leg μ) : Log :=
  match leg.result with
  | .ok log => log
  | .error e => Log.empty.write .warning (LogLine.notFlushed leg.destination e)

/-- What flushing several destinations remarks on a flush: that it failed. -/
def remarks (leg : Leg μ) : List (Notice μ) :=
  match leg.result with
  | .ok _ => []
  | .error e => [Outbox.warning (LogLine.notFlushed leg.destination e)]

/-- Remarks and results are no calls of the carrier. -/
theorem calls_flatMap_remarks (legs : List (Leg μ)) (result : Except Error Outcome) :
    calls (legs.flatMap (fun leg => leg.told ++ leg.remarks) ++ [.finished result]) =
      legs.flatMap fun leg => calls leg.told := by
  have silent (leg : Leg μ) : leg.remarks.filter Notice.isCall = [] := by
    rw [remarks]
    split <;> rfl
  simp [calls, List.filter_flatMap, silent, Notice.isCall]

theorem calls_flatMap_notices (legs : List (Leg μ)) :
    calls (legs.flatMap notices) = legs.flatMap fun leg => calls leg.told := by
  simp [calls, List.filter_flatMap, notices, Notice.isCall]

/-- All flushes went well when there are no errors, and then what is logged of them are their
logs. -/
theorem results_eq_iff {legs : List (Leg μ)} {logs : List Log} :
    legs.map (·.result) = logs.map .ok ↔ failures legs = [] ∧ legs.map entry = logs := by
  induction legs generalizing logs with
  | nil => cases logs <;> simp [failures]
  | cons leg legs ih =>
    obtain ⟨d, during, told, said, result⟩ := leg
    rw [failures_cons]
    cases logs with
    | nil => simp
    | cons log logs =>
      cases result with
      | ok flushed =>
        simp only [List.map_cons, List.cons.injEq, Except.ok.injEq, ih, failures, failure?, entry,
          List.filterMap_cons, List.filterMap_nil, List.nil_append]
        tauto
      | error e => simp [failures, failure?]

/-- After a flush the other destinations follow, whatever became of it. -/
theorem resume_sweep (leg : Leg μ) (o : Outbox μ) (ds : List String) (log : Log)
    (errors : List Error) :
    o.resume leg.destination leg.result (.sweep ds log errors) =
      ((o.sweep ds (log.append leg.entry) (errors ++ failures [leg])).1,
        leg.remarks ++ (o.sweep ds (log.append leg.entry) (errors ++ failures [leg])).2) := by
  obtain ⟨d, during, told, said, result⟩ := leg
  cases result with
  | ok flushed => simp [Outbox.resume, entry, remarks, failures, failure?, List.filterMap_cons]
  | error e =>
    simp [Outbox.resume, entry, remarks, failures, failure?, Log.write_eq_append log]

end Leg

namespace Outbox

variable {o last : Outbox μ} {legs : List (Leg μ)}

/-! ## Flushes one after the other -/

/-- Flushes that a caller asks for one after the other, each when the one before is over. -/
inductive Tour : Outbox μ → List (Leg μ) → Outbox μ → Prop
  | done (o : Outbox μ) : Tour o [] o
  | leg {o next last : Outbox μ} {leg : Leg μ} {legs : List (Leg μ)}
      (first : leg.Leads o next) (rest : Tour next legs last) : Tour o (leg :: legs) last

theorem Tour.run_eq (tour : Tour o legs last) :
    o.run (legs.flatMap Leg.inputs) = (last, legs.flatMap Leg.notices) := by
  induction tour with
  | done => rfl
  | leg first _ ih =>
    rw [List.flatMap_cons, List.flatMap_cons, run_append, Leg.inputs, first.run_eq, ih]
    rfl

/-- **Flushing several destinations is a tour through them.** Each of them is flushed, whatever
became of the others. -/
theorem exists_tour (rest : o.Resting) {ds : List String} {log : Log} {errors : List Error}
    {during : List (Input μ)} (ongoing : Ongoing 0 (o.sweep ds log errors).1 during)
    (ended : (onward (o.sweep ds log errors) during).1.flights = []) :
    ∃ (legs : List (Leg μ)) (last : Outbox μ), Tour o legs last ∧ legs.map (·.destination) = ds ∧
      during = legs.flatMap (·.during) ∧
      onward (o.sweep ds log errors) during =
        (last, legs.flatMap (fun leg => leg.told ++ leg.remarks) ++
          [.finished (conclude (log.append (.concat (legs.map Leg.entry)))
            (errors ++ Leg.failures legs))]) := by
  induction ds generalizing o log errors during with
  | nil =>
    have grounded : (o.sweep [] log errors).1.flights.length ≤ 0 := by simp [sweep, rest.grounded]
    obtain rfl := eq_nil_of_ongoing ongoing grounded
    refine ⟨[], o, .done o, rfl, rfl, ?_⟩
    rw [onward_nil, sweep]
    simp [Log.concat, Leg.failures, Log.append]
  | cons d ds ih =>
    have none : o.flights.length = 0 := by rw [rest.grounded, List.length_nil]
    rw [sweep_cons rest] at ongoing ended ⊢
    rw [← none] at ongoing
    obtain ⟨leg, left, later, rfl, rfl, flights_eq, quiet, serves⟩ :=
      Leg.exists_serves rest.sound.exclusive (rest.idle d) ongoing (by simp [ended])
    have first : leg.Leads o left :=
      Leg.leads_of_serves (rest.idle _) (serves .flush) flights_eq quiet
    have still : left.Resting := by
      have sound := rest.sound.run (.start (.flush leg.destination) :: leg.during)
      rw [first.run_eq] at sound
      exact ⟨sound, flights_eq.trans rest.grounded⟩
    obtain ⟨goes_on, going⟩ := (serves (.sweep ds log errors)).onward_append later
    rw [leg.resume_sweep] at goes_on going
    -- the other destinations are flushed from where the first flush has led
    rw [going, none] at ongoing
    rw [goes_on] at ended ⊢
    obtain ⟨legs, last, tour, rfl, rfl, told⟩ := ih still ongoing ended
    refine ⟨leg :: legs, last, .leg first tour, rfl, rfl, ?_⟩
    have more := congrArg Prod.snd told
    have reached := congrArg Prod.fst told
    simp only [onward] at more reached ⊢
    rw [reached, List.append_assoc leg.remarks, more]
    simp [Log.concat_cons, Log.append_assoc, Leg.failures_cons leg legs, List.append_assoc]

/-! ## The result -/

/-- What is made of the results of several flushes: their logs, one after the other, when all of
them went well; the error of the only one that failed, as it is; and all the errors when there are
two of them or more. -/
structure Summary (legs : List (Leg μ)) (result : Except Error Outcome) : Prop where
  ok_iff : ∀ outcome, result = .ok outcome ↔
    ∃ logs : List Log, legs.map (·.result) = logs.map .ok ∧ outcome = .drained (.concat logs)
  one_iff : ∀ e, result = .error e ∧ e ∈ Leg.failures legs ↔ Leg.failures legs = [e]
  several_iff : result = .error (.several (Leg.failures legs)) ↔ 2 ≤ (Leg.failures legs).length

/-- An error is not one of the errors that it lists. -/
theorem several_notMem (errors : List Error) : Error.several errors ∉ errors := by
  intro among
  have smaller := List.sizeOf_lt_of_mem among
  simp at smaller

theorem conclude_summary (legs : List (Leg μ)) :
    Summary legs (conclude (.concat (legs.map Leg.entry)) (Leg.failures legs)) := by
  have well (logs : List Log) : legs.map (·.result) = logs.map .ok ↔
      Leg.failures legs = [] ∧ legs.map Leg.entry = logs := Leg.results_eq_iff
  have other := several_notMem (Leg.failures legs)
  match failed : Leg.failures legs with
  | [] =>
    refine ⟨fun outcome => ?_, by simp [conclude, failed], by simp [conclude, failed]⟩
    simp [conclude, well, failed, eq_comm]
  | [e] =>
    rw [failed] at other
    refine ⟨by simp [conclude, well, failed], fun e' => ?_, ?_⟩
    · simp [conclude, failed, eq_comm]
    · simpa [conclude, failed, eq_comm] using other
  | e :: e' :: errors =>
    rw [failed] at other
    refine ⟨by simp [conclude, well, failed], fun e'' => ?_, by simp [conclude, failed]⟩
    simp only [conclude, failed]
    constructor
    · rintro ⟨same, among⟩
      cases same
      exact absurd among other
    · intro same
      cases same

/-! ## Answers bring it to its end -/

/-- Answers alone bring an operation to its end, no more of them than what is due. -/
theorem exists_answered (sound : o.Sound) (alone : o.flights.length ≤ 1) {answers : List Answer}
    (enough : o.due ≤ answers.length) :
    ∃ k ≤ o.due, Ongoing 0 o ((answers.take k).map .answer) ∧
      (o.run ((answers.take k).map .answer)).1.flights = [] := by
  induction answers generalizing o with
  | nil =>
    rcases grounded_or_flying alone with grounded | ⟨f, flying⟩
    · exact ⟨0, Nat.zero_le _, trivial, grounded⟩
    · exact absurd (Nat.lt_of_lt_of_le (due_pos sound flying) enough) (Nat.lt_irrefl 0)
  | cons answer answers ih =>
    rcases grounded_or_flying alone with grounded | ⟨f, flying⟩
    · exact ⟨0, Nat.zero_le _, trivial, grounded⟩
    have less := due_settle_lt sound flying answer
    rw [List.length_cons] at enough
    obtain ⟨k, few, ongoing, ended⟩ := ih (sound.step (.answer answer))
      (alone_settle sound flying answer).1 (show (o.settle answer).1.due ≤ _ by omega)
    have flies : 0 < o.flights.length := by rw [flying, List.length_singleton]; exact Nat.one_pos
    refine ⟨k + 1, ?_, ⟨flies, ongoing⟩, ended⟩
    exact Nat.le_trans (Nat.succ_le_succ few) less

theorem Resting.returns_of_ended (rest : o.Resting) {operation : Operation μ}
    {during : List (Input μ)} (ongoing : Ongoing 0 (o.start operation).1 during)
    (ended : (o.run (.start operation :: during)).1.flights = []) :
    ∃ result, o.Returns operation during result := by
  have starts : ∀ answer, Input.start operation = .answer answer → o.flights ≠ [] := by simp
  obtain ⟨result, last⟩ := finished_of_ongoing rest.sound starts ongoing ended
  refine ⟨result, ?_, ?_, last⟩
  · rwa [rest.grounded]
  · rw [ended, rest.grounded]

/-- Answers alone bring the flush of all destinations to its end, no more of them than there are
messages. -/
theorem exists_returns_flushAll (rest : o.Resting) {answers : List Answer}
    (enough : o.load ≤ answers.length) :
    ∃ k ≤ o.load, ∃ result, o.Returns .flushAll ((answers.take k).map .answer) result := by
  have sound : (o.start .flushAll).1.Sound := rest.sound.step (.start .flushAll)
  have grounded : o.below (.start .flushAll) = [] := rest.grounded
  have alone : (o.start .flushAll).1.flights.length ≤ 1 :=
    (alone_step rest.sound grounded (by simp)).1
  have once : o.destinations.Nodup := o.queues.nodup_names
  have due := (o.start_halts .flushAll).due_le rest.grounded once
  have bound := o.waitingFor_le_load once
  have few : (o.start .flushAll).1.due ≤ o.load :=
    Nat.le_trans due (Nat.le_trans (Nat.le_add_right _ _) bound)
  obtain ⟨k, fewer, ongoing, ended⟩ :=
    exists_answered sound alone (Nat.le_trans few enough)
  exact ⟨k, Nat.le_trans fewer few, rest.returns_of_ended ongoing ended⟩

/-! ## All destinations -/

/-- **Flushing all destinations is flushing each of them once**, whatever fails. Take an outbox with
nothing in flight, as any history leaves it. Its destinations ascend in the order of their bytes.
When flushing all of them is over, with whatever was started meanwhile, then a caller who asks for
the flushes of just these destinations, one after the other and with the same things started
meanwhile, comes to the same outbox with the same calls of the carrier, and the result is the
summary of what that caller gets. It is over after at most as many answers as there are messages.
Closing is the same, of an outbox that is marked as closed. -/
theorem flushAll_tours {limit : ℕ} {fresh : Outbox μ} (made : fresh.Made limit)
    (before : List (Input μ)) (grounded : (fresh.run before).1.flights = []) :
    let o := (fresh.run before).1
    (o.destinations.Pairwise fun a b => Text.utf8 a < Text.utf8 b) ∧
    (∀ during : List (Input μ), Ongoing 0 (o.start .flushAll).1 during →
      (o.run (.start .flushAll :: during)).1.flights = [] →
      ∃ (legs : List (Leg μ)) (result : Except Error Outcome),
        let all := o.run (.start .flushAll :: during)
        let each := o.run (legs.flatMap Leg.inputs)
        Tour o legs all.1 ∧ legs.map (·.destination) = o.destinations ∧
          during = legs.flatMap (·.during) ∧ all.1 = each.1 ∧ calls all.2 = calls each.2 ∧
          o.Returns .flushAll during result ∧ Summary legs result) ∧
    (∀ answers : List Answer, o.load ≤ answers.length →
      ∃ k ≤ o.load, ∃ result, o.Returns .flushAll ((answers.take k).map .answer) result) ∧
    ∀ inputs : List (Input μ), o.run (.start .close :: inputs) =
      ({ o with closed := true } : Outbox μ).run (.start .flushAll :: inputs) := by
  intro o
  have rest : o.Resting := ⟨made.sound.run before, grounded⟩
  refine ⟨o.queues.ascending_names, ?_, fun answers => exists_returns_flushAll rest,
    fun inputs => rfl⟩
  intro during ongoing ended
  obtain ⟨result, returned⟩ := rest.returns_of_ended ongoing ended
  obtain ⟨legs, last, tour, names, parts, told⟩ := exists_tour rest ongoing ended
  refine ⟨legs, result, ?_⟩
  have last_notice := returned.result_eq
  rw [run_start, start, told, List.getLast?_concat] at last_notice
  cases last_notice
  rw [run_start, start, told, tour.run_eq]
  refine ⟨tour, names, parts, rfl, ?_, returned, ?_⟩
  · rw [Leg.calls_flatMap_remarks, Leg.calls_flatMap_notices]
  · simpa using conclude_summary legs

/-- Messages wait for three destinations, and batches have at most two. -/
def threeKnown : Outbox ℕ :=
  ((double ℕ).run [.start (.send "a" (.ok 1)),
    .start (.send "b" (.ok 2)), .start (.send "b" (.ok 3)), .start (.send "c" (.ok 4))]).1

/-- The first call fails, and during it a message is sent to a fourth destination; in the second
call an entry is refused, and the third one goes well. -/
def twoFail : List (Input ℕ) :=
  [.start (.send "aa" (.ok 9)), .answer (.error (.failure (.other "network down"))),
    .answer (.ok ⟨[⟨0, "x"⟩], [⟨1, true, "Rejected", "too old"⟩]⟩),
    .answer (.ok ⟨[⟨0, "y"⟩], []⟩)]

/-- The errors of the first two calls. -/
def twoErrors : List Error :=
  [.failure (.other "network down"), .batchFailed "b" 2 [⟨1, true, "Rejected", "too old"⟩]]

/-- The third destination is flushed although the first two fail, and the fourth one is not. -/
theorem third_flushed_after_failures :
    threeKnown.flights = [] ∧ Ongoing 0 (threeKnown.start .flushAll).1 twoFail ∧
      (threeKnown.run (.start .flushAll :: twoFail)).1.queues.fields =
        [("a", [1]), ("aa", [9]), ("b", [3]), ("c", [])] ∧
      ∃ legs : List (Leg ℕ), Tour threeKnown legs (threeKnown.run (.start .flushAll :: twoFail)).1 ∧
        legs.map (·.destination) = ["a", "b", "c"] ∧
        threeKnown.Returns .flushAll twoFail (.error (.several twoErrors)) ∧
        Summary legs (.error (.several twoErrors)) := by
  have made : (double ℕ).Made 10 := .inl ⟨2, rfl⟩
  have grounded : threeKnown.flights = [] := rfl
  have ongoing : Ongoing 0 (threeKnown.start .flushAll).1 twoFail := by decide
  have ended : (threeKnown.run (.start .flushAll :: twoFail)).1.flights = [] := by decide +kernel
  have last : (threeKnown.run (.start .flushAll :: twoFail)).2.getLast? =
      some (.finished (.error (.several twoErrors))) := by rfl
  obtain ⟨-, tours, -⟩ := flushAll_tours made _ grounded
  obtain ⟨legs, result, tour, names, -, -, -, returned, summary⟩ := tours twoFail ongoing ended
  obtain rfl : result = .error (.several twoErrors) :=
    Notice.finished.inj (Option.some.inj (returned.result_eq.symm.trans last))
  exact ⟨grounded, ongoing, by decide +kernel, legs, tour, names, returned, summary⟩

end Outbox

end Dispatch
