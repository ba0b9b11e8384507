/-
Module: Lectern.Proofs.Generation.Deadline
Purpose: How a run keeps to its time, with durations that are counted exactly: it asks for one source
  in each attempt at most, neither waits for one nor sleeps beyond its deadline, and stops at the
  first attempt that starts too late.
Trusted boundary: none
Main exports: Limits, Budgets.pace_eq, ExactBudgets, Run.Overdue, Run.KeepsTime, Run.run_keeps_time
-/
import Mathlib.Algebra.Order.Ring.Rat
import Mathlib.Tactic.Linarith
import Lectern.Proofs.Generation.Attempts
import Lectern.Proofs.Program.World

namespace Lectern

/-! ## Exact budgets -/

/-- How durations are made of minutes and of doublings. -/
class Scale (τ : Type) where
  minutes : τ → τ
  /-- A duration that is doubled some times, if there is such a number. -/
  doubled? : τ → Int → Option τ

/-- The budgets of a lesson, whatever durations are counted in. -/
structure Limits (τ : Type) where
  attempts : Int
  minutes : τ
  attempt : τ
  base : τ
  most : τ

/-- Budgets in seconds: the delay is the base, doubled with each further attempt that failed, up to a
maximum. -/
def Limits.pace {τ : Type} [Seconds τ] [Scale τ] (limits : Limits τ) : Pace τ where
  attempts := limits.attempts.toNat
  limit := Scale.minutes limits.minutes
  attemptLimit := limits.attempt
  backoff failed := match Scale.doubled? limits.base ((failed : Int) - 1) with
    | some delay => .ok (Seconds.least delay limits.most)
    | none => .error backoffOverflow

instance : Scale Float where
  minutes count := count * 60.0
  doubled? base times := if times ≥ 1024 then none else some (base * Number.twoToThe times)

/-- The budgets of the settings. -/
def Budgets.limits (budgets : Budgets) : Limits Float where
  attempts := budgets.maxAttempts
  minutes := budgets.maxMinutes
  attempt := budgets.attemptTimeoutSeconds
  base := budgets.backoffBaseSeconds
  most := budgets.backoffMaxSeconds

/-- The budgets of the settings are counted in the same way as exact ones. -/
theorem Budgets.pace_eq (budgets : Budgets) : budgets.pace = budgets.limits.pace := by
  have backoff (failed : Nat) : budgets.pace.backoff failed = budgets.limits.pace.backoff failed := by
    by_cases far : (failed : Int) - 1 ≥ 1024
    · simp only [pace, backoffDelay?, limits, Limits.pace, Scale.doubled?, if_pos far]
    · have least (a b : Float) : Seconds.least a b = if b < a then b else a := by
        by_cases less : b < a
        · rw [if_pos less]
          exact if_pos (decide_eq_true less)
        · rw [if_neg less]
          exact if_neg (by simpa [Seconds.isLess] using less)
      simp only [pace, backoffDelay?, limits, Limits.pace, Scale.doubled?, if_neg far, least]
  have same : budgets.pace.backoff = budgets.limits.pace.backoff := funext backoff
  rw [show budgets.pace = { budgets.limits.pace with backoff := budgets.pace.backoff } from rfl, same]

/-- Exact seconds, written with some places; a half goes to the even neighbour. -/
instance : Seconds ℚ where
  zero := 0
  add := (· + ·)
  sub := (· - ·)
  isLess a b := a < b
  isLeft a := 0 < a
  written places value :=
    let units := Number.roundToEven (value.num.natAbs * 10 ^ places) value.den
    let text := Number.placePoint places units
    String.ofList (if value < 0 then '-' :: text else text)

instance : Scale ℚ where
  minutes count := count * 60
  doubled? base times := some (base * 2 ^ times)

/-- Budgets in exact numbers that the settings may have. -/
structure ExactBudgets extends Limits ℚ where
  some_attempt : 1 ≤ attempts
  some_minutes : 0 < minutes
  some_time : 0 < attempt
  base_nonneg : 0 ≤ base
  most_nonneg : 0 ≤ most

/-- The budgets where the settings name none. -/
def ExactBudgets.standard : ExactBudgets where
  attempts := 3
  minutes := 10
  attempt := 120
  base := 2
  most := 10
  some_attempt := by decide
  some_minutes := by decide
  some_time := by decide
  base_nonneg := by decide
  most_nonneg := by decide

namespace Seconds

theorem least_eq_min (a b : ℚ) : least a b = min a b := by
  change (if decide (b < a) = true then b else a) = min a b
  split
  next smaller => exact (min_eq_right (of_decide_eq_true smaller).le).symm
  next other => exact (min_eq_left (not_lt.mp (by simpa using other))).symm

theorem positivePart_eq_max (a : ℚ) : positivePart a = max a 0 := by
  change (if decide (a < 0) = true then 0 else a) = max a 0
  split
  next negative => exact (max_eq_right (of_decide_eq_true negative).le).symm
  next other => exact (max_eq_left (not_lt.mp (by simpa using other))).symm

end Seconds

/-- No delay is beyond the maximum. -/
theorem ExactBudgets.backoff_le (budgets : ExactBudgets) (failed : Nat) :
    ∃ delay, budgets.pace.backoff failed = .ok delay ∧ delay ≤ budgets.most :=
  ⟨_, rfl, by rw [Seconds.least_eq_min]; exact min_le_right _ _⟩

namespace Run

open Program

/-! ## Readings of the clock -/

variable {τ : Type} {log front back : List (Inquiry τ)} {inquiry : Inquiry τ}

/-- How often the clock was asked since the last trace, or since the start. -/
def readingsSinceTrace (log : List (Inquiry τ)) : Nat :=
  (log.reverse.takeWhile fun inquiry => !inquiry.isTracing).countP (·.isReading)

/-- The next reading is the one at the start of an attempt. There is one before it: of the start of
the run, or of the wait for this attempt. -/
def OpensAttempt (log : List (Inquiry τ)) : Prop := readingsSinceTrace log = 1

private theorem readingsSinceTrace_snoc (log : List (Inquiry τ)) (inquiry : Inquiry τ) :
    readingsSinceTrace (log ++ [inquiry]) =
      if inquiry.isTracing then 0 else readingsSinceTrace log + if inquiry.isReading then 1 else 0 := by
  unfold readingsSinceTrace
  rw [List.reverse_append, List.reverse_singleton, List.singleton_append, List.takeWhile_cons]
  cases inquiry.isTracing with
  | true => rfl
  | false => exact List.countP_cons

/-- An attempt has started at or behind a deadline. -/
def Overdue (deadline : ℚ) (log : List (Inquiry ℚ)) : Prop :=
  ∃ front now back, log = front ++ .reads now :: back ∧ OpensAttempt front ∧ deadline ≤ now

private theorem overdue_snoc {deadline : ℚ} {log : List (Inquiry ℚ)} {inquiry : Inquiry ℚ} :
    Overdue deadline (log ++ [inquiry]) ↔ Overdue deadline log ∨
      ∃ now, inquiry = .reads now ∧ OpensAttempt log ∧ deadline ≤ now := by
  constructor
  · rintro ⟨front, now, back, split, opens, late⟩
    rcases List.eq_nil_or_concat back with rfl | ⟨back, last, rfl⟩
    · obtain ⟨rfl, same⟩ := List.append_inj' split rfl
      exact .inr ⟨now, List.cons.inj same |>.1, opens, late⟩
    · rw [List.concat_eq_append, ← List.cons_append, ← List.append_assoc] at split
      exact .inl ⟨front, now, back, (List.append_inj' split rfl).1, opens, late⟩
  · rintro (⟨front, now, back, rfl, opens, late⟩ | ⟨now, rfl, opens, late⟩)
    · exact ⟨front, now, back ++ [inquiry], by simp, opens, late⟩
    · exact ⟨log, now, [], rfl, opens, late⟩

/-- What was asked in a run that is in time: how often the generator, how often for a trace to be
kept, and how often the clock since then. -/
structure InTime (deadline : ℚ) (log : List (Inquiry ℚ)) (generated traced readings : Nat) :
    Prop where
  timely : ¬ Overdue deadline log
  generated : generations log = generated
  traced : tracings log = traced
  readings : readingsSinceTrace log = readings

namespace InTime

variable {deadline : ℚ} {log : List (Inquiry ℚ)} {generated traced readings : Nat}

/-- One more inquiry, which is not a late start of an attempt. -/
private theorem snoc (inTime : InTime deadline log generated traced readings)
    (inquiry : Inquiry ℚ)
    (timely : ∀ now, inquiry = .reads now → readings = 1 → now < deadline) :
    InTime deadline (log ++ [inquiry])
      (generated + if inquiry.isGeneration then 1 else 0)
      (traced + if inquiry.isTracing then 1 else 0)
      (if inquiry.isTracing then 0 else readings + if inquiry.isReading then 1 else 0) where
  timely late := by
    rcases overdue_snoc.mp late with late | ⟨now, rfl, opens, late⟩
    · exact inTime.timely late
    · exact absurd (timely now rfl (inTime.readings.symm.trans opens)) (not_lt.mpr late)
  generated := by
    rw [generations_append, inTime.generated]
    cases kind : inquiry.isGeneration <;> simp [generations, kind]
  traced := by
    rw [tracings_append, inTime.traced]
    cases kind : inquiry.isTracing <;> simp [tracings, kind]
  readings := by rw [readingsSinceTrace_snoc, inTime.readings]

/-- One more inquiry that is no reading. -/
private theorem snoc_other (inTime : InTime deadline log generated traced readings)
    {inquiry : Inquiry ℚ} (other : inquiry.isReading = false) :
    InTime deadline (log ++ [inquiry])
      (generated + if inquiry.isGeneration then 1 else 0)
      (traced + if inquiry.isTracing then 1 else 0)
      (if inquiry.isTracing then 0 else readings) := by
  have more := inTime.snoc inquiry fun now same => by
    rw [same] at other
    cases other
  rwa [other] at more

end InTime

/-! ## What a run may ask for -/

/-- Nothing but what brings a run to its end without success: no source, no sleep, no content, and no
status but that of a failure. -/
def Concludes {β : Type} : Request τ β → Prop
  | .generate _ _ => False
  | .sleep _ => False
  | .store (.addContent _ _ _ _) => False
  | .store (.setStatus _ status) => status = .failed
  | _ => True

/-- Some time is waited for right behind a reading of the clock, and is over by the deadline. -/
def EndsBy (deadline : ℚ) (log : List (Inquiry ℚ)) (duration : ℚ) : Prop :=
  ∃ earlier now, log = earlier ++ [.reads now] ∧ now + duration ≤ deadline

/-- What a run may ask for behind all that it has asked. -/
def mayAsk (budgets : ExactBudgets) (deadline : ℚ) (log : List (Inquiry ℚ)) {β : Type}
    (request : Request ℚ β) : Prop :=
  (Overdue deadline log → Concludes request) ∧
    match request with
    | .generate _ timeout => generations log = tracings log ∧
        generations log < budgets.attempts.toNat ∧ 0 < timeout ∧ timeout ≤ budgets.attempt ∧
        EndsBy deadline log timeout
    | .sleep duration => 0 < duration ∧ duration ≤ budgets.most ∧ EndsBy deadline log duration
    | .clock => Overdue deadline log → ¬ OpensAttempt log
    | _ => True

/-- The rules for a run, whatever is answered. -/
private abbrev timeRules (budgets : ExactBudgets) (deadline : ℚ) : Discipline ℚ (List (Inquiry ℚ)) :=
  .recording (fun log _ request => mayAsk budgets deadline log request) fun _ _ _ _ => True

/-! ## Parts of a run -/

/-- The attempt that a run makes when its time is over. -/
def lateAttempt (task : Task ℚ) (number : Nat) (now : ℚ) : Attempt :=
  Evaluation.failed number none .timeout [outOfTime task now] [] []

/-- A run whose time is over ends with the trace of the attempt that started too late. -/
def EndsLate (task : Task ℚ) (number : Nat) (back : List (Inquiry ℚ))
    (result : Except Failure Report) : Prop :=
  ∃ prompt now moment kept,
    back = [.reads now, ⟨.moment, .ok moment⟩,
      ⟨.store (.appendTrace (traceOf task.lesson.id prompt task.model none
        (lateAttempt task number now) moment)), .ok ()⟩,
      ⟨.store (.setStatus task.lesson.id .failed), .ok kept⟩] ∧
    result = .ok (failureReport task.lesson.id number (lateAttempt task number now))

/-- A run keeps to its time, by all that it asked and what it came to. -/
structure KeepsTime (budgets : ExactBudgets) (task : Task ℚ) (log : List (Inquiry ℚ))
    (result : Except Failure Report) : Prop where
  /-- Each source is asked for in an attempt of its own: as many traces are kept as sources were
  asked for before. -/
  once : ∀ {front back prompt timeout answer},
    log = front ++ ⟨.generate prompt timeout, answer⟩ :: back → generations front = tracings front
  within : (generations log : ℤ) ≤ budgets.attempts
  timeout : ∀ {front back prompt timeout answer},
    log = front ++ ⟨.generate prompt timeout, answer⟩ :: back →
    0 < timeout ∧ timeout ≤ budgets.attempt ∧ EndsBy task.deadline front timeout
  sleep : ∀ {front back duration answer}, log = front ++ ⟨.sleep duration, answer⟩ :: back →
    0 < duration ∧ duration ≤ budgets.most ∧ EndsBy task.deadline front duration
  /-- Behind the reading at the start of an attempt that is at or past the deadline, nothing is asked
  for but what ends the run without success. -/
  stops : ∀ {front back now}, log = front ++ .reads now :: back → OpensAttempt front →
    task.deadline ≤ now → ∀ inquiry ∈ back, Concludes inquiry.request
  /-- If all of that goes well, the lesson has failed, and the trace of that attempt tells why. -/
  fails : ∀ {front back now}, log = front ++ .reads now :: back → OpensAttempt front →
    task.deadline ≤ now → (∀ inquiry ∈ back, inquiry.IsReliable) →
    EndsLate task (tracings front + 1) back result

section Parts

variable {budgets : ExactBudgets} {task : Task ℚ} {count : Nat} {log : List (Inquiry ℚ)}

/-- The attempt behind so many others started too late, and no source was asked for since. -/
private structure Missed (deadline : ℚ) (count : Nat) (log back : List (Inquiry ℚ)) : Prop where
  split : ∃ front now, log = front ++ .reads now :: back ∧ OpensAttempt front ∧ deadline ≤ now ∧
    generations front = count ∧ tracings front = count
  silent : generations back = 0

/-- A run has asked for no more sources than it may. If an attempt started too late and all that came
since went well, the run has ended for that. -/
private def TimelyEnd (budgets : ExactBudgets) (task : Task ℚ) (log : List (Inquiry ℚ))
    (result : Except Failure Report) : Prop :=
  generations log ≤ budgets.attempts.toNat ∧
    (Overdue task.deadline log → ∃ count back, Missed task.deadline count log back ∧
      ((∀ inquiry ∈ back, inquiry.IsReliable) → EndsLate task (count + 1) back result))

private theorem Missed.snoc {deadline : ℚ} {back : List (Inquiry ℚ)}
    (missed : Missed deadline count log back) (inquiry : Inquiry ℚ)
    (silent : inquiry.isGeneration = false) :
    Missed deadline count (log ++ [inquiry]) (back ++ [inquiry]) := by
  obtain ⟨⟨front, now, rfl, opens, late, counts⟩, none⟩ := missed
  refine ⟨⟨front, now, by simp, opens, late, counts⟩, ?_⟩
  rw [generations_append, none]
  simp [generations, silent]

/-- A call that may be made, and what follows it. -/
private theorem timed_then {α β : Type} {request : Request ℚ α} {next : α → Program ℚ β}
    {deadline : ℚ} {post : List (Inquiry ℚ) → Except Failure β → Prop}
    (may : mayAsk budgets deadline log request)
    (fails : ∀ failure, post (log ++ [⟨request, .error failure⟩]) (.error failure))
    (goes : ∀ value, (next value).Keeps (timeRules budgets deadline) post
      (log ++ [⟨request, .ok value⟩])) :
    (Program.call request >>= next).Keeps (timeRules budgets deadline) post log := by
  rw [keeps_bind', keeps_call]
  refine ⟨may, ?_⟩
  intro answer _
  cases answer with
  | ok value => exact goes value
  | error failure => exact fails failure

/-- What an attempt behind some others comes to: it is made or fails in time, or it starts too late
and is made or fails for that. -/
private inductive Attempted (task : Task ℚ) (count : Nat) :
    List (Inquiry ℚ) → Except Failure (Attempt × Trace) → Prop
  | made {log : List (Inquiry ℚ)} {made : Attempt} {trace : Trace} {readings : Nat}
      (inTime : InTime task.deadline log (count + 1) count readings) :
      Attempted task count log (.ok (made, trace))
  | failed {log : List (Inquiry ℚ)} {failure : Failure} {generated readings : Nat}
      (inTime : InTime task.deadline log generated count readings) (few : generated ≤ count + 1) :
      Attempted task count log (.error failure)
  | late {log : List (Inquiry ℚ)} {prompt : Prompt} {now : ℚ} {moment : Timestamp}
      (missed : Missed task.deadline count log [.reads now, ⟨.moment, .ok moment⟩]) :
      Attempted task count log (.ok (lateAttempt task (count + 1) now,
        traceOf task.lesson.id prompt task.model none (lateAttempt task (count + 1) now) moment))
  | stuck {log back : List (Inquiry ℚ)} {failure : Failure}
      (missed : Missed task.deadline count log back)
      (broken : ∃ inquiry ∈ back, ¬ inquiry.IsReliable) :
      Attempted task count log (.error failure)

/-- Neither the generator nor a wait is asked for. -/
private def Plain {β : Type} : Request ℚ β → Prop
  | .generate _ _ => False
  | .sleep _ => False
  | _ => True

/-- In time, whatever brings a run on may be asked for. -/
private theorem InTime.mayAsk {deadline : ℚ} {generated traced readings : Nat}
    (inTime : InTime deadline log generated traced readings) {β : Type} {request : Request ℚ β}
    (plain : Plain request) : mayAsk budgets deadline log request := by
  refine ⟨fun late => absurd late inTime.timely, ?_⟩
  cases request with
  | generate prompt timeout => exact False.elim plain
  | sleep duration => exact False.elim plain
  | clock => exact fun late => absurd late inTime.timely
  | _ => trivial

private theorem attempted_unanswered {prompt : Prompt} {stage : Stage} {error : String}
    {readings : Nat} (inTime : InTime task.deadline log (count + 1) count readings) :
    (unanswered task prompt (count + 1) stage error).Keeps (timeRules budgets task.deadline)
      (Attempted task count) log :=
  timed_then (inTime.mayAsk trivial)
    (fun _ => .failed (inTime.snoc_other rfl) (Nat.le_refl _))
    fun _ => .made (inTime.snoc_other rfl)

private theorem attempted_evaluated {prompt : Prompt} {source : String} {readings : Nat}
    (inTime : InTime task.deadline log (count + 1) count readings) :
    (evaluated task prompt (count + 1) source).Keeps (timeRules budgets task.deadline)
      (Attempted task count) log := by
  refine timed_then (inTime.mayAsk trivial) ?_ ?_
  · exact fun _ => .failed (inTime.snoc_other rfl) (Nat.le_refl _)
  · intro now
    rw [keeps_bind', keeps_ofExcept]
    cases Evaluation.evaluate now (count + 1) source with
    | error failure => exact .failed (inTime.snoc_other rfl) (Nat.le_refl _)
    | ok made => exact .made (inTime.snoc_other rfl)

/-- A source that was not waited for any longer leaves an attempt all the same. -/
private theorem attempted_timedOut {prompt : Prompt}
    (inTime : InTime task.deadline log (count + 1) count 2) :
    (timedOut task prompt (count + 1)).Keeps (timeRules budgets task.deadline)
      (Attempted task count) log :=
  timed_then (inTime.mayAsk trivial)
    (fun _ => .failed (inTime.snoc _ fun _ _ other => by omega) (Nat.le_refl _))
    fun _ => attempted_unanswered (inTime.snoc _ fun _ _ other => by omega)

private theorem not_reliable_of_error {β : Type} {request : Request ℚ β} {failure : Failure}
    (plain : Plain request) : ¬ (⟨request, .error failure⟩ : Inquiry ℚ).IsReliable := by
  cases request with
  | generate prompt timeout => exact False.elim plain
  | sleep duration => exact False.elim plain
  | _ => rintro ⟨_, impossible⟩; cases impossible

/-- An attempt that starts too late asks for nothing but the moment. -/
private theorem attempted_late {prompt : Prompt} {now : ℚ}
    (inTime : InTime task.deadline log count count 1) (late : task.deadline ≤ now) :
    (timedOut task prompt (count + 1)).Keeps (timeRules budgets task.deadline)
      (Attempted task count) (log ++ [.reads now]) := by
  have missed : Missed task.deadline count (log ++ [.reads now]) [] :=
    ⟨⟨log, now, rfl, inTime.readings, late, inTime.generated, inTime.traced⟩, rfl⟩
  have opened : ¬ OpensAttempt (log ++ [Inquiry.reads now]) := by
    rw [OpensAttempt, readingsSinceTrace_snoc, inTime.readings]
    exact (by decide : ¬ (1 + 1 = 1))
  refine timed_then ⟨fun _ => trivial, fun _ => opened⟩ ?_ ?_
  · intro failure
    exact .stuck (missed.snoc _ rfl) ⟨_, List.mem_singleton_self _, not_reliable_of_error trivial⟩
  · intro later
    refine timed_then ⟨fun _ => trivial, trivial⟩ ?_ ?_
    · intro failure
      exact .stuck ((missed.snoc _ rfl).snoc _ rfl)
        ⟨_, List.mem_append_right _ (List.mem_singleton_self _), not_reliable_of_error trivial⟩
    · intro moment
      exact .late ((missed.snoc _ rfl).snoc _ rfl)

/-- An attempt asks for a source only while there is time, and waits for it no longer. -/
private theorem attempted_attempt (paced : task.pace = budgets.pace) {previous : Option Attempt}
    (few : count < budgets.attempts.toNat) (inTime : InTime task.deadline log count count 1) :
    (attempt task (count + 1) previous).Keeps (timeRules budgets task.deadline)
      (Attempted task count) log := by
  have limit : task.pace.attemptLimit = budgets.attempt := by rw [paced]; rfl
  refine timed_then (inTime.mayAsk trivial) ?_ ?_
  · intro failure
    exact .failed (inTime.snoc _ nofun) (Nat.le_succ count)
  · intro now
    dsimp only
    rw [limit]
    split
    next some_left =>
      have left : 0 < task.deadline - now := of_decide_eq_true some_left
      have read : InTime task.deadline (log ++ [.reads now]) count count 2 :=
        inTime.snoc (.reads now) fun _ same _ => by cases same; linarith
      have within : min budgets.attempt (task.deadline - now) ≤ task.deadline - now :=
        min_le_right _ _
      rw [show Seconds.sub task.deadline now = task.deadline - now from rfl, Seconds.least_eq_min]
      simp only [keeps_bind', keeps_attempt, keeps_call]
      refine ⟨⟨fun late => absurd late read.timely, ?_⟩, ?_⟩
      · refine ⟨read.generated.trans read.traced.symm, ?_, lt_min budgets.some_time left,
          min_le_left _ _, log, now, rfl, by linarith⟩
        rw [read.generated]
        exact few
      · intro reply _
        have asked (prompt : Prompt) (timeout : ℚ) : InTime task.deadline
            (log ++ [.reads now] ++ [⟨.generate prompt timeout, reply⟩]) (count + 1) count 2 :=
          read.snoc_other rfl
        simp only [then_ok]
        split
        · split
          · exact attempted_unanswered (asked _ _)
          · exact attempted_evaluated (asked _ _)
        · split
          · exact attempted_timedOut (asked _ _)
          · exact attempted_unanswered (asked _ _)
        · exact attempted_unanswered (asked _ _)
        · exact .failed (asked _ _) (Nat.le_refl _)
    next none_left =>
      have spent : ¬ 0 < task.deadline - now := fun left => none_left (decide_eq_true left)
      exact attempted_late inTime (by linarith)

/-- What the wait for an attempt comes to: the clock was asked once since the last trace, or a
failure. -/
private inductive Paused (task : Task ℚ) (count : Nat) :
    List (Inquiry ℚ) → Except Failure Unit → Prop
  | ready {log : List (Inquiry ℚ)} (inTime : InTime task.deadline log count count 1) :
      Paused task count log (.ok ())
  | failed {log : List (Inquiry ℚ)} {failure : Failure} {readings : Nat}
      (inTime : InTime task.deadline log count count readings) : Paused task count log (.error failure)

/-- Nothing is waited for beyond the deadline, nor longer than the longest delay. -/
private theorem paused_backOff (paced : task.pace = budgets.pace) {failed : Nat}
    (inTime : InTime task.deadline log count count 0) :
    (backOff task failed).Keeps (timeRules budgets task.deadline) (Paused task count) log := by
  obtain ⟨delay, same, short⟩ := budgets.backoff_le failed
  unfold backOff
  rw [keeps_bind', keeps_ofExcept, paced, same]
  refine timed_then (inTime.mayAsk trivial) ?_ ?_
  · intro failure
    exact .failed (inTime.snoc _ nofun)
  · intro now
    have read : InTime task.deadline (log ++ [.reads now]) count count 1 := inTime.snoc _ nofun
    dsimp only
    rw [Seconds.least_eq_min, Seconds.positivePart_eq_max,
      show Seconds.sub task.deadline now = task.deadline - now from rfl]
    split
    next some_delay =>
      have positive : 0 < min delay (max (task.deadline - now) 0) := of_decide_eq_true some_delay
      have left : 0 < task.deadline - now := by
        by_contra none
        rw [max_eq_right (not_lt.mp none)] at positive
        exact absurd (min_le_right delay 0) (not_le.mpr positive)
      have within : min delay (max (task.deadline - now) 0) ≤ task.deadline - now :=
        (min_le_right _ _).trans (max_le le_rfl left.le)
      rw [keeps_call]
      refine ⟨⟨fun late => absurd late read.timely, positive, (min_le_left _ _).trans short, log, now,
        rfl, by linarith⟩, ?_⟩
      intro answer _
      cases answer with
      | ok _ => exact .ready (read.snoc_other rfl)
      | error failure => exact .failed (read.snoc_other rfl)
    next => exact .ready read

private theorem paused_pause (paced : task.pace = budgets.pace) {previous : Option Attempt}
    (inTime : InTime task.deadline log count count (if previous.isSome then 0 else 1)) :
    (pause task (count + 1) previous).Keeps (timeRules budgets task.deadline) (Paused task count)
      log := by
  unfold pause
  cases previous with
  | none => exact .ready inTime
  | some attempt => exact paused_backOff paced inTime

/-- What a turn behind some others comes to: it ends in time with another trace, with a success or with
a failure; or its attempt starts too late, and then there is its trace or a failure. -/
private inductive TimelyTurn (task : Task ℚ) (count : Nat) :
    List (Inquiry ℚ) → Except Failure Turn → Prop
  | again {log : List (Inquiry ℚ)} {made : Attempt}
      (inTime : InTime task.deadline log (count + 1) (count + 1) 0) :
      TimelyTurn task count log (.ok (.again made))
  | finished {log : List (Inquiry ℚ)} {report : Report} {traced readings : Nat}
      (inTime : InTime task.deadline log (count + 1) traced readings) :
      TimelyTurn task count log (.ok (.finished report))
  | failed {log : List (Inquiry ℚ)} {failure : Failure} {generated traced readings : Nat}
      (inTime : InTime task.deadline log generated traced readings) (few : generated ≤ count + 1) :
      TimelyTurn task count log (.error failure)
  | late {log : List (Inquiry ℚ)} {prompt : Prompt} {now : ℚ} {moment : Timestamp}
      (missed : Missed task.deadline count log [.reads now, ⟨.moment, .ok moment⟩,
        ⟨.store (.appendTrace (traceOf task.lesson.id prompt task.model none
          (lateAttempt task (count + 1) now) moment)), .ok ()⟩]) :
      TimelyTurn task count log (.ok (.again (lateAttempt task (count + 1) now)))
  | stuck {log back : List (Inquiry ℚ)} {failure : Failure}
      (missed : Missed task.deadline count log back)
      (broken : ∃ inquiry ∈ back, ¬ inquiry.IsReliable) :
      TimelyTurn task count log (.error failure)

/-- What an attempt in time leaves behind: content, its trace and the status, or its trace alone. -/
private theorem timelyTurn_conclude {made : Attempt} {trace : Trace} {readings : Nat}
    (inTime : InTime task.deadline log (count + 1) count readings) :
    (conclude task (count + 1) made trace).Keeps (timeRules budgets task.deadline)
      (TimelyTurn task count) log := by
  unfold conclude
  split
  · unfold persist
    split
    · refine timed_then (inTime.mayAsk trivial) ?_ ?_
      · exact fun _ => .failed (inTime.snoc_other rfl) (Nat.le_refl _)
      · intro content
        refine timed_then ((inTime.snoc_other rfl).mayAsk trivial) ?_ ?_
        · exact fun _ => .failed ((inTime.snoc_other rfl).snoc_other rfl) (Nat.le_refl _)
        · intro _
          refine timed_then (((inTime.snoc_other rfl).snoc_other rfl).mayAsk trivial) ?_ ?_
          · exact fun _ => .failed (((inTime.snoc_other rfl).snoc_other rfl).snoc_other rfl)
              (Nat.le_refl _)
          · exact fun _ => .finished (((inTime.snoc_other rfl).snoc_other rfl).snoc_other rfl)
    · exact .failed inTime (Nat.le_refl _)
    · exact .failed inTime (Nat.le_refl _)
  · refine timed_then (inTime.mayAsk trivial) ?_ ?_
    · exact fun _ => .failed (inTime.snoc_other rfl) (Nat.le_refl _)
    · exact fun _ => .again (inTime.snoc_other rfl)

/-- An attempt that started too late leaves its trace. -/
private theorem timelyTurn_late {prompt : Prompt} {now : ℚ} {moment : Timestamp}
    (missed : Missed task.deadline count log [.reads now, ⟨.moment, .ok moment⟩]) :
    (conclude task (count + 1) (lateAttempt task (count + 1) now)
      (traceOf task.lesson.id prompt task.model none (lateAttempt task (count + 1) now) moment)).Keeps
        (timeRules budgets task.deadline) (TimelyTurn task count) log := by
  refine timed_then ⟨fun _ => trivial, trivial⟩ ?_ ?_
  · intro failure
    exact .stuck (missed.snoc _ rfl)
      ⟨_, List.mem_append_right _ (List.mem_singleton_self _), not_reliable_of_error trivial⟩
  · exact fun _ => .late (missed.snoc _ rfl)

private theorem timelyTurn_turn (paced : task.pace = budgets.pace) {previous : Option Attempt}
    (few : count < budgets.attempts.toNat)
    (inTime : InTime task.deadline log count count (if previous.isSome then 0 else 1)) :
    (turn task (count + 1) previous).Keeps (timeRules budgets task.deadline) (TimelyTurn task count)
      log := by
  unfold turn
  rw [keeps_bind']
  refine (paused_pause paced inTime).mono ?_
  intro log result paused
  cases paused with
  | failed inTime => exact .failed inTime (Nat.le_succ count)
  | ready inTime =>
      rw [then_ok, keeps_bind']
      refine (attempted_attempt paced few inTime).mono ?_
      intro log result attempted
      cases attempted with
      | made inTime => exact timelyTurn_conclude inTime
      | failed inTime few => exact .failed inTime few
      | late missed => exact timelyTurn_late missed
      | stuck missed broken => exact .stuck missed broken

/-! ## Runs -/

private theorem Missed.generations_eq {deadline : ℚ} {back : List (Inquiry ℚ)}
    (missed : Missed deadline count log back) : generations log = count := by
  obtain ⟨⟨front, now, rfl, _, _, generated, _⟩, silent⟩ := missed
  rw [generations_append, generated]
  exact Nat.add_eq_left.mpr silent

/-- A run has asked for no more sources than it may, and is in time, or something went wrong since an
attempt started too late. -/
private def Closing (budgets : ExactBudgets) (deadline : ℚ) (log : List (Inquiry ℚ)) : Prop :=
  generations log ≤ budgets.attempts.toNat ∧
    (Overdue deadline log → ∃ count back, Missed deadline count log back ∧
      ∃ inquiry ∈ back, ¬ inquiry.IsReliable)

private theorem InTime.closing {deadline : ℚ} {generated traced readings : Nat}
    (inTime : InTime deadline log generated traced readings)
    (few : generated ≤ budgets.attempts.toNat) : Closing budgets deadline log :=
  ⟨inTime.generated.trans_le few, fun late => absurd late inTime.timely⟩

private theorem Missed.closing {deadline : ℚ} {back : List (Inquiry ℚ)}
    (missed : Missed deadline count log back) (broken : ∃ inquiry ∈ back, ¬ inquiry.IsReliable)
    (few : count ≤ budgets.attempts.toNat) : Closing budgets deadline log :=
  ⟨missed.generations_eq.trans_le few, fun _ => ⟨count, back, missed, broken⟩⟩

private theorem Closing.snoc {deadline : ℚ} (closing : Closing budgets deadline log)
    {inquiry : Inquiry ℚ} (silent : inquiry.isGeneration = false)
    (other : inquiry.isReading = false) : Closing budgets deadline (log ++ [inquiry]) := by
  obtain ⟨few, broken⟩ := closing
  refine ⟨by simpa [generations, silent] using few, fun late => ?_⟩
  rcases overdue_snoc.mp late with late | ⟨now, rfl, _⟩
  · obtain ⟨count, back, missed, failed, member, unreliable⟩ := broken late
    exact ⟨count, back ++ [inquiry], missed.snoc _ silent, failed, List.mem_append_left _ member,
      unreliable⟩
  · cases other

private theorem Closing.timelyEnd (closing : Closing budgets task.deadline log)
    (result : Except Failure Report) : TimelyEnd budgets task log result := by
  refine ⟨closing.1, fun late => ?_⟩
  obtain ⟨count, back, missed, failed, member, unreliable⟩ := closing.2 late
  exact ⟨count, back, missed, fun reliable => absurd (reliable failed member) unreliable⟩

/-- A run that cannot go on asks only for what ends it. -/
private theorem timelyEnd_crash {failure : Failure} {number : Nat}
    (closing : Closing budgets task.deadline log) :
    (crash task number failure).Keeps (timeRules budgets task.deadline) (TimelyEnd budgets task)
      log := by
  refine timed_then ⟨fun _ => trivial, trivial⟩ ?_ ?_
  · exact fun _ => (closing.snoc rfl rfl).timelyEnd _
  · intro moment
    refine timed_then ⟨fun _ => trivial, trivial⟩ ?_ ?_
    · exact fun _ => ((closing.snoc rfl rfl).snoc rfl rfl).timelyEnd _
    · intro _
      refine timed_then ⟨fun _ => rfl, trivial⟩ ?_ ?_
      · exact fun _ => (((closing.snoc rfl rfl).snoc rfl rfl).snoc rfl rfl).timelyEnd _
      · exact fun _ => (((closing.snoc rfl rfl).snoc rfl rfl).snoc rfl rfl).timelyEnd _

private theorem timelyEnd_giveUp {number : Nat} {last : Option Attempt}
    (closing : Closing budgets task.deadline log) :
    (giveUp task number last).Keeps (timeRules budgets task.deadline) (TimelyEnd budgets task)
      log := by
  refine timed_then ⟨fun _ => rfl, trivial⟩ (fun _ => (closing.snoc rfl rfl).timelyEnd _) ?_
  intro _
  cases last with
  | none => exact (closing.snoc rfl rfl).timelyEnd _
  | some last => exact (closing.snoc rfl rfl).timelyEnd _

/-- A run gives up behind an attempt that started too late. -/
private theorem timelyEnd_late {prompt : Prompt} {now : ℚ} {moment : Timestamp}
    (missed : Missed task.deadline count log [.reads now, ⟨.moment, .ok moment⟩,
      ⟨.store (.appendTrace (traceOf task.lesson.id prompt task.model none
        (lateAttempt task (count + 1) now) moment)), .ok ()⟩])
    (few : count ≤ budgets.attempts.toNat) :
    (giveUp task (count + 1) (some (lateAttempt task (count + 1) now))).Keeps
      (timeRules budgets task.deadline) (TimelyEnd budgets task) log := by
  refine timed_then ⟨fun _ => rfl, trivial⟩ ?_ ?_
  · intro failure
    have broken := (missed.snoc ⟨.store (.setStatus task.lesson.id .failed), .error failure⟩
      rfl).closing ⟨_, List.mem_append_right _ (List.mem_singleton_self _),
        not_reliable_of_error trivial⟩ few
    exact broken.timelyEnd _
  · intro kept
    have ended := missed.snoc ⟨.store (.setStatus task.lesson.id .failed), .ok kept⟩ rfl
    exact ⟨ended.generations_eq.trans_le few, fun _ => ⟨count, _, ended, fun _ =>
      ⟨prompt, now, moment, kept, rfl, rfl⟩⟩⟩

/-- Attempts are made until one starts too late or none is left. The induction is on those that are
left; behind each that failed in time as many sources were asked for as traces are kept. -/
private theorem timelyEnd_attempts (paced : task.pace = budgets.pace) {left : Nat}
    {previous : Option Attempt} (counts : count + left = budgets.attempts.toNat)
    (inTime : InTime task.deadline log count count (if previous.isSome then 0 else 1)) :
    (attempts task left (count + 1) previous).Keeps (timeRules budgets task.deadline)
      (TimelyEnd budgets task) log := by
  induction left generalizing count log previous with
  | zero => exact timelyEnd_giveUp (inTime.closing (by omega))
  | succ left inductionHypothesis =>
      unfold attempts
      rw [keeps_bind', keeps_attempt]
      refine (timelyTurn_turn paced (by omega) inTime).mono ?_
      intro log result turned
      rw [then_ok]
      cases turned with
      | failed inTime few => exact timelyEnd_crash (inTime.closing (by omega))
      | stuck missed broken => exact timelyEnd_crash (missed.closing broken (by omega))
      | finished inTime => exact (inTime.closing (by omega)).timelyEnd _
      | late missed => exact timelyEnd_late missed (by omega)
      | again inTime =>
          dsimp only
          split
          · exact timelyEnd_giveUp (inTime.closing (by omega))
          · exact inductionHypothesis (by omega) inTime

/-- Whatever was asked might be asked, but for the reading at the start. -/
private def MightAsk (budgets : ExactBudgets) (deadline started : ℚ) (log : List (Inquiry ℚ)) :
    Prop :=
  ∀ {front back : List (Inquiry ℚ)} {inquiry : Inquiry ℚ}, log = front ++ inquiry :: back →
    (front = [] ∧ inquiry = .reads started) ∨ mayAsk budgets deadline front inquiry.request

private theorem MightAsk.of_not_reading {deadline started : ℚ} {front back : List (Inquiry ℚ)}
    {inquiry : Inquiry ℚ} (asked : MightAsk budgets deadline started log)
    (split : log = front ++ inquiry :: back) (other : inquiry.isReading = false) :
    mayAsk budgets deadline front inquiry.request := by
  rcases asked split with ⟨-, rfl⟩ | may
  · cases other
  · exact may

/-- Only one attempt starts too late. -/
private theorem MightAsk.late_unique {deadline started now other : ℚ}
    {front back front' back' : List (Inquiry ℚ)} (asked : MightAsk budgets deadline started log)
    (split : log = front ++ .reads now :: back) (opens : OpensAttempt front) (late : deadline ≤ now)
    (split' : log = front' ++ .reads other :: back') (opens' : OpensAttempt front')
    (late' : deadline ≤ other) : front = front' ∧ back = back' := by
  -- the later one of two would be asked for although an attempt started too late before it
  have apart {front middle back' : List (Inquiry ℚ)} {now other : ℚ}
      (opens : OpensAttempt front) (late : deadline ≤ now)
      (split : log = front ++ .reads now :: middle ++ .reads other :: back')
      (opens' : OpensAttempt (front ++ .reads now :: middle)) : False := by
    rcases asked split with ⟨none, -⟩ | may
    · simp at none
    · exact may.2 ⟨front, now, middle, rfl, opens, late⟩ opens'
  rcases List.append_eq_append_iff.mp (split.symm.trans split') with
    ⟨between, rfl, same⟩ | ⟨between, rfl, same⟩
  · cases between with
    | nil => exact ⟨(List.append_nil _).symm, (List.cons.inj same).2⟩
    | cons first middle =>
        obtain ⟨rfl, -⟩ := List.cons.inj same
        exact (apart opens late split' opens').elim
  · cases between with
    | nil => exact ⟨List.append_nil _, (List.cons.inj same).2.symm⟩
    | cons first middle =>
        obtain ⟨rfl, -⟩ := List.cons.inj same
        exact (apart opens' late' split opens).elim

private theorem keepsTime_of_mightAsk {started : ℚ} {result : Except Failure Report}
    (asked : MightAsk budgets task.deadline started log)
    (ended : TimelyEnd budgets task log result) : KeepsTime budgets task log result := by
  obtain ⟨few, ended⟩ := ended
  refine ⟨fun split => ?_, ?_, fun split => ?_, fun split => ?_, ?_, ?_⟩
  · exact (asked.of_not_reading split rfl).2.1
  · have some := budgets.some_attempt
    omega
  · exact (asked.of_not_reading split rfl).2.2.2
  · exact (asked.of_not_reading split rfl).2
  · intro front back now split opens late inquiry member
    obtain ⟨before, after, rfl⟩ := List.append_of_mem member
    rw [← List.cons_append, ← List.append_assoc] at split
    rcases asked split with ⟨none, -⟩ | may
    · simp at none
    · exact may.1 ⟨front, now, before, rfl, opens, late⟩
  · intro front back now split opens late reliable
    obtain ⟨count, behind, ⟨⟨start, other, split', opens', late', -, traced⟩, -⟩, ends⟩ :=
      ended ⟨front, now, back, split, opens, late⟩
    obtain ⟨rfl, rfl⟩ := asked.late_unique split opens late split' opens' late'
    rw [traced]
    exact ends reliable

end Parts

/-- Whatever the clock, the generator and the store answer, a run with exact budgets keeps to its time,
unless not even its start can be read from the clock. Its deadline is so many minutes behind the first
reading. -/
theorem run_keeps_time (budgets : ExactBudgets) (model : Option String) (lesson : Lesson)
    (pedagogy : Option Pedagogy) (world : World ℚ) :
    let outcome := (run ⟨budgets.pace, model⟩ lesson pedagogy).carryOut world []
    (∃ failure, outcome = ([⟨.clock, .error failure⟩], .error failure)) ∨
      ∃ task : Task ℚ, task.toContext = ⟨budgets.pace, model⟩ ∧ task.lesson = lesson ∧
        outcome.1.head? = some (.reads task.started) ∧
        task.deadline = task.started + 60 * budgets.minutes ∧
        KeepsTime budgets task outcome.1 outcome.2 := by
  intro outcome
  cases answered : world [] (Request.clock : Request ℚ ℚ) with
  | error failure => exact .inl ⟨failure, carryOut_call_error answered⟩
  | ok started =>
      let task : Task ℚ := ⟨⟨budgets.pace, model⟩, lesson,
        (pedagogy.or lesson.pedagogy).getD (Topic.inferPedagogy lesson.topic), started,
        started + budgets.minutes * 60⟩
      have goes : outcome = (attempts task budgets.attempts.toNat 1 none).carryOut world
          [.reads started] := carryOut_call_ok answered
      have timely : ¬ Overdue task.deadline [.reads started] := by
        intro late
        rcases (@overdue_snoc task.deadline [] (.reads started)).mp late with
          ⟨front, now, back, split, -⟩ | ⟨_, _, opens, -⟩
        · simp at split
        · cases opens
      have keeps : (attempts task budgets.attempts.toNat 1 none).Keeps
          (timeRules budgets task.deadline) (TimelyEnd budgets task) [.reads started] :=
        timelyEnd_attempts rfl (Nat.zero_add _) ⟨timely, rfl, rfl, rfl⟩
      have ended := keeps.carried world fun _ _ _ => trivial
      obtain ⟨more, asked, may⟩ := keeps.allowed world fun _ _ _ => trivial
      refine .inr ⟨task, rfl, rfl, ?_, congrArg (started + ·) (mul_comm _ _), ?_⟩
      · rw [goes, asked]
        rfl
      · rw [goes]
        have mightAsk : MightAsk budgets task.deadline started
            ((attempts task budgets.attempts.toNat 1 none).carryOut world [.reads started]).1 := by
          intro front back inquiry split
          rw [asked] at split
          cases front with
          | nil => exact .inl ⟨rfl, (List.cons.inj split).1.symm⟩
          | cons first front =>
              obtain ⟨rfl, rest⟩ := List.cons.inj split
              exact .inr (may rest)
        exact keepsTime_of_mightAsk mightAsk ended

/-- A lesson that was just asked for. -/
private def asked : Lesson :=
  { id := "a", title := "Tides", topic := "Tides", createdAt := .after 0, updatedAt := .after 0 }

/-- A world in which ten minutes pass between the start of a run and its first attempt. -/
private def expiring : World ℚ := fun log _ request =>
  match request with
  | .clock => .ok (if log.isEmpty then 0 else 600)
  | .moment => .ok (.after 1)
  | .store (.appendTrace _) => .ok ()
  | .store (.setStatus _ _) => .ok asked
  | _ => .error .timedOut

/-- A run with the standard budgets that makes its first attempt ten minutes after its start. -/
private def expired : Task ℚ where
  pace := ExactBudgets.standard.pace
  model := none
  lesson := asked
  pedagogy := Topic.inferPedagogy "Tides"
  started := 0
  deadline := 0 + 10 * 60

private theorem carryOut_expiring :
    (run expired.toContext asked none).carryOut expiring [] =
      ([.reads 0, .reads 600, .reads 600, ⟨.moment, .ok (.after 1)⟩,
        ⟨.store (.appendTrace (traceOf "a" (.initial "Tides" expired.pedagogy) none none
          (lateAttempt expired 1 600) (.after 1))), .ok ()⟩,
        ⟨.store (.setStatus "a" .failed), .ok asked⟩],
        .ok (failureReport "a" 1 (lateAttempt expired 1 600))) := by
  have late : ¬ Seconds.isLeft (Seconds.sub expired.deadline 600) = true := by decide +kernel
  -- the run up to the question whether there is time left
  change Program.carryOut expiring [.reads 0, .reads 600] (Program.bind (Program.attempt
    (Program.bind (ite (Seconds.isLeft (Seconds.sub expired.deadline 600) = true) _ _) _)) _) = _
  rw [if_neg late]
  rfl

/-- With the standard budgets, a run whose first attempt starts at the deadline asks for no source, and
ends with the trace of a timeout. -/
theorem run_keeps_time_standard :
    let outcome := (run ⟨ExactBudgets.standard.pace, none⟩ asked none).carryOut expiring []
    ∃ task : Task ℚ, task.deadline = 600 ∧
      KeepsTime ExactBudgets.standard task outcome.1 outcome.2 ∧
      ∃ back, outcome.1 = [.reads 0] ++ .reads 600 :: back ∧ generations back = 0 ∧
        EndsLate task 1 back outcome.2 := by
  intro outcome
  have went : outcome = _ := carryOut_expiring
  rcases run_keeps_time ExactBudgets.standard none asked none expiring with
    ⟨failure, fails⟩ | ⟨task, _, _, starts, ends, keeps⟩
  · cases went.symm.trans fails
  · change outcome.1.head? = _ at starts
    have started : task.started = 0 := by
      rw [went] at starts
      simpa [Inquiry.reads, eq_comm] using starts
    have deadline : task.deadline = 600 := by
      rw [ends, started]
      norm_num [ExactBudgets.standard]
    have split : outcome.1 = [.reads 0] ++ .reads 600 :: outcome.1.drop 2 := by
      rw [went]
      rfl
    have silent : generations (outcome.1.drop 2) = 0 := by
      rw [went]
      rfl
    have reliable : ∀ inquiry ∈ outcome.1.drop 2, inquiry.IsReliable := by
      rw [went]
      simp [Inquiry.IsReliable, Request.Reliable]
    have opens : OpensAttempt [Inquiry.reads (0 : ℚ)] := rfl
    exact ⟨task, deadline, keeps, _, split, silent, keeps.fails split opens deadline.le reliable⟩

end Run

end Lectern
