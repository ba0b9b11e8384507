/-
Module: Lectern.Proofs.Generation.Endings
Purpose: How a run ends, whatever the generator and the clock answer. It writes one trace for each
  attempt and its status last, and it has either content and a report of success, or a report of its
  last attempt, or a failure that its last trace tells of.
Trusted boundary: none
Main exports: Run.Setbacks, Run.allWrites, Run.Ending, Run.Ended, Run.ended_run
-/
import Mathlib.Data.List.Basic
import Lectern.Proofs.Generation.Attempts
import Lectern.Proofs.Store.Book

namespace Lectern.Run

open Program Store

variable {τ : Type}

/-! ## Traces of attempts that failed -/

/-- Traces of the first attempts of a run, all of which failed. -/
structure Setbacks (id : String) (traces : List Trace) : Prop where
  numbers : traces.map (·.attemptNumber) = List.range' 1 traces.length
  fail : ∀ trace ∈ traces, trace.error.isSome = true
  owned : ∀ trace ∈ traces, trace.lessonId = id

theorem Setbacks.nil (id : String) : Setbacks id [] := ⟨rfl, nofun, nofun⟩

/-- The trace of an attempt has its number. -/
theorem Made.attemptNumber {task : Task τ} {number : Nat} {made : Attempt} {trace : Trace}
    (attempted : Made task number made trace) : trace.attemptNumber = number := by
  obtain ⟨prompt, response, now, arises, rfl⟩ := attempted.arises
  exact arises.complete.number

/-- The trace of an attempt tells of an error unless the attempt succeeded. -/
theorem Made.error_isSome_iff {task : Task τ} {number : Nat} {made : Attempt} {trace : Trace}
    (attempted : Made task number made trace) :
    trace.error.isSome = true ↔ made.outcome ≠ .succeeded := by
  obtain ⟨prompt, response, now, _, rfl⟩ := attempted.arises
  change (errorOf made).isSome = true ↔ _
  unfold errorOf
  split
  next succeeded => simp [eq_of_beq succeeded]
  next other => simpa using other

/-- The numbers of the traces behind attempts that failed, with the one that comes last. -/
theorem Setbacks.numbered {id : String} {earlier : List Trace} (setbacks : Setbacks id earlier)
    {final : Trace} (last : final.attemptNumber = earlier.length + 1) :
    (earlier ++ [final]).map (·.attemptNumber) = List.range' 1 (earlier.length + 1) := by
  rw [List.map_append, setbacks.numbers, List.range'_1_concat, List.map_singleton, last,
    Nat.add_comm]

theorem Setbacks.allOwned {id : String} {earlier : List Trace} (setbacks : Setbacks id earlier)
    {final : Trace} (last : final.lessonId = id) :
    ∀ trace ∈ earlier ++ [final], trace.lessonId = id := by
  intro trace member
  rcases List.mem_append.mp member with inside | same
  · exact setbacks.owned trace inside
  · rw [List.mem_singleton.mp same]
    exact last

/-- One more attempt has failed. -/
theorem Setbacks.snoc {task : Task τ} {traces : List Trace} {made : Attempt} {trace : Trace}
    (setbacks : Setbacks task.lesson.id traces)
    (attempted : Made task (traces.length + 1) made trace) (failed : made.outcome ≠ .succeeded) :
    Setbacks task.lesson.id (traces ++ [trace]) where
  numbers := by
    rw [setbacks.numbered attempted.attemptNumber, List.length_append, List.length_singleton]
  fail other member := by
    rcases List.mem_append.mp member with inside | same
    · exact setbacks.fail other inside
    · rw [List.mem_singleton.mp same]
      exact attempted.error_isSome_iff.mpr failed
  owned := setbacks.allOwned attempted.lessonId

/-! ## Ends of a run -/

/-- All that a run writes: the traces of the attempts that failed before, content if there is any, the
last trace, and the status. -/
def allWrites (id : String) (earlier : List Trace) (content : Option Content) (final : Trace)
    (status : Status) : List Write :=
  earlier.map .trace ++ (content.map (.content id)).toList ++ [.trace final, .status id status]

/-- What a run has written and what it comes to, behind attempts that failed. -/
inductive Ending (task : Task τ) (earlier : List Trace) : List Write → Except Failure Report → Prop
  | succeeded {made : Attempt} {trace : Trace} {content : Content}
      (attempted : Made task (earlier.length + 1) made trace) (outcome : made.outcome = .succeeded) :
      Ending task earlier (allWrites task.lesson.id earlier (some content) trace .generated)
        (.ok (successReport task.lesson.id (earlier.length + 1) content.version))
  | gaveUp {made : Attempt} {trace : Trace}
      (attempted : Made task (earlier.length + 1) made trace) (outcome : made.outcome ≠ .succeeded) :
      Ending task earlier (allWrites task.lesson.id earlier none trace .failed)
        (.ok (failureReport task.lesson.id (earlier.length + 1) made))
  | crashed (failure : Failure) (now : Timestamp) :
      Ending task earlier
        (allWrites task.lesson.id earlier none
          (crashTrace task.lesson.id (earlier.length + 1) failure now) .failed)
        (.error failure)

/-- A run has ended within so many attempts. -/
def Ended (task : Task τ) (most : Nat) (writes : List Write) (result : Except Failure Report) :
    Prop :=
  ∃ earlier, Setbacks task.lesson.id earlier ∧ earlier.length + 1 ≤ most ∧
    Ending task earlier writes result

/-! ## Parts of a run -/

/-- A run may write what is of its lesson. -/
private abbrev runRules (τ : Type) (id : String) : Discipline τ (List Write) :=
  .logging fun request => WritesOnly id request

variable {id : String} {written : List Write}

/-- What leaves the store alone writes nothing. -/
private theorem writes_outside {α : Type} {program : Program τ α} {post : Except Failure α → Prop}
    (keeps : program.Keeps (outside τ) (fun _ result => post result) ()) :
    program.Keeps (runRules τ id) (fun after result => after = written ∧ post result) written := by
  refine keeps.of_outside ?_ ?_
  · intro β request leaves
    cases request with
    | store operation => exact leaves.elim
    | _ => trivial
  · intro β request answer leaves
    change written ++ (request.write? answer).toList = written
    rw [Request.write?_of_leavesStore leaves]
    exact List.append_nil written

/-- A request to the store, the clock or for the moment, which is answered, and what follows it. -/
private theorem writes_then {α β : Type} {request : Request τ α} {next : α → Program τ β}
    {post : List Write → Except Failure β → Prop} (allowed : WritesOnly id request)
    (reliable : ∀ answer, request.Reliable answer → ∃ value, answer = .ok value)
    (goes : ∀ value, (next value).Keeps (runRules τ id) post
      (written ++ (request.write? (.ok value)).toList)) :
    (Program.call request >>= next).Keeps (runRules τ id) post written := by
  rw [keeps_bind', keeps_call]
  refine ⟨allowed, ?_⟩
  intro answer expected
  obtain ⟨value, rfl⟩ := reliable answer expected
  exact goes value

/-- What a turn comes to: a failure that wrote nothing, an attempt that failed and its trace, or all
that a success writes. -/
private def Noted (task : Task τ) (number : Nat) (written after : List Write) :
    Except Failure Turn → Prop
  | .error _ => after = written
  | .ok (.again made) => ∃ trace, Made task number made trace ∧ made.outcome ≠ .succeeded ∧
      after = written ++ [.trace trace]
  | .ok (.finished report) => ∃ made trace content, Made task number made trace ∧
      made.outcome = .succeeded ∧
      report = successReport task.lesson.id number content.version ∧
      after = written ++ [.content task.lesson.id content, .trace trace,
        .status task.lesson.id .generated]

private theorem noted_conclude {task : Task τ} {number : Nat} {made : Attempt} {trace : Trace}
    (attempted : Made task number made trace) :
    (conclude task number made trace).Keeps (runRules τ task.lesson.id)
      (Noted task number written) written := by
  have traced : WritesOnly task.lesson.id (Request.store (τ := τ) (.appendTrace trace)) :=
    attempted.lessonId
  unfold conclude
  split
  next source dated _ _ outcome =>
    unfold persist
    split
    · refine writes_then rfl (fun _ reliable => reliable) ?_
      intro content
      refine writes_then traced (fun _ reliable => reliable) ?_
      intro _
      refine writes_then rfl (fun _ reliable => reliable) ?_
      intro _
      refine ⟨made, trace, content, attempted, outcome, rfl, ?_⟩
      simp only [Request.write?, Option.toList_some, List.append_assoc, List.cons_append,
        List.nil_append]
    · rfl
    · rfl
  next apart =>
    refine writes_then traced (fun _ reliable => reliable) ?_
    intro _
    refine ⟨trace, attempted, ?_, rfl⟩
    intro succeeded
    obtain ⟨prompt, response, now, arises, _⟩ := attempted.arises
    obtain ⟨source, dated, sourceEq, datedEq⟩ := arises.complete.offers succeeded
    exact apart source dated sourceEq datedEq succeeded

private theorem noted_turn [Seconds τ] {task : Task τ} {number : Nat} {previous : Option Attempt} :
    (turn task number previous).Keeps (runRules τ task.lesson.id) (Noted task number written)
      written := by
  unfold turn
  rw [keeps_bind']
  refine (writes_outside outside_pause).mono ?_
  intro after result ⟨same, _⟩
  subst same
  cases result with
  | error failure => rfl
  | ok _ =>
      rw [then_ok, keeps_bind']
      refine (writes_outside outside_attempt).mono ?_
      intro after result ⟨same, offers⟩
      subst same
      cases result with
      | error failure => rfl
      | ok made => exact noted_conclude offers

/-- A run that cannot go on leaves a trace of its failure. -/
private theorem ended_crash {task : Task τ} {most : Nat} {earlier : List Trace} {failure : Failure}
    (setbacks : Setbacks task.lesson.id earlier) (within : earlier.length + 1 ≤ most) :
    (crash task (earlier.length + 1) failure).Keeps (runRules τ task.lesson.id) (Ended task most)
      (earlier.map .trace) := by
  refine writes_then trivial (fun _ reliable => reliable) ?_
  intro now
  refine writes_then rfl (fun _ reliable => reliable) ?_
  intro _
  refine writes_then rfl (fun _ reliable => reliable) ?_
  intro _
  refine ⟨earlier, setbacks, within, ?_⟩
  simpa [Request.write?, allWrites] using Ending.crashed failure now

/-- A run that gives up reports its last attempt. -/
private theorem ended_giveUp {task : Task τ} {most : Nat} {earlier : List Trace} {made : Attempt}
    {trace : Trace} (setbacks : Setbacks task.lesson.id earlier) (within : earlier.length + 1 ≤ most)
    (attempted : Made task (earlier.length + 1) made trace) (failed : made.outcome ≠ .succeeded) :
    (giveUp task (earlier.length + 1) (some made)).Keeps (runRules τ task.lesson.id)
      (Ended task most) (earlier.map .trace ++ [.trace trace]) := by
  refine writes_then rfl (fun _ reliable => reliable) ?_
  intro _
  refine ⟨earlier, setbacks, within, ?_⟩
  simpa [Request.write?, allWrites] using Ending.gaveUp attempted failed

/-- Behind some attempts that failed: either there was none, or the last of them is at hand. -/
private inductive Behind (task : Task τ) : List Trace → Option Attempt → Prop
  | none : Behind task [] none
  | some {earlier : List Trace} {made : Attempt} {trace : Trace}
      (setbacks : Setbacks task.lesson.id earlier)
      (attempted : Made task (earlier.length + 1) made trace)
      (failed : made.outcome ≠ .succeeded) : Behind task (earlier ++ [trace]) (some made)

private theorem Behind.setbacks {task : Task τ} {traces : List Trace} {previous : Option Attempt}
    (behind : Behind task traces previous) : Setbacks task.lesson.id traces := by
  cases behind with
  | none => exact .nil _
  | some setbacks attempted failed => exact setbacks.snoc attempted failed

/-- Attempts are made until a run ends. The induction is on the attempts that are left; that one of
them is made at all is what the first condition says. -/
private theorem ended_attempts [Seconds τ] (task : Task τ) {most left : Nat} {traces : List Trace}
    {previous : Option Attempt} (some_attempt : previous = none → left ≠ 0)
    (behind : Behind task traces previous) (count : traces.length + left = most) :
    (attempts task left (traces.length + 1) previous).Keeps (runRules τ task.lesson.id)
      (Ended task most) (traces.map .trace) := by
  -- Behind each turn as many traces are kept as attempts have been made, so the numbers follow on.
  induction left generalizing traces previous with
  | zero =>
      cases behind with
      | none => exact absurd rfl (some_attempt rfl)
      | @some earlier made trace setbacks attempted failed =>
          rw [List.length_append, List.length_singleton] at count ⊢
          rw [List.map_append]
          exact ended_giveUp setbacks (Nat.le_of_eq count) attempted failed
  | succ left inductionHypothesis =>
      have within : traces.length + 1 ≤ most := by omega
      unfold attempts
      rw [keeps_bind', keeps_attempt]
      apply noted_turn.mono
      intro after result noted
      rw [then_ok]
      split
      next failure =>
        rw [show after = _ from noted]
        exact ended_crash behind.setbacks within
      next report =>
        obtain ⟨made, trace, content, attempted, outcome, rfl, rfl⟩ := noted
        refine ⟨traces, behind.setbacks, within, ?_⟩
        simpa [allWrites] using Ending.succeeded attempted outcome
      next made =>
        obtain ⟨trace, attempted, failed, rfl⟩ := noted
        split
        · exact ended_giveUp behind.setbacks within attempted failed
        · have count : (traces ++ [trace]).length + left = most := by
            rw [List.length_append, List.length_singleton]
            omega
          have more := @inductionHypothesis (traces ++ [trace]) (some made) nofun
            (.some behind.setbacks attempted failed) count
          rwa [List.length_append, List.map_append] at more

/-- A run for a lesson ends within its attempts, whatever the generator and the clock answer. -/
theorem ended_run [Seconds τ] {context : Context τ} {lesson : Lesson} {pedagogy : Option Pedagogy}
    (some_attempt : 1 ≤ context.pace.attempts) :
    (run context lesson pedagogy).Keeps (.logging fun request => WritesOnly lesson.id request)
      (fun writes result => ∃ task : Task τ, task.toContext = context ∧ task.lesson = lesson ∧
        Ended task context.pace.attempts writes result) [] := by
  refine writes_then trivial (fun _ reliable => reliable) ?_
  intro started
  refine (ended_attempts { context with lesson, started, pedagogy := _, deadline := _ }
    (fun _ => Nat.pos_iff_ne_zero.mp some_attempt) .none (Nat.zero_add _)).mono ?_
  intro writes result ended
  exact ⟨_, rfl, rfl, ended⟩

end Lectern.Run
