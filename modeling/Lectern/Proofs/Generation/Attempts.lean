/-
Module: Lectern.Proofs.Generation.Attempts
Purpose: What an attempt is, whatever the generator and the clock answer: it asks nothing of the
  store, its trace is of its lesson and tells of it, and what it offers is compiled from the source it
  names and passes the safety check with it.
Trusted boundary: none
Main exports: Attempt.Coherent, Attempt.coherent_evaluate, Attempt.Safe, Attempt.safe_evaluate,
  Attempt.Arises, Attempt.Complete, Run.Made, Run.outside_attempt, Run.outside_pause
-/
import Lectern.Generation.Run
import Lectern.Proofs.Generation.Verdicts
import Lectern.Proofs.Program.Discipline

namespace Lectern

/-! ## Sources and modules -/

namespace Attempt

/-- What an attempt offers is compiled from the source it names. -/
def Coherent (attempt : Attempt) : Prop :=
  ∀ source dated, attempt.rawSource = some source → attempt.artifact = some dated →
    Module.compile source = .ok dated.artifact

theorem coherent_failed {number : Nat} {source : Option String} {stage : Stage}
    {errors : List String} {issues : List Safety.Issue} {rules : List String} :
    (Evaluation.failed number source stage errors issues rules).Coherent := by
  intro _ _ _ offered
  cases offered

/-- Whatever a source goes through, the attempt it makes offers nothing but its own module: that of
the source as it came, or as it was repaired. -/
theorem coherent_evaluate {now : Timestamp} {number : Nat} {source : String} {attempt : Attempt}
    (made : Evaluation.evaluate now number source = .ok attempt) : attempt.Coherent := by
  intro named dated sourceEq datedEq
  exact ((Evaluation.verdict_evaluate made).offered sourceEq datedEq).compiled

/-- What an attempt offers passes the safety check, the source and the module alike. -/
def Safe (attempt : Attempt) : Prop :=
  ∀ source dated, attempt.rawSource = some source → attempt.artifact = some dated →
    Safety.check source = [] ∧ Safety.check dated.artifact.moduleText = []

theorem safe_failed {number : Nat} {source : Option String} {stage : Stage}
    {errors : List String} {issues : List Safety.Issue} {rules : List String} :
    (Evaluation.failed number source stage errors issues rules).Safe := by
  intro _ _ _ offered
  cases offered

/-- A source that is repaired is checked again. -/
theorem safe_evaluate {now : Timestamp} {number : Nat} {source : String} {attempt : Attempt}
    (made : Evaluation.evaluate now number source = .ok attempt) : attempt.Safe := by
  intro named dated sourceEq datedEq
  have offered := (Evaluation.verdict_evaluate made).offered sourceEq datedEq
  exact ⟨offered.safe, offered.emitted⟩

/-- How an attempt comes about: a source that was generated is evaluated, or there is none, and the
attempt has failed. -/
inductive Arises (number : Nat) : Option String → Attempt → Prop
  | evaluated (now : Timestamp) (source : String) {attempt : Attempt}
      (made : Evaluation.evaluate now number source = .ok attempt) : Arises number (some source) attempt
  | unanswered (stage : Stage) (error : String) :
      Arises number none (Evaluation.failed number none stage [error] [] [])

/-- An attempt has its number, and one that succeeded offers a source and a module. -/
structure Complete (number : Nat) (attempt : Attempt) : Prop where
  number : attempt.number = number
  offers : attempt.outcome = .succeeded →
    ∃ source dated, attempt.rawSource = some source ∧ attempt.artifact = some dated

theorem complete_failed {number : Nat} {source : Option String} {stage : Stage}
    {errors : List String} {issues : List Safety.Issue} {rules : List String} :
    (Evaluation.failed number source stage errors issues rules).Complete number :=
  ⟨rfl, nofun⟩

theorem complete_evaluate {now : Timestamp} {number : Nat} {source : String} {attempt : Attempt}
    (made : Evaluation.evaluate now number source = .ok attempt) : attempt.Complete number := by
  have verdict := Evaluation.verdict_evaluate made
  obtain ⟨judged, named, passes | fails⟩ := verdict.decided
  · obtain ⟨artifact, offers, _⟩ := passes.offers
    exact ⟨verdict.number, fun _ => ⟨_, _, named, offers⟩⟩
  · exact ⟨verdict.number, fun succeeded => nomatch fails.outcome.symm.trans succeeded⟩

theorem Arises.complete {number : Nat} {response : Option String} {attempt : Attempt}
    (arises : Arises number response attempt) : attempt.Complete number := by
  cases arises with
  | evaluated now source made => exact complete_evaluate made
  | unanswered stage error => exact complete_failed

theorem Arises.safe {number : Nat} {response : Option String} {attempt : Attempt}
    (arises : Arises number response attempt) : attempt.Safe := by
  cases arises with
  | evaluated now source made => exact safe_evaluate made
  | unanswered stage error => exact safe_failed

end Attempt

/-! ## Attempts of a run -/

namespace Run

open Program

variable {τ : Type}

/-- An attempt of a task and its trace. -/
structure Made (task : Task τ) (number : Nat) (made : Attempt) (trace : Trace) : Prop where
  coherent : made.Coherent
  lessonId : trace.lessonId = task.lesson.id
  arises : ∃ prompt response now, Attempt.Arises number response made ∧
    trace = traceOf task.lesson.id prompt task.model response made now

/-- An attempt that was made, or a failure. -/
def Offers (task : Task τ) (number : Nat) : Except Failure (Attempt × Trace) → Prop
  | .ok (made, trace) => Made task number made trace
  | .error _ => True

/-- A call that leaves the store alone, and what follows it. -/
theorem outside_then {α β : Type} {request : Request τ α} {next : α → Program τ β}
    {post : Except Failure β → Prop} (leaves : request.LeavesStore)
    (fails : ∀ failure, post (.error failure))
    (goes : ∀ value, (next value).Keeps (outside τ) (fun _ result => post result) ()) :
    (Program.call request >>= next).Keeps (outside τ) (fun _ result => post result) () := by
  rw [keeps_bind', keeps_call]
  refine ⟨leaves, ?_⟩
  intro answer _
  cases answer with
  | ok value => exact goes value
  | error failure => exact fails failure

private theorem outside_unanswered {task : Task τ} {prompt : Prompt} {number : Nat}
    {stage : Stage} {error : String} :
    (unanswered task prompt number stage error).Keeps (outside τ)
      (fun _ result => Offers task number result) () :=
  outside_then trivial (fun _ => trivial) fun now =>
    ⟨Attempt.coherent_failed, rfl, prompt, none, now, .unanswered stage error, rfl⟩

private theorem outside_timedOut [Seconds τ] {task : Task τ} {prompt : Prompt} {number : Nat} :
    (timedOut task prompt number).Keeps (outside τ) (fun _ result => Offers task number result) () :=
  outside_then trivial (fun _ => trivial) fun _ => outside_unanswered

private theorem outside_evaluated {task : Task τ} {prompt : Prompt} {number : Nat}
    {source : String} :
    (evaluated task prompt number source).Keeps (outside τ)
      (fun _ result => Offers task number result) () := by
  refine outside_then trivial (fun _ => trivial) ?_
  intro now
  rw [keeps_bind', keeps_ofExcept]
  cases judged : Evaluation.evaluate now number source with
  | error failure => trivial
  | ok attempt =>
      exact ⟨Attempt.coherent_evaluate judged, rfl, prompt, some source, now,
        .evaluated now source judged, rfl⟩

/-- An attempt asks nothing of the store, whatever is answered to it. -/
theorem outside_attempt [Seconds τ] {task : Task τ} {number : Nat} {previous : Option Attempt} :
    (attempt task number previous).Keeps (outside τ) (fun _ result => Offers task number result)
      () := by
  refine outside_then trivial (fun _ => trivial) ?_
  intro now
  dsimp only
  split
  · simp only [keeps_bind', keeps_attempt, keeps_call]
    refine ⟨trivial, ?_⟩
    intro reply _
    simp only [then_ok]
    split
    · split
      · exact outside_unanswered
      · exact outside_evaluated
    · split
      · exact outside_timedOut
      · exact outside_unanswered
    · exact outside_unanswered
    · trivial
  · exact outside_timedOut

private theorem outside_backOff [Seconds τ] {task : Task τ} {failed : Nat} :
    (backOff task failed).Keeps (outside τ) (fun _ _ => True) () := by
  unfold backOff
  rw [keeps_bind', keeps_ofExcept]
  cases task.pace.backoff failed with
  | error failure => trivial
  | ok delay =>
      refine outside_then trivial (fun _ => trivial) ?_
      intro now
      simp only
      split
      · exact keeps_call.mpr ⟨trivial, fun _ _ => trivial⟩
      · trivial

/-- Nothing is asked of the store in between two attempts. -/
theorem outside_pause [Seconds τ] {task : Task τ} {number : Nat} {previous : Option Attempt} :
    (pause task number previous).Keeps (outside τ) (fun _ _ => True) () := by
  unfold pause
  split
  · exact outside_backOff
  · trivial

end Run

end Lectern
