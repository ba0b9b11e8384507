/-
Module: Lectern.Proofs.Generation.Duties
Purpose: What a caller goes on to do for the lesson that it has claimed when requests fail. It ends
  before the last status is written only if one of few requests fails, and what it writes as the last
  status tells whether anything failed behind the content.
Trusted boundary: none
Main exports: Request.strands, Duty, duties, Duty.Ended, Run.duties_call
-/
import Lectern.Proofs.Generation.Roles

namespace Lectern

variable {τ κ : Type}

/-- Is this a failure behind which a lesson may be left in generation? Until its first attempt a run
needs the clock, and a run that is at its end needs the moment, one more trace and the status. -/
def Request.strands {β : Type} : Request τ β → Except Failure β → Bool
  | .clock, .error _ => true
  | .moment, .error _ => true
  | .store (.appendTrace _), .error _ => true
  | .store (.setStatus _ _), .error _ => true
  | _, _ => false

/-- What a caller has to reckon with. -/
structure Duty (κ : Type) where
  role : Role κ
  /-- Which of its writes went well, since it has last kept content. -/
  outcomes : List Bool := []
  /-- The failure it has just met may be one behind which nothing more is done. -/
  stranded : Bool := false

namespace Duty

/-- What a caller may ask for: what its part allows. Where content is kept, the last status tells
whether a write behind the content has failed. -/
def Allows (place : String → κ) (duty : Duty κ) {β : Type} (request : Request τ β) : Prop :=
  duty.role.Allows place request ∧
    match request with
    | .store (.setStatus _ status) =>
      ∀ here, duty.role = .running here true → (status = .failed ↔ false ∈ duty.outcomes)
    | _ => True

/-- Every failure has to be reckoned with, and those answers with which the part of a caller has to
reckon. -/
def Expects (place : String → κ) (duty : Duty κ) {β : Type} (request : Request τ β) :
    Except Failure β → Prop
  | .ok value => duty.role.Expects place request (.ok value)
  | .error _ => True

/-- Which writes went well behind an answer. -/
def outcomesBehind (outcomes : List Bool) : {β : Type} → Request τ β → Except Failure β → List Bool
  | _, .store (.addContent _ _ _ _), .ok _ => []
  | _, .store (.appendTrace _), answer => outcomes ++ [answer.isOk]
  | _, .store (.setStatus _ _), answer => outcomes ++ [answer.isOk]
  | _, _, _ => outcomes

/-- What a caller has to reckon with behind an answer. -/
def After (place : String → κ) (duty : Duty κ) {β : Type} (request : Request τ β)
    (answer : Except Failure β) : Duty κ where
  role := duty.role.After place request answer
  outcomes := outcomesBehind duty.outcomes request answer
  stranded := request.strands answer

/-- How a caller may end: with no lesson on its hands, unless it has just met a failure that is in the
way of the last status. If there is content then, the last write has failed. -/
def Ended (duty : Duty κ) : Prop :=
  ∀ here kept, duty.role = .running here kept →
    duty.stranded = true ∧ (kept = true → duty.outcomes.getLast? = some false)

end Duty

/-- Callers see to their duties, whatever fails. -/
def duties (τ : Type) (place : String → κ) : Discipline τ (Duty κ) where
  allows duty _ request := duty.Allows place request
  expects duty _ request answer := duty.Expects place request answer
  after duty _ request answer := duty.After place request answer

namespace Run

open Program

variable {place : String → κ}

/-- A request and what follows it, whether it fails or not. -/
private theorem duties_then {α β : Type} {request : Request τ α} {next : α → Program τ β}
    {post : Duty κ → Except Failure β → Prop} {duty : Duty κ} (allowed : duty.Allows place request)
    (fails : ∀ failure, post (duty.After place request (.error failure)) (.error failure))
    (goes : ∀ value, duty.role.Expects place request (.ok value) →
      (next value).Keeps (duties τ place) post (duty.After place request (.ok value))) :
    (Program.call request >>= next).Keeps (duties τ place) post duty := by
  rw [keeps_bind', keeps_call]
  refine ⟨allowed, ?_⟩
  intro answer expected
  cases answer with
  | ok value => exact goes value expected
  | error failure => exact fails failure

/-- The caller is at work, and has kept no content. -/
private def Working (here : κ) (duty : Duty κ) : Prop := duty.role = .running here false

/-- What leaves the store alone leaves a caller at work on its lesson. -/
private theorem duties_outside {α : Type} {program : Program τ α} {post : Except Failure α → Prop}
    {here : κ} {duty : Duty κ} (working : Working here duty)
    (keeps : program.Keeps (outside τ) (fun _ result => post result) ()) :
    program.Keeps (duties τ place) (fun duty result => Working here duty ∧ post result) duty := by
  refine keeps.of_outside_within ?_ ?_ working
  · rintro ⟨_, outcomes, stranded⟩ β request rfl leaves
    cases request with
    | store operation => exact leaves.elim
    | _ => exact ⟨trivial, trivial⟩
  · rintro ⟨_, outcomes, stranded⟩ β request answer rfl leaves
    cases request with
    | store operation => exact leaves.elim
    | _ => rfl

/-- A run that fails in the middle: where content is kept, the last write has failed. -/
private def Broken (here : κ) (duty : Duty κ) : Prop :=
  ∃ kept, duty.role = .running here kept ∧
    (kept = true → duty.outcomes.getLast? = some false)

/-- What a turn comes to: the last status is written when it is finished, and the lesson is still
worked on and has no content when there is another one. -/
private def Concluded (here : κ) : Duty κ → Except Failure Turn → Prop
  | duty, .ok (.finished _) => duty.role = .idle
  | duty, .ok (.again _) => Working here duty
  | duty, .error _ => Broken here duty

private theorem broken_of_working {here : κ} {duty : Duty κ} (working : Working here duty) :
    Broken here duty := ⟨false, working, nofun⟩

private theorem duties_conclude {task : Task τ} {number : Nat} {made : Attempt} {trace : Trace}
    (same : trace.lessonId = task.lesson.id) {duty : Duty κ}
    (working : Working (place task.lesson.id) duty) :
    (conclude task number made trace).Keeps (duties τ place) (Concluded (place task.lesson.id))
      duty := by
  have traced : place trace.lessonId = place task.lesson.id := congrArg place same
  obtain ⟨role, outcomes, stranded⟩ := duty
  obtain rfl : role = .running (place task.lesson.id) false := working
  unfold conclude
  split
  next source dated _ _ _ =>
    unfold persist
    split
    · refine duties_then ⟨⟨rfl, rfl⟩, trivial⟩ (fun _ => broken_of_working rfl) ?_
      intro content _
      refine duties_then ⟨traced, trivial⟩ (fun _ => ⟨true, rfl, fun _ => rfl⟩) ?_
      intro _ _
      have wentWell : Status.generated = .failed ↔ false ∈ [true] := by decide
      refine duties_then ⟨⟨rfl, Or.inl rfl⟩, fun _ _ => wentWell⟩
        (fun _ => ⟨true, rfl, fun _ => rfl⟩) ?_
      intro _ _
      rfl
    · exact broken_of_working rfl
    · exact broken_of_working rfl
  next =>
    refine duties_then ⟨traced, trivial⟩ (fun _ => broken_of_working rfl) ?_
    intro _ _
    rfl

private theorem duties_turn [Seconds τ] {task : Task τ} {number : Nat} {previous : Option Attempt}
    {duty : Duty κ} (working : Working (place task.lesson.id) duty) :
    (turn task number previous).Keeps (duties τ place) (Concluded (place task.lesson.id)) duty := by
  unfold turn
  rw [keeps_bind']
  refine (duties_outside working outside_pause).mono ?_
  intro duty result ⟨working, _⟩
  cases result with
  | error failure => exact broken_of_working working
  | ok _ =>
      rw [then_ok, keeps_bind']
      refine (duties_outside working outside_attempt).mono ?_
      intro duty result ⟨working, offers⟩
      cases result with
      | error failure => exact broken_of_working working
      | ok made => exact duties_conclude offers.lessonId working

/-- Whoever reports has written the last status; whoever fails ends as callers may end. -/
private def Relieved {α : Type} : Duty κ → Except Failure α → Prop
  | duty, .ok _ => duty.role = .idle
  | duty, .error _ => duty.Ended

private theorem ended_of_idle {duty : Duty κ} (idle : duty.role = .idle) : duty.Ended := by
  intro here kept running
  rw [idle] at running
  cases running

private theorem ended_of_relieved {α : Type} {duty : Duty κ} {result : Except Failure α}
    (relieved : Relieved duty result) : duty.Ended := by
  cases result with
  | ok value => exact ended_of_idle relieved
  | error failure => exact relieved

private theorem duties_crash {task : Task τ} {number : Nat} {failure : Failure} {duty : Duty κ}
    (broken : Broken (place task.lesson.id) duty) :
    (crash task number failure).Keeps (duties τ place) Relieved duty := by
  obtain ⟨role, outcomes, stranded⟩ := duty
  obtain ⟨kept, same, failed⟩ := broken
  obtain rfl : role = .running (place task.lesson.id) kept := same
  have stopped {behind : List Bool} (last : kept = true → behind.getLast? = some false) :
      Duty.Ended ⟨(.running (place task.lesson.id) kept : Role κ), behind, true⟩ := by
    rintro here flag ⟨⟩
    exact ⟨rfl, last⟩
  refine duties_then ⟨trivial, trivial⟩ (fun _ => stopped failed) ?_
  intro now _
  refine duties_then ⟨rfl, trivial⟩ (fun _ => stopped fun _ => List.getLast?_concat) ?_
  intro _ _
  refine duties_then ⟨⟨rfl, Or.inr rfl⟩, ?_⟩ (fun _ => stopped fun _ => List.getLast?_concat) ?_
  · rintro here ⟨⟩
    have held : false ∈ outcomes := List.mem_of_getLast? (failed rfl)
    exact ⟨fun _ => List.mem_append_left _ held, fun _ => rfl⟩
  · intro _ _
    exact ended_of_idle rfl

private theorem duties_giveUp {task : Task τ} {number : Nat} {last : Option Attempt} {duty : Duty κ}
    (working : Working (place task.lesson.id) duty) :
    (giveUp task number last).Keeps (duties τ place) Relieved duty := by
  obtain ⟨role, outcomes, stranded⟩ := duty
  obtain rfl : role = .running (place task.lesson.id) false := working
  refine duties_then ⟨⟨rfl, Or.inr rfl⟩, nofun⟩ ?_ ?_
  · rintro failure here kept ⟨⟩
    exact ⟨rfl, nofun⟩
  · intro _ _
    cases last with
    | none => exact ended_of_idle rfl
    | some last => rfl

private theorem duties_attempts [Seconds τ] (task : Task τ) {left number : Nat}
    {previous : Option Attempt} {duty : Duty κ} (working : Working (place task.lesson.id) duty) :
    (attempts task left number previous).Keeps (duties τ place) Relieved duty := by
  induction left generalizing number previous duty with
  | zero => exact duties_giveUp working
  | succ left inductionHypothesis =>
      unfold attempts
      rw [keeps_bind', keeps_attempt]
      refine (duties_turn working).mono ?_
      intro duty result turned
      rw [then_ok]
      split
      next => exact duties_crash turned
      next => exact turned
      next =>
        split
        · exact duties_giveUp turned
        · exact inductionHypothesis turned

private theorem duties_run [Seconds τ] {context : Context τ} {lesson : Lesson}
    {pedagogy : Option Pedagogy} {duty : Duty κ} (working : Working (place lesson.id) duty) :
    (run context lesson pedagogy).Keeps (duties τ place) Relieved duty := by
  obtain ⟨role, outcomes, stranded⟩ := duty
  obtain rfl : role = .running (place lesson.id) false := working
  refine duties_then ⟨trivial, trivial⟩ ?_ ?_
  · rintro failure here kept ⟨⟩
    exact ⟨rfl, nofun⟩
  · intro started _
    exact duties_attempts { context with lesson, started, pedagogy := _, deadline := _ } rfl

/-- A call whose lesson is not its own ends with nothing on its hands. -/
private theorem ended_of_free {duty : Duty κ} (free : ∀ here kept, duty.role ≠ .running here kept) :
    duty.Ended := fun here kept running => absurd running (free here kept)

private theorem duties_kickoff [Seconds τ] {context : Context τ} {id : String}
    {pedagogy : Option Pedagogy} :
    (kickoff context id pedagogy).Keeps (duties τ place) (fun duty _ => duty.Ended)
      { role := .calling id } := by
  refine duties_then ⟨rfl, trivial⟩ (fun _ => ended_of_free nofun) ?_
  intro found expected
  cases found with
  | none => exact ended_of_free nofun
  | some lesson =>
      refine duties_then ⟨rfl, trivial⟩ (fun _ => ended_of_free nofun) ?_
      intro won _
      cases won with
      | true =>
          -- The lesson that was found is kept where the one that was claimed is.
          have same : place lesson.id = place id := expected lesson rfl
          exact Keeps.mono (fun _ _ => ended_of_relieved)
            (duties_run (congrArg (Role.running · false) same.symm))
      | false =>
          refine duties_then ⟨rfl, trivial⟩ (fun _ => ended_of_free nofun) ?_
          intro current _
          cases current with
          | none => exact ended_of_free nofun
          | some now => exact ended_of_free nofun

private theorem duties_processNext [Seconds τ] {context : Context τ} {duty : Duty κ}
    (idle : duty.role = .idle) :
    (processNext context).Keeps (duties τ place) Relieved duty := by
  obtain ⟨role, outcomes, stranded⟩ := duty
  obtain rfl : role = .idle := idle
  refine duties_then ⟨trivial, trivial⟩ (fun _ => ended_of_idle rfl) ?_
  intro claimed _
  cases claimed with
  | none => rfl
  | some lesson =>
      rw [keeps_bind']
      refine Keeps.mono ?_ (duties_run rfl)
      intro duty result relieved
      cases result with
      | ok report => exact relieved
      | error failure => exact relieved

private theorem duties_processQueue [Seconds τ] {context : Context τ} {most : Nat} {duty : Duty κ}
    (idle : duty.role = .idle) :
    (processQueue context most).Keeps (duties τ place) Relieved duty := by
  induction most generalizing duty with
  | zero => exact idle
  | succ most inductionHypothesis =>
      unfold processQueue
      rw [keeps_bind']
      refine (duties_processNext idle).mono ?_
      intro duty result relieved
      cases result with
      | error failure => exact relieved
      | ok processed =>
          cases processed with
          | none => exact relieved
          | some report =>
              rw [then_ok, keeps_bind']
              refine (inductionHypothesis relieved).mono ?_
              intro duty result relieved
              cases result with
              | error failure => exact relieved
              | ok reports => exact relieved

/-- What is done with the result of a call leaves what it has to reckon with. -/
private theorem duties_reported {α β : Type} {program : Program τ α} {report : α → β} {duty : Duty κ}
    (keeps : program.Keeps (duties τ place) (fun duty _ => duty.Ended) duty) :
    (program >>= fun value => pure (report value)).Keeps (duties τ place)
      (fun duty _ => duty.Ended) duty := by
  rw [keeps_bind']
  refine keeps.mono ?_
  intro duty result ended
  cases result with
  | ok value => exact ended
  | error failure => exact ended

/-- Every call sees to its duties. -/
theorem duties_call [Seconds τ] {context : Context τ} {patience : Nat} (call : Call) :
    (call.program context patience).Keeps (duties τ place) (fun duty _ => duty.Ended)
      { role := call.role } := by
  cases call with
  | kickoff id pedagogy => exact duties_reported duties_kickoff
  | processNext =>
      exact duties_reported ((duties_processNext rfl).mono fun _ _ => ended_of_relieved)
  | processQueue most => exact (duties_processQueue rfl).mono fun _ _ => ended_of_relieved

end Run

end Lectern
