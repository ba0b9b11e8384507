/-
Module: Lectern.Proofs.Generation.Roles
Purpose: The part each caller plays for the lessons of a store. Only a caller that has claimed a
  lesson generates, and what it writes is content, traces and the last status of that lesson; a
  caller that finds its lesson claimed asks for nothing else and reports that.
Trusted boundary: none
Main exports: Role, roles, Call.role, Call.Ends, Run.roles_call
-/
import Lectern.Proofs.Generation.Attempts
import Lectern.Proofs.Program.Crowd

namespace Lectern

variable {τ κ : Type}

/-- The part that a caller plays. Lessons that are worked on are told by the place where they are
kept. -/
inductive Role (κ : Type) where
  /-- It is about to look up the lesson it was called for. -/
  | calling (id : String)
  /-- It has found the lesson and is about to claim it. -/
  | looking (id : String)
  /-- Somebody else has claimed the lesson, and it is about to look it up again. -/
  | passed (id : String)
  /-- It has been told the status of a lesson that it has not claimed. -/
  | skipped (id : String) (status : Status)
  /-- It has found no lesson. -/
  | missing (id : String)
  /-- It works on no lesson, and may claim the next one. -/
  | idle
  /-- It works on a lesson, and has kept content for it or not. -/
  | running (place : κ) (kept : Bool)

namespace Role

/-- What a caller may ask for. -/
def Allows (place : String → κ) : Role κ → {β : Type} → Request τ β → Prop
  | .calling id, _, .store (.find asked) => asked = id
  | .looking id, _, .store (.claim asked) => asked = id
  | .passed id, _, .store (.find asked) => asked = id
  | .idle, _, .store .claimNext => True
  | .running here _, _, .store (.appendTrace trace) => place trace.lessonId = here
  | .running here kept, _, .store (.addContent id _ _ _) => place id = here ∧ kept = false
  | .running here _, _, .store (.setStatus id status) =>
    place id = here ∧ (status = .generated ∨ status = .failed)
  | .running _ _, _, request => request.LeavesStore
  | _, _, _ => False

/-- Which answers have to be reckoned with: the store does not fail, a lesson is found where it is
kept, and a lesson that was claimed by somebody else is there and not in the queue. -/
def Expects (place : String → κ) (role : Role κ) : {β : Type} → Request τ β → Except Failure β → Prop
  | _, .store _, .error _ => False
  | _, .store (.find _), .ok found =>
    match role with
    | .calling id => ∀ lesson, found = some lesson → place lesson.id = place id
    | .passed _ => ∃ lesson, found = some lesson ∧ lesson.status ≠ .queued
    | _ => True
  | _, _, _ => True

/-- The part that a caller plays behind an answer. -/
def After (place : String → κ) (role : Role κ) : {β : Type} → Request τ β → Except Failure β → Role κ
  | _, .store (.find _), .ok found =>
    match role, found with
    | .calling id, some _ => .looking id
    | .calling id, none => .missing id
    | .passed id, some lesson => .skipped id lesson.status
    | _, _ => role
  | _, .store (.claim _), .ok won =>
    match role, won with
    | .looking id, true => .running (place id) false
    | .looking id, false => .passed id
    | _, _ => role
  | _, .store .claimNext, .ok (some lesson) => .running (place lesson.id) false
  | _, .store (.addContent _ _ _ _), .ok _ =>
    match role with
    | .running here _ => .running here true
    | _ => role
  | _, .store (.setStatus _ _), .ok _ => .idle
  | _, _, _ => role

/-- A caller whose lesson is skipped asks for nothing more. -/
theorem not_allows_skipped {place : String → κ} {asked : String} {status : Status} {β : Type}
    {request : Request τ β} : ¬ (skipped asked status : Role κ).Allows place request := by
  cases request with
  | store operation => cases operation <;> exact id
  | _ => exact id

/-- A caller who has found no lesson asks for nothing more. -/
theorem not_allows_missing {place : String → κ} {asked : String} {β : Type}
    {request : Request τ β} : ¬ (missing asked : Role κ).Allows place request := by
  cases request with
  | store operation => cases operation <;> exact id
  | _ => exact id

end Role

/-- Callers play their parts. -/
def roles (τ : Type) (place : String → κ) : Discipline τ (Role κ) where
  allows := Role.Allows place
  expects := Role.Expects place
  after := Role.After place

/-- The part in which a call starts. -/
def Call.role : Call → Role κ
  | .kickoff id _ => .calling id
  | .processNext => .idle
  | .processQueue _ => .idle

/-- In which parts a call may end, and with what: one that has not claimed its lesson says why. -/
def Call.Ends : Call → Role κ → Except Failure (List Report) → Prop
  | .kickoff id _, .skipped asked status, result =>
    asked = id ∧ status ≠ .queued ∧ result = .ok [Run.skippedReport id status]
  | .kickoff id _, .missing asked, result => asked = id ∧ result = .error (.unknownLesson id)
  | _, .idle, _ => True
  | _, .running _ _, _ => True
  | _, _, _ => False

namespace Run

open Program

variable {place : String → κ}

/-- A lesson that is worked on, or none. -/
private def Works (role : Role κ) : Prop := role = .idle ∨ ∃ here kept, role = .running here kept

/-- An operation of the store that is allowed, and what follows it; it does not fail. -/
private theorem roles_store {α β : Type} {operation : Store.Operation α} {next : α → Program τ β}
    {post : Role κ → Except Failure β → Prop} {role : Role κ}
    (allowed : role.Allows place (.store operation : Request τ α))
    (goes : ∀ value, role.Expects place (.store operation : Request τ α) (.ok value) →
      (next value).Keeps (roles τ place) post
        (role.After place (.store operation : Request τ α) (.ok value))) :
    (Program.store operation >>= next).Keeps (roles τ place) post role := by
  rw [keeps_bind', keeps_store]
  refine ⟨allowed, ?_⟩
  intro answer expected
  cases answer with
  | ok value => exact goes value expected
  | error failure => 
      cases operation <;> exact expected.elim

/-- What leaves the store alone leaves a caller at work on its lesson. -/
private theorem roles_outside {α : Type} {program : Program τ α} {post : Except Failure α → Prop}
    (here : κ) (kept : Bool)
    (keeps : program.Keeps (outside τ) (fun _ result => post result) ()) :
    program.Keeps (roles τ place) (fun role result => role = .running here kept ∧ post result)
      (.running here kept) := by
  refine keeps.of_outside ?_ ?_
  · intro β request leaves
    cases request with
    | store operation => exact leaves.elim
    | _ => trivial
  · intro β request answer leaves
    cases request with
    | store operation => exact leaves.elim
    | _ => rfl

/-- A call that leaves the store alone, made by a caller at work, and what follows it. -/
private theorem roles_then {α β : Type} {request : Request τ α} {next : α → Program τ β}
    {post : Role κ → Except Failure β → Prop} {here : κ} {kept : Bool} (leaves : request.LeavesStore)
    (fails : ∀ failure, post (.running here kept) (.error failure))
    (goes : ∀ value, (next value).Keeps (roles τ place) post (.running here kept)) :
    (Program.call request >>= next).Keeps (roles τ place) post (.running here kept) := by
  have alone : (Program.call request).Keeps (outside τ) (fun _ _ => True) () :=
    keeps_call.mpr ⟨leaves, fun _ _ => trivial⟩
  rw [keeps_bind']
  refine (roles_outside here kept alone).mono ?_
  intro role result ⟨same, _⟩
  subst same
  cases result with
  | ok value => exact goes value
  | error failure => exact fails failure

/-- What a turn comes to: the last status is written when it is finished, and else the lesson is
still worked on and has no content. -/
private def Turned (here : κ) : Role κ → Except Failure Turn → Prop
  | role, .ok (.finished _) => role = .idle
  | role, _ => role = .running here false

private theorem roles_conclude {task : Task τ} {number : Nat} {made : Attempt} {trace : Trace}
    (same : trace.lessonId = task.lesson.id) :
    (conclude task number made trace).Keeps (roles τ place) (Turned (place task.lesson.id))
      (.running (place task.lesson.id) false) := by
  have traced : place trace.lessonId = place task.lesson.id := congrArg place same
  unfold conclude
  split
  next source dated _ _ _ =>
    unfold persist
    split
    · refine roles_store ⟨rfl, rfl⟩ ?_
      intro content _
      refine roles_store traced ?_
      intro _ _
      refine roles_store ⟨rfl, Or.inl rfl⟩ ?_
      intro _ _
      rfl
    · rfl
    · rfl
  next =>
    refine roles_store traced ?_
    intro _ _
    rfl

private theorem roles_turn [Seconds τ] {task : Task τ} {number : Nat} {previous : Option Attempt} :
    (turn task number previous).Keeps (roles τ place) (Turned (place task.lesson.id))
      (.running (place task.lesson.id) false) := by
  unfold turn
  rw [keeps_bind']
  refine (roles_outside _ false outside_pause).mono ?_
  intro role result ⟨same, _⟩
  subst same
  cases result with
  | error failure => rfl
  | ok _ =>
      rw [then_ok, keeps_bind']
      refine (roles_outside _ false outside_attempt).mono ?_
      intro role result ⟨same, offers⟩
      subst same
      cases result with
      | error failure => rfl
      | ok made => exact roles_conclude offers.lessonId

/-- A run that has been reported has written the last status; no other one reports. -/
private def Ran : Role κ → Except Failure Report → Prop
  | role, .ok _ => role = .idle
  | role, .error _ => Works role

private theorem roles_crash {task : Task τ} {number : Nat} {failure : Failure} :
    (crash task number failure).Keeps (roles τ place) Ran
      (.running (place task.lesson.id) false) := by
  refine roles_then trivial (fun _ => Or.inr ⟨_, _, rfl⟩) ?_
  intro now
  refine roles_store rfl ?_
  intro _ _
  refine roles_store ⟨rfl, Or.inr rfl⟩ ?_
  intro _ _
  exact Or.inl rfl

private theorem roles_giveUp {task : Task τ} {number : Nat} {last : Option Attempt} :
    (giveUp task number last).Keeps (roles τ place) Ran
      (.running (place task.lesson.id) false) := by
  refine roles_store ⟨rfl, Or.inr rfl⟩ ?_
  intro _ _
  cases last with
  | none => exact Or.inl rfl
  | some last => rfl

private theorem roles_attempts [Seconds τ] (task : Task τ) {left number : Nat}
    {previous : Option Attempt} :
    (attempts task left number previous).Keeps (roles τ place) Ran
      (.running (place task.lesson.id) false) := by
  induction left generalizing number previous with
  | zero => exact roles_giveUp
  | succ left inductionHypothesis =>
      unfold attempts
      rw [keeps_bind', keeps_attempt]
      apply roles_turn.mono
      intro role result turned
      rw [then_ok]
      split
      next =>
        rw [show role = _ from turned]
        exact roles_crash
      next => exact turned
      next =>
        rw [show role = _ from turned]
        split
        · exact roles_giveUp
        · exact inductionHypothesis

private theorem roles_run [Seconds τ] {context : Context τ} {lesson : Lesson}
    {pedagogy : Option Pedagogy} :
    (run context lesson pedagogy).Keeps (roles τ place) Ran (.running (place lesson.id) false) := by
  refine roles_then trivial (fun _ => Or.inr ⟨_, _, rfl⟩) ?_
  intro started
  exact roles_attempts { context with lesson, started, pedagogy := _, deadline := _ }

/-- In which parts a call for one lesson may end. -/
private def Started (id : String) : Role κ → Except Failure Report → Prop
  | .skipped asked status, result =>
    asked = id ∧ status ≠ .queued ∧ result = .ok (skippedReport id status)
  | .missing asked, result => asked = id ∧ result = .error (.unknownLesson id)
  | role, _ => Works role

private theorem started_of_works {id : String} {role : Role κ} {result : Except Failure Report}
    (works : Works role) : Started id role result := by
  rcases works with rfl | ⟨here, kept, rfl⟩
  · exact Or.inl rfl
  · exact Or.inr ⟨here, kept, rfl⟩

private theorem roles_kickoff [Seconds τ] {context : Context τ} {id : String}
    {pedagogy : Option Pedagogy} :
    (kickoff context id pedagogy).Keeps (roles τ place) (Started id) (.calling id) := by
  refine roles_store rfl ?_
  intro found expected
  cases found with
  | none => exact ⟨rfl, rfl⟩
  | some lesson =>
      refine roles_store rfl ?_
      intro won _
      cases won with
      | true =>
          change (run context lesson pedagogy).Keeps (roles τ place) _ (.running (place id) false)
          rw [← expected lesson rfl]
          apply roles_run.mono
          intro role result ran
          cases result with
          | ok report => exact started_of_works (Or.inl ran)
          | error failure => exact started_of_works ran
      | false =>
          refine roles_store rfl ?_
          intro current told
          obtain ⟨now, rfl, apart⟩ := told
          exact ⟨rfl, apart, rfl⟩

/-- Between two lessons a caller that works off the queue is idle. -/
private def Rested {α : Type} : Role κ → Except Failure α → Prop
  | role, .ok _ => role = .idle
  | role, .error _ => Works role

private theorem roles_processNext [Seconds τ] {context : Context τ} :
    (processNext context).Keeps (roles τ place) Rested .idle := by
  refine roles_store trivial ?_
  intro claimed _
  cases claimed with
  | none => rfl
  | some lesson =>
      rw [keeps_bind']
      apply roles_run.mono
      intro role result ran
      cases result with
      | ok report => exact ran
      | error failure => exact ran

private theorem roles_processQueue [Seconds τ] {context : Context τ} {most : Nat} :
    (processQueue context most).Keeps (roles τ place) Rested .idle := by
  induction most with
  | zero => rfl
  | succ most inductionHypothesis =>
      unfold processQueue
      rw [keeps_bind']
      apply roles_processNext.mono
      intro role result rested
      cases result with
      | error failure => exact rested
      | ok processed =>
          rw [show role = .idle from rested]
          cases processed with
          | none => rfl
          | some report =>
              rw [then_ok, keeps_bind']
              apply inductionHypothesis.mono
              intro role result rested
              cases result with
              | error failure => exact rested
              | ok reports => exact rested

private theorem ends_of_works {call : Call} {role : Role κ}
    {result : Except Failure (List Report)} (works : Works role) : call.Ends role result := by
  rcases works with rfl | ⟨here, kept, rfl⟩
  · cases call <;> trivial
  · cases call <;> trivial

private theorem then_of_works {call : Call} {role : Role κ} {result : Except Failure Report}
    (works : Works role) :
    Then (roles τ place) (fun report => pure [report]) call.Ends role result := by
  cases result with
  | ok report => exact ends_of_works works
  | error failure => exact ends_of_works works

/-- Every call plays its part. -/
theorem roles_call [Seconds τ] {context : Context τ} {patience : Nat} (call : Call) :
    (call.program context patience).Keeps (roles τ place) call.Ends call.role := by
  have rested {α : Type} (role : Role κ) (result : Except Failure α)
      (held : Rested role result) : Works role := by
    cases result with
    | ok value => exact Or.inl held
    | error failure => exact held
  cases call with
  | kickoff id pedagogy =>
      change (kickoff context id pedagogy >>= fun report => pure [report]).Keeps _ _ _
      rw [keeps_bind']
      apply roles_kickoff.mono
      intro role result started
      cases role with
      | skipped asked status =>
          obtain ⟨same, apart, reported⟩ := started
          rw [reported]
          exact ⟨same, apart, rfl⟩
      | missing asked =>
          obtain ⟨same, reported⟩ := started
          rw [reported]
          exact ⟨same, rfl⟩
      | idle => exact then_of_works started
      | running here kept => exact then_of_works started
      | calling asked => exact then_of_works started
      | looking asked => exact then_of_works started
      | passed asked => exact then_of_works started
  | processNext =>
      change (processNext context >>= fun report => pure report.toList).Keeps _ _ _
      rw [keeps_bind']
      apply roles_processNext.mono
      intro role result held
      cases result with
      | ok report => exact ends_of_works (rested role _ held)
      | error failure => exact ends_of_works (rested role _ held)
  | processQueue most =>
      apply roles_processQueue.mono
      intro role result held
      exact ends_of_works (rested role result held)

end Run

end Lectern
