/-
Module: Lectern.Proofs.Generation.SoundReply
Purpose: What a run does with a reply that is safe and compiles to a safe module, told without the
  check and without the compiler: the module is kept, its attempt is traced, and the lesson is
  generated. A caller is followed up to the first reply that it is given. Not every reply that is safe
  compiles to a safe module: a text may spell an address that only the module has.
Trusted boundary: none
Main exports: Run.kept, Run.tried_sound, Setting.behind_kickoff, Run.smallArtifact,
  Module.spelledAddress, Evaluation.evaluate_spelledAddress
-/
import Lectern.Proofs.Generation.Verdicts
import Lectern.Proofs.Module.ModuleText
import Lectern.Proofs.Program.Crowd

namespace Lectern

open Store

variable {τ σ : Type}

namespace Run

/-! ## A reply and what it leaves behind -/

/-- A source that was generated becomes an attempt, with all that the attempt leaves behind. -/
def tried (source : String) (task : Task τ) (prompt : Prompt) (number : Nat) : Program τ Turn := do
  let (made, trace) ← evaluated task prompt number source
  conclude task number made trace

/-- The attempt that a sound source makes. -/
def succeeded (now : Timestamp) (number : Nat) (source : String) (artifact : Module.Artifact) :
    Attempt :=
  { number, rawSource := some source, artifact := some ⟨artifact, now⟩, outcome := .succeeded }

/-- The module of a sound source is kept, its attempt is traced, and the lesson is generated. -/
def kept (source : String) (artifact : Module.Artifact) (task : Task τ) (prompt : Prompt)
    (number : Nat) : Program τ Turn := do
  let now ← .call .moment
  let content ← .store (.addContent task.lesson.id source artifact.moduleText artifact.sourceHash)
  .store (.appendTrace (traceOf task.lesson.id prompt task.model (some source)
    (succeeded now number source artifact) now))
  let _ ← .store (.setStatus task.lesson.id .generated)
  return .finished (successReport task.lesson.id number content.version)

/-- A sound source is kept: neither the check nor the compiler has to be gone through for it. -/
theorem tried_sound {source : String} {artifact : Module.Artifact}
    (sourceSafe : Safety.check source = []) (compiled : Module.compile source = .ok artifact)
    (moduleSafe : Safety.check artifact.moduleText = []) (task : Task τ) (prompt : Prompt)
    (number : Nat) : tried source task prompt number = kept source artifact task prompt number := by
  have judged (now : Timestamp) :
      Evaluation.evaluate now number source = .ok (succeeded now number source artifact) := by
    rw [Evaluation.evaluate, sourceSafe, compiled]
    simp only [Evaluation.accept, moduleSafe]
    rfl
  have passed : (persist task.lesson.id source artifact : Program τ Content) =
      .store (.addContent task.lesson.id source artifact.moduleText artifact.sourceHash) := by
    simp only [persist, sourceSafe, moduleSafe]
  refine congrArg (Program.ask Request.moment) (funext fun answer => ?_)
  cases answer with
  | error failure => rfl
  | ok now =>
      change Program.bind (Program.bind (.ofExcept (Evaluation.evaluate now number source)) _) _ = _
      rw [judged]
      change persist task.lesson.id source artifact >>= _ = _
      rw [passed]
      rfl

/-- What the smallest source compiles to that has a default export. -/
def smallArtifact : Module.Artifact := Module.bareArtifact "export default 1;" "export default 1;"

/-- The smallest source is kept. -/
theorem tried_small : tried (τ := τ) "export default 1;" = kept "export default 1;" smallArtifact := by
  have compiled : Module.compile "export default 1;" = .ok smallArtifact :=
    Module.compile_of_compilesTo (by decide +kernel)
  have moduleSafe : Safety.check smallArtifact.moduleText = [] :=
    (Module.check_bareArtifact (by decide +kernel)).trans (by decide +kernel)
  funext task prompt number
  exact tried_sound (by decide +kernel) compiled moduleSafe task prompt number

/-! ## A call up to the first reply to it -/

section Replied

variable [Seconds τ] (context : Context τ) (lesson : Lesson) (started : τ)

/-- What a lesson is generated with when a run for it starts. -/
def taskOf : Task τ :=
  { context with
    lesson
    pedagogy := lesson.pedagogy.getD (Topic.inferPedagogy lesson.topic)
    started
    deadline := Seconds.add started context.pace.limit }

/-- What is left of a call for a lesson when something is done with the first reply to it. -/
def replied (done : Task τ → Prompt → Nat → Program τ Turn) : Program τ (List Report) := do
  let task := taskOf context lesson started
  let report ← (done task (promptFor lesson task.pedagogy none) 1).attempt >>= fun
    | .error failure => crash task 1 failure
    | .ok (.finished report) => return report
    | .ok (.again made) =>
      if made.failureStage == some .timeout then giveUp task 1 (some made)
      else attempts task (context.pace.attempts - 1) 2 (some made)
  return [report]

end Replied

end Run

namespace Setting

/-- A caller that asks for a lesson to be generated, finds it and claims it, waits for the generator
with its fifth request; what is left then is what it does with the reply. -/
theorem behind_kickoff [Seconds τ] {setting : Setting τ σ} {context : Run.Context τ} {left : Nat}
    {patience caller : Nat} {id source : String} {lesson : Lesson} {store : σ}
    {programs : List (Program τ (List Report))} (inside : caller < programs.length)
    (more : context.pace.attempts = left + 1)
    (finds : (setting.perform store (.find id)).1 = .ok (some lesson))
    (claims : (setting.perform (setting.perform store (.find id)).2 (.claim id)).1 = .ok true)
    (timely : Seconds.isLeft
      (Seconds.sub (Seconds.add setting.reading context.pace.limit) setting.reading) = true)
    (replies : setting.reply = .ok source) (filled : Run.isBlank source = false) :
    let call := programs.set caller (Call.program context patience (.kickoff id none))
    Crowd.behind ⟨store, call⟩ (setting.play ⟨store, call⟩ (List.replicate 5 caller)) =
      ⟨(setting.perform (setting.perform store (.find id)).2 (.claim id)).2,
        programs.set caller (Run.replied context lesson setting.reading (Run.tried source))⟩ := by
  obtain ⟨⟨attempts, limit, attemptLimit, backoff⟩, model⟩ := context
  subst more
  have found : setting.answer store (.store (.find id)) =
      (.ok (some lesson), (setting.perform store (.find id)).2) := Prod.ext finds rfl
  have claimed : setting.answer (setting.perform store (.find id)).2 (.store (.claim id)) =
      (.ok true, (setting.perform (setting.perform store (.find id)).2 (.claim id)).2) :=
    Prod.ext claims rfl
  have read (store : σ) : setting.answer store .clock = (.ok setting.reading, store) := rfl
  refine (behind_step inside found).trans ?_
  refine (behind_step inside claimed).trans ?_
  refine (behind_step inside (read _)).trans ?_
  refine (behind_step inside (read _)).trans ?_
  dsimp only at timely
  simp only [Program.bind, timely, if_true]
  have generated (store : σ) (prompt : Prompt) (timeout : τ) :
      setting.answer store (.generate prompt timeout) = (.ok source, store) := Prod.ext replies rfl
  refine (behind_step inside (generated _ _ _)).trans ?_
  simp only [Program.attempt, Program.bind, filled]
  rfl

end Setting

/-! ## A reply whose module alone is flagged -/

namespace Module

/-- A lesson whose text spells a web address with an entity. -/
def spelledAddress : String := "export default <p>&#104;ttp://e</p>;"

/-- What it is lowered to. -/
def loweredAddress : String := "export default React.createElement(\"p\", null, \"http://e\");"

theorem compile_spelledAddress :
    compile spelledAddress = .ok (bareArtifact spelledAddress loweredAddress) :=
  compile_of_compilesTo (by decide +kernel)

theorem check_spelledAddress : Safety.check spelledAddress = [] := by decide +kernel

/-- The address is found behind the header and the three lines of the banner. -/
theorem check_addressModule :
    Safety.check (bareArtifact spelledAddress loweredAddress).moduleText =
      [⟨.externalUrl, "External URLs are not allowed", some 5, some loweredAddress⟩] := by
  have found : Safety.Rule.all.filterMap (Safety.firstIssue (moduleBody loweredAddress)) =
      [⟨.externalUrl, "External URLs are not allowed", some 1, some loweredAddress⟩] := by
    decide +kernel
  rw [check_bareArtifact (by decide +kernel), found]
  rfl

end Module

/-- So its attempt is flagged, and for that alone. -/
theorem Evaluation.evaluate_spelledAddress (now : Timestamp) (number : Nat) :
    evaluate now number Module.spelledAddress = .ok (flagged number Module.spelledAddress
      [⟨.externalUrl, "External URLs are not allowed", some 5, some Module.loweredAddress⟩] []) := by
  rw [← Module.check_addressModule]
  apply evaluate_of_flagged_module Module.check_spelledAddress Module.compile_spelledAddress
  rw [Module.check_addressModule]
  exact List.cons_ne_nil _ _

end Lectern
