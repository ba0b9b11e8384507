/-
Module: Lectern.Generation.Run
Purpose: Generating the content of lessons: a lesson is claimed, then sources are asked for until
  one is accepted, the attempts are used up or the time is over. Every attempt leaves a trace, and
  the status comes last.
Main exports: Run.Context, Run.kickoff, Run.processNext, Run.processQueue, Run.persist, Run.traceOf
-/
import Lectern.Generation.Evaluation
import Lectern.Generation.Pace
import Lectern.Generation.Program
import Lectern.Lesson.Topic

namespace Lectern.Run

variable {τ : Type} [Seconds τ]

/-- What all runs share: the budgets and the name of the model, if it is known. -/
structure Context (τ : Type) where
  pace : Pace τ
  model : Option String

/-! ## Attempts -/

/-- What a trace says of the safety check. -/
def validationOf (response : Option String) (attempt : Attempt) : List (String × Json) :=
  [("passed", .bool (response.isSome && attempt.failureStage != some .safety)),
    ("issues", .arr (attempt.issues.map Safety.Issue.toJson))]

/-- Was the source of an attempt given to the compiler? -/
def wasCompiled (attempt : Attempt) : Bool :=
  attempt.outcome == .succeeded || attempt.failureStage == some .parsing ||
    attempt.failureStage == some .transform

/-- What a trace says of the compiler. -/
def compilationOf (attempt : Attempt) : List (String × Json) :=
  let compiled := wasCompiled attempt
  let succeeded := attempt.outcome == .succeeded
  [("attempted", .bool compiled), ("success", .bool succeeded),
    ("stage", if compiled && !succeeded then
      Json.optionalText (attempt.failureStage.map Stage.name) else .null),
    ("errors", if compiled then Json.textArray attempt.errors else .arr []),
    ("repaired", .bool (!attempt.repairRules.isEmpty)),
    ("repair_rules", Json.textArray attempt.repairRules)]

/-- What a trace says went wrong. -/
def errorOf (attempt : Attempt) : Option String :=
  if attempt.outcome == .succeeded then none
  else
    let stage := match attempt.failureStage with
      | some stage => stage.name
      | none => "None"
    some (stage ++ ": " ++ "; ".intercalate attempt.errors)

/-- The trace of an attempt. -/
def traceOf (lessonId : String) (prompt : Prompt) (model response : Option String)
    (attempt : Attempt) (now : Timestamp) : Trace where
  lessonId
  attemptNumber := attempt.number
  prompt := some prompt.asText
  model
  response
  validation := validationOf response attempt
  compilation := compilationOf attempt
  error := errorOf attempt
  createdAt := now

/-- The prompt of an attempt: the topic, or what was wrong with the source before. -/
def promptFor (lesson : Lesson) (pedagogy : Pedagogy) (previous : Option Attempt) : Prompt :=
  match previous with
  | some ⟨_, some source, errors, _, _, _, _, _⟩ => .fix lesson.topic source errors
  | _ => .initial lesson.topic pedagogy

/-- What one lesson is generated with. -/
structure Task (τ : Type) extends Context τ where
  lesson : Lesson
  pedagogy : Pedagogy
  started : τ
  deadline : τ

/-- The text of a failure for want of time. -/
def outOfTime (task : Task τ) (now : τ) : String :=
  Failure.outOfTimeMessage (Seconds.written 1 (Seconds.sub now task.started))
    (Seconds.written 0 task.pace.limit)

/-- A failed attempt that has no source, and its trace. -/
def unanswered (task : Task τ) (prompt : Prompt) (number : Nat) (stage : Stage) (error : String) :
    Program τ (Attempt × Trace) := do
  let attempt := Evaluation.failed number none stage [error] [] []
  let now ← .call .moment
  return (attempt, traceOf task.lesson.id prompt task.model none attempt now)

/-- An attempt for which the time of the lesson is over. -/
def timedOut (task : Task τ) (prompt : Prompt) (number : Nat) : Program τ (Attempt × Trace) := do
  let now ← .call .clock
  unanswered task prompt number .timeout (outOfTime task now)

/-- Is a reply empty? -/
def isBlank (reply : String) : Bool := reply.toList.all Text.isBlank

/-- Make an attempt of a source that was generated, unless the compiler breaks off. -/
def evaluated (task : Task τ) (prompt : Prompt) (number : Nat) (source : String) :
    Program τ (Attempt × Trace) := do
  let now ← .call .moment
  let attempt ← .ofExcept (Evaluation.evaluate now number source)
  return (attempt, traceOf task.lesson.id prompt task.model (some source) attempt now)

/-- Ask for a source and make an attempt of it. No answer is waited for beyond the time of the
lesson. -/
def attempt (task : Task τ) (number : Nat) (previous : Option Attempt) :
    Program τ (Attempt × Trace) := do
  let prompt := promptFor task.lesson task.pedagogy previous
  let remaining := Seconds.sub task.deadline (← .call .clock)
  if Seconds.isLeft remaining then
    let timeout := Seconds.least task.pace.attemptLimit remaining
    let reply ← (Program.call (.generate prompt timeout)).attempt
    match reply with
    | .ok source =>
      if isBlank source then
        unanswered task prompt number .generation "Generation returned an empty response"
      else evaluated task prompt number source
    | .error .timedOut =>
      if Seconds.isLess timeout task.pace.attemptLimit then timedOut task prompt number
      else
        unanswered task prompt number .generation
          ("Generation timed out after " ++ Seconds.written 0 timeout ++ "s")
    | .error (.noGeneration message) => unanswered task prompt number .generation message
    | .error failure => .failed failure
  else timedOut task prompt number

/-! ## Runs -/

/-- Keep what an attempt made. A source or a module that is not safe is refused; this is the only
place where content is written. -/
def persist (lessonId source : String) (artifact : Module.Artifact) : Program τ Content :=
  match Safety.check source, Safety.check artifact.moduleText with
  | [], [] => .store (.addContent lessonId source artifact.moduleText artifact.sourceHash)
  | [], issues => .failed (.violation issues)
  | issues, _ => .failed (.violation issues)

/-- Wait before the next attempt, but not beyond the time of the lesson. -/
def backOff (task : Task τ) (failed : Nat) : Program τ Unit := do
  let delay ← .ofExcept (task.pace.backoff failed)
  let remaining := Seconds.positivePart (Seconds.sub task.deadline (← .call .clock))
  let delay := Seconds.least delay remaining
  if Seconds.isLess Seconds.zero delay then .call (.sleep delay) else return ()

/-- What a turn comes to: a report, or an attempt that failed. -/
inductive Turn where
  | finished (report : Report)
  | again (attempt : Attempt)

/-- The report of a lesson that was generated. -/
def successReport (lessonId : String) (number version : Nat) : Report where
  lessonId
  success := true
  status := .generated
  attemptCount := number
  version := some version

/-- What an attempt leaves behind: content, its trace and the status if it succeeded, else its trace
alone. -/
def conclude (task : Task τ) (number : Nat) (made : Attempt) (trace : Trace) :
    Program τ Turn :=
  match made.rawSource, made.artifact, made.outcome with
  | some source, some dated, .succeeded => do
    let content ← persist task.lesson.id source dated.artifact
    .store (.appendTrace trace)
    let _ ← .store (.setStatus task.lesson.id .generated)
    return .finished (successReport task.lesson.id number content.version)
  | _, _, _ => do
    .store (.appendTrace trace)
    return .again made

/-- Wait, unless this is the first attempt. -/
def pause (task : Task τ) (number : Nat) (previous : Option Attempt) : Program τ Unit :=
  if previous.isSome then backOff task (number - 1) else return ()

/-- One attempt with all it leaves behind. -/
def turn (task : Task τ) (number : Nat) (previous : Option Attempt) : Program τ Turn := do
  pause task number previous
  let (made, trace) ← attempt task number previous
  conclude task number made trace

/-- The trace that a failure leaves which no attempt stands for. -/
def crashTrace (lessonId : String) (number : Nat) (failure : Failure) (now : Timestamp) :
    Trace where
  lessonId
  attemptNumber := number
  error := some (failure.kind ++ ": " ++ failure.message)
  createdAt := now

/-- A run that cannot go on: the failure is kept, the lesson has failed, and the caller hears of
it. -/
def crash (task : Task τ) (number : Nat) (failure : Failure) : Program τ Report := do
  let now ← .call .moment
  .store (.appendTrace (crashTrace task.lesson.id number failure now))
  let _ ← .store (.setStatus task.lesson.id .failed)
  .failed failure

/-- The errors of the compiler in a report. -/
def compileErrors (attempt : Attempt) : List String :=
  if attempt.failureStage == some .parsing || attempt.failureStage == some .transform then
    attempt.errors
  else []

/-- The report of a lesson whose last attempt failed. -/
def failureReport (lessonId : String) (number : Nat) (last : Attempt) : Report where
  lessonId
  success := false
  status := .failed
  attemptCount := number
  issues := last.issues
  compileErrors := compileErrors last
  reason :=
    let reason := "; ".intercalate last.errors
    if reason.isEmpty then none else some reason

/-- No attempt is left: the lesson has failed. -/
def giveUp (task : Task τ) (number : Nat) (last : Option Attempt) : Program τ Report := do
  let _ ← .store (.setStatus task.lesson.id .failed)
  match last with
  | some last => return failureReport task.lesson.id number last
  | none => .failed (.outside "AssertionError" "")

/-- Make attempts until one succeeds, the time is over or none is left. -/
def attempts (task : Task τ) : Nat → Nat → Option Attempt → Program τ Report
  | 0, number, previous => giveUp task (number - 1) previous
  | left + 1, number, previous => do
    match ← (turn task number previous).attempt with
    | .error failure => crash task number failure
    | .ok (.finished report) => return report
    | .ok (.again made) =>
      if made.failureStage == some .timeout then giveUp task number (some made)
      else attempts task left (number + 1) (some made)

/-- Generate a lesson that has been claimed. -/
def run (context : Context τ) (lesson : Lesson) (pedagogy : Option Pedagogy) :
    Program τ Report := do
  let pedagogy := (pedagogy.or lesson.pedagogy).getD (Topic.inferPedagogy lesson.topic)
  let started ← .call .clock
  let deadline := Seconds.add started context.pace.limit
  attempts { context with lesson, pedagogy, started, deadline } context.pace.attempts 1 none

/-- The report of a lesson that is left alone. -/
def skippedReport (lessonId : String) (status : Status) : Report where
  lessonId
  success := false
  status
  skipped := true
  reason := some ("Lesson status is '" ++ status.name ++ "', not 'queued'")

/-- Generate a lesson, if it is in the queue. -/
def kickoff (context : Context τ) (lessonId : String) (pedagogy : Option Pedagogy) :
    Program τ Report := do
  match ← Program.store (.find lessonId) with
  | none => .failed (.unknownLesson lessonId)
  | some lesson =>
    if ← .store (.claim lessonId) then run context lesson pedagogy
    else
      let current ← .store (.find lessonId)
      return skippedReport lessonId (current.getD lesson).status

/-- Generate the oldest lesson in the queue, if there is one. -/
def processNext (context : Context τ) : Program τ (Option Report) := do
  match ← Program.store .claimNext with
  | none => return none
  | some lesson => return some (← run context lesson none)

/-- Generate lessons from the queue, one after the other, until it is empty; at most so many. -/
def processQueue (context : Context τ) : Nat → Program τ (List Report)
  | 0 => return []
  | most + 1 => do
    match ← processNext context with
    | none => return []
    | some report => return report :: (← processQueue context most)

end Lectern.Run
