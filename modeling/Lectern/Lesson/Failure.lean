/-
Module: Lectern.Lesson.Failure
Purpose: What can go wrong between a topic and a lesson on the page, how it is said, and what the
  generation loop does about it.
Main exports: Failure, Failure.kind, Failure.ofKind, Failure.message, Failure.details, Route,
  Failure.route
-/
import Lectern.Module.Diagnostic
import Lectern.Number.Binary
import Lectern.Safety.Issue
import Lectern.Schema.Fault

namespace Lectern

/-- What can go wrong. -/
inductive Failure where
  /-- A failure of the program that has no kind of its own. -/
  | general (message : String)
  | configuration (message : String)
  | unknownLesson (id : String)
  /-- No source was generated. -/
  | noGeneration (message : String)
  /-- No answer came in time. -/
  | timedOut
  /-- The time for a lesson ran out. -/
  | outOfTime (elapsed limit : Float)
  | violation (issues : List Safety.Issue)
  /-- A source does not compile, for a reason not told apart further. -/
  | uncompiled (errors : List String)
  | unparsed (errors : List String)
  | unlowered (errors : List String)
  | unrepaired (errors : List String)
  /-- A lesson could not be mounted or shown. The cause is given by its kind. -/
  | sandbox (message : String) (mount : Option Int) (cause : Option String)
  /-- Data has the wrong shape. -/
  | malformed (medium : Schema.Medium) (faults : List Schema.Fault)
  /-- Something outside of the program failed. -/
  | outside (kind message : String)
  deriving DecidableEq, Repr, Inhabited

namespace Failure

/-- The kind of a failure. -/
def kind : Failure → String
  | .general _ => "LessonForgeError"
  | .configuration _ => "ConfigurationError"
  | .unknownLesson _ => "LessonNotFoundError"
  | .noGeneration _ => "GenerationCapabilityError"
  | .timedOut => "TimeoutError"
  | .outOfTime _ _ => "GenerationTimeoutError"
  | .violation _ => "SafetyViolation"
  | .uncompiled _ => "CompileError"
  | .unparsed _ => "CompileSyntaxError"
  | .unlowered _ => "TransformError"
  | .unrepaired _ => "RepairExhausted"
  | .sandbox _ _ _ => "SandboxRuntimeError"
  | .malformed _ _ => "ValidationError"
  | .outside kind _ => kind

/-- The first error at a stage of compiling, and how many more there are. -/
def compileSummary (stage : String) (errors : List String) : String :=
  let more := errors.length - 1
  stage ++ " error: " ++ errors.headD "unknown error" ++
    (if more == 0 then "" else " (+" ++ toString more ++ " more)")

/-- What is said of a run that took too long; its seconds are written with one place, those of the
limit with none. -/
def outOfTimeMessage (elapsed limit : String) : String :=
  "Generation exceeded " ++ limit ++ "s wall-clock limit (elapsed " ++ elapsed ++ "s)"

/-- The text of a failure. -/
def message : Failure → String
  | .general message => message
  | .configuration message => message
  | .unknownLesson id => "Lesson not found: " ++ id
  | .noGeneration message => message
  | .timedOut => ""
  | .outOfTime elapsed limit => outOfTimeMessage (Number.fixed 1 elapsed) (Number.fixed 0 limit)
  | .violation issues => Safety.violationMessage issues
  | .uncompiled errors => compileSummary "compile" errors
  | .unparsed errors => compileSummary "syntax" errors
  | .unlowered errors => compileSummary "transform" errors
  | .unrepaired errors =>
    "No deterministic repair for " ++ toString errors.length ++ " error(s)"
  | .sandbox message _ _ => message
  | .malformed medium faults =>
    "; ".intercalate (faults.map fun fault => fault.problem.message medium)
  | .outside _ message => message

/-- Is it a failure of the program itself? -/
def isOwn : Failure → Bool
  | .timedOut => false
  | .malformed _ _ => false
  | .outside _ _ => false
  | _ => true

/-- A failure of a kind that is known by its text alone; any other kind comes from outside. -/
def ofKind (kind message : String) : Failure :=
  match kind with
  | "LessonForgeError" => .general message
  | "ConfigurationError" => .configuration message
  | "LessonNotFoundError" => .unknownLesson message
  | "GenerationCapabilityError" => .noGeneration message
  | "TimeoutError" => .timedOut
  | _ => .outside kind message

/-- The stage of compiling at which a source failed, and its errors. -/
def stageDetails (stage : String) (errors : List String) : List (String × Json) :=
  [("stage", .str stage), ("errors", Json.textArray errors)]

/-- What a failure carries beside its text. -/
def details (failure : Failure) : List (String × Json) :=
  (if failure.isOwn then [("cause", Json.null)] else []) ++
    match failure with
    | .uncompiled errors => stageDetails "compile" errors
    | .unparsed errors => stageDetails "syntax" errors
    | .unlowered errors => stageDetails "transform" errors
    | .unrepaired errors => [("errors", Json.textArray errors)]
    | .unknownLesson id => [("lesson_id", .str id)]
    | .sandbox _ mount _ => [("mount_version", (mount.map Json.int).getD .null)]
    | _ => []

/-- The failure of a source that does not compile. -/
def ofFault : Module.CompileFault → Failure
  | .rejected diagnostics => .unparsed (diagnostics.map (·.message))
  | .unlowerable (.overlongReference overlong) => .outside "ValueError" overlong.message
  | .unlowerable fault => .unlowered fault.messages

end Failure

/-- What the generation loop does about a failure. -/
inductive Route where
  | repair
  | regenerate
  | fail
  deriving DecidableEq, Repr, Inhabited

/-- The name of a route. -/
def Route.name : Route → String
  | .repair => "REPAIR"
  | .regenerate => "REGENERATE"
  | .fail => "FAIL"

/-- A source that does not parse is repaired; what another prompt may mend is generated again. -/
def Failure.route : Failure → Route
  | .unparsed _ => .repair
  | .unlowered _ | .violation _ | .noGeneration _ | .unrepaired _ => .regenerate
  | _ => .fail

end Lectern
