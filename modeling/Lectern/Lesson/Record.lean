/-
Module: Lectern.Lesson.Record
Purpose: What is kept of a lesson: the lesson itself, the versions of its content and a trace of
  each attempt; and what is reported of it.
Main exports: Status, Lesson, Content, Trace, Report, Bundle, Details
-/
import Lectern.Lesson.Attempt
import Lectern.Lesson.Pedagogy

namespace Lectern

open Schema

/-- The state of a lesson. -/
inductive Status where
  | queued
  | generating
  | generated
  | failed
  deriving DecidableEq, Repr, Inhabited

namespace Status

/-- All states. -/
def all : List Status := [.queued, .generating, .generated, .failed]

/-- The name of a state. -/
def name : Status → String
  | .queued => "queued"
  | .generating => "generating"
  | .generated => "generated"
  | .failed => "failed"

/-- The state with a name. -/
def ofName? (text : String) : Option Status := all.find? (·.name == text)

end Status

/-! ## Lessons -/

/-- A lesson. -/
structure Lesson where
  id : String
  title : String
  topic : String
  status : Status := .queued
  pedagogy : Option Pedagogy := none
  createdAt : Timestamp
  updatedAt : Timestamp
  deriving DecidableEq, Repr, Inhabited

namespace Lesson

/-- Read a lesson. Without an identifier it gets `freshId`, and without moments it was made now. -/
def read (freshId : String) (now : Timestamp) : Reader Lesson := record "Lesson" fun members =>
  Lesson.mk <$>
    optional ["id"] text freshId members <*>
    required ["title"] text members <*>
    required ["topic"] text members <*>
    optional ["status"] (Schema.member Status.name Status.all) .queued members <*>
    optional ["pedagogy"] (nullable Pedagogy.read) none members <*>
    optional ["created_at"] time now members <*>
    optional ["updated_at"] time now members

/-- Does data give a lesson its identifier? -/
def namesItself (data : Json) : Bool := (data.member? "id").isSome

/-- A lesson as JSON. -/
def toJson (spelling : Spelling) (lesson : Lesson) : Json :=
  .obj [("id", .str lesson.id), ("title", .str lesson.title), ("topic", .str lesson.topic),
    ("status", .str lesson.status.name),
    ("pedagogy", (lesson.pedagogy.map (Pedagogy.toJson spelling)).getD .null),
    ("created_at", .str lesson.createdAt.render), ("updated_at", .str lesson.updatedAt.render)]

end Lesson

/-! ## Content -/

/-- The source and the compiled module of a successful attempt. Versions count from one. -/
structure Content where
  lessonId : String
  version : Nat
  sourceText : String
  moduleText : String
  sourceHash : String
  createdAt : Timestamp
  deriving DecidableEq, Repr, Inhabited

namespace Content

/-- Read a version of content. -/
def read (now : Timestamp) : Reader Content := record "ContentVersion" fun members =>
  Content.mk <$>
    required ["lesson_id"] text members <*>
    required ["version"] (natural 1) members <*>
    required ["source_text"] text members <*>
    required ["module_text"] text members <*>
    required ["source_hash"] text members <*>
    optional ["created_at"] time now members

/-- A version of content as JSON. -/
def toJson (content : Content) : Json :=
  .obj [("lesson_id", .str content.lessonId), ("version", .nat content.version),
    ("source_text", .str content.sourceText), ("module_text", .str content.moduleText),
    ("source_hash", .str content.sourceHash), ("created_at", .str content.createdAt.render)]

end Content

/-! ## Traces -/

/-- What is kept of an attempt, whether it succeeded or not. -/
structure Trace where
  lessonId : String
  attemptNumber : Nat
  prompt : Option String := none
  model : Option String := none
  response : Option String := none
  validation : List (String × Json) := []
  compilation : List (String × Json) := []
  error : Option String := none
  createdAt : Timestamp
  deriving Repr, Inhabited

namespace Trace

/-- Read a trace. -/
def read (now : Timestamp) : Reader Trace := record "TraceRecord" fun members =>
  Trace.mk <$>
    required ["lesson_id"] text members <*>
    required ["attempt_number"] (natural 0) members <*>
    optional ["prompt"] (nullable text) none members <*>
    optional ["model"] (nullable text) none members <*>
    optional ["response"] (nullable text) none members <*>
    optional ["validation"] dictionary [] members <*>
    optional ["compilation"] dictionary [] members <*>
    optional ["error"] (nullable text) none members <*>
    optional ["created_at"] time now members

/-- A trace as JSON. -/
def toJson (trace : Trace) : Json :=
  .obj [("lesson_id", .str trace.lessonId), ("attempt_number", .nat trace.attemptNumber),
    ("prompt", Json.optionalText trace.prompt), ("model", Json.optionalText trace.model),
    ("response", Json.optionalText trace.response), ("validation", .obj trace.validation),
    ("compilation", .obj trace.compilation), ("error", Json.optionalText trace.error),
    ("created_at", .str trace.createdAt.render)]

end Trace

/-! ## Reports -/

/-- What came of generating a lesson. -/
structure Report where
  lessonId : String
  success : Bool
  status : Status
  attemptCount : Int := 0
  issues : List Safety.Issue := []
  compileErrors : List String := []
  version : Option Int := none
  skipped : Bool := false
  reason : Option String := none
  deriving DecidableEq, Repr, Inhabited

namespace Report

/-- Read a report. -/
def read : Reader Report := record "GenerationReport" fun members =>
  Report.mk <$>
    required ["lesson_id"] text members <*>
    required ["success"] flag members <*>
    required ["status"] (Schema.member Status.name Status.all) members <*>
    optional ["attempt_count"] whole 0 members <*>
    optional ["issues"] (list Safety.Issue.read) [] members <*>
    optional ["compile_errors"] (list text) [] members <*>
    optional ["version"] (nullable whole) none members <*>
    optional ["skipped"] flag false members <*>
    optional ["reason"] (nullable text) none members

/-- A report as JSON. -/
def toJson (report : Report) : Json :=
  .obj [("lesson_id", .str report.lessonId), ("success", .bool report.success),
    ("status", .str report.status.name), ("attempt_count", .int report.attemptCount),
    ("issues", .arr (report.issues.map Safety.Issue.toJson)),
    ("compile_errors", Json.textArray report.compileErrors),
    ("version", match report.version with
      | some version => .int version
      | none => .null),
    ("skipped", .bool report.skipped), ("reason", Json.optionalText report.reason)]

end Report

/-! ## What is needed to show a lesson -/

/-- Where the module of a lesson is found, the style that goes with it, and its integrity value. -/
structure Bundle where
  moduleRef : String
  styleText : String := ""
  integrity : String
  deriving DecidableEq, Repr, Inhabited

namespace Bundle

/-- Read a bundle. -/
def read : Reader Bundle := record "BundleDescriptor" fun members =>
  Bundle.mk <$>
    required ["module_ref"] text members <*>
    optional ["style_text"] text "" members <*>
    required ["integrity"] text members

/-- A bundle as JSON. -/
def toJson (bundle : Bundle) : Json :=
  .obj [("module_ref", .str bundle.moduleRef), ("style_text", .str bundle.styleText),
    ("integrity", .str bundle.integrity)]

end Bundle

/-- A lesson with its latest content and its traces. -/
structure Details where
  lesson : Lesson
  content : Option Content := none
  traces : List Trace := []
  deriving Repr, Inhabited

namespace Details

/-- Read a lesson with its content and traces. -/
def read (freshId : String) (now : Timestamp) : Reader Details :=
  record "LessonDetails" fun members =>
    Details.mk <$>
      required ["lesson"] (Lesson.read freshId now) members <*>
      optional ["content"] (nullable (Content.read now)) none members <*>
      optional ["traces"] (list (Trace.read now)) [] members

/-- A lesson with its content and traces as JSON. -/
def toJson (spelling : Spelling) (details : Details) : Json :=
  .obj [("lesson", details.lesson.toJson spelling),
    ("content", (details.content.map Content.toJson).getD .null),
    ("traces", .arr (details.traces.map Trace.toJson))]

end Details

end Lectern
