/-
Module: Lectern.Lesson.Attempt
Purpose: One cycle of generating, checking and compiling a source, and what came of it.
Main exports: Outcome, Stage, Attempt, Attempt.read, Attempt.toJson
-/
import Lectern.Module.Compile
import Lectern.Safety.Issue
import Lectern.Schema.Time

namespace Lectern

open Schema

/-! ## Issues -/

namespace Safety.Issue

/-- Read an issue. Every issue blocks. -/
def read : Reader Safety.Issue := record "SafetyIssue" fun members =>
  (fun rule message _ line snippet => ⟨rule, message, line, snippet⟩) <$>
    required ["rule"] (Schema.member Safety.Rule.name Safety.Rule.all) members <*>
    required ["message"] text members <*>
    optional ["severity"] (among id ["block"]) "block" members <*>
    optional ["line"] (nullable whole) none members <*>
    optional ["snippet"] (nullable text) none members

/-- An issue as JSON. -/
def toJson (issue : Safety.Issue) : Json :=
  .obj [("rule", .str issue.rule.name), ("message", .str issue.message),
    ("severity", .str "block"),
    ("line", match issue.line with
      | some line => .int line
      | none => .null),
    ("snippet", Json.optionalText issue.snippet)]

end Safety.Issue

/-! ## Compiled modules -/

/-- A compiled module with the moment it was made. -/
structure DatedArtifact where
  artifact : Module.Artifact
  createdAt : Timestamp
  deriving DecidableEq, Repr, Inhabited

namespace DatedArtifact

/-- Read a compiled module; without a moment it was made now. -/
def read (now : Timestamp) : Reader DatedArtifact := record "CompiledArtifact" fun members =>
  (fun digest code made => ⟨⟨digest, code⟩, made⟩) <$>
    required ["source_hash"] text members <*>
    required ["module_text"] text members <*>
    optional ["created_at"] time now members

/-- A compiled module as JSON. -/
def toJson (value : DatedArtifact) : Json :=
  .obj [("source_hash", .str value.artifact.sourceHash),
    ("module_text", .str value.artifact.moduleText), ("created_at", .str value.createdAt.render)]

end DatedArtifact

/-! ## Attempts -/

/-- What came of an attempt. -/
inductive Outcome where
  | pending
  | succeeded
  | failed
  deriving DecidableEq, Repr, Inhabited

/-- The name of an outcome. -/
def Outcome.name : Outcome → String
  | .pending => "pending"
  | .succeeded => "succeeded"
  | .failed => "failed"

/-- Where an attempt failed. -/
inductive Stage where
  | generation
  | safety
  | parsing
  | transform
  | timeout
  deriving DecidableEq, Repr, Inhabited

/-- The name of a stage. -/
def Stage.name : Stage → String
  | .generation => "generation"
  | .safety => "safety"
  | .parsing => "syntax"
  | .transform => "transform"
  | .timeout => "timeout"

/-- The stage at which a source fails that does not compile. -/
def Stage.ofFault : Module.CompileFault → Stage
  | .rejected _ => .parsing
  | .unlowerable _ => .transform

/-- One cycle of generating, checking and compiling. -/
structure Attempt where
  number : Nat
  rawSource : Option String := none
  errors : List String := []
  issues : List Safety.Issue := []
  artifact : Option DatedArtifact := none
  outcome : Outcome := .pending
  repairRules : List String := []
  failureStage : Option Stage := none
  deriving DecidableEq, Repr, Inhabited

namespace Attempt

/-- Read an attempt. -/
def read (now : Timestamp) : Reader Attempt := record "GenerationAttempt" fun members =>
  (fun number source errors issues artifact outcome rules stage =>
      ⟨number, source, errors, issues, artifact, outcome, rules, stage⟩) <$>
    required ["attempt_number"] (natural 1) members <*>
    optional ["raw_source"] (nullable text) none members <*>
    optional ["errors"] (list text) [] members <*>
    optional ["safety_issues"] (list Safety.Issue.read) [] members <*>
    optional ["compiled_artifact"] (nullable (DatedArtifact.read now)) none members <*>
    optional ["outcome"] (Schema.member Outcome.name [.pending, .succeeded, .failed]) .pending
      members <*>
    optional ["repair_rules"] (list text) [] members <*>
    optional ["failure_stage"]
      (nullable (among Stage.name [.generation, .safety, .parsing, .transform, .timeout])) none
      members

/-- An attempt as JSON. -/
def toJson (attempt : Attempt) : Json :=
  .obj [("attempt_number", .nat attempt.number),
    ("raw_source", Json.optionalText attempt.rawSource),
    ("errors", Json.textArray attempt.errors),
    ("safety_issues", .arr (attempt.issues.map Safety.Issue.toJson)),
    ("compiled_artifact", (attempt.artifact.map DatedArtifact.toJson).getD .null),
    ("outcome", .str attempt.outcome.name),
    ("repair_rules", Json.textArray attempt.repairRules),
    ("failure_stage", Json.optionalText (attempt.failureStage.map Stage.name))]

end Attempt

/-! ## Repairs -/

/-- Read a repaired source and the names of the rules that made it. -/
def readPatch : Reader (String × List String) := record "RepairPatch" fun members =>
  Prod.mk <$> required ["source"] text members <*> required ["rules"] (list text) members

end Lectern
