/-
Module: Lectern.Generation.Shape
Purpose: The records that are exchanged, by name: data of each is read, and written with everything
  it leaves out.
Main exports: Shape.complete
-/
import Lectern.Generation.Prompt
import Lectern.Lesson.Record
import Lectern.Settings.Basic

namespace Lectern.Shape

open Schema

/-- Read data and write it again. -/
def completed {α : Type} (read : Reader α) (write : α → Json) : Reader Json := fun data =>
  (read data).map write

/-- A patch as JSON. -/
def patchJson (patch : String × List String) : Json :=
  .obj [("source", .str patch.1), ("rules", Json.textArray patch.2)]

/-- Read and write the record with a name. A lesson without an identifier gets `freshId`, and what
has no moment was made now. -/
def complete (freshId : String) (now : Timestamp) : String → Reader Json
  | "Accessibility" => completed Accessibility.read (·.toJson .snake)
  | "PedagogyConfig" => completed Pedagogy.read (·.toJson .snake)
  | "SafetyIssue" => completed Safety.Issue.read Safety.Issue.toJson
  | "CompiledArtifact" => completed (DatedArtifact.read now) DatedArtifact.toJson
  | "RepairPatch" => completed readPatch patchJson
  | "GenerationAttempt" => completed (Attempt.read now) Attempt.toJson
  | "Lesson" => completed (Lesson.read freshId now) (·.toJson .snake)
  | "ContentVersion" => completed (Content.read now) Content.toJson
  | "TraceRecord" => completed (Trace.read now) Trace.toJson
  | "GenerationReport" => completed Report.read Report.toJson
  | "BundleDescriptor" => completed Bundle.read Bundle.toJson
  | "LessonDetails" => completed (Details.read freshId now) (·.toJson .snake)
  | "BudgetConfig" => completed Budgets.read Budgets.toJson
  | "ModelConfig" => completed ModelSettings.read ModelSettings.toJson
  | "SandboxConfig" => completed SandboxSettings.read SandboxSettings.toJson
  | "ForgeConfig" => completed Settings.read Settings.toJson
  | "Prompt" => completed Prompt.read Prompt.toJson
  | name => fun _ => .fail (.notRecord name)

end Lectern.Shape
