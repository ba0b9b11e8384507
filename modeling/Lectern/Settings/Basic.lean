/-
Module: Lectern.Settings.Basic
Purpose: The settings of the pipeline: budgets for generation, the model to ask, and the sandbox.
Main exports: Settings, Settings.read, Settings.toJson, Settings.override, Settings.exampleFile
-/
import Lectern.Number.Shortest
import Lectern.Schema.Scalar

namespace Lectern

open Schema

/-- Budgets of attempts and time for one lesson. -/
structure Budgets where
  maxAttempts : Int := 3
  maxMinutes : Float := 10.0
  attemptTimeoutSeconds : Float := 120.0
  backoffBaseSeconds : Float := 2.0
  backoffMaxSeconds : Float := 10.0
  deriving Repr, Inhabited

namespace Budgets

/-- Read budgets. -/
def read : Reader Budgets := record "BudgetConfig" fun members =>
  Budgets.mk <$>
    optional ["max_attempts"] (atLeast 1 whole) 3 members <*>
    optional ["max_minutes"] (numberMoreThan 0 number) 10.0 members <*>
    optional ["attempt_timeout_seconds"] (numberMoreThan 0 number) 120.0 members <*>
    optional ["backoff_base_seconds"] (numberAtLeast 0 number) 2.0 members <*>
    optional ["backoff_max_seconds"] (numberAtLeast 0 number) 10.0 members

/-- Budgets as JSON. -/
def toJson (budgets : Budgets) : Json :=
  .obj [("max_attempts", .int budgets.maxAttempts), ("max_minutes", .float budgets.maxMinutes),
    ("attempt_timeout_seconds", .float budgets.attemptTimeoutSeconds),
    ("backoff_base_seconds", .float budgets.backoffBaseSeconds),
    ("backoff_max_seconds", .float budgets.backoffMaxSeconds)]

end Budgets

/-- The model that generates sources, and how it is asked. -/
structure ModelSettings where
  model : String := "claude-sonnet-4-5"
  maxTokens : Int := 8192
  temperature : Float := 0.4
  maxRetries : Int := 3
  deriving Repr, Inhabited

namespace ModelSettings

/-- Read the settings of the model. -/
def read : Reader ModelSettings := record "ModelConfig" fun members =>
  ModelSettings.mk <$>
    optional ["model"] text "claude-sonnet-4-5" members <*>
    optional ["max_tokens"] whole 8192 members <*>
    optional ["temperature"] (numberAtLeast 0 (numberAtMost 1 number)) 0.4 members <*>
    optional ["max_retries"] (atLeast 1 whole) 3 members

/-- The settings of the model as JSON. -/
def toJson (settings : ModelSettings) : Json :=
  .obj [("model", .str settings.model), ("max_tokens", .int settings.maxTokens),
    ("temperature", .float settings.temperature), ("max_retries", .int settings.maxRetries)]

end ModelSettings

/-- How a lesson is kept apart from the page around it. -/
inductive Isolation where
  | frame
  | shadow
  deriving DecidableEq, Repr, Inhabited

/-- The name of a kind of isolation. -/
def Isolation.name : Isolation → String
  | .frame => "frame"
  | .shadow => "shadow"

/-- The settings of the sandbox. -/
structure SandboxSettings where
  isolation : Isolation := .frame
  runtimeScriptUrl : String := "/vendor/react.production.min.js"
  domScriptUrl : String := "/vendor/react-dom.production.min.js"
  frameHeightPx : Nat := 600
  resourceBase : String := "blob:lessonforge"
  deriving DecidableEq, Repr, Inhabited

namespace SandboxSettings

/-- Read the settings of the sandbox. -/
def read : Reader SandboxSettings := record "SandboxConfig" fun members =>
  SandboxSettings.mk <$>
    optional ["isolation"] (among Isolation.name [.frame, .shadow]) .frame members <*>
    optional ["runtime_script_url"] text "/vendor/react.production.min.js" members <*>
    optional ["dom_script_url"] text "/vendor/react-dom.production.min.js" members <*>
    optional ["frame_height_px"] (natural 100) 600 members <*>
    optional ["resource_base"] text "blob:lessonforge" members

/-- The settings of the sandbox as JSON. -/
def toJson (settings : SandboxSettings) : Json :=
  .obj [("isolation", .str settings.isolation.name),
    ("runtime_script_url", .str settings.runtimeScriptUrl),
    ("dom_script_url", .str settings.domScriptUrl),
    ("frame_height_px", .nat settings.frameHeightPx),
    ("resource_base", .str settings.resourceBase)]

end SandboxSettings

/-- The settings of the pipeline. -/
structure Settings where
  budgets : Budgets := {}
  model : ModelSettings := {}
  sandbox : SandboxSettings := {}
  deriving Repr, Inhabited

namespace Settings

/-- Read the settings of the pipeline. Unknown sections are passed over. -/
def read : Reader Settings := record "ForgeConfig" fun members =>
  Settings.mk <$>
    optional ["budgets"] Budgets.read {} members <*>
    optional ["model"] ModelSettings.read {} members <*>
    optional ["sandbox"] SandboxSettings.read {} members

/-- The settings of the pipeline as JSON. -/
def toJson (settings : Settings) : Json :=
  .obj [("budgets", settings.budgets.toJson), ("model", settings.model.toJson),
    ("sandbox", settings.sandbox.toJson)]

/-- What a command line says instead of the settings. -/
structure Overrides where
  maxAttempts : Option Int := none
  maxMinutes : Option Float := none
  model : Option String := none
  deriving Repr, Inhabited

/-- Settings with what a command line says instead. -/
def override (settings : Settings) (overrides : Overrides) : Settings :=
  { settings with
    budgets := { settings.budgets with
      maxAttempts := overrides.maxAttempts.getD settings.budgets.maxAttempts
      maxMinutes := overrides.maxMinutes.getD settings.budgets.maxMinutes }
    model := { settings.model with model := overrides.model.getD settings.model.model } }

/-! ## The example file -/

/-- Numbers in a settings file: an exponent carries a sign and two digits. -/
def fileLayout : Number.Layout := ⟨-3, 16, true, 2⟩

/-- A setting as it stands behind its key. -/
def settingText : Json → String
  | .int value => toString value
  | .float value => Number.render fileLayout value
  | .str value => value
  | _ => ""

/-- The lines of a section: its name, then its settings two blanks further in. -/
def sectionLines : String × Json → List String
  | (name, .obj members) =>
    (name ++ ":") :: members.map fun (key, value) => "  " ++ key ++ ": " ++ settingText value
  | _ => []

/-- A settings file with every setting at its default. -/
def exampleFile : String :=
  let sections := match toJson {} with
    | .obj members => members
    | _ => []
  "\n".intercalate (sections.flatMap sectionLines) ++ "\n"

end Settings

/-- The delay after some failed attempts: the base, doubled with each further one, up to a maximum.
A doubling that no floating-point number holds fails. -/
def Budgets.backoffDelay? (budgets : Budgets) (failed : Int) : Option Float :=
  if failed - 1 ≥ 1024 then none
  else
    let delay := budgets.backoffBaseSeconds * Number.twoToThe (failed - 1)
    some (if budgets.backoffMaxSeconds < delay then budgets.backoffMaxSeconds else delay)

end Lectern
