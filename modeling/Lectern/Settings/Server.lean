/-
Module: Lectern.Settings.Server
Purpose: The settings of the server. Each is taken from what is given, else from the environment,
  else it is as usual.
Main exports: ServerSettings, ServerSettings.load, ServerSettings.launch
-/
import Lectern.Json.Parser
import Lectern.Lesson.Failure
import Lectern.Schema.Scalar
import Lectern.Store.FileTree

namespace Lectern

open Schema

/-- How much a server logs. -/
inductive Verbosity where
  | debug
  | info
  | warning
  | error
  | critical
  deriving DecidableEq, Repr, Inhabited

namespace Verbosity

/-- The name of a level. -/
def name : Verbosity → String
  | .debug => "debug"
  | .info => "info"
  | .warning => "warning"
  | .error => "error"
  | .critical => "critical"

/-- All levels. -/
def all : List Verbosity := [.debug, .info, .warning, .error, .critical]

end Verbosity

/-- The settings of the server. -/
structure ServerSettings where
  host : String := "127.0.0.1"
  port : Int := 8000
  reload : Bool := false
  verbosity : Verbosity := .info
  accessLog : Bool := true
  title : String := "LessonForge API"
  version : String := "0.1.0"
  /-- Who knows this text may ask for generation. -/
  signingKey : Option String := none
  dataDir : String := ".lessonforge/lessons"
  projectRoot : String := "."
  /-- The sites whose pages may use the server. -/
  origins : List String := []
  deriving DecidableEq, Repr, Inhabited

namespace ServerSettings

/-! ## Reading -/

/-- The path of a file or folder. -/
def path : Reader String
  | .str text => .valid (Store.FilePath.plain text)
  | _ => .fail .notPath

/-- The keys of the settings, in order. -/
def keys : List String :=
  ["host", "port", "reload", "log_level", "access_log", "title", "version", "signing_key",
    "data_dir", "project_root", "cors_origins"]

/-- Read the settings. -/
def read : Reader ServerSettings := record "ServerConfig" fun members =>
  (fun settings _ => settings) <$>
    (ServerSettings.mk <$>
      optional ["host"] text "127.0.0.1" members <*>
      optional ["port"] whole 8000 members <*>
      optional ["reload"] flag false members <*>
      optional ["log_level"] (among Verbosity.name Verbosity.all) .info members <*>
      optional ["access_log"] flag true members <*>
      optional ["title"] text "LessonForge API" members <*>
      optional ["version"] text "0.1.0" members <*>
      optional ["signing_key"] (nullable text) none members <*>
      optional ["data_dir"] path ".lessonforge/lessons" members <*>
      optional ["project_root"] path "." members <*>
      optional ["cors_origins"] (list text) [] members) <*>
    closed (keys.map fun key => [key]) members

/-- The settings as JSON. -/
def toJson (settings : ServerSettings) : Json :=
  .obj [("host", .str settings.host), ("port", .int settings.port),
    ("reload", .bool settings.reload), ("log_level", .str settings.verbosity.name),
    ("access_log", .bool settings.accessLog), ("title", .str settings.title),
    ("version", .str settings.version), ("signing_key", Json.optionalText settings.signingKey),
    ("data_dir", .str settings.dataDir), ("project_root", .str settings.projectRoot),
    ("cors_origins", Json.textArray settings.origins)]

/-! ## The environment -/

/-- The variables of an environment, by name. -/
abbrev Environment := List (String × String)

/-- The variable that holds a setting. -/
def variableOf (key : String) : String := "lessonforge_server_" ++ key

/-- The value of a variable, whose name may be in capital or small letters. -/
def value? (environment : Environment) (name : String) : Option String :=
  (environment.reverse.find? fun (spelled, _) =>
    String.ofList (spelled.toList.map Char.toLower) == name).map (·.2)

/-- The setting that a variable holds. A list is written as JSON. -/
def ofVariable (key text : String) : Except Failure Json :=
  if key == "cors_origins" then
    match Json.parse text with
    | .ok value => .ok value
    | .error _ => .error (.outside "SettingsError" ("error parsing value for field \x22" ++ key ++
        "\x22 from source \x22EnvSettingsSource\x22"))
  else .ok (.str text)

/-- The settings that an environment holds. -/
def ofEnvironment (environment : Environment) : List String → Except Failure Members
  | [] => .ok []
  | key :: rest => do
    let found ← match value? environment (variableOf key) with
      | none => .ok []
      | some text => (ofVariable key text).map fun value => [(key, value)]
    return found ++ (← ofEnvironment environment rest)

/-- The settings that are given, with those of the environment where nothing is given. -/
def load (environment : Environment) (given : Members) : Except Failure ServerSettings := do
  let held ← ofEnvironment environment keys
  match read (.obj (held ++ given)) with
  | .valid settings => .ok settings
  | .invalid faults => .error (.malformed .values faults)

/-! ## Launching -/

/-- What a server is launched with; what else is said overrides the settings. -/
def launch (settings : ServerSettings) (overrides : Members) : Members :=
  Json.distinctMembers ([("host", .str settings.host), ("port", .int settings.port),
    ("reload", .bool settings.reload), ("log_level", .str settings.verbosity.name),
    ("access_log", .bool settings.accessLog)] ++ overrides)

end ServerSettings

end Lectern
