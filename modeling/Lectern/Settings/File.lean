/-
Module: Lectern.Settings.File
Purpose: The settings file of a project.
Main exports: Settings.Unread, Settings.load, Settings.folder, Settings.fileName
-/
import Lectern.Lesson.Failure
import Lectern.Settings.Basic
import Lectern.Text.Blank
import Lectern.Yaml.Value

namespace Lectern.Settings

/-- The folder of a project that holds its settings and its lessons. -/
def folder : String := ".lessonforge"

/-- The name of the settings file. -/
def fileName : String := "config.yaml"

/-- Why a settings file gives no settings. -/
inductive Unread where
  | notYaml
  | notMapping
  | unfit (faults : List Schema.Fault)
  /-- A value of the file is none. -/
  | outside (kind message : String)
  deriving DecidableEq, Repr, Inhabited

/-- What is wrong with a settings file. -/
def Unread.summary : Unread → String
  | .notYaml => "Invalid YAML"
  | .notMapping => "Expected a mapping"
  | .unfit _ => "Invalid config"
  | .outside _ message => message

/-- The settings that a value gives. One that does not hold counts as no settings at all. -/
def ofValue (value : Yaml.Value) : Except Unread Settings :=
  if !value.holds then .ok {}
  else
    match value with
    | .mapping _ =>
      match read value.toJson with
      | .valid settings => .ok settings
      | .invalid faults => .error (.unfit faults)
    | _ => .error .notMapping

/-- The settings in the text of a file; without a file all are as usual. -/
def load : Option String → Except Unread Settings
  | none => .ok {}
  | some text =>
    match Yaml.load (Text.withPlainLineEnds text.toList) with
    | .ok value => ofValue value
    | .error .malformed => .error .notYaml
    | .error (.unfit kind message) => .error (.outside kind message)

end Lectern.Settings
