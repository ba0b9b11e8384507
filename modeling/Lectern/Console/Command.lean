/-
Module: Lectern.Console.Command
Purpose: The commands, and how they are read from the arguments of the program.
Main exports: Console.Command, Console.Invocation, Console.readInvocation
-/
import Lectern.Console.Arguments
import Lectern.Settings.File
import Lectern.Store.FileTree

namespace Lectern.Console

/-- What the program can be told to do. -/
inductive Command where
  /-- Write an example of a settings file. -/
  | init
  /-- Check a source file. -/
  | check (file : String)
  /-- Compile a source file. -/
  | compile (file : String) (output : Option String) (repairs : Bool)
  /-- Create a lesson and generate it. -/
  | generate (topic : String) (overrides : Settings.Overrides) (dataDir : String)
  /-- Generate the lessons in the queue, or one of them. -/
  | work (once : Bool) (dataDir : String)
  /-- List the newest lessons. -/
  | list (limit : Int) (dataDir : String)
  /-- Show a lesson. -/
  | show (id : String) (dataDir : String)
  /-- Run the server. -/
  | serve (host : Option String) (port : Option Int)
  deriving Repr, Inhabited

/-- The files that a command reads or writes beside the settings file. -/
def Command.files : Command → List String
  | .check file => [file]
  | .compile file output _ => file :: output.toList
  | _ => []

/-- The folder whose lessons a command works with. -/
def Command.dataDir? : Command → Option String
  | .generate _ _ dataDir | .work _ dataDir | .list _ dataDir | .show _ dataDir => some dataDir
  | _ => none

/-- What the arguments of the program ask for. -/
inductive Invocation where
  | version
  | help
  /-- A command, once the log has been set up; its own arguments may not be understood. -/
  | command (logLevel : String) (command : Option Command)
  /-- No command can be made out. -/
  | misused
  deriving Repr, Inhabited

/-- Where lessons are kept if nothing else is said. -/
def usualDataDir : String := Settings.folder ++ "/lessons"

/-! ## Reading commands -/

/-- The option that says where lessons are kept. -/
def dataDirSwitch : Switch := ⟨["--data-dir"], true⟩

/-- Where lessons are kept. -/
def dataDirOf (given : Given) : String :=
  Store.FilePath.plain ((given.value? "--data-dir").getD usualDataDir)

/-- The value of an option, if it is given, which must then be readable. -/
def readValue {α : Type} (given : Given) (key : String) (read : String → Option α) :
    Option (Option α) :=
  match given.value? key with
  | none => some none
  | some text => (read text).map some

/-- The options of a command. -/
def switchesOf : String → List Switch
  | "compile" => [⟨["--output", "-o"], true⟩, ⟨["--repair"], false⟩]
  | "generate" =>
    [⟨["--max-attempts"], true⟩, ⟨["--max-minutes"], true⟩, ⟨["--model"], true⟩, dataDirSwitch]
  | "work" => [⟨["--once"], false⟩, dataDirSwitch]
  | "list" => [⟨["--limit", "-n"], true⟩, dataDirSwitch]
  | "show" => [dataDirSwitch]
  | "serve" => [⟨["--host"], true⟩, ⟨["--port", "-p"], true⟩]
  | _ => []

/-- The names of the commands. -/
def commandNames : List String :=
  ["init", "check", "compile", "generate", "work", "list", "show", "serve"]

/-- The command with a name, by what is given for it. -/
def commandOf (name : String) (given : Given) : Option Command :=
  match name, given.others with
  | "init", [] => some .init
  | "check", [file] => some (.check (Store.FilePath.plain file))
  | "compile", [file] =>
    some (.compile (Store.FilePath.plain file) ((given.value? "--output").map Store.FilePath.plain)
      (given.has "--repair"))
  | "generate", [topic] => do
    let maxAttempts ← readValue given "--max-attempts" readWhole?
    let maxMinutes ← readValue given "--max-minutes" Schema.readNumber?
    return .generate topic { maxAttempts, maxMinutes, model := given.value? "--model" }
      (dataDirOf given)
  | "work", [] => some (.work (given.has "--once") (dataDirOf given))
  | "list", [] => do
    let limit ← readValue given "--limit" readWhole?
    return .list (limit.getD 20) (dataDirOf given)
  | "show", [id] => some (.show id (dataDirOf given))
  | "serve", [] => do
    let port ← readValue given "--port" readWhole?
    return .serve (given.value? "--host") port
  | _, _ => none

/-- The command that the arguments behind its name ask for. -/
def readCommand (name : String) (arguments : List String) : Option Command := do
  commandOf name (← readArguments (switchesOf name) true arguments)

/-! ## Reading invocations -/

/-- The options in front of a command. -/
def programSwitches : List Switch := [⟨["--version", "-v"], false⟩, ⟨["--log-level"], true⟩]

/-- The level of the log if nothing else is said. -/
def usualLogLevel : String := "warning"

/-- What the arguments of the program ask for. -/
def readInvocation (arguments : List String) : Invocation :=
  match readArguments programSwitches false arguments with
  | none => .misused
  | some given =>
    match given.options.find? fun (key, _) => key == "--version" || key == "--help" with
    | some (key, _) => if key == "--version" then .version else .help
    | none =>
      match given.others with
      | [] => .misused
      | name :: rest =>
        if !commandNames.contains name then .misused
        else
          let asksHelp :=
            ((readArguments (switchesOf name) true rest).map (·.has "--help")).getD false
          if asksHelp then .help
          else .command ((given.value? "--log-level").getD usualLogLevel) (readCommand name rest)

end Lectern.Console
