/-
Module: Lectern.Console.Desk
Purpose: Running commands: on files in a working folder, with what answers programs and what has
  been printed so far.
Main exports: Console.Desk, Console.Ending, Console.Outcome, Console.Desk.run
-/
import Lectern.Console.Command
import Lectern.Console.Compilation
import Lectern.Generation.Rehearsal
import Lectern.Generation.Run
import Lectern.Lesson.Catalogue
import Lectern.Logging
import Lectern.Settings.Server

namespace Lectern.Console

/-- What commands work with. -/
structure Desk where
  /-- The path of the working folder. -/
  folder : String
  files : Store.FileTree := {}
  /-- Folders that were made and may be empty. -/
  folders : List Store.FilePath := []
  environment : ServerSettings.Environment := []
  /-- What answers programs; its store is given to it each time. -/
  rehearsal : Rehearsal
  /-- The name of the model that answers, if it has one. -/
  answering : Option String := none
  logging : Logging := {}
  printed : String := ""
  /-- The models that were prepared for generation. -/
  models : List String := []
  /-- What servers were launched with. -/
  served : List Schema.Members := []

/-- How a command ends before its end. -/
inductive Ending where
  | exit (code : Nat)
  /-- A failure that nobody expects. -/
  | crashed (failure : Failure)
  deriving DecidableEq, Repr, Inhabited

/-- A part of a command: it changes the desk, and it may end the command. -/
abbrev Act := ExceptT Ending (StateM Desk)

namespace Act

/-- End the command with a failure that nobody expects. -/
def crash {α : Type} (failure : Failure) : Act α := throw (.crashed failure)

/-- Print a text as it is. What is printed is the text that is handed on: where the output is no
terminal, the control sequences in it would still be filtered on the way. -/
def echo (text : String) : Act Unit :=
  modify fun desk => { desk with printed := desk.printed ++ text }

/-- Print a block. -/
def print (block : Block) : Act Unit :=
  match block.render with
  | .ok text => echo text
  | .error fault => crash (.outside "MarkupError" fault.message)

/-- Print blocks one after the other. -/
def printAll (blocks : List Block) : Act Unit := blocks.forM print

/-- Go on with a result. A failure of the program's own is printed and ends the command; any other
one is not expected. -/
def expect {α : Type} : Except Failure α → Act α
  | .ok value => return value
  | .error failure => do
    if failure.isOwn then
      print (Console.failure failure.message)
      throw (.exit 1)
    else crash failure

/-- Go on with a result; no failure is expected. -/
def insist {α : Type} : Except Failure α → Act α
  | .ok value => return value
  | .error failure => crash failure

/-! ## Files -/

/-- The text of a file, which must be there. -/
def readSource (file : String) : Act String := do
  let desk ← get
  match desk.files.read? (Store.FilePath.place file) with
  | some text => return String.ofList (Text.withPlainLineEnds text.toList)
  | none => throw (.exit 2)

/-- Is there a folder at a place? -/
def hasFolder (desk : Desk) (place : Store.FilePath) : Bool :=
  desk.files.hasFolder place || desk.folders.any fun folder => place.isPrefixOf folder

/-- What keeps a file from being written, if anything does. -/
def obstacle? (desk : Desk) (place : Store.FilePath) : Option String :=
  if hasFolder desk place then some "IsADirectoryError"
  else if (desk.files.read? place.dropLast).isSome then some "NotADirectoryError"
  else if !hasFolder desk place.dropLast then some "FileNotFoundError"
  else none

/-- Write a file into a folder that is there. -/
def writeFile (file text : String) : Act Unit := do
  let desk ← get
  let place := Store.FilePath.place file
  match obstacle? desk place with
  | some kind => crash (.outside kind file)
  | none => set { desk with files := desk.files.write place text }

/-- The path of the settings file of a project, from the working folder. -/
def settingsFile (project : String) : Store.FilePath :=
  Store.FilePath.place project ++ [Settings.folder, Settings.fileName]

/-- The path of the settings file as it is shown. -/
def settingsPath (desk : Desk) : String :=
  desk.folder ++ "/" ++ Settings.folder ++ "/" ++ Settings.fileName

/-- The settings of a project. -/
def loadSettings (project : String) : Act (Except Failure Settings) := do
  let desk ← get
  return match Settings.load (desk.files.read? (settingsFile project)) with
    | .ok settings => .ok settings
    | .error (.outside kind message) => .error (.outside kind message)
    | .error fault => .error (.configuration (fault.summary ++ " in " ++ settingsPath desk))

/-! ## Lessons -/

/-- Run a program on the lessons in a folder, which is made if need be. -/
def perform {α : Type} (dataDir : String) (program : Program Float α) : Act (Except Failure α) := do
  let desk ← get
  let place := Store.FilePath.place dataDir
  let rehearsal := { desk.rehearsal with store := .files (desk.files.below place) }
  let (result, rehearsal) := rehearsal.run program
  let files := match rehearsal.store with
    | .files inner => desk.files.withBelow place inner
    | .memory _ => desk.files
  set { desk with files, rehearsal, folders := place :: desk.folders }
  return result

/-- Prepare generation with the settings of the working folder and what is said instead of them. -/
def prepare (overrides : Settings.Overrides) : Act (Except Failure (Run.Context Float)) := do
  match ← loadSettings "." with
  | .error failure => return .error failure
  | .ok settings =>
    let settings := settings.override overrides
    let desk ← get
    set { desk with models := desk.models ++ [settings.model.model] }
    return .ok ⟨settings.budgets.pace, desk.answering⟩

end Act

/-! ## Commands -/

open Act

/-- Write an example of a settings file, if there is no such file. -/
def init : Act Unit := do
  let desk ← get
  let place := settingsFile "."
  if (desk.files.read? place).isSome then
    print (info ("Config already exists: " ++ settingsPath desk))
  else
    set { desk with files := desk.files.write place Settings.exampleFile }
    print (success ("Wrote " ++ settingsPath desk))

/-- Check a source file. -/
def check (file : String) : Act Unit := do
  match Safety.check (← readSource file) with
  | [] => print (success (file ++ " passed all safety rules"))
  | issues =>
    print (issueTable issues)
    throw (.exit 1)

/-- Compile a source file, and print the module or write it into a file. -/
def compile (file : String) (output : Option String) (repairs : Bool) : Act Unit := do
  let compilation := compileSource (← readSource file) repairs
  printAll compilation.printed
  match compilation.artifact, output with
  | none, _ =>
    match compilation.crash with
    | some failure => crash failure
    | none => throw (.exit 1)
  | some artifact, none => echo artifact.moduleText
  | some artifact, some output =>
    writeFile output artifact.moduleText
    let digest := String.ofList (artifact.sourceHash.toList.take 12)
    print (success ("Wrote " ++ output ++ " (sha256 " ++ digest ++ ")"))

/-- Create a lesson and generate it. -/
def generate (topic : String) (overrides : Settings.Overrides) (dataDir : String) : Act Unit := do
  let context ← expect (← prepare overrides)
  let lesson ← expect (← perform dataDir (Catalogue.create topic none))
  print (info ("Created lesson " ++ lesson.id ++ ": " ++ lesson.title))
  let report ← expect (← perform dataDir (Run.kickoff context lesson.id none))
  print (reportBlock report)
  if !report.success then throw (.exit 1)

/-- Generate the lessons in the queue, or one of them. -/
def work (once : Bool) (dataDir : String) : Act Unit := do
  let context ← expect (← prepare {})
  let desk ← get
  let most := if once then 1 else desk.files.files.length + 1
  let reports ← expect (← perform dataDir (Run.processQueue context most))
  if reports.isEmpty then print (info "No queued lessons")
  else printAll (reports.map reportBlock)

/-- List the newest lessons. -/
def list (limit : Int) (dataDir : String) : Act Unit := do
  print (lessonList (← insist (← perform dataDir (Catalogue.list limit))))

/-- Show a lesson. -/
def showLesson (id dataDir : String) : Act Unit := do
  printAll (detailBlocks (← expect (← perform dataDir (Catalogue.details id))))

/-- Run the server. -/
def serve (host : Option String) (port : Option Int) : Act Unit := do
  let desk ← get
  let settings ← insist (ServerSettings.load desk.environment [])
  let settings := { settings with
    host := host.getD settings.host, port := port.getD settings.port }
  let _ ← insist (← loadSettings settings.projectRoot)
  modify fun desk => { desk with
    folders := Store.FilePath.place settings.dataDir :: desk.folders
    served := desk.served ++
      [[("title", .str settings.title), ("version", .str settings.version)] ++
        settings.launch []] }

/-- Do what a command says. -/
def Command.act : Command → Act Unit
  | .init => Console.init
  | .check file => Console.check file
  | .compile file output repairs => Console.compile file output repairs
  | .generate topic overrides dataDir => Console.generate topic overrides dataDir
  | .work once dataDir => Console.work once dataDir
  | .list limit dataDir => Console.list limit dataDir
  | .show id dataDir => Console.showLesson id dataDir
  | .serve host port => Console.serve host port

/-- The version of the program. -/
def versionLine : String := "lessonforge 0.1.0\n"

/-- How the program is used. -/
def usage : String :=
  "Usage: lessonforge [OPTIONS] COMMAND [ARGS]\n" ++
    "Commands: " ++ ", ".intercalate commandNames ++ "\n"

/-- Set up the log. -/
def setUpLog (level : String) : Act Unit := do
  let desk ← get
  let (logging, fault) := desk.logging.configure (.named level)
  set { desk with logging }
  match fault with
  | some failure => crash failure
  | none => return ()

/-- Do what the arguments of the program ask for. -/
def Invocation.act : Invocation → Act Unit
  | .version => echo versionLine
  | .help => echo usage
  | .misused => throw (.exit 2)
  | .command logLevel asked => do
    setUpLog logLevel
    match asked with
    | some asked => asked.act
    | none => throw (.exit 2)

/-! ## Runs -/

/-- How a run of the program ends: its exit code, what it printed and what it crashed with. -/
structure Outcome where
  code : Nat
  printed : String
  crash : Option Failure := none
  deriving DecidableEq, Repr, Inhabited

/-- Run the program with some arguments. -/
def Desk.run (desk : Desk) (arguments : List String) : Outcome × Desk :=
  let (result, desk) := ((readInvocation arguments).act.run { desk with printed := "" }).run
  match result with
  | .ok () => (⟨0, desk.printed, none⟩, desk)
  | .error (.exit code) => (⟨code, desk.printed, none⟩, desk)
  | .error (.crashed failure) => (⟨1, desk.printed, some failure⟩, desk)

end Lectern.Console
