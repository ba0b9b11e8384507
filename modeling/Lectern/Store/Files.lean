/-
Module: Lectern.Store.Files
Purpose: A store that keeps one folder for each lesson: the lesson, a file for each version of its
  content, and its traces one a line.
Main exports: Answer, Files.answer, Files.perform
-/
import Lectern.Json.Parser
import Lectern.Json.Printer
import Lectern.Store.FileTree
import Lectern.Store.Operation
import Lectern.Text.Identifier
import Lectern.Text.WordChar

namespace Lectern.Store

/-- What is answered to an operation on files: the result, the changes that are due, and how many
identifiers were made up until then. -/
structure Answer (β : Type) where
  result : Except Failure β
  changes : List Change := []
  minted : Nat

namespace Files

/-! ## Where things are kept -/

/-- The folder of a lesson. -/
def folder (id : String) : FilePath := FilePath.ofText id

/-- The name of the file that a lesson is kept in. -/
def lessonFile : String := "lesson.json"

/-- The name of the file that the traces of a lesson are kept in. -/
def tracesFile : String := "traces.jsonl"

/-- The folder of the content of a lesson. -/
def contentFolder (id : String) : FilePath := folder id ++ ["contents"]

/-- The name of the file of a version: the number has four digits or more. -/
def versionFile (version : Nat) : String := "v" ++ Timestamp.padded 4 version ++ ".json"

/-- The version that a file is named for. -/
def versionOf? (name : String) : Option Nat :=
  match name.toList with
  | 'v' :: rest =>
    let digits := rest.takeWhile Text.isDecimalDigit
    if rest.dropWhile Text.isDecimalDigit == ".json".toList then Text.decimalNumber? digits
    else none
  | _ => none

/-- The versions in the folder of a lesson, with their files. -/
def versions (tree : FileTree) (id : String) : List (Nat × FilePath) :=
  tree.files.filterMap fun (path, _) =>
    match path.getLast? with
    | some name =>
      if path.dropLast == contentFolder id then (versionOf? name).map fun version => (version, path)
      else none
    | none => none

/-- The latest version in the folder of a lesson, or zero. -/
def latestVersion (tree : FileTree) (id : String) : Nat :=
  ((versions tree id).map (·.1)).foldl max 0

/-! ## Reading -/

/-- The text of a file, whatever its line ends. -/
def readText? (tree : FileTree) (path : FilePath) : Option (List Char) :=
  (tree.read? path).map fun text =>
    Text.withPlainLineEnds text.toList

/-- The value a text holds. -/
def readJson (text : List Char) : Except Failure Json :=
  match Json.Parser.parseChars .record text with
  | .ok data => .ok data
  | .error fault => .error (.malformed .text [⟨[], .unreadJson (fault.message text)⟩])

/-- Data of some shape. -/
def check {α : Type} : Schema.Checked α → Except Failure α
  | .valid value => .ok value
  | .invalid faults => .error (.malformed .text faults)

/-- The lesson that a text holds. One without an identifier is given a new one. -/
def readLesson (now : Timestamp) (minted : Nat) (text : List Char) : Except Failure Lesson × Nat :=
  match readJson text with
  | .error failure => (.error failure, minted)
  | .ok (.obj members) =>
    let minted := if Lesson.namesItself (.obj members) then minted else minted + 1
    (check (Lesson.read (Identifier.plain minted) now (.obj members)), minted)
  | .ok data => (check (Lesson.read "" now data), minted)

/-- The lesson with an identifier, if there is one. -/
def find (now : Timestamp) (minted : Nat) (tree : FileTree) (id : String) :
    Except Failure (Option Lesson) × Nat :=
  match readText? tree (folder id ++ [lessonFile]) with
  | none => (.ok none, minted)
  | some text =>
    let (read, minted) := readLesson now minted text
    (read.map some, minted)

/-- The texts of all lessons. -/
def lessonTexts (tree : FileTree) : List (List Char) :=
  tree.files.filterMap fun (path, _) =>
    match path with
    | [_, name] => if name == lessonFile then readText? tree path else none
    | _ => none

/-- Read lessons one after the other, up to the first that does not read. -/
def readLessons (now : Timestamp) (minted : Nat) :
    List (List Char) → Except Failure (List Lesson) × Nat
  | [] => (.ok [], minted)
  | text :: rest =>
    match readLesson now minted text with
    | (.error failure, minted) => (.error failure, minted)
    | (.ok lesson, minted) =>
      let (read, minted) := readLessons now minted rest
      (read.map (lesson :: ·), minted)

/-- All lessons. -/
def lessons (now : Timestamp) (minted : Nat) (tree : FileTree) :
    Except Failure (List Lesson) × Nat :=
  readLessons now minted (lessonTexts tree)

/-- The latest content of a lesson. -/
def latestContent (now : Timestamp) (tree : FileTree) (id : String) :
    Except Failure (Option Content) :=
  let latest := latestVersion tree id
  match ((versions tree id).find? (·.1 == latest)).bind fun (_, path) => readText? tree path with
  | none => .ok none
  | some text => do
    let data ← readJson text
    let content ← check (Content.read now data)
    return some content

/-- No file can be opened at a place that is a folder. -/
def isFolder (place : FilePath) : Failure :=
  .outside "IsADirectoryError" ("[Errno 21] Is a directory: '" ++ place.toText ++ "'")

/-- The traces of a lesson: one on each line that is not blank. -/
def traces (now : Timestamp) (tree : FileTree) (id : String) : Except Failure (List Trace) :=
  match readText? tree (folder id ++ [tracesFile]) with
  | none => .ok []
  | some text =>
    let lines := (Text.splitOn (· == '\n') text).map Text.trim
    (lines.filter fun line => !line.isEmpty).mapM fun line => do
      check (Trace.read now (← readJson line))

/-! ## Writing -/

/-- Keep a lesson. -/
def putLesson (lesson : Lesson) : List Change :=
  replaceFile (folder lesson.id) lessonFile
    (Json.pretty Json.recordStyle (lesson.toJson .snake))

/-- Keep a version of content. -/
def putContent (content : Content) : List Change :=
  replaceFile (contentFolder content.lessonId) (versionFile content.version)
    (Json.pretty Json.recordStyle content.toJson)

/-- Keep one more trace. -/
def addTrace (trace : Trace) : List Change :=
  [.append (folder trace.lessonId ++ [tracesFile])
    (Json.compact Json.recordStyle trace.toJson ++ "\n")]

/-! ## Operations -/

/-- Give a lesson a status, now. -/
def changeStatus {β : Type} (now : Timestamp) (minted : Nat) (status : Status) (lesson : Lesson)
    (result : Lesson → β) : Answer β :=
  let lesson := withStatus now status lesson
  { result := .ok (result lesson), changes := putLesson lesson, minted }

/-- What is answered to an operation. Nothing changes where one fails. -/
def answer {β : Type} (now : Timestamp) (minted : Nat) (tree : FileTree) :
    Operation β → Answer β
  | .create lesson => { result := .ok (), changes := putLesson lesson, minted }
  | .find id =>
    let (result, minted) := find now minted tree id
    { result, minted }
  | .list limit =>
    let (read, minted) := lessons now minted tree
    { result := read.bind (newestFirst limit), minted }
  | .claim id =>
    match find now minted tree id with
    | (.error failure, minted) => { result := .error failure, minted }
    | (.ok (some lesson), minted) =>
      if lesson.status == .queued then
        changeStatus now minted .generating lesson fun _ => true
      else { result := .ok false, minted }
    | (.ok none, minted) => { result := .ok false, minted }
  | .claimNext =>
    let (read, minted) := lessons now minted tree
    match read.bind oldestQueued with
    | .error failure => { result := .error failure, minted }
    | .ok none => { result := .ok none, minted }
    | .ok (some lesson) => changeStatus now minted .generating lesson some
  | .setStatus id status =>
    match find now minted tree id with
    | (.error failure, minted) => { result := .error failure, minted }
    | (.ok (some lesson), minted) => changeStatus now minted status lesson fun lesson => lesson
    | (.ok none, minted) => { result := .error (.unknownLesson id), minted }
  | .addContent id source code digest =>
    match tree.read? (folder id ++ [lessonFile]) with
    | none => { result := .error (.unknownLesson id), minted }
    | some _ =>
      let content : Content := ⟨id, latestVersion tree id + 1, source, code, digest, now⟩
      { result := .ok content, changes := putContent content, minted }
  | .latestContent id => { result := latestContent now tree id, minted }
  | .appendTrace trace =>
    let place := folder trace.lessonId ++ [tracesFile]
    if tree.hasFolder place then { result := .error (isFolder place), minted }
    else { result := .ok (), changes := addTrace trace, minted }
  | .traces id =>
    let place := folder id ++ [tracesFile]
    if tree.hasFolder place then { result := .error (isFolder place), minted }
    else { result := traces now tree id, minted }

/-- Do what is asked, now. -/
def perform {β : Type} (now : Timestamp) (minted : Nat) (tree : FileTree)
    (operation : Operation β) : Except Failure β × FileTree × Nat :=
  let answer := answer now minted tree operation
  (answer.result, tree.applyAll answer.changes, answer.minted)

end Files

end Lectern.Store
