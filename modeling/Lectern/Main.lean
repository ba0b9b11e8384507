/-
Module: Lectern.Main
Purpose: The program: it runs a command on the files it needs and writes those that have changed.
Main exports: main
-/
import Lectern.Console.Desk
import Std.Time.DateTime

namespace Lectern.Main

open Lectern.Console Lectern.Store

/-- The path of a place as the system knows it. -/
def pathOf : FilePath → String
  | "/" :: steps => "/" ++ FilePath.toText steps
  | [] => "."
  | steps => FilePath.toText steps

/-- The files at a place and below it, as far as they are text; `fuel` bounds how deep they lie. -/
def filesAt : Nat → FilePath → IO (List (FilePath × String))
  | 0, _ => return []
  | fuel + 1, place => do
    let path := (← IO.currentDir) / pathOf place
    if ← path.isDir then
      let entries ← path.readDir
      let below ← entries.toList.mapM fun entry => filesAt fuel (place ++ [entry.fileName])
      return below.flatten
    else if ← path.pathExists then
      match String.fromUTF8? (← IO.FS.readBinFile path) with
      | some text => return [(place, text)]
      | none => return []
    else return []

/-- The places whose files a command works with. -/
def placesOf : Invocation → List FilePath
  | .command _ (some command) =>
    Act.settingsFile "." :: ((command.files ++ command.dataDir?.toList).map FilePath.place)
  | _ => []

/-- Write a file, and make the folders on the way to it. -/
def writeFile (place : FilePath) (text : String) : IO Unit := do
  IO.FS.createDirAll (pathOf place.dropLast)
  IO.FS.writeFile (pathOf place) text

/-- The present moment. -/
def now : IO Timestamp := do
  let moment ← Std.Time.Timestamp.now
  return ⟨moment.toNanosecondsSinceUnixEpoch.toInt / 1000, some 0⟩

/-- What a command works with: the files it needs, and nobody who answers prompts. -/
def desk (arguments : List String) : IO Desk := do
  let found ← (placesOf (readInvocation arguments)).mapM (filesAt 16)
  let minted ← IO.rand 0 (Nat.pow 2 64)
  return {
    folder := (← IO.currentDir).toString
    files := ⟨found.flatten⟩
    rehearsal := { store := .files {}, now := ← now, minted := minted * Nat.pow 2 64 } }

end Lectern.Main

open Lectern in
/-- Run the program. -/
def main (arguments : List String) : IO UInt32 := do
  let desk ← Main.desk arguments
  let (outcome, after) := desk.run arguments
  IO.print outcome.printed
  for (place, text) in after.files.files do
    if desk.files.read? place != some text then Main.writeFile place text
  match outcome.crash with
  | some failure => IO.eprintln (failure.kind ++ ": " ++ failure.message)
  | none => pure ()
  return outcome.code.toUInt32
