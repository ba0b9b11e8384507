/-
Module: Lectern.Logging
Purpose: Setting up the log of a process. What is set up first stays.
Main exports: Logging.Wanted, Logging.configure, Logging.lineLayout
-/
import Lectern.Lesson.Failure
import Lectern.Text.Quoted
import Lectern.Text.UpperCase

namespace Lectern

/-- The log of a process: what is below its level is left out, and each handler writes the rest. -/
structure Logging where
  level : Int := 30
  handlers : Nat := 0
  deriving DecidableEq, Repr, Inhabited

namespace Logging

/-- How a line of a log is laid out. -/
def lineLayout : String := "%(asctime)s - %(name)s - %(levelname)s - %(message)s"

/-- The levels that have a name. -/
def namedLevels : List (String × Int) :=
  [("CRITICAL", 50), ("FATAL", 50), ("ERROR", 40), ("WARN", 30), ("WARNING", 30), ("INFO", 20),
    ("DEBUG", 10), ("NOTSET", 0)]

/-- A level as it is asked for. -/
inductive Wanted where
  /-- By its name, in capital or small letters. -/
  | named (name : String)
  | numbered (level : Int)
  deriving DecidableEq, Repr, Inhabited

/-- A level that is asked for, or why there is none. -/
def Wanted.level : Wanted → Except Failure Int
  | .numbered level => .ok level
  | .named name =>
    let name := Text.toUpperCase name.toList
    match namedLevels.lookup (String.ofList name) with
    | some level => .ok level
    | none => .error (.outside "ValueError" ("Unknown level: " ++ Text.Quoted.shown name))

/-- Set up a log that has no handler yet; any other one stays as it is. The handler comes first, and
stays even if there is no such level. -/
def configure (logging : Logging) (wanted : Wanted) : Logging × Option Failure :=
  if logging.handlers > 0 then (logging, none)
  else
    match wanted.level with
    | .ok level => ({ level, handlers := 1 }, none)
    | .error failure => ({ logging with handlers := 1 }, some failure)

end Logging

end Lectern
