/-
Module: Lectern.Generation.Rehearsal
Purpose: Answering programs without a model or a clock: a script gives the replies, and time passes
  only where the script or a program says so.
Main exports: Rehearsal, Rehearsal.run, Rehearsal.runTogether
-/
import Lectern.Generation.Pace
import Lectern.Generation.Program
import Lectern.Store.Files
import Lectern.Store.Memory

namespace Lectern

/-- A store of some kind. -/
inductive AnyStore where
  | memory (store : Store.Memory)
  | files (tree : Store.FileTree)
  deriving Inhabited

/-- A reply of the script: how much time passes, and the source or the failure. -/
structure Reply where
  passes : Float := 0.0
  result : Except Failure String

/-- What programs are answered from. -/
structure Rehearsal where
  store : AnyStore
  now : Timestamp
  minted : Nat := 0
  clock : Float := 0.0
  /-- The waits that were asked for. -/
  sleeps : List Float := []
  script : List Reply := []
  /-- The prompts that were answered. -/
  prompts : List Prompt := []

namespace Rehearsal

/-- Answer from the store. -/
def askStore {β : Type} (rehearsal : Rehearsal) (operation : Store.Operation β) :
    Except Failure β × Rehearsal :=
  match rehearsal.store with
  | .memory store =>
    let (result, store) := store.perform rehearsal.now operation
    (result, { rehearsal with store := .memory store })
  | .files tree =>
    let (result, tree, minted) :=
      Store.Files.perform rehearsal.now rehearsal.minted tree operation
    (result, { rehearsal with store := .files tree, minted })

/-- Answer a prompt from the script. -/
def reply (rehearsal : Rehearsal) (prompt : Prompt) : Except Failure String × Rehearsal :=
  let rehearsal := { rehearsal with prompts := rehearsal.prompts ++ [prompt] }
  match rehearsal.script with
  | [] => (.error (.noGeneration "No scripted responses left"), rehearsal)
  | next :: rest =>
    (next.result, { rehearsal with script := rest, clock := rehearsal.clock + next.passes })

/-- Answer a request. -/
def answer {β : Type} (rehearsal : Rehearsal) : Request Float β → Except Failure β × Rehearsal
  | .store operation => rehearsal.askStore operation
  | .clock => (.ok rehearsal.clock, rehearsal)
  | .moment => (.ok rehearsal.now, rehearsal)
  | .sleep duration =>
    (.ok (), { rehearsal with
      sleeps := rehearsal.sleeps ++ [duration], clock := rehearsal.clock + duration })
  | .generate prompt _ => rehearsal.reply prompt
  | .freshId =>
    let minted := rehearsal.minted + 1
    (.ok (Identifier.plain minted), { rehearsal with minted })

/-- Run a program to its end. -/
def run {α : Type} (rehearsal : Rehearsal) : Program Float α → Except Failure α × Rehearsal
  | .done value => (.ok value, rehearsal)
  | .failed failure => (.error failure, rehearsal)
  | .ask request next =>
    let (result, rehearsal) := rehearsal.answer request
    rehearsal.run (next result)

/-! ## Several programs at once -/

/-- Run a program up to where it waits for a source. -/
def runToWait {α : Type} (rehearsal : Rehearsal) : Program Float α → Program Float α × Rehearsal
  | .ask (.generate prompt timeout) next => (.ask (.generate prompt timeout) next, rehearsal)
  | .ask request next =>
    let (result, rehearsal) := rehearsal.answer request
    rehearsal.runToWait (next result)
  | program => (program, rehearsal)

/-- Give a program that waits for a source its reply. -/
def serve {α : Type} (rehearsal : Rehearsal) : Program Float α → Program Float α × Rehearsal
  | .ask (.generate prompt timeout) next =>
    let (result, rehearsal) := rehearsal.answer (.generate prompt timeout)
    (next result, rehearsal)
  | program => (program, rehearsal)

/-- Let each program take a step, one after the other. -/
def each {α : Type} (step : Rehearsal → Program Float α → Program Float α × Rehearsal)
    (rehearsal : Rehearsal) : List (Program Float α) → List (Program Float α) × Rehearsal
  | [] => ([], rehearsal)
  | first :: rest =>
    let (first, rehearsal) := step rehearsal first
    let (rest, rehearsal) := each step rehearsal rest
    (first :: rest, rehearsal)

/-- The failure of the first program that has failed. -/
def firstFailure? {α : Type} (programs : List (Program Float α)) : Option Failure :=
  programs.findSome? fun program =>
    match program with
    | .failed failure => some failure
    | _ => none

/-- The results of programs that are done. -/
def results {α : Type} (programs : List (Program Float α)) : List α :=
  programs.filterMap fun program =>
    match program with
    | .done value => some value
    | _ => none

/-- Run programs side by side: each goes on until it waits for a source, then the replies come in
the same order. The first failure ends it all; what then waits for a source still gets it. -/
def runTogether {α : Type} (rehearsal : Rehearsal) (rounds : Nat)
    (programs : List (Program Float α)) : Except Failure (List α) × Rehearsal :=
  match rounds with
  | 0 => (.ok (results programs), rehearsal)
  | rounds + 1 =>
    let (programs, rehearsal) := each runToWait rehearsal programs
    let failure := firstFailure? programs
    let (programs, rehearsal) := each serve rehearsal programs
    match failure with
    | some failure => (.error failure, rehearsal)
    | none => rehearsal.runTogether rounds programs

end Rehearsal

end Lectern
