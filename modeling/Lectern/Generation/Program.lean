/-
Module: Lectern.Generation.Program
Purpose: What is done for a lesson, as requests to the world around it: each request is answered or
  fails, and the program goes on from there. Who answers decides in which order programs take turns.
Main exports: Request, Program, Program.bind, Program.call, Program.attempt
-/
import Lectern.Generation.Prompt
import Lectern.Store.Operation

namespace Lectern

/-- What a program asks for, by what is answered. Durations are counted in `τ`. -/
inductive Request (τ : Type) : Type → Type 1 where
  | store {β : Type} (operation : Store.Operation β) : Request τ β
  /-- A reading of a clock that never goes back. -/
  | clock : Request τ τ
  /-- The present moment. -/
  | moment : Request τ Timestamp
  | sleep (duration : τ) : Request τ Unit
  /-- A source for a prompt, waited for no longer than a while. -/
  | generate (prompt : Prompt) (timeout : τ) : Request τ String
  /-- An identifier that no lesson has. -/
  | freshId : Request τ String

/-- A program: it is done, it has failed, or it asks and goes on with the answer. -/
inductive Program (τ α : Type) : Type 1 where
  | done (value : α)
  | failed (failure : Failure)
  | ask {β : Type} (request : Request τ β) (next : Except Failure β → Program τ α)

namespace Program

variable {τ α β : Type}

/-- One program after another; nothing follows a failure. -/
def bind (program : Program τ α) (next : α → Program τ β) : Program τ β :=
  match program with
  | .done value => next value
  | .failed failure => .failed failure
  | .ask request go => .ask request fun answer => (go answer).bind next

instance : Monad (Program τ) where
  pure := .done
  bind := bind

/-- The result of a program, whether it fails or not. -/
def attempt : Program τ α → Program τ (Except Failure α)
  | .done value => .done (.ok value)
  | .failed failure => .done (.error failure)
  | .ask request go => .ask request fun answer => (go answer).attempt

/-- Ask, and fail if that fails. -/
def call (request : Request τ β) : Program τ β :=
  .ask request fun answer =>
    match answer with
    | .ok value => .done value
    | .error failure => .failed failure

/-- Ask the store. -/
def store (operation : Store.Operation β) : Program τ β := call (.store operation)

/-- Go on with a result. -/
def ofExcept : Except Failure α → Program τ α
  | .ok value => .done value
  | .error failure => .failed failure

end Program

end Lectern
