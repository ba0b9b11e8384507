/-
Module: Lectern.Console.Compilation
Purpose: Compiling a source file at the command line: the source is checked and compiled, and it is
  repaired once where that is asked for. There is a module, or it is said why there is none, unless
  the compiler breaks off.
Main exports: Console.Compilation, Console.compileSource
-/
import Lectern.Console.Display
import Lectern.Lesson.Failure
import Lectern.Repair.Propose
import Lectern.Safety.Check

namespace Lectern.Console

/-- What is printed while compiling, and the module, if there is one. -/
structure Compilation where
  printed : List Block := []
  artifact : Option Module.Artifact := none
  /-- What the compiler broke off with, if it did. -/
  crash : Option Failure := none
  deriving DecidableEq, Repr, Inhabited

namespace Compilation

/-- Something that is printed first. -/
def after (block : Block) (compilation : Compilation) : Compilation :=
  { compilation with printed := block :: compilation.printed }

end Compilation

/-- No module, for a reason with details. -/
def refused (reason : String) (details : List String) : Compilation where
  printed := failure reason :: details.map bullet

/-- No module: the source does not compile. -/
def uncompiled (fault : Module.CompileFault) : Compilation :=
  let stage := match fault with
    | .rejected _ => "syntax"
    | .unlowerable _ => "transform"
  if fault.breaksOff then { crash := some (.ofFault fault) }
  else refused ("Compilation failed (" ++ stage ++ ")") fault.messages

/-- Compile a source that passes the check. `mend` says what is done where it does not parse or
resolve. -/
def compileChecked (source : String) (mend : Module.CompileFault → Compilation) : Compilation :=
  match Safety.check source with
  | [] =>
    match Module.compile source with
    | .ok artifact => { artifact := some artifact }
    | .error (.rejected diagnostics) => mend (.rejected diagnostics)
    | .error fault => uncompiled fault
  | issues => { printed := [issueTable issues] }

/-- Repair a source and compile it once more. -/
def compileRepaired (source : String) (fault : Module.CompileFault) : Compilation :=
  match Repair.propose source fault.messages with
  | none => refused (Failure.unrepaired fault.messages).message fault.messages
  | some patch =>
    (compileChecked patch.source uncompiled).after
      (info ("Applied repairs: " ++ ", ".intercalate (patch.rules.map Repair.Rule.name)))

/-- Compile a source, and repair it if need be and if that is asked for. -/
def compileSource (source : String) (repairs : Bool) : Compilation :=
  compileChecked source (if repairs then compileRepaired source else uncompiled)

end Lectern.Console
