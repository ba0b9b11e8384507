/-
Module: Lectern.Generation.Evaluation
Purpose: Whether a generated source becomes a lesson: it is checked, compiled and, where it does not
  parse or resolve, repaired once; what is compiled is checked as well. Where the compiler breaks off,
  there is no attempt.
Main exports: evaluate
-/
import Lectern.Lesson.Attempt
import Lectern.Lesson.Failure
import Lectern.Repair.Propose
import Lectern.Safety.Check

namespace Lectern.Evaluation

/-- A failed attempt. -/
def failed (number : Nat) (source : Option String) (stage : Stage) (errors : List String)
    (issues : List Safety.Issue) (rules : List String) : Attempt where
  number
  rawSource := source
  errors
  issues
  outcome := .failed
  repairRules := rules
  failureStage := some stage

/-- An attempt that fails the safety check. -/
def flagged (number : Nat) (source : String) (issues : List Safety.Issue)
    (rules : List String) : Attempt :=
  failed number (some source) .safety (issues.map Safety.Issue.label) issues rules

/-- An attempt whose source does not compile. Nobody expects the compiler to break off. -/
def uncompiled (number : Nat) (source : String) (fault : Module.CompileFault)
    (rules : List String) : Except Failure Attempt :=
  if fault.breaksOff then .error (.ofFault fault)
  else .ok (failed number (some source) (.ofFault fault) fault.messages [] rules)

/-- An attempt whose source compiles; it succeeds if the module passes the safety check, too. -/
def accept (now : Timestamp) (number : Nat) (source : String) (artifact : Module.Artifact)
    (rules : List String) : Attempt :=
  match Safety.check artifact.moduleText with
  | [] =>
    { number, rawSource := some source, artifact := some ⟨artifact, now⟩, outcome := .succeeded,
      repairRules := rules }
  | issues => flagged number source issues rules

/-- Compile a source that passes the safety check; `rules` made it. -/
def compileChecked (now : Timestamp) (number : Nat) (source : String) (rules : List String) :
    Except Failure Attempt :=
  match Module.compile source with
  | .ok artifact => .ok (accept now number source artifact rules)
  | .error fault => uncompiled number source fault rules

/-- An attempt whose source does not parse or resolve: once it is repaired, it starts afresh. -/
def repaired (now : Timestamp) (number : Nat) (source : String) (fault : Module.CompileFault) :
    Except Failure Attempt :=
  match Repair.propose source fault.messages with
  | none => uncompiled number source fault []
  | some patch =>
    let rules := patch.rules.map Repair.Rule.name
    match Safety.check patch.source with
    | [] => compileChecked now number patch.source rules
    | issues => .ok (flagged number patch.source issues rules)

/-- The attempt that a generated source makes. -/
def evaluate (now : Timestamp) (number : Nat) (source : String) : Except Failure Attempt :=
  match Safety.check source with
  | [] =>
    match Module.compile source with
    | .ok artifact => .ok (accept now number source artifact [])
    | .error (.rejected diagnostics) => repaired now number source (.rejected diagnostics)
    | .error (.unlowerable fault) => uncompiled number source (.unlowerable fault) []
  | issues => .ok (flagged number source issues [])

end Lectern.Evaluation
