/-
Module: Lectern.Repair.Propose
Purpose: Repairing a source that does not compile: each rule whose trigger a diagnostic meets is
  applied in turn, and a source that no rule changes is not repaired.
Main exports: Rule, Patch, propose, repair
-/
import Lectern.Repair.Fix

namespace Lectern.Repair

/-- A mechanical fix. -/
inductive Rule where
  | stripFence
  | bindHostMembers
  | addDefaultExport
  deriving DecidableEq, Repr, Inhabited

namespace Rule

/-- All rules, in the order in which they are applied. -/
def all : List Rule := [.stripFence, .bindHostMembers, .addDefaultExport]

/-- The name of a rule. -/
def name : Rule → String
  | .stripFence => "strip-markdown-fence"
  | .bindHostMembers => "host-global-binding"
  | .addDefaultExport => "missing-default-export"

/-- Does one of the diagnostics ask for a rule? -/
def isTriggered (errors : List String) : Rule → Bool
  -- A source that is fenced as a whole reads as template literals, and then nothing but the missing
  -- default export shows.
  | .stripFence => errors.any fun message => reportsToken message || lacksDefaultExport message
  | .bindHostMembers => errors.any fun message => (unboundName? message).isSome
  | .addDefaultExport => errors.any lacksDefaultExport

/-- What a rule makes of a source. -/
def fix (errors : List String) : Rule → String → String
  | .stripFence => unfence
  | .bindHostMembers => bindMembers (errors.filterMap unboundName?)
  | .addDefaultExport => exportLastComponent

end Rule

/-- A source that replaces another, and the rules that changed something. -/
structure Patch where
  source : String
  rules : List Rule
  deriving DecidableEq, Repr, Inhabited

/-- Apply a rule to a patch; a rule that changes nothing is not recorded. -/
def Patch.apply (errors : List String) (patch : Patch) (rule : Rule) : Patch :=
  if rule.isTriggered errors then
    let updated := rule.fix errors patch.source
    if updated == patch.source then patch else ⟨updated, patch.rules ++ [rule]⟩
  else patch

/-- The repair of a source, where some rule changes it. -/
def propose (source : String) (errors : List String) : Option Patch :=
  let patch := Rule.all.foldl (Patch.apply errors) ⟨source, []⟩
  if patch.rules.isEmpty then none else some patch

/-- The repaired source, or the source itself where no rule changes it. -/
def repair (source : String) (errors : List String) : String :=
  match propose source errors with
  | some patch => patch.source
  | none => source

end Lectern.Repair
