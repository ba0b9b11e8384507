/-
Module: Lectern.Safety.Issue
Purpose: The rules that a source must keep, and what is reported when it breaks one.
Main exports: Rule, Rule.name, Rule.ofName?, Issue, Issue.label, violationMessage
-/

namespace Lectern.Safety

/-- What a source must not do. -/
inductive Rule where
  | networkFetch
  | evalUse
  | dynamicFunction
  | rawTransport
  | urlImport
  | externalUrl
  | oversizedPayload
  deriving DecidableEq, Repr, Inhabited

namespace Rule

/-- All rules, in the order in which they are checked. -/
def all : List Rule :=
  [.networkFetch, .evalUse, .dynamicFunction, .rawTransport, .urlImport, .externalUrl,
    .oversizedPayload]

/-- The name of a rule. -/
def name : Rule → String
  | .networkFetch => "network-fetch"
  | .evalUse => "eval-use"
  | .dynamicFunction => "dynamic-function"
  | .rawTransport => "raw-transport"
  | .urlImport => "url-import"
  | .externalUrl => "external-url"
  | .oversizedPayload => "oversized-payload"

/-- The rule with a name. -/
def ofName? (text : String) : Option Rule := all.find? (·.name == text)

end Rule

/-- A finding that blocks a source. -/
structure Issue where
  rule : Rule
  message : String
  /-- The line of the source, counted from one. -/
  line : Option Int := none
  /-- What stands on that line. -/
  snippet : Option String := none
  deriving DecidableEq, Repr, Inhabited

/-- An issue on one line. -/
def Issue.label (issue : Issue) : String :=
  let place := match issue.line with
    | some line => "line " ++ toString line ++ ": "
    | none => ""
  "[" ++ issue.rule.name ++ "] " ++ place ++ issue.message

/-- What is said of a source with issues. -/
def violationMessage (issues : List Issue) : String :=
  "Safety check failed: " ++ ", ".intercalate (issues.map (·.rule.name))

end Lectern.Safety
