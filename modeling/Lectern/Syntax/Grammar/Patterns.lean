/-
Module: Lectern.Syntax.Grammar.Patterns
Purpose: How bindings are written: the names and patterns of declarations, parameters and
  destructuring assignments.
Main exports: bindingRule, targetRule, parametersRule
-/
import Lectern.Syntax.Grammar.Basic

namespace Lectern.Syntax.Grammar

open Reader

/-- What a value can be assigned to without taking it apart. -/
def isPlace (kind : Kind) : Bool :=
  [Kind.identifier, .memberExpression, .subscriptExpression, .nonNullExpression].contains kind

/-- A name that a binding introduces. -/
def boundName : Reader Node := do
  if expressionWords.contains (← word) then refuse
  wordAs .identifier

/--
What a destructuring pattern may hold at one place: a pattern or a place to assign to. A pattern
with no equals sign behind it starts no assignment either.
-/
def targetRule (go : Rules) : Reader Node := do
  if (← sees openBrace) || (← sees "[") then
    let start := (← getCursor).next
    let pattern ← orMarkDead (go .binding)
    if !(← sees "=") then markDead start
    return pattern
  else
    let place ← go .place
    if isPlace place.kind then return place else refuse

/-- A pattern that takes the remaining values. -/
def restPattern (go : Rules) : Reader Node := do
  let dots ← token "..."
  build .restPattern [dots, ← go .target]

/-- A pattern with the value to use where there is none. -/
def withDefault (go : Rules) (kind : Kind) (left : Node) : Reader Node := do
  match ← initializer go .inner with
  | [equals, value] => build kind [left.as .left, equals, value.as .right]
  | _ => return left

/-- One property of an object pattern. -/
def patternProperty (go : Rules) : Reader Node := do
  if ← sees "..." then restPattern go
  else
    let name ← propertyName go
    if ← sees ":" then
      let colon ← token ":"
      let value ← withDefault go .assignmentPattern (← go .target)
      build .pairPattern [name.as .key, colon, value.as .value]
    else if name.kind = .propertyIdentifier then
      withDefault go .objectAssignmentPattern
        { name with kind := .shorthandPropertyIdentifierPattern }
    else refuse

/-- A pattern for an object. -/
def objectPattern (go : Rules) : Reader Node := do
  let opening ← token openBrace
  let items ← sparse (do return [← patternProperty go]) closeBrace
  build .objectPattern (opening :: items ++ [← token closeBrace])

/-- A pattern for an array. -/
def arrayPattern (go : Rules) : Reader Node := do
  let opening ← token "["
  let items ← sparse (do
    if ← sees "..." then return [← restPattern go]
    else return [← withDefault go .assignmentPattern (← go .target)]) "]"
  build .arrayPattern (opening :: items ++ [← token "]"])

/-- A name or a pattern that a declaration introduces. -/
def bindingRule (go : Rules) : Reader Node := do
  if ← sees openBrace then objectPattern go
  else if ← sees "[" then arrayPattern go
  else boundName

/-! ## Parameters -/

/-- A decorator in front of a class, a member or a parameter. -/
def decorator (go : Rules) : Reader Node := do
  let at' ← token "@"
  let target ← if ← sees "(" then go (.expression .inner operandLevel)
    else
      let rec members : Nat → Node → Reader Node
        | 0, left => pure left
        | fuel + 1, left => do
          if ← sees "." then
            let dot ← token "."
            let name ← wordAs .propertyIdentifier
            members fuel (← build .memberExpression
              [left.as (.role "object"), dot, name.as (.role "property")])
          else return left
      let name ← members (← getSource).size (← wordAs .identifier)
      if ← sees "(" then
        let arguments ← go .argumentList
        build .callExpression [name.as (.role "function"), arguments.as (.role "arguments")]
      else pure name
  build .decorator [at', target]

/-- Any number of decorators. -/
def decorators (go : Rules) : Reader (List Node) := many do
  if ← sees "@" then return some [(← decorator go).as (.role "decorator")] else return none

/-- Does a pattern follow the next word? -/
def patternFollows : Reader Bool := afterWord do
  return (← seesAnyWord) || (← sees openBrace) || (← sees "[") || (← sees "...")

/-- One parameter of a function. -/
def parameter (go : Rules) : Reader Node := do
  let marks ← decorators go
  let modifiers ← many do
    let text ← word
    if ["public", "private", "protected", "override", "readonly"].contains text &&
        (← patternFollows) then
      if text == "override" then return some [← wordAs .overrideModifier]
      else if text == "readonly" then return some [← token text]
      else return some [← wordAs .accessibilityModifier]
    else return none
  let pattern ← if ← sees "..." then
      let dots ← token "..."
      build .restPattern [dots, ← go .binding]
    else if ← seesWord "this" then wordAs .thisKeyword
    else go .binding
  let mark ← if ← sees "?" then pure [← token "?"] else pure []
  let annotation ← optionalTypeMark go .inner
  let value ← initializer go .inner
  build (if mark.isEmpty then .requiredParameter else .optionalParameter)
    (marks ++ modifiers ++ pattern.as .pattern :: mark ++ annotation ++ value)

/-- The parameters of a function. -/
def parametersRule (go : Rules) : Reader Node := do
  let opening ← token "("
  let items ← separated (do return [← parameter go]) ")"
  build .formalParameters (opening :: items ++ [← token ")"])

end Lectern.Syntax.Grammar
