/-
Module: Lectern.Syntax.Grammar.Classes
Purpose: How the members of a class are written.
Main exports: classBodyRule
-/
import Lectern.Syntax.Grammar.Expressions

namespace Lectern.Syntax.Grammar

open Reader

/-- The words that can stand before the name of a member. -/
def memberModifiers : List String :=
  ["declare", "public", "private", "protected", "static", "override", "readonly", "abstract",
    "async", "accessor", "get", "set"]

/-- A modifier as a node. -/
def modifier (text : String) : Reader Node :=
  if ["public", "private", "protected"].contains text then wordAs .accessibilityModifier
  else if text == "override" then wordAs .overrideModifier
  else token text

/-- The mark between a member and the next. -/
def memberEnd (afterType : Bool) : Reader (List Node) := do
  if ← sees "," then return [← token ","] else semicolon afterType

/-- A member with parentheses: a method with a body, or a signature without one. -/
def methodMember (go : Rules) (marks front : List Node) (abstract' : Bool) :
    Reader (List Node) := do
  let signature ← callSignature go { endable := true }
  if ← sees openBrace then
    let body ← go .block
    let method ← build .methodDefinition (front ++ signature ++ [body.as .body])
    let after ← if ← sees ";" then pure [← token ";"] else pure []
    return marks ++ method :: after
  else
    let kind := if abstract' then Kind.abstractMethodSignature else .methodSignature
    let method ← build kind (front ++ signature)
    return marks ++ method :: (← memberEnd true)

/-- A member without parentheses. -/
def fieldMember (go : Rules) (front : List Node) : Reader (List Node) := do
  let site : Site := { endable := true }
  let annotation ← optionalTypeMark go site
  let value ← initializer go site
  let field ← build .publicFieldDefinition (front ++ annotation ++ value)
  return field :: (← memberEnd value.isEmpty)

/-- One member of a class with the mark behind it. -/
def classMember (go : Rules) : Reader (List Node) := do
  if ← sees ";" then return [← token ";"]
  let marks ← decorators go
  if (← seesWord "static") && (← afterWord (sees openBrace)) then
    let static ← token "static"
    let body ← go .block
    return marks ++ [← build .classStaticBlock [static, body.as .body]]
  let modifiers ← many do
    let text ← word
    if memberModifiers.contains text && (← nameFollows) then return some [← modifier text]
    else return none
  if ← seesIndexSignature then
    let signature ← indexSignature go { endable := true } modifiers
    return marks ++ signature :: (← memberEnd true)
  let star ← if ← sees "*" then pure [← token "*"] else pure []
  let name ← propertyName go
  let mark ← if ← sees "?" then pure [← token "?"]
    else if (← sees "!") && !(← sees "!=") then pure [← token "!"] else pure []
  let front := modifiers ++ star ++ name.as .name :: mark
  if (← sees "(") || (← sees "<") then
    methodMember go marks front (modifiers.any fun node => node.kind = .lexeme "abstract")
  else fieldMember go (marks ++ front)

/-- The body of a class. -/
def classBodyRule (go : Rules) : Reader Node := do
  let opening ← token openBrace
  let members ← many do
    if ← sees closeBrace then return none else return some (← classMember go)
  build .classBody (opening :: members ++ [← token closeBrace])

end Lectern.Syntax.Grammar
