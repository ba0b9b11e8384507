/-
Module: Lectern.Syntax.Grammar.Basic
Purpose: What the rules of the grammar share: the phrases they may ask for, where a phrase stands,
  and lists with separators.
Main exports: Site, Goal, Rules, separated, sparse, propertyName, template
-/
import Lectern.Syntax.Reader

namespace Lectern.Syntax.Grammar

open Reader

/-- The token that opens a block. -/
def openBrace : String := "\x7b"

/-- The token that closes a block. -/
def closeBrace : String := "\x7d"

/-- Where an expression or a type stands. -/
structure Site where
  /-- A statement may end right after it, so a line break can end it. -/
  endable : Bool := false
  /-- It stands before the colon of a conditional, so an arrow function here has no return type. -/
  plainHeads : Bool := false
  deriving DecidableEq, Repr, Inhabited

/-- The same place inside brackets, where no statement can end. -/
def Site.inner : Site := {}

/-- The phrases that contain one another. A level says how tightly an operator must bind. -/
inductive Goal where
  | statement
  | block
  | expression (site : Site) (level : Nat)
  | type (site : Site) (level : Nat)
  | returnType (site : Site)
  | binding
  | place
  | target
  | parameters
  | element
  | argumentList
  | typeArguments
  | classBody
  | objectType
  deriving Repr

/-- How to read each phrase. -/
abbrev Rules := Goal → Reader Node

/-- The loosest level of an expression: an assignment, a conditional or an arrow function. -/
def assignmentLevel : Nat := 0

/-- The level of an operand of a prefix operator. -/
def operandLevel : Nat := 15

/-- Items with commas between and a comma allowed after the last, up to a closing token. -/
def separated (item : Reader (List Node)) (close : String) : Reader (List Node) := do
  if ← sees close then return []
  let first ← item
  let rest ← many do
    if ← sees "," then
      let comma ← token ","
      if ← sees close then return some [comma]
      return some (comma :: (← item))
    else return none
  return first ++ rest

/-- Items any of which may be left out, with commas between, up to a closing token. -/
def sparse (item : Reader (List Node)) (close : String) : Reader (List Node) :=
  many do
    if ← sees close then return none
    if ← sees "," then return some [← token ","]
    let nodes ← item
    if ← sees close then return some nodes
    return some (nodes ++ [← token ","])

/-- Words that start an expression of their own, so they bind nothing where an expression could
stand as well. -/
def expressionWords : List String :=
  ["function", "class", "new", "typeof", "void", "delete", "await", "yield", "this", "super",
    "true", "false", "null", "undefined", "import"]

/-- An initial value. -/
def initializer (go : Rules) (site : Site) : Reader (List Node) := do
  if (← sees "=") && !(← sees "==") && !(← sees "=>") then
    let equals ← token "="
    let value ← go (.expression site assignmentLevel)
    return [equals, value.as .value]
  else return []

/-- Does the next word stand for a property, that is, does a name follow it? -/
def nameFollows : Reader Bool := afterWord do
  if ← endsHere then return false
  let byte ← peek
  return (← seesAnyWord) || Lexeme.isDigit byte || byte == 0x22 || byte == 0x27 || byte == 0x5B ||
    byte == 0x23 || byte == 0x2A

/-- The word after a number sign. -/
def privateName : Reader Node := fun source cursor =>
  let stop := Lexeme.wordStop source (cursor.next + 1)
  if Lexeme.at? source cursor.next '#' && stop > cursor.next + 1 then
    leafTo .privatePropertyIdentifier stop source cursor
  else refuse source cursor

/-- A number. -/
def numberLeaf : Reader Node := fun source cursor =>
  match Lexeme.numberStop source cursor.next with
  | some stop => leafTo .numberLiteral stop source cursor
  | none => refuse source cursor

/-- The name of a property or a member. -/
def propertyName (go : Rules) : Reader Node := do
  let byte ← peek
  if byte == 0x22 || byte == 0x27 then stringLeaf
  else if byte == 0x23 then privateName
  else if byte == 0x5B then
    let opening ← token "["
    let inner ← go (.expression .inner assignmentLevel)
    build .computedPropertyName [opening, inner, ← token "]"]
  else if Lexeme.isDigit byte || byte == 0x2E then numberLeaf
  else wordAs .propertyIdentifier

/-- A template: literal text between back quotes, broken by substitutions of a category. -/
def template (kind hole : Kind) (inner : Reader Node) : Reader Node := do
  let opening ← token "\x60"
  moveRaw
  let pieces ← many do
    let source ← getSource
    let start := (← getCursor).next
    match Lexeme.templateTextStop source (source.size + 1 - start) start with
    | none => refuse
    | some stop =>
      let text := if stop > start then [Node.leaf .stringFragment start stop] else []
      moveOver stop
      if ← sees "$\x7b" then
        let opening ← token "$\x7b"
        let value ← inner
        let node ← build hole [opening, value, ← token "\x7d"]
        moveRaw
        return some (text ++ [node])
      else if text.isEmpty then return none
      else return some text
  buildRaw kind (opening :: pieces ++ [← token "\x60"])

/-- A type after a colon. -/
def typeMark (go : Rules) (site : Site) : Reader Node := do
  let colon ← token ":"
  build .typeMark [colon, ← go (.type site 0)]

/-- A type after a colon, where there is one. -/
def optionalTypeMark (go : Rules) (site : Site) : Reader (List Node) := do
  if ← sees ":" then return [(← typeMark go site).as (.role "type")] else return []

end Lectern.Syntax.Grammar
