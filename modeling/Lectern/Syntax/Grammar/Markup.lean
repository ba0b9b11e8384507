/-
Module: Lectern.Syntax.Grammar.Markup
Purpose: How elements are written inside expressions. The text between tags is raw: it is no node
  of the tree, only a gap between the nodes around it.
Main exports: elementRule
-/
import Lectern.Syntax.Grammar.Basic

namespace Lectern.Syntax.Grammar

open Reader

/-- A word of a tag or an attribute. -/
def tagWord (kind : Kind) : Reader Node := fun source cursor =>
  let stop := Lexeme.tagWordStop source cursor.next
  if stop == cursor.next then refuse source cursor else leafTo kind stop source cursor

/-- A word of a tag or an attribute, with its namespace where it has one. -/
def spacedName (kind : Kind) : Reader Node := do
  let first ← tagWord kind
  if ← sees ":" then
    let colon ← token ":"
    build .jsxNamespaceName
      [{ first with kind := .identifier }, colon, ← tagWord .identifier]
  else return first

/-- The name in a tag. -/
def tagName : Reader Node := do
  let first ← spacedName .identifier
  let rec members : Nat → Node → Reader Node
    | 0, left => pure left
    | fuel + 1, left => do
      if (← sees ".") && left.kind != .jsxNamespaceName then
        let dot ← token "."
        let name ← wordAs .propertyIdentifier
        members fuel (← build .memberExpression
          [left.as (.role "object"), dot, name.as (.role "property")])
      else return left
  members (← getSource).size first

/-- An expression in braces, a spread, or only comments. -/
def expressionContainer (sequence : Reader Node) (go : Rules) : Reader Node := do
  let opening ← token openBrace
  if ← sees closeBrace then build .jsxExpression [opening, ← token closeBrace]
  else
    let inner ← if ← sees "..." then
        let dots ← token "..."
        build .spreadElement [dots, ← go (.expression .inner assignmentLevel)]
      else sequence
    build .jsxExpression [opening, inner, ← token closeBrace]

/-- A quoted attribute value. -/
def attributeText : Reader Node := fun source cursor =>
  match Lexeme.attributeStop source cursor.next with
  | some stop => leafTo .stringLiteral stop source cursor
  | none => refuse source cursor

/-- One attribute of a tag. -/
def attribute' (sequence : Reader Node) (go : Rules) : Reader Node := do
  if ← sees openBrace then expressionContainer sequence go
  else
    let name ← spacedName .propertyIdentifier
    if ← sees "=" then
      let equals ← token "="
      let value ← if ← sees openBrace then expressionContainer sequence go
        else if ← sees "<" then go .element
        else attributeText
      build .jsxAttribute [name, equals, value]
    else build .jsxAttribute [name]

/-- What a tag holds before its closing bracket. -/
def tagFront (sequence : Reader Node) (go : Rules) : Reader (List Node) := do
  let opening ← token "<"
  if (← sees ">") || (← sees "/>") then return [opening]
  let name ← tagName
  let generics ← if ← sees "<" then
      pure [(← go .typeArguments).as (.role "type_arguments")]
    else pure []
  let attributes ← many do
    if (← sees ">") || (← sees "/>") then return none
    return some [(← attribute' sequence go).as (.role "attribute")]
  return opening :: name.as .name :: generics ++ attributes

/-- The children of an element, up to its closing tag. -/
def elementChildren (sequence : Reader Node) (go : Rules) : Reader (List Node) := many do
  moveRaw
  let source ← getSource
  let start := (← getCursor).next
  match Lexeme.markupTextStop source (source.size - start) start with
  | none => refuse
  | some stop =>
    moveOver stop
    if ← sees "</" then return none
    else if ← sees "<" then return some [← go .element]
    else return some [← expressionContainer sequence go]

/-- An element or a fragment. The name in the closing tag is not compared with the opening one. -/
def elementRule (sequence : Reader Node) (go : Rules) : Reader Node := do
  let front ← tagFront sequence go
  if ← sees "/>" then build .jsxSelfClosingElement (front ++ [← token "/>"])
  else
    let opening ← build .jsxOpeningElement (front ++ [← token ">"])
    let children ← elementChildren sequence go
    let slash ← token "</"
    let closing ← if ← sees ">" then build .jsxClosingElement [slash, ← token ">"]
      else
        let name ← tagName
        build .jsxClosingElement [slash, name.as .name, ← token ">"]
    buildRaw .jsxElement
      (opening.as (.role "open_tag") :: children ++ [closing.as (.role "close_tag")])

end Lectern.Syntax.Grammar
