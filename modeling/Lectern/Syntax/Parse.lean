/-
Module: Lectern.Syntax.Parse
Purpose: Reading a whole module: the rules of the grammar tied together, and the program they make.
Main exports: Grammar.rule, Grammar.read, parse
-/
import Lectern.Syntax.Grammar.Statements

namespace Lectern.Syntax

open Reader

namespace Grammar

/-- How to read each phrase, given how to read the phrases inside it. -/
def rule (go : Rules) : Rules
  | .statement => statementRule go
  | .block => blockRule go
  | .expression site level => expressionRule go site level
  | .type site level => typeRule go site level
  | .returnType site => returnTypeRule go site
  | .binding => bindingRule go
  | .place => placeRule go .inner
  | .target => targetRule go
  | .parameters => parametersRule go
  | .element => elementRule (sequence go .inner) go
  | .argumentList => argumentListRule go
  | .typeArguments => typeArgumentsRule go
  | .classBody => classBodyRule go
  | .objectType => objectTypeRule go

/-- Read a phrase whose nesting is no deeper than `depth`. -/
def read : Nat → Rules
  | 0, _ => refuse
  | depth + 1, goal => rule (read depth) goal

/-- The interpreter line a module may start with. -/
def interpreterLine : Reader (List Node) := do
  let source ← getSource
  let start := (← getCursor).next
  if start == 0 && (← sees "#!") then
    let stop := Lexeme.lineStop source source.size 2
    return [← leafTo .hashBangLine stop]
  else return []

/-- A whole module. -/
def program (go : Rules) : Reader (List Node) := do
  let first ← interpreterLine
  let body ← many do
    if ← atEnd then return none
    let statement ← go .statement
    forgetDead
    return some [statement]
  return first ++ body

end Grammar

/-- The root over the statements of a module and the comments around them. -/
def Node.program (source : ByteArray) (statements : List Node) : Node :=
  let inner := withComments source statements
  let outer := match inner.head?, inner.getLast? with
    | some first, some last =>
      commentNodes source 0 first.start ++ inner ++ commentNodes source last.stop source.size
    | _, _ => commentNodes source 0 source.size
  match outer with
  | [] => ⟨.program, true, source.size, source.size, none, false, []⟩
  | _ => Node.over .program outer outer

/--
Every phrase inside another spends at least one byte of the source or leads within a few steps to
one that does, so this bounds how deep phrases nest.
-/
def nestingBound (source : ByteArray) : Nat := 8 * source.size + 64

/-- The tree of a module, or the offset of a token that the grammar has no place for. -/
def parse (source : ByteArray) : Except Nat Node :=
  let start : Cursor := { last := 0, next := Lexeme.skipTrivia source 0 }
  let start := if Lexeme.startsWith source 0 ['#', '!'] then { start with next := 0 } else start
  match Grammar.program (Grammar.read (nestingBound source)) source start with
  | .found statements cursor =>
    if cursor.next ≥ source.size then .ok (Node.program source statements)
    else .error cursor.next
  | .refused cursor => .error (max cursor.furthest cursor.next)

end Lectern.Syntax
