/-
Module: Lectern.Module.MarkupText
Purpose: The text between tags as the string it stands for: lines are trimmed except at the outer
  edges, lines left empty are dropped, and the others are joined by a blank.
Main exports: MarkupText.collapse, MarkupText.literal?
-/
import Lectern.Text.Blank
import Lectern.Text.Quoted
import Lectern.Text.References

namespace Lectern.Module.MarkupText

open Lectern.Text

/-- The lines of a text, where a carriage return and a line feed end one line together. The current
line is kept in reverse. -/
def linesFrom : List Char → List Char → List (List Char)
  | line, [] => [line.reverse]
  | line, '\r' :: '\n' :: rest => line.reverse :: linesFrom [] rest
  | line, c :: rest =>
    if c == '\n' || c == '\r' then line.reverse :: linesFrom [] rest
    else linesFrom (c :: line) rest

/-- Is there more on a line than blanks and tabs? -/
def isVisible (line : List Char) : Bool := line.any fun c => c != ' ' && c != '\t'

/-- The index of the last line with something to see. -/
def lastVisible (lines : List (List Char)) : Option Nat :=
  ((List.range lines.length).zip lines).foldl
    (fun last (index, line) => if isVisible line then some index else last) none

/-- A line with its tabs as blanks, trimmed where another line stands next to it. -/
def trimLine (count index : Nat) (line : List Char) : List Char :=
  let isSpace := fun c => c == ' '
  let line := line.map fun c => if c == '\t' then ' ' else c
  let line := if index != 0 then line.dropWhile isSpace else line
  if index + 1 != count then dropEndWhile isSpace line else line

/-- What a line adds to the text: nothing when it is empty, and a blank behind every line but the
last one with something to see. -/
def lineText (last : Option Nat) (index : Nat) (trimmed : List Char) : List Char :=
  if trimmed.isEmpty then []
  else if some index == last then trimmed
  else trimmed ++ [' ']

/-- The lines of a text as one. -/
def joinLines (lines : List (List Char)) : List Char :=
  let last := lastVisible lines
  ((List.range lines.length).zip lines).flatMap fun (index, line) =>
    lineText last index (trimLine lines.length index line)

/-- The string that text between tags stands for, once its references are replaced. -/
def collapse (text : List Char) : List Char := joinLines (linesFrom [] text)

/-- The literal for the text between tags, none when nothing remains. -/
def literal? (raw : List Char) : Except Number.Overlong (Option String) := do
  let text := collapse (← References.unescape raw)
  return if text.isEmpty then none else some (Quoted.ascii text)

end Lectern.Module.MarkupText
