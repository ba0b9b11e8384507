/-
Module: Lectern.Lesson.Topic
Purpose: What a topic says about its lesson: a title, and an audience where none is given.
Main exports: title, inferPedagogy
-/
import Lectern.Lesson.Pedagogy
import Lectern.Text.Spot

namespace Lectern.Topic

open Lectern.Text

/-! ## Titles -/

/-- The title of a lesson without one. -/
def untitled : String := "Untitled Lesson"

/-- The longest title. -/
def maxTitleLength : Nat := 100

/-- The title a topic gives: its first line, if that is neither empty nor too long. -/
def title (topic : String) : String :=
  let line := trim (firstLine (trim topic.toList))
  if 1 ≤ line.length && line.length ≤ maxTitleLength then String.ofList line else untitled

/-! ## Audiences -/

/-- Words of topics for advanced readers. -/
def advancedWords : List String :=
  ["javascript", "typescript", "react", "programming", "code", "algorithm", "advanced", "college",
    "university", "professional", "software engineering"]

/-- Words of topics for intermediate readers. -/
def intermediateWords : List String :=
  ["algebra", "equation", "geometry", "chemistry", "physics", "biology", "intermediate",
    "high school", "middle school"]

/-- Does a topic hold some words, not as part of longer ones? -/
def mentions (topic : List Char) (words : String) : Bool :=
  (Spot.first? (fun spot =>
    match spot.afterWord? words with
    | some rest => closesWord rest
    | none => false) topic).isSome

/-- A letter in lower case, where that can matter: of the letters beyond ASCII, only two have a
lower case in ASCII, one of them with a dot behind it. -/
def lowerLetter (c : Char) : List Char :=
  if c == '\u0130' then ['i', '\u0307'] else if c == '\u212a' then ['k'] else [c.toLower]

/-- A topic in lower case. -/
def lowered (topic : String) : List Char := topic.toList.flatMap lowerLetter

/-- The audience that a topic suggests. Words for advanced readers count first. -/
def inferPedagogy (topic : String) : Pedagogy :=
  let text := lowered topic
  if advancedWords.any (mentions text) then
    { gradeBand := .ninthToTwelfth, readingLevel := .advanced, cognitiveLoad := .high }
  else if intermediateWords.any (mentions text) then
    { gradeBand := .sixthToEighth, readingLevel := .intermediate, cognitiveLoad := .medium }
  else {}

end Lectern.Topic
