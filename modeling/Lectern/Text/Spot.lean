/-
Module: Lectern.Text.Spot
Purpose: Places in a text: what stands before one and what stands after it, the first place where
  something holds, and the line around a place.
Main exports: after?, afterWord?, Spot, Spot.first?, Spot.lineNumber, Spot.line
-/
import Lectern.Text.WordChar

namespace Lectern.Text

/-- The rest of a text behind some characters that it starts with. -/
def after? : List Char → List Char → Option (List Char)
  | [], text => some text
  | _ :: _, [] => none
  | expected :: more, c :: rest => if c == expected then after? more rest else none

/-- A place in a text. What stands before it is kept in reverse. -/
structure Spot where
  before : List Char
  after : List Char
  deriving DecidableEq, Repr, Inhabited

namespace Spot

/-- The place in front of a text. -/
def start (text : List Char) : Spot := ⟨[], text⟩

/-- No word reaches up to this place. -/
def opensWord (spot : Spot) : Bool :=
  match spot.before with
  | [] => true
  | c :: _ => !isWordChar c

/-- The first place from here on where something holds. The end of the text is a place, too. -/
def firstFrom (holds : Spot → Bool) (before : List Char) : List Char → Option Spot
  | [] => if holds ⟨before, []⟩ then some ⟨before, []⟩ else none
  | c :: rest =>
    if holds ⟨before, c :: rest⟩ then some ⟨before, c :: rest⟩
    else firstFrom holds (c :: before) rest

/-- The first place in a text where something holds. -/
def first? (holds : Spot → Bool) (text : List Char) : Option Spot := firstFrom holds [] text

/-- The number of the line a place lies on, counted from one. -/
def lineNumber (spot : Spot) : Nat := spot.before.count '\n' + 1

/-- The line a place lies on, without its end. -/
def line (spot : Spot) : List Char :=
  (spot.before.takeWhile (· != '\n')).reverse ++ spot.after.takeWhile (· != '\n')

/-- The rest behind a word that starts right here, with no word before it. -/
def afterWord? (word : String) (spot : Spot) : Option (List Char) :=
  if spot.opensWord then after? word.toList spot.after else none

end Spot

/-- Does no word go on at the front of a text? -/
def closesWord : List Char → Bool
  | [] => true
  | c :: _ => !isWordChar c

end Lectern.Text
