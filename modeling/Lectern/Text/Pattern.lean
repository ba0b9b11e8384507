/-
Module: Lectern.Text.Pattern
Purpose: Patterns, which take some characters from a place in a text on, and the first thing that a
  pattern finds in a text when some finds are let pass. A pattern takes as much as it can and gives
  nothing back, so a part that repeats stands in front of characters that it does not take.
Main exports: Pattern, Pattern.edge, Pattern.literal, Pattern.blanks, Pattern.oneOf, Pattern.many,
  Pattern.anyOf, Spot.scan
-/
import Lectern.Text.Blank
import Lectern.Text.Spot

namespace Lectern.Text

/-- The place behind some characters that stand here. -/
def Spot.past (spot : Spot) (taken : List Char) : Spot :=
  ⟨taken.reverse ++ spot.before, spot.after.drop taken.length⟩

/-- What is looked for in a text: the characters that it takes from a place on, if it is there. -/
structure Pattern where
  take : Spot → Option (List Char)

namespace Pattern

/-- The edge of a word: a character of a word on one side alone. -/
def edge : Pattern where
  take spot := if spot.opensWord != closesWord spot.after then some [] else none

/-- Just these characters. -/
def literal (characters : String) : Pattern where
  take spot := (after? characters.toList spot.after).map fun _ => characters.toList

/-- As much white space as there is. -/
def blanks : Pattern where
  take spot := some (spot.after.takeWhile isBlank)

/-- One of some characters. -/
def oneOf (characters : List Char) : Pattern where
  take spot :=
    match spot.after with
    | [] => none
    | c :: _ => if characters.contains c then some [c] else none

/-- As many characters of a kind as there are, and at least one. -/
def many (kind : Char → Bool) : Pattern where
  take spot :=
    match spot.after.takeWhile kind with
    | [] => none
    | taken => some taken

/-- One pattern and another one behind it. -/
def andThen (first second : Pattern) : Pattern where
  take spot := do
    let front ← first.take spot
    let more ← second.take (spot.past front)
    return front ++ more

instance : Append Pattern := ⟨andThen⟩

/-- The first of some patterns that is there. -/
def anyOf (patterns : List Pattern) : Pattern where
  take spot := patterns.findSome? fun pattern => pattern.take spot

/-- What is never there. -/
def nothing : Pattern where
  take _ := none

end Pattern

namespace Spot

/-- The first place from here on where a pattern finds what is not let pass. The search goes on behind
what was let pass; `ahead` characters of that are still to come. Every find takes a character. -/
def scanFrom (pattern : Pattern) (passes : List Char → Bool) (ahead : Nat) (before : List Char) :
    List Char → Option Spot
  | [] => none
  | c :: rest =>
    match ahead with
    | ahead + 1 => scanFrom pattern passes ahead (c :: before) rest
    | 0 =>
      match pattern.take ⟨before, c :: rest⟩ with
      | none => scanFrom pattern passes 0 (c :: before) rest
      | some taken =>
        if passes taken then scanFrom pattern passes (taken.length - 1) (c :: before) rest
        else some ⟨before, c :: rest⟩

/-- The first place in a text where a pattern finds what is not let pass. -/
def scan (pattern : Pattern) (passes : List Char → Bool) (text : List Char) : Option Spot :=
  scanFrom pattern passes 0 [] text

end Spot

end Lectern.Text
