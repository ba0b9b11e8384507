/-
Module: Lectern.Json.Printer
Purpose: Writing JSON values as text: on one line without blanks, or one member a line.
Main exports: Json.Style, Json.compact, Json.pretty
-/
import Lectern.Json.Basic
import Lectern.Number.Shortest
import Lectern.Text.Quoted

namespace Lectern.Json

open Lectern.Number

/-- How texts and numbers are written. -/
structure Style where
  quote : List Char → String
  layout : Layout

/-- Numbers in records: an exponent has no sign unless it is negative, and as few digits as it
needs. -/
def recordLayout : Layout := ⟨-4, 16, false, 1⟩

/-- Records keep all characters that need no escape. -/
def recordStyle : Style := ⟨Text.Quoted.plain, recordLayout⟩

/-- Messages are ASCII. -/
def messageStyle : Style := ⟨Text.Quoted.ascii, recordLayout⟩

/-- A constant, number or text. A text that has no encoding is never written; null stands for it. -/
def scalar (style : Style) : Json → String
  | .bool true => "true"
  | .bool false => "false"
  | .int value => toString value
  | .float value => render style.layout value
  | .str value => style.quote value.toList
  | _ => "null"

mutual

/-- A value on one line, without blanks. -/
def compact (style : Style) : Json → String
  | .arr [] => "[]"
  | .arr (first :: rest) => "[" ++ compact style first ++ compactItems style rest ++ "]"
  | .obj [] => "\x7b\x7d"
  | .obj ((key, first) :: rest) =>
    "\x7b" ++ style.quote key.toList ++ ":" ++ compact style first ++ compactMembers style rest ++
      "\x7d"
  | .null => "null"
  | .bool value => scalar style (.bool value)
  | .int value => scalar style (.int value)
  | .float value => scalar style (.float value)
  | .str value => scalar style (.str value)
  | .unpaired codes => scalar style (.unpaired codes)
  | .unpairedKeys members apart => scalar style (.unpairedKeys members apart)

/-- The further items of an array. -/
def compactItems (style : Style) : List Json → String
  | [] => ""
  | first :: rest => "," ++ compact style first ++ compactItems style rest

/-- The further members of an object. -/
def compactMembers (style : Style) : List (String × Json) → String
  | [] => ""
  | (key, first) :: rest =>
    "," ++ style.quote key.toList ++ ":" ++ compact style first ++ compactMembers style rest

end

/-- The start of a line at a depth: two blanks for each level. -/
def lineStart (depth : Nat) : String := "\n" ++ String.ofList (List.replicate (2 * depth) ' ')

mutual

/-- A value with each item and member on a line of its own, at some depth. -/
def prettyAt (style : Style) (depth : Nat) : Json → String
  | .arr [] => "[]"
  | .arr (first :: rest) =>
    "[" ++ lineStart (depth + 1) ++ prettyAt style (depth + 1) first ++
      prettyItems style (depth + 1) rest ++ lineStart depth ++ "]"
  | .obj [] => "\x7b\x7d"
  | .obj ((key, first) :: rest) =>
    "\x7b" ++ lineStart (depth + 1) ++ style.quote key.toList ++ ": " ++
      prettyAt style (depth + 1) first ++ prettyMembers style (depth + 1) rest ++
      lineStart depth ++ "\x7d"
  | .null => "null"
  | .bool value => scalar style (.bool value)
  | .int value => scalar style (.int value)
  | .float value => scalar style (.float value)
  | .str value => scalar style (.str value)
  | .unpaired codes => scalar style (.unpaired codes)
  | .unpairedKeys members apart => scalar style (.unpairedKeys members apart)

/-- The further items of an array. -/
def prettyItems (style : Style) (depth : Nat) : List Json → String
  | [] => ""
  | first :: rest =>
    "," ++ lineStart depth ++ prettyAt style depth first ++ prettyItems style depth rest

/-- The further members of an object. -/
def prettyMembers (style : Style) (depth : Nat) : List (String × Json) → String
  | [] => ""
  | (key, first) :: rest =>
    "," ++ lineStart depth ++ style.quote key.toList ++ ": " ++ prettyAt style depth first ++
      prettyMembers style depth rest

end

/-- A value with each item and member on a line of its own. -/
def pretty (style : Style) (value : Json) : String := prettyAt style 0 value

end Lectern.Json
