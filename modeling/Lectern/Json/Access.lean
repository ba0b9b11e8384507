/-
Module: Lectern.Json.Access
Purpose: Looking into JSON values of a known shape. What does not have the shape counts as empty.
Main exports: Json.field, Json.text, Json.items, Json.natural, Json.entries
-/
import Lectern.Json.Basic

namespace Lectern.Json

/-- The member with a key, or null. -/
def field (key : String) (data : Json) : Json := (data.member? key).getD .null

/-- The text a value is. -/
def text : Json → String
  | .str text => text
  | _ => ""

/-- The text a value is, if it is one. -/
def text? : Json → Option String
  | .str text => some text
  | _ => none

/-- The items of an array. -/
def items : Json → List Json
  | .arr items => items
  | _ => []

/-- The whole number a value is. -/
def whole : Json → Int
  | .int value => value
  | _ => 0

/-- The natural number a value is. -/
def natural (data : Json) : Nat := data.whole.toNat

/-- The number a value is. -/
def number : Json → Float
  | .float value => value
  | .int value => Float.ofInt value
  | _ => 0.0

/-- The members of an object. -/
def entries : Json → List (String × Json)
  | .obj entries => entries
  | _ => []

/-- The texts of an array. -/
def texts (data : Json) : List String := data.items.map text

/-- The text of the member with a key. -/
def textOf (key : String) (data : Json) : String := (data.field key).text

/-- The text of the member with a key, where it is one. -/
def textOf? (key : String) (data : Json) : Option String := (data.field key).text?

/-- The natural number of the member with a key. -/
def naturalOf (key : String) (data : Json) : Nat := (data.field key).natural

/-- The texts of the member with a key. -/
def textsOf (key : String) (data : Json) : List String := (data.field key).texts

/-- The items of the member with a key. -/
def itemsOf (key : String) (data : Json) : List Json := (data.field key).items

end Lectern.Json
