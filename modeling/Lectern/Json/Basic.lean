/-
Module: Lectern.Json.Basic
Purpose: JSON values. Whole numbers and fractional ones are told apart, and the members of an object
  keep their order.
Main exports: Json, Json.member?, Json.textArray, Json.isFinite, Json.isEncodable
-/

namespace Lectern

/-- A JSON value. -/
inductive Json where
  | null
  | bool (value : Bool)
  | int (value : Int)
  | float (value : Float)
  | str (value : String)
  /-- A text in which half of a surrogate pair stands alone, by its codes: no string is that text. -/
  | unpaired (codes : List Nat)
  | arr (items : List Json)
  | obj (members : List (String × Json))
  /-- An object of which some keys are such texts. Their members stand apart from the others. -/
  | unpairedKeys (members : List (String × Json)) (apart : List (List Nat × Json))
  deriving Repr, Inhabited

namespace Json

/-- The value of the last member with a key. -/
def lookup (key : String) (members : List (String × Json)) : Option Json :=
  (members.reverse.find? (·.1 == key)).map (·.2)

/-- The member of an object with a key. -/
def member? (key : String) : Json → Option Json
  | .obj members => lookup key members
  | .unpairedKeys members _ => lookup key members
  | _ => none

/-- Texts as an array. -/
def textArray (texts : List String) : Json := .arr (texts.map .str)

/-- A text, or null where there is none. -/
def optionalText : Option String → Json
  | some text => .str text
  | none => .null

/-- A whole number, or null where there is none. -/
def optionalNat : Option Nat → Json
  | some count => .int count
  | none => .null

/-- A natural number. -/
def nat (count : Nat) : Json := .int count

/-- Each member once, where it first stands and with its last value. -/
def distinctMembers (members : List (String × Json)) : List (String × Json) :=
  members.foldl (fun kept (key, value) =>
    if kept.any (·.1 == key) then
      kept.map fun entry => if entry.1 == key then (key, value) else entry
    else kept ++ [(key, value)]) []

/-- The value a JSON number, text or constant counts as in a condition: zero and empty values do not
hold. -/
def holds : Json → Bool
  | .null => false
  | .bool value => value
  | .int value => value != 0
  | .float value => value != 0.0
  | .str value => !value.isEmpty
  | .unpaired _ => true
  | .arr items => !items.isEmpty
  | .obj members => !members.isEmpty
  | .unpairedKeys _ _ => true

mutual

/-- Are all numbers of a value finite? Such values can be written wherever JSON is read. -/
def isFinite : Json → Bool
  | .float value => value.isFinite
  | .arr items => itemsFinite items
  | .obj members => membersFinite members
  | .unpairedKeys members apart => membersFinite members && apartFinite apart
  | _ => true

/-- Are all numbers of some items finite? -/
def itemsFinite : List Json → Bool
  | [] => true
  | first :: rest => first.isFinite && itemsFinite rest

/-- Are all numbers of some members finite? Of the members with a key the last one counts. -/
def membersFinite : List (String × Json) → Bool
  | [] => true
  | (key, value) :: rest =>
    (rest.any (·.1 == key) || value.isFinite) && membersFinite rest

/-- Are all numbers of some members finite whose keys are no strings? -/
def apartFinite : List (List Nat × Json) → Bool
  | [] => true
  | (key, value) :: rest =>
    (rest.any (·.1 == key) || value.isFinite) && apartFinite rest

end

mutual

/-- Are all texts of a value strings? No other text has an encoding. -/
def isEncodable : Json → Bool
  | .unpaired _ => false
  | .unpairedKeys _ _ => false
  | .arr items => itemsEncodable items
  | .obj members => membersEncodable members
  | _ => true

/-- Are all texts of some items strings? -/
def itemsEncodable : List Json → Bool
  | [] => true
  | first :: rest => first.isEncodable && itemsEncodable rest

/-- Are all texts of some members strings? Of the members with a key the last one counts. -/
def membersEncodable : List (String × Json) → Bool
  | [] => true
  | (key, value) :: rest =>
    (rest.any (·.1 == key) || value.isEncodable) && membersEncodable rest

end

end Json

end Lectern
