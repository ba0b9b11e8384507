/-
Module: Lectern.Schema.Scalar
Purpose: Reading texts, numbers, flags, choices and lists. Numbers and flags may also be spelled as
  text, and a flag may be given as zero or one.
Main exports: text, whole, number, flag, among, member, list, dictionary, nullable, atLeast
-/
import Lectern.Number.Binary
import Lectern.Schema.Checked
import Lectern.Text.Blank

namespace Lectern.Schema

open Lectern.Text

/-! ## Texts -/

/-- A text. -/
def text : Reader String
  | .str value => .valid value
  | .unpaired _ => .fail .notString
  | _ => .fail .notText

/-- A text with at least and at most some characters. -/
def textWithin (least most : Nat) : Reader String := fun data =>
  (text data).andThen fun value =>
    if value.length < least then .fail (.textTooShort least)
    else if value.length > most then .fail (.textTooLong most)
    else .valid value

/-! ## Numbers -/

/-- The number that decimal digits give, where there is at least one and nothing else. -/
def digits? (digits : List Char) : Option Nat :=
  if digits.isEmpty || !digits.all Char.isDigit then none
  else some (digits.foldl (fun value c => value * 10 + (c.toNat - 48)) 0)

/-- Digits without the single underscores that may stand between them. -/
def withoutUnderscores? (text : List Char) : Option (List Char) :=
  let groups := splitOn (· == '_') text
  if groups.any (·.isEmpty) then none else some groups.flatten

/-- A sign in front of a text, and the rest. -/
def splitSign : List Char → Bool × List Char
  | '-' :: rest => (true, rest)
  | '+' :: rest => (false, rest)
  | text => (false, text)

/-- A whole number spelled as text: a sign, digits and a fraction of zeros. -/
def readWhole? (text : String) : Option Int := do
  let (negative, rest) := splitSign (trim text.toList)
  let whole := rest.takeWhile (· != '.')
  let fraction := rest.drop (whole.length + 1)
  if !fraction.all (· == '0') then none
  let digits ← withoutUnderscores? whole
  let value ← digits? digits
  return if negative then -(value : Int) else value

/-- The whole number that a number with no fraction stands for. -/
def wholeOfFloat (x : Float) : Checked Int :=
  match Number.Binary.ofFloat x with
  | .finite negative mantissa exponent =>
    let (up, down) := Number.powerOfTwo exponent
    if mantissa * up % down != 0 then .fail .fractional
    else
      let value := mantissa * up / down
      if value ≥ Nat.pow 2 63 then .fail .wholeTooLarge
      else .valid (if negative then -(value : Int) else value)
  | _ => .fail .notFinite

/-- A whole number. -/
def whole : Reader Int
  | .int value => .valid value
  | .bool value => .valid (if value then 1 else 0)
  | .float value => wholeOfFloat value
  | .str value =>
    match readWhole? value with
    | some value => .valid value
    | none => .fail .unreadWhole
  | .unpaired _ => .fail .notString
  | _ => .fail .notWhole

/-- An exponent spelled as text, or nothing. -/
def readExponent? : List Char → Option Int
  | [] => some 0
  | e :: rest =>
    if e == 'e' || e == 'E' then
      let (negative, digits) := splitSign rest
      (digits? digits).map fun value => if negative then -(value : Int) else value
    else none

/-- A number without sign spelled as text: digits, a fraction and an exponent. -/
def readDecimal? (text : List Char) : Option Float := do
  let isPlain := fun c => c.isDigit
  let whole := text.takeWhile isPlain
  let rest := text.drop whole.length
  let (fraction, rest) := match rest with
    | '.' :: behind => (behind.takeWhile isPlain, behind.dropWhile isPlain)
    | _ => ([], rest)
  let value ← digits? (whole ++ fraction)
  let exponent ← readExponent? rest
  return Number.ofDecimal value (exponent - fraction.length)

/-- A number spelled as text. -/
def readNumber? (text : String) : Option Float :=
  let (negative, rest) := splitSign (trim text.toList)
  let spelled := String.ofList (rest.map Char.toLower)
  let value :=
    if spelled == "inf" || spelled == "infinity" then some (1.0 / 0.0)
    else if spelled == "nan" then some (0.0 / 0.0)
    else (readDecimal? rest).or ((withoutUnderscores? rest).bind readDecimal?)
  value.map fun value => if negative then -value else value

/-- The number nearest to a whole number, unless there is none of that size. -/
def numberOfWhole (value : Int) : Checked Float :=
  let size := Number.ofDecimal value.natAbs 0
  if size.isInf then .fail .notNumber else .valid (if value < 0 then -size else size)

/-- A number. -/
def number : Reader Float
  | .float value => .valid value
  | .int value => numberOfWhole value
  | .bool value => .valid (if value then 1 else 0)
  | .str value =>
    match readNumber? value with
    | some value => .valid value
    | none => .fail .unreadNumber
  | .unpaired _ => .fail .notString
  | _ => .fail .notNumber

/-- At least some value. -/
def atLeast (least : Int) (read : Reader Int) : Reader Int := fun data =>
  (read data).andThen fun value => if value < least then .fail (.below least) else .valid value

/-- At most some value. -/
def atMost (most : Int) (read : Reader Int) : Reader Int := fun data =>
  (read data).andThen fun value => if value > most then .fail (.above most) else .valid value

/-- A natural number of at least some value. -/
def natural (least : Nat) : Reader Nat := fun data => (atLeast least whole data).map Int.toNat

/-- A number of at least some value. -/
def numberAtLeast (least : Int) (read : Reader Float) : Reader Float := fun data =>
  (read data).andThen fun value =>
    if value < Float.ofInt least then .fail (.below least) else .valid value

/-- A number of at most some value. -/
def numberAtMost (most : Int) (read : Reader Float) : Reader Float := fun data =>
  (read data).andThen fun value =>
    if value > Float.ofInt most then .fail (.above most) else .valid value

/-- A number greater than some value. -/
def numberMoreThan (bound : Int) (read : Reader Float) : Reader Float := fun data =>
  (read data).andThen fun value =>
    if value ≤ Float.ofInt bound then .fail (.notMoreThan bound) else .valid value

/-! ## Flags -/

/-- The flag that a word stands for. -/
def readFlag? (text : String) : Option Bool :=
  let word := String.ofList (text.toList.map Char.toLower)
  if ["1", "on", "t", "true", "y", "yes"].contains word then some true
  else if ["0", "off", "f", "false", "n", "no"].contains word then some false
  else none

/-- The flag that zero or one stands for. -/
def flagOfWhole (value : Int) : Checked Bool :=
  if value == 0 then .valid false
  else if value == 1 then .valid true
  else if value < -(Nat.pow 2 63 : Nat) || value ≥ (Nat.pow 2 63 : Nat) then .fail .notFlag
  else .fail .unreadFlag

/-- A flag. -/
def flag : Reader Bool
  | .bool value => .valid value
  | .int value => flagOfWhole value
  | .float value =>
    match wholeOfFloat value with
    | .valid value => flagOfWhole value
    | .invalid _ => .fail .notFlag
  | .str value =>
    match readFlag? value with
    | some value => .valid value
    | none => .fail .unreadFlag
  | .unpaired _ => .fail .notString
  | _ => .fail .notFlag

/-! ## Choices -/

/-- The choice with a name. -/
def choice? {α : Type} (name : α → String) (choices : List α) : Json → Option α
  | .str value => choices.find? fun choice => name choice == value
  | _ => none

/-- One of a few texts. -/
def among {α : Type} (name : α → String) (choices : List α) : Reader α
  | .unpaired _ => .fail .notString
  | data =>
    match choice? name choices data with
    | some choice => .valid choice
    | none => .fail (.notAmong (choices.map name))

/-- A member of a closed set. -/
def member {α : Type} (name : α → String) (choices : List α) : Reader α := fun data =>
  match choice? name choices data with
  | some choice => .valid choice
  | none => .fail (.notMember (choices.map name))

/-! ## Structures -/

/-- Nothing, or data of some shape. -/
def nullable {α : Type} (read : Reader α) : Reader (Option α)
  | .null => .valid none
  | data => (read data).map some

/-- The items of a list from a place on. -/
def itemsFrom {α : Type} (read : Reader α) : Nat → List Json → Checked (List α)
  | _, [] => .valid []
  | place, item :: rest =>
    List.cons <$> (read item).under (.index place) <*> itemsFrom read (place + 1) rest

/-- A list. -/
def list {α : Type} (read : Reader α) : Reader (List α)
  | .arr items => itemsFrom read 0 items
  | _ => .fail .notList

/-- An object of any members. -/
def dictionary : Reader (List (String × Json))
  | .obj members => .valid (Json.distinctMembers members)
  | _ => .fail .notDictionary

end Lectern.Schema
