/-
Module: Lectern.Yaml.Value
Purpose: The values that YAML documents give, and what of them can be said in JSON.
Main exports: Value, Value.ofNode, Value.holds, Value.toJson, Yaml.load
-/
import Lectern.Schema.Scalar
import Lectern.Text.Quoted
import Lectern.Text.Utf8
import Lectern.Time.Timestamp
import Lectern.Yaml.Node

namespace Lectern.Yaml

/-- A value. -/
inductive Value where
  | null
  | bool (value : Bool)
  | int (value : Int)
  | float (value : Float)
  | text (value : String)
  | bytes (value : ByteArray)
  /-- A date, or a date with a clock time. -/
  | moment
  | set (isEmpty : Bool)
  | sequence (items : List Value)
  | mapping (members : List (Value × Value))
  deriving Inhabited

/-! ## Scalars -/

/-- The number that digits of a base give. -/
def digitsIn? (base : Nat) (digits : List Char) : Option Nat :=
  if digits.isEmpty then none
  else digits.foldlM (fun number c => do
    let value ← hexValue? c
    if value < base then some (base * number + value) else none) 0

/-- The whole number that digits of a base give, or the complaint that they give none. -/
def wholeIn (base : Nat) (digits : List Char) : Except Fault Int :=
  match digitsIn? base digits with
  | some value => .ok value
  | none => .error (.unfit "ValueError" ("invalid literal for int() with base " ++ toString base ++
      ": " ++ Text.Quoted.shown digits))

/-- A whole number without sign. -/
def wholeValue (text : List Char) : Except Fault Int :=
  match text with
  | [] => .error (.unfit "IndexError" "string index out of range")
  | ['0'] => .ok 0
  | '0' :: 'b' :: digits => wholeIn 2 digits
  | '0' :: 'x' :: digits => wholeIn 16 digits
  | '0' :: digits => wholeIn 8 digits
  | _ =>
    (Text.splitOn (· == ':') text).foldlM (fun value part => do
      return 60 * value + (← wholeIn 10 part)) 0

/-- Does a number have a sign that makes it negative? -/
def isNegative (text : List Char) : Bool := text.head? == some '-'

/-- The value of a whole number. -/
def intValue (text : String) : Except Fault Value := do
  let digits := text.toList.filter (· != '_')
  let value ← wholeValue (withoutSign digits)
  return .int (if isNegative digits then -value else value)

/-- A number of base ten. -/
def decimalValue (text : List Char) : Except Fault Float :=
  match Schema.readNumber? (String.ofList text) with
  | some value => .ok value
  | none => .error (.unfit "ValueError"
      ("could not convert string to float: " ++ Text.Quoted.shown text))

/-- The value of a number with a point: the last part counts ones, and each one before it sixty
times as much as the next. -/
def floatValue (text : String) : Except Fault Value := do
  let digits := (text.toList.filter (· != '_')).map Char.toLower
  if digits.isEmpty then .error (.unfit "IndexError" "string index out of range")
  let unsigned := withoutSign digits
  let value ← match String.ofList unsigned with
    | ".inf" => pure (1.0 / 0.0)
    | ".nan" => pure (0.0 / 0.0)
    | _ =>
      let parts ← (Text.splitOn (· == ':') unsigned).mapM decimalValue
      pure (parts.reverse.foldl (fun (value, unit) part => (value + part * unit, unit * 60.0))
        (0.0, 1.0)).1
  return .float (if isNegative digits then -1.0 * value else value)

/-- Why a moment does not exist. -/
def momentFault? (moment : MomentText) : Option String :=
  let ⟨year, month, day, _, clock⟩ := moment
  let (hour, minute, second) := clock.getD (0, 0, 0)
  if year == 0 then some "year 0 is out of range"
  else if month == 0 || 12 < month then some "month must be in 1..12"
  else if day == 0 || Date.monthLength year month < day then some "day is out of range for month"
  else if 23 < hour then some "hour must be in 0..23"
  else if 59 < minute then some "minute must be in 0..59"
  else if 59 < second then some "second must be in 0..59"
  else none

/-- The value of a moment. -/
def momentValue (text : String) : Except Fault Value :=
  match readMoment? text.toList with
  | none => .error (.unfit "AttributeError" "'NoneType' object has no attribute 'groupdict'")
  | some moment =>
    match momentFault? moment with
    | some message => .error (.unfit "ValueError" message)
    | none => .ok .moment

/-- The value of a constant. -/
def boolValue (text : String) : Except Fault Value :=
  let word := text.toLower
  if trueWords.contains word then .ok (.bool true)
  else if falseWords.contains word then .ok (.bool false)
  else .error (.unfit "KeyError" (Text.Quoted.shown word.toList))

/-- The value of a character in base 64. -/
def sixtyFourth? (c : Char) : Option Nat :=
  if 'A' ≤ c && c ≤ 'Z' then some (c.toNat - 65)
  else if 'a' ≤ c && c ≤ 'z' then some (c.toNat - 71)
  else if c.isDigit then some (c.toNat + 4)
  else if c == '+' then some 62
  else if c == '/' then some 63
  else none

/-- The bytes that values in base 64 give, four at a time. -/
def bytesOf : List Nat → Option (List UInt8)
  | a :: b :: c :: d :: rest => do
    let word := ((a * 64 + b) * 64 + c) * 64 + d
    return (word / 65536).toUInt8 :: (word / 256).toUInt8 :: word.toUInt8 :: (← bytesOf rest)
  | [a, b, c] =>
    let word := (a * 64 + b) * 64 + c
    some [(word / 1024).toUInt8, (word / 4).toUInt8]
  | [a, b] => some [((a * 64 + b) / 16).toUInt8]
  | [_] => none
  | [] => some []

/-- The bytes that a text gives in base 64. Other characters do not count, and the last four
characters are filled up. -/
def binaryValue (text : String) : Except Fault Value :=
  let chars := text.toList
  let values := (chars.takeWhile (· != '=')).filterMap sixtyFourth?
  let filling := chars.count '='
  if !chars.all (·.toNat < 128) || values.length % 4 + filling < 4 && values.length % 4 != 0 then
    .error .malformed
  else
    match bytesOf values with
    | some bytes => .ok (.bytes ⟨bytes.toArray⟩)
    | none => .error .malformed

/-- The value of a scalar. -/
def scalarValue (tag : Tag) (text : String) : Except Fault Value :=
  match tag with
  | .null => .ok .null
  | .bool => boolValue text
  | .int => intValue text
  | .float => floatValue text
  | .moment => momentValue text
  | .binary => binaryValue text
  | .text => .ok (.text text)
  | _ => .error .malformed

/-! ## Collections -/

/-- Can a value be a key? -/
def Value.isKey : Value → Bool
  | .set _ | .sequence _ | .mapping _ => false
  | _ => true

/-- The mappings that a mapping takes members from. The last one comes first, so that those before
it win. -/
def sources : Node → Option (List (List (Node × Node)))
  | .mapping _ members => some [members]
  | .sequence _ items => items.reverse.mapM fun (item : Node) =>
    match item with
    | .mapping _ members => some members
    | _ => none
  | .scalar _ _ => none

/-- Is a node the key under which other mappings are named? -/
def isMergeKey : Node → Bool
  | .scalar .merge _ => true
  | _ => false

/-- The members of a mapping, the ones it takes from others first. -/
def flattened : Nat → List (Node × Node) → Except Fault (List (Node × Node))
  | 0, _ => .error .malformed
  | fuel + 1, members => do
    let taken ← (members.filter fun member => isMergeKey member.1).mapM fun (_, source) =>
      match sources source with
      | some found => return (← found.mapM (flattened fuel)).flatten
      | none => .error .malformed
    return taken.flatten ++ members.filter fun member => !isMergeKey member.1

/-- How deep nodes lie within each other. -/
def Node.depth : Node → Nat
  | .scalar _ _ => 1
  | .sequence _ items => deepest items + 1
  | .mapping _ members => deepestMember members + 1
where
  /-- How deep the deepest of some nodes is. -/
  deepest : List Node → Nat
    | [] => 0
    | first :: rest => max first.depth (deepest rest)
  /-- How deep the deepest of some members is. -/
  deepestMember : List (Node × Node) → Nat
    | [] => 0
    | (key, value) :: rest => max (max key.depth value.depth) (deepestMember rest)

/-- The key that a node is; the mark of a default is a text there. -/
def keyNode : Node → Node
  | .scalar .default text => .scalar .text text
  | node => node

mutual

/-- The value of a node. -/
def valueOf : Nat → Node → Except Fault Value
  | 0, _ => .error .malformed
  | _ + 1, .scalar tag text => scalarValue tag text
  | fuel + 1, .sequence tag items => do
    let values ← items.mapM (valueOf fuel)
    match tag with
    | .sequence => return .sequence values
    | .orderedMapping | .pairs =>
      if values.all isSingle then return .sequence values else .error .malformed
    | _ => .error .malformed
  | fuel + 1, .mapping tag members => do
    let members ← membersOf fuel (← flattened fuel members)
    match tag with
    | .mapping => return .mapping members
    | .set => return .set members.isEmpty
    | _ => .error .malformed

/-- The values of members. Collections are no keys. -/
def membersOf : Nat → List (Node × Node) → Except Fault (List (Value × Value))
  | 0, _ => .error .malformed
  | fuel + 1, members =>
    members.mapM fun (key, value) => do
      let key ← valueOf fuel (keyNode key)
      if key.isKey then return (key, ← valueOf fuel value) else .error .malformed

/-- Is a value a mapping with one member? -/
def isSingle : Value → Bool
  | .mapping [_] => true
  | _ => false

end

namespace Value

/-- The value of a node. Merging and looking into a node each take a step. -/
def ofNode (node : Node) : Except Fault Value := valueOf (3 * node.depth + 3) node

/-- Does a value count as true? Zero and empty values do not. -/
def holds : Value → Bool
  | .null => false
  | .bool value => value
  | .int value => value != 0
  | .float value => value != 0.0
  | .text value => !value.isEmpty
  | .bytes value => value.size != 0
  | .moment => true
  | .set isEmpty => !isEmpty
  | .sequence items => !items.isEmpty
  | .mapping members => !members.isEmpty

/-- What a value is in JSON. Members whose key is no text are left out, and what JSON does not know
becomes an empty array. -/
def toJson : Value → Json
  | .null => .null
  | .bool value => .bool value
  | .int value => .int value
  | .float value => .float value
  | .text value => .str value
  | .bytes value => .str (Text.Utf8.read value)
  | .moment | .set _ => .arr []
  | .sequence items => .arr (itemsToJson items)
  | .mapping members => .obj (membersToJson members)
where
  /-- What items are in JSON. -/
  itemsToJson : List Value → List Json
    | [] => []
    | first :: rest => first.toJson :: itemsToJson rest
  /-- What members are in JSON. -/
  membersToJson : List (Value × Value) → List (String × Json)
    | [] => []
    | (.text key, value) :: rest => (key, value.toJson) :: membersToJson rest
    | _ :: rest => membersToJson rest

end Value

/-- The value of a text that holds one document; an empty one gives null. -/
def load (text : List Char) : Except Fault Value := do
  match ← Node.ofTokens (← Token.ofText text) with
  | some node => Value.ofNode node
  | none => return .null

end Lectern.Yaml
