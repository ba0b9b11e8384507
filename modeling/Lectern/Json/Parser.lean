/-
Module: Lectern.Json.Parser
Purpose: Reading JSON values from text, with a fault that says what was expected and where. Records
  and messages are read alike but for texts that are no strings and for very long numbers.
Main exports: Json.Parser.Fault, Json.Parser.Dialect, Json.Parser.parseChars, Json.parse
-/
import Lectern.Json.Basic
import Lectern.Number.Binary

namespace Lectern.Json.Parser

/-- What is wrong at a place of a text. -/
inductive Problem where
  | expectedValue
  | expectedIdent
  | expectedKey
  | expectedColon
  | expectedListSeparator
  | expectedObjectSeparator
  | trailingComma
  | trailingCharacters
  | controlCharacter
  | invalidEscape
  | invalidNumber
  /-- A whole number has more digits than are read. -/
  | numberTooLong
  /-- A half of a surrogate pair is no part of a pair. -/
  | loneHalf
  /-- The second half of a surrogate pair does not follow its first half. -/
  | halfOpen
  | endInValue
  | endInList
  | endInObject
  | endInString
  deriving DecidableEq, Repr, Inhabited

/-- How a problem is called. -/
def Problem.label : Problem → String
  | .expectedValue => "expected value"
  | .expectedIdent => "expected ident"
  | .expectedKey => "key must be a string"
  | .expectedColon => "expected \x60:\x60"
  | .expectedListSeparator => "expected \x60,\x60 or \x60]\x60"
  | .expectedObjectSeparator => "expected \x60,\x60 or \x60\x7d\x60"
  | .trailingComma => "trailing comma"
  | .trailingCharacters => "trailing characters"
  | .controlCharacter => "control character (\\u0000-\\u001F) found while parsing a string"
  | .invalidEscape => "invalid escape"
  | .invalidNumber => "invalid number"
  | .numberTooLong => "number out of range"
  | .loneHalf => "lone leading surrogate in hex escape"
  | .halfOpen => "unexpected end of hex escape"
  | .endInValue => "EOF while parsing a value"
  | .endInList => "EOF while parsing a list"
  | .endInObject => "EOF while parsing an object"
  | .endInString => "EOF while parsing a string"

/-- A problem, how much text is left where it shows, and how much was left where the token around it
starts. -/
structure Fault where
  problem : Problem
  left : Nat
  tokenLeft : Nat
  deriving DecidableEq, Repr, Inhabited

/-- A value read from the front of a text, and the rest. -/
abbrev Reading (α : Type) := Except Fault (α × List Char)

/-- A problem at the front of a text. -/
def faultAt {α : Type} (problem : Problem) (text : List Char) : Except Fault α :=
  .error ⟨problem, text.length, text.length⟩

/-- A problem at the front of a text, within a token. -/
def faultIn {α : Type} (problem : Problem) (token text : List Char) : Except Fault α :=
  .error ⟨problem, text.length, token.length⟩

/-- White space between tokens. -/
def isSpace (c : Char) : Bool := c == ' ' || c == '\n' || c == '\r' || c == '\t'

/-- Past white space. -/
def skipSpace (text : List Char) : List Char := text.dropWhile isSpace

/-- Whose JSON is read. -/
inductive Dialect where
  /-- That of records, which the program has written: half of a surrogate pair must not stand alone in
  it. -/
  | record
  /-- That of messages, which come from anywhere: half of a pair may stand alone, and a whole number
  must not be too long. -/
  | message
  deriving DecidableEq, Repr, Inhabited

/-- The digits of a whole number that are too many for a dialect. -/
def Dialect.overlong? (dialect : Dialect) (digits : List Char) : Option Number.Overlong :=
  match dialect with
  | .record => none
  | .message => Number.overlong? digits

/-! ## Strings -/

/-- The value of a hexadecimal digit. -/
def hexValue (c : Char) : Option Nat :=
  if '0' ≤ c && c ≤ '9' then some (c.toNat - 48)
  else if 'a' ≤ c && c ≤ 'f' then some (c.toNat - 87)
  else if 'A' ≤ c && c ≤ 'F' then some (c.toNat - 55)
  else none

/-- The unit that four hexadecimal digits give. -/
def hexUnit (a b c d : Char) : Option Nat := do
  return (((← hexValue a) * 16 + (← hexValue b)) * 16 + (← hexValue c)) * 16 + (← hexValue d)

/-- The character of a short escape. -/
def escapedChar : Char → Option Char
  | '\x22' => some '\x22'
  | '\\' => some '\\'
  | '/' => some '/'
  | 'n' => some '\n'
  | 'r' => some '\r'
  | 't' => some '\t'
  | 'b' => some '\x08'
  | 'f' => some '\x0c'
  | _ => none

/-- Is a unit the first half of a surrogate pair? -/
def isFirstHalf (unit : Nat) : Bool := 0xD800 ≤ unit && unit < 0xDC00

/-- Is a unit the second half of a surrogate pair? -/
def isSecondHalf (unit : Nat) : Bool := 0xDC00 ≤ unit && unit < 0xE000

/-- The first half of a pair without its second half stays as it is. -/
def flush (pending : Option Nat) (read : List Nat) : List Nat :=
  match pending with
  | some high => high :: read
  | none => read

/-- One more unit: the second half of a pair completes a pending first half. -/
def pushUnit (pending : Option Nat) (unit : Nat) (read : List Nat) : Option Nat × List Nat :=
  match pending with
  | some high =>
    if isSecondHalf unit then
      (none, (0x10000 + (high - 0xD800) * 1024 + (unit - 0xDC00)) :: read)
    else if isFirstHalf unit then (some unit, high :: read)
    else (none, unit :: high :: read)
  | none => if isFirstHalf unit then (some unit, read) else (none, unit :: read)

/-- Must a pending half be followed by the other one at once? -/
def isDue (dialect : Dialect) (pending : Option Nat) : Bool :=
  dialect == .record && pending.isSome

/-- Is a unit refused behind what is pending? -/
def isRefused (dialect : Dialect) (pending : Option Nat) (unit : Nat) : Bool :=
  dialect == .record && pending.isSome != isSecondHalf unit

/-- The codes of the rest of a string behind its opening quote. What has been read is kept in
reverse. -/
def stringTail (dialect : Dialect) (token : List Char) (pending : Option Nat) (read : List Nat) :
    List Char → Reading (List Nat)
  | [] => faultIn .endInString token []
  | '\\' :: [] => faultIn .endInString token []
  | '\\' :: 'u' :: a :: b :: c :: d :: rest =>
    match hexUnit a b c d with
    | some unit =>
      if isRefused dialect pending unit then faultAt .loneHalf (d :: rest)
      else
        let (pending, read) := pushUnit pending unit read
        stringTail dialect token pending read rest
    | none => faultAt .invalidEscape ('u' :: a :: b :: c :: d :: rest)
  | '\\' :: e :: rest =>
    if isDue dialect pending && e != 'u' then faultAt .halfOpen (e :: rest)
    else
      match escapedChar e with
      | some c => stringTail dialect token none (c.toNat :: flush pending read) rest
      | none => faultAt .invalidEscape (if e == 'u' then e :: rest else '\\' :: e :: rest)
  | c :: rest =>
    if isDue dialect pending then faultAt .halfOpen (c :: rest)
    else if c == '\x22' then .ok ((flush pending read).reverse, rest)
    else if c < ' ' then faultAt .controlCharacter (c :: rest)
    else stringTail dialect token none (c.toNat :: flush pending read) rest

/-- The string with some codes, if there is one: none of them may be half of a pair. -/
def stringOf? (codes : List Nat) : Option String :=
  if codes.all fun code => decide code.isValidChar then some (String.ofList (codes.map Char.ofNat))
  else none

/-- The text with some codes. -/
def textOf (codes : List Nat) : Json :=
  match stringOf? codes with
  | some text => .str text
  | none => .unpaired codes

/-- The object with some members whose keys are given by their codes. -/
def objectOf (members : List (List Nat × Json)) : Json :=
  let named := members.filterMap fun (codes, value) =>
    (stringOf? codes).map fun key => (key, value)
  match members.filter fun (codes, _) => (stringOf? codes).isNone with
  | [] => .obj named
  | apart => .unpairedKeys named apart

/-! ## Numbers and constants -/

/-- The digits in front of a text, and the rest. -/
def digitsOf (text : List Char) : List Char × List Char :=
  (text.takeWhile Char.isDigit, text.dropWhile Char.isDigit)

/-- The number that decimal digits give. -/
def digitsValue (digits : List Char) : Nat :=
  digits.foldl (fun value c => value * 10 + (c.toNat - 48)) 0

/-- The digits behind a point, where they follow. -/
def fraction (text : List Char) : Reading (Option (List Char)) :=
  match text with
  | '.' :: rest =>
    match digitsOf rest with
    | ([], []) => faultIn .endInValue text []
    | ([], after) => faultIn .invalidNumber text after
    | (digits, after) => .ok (some digits, after)
  | _ => .ok (none, text)

/-- An exponent, where one follows. -/
def exponent (text : List Char) : Reading (Option Int) :=
  match text with
  | e :: rest =>
    if e == 'e' || e == 'E' then
      let (negative, rest) := match rest with
        | '-' :: rest => (true, rest)
        | '+' :: rest => (false, rest)
        | _ => (false, rest)
      match digitsOf rest with
      | ([], []) => faultIn .endInValue text []
      | ([], after) => faultIn .invalidNumber text after
      | (digits, after) =>
        let value : Int := digitsValue digits
        .ok (some (if negative then -value else value), after)
    else .ok (none, text)
  | [] => .ok (none, [])

/-- The value of a number from its parts. -/
def numberValue (negative : Bool) (whole : List Char) (fraction : Option (List Char))
    (exponent : Option Int) : Json :=
  match fraction, exponent with
  | none, none =>
    let value : Int := digitsValue whole
    .int (if negative then -value else value)
  | _, _ =>
    let places := fraction.getD []
    let value :=
      Number.ofDecimal (digitsValue (whole ++ places)) (exponent.getD 0 - places.length)
    .float (if negative then -value else value)

/-- The rest of a number behind its sign. -/
def numberTail (dialect : Dialect) (token : List Char) (negative : Bool) (text : List Char) :
    Except Fault (Json × List Char) := do
  let (whole, rest) := digitsOf text
  match whole, rest with
  | [], [] => faultIn .endInValue token []
  | [], _ => faultIn .invalidNumber token rest
  | '0' :: next :: _, _ => faultAt .invalidNumber (next :: (text.drop 2))
  | _, _ =>
    let (places, rest) ← fraction rest
    let (power, rest) ← exponent rest
    if places.isNone && power.isNone && (dialect.overlong? whole).isSome then
      faultIn .numberTooLong token rest
    else return (numberValue negative whole places power, rest)

/-- A constant, spelled out. -/
def constant (value : Json) (token : List Char) : List Char → List Char → Reading Json
  | [], rest => .ok (value, rest)
  | _, [] => faultIn .endInValue token []
  | expected :: more, c :: rest =>
    if c == expected then constant value token more rest
    else faultIn .expectedIdent token (c :: rest)

/-- A constant, a number or a string. -/
def scalarValue (dialect : Dialect) (text : List Char) : Reading Json :=
  match text with
  | [] => faultAt .endInValue []
  | 'n' :: _ => constant .null text "null".toList text
  | 't' :: _ => constant (.bool true) text "true".toList text
  | 'f' :: _ => constant (.bool false) text "false".toList text
  | 'N' :: _ => constant (.float (0.0 / 0.0)) text "NaN".toList text
  | 'I' :: _ => constant (.float (1.0 / 0.0)) text "Infinity".toList text
  | '-' :: 'I' :: rest => constant (.float (-1.0 / 0.0)) text "Infinity".toList ('I' :: rest)
  | '-' :: rest => numberTail dialect text true rest
  | '\x22' :: rest => (stringTail dialect text none [] rest).map fun (codes, rest) =>
      (textOf codes, rest)
  | c :: _ => if c.isDigit then numberTail dialect text false text else faultAt .expectedValue text

/-! ## Values -/

/-- The colon between a key and its value. -/
def colon (text : List Char) : Except Fault (List Char) :=
  match skipSpace text with
  | ':' :: rest => .ok (skipSpace rest)
  | [] => faultAt .endInObject []
  | other => faultAt .expectedColon other

/-- The codes of a key, and the colon behind it. -/
def keyAndColon (dialect : Dialect) (text : List Char) : Except Fault (List Nat × List Char) :=
  match text with
  | '\x22' :: inside => do
    let (key, rest) ← stringTail dialect text none [] inside
    return (key, ← colon rest)
  | [] => faultAt .endInObject []
  | _ => faultAt .expectedKey text

mutual

/-- A value at the front of a text. `fuel` bounds how many tokens are read. How deep values may lie in
each other is left open. -/
def value (dialect : Dialect) : Nat → List Char → Reading Json
  | 0, text => faultAt .endInValue text
  | fuel + 1, '[' :: rest =>
    match skipSpace rest with
    | ']' :: rest => .ok (.arr [], rest)
    | [] => faultAt .endInList []
    | text => items dialect fuel [] text
  | fuel + 1, '\x7b' :: rest =>
    match skipSpace rest with
    | '\x7d' :: rest => .ok (.obj [], rest)
    | text => members dialect fuel [] text
  | _ + 1, text => scalarValue dialect text

/-- The items of an array from some item on; those read before are kept in reverse. -/
def items (dialect : Dialect) : Nat → List Json → List Char → Except Fault (Json × List Char)
  | 0, _, text => faultAt .endInList text
  | fuel + 1, read, text => do
    let (item, rest) ← value dialect fuel text
    match skipSpace rest with
    | ']' :: rest => return (.arr (item :: read).reverse, rest)
    | ',' :: rest =>
      match skipSpace rest with
      | [] => faultAt .endInValue []
      | ']' :: rest => faultAt .trailingComma (']' :: rest)
      | text => items dialect fuel (item :: read) text
    | [] => faultAt .endInList []
    | other => faultAt .expectedListSeparator other

/-- The members of an object from some member on; those read before are kept in reverse. -/
def members (dialect : Dialect) :
    Nat → List (List Nat × Json) → List Char → Except Fault (Json × List Char)
  | 0, _, text => faultAt .endInObject text
  | fuel + 1, read, text => do
    let (key, rest) ← keyAndColon dialect text
    let (member, rest) ← value dialect fuel rest
    match skipSpace rest with
    | '\x7d' :: rest => return (objectOf ((key, member) :: read).reverse, rest)
    | ',' :: rest =>
      match skipSpace rest with
      | [] => faultAt .endInValue []
      | '\x7d' :: rest => faultAt .trailingComma ('\x7d' :: rest)
      | text => members dialect fuel ((key, member) :: read) text
    | [] => faultAt .endInObject []
    | other => faultAt .expectedObjectSeparator other

end

/-- Read a text as one value. -/
def parseChars (dialect : Dialect) (text : List Char) : Except Fault Json := do
  let start := skipSpace text
  let (read, rest) ← value dialect (start.length + 1) start
  match skipSpace rest with
  | [] => return read
  | other => faultAt .trailingCharacters other

/-! ## Where a fault lies -/

/-- Does a fault count from the start of the token it lies in? -/
def Fault.countsFromToken (fault : Fault) : Bool :=
  match fault.problem with
  | .expectedIdent | .endInValue | .invalidNumber | .endInString => true
  | _ => false

/-- The index of the character a fault is reported at. -/
def Fault.index (fault : Fault) (text : List Char) : Nat :=
  text.length - (if fault.countsFromToken then fault.tokenLeft else fault.left)

/-- Line and column behind some text, both counted from one. -/
def advance : Nat × Nat → List Char → Nat × Nat
  | place, [] => place
  | (line, column), c :: rest =>
    if c == '\n' then advance (line + 1, 0) rest
    else advance (line, column + c.utf8Size) rest

/-- Line and column of a fault; the column counts bytes, and at the end of the text it is that of
the last character. -/
def Fault.place (fault : Fault) (text : List Char) : Nat × Nat :=
  let before := text.take (text.length - fault.left)
  match text.drop (text.length - fault.left) with
  | [] => advance (1, 0) text
  | '\n' :: _ => advance (1, 0) (before ++ ['\n'])
  | _ :: _ => let (line, column) := advance (1, 0) before; (line, column + 1)

/-- The message of a fault in a text. -/
def Fault.message (fault : Fault) (text : List Char) : String :=
  let (line, column) := fault.place text
  "Invalid JSON: " ++ fault.problem.label ++ " at line " ++ toString line ++ " column " ++
    toString column

end Lectern.Json.Parser

/-- Read a message as one value. -/
def Lectern.Json.parse (text : String) : Except Lectern.Json.Parser.Fault Lectern.Json :=
  Lectern.Json.Parser.parseChars .message text.toList
