/-
Module: Lectern.Yaml.Plain
Purpose: What plain scalars mean: constants, numbers in several notations, moments, or just text.
Main exports: Tag, plainTag, MomentText, readMoment?
-/
import Lectern.Text.Blank

namespace Lectern.Yaml

/-- What a node is. -/
inductive Tag where
  | null
  | bool
  | int
  | float
  | moment
  | binary
  | text
  | sequence
  | mapping
  | set
  | orderedMapping
  | pairs
  | merge
  /-- The key that stands for the mapping itself. -/
  | default
  /-- A tag that says nothing. -/
  | bare
  | unknown
  deriving DecidableEq, Repr, Inhabited

/-- The tags by the names they have. -/
def Tag.names : List (String × Tag) :=
  [("null", .null), ("bool", .bool), ("int", .int), ("float", .float), ("timestamp", .moment),
    ("binary", .binary), ("str", .text), ("seq", .sequence), ("map", .mapping), ("set", .set),
    ("omap", .orderedMapping), ("pairs", .pairs), ("merge", .merge), ("value", .default)]

/-- The tag that a text names. -/
def Tag.ofText (text : String) : Tag :=
  let known := Tag.names.find? fun (name, _) => text == "tag:yaml.org,2002:" ++ name
  match known with
  | some (_, tag) => tag
  | none => .unknown

/-- The words that stand for true. -/
def trueWords : List String :=
  ["yes", "Yes", "YES", "true", "True", "TRUE", "on", "On", "ON"]

/-- The words that stand for false. -/
def falseWords : List String :=
  ["no", "No", "NO", "false", "False", "FALSE", "off", "Off", "OFF"]

/-! ## Numbers -/

/-- A text without a sign in front. -/
def withoutSign : List Char → List Char
  | '-' :: rest => rest
  | '+' :: rest => rest
  | text => text

/-- A digit or an underscore. -/
def isDigitOrGap (c : Char) : Bool := c.isDigit || c == '_'

/-- A digit, and then digits and underscores. -/
def isDigitGroup : List Char → Bool
  | [] => false
  | c :: rest => c.isDigit && rest.all isDigitOrGap

/-- One digit, or two of which the first is at most five. -/
def isSixtieth : List Char → Bool
  | [c] => c.isDigit
  | [a, b] => '0' ≤ a && a ≤ '5' && b.isDigit
  | _ => false

/-- Is there more than one part, and do all parts but the first count in sixties? -/
def countsInSixties : List (List Char) → Bool
  | [] => false
  | [_] => false
  | _ :: rest => rest.all isSixtieth

/-- A whole number in base ten, two, eight, sixteen or sixty. -/
def isWholeNumber (text : List Char) : Bool :=
  match withoutSign text with
  | ['0'] => true
  | '0' :: 'b' :: digits => !digits.isEmpty && digits.all fun c => c == '0' || c == '1' || c == '_'
  | '0' :: 'x' :: digits =>
    !digits.isEmpty && digits.all fun c =>
      c.isDigit || ('a' ≤ c && c ≤ 'f') || ('A' ≤ c && c ≤ 'F') || c == '_'
  | '0' :: digits => digits.all fun c => ('0' ≤ c && c ≤ '7') || c == '_'
  | rest =>
    if rest.contains ':' then
      let parts := Text.splitOn (· == ':') rest
      isDigitGroup (parts.headD []) && countsInSixties parts
    else isDigitGroup rest

/-- Nothing, or an exponent with a sign. -/
def isExponent : List Char → Bool
  | [] => true
  | e :: sign :: digits =>
    (e == 'e' || e == 'E') && (sign == '-' || sign == '+') && !digits.isEmpty &&
      digits.all Char.isDigit
  | _ => false

/-- What stands behind the point of a number. -/
def isFraction (text : List Char) : Bool := isExponent (text.dropWhile isDigitOrGap)

/-- A number with a point, in base ten or sixty, or one that is no number. -/
def isFractional (text : List Char) : Bool :=
  let unsigned := withoutSign text
  let whole := unsigned.takeWhile (· != '.')
  let behind := unsigned.drop whole.length
  match behind with
  | '.' :: rest =>
    if whole.isEmpty then
      ["inf", "Inf", "INF"].contains (String.ofList rest) ||
        (unsigned == text &&
          (["nan", "NaN", "NAN"].contains (String.ofList rest) ||
            (someDigit rest && isFraction rest)))
    else if whole.contains ':' then
      let parts := Text.splitOn (· == ':') whole
      isDigitGroup (parts.headD []) && countsInSixties parts && rest.all isDigitOrGap
    else isDigitGroup whole && isFraction rest
  | _ => false
where
  /-- Does a digit come first? -/
  someDigit : List Char → Bool
    | [] => false
    | c :: _ => c.isDigit

/-! ## Moments -/

/-- The parts of a moment as they are written. -/
structure MomentText where
  year : Nat
  month : Nat
  day : Nat
  /-- Are month and day written with two digits each, and nothing else? -/
  isPlainDate : Bool
  clock : Option (Nat × Nat × Nat)
  deriving DecidableEq, Repr, Inhabited

/-- At least and at most so many digits in front of a text. -/
def digitsWithin? (least most : Nat) (text : List Char) : Option (Nat × List Char) :=
  let digits := (text.take most).takeWhile Char.isDigit
  if digits.length < least then none
  else some (digits.foldl (fun number c => 10 * number + (c.toNat - 48)) 0, text.drop digits.length)

/-- A character that must come next. -/
def past? (c : Char) : List Char → Option (List Char)
  | [] => none
  | first :: rest => if first == c then some rest else none

/-- Nothing, or an offset behind a clock time. -/
def isOffset (text : List Char) : Bool :=
  match text.dropWhile fun c => c == ' ' || c == '\t' with
  | [] => text.isEmpty
  | ['Z'] => true
  | sign :: rest =>
    (sign == '-' || sign == '+') &&
      match digitsWithin? 1 2 rest with
      | some (_, []) => true
      | some (_, ':' :: minutes) => minutes.length == 2 && minutes.all Char.isDigit
      | _ => false

/-- A clock time behind a date. -/
def readClock? (text : List Char) : Option (Nat × Nat × Nat) := do
  let rest ← match text with
    | [] => none
    | c :: rest =>
      if c == 'T' || c == 't' then some rest
      else if c == ' ' || c == '\t' then some (rest.dropWhile fun c => c == ' ' || c == '\t')
      else none
  let (hour, rest) ← digitsWithin? 1 2 rest
  let (minute, rest) ← digitsWithin? 2 2 (← past? ':' rest)
  let (second, rest) ← digitsWithin? 2 2 (← past? ':' rest)
  let rest := match rest with
    | '.' :: behind => behind.dropWhile Char.isDigit
    | _ => rest
  if isOffset rest then some (hour, minute, second) else none

/-- The parts of a moment. -/
def readMoment? (text : List Char) : Option MomentText := do
  let (year, rest) ← digitsWithin? 4 4 text
  let (month, rest) ← digitsWithin? 1 2 (← past? '-' rest)
  let (day, rest) ← digitsWithin? 1 2 (← past? '-' rest)
  if rest.isEmpty then some ⟨year, month, day, text.length == 10, none⟩
  else
    let clock ← readClock? rest
    return ⟨year, month, day, false, some clock⟩

/-! ## Tags -/

/-- Is this a moment that needs no tag? A date alone is written in full. -/
def isMoment (text : List Char) : Bool :=
  match readMoment? text with
  | some moment => moment.isPlainDate || moment.clock.isSome
  | none => false

/-- What a plain scalar is. -/
def plainTag (text : List Char) : Tag :=
  let word := String.ofList text
  if trueWords.contains word || falseWords.contains word then .bool
  else if isFractional text then .float
  else if isWholeNumber text then .int
  else if word == "<<" then .merge
  else if ["~", "null", "Null", "NULL", ""].contains word then .null
  else if isMoment text then .moment
  else if word == "=" then .default
  else .text

end Lectern.Yaml
