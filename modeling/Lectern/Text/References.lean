/-
Module: Lectern.Text.References
Purpose: Replacing the character references of HTML text by the characters they stand for. Where the
  decimal digits of a reference are too many to be read as a number, the text is not replaced at all.
Main exports: Reference, References.pieces, References.decode, References.overlong?,
  References.unescape, References.unescape_eq
-/
import Lectern.Number.Binary
import Lectern.Text.NamedReferences

namespace Lectern.Text.References

/-- The characters that code points from 0x80 to 0x9F stand for in a reference. -/
def remapped : List Nat :=
  [0x20AC, 0x81, 0x201A, 0x192, 0x201E, 0x2026, 0x2020, 0x2021, 0x2C6, 0x2030, 0x160, 0x2039, 0x152,
    0x8D, 0x17D, 0x8F, 0x90, 0x2018, 0x2019, 0x201C, 0x201D, 0x2022, 0x2013, 0x2014, 0x2DC, 0x2122,
    0x161, 0x203A, 0x153, 0x9D, 0x17E, 0x178]

/-- Code points that a reference may name and that stand for nothing. -/
def isDropped (code : Nat) : Bool :=
  (1 ≤ code && code ≤ 8) || code == 0x0B || (0x0E ≤ code && code ≤ 0x1F) ||
    (0x7F ≤ code && code ≤ 0x9F) || (0xFDD0 ≤ code && code ≤ 0xFDEF) ||
    code % 0x10000 == 0xFFFE || code % 0x10000 == 0xFFFF

/-- What a numeric reference stands for. -/
def ofCode (code : Nat) : List Char :=
  if code == 0 then ['\uFFFD']
  else if 0x80 ≤ code && code ≤ 0x9F then [Char.ofNat (remapped.getD (code - 0x80) code)]
  else if (0xD800 ≤ code && code ≤ 0xDFFF) || code > 0x10FFFF then ['\uFFFD']
  else if isDropped code then []
  else [Char.ofNat code]

/-- The value of a hexadecimal digit, zero for any other character. -/
def hexValue (c : Char) : Nat :=
  if '0' ≤ c && c ≤ '9' then c.toNat - 48
  else if 'a' ≤ c && c ≤ 'f' then c.toNat - 87
  else if 'A' ≤ c && c ≤ 'F' then c.toNat - 55
  else 0

/-- Is this a hexadecimal digit? -/
def isHex (c : Char) : Bool :=
  ('0' ≤ c && c ≤ '9') || ('a' ≤ c && c ≤ 'f') || ('A' ≤ c && c ≤ 'F')

/-- The number some digits write. -/
def number (base : Nat) (digits : List Char) : Nat :=
  digits.foldl (fun value c => value * base + hexValue c) 0

/-- Without a semicolon at the front. -/
def dropSemicolon : List Char → List Char
  | ';' :: rest => rest
  | rest => rest

/-- May a character stand in the name of a reference? -/
def isNamePart (c : Char) : Bool :=
  !(['\t', '\n', '\x0c', ' ', '<', '&', '#', ';'].contains c)

/-- The first `limit` characters that qualify, and the rest. -/
def spanAtMost (keep : Char → Bool) : Nat → List Char → List Char × List Char
  | 0, rest => ([], rest)
  | _ + 1, [] => ([], [])
  | limit + 1, c :: rest =>
    if keep c then
      let (front, rest) := spanAtMost keep limit rest
      (c :: front, rest)
    else ([], c :: rest)

/-- The characters a name stands for when a semicolon closes it. -/
def ofName (name : List Char) : Option (List Char) :=
  (namedReferences.lookup (String.ofList name)).map (·.map Char.ofNat)

/-- The longest front part of a name that is known without a semicolon, with its rest. -/
def bareFront (name : List Char) : Nat → Option (List Char × List Char)
  | 0 | 1 => none
  | length + 1 =>
    let front := name.take (length + 1)
    if bareNames.contains (String.ofList front) then some (front, name.drop (length + 1))
    else bareFront name length

/-- What a named reference stands for; one that is unknown stands for its own text. -/
def expandName (name : List Char) (closed : Bool) : List Char :=
  let whole := if closed || bareNames.contains (String.ofList name) then ofName name else none
  match whole with
  | some text => text
  | none =>
    let tail := if closed then [';'] else []
    match bareFront name name.length with
    | some (front, rest) => (ofName front).getD [] ++ rest ++ tail
    | none => '&' :: name ++ tail

/-! ## References -/

/-- A reference as it is written. -/
inductive Reference where
  | hexadecimal (digits : List Char)
  | decimal (digits : List Char)
  /-- A name, with or without a semicolon behind it. -/
  | named (name : List Char) (closed : Bool)
  deriving DecidableEq, Repr, Inhabited

namespace Reference

/-- What a reference stands for. -/
def text : Reference → List Char
  | .hexadecimal digits => ofCode (number 16 digits)
  | .decimal digits => ofCode (number 10 digits)
  | .named name closed => expandName name closed

/-- The number of a reference that is too long to be read. Only decimal ones can be. -/
def overlong? : Reference → Option Number.Overlong
  | .decimal digits => Number.overlong? digits
  | _ => none

/-- What a reference stands for, if its number can be read. -/
def unescape (reference : Reference) : Except Number.Overlong (List Char) :=
  match reference.overlong? with
  | some overlong => .error overlong
  | none => .ok reference.text

end Reference

/-- Read the reference behind an ampersand, and the text after it. -/
def read : List Char → Option (Reference × List Char)
  | '#' :: 'x' :: rest | '#' :: 'X' :: rest =>
    let digits := rest.takeWhile isHex
    if digits.isEmpty then none
    else some (.hexadecimal digits, dropSemicolon (rest.dropWhile isHex))
  | '#' :: rest =>
    let isDigit := fun c => '0' ≤ c && c ≤ '9'
    let digits := rest.takeWhile isDigit
    if digits.isEmpty then none
    else some (.decimal digits, dropSemicolon (rest.dropWhile isDigit))
  | text =>
    let (name, rest) := spanAtMost isNamePart 32 text
    if name.isEmpty then none
    else
      match rest with
      | ';' :: rest => some (.named name true, rest)
      | _ => some (.named name false, rest)

/-! ## Texts -/

/-- A piece of a text: a character that stands for itself, or a reference. -/
inductive Piece where
  | plain (c : Char)
  | reference (written : Reference)
  deriving DecidableEq, Repr, Inhabited

namespace Piece

/-- What a piece stands for. -/
def text : Piece → List Char
  | .plain c => [c]
  | .reference written => written.text

/-- The number in a piece that is too long to be read. -/
def overlong? : Piece → Option Number.Overlong
  | .plain _ => none
  | .reference written => written.overlong?

/-- What a piece stands for, if the number in it can be read. -/
def unescape : Piece → Except Number.Overlong (List Char)
  | .plain c => .ok [c]
  | .reference written => written.unescape

end Piece

/-- The pieces of a text, at most `fuel` of them told apart; those before it are kept in reverse. -/
def piecesFrom : Nat → List Piece → List Char → List Piece
  | 0, before, rest => before.reverse ++ rest.map .plain
  | _ + 1, before, [] => before.reverse
  | fuel + 1, before, c :: rest =>
    if c == '&' then
      match read rest with
      | some (reference, rest) => piecesFrom fuel (.reference reference :: before) rest
      | none => piecesFrom fuel (.plain c :: before) rest
    else piecesFrom fuel (.plain c :: before) rest

/-- The pieces of a text. -/
def pieces (text : List Char) : List Piece := piecesFrom text.length [] text

/-- What a text stands for: each reference is replaced, however long its number is. -/
def decode (text : List Char) : List Char := (pieces text).flatMap Piece.text

/-- The first number in the references of a text that is too long to be read. -/
def overlong? (text : List Char) : Option Number.Overlong := (pieces text).findSome? Piece.overlong?

/-- Replace every reference of a text, up to the first whose number cannot be read. -/
def unescape (text : List Char) : Except Number.Overlong (List Char) :=
  List.flatten <$> (pieces text).mapM Piece.unescape

theorem Piece.unescape_eq (piece : Piece) :
    piece.unescape = match piece.overlong? with
      | some overlong => .error overlong
      | none => .ok piece.text := by
  cases piece <;> rfl

theorem mapM_unescape (pieces : List Piece) :
    pieces.mapM Piece.unescape = match pieces.findSome? Piece.overlong? with
      | some overlong => .error overlong
      | none => .ok (pieces.map Piece.text) := by
  induction pieces with
  | nil => rfl
  | cons piece rest inductionHypothesis =>
      rw [List.mapM_cons, Piece.unescape_eq, List.findSome?_cons, inductionHypothesis]
      cases piece.overlong? with
      | some overlong => rfl
      | none => cases rest.findSome? Piece.overlong? <;> rfl

/-- A text is replaced by what it stands for, unless a number in it is too long. -/
theorem unescape_eq (text : List Char) :
    unescape text = match overlong? text with
      | some overlong => .error overlong
      | none => .ok (decode text) := by
  rw [unescape, mapM_unescape, overlong?, decode, List.flatMap_def]
  cases (pieces text).findSome? Piece.overlong? <;> rfl

theorem unescape_eq_ok {text replaced : List Char} :
    unescape text = .ok replaced ↔ overlong? text = none ∧ decode text = replaced := by
  rw [unescape_eq]
  cases overlong? text <;> simp

theorem unescape_eq_error {text : List Char} {overlong : Number.Overlong} :
    unescape text = .error overlong ↔ overlong? text = some overlong := by
  rw [unescape_eq]
  cases overlong? text <;> simp

/-- Only a number with more digits than are read is too long. -/
theorem maxDigits_lt_of_overlong? {text : List Char} {overlong : Number.Overlong}
    (found : overlong? text = some overlong) : Number.maxDigits < overlong.digits := by
  obtain ⟨piece, _, found⟩ := List.exists_of_findSome?_eq_some found
  cases piece with
  | plain c => cases found
  | reference written =>
      cases written with
      | hexadecimal digits => cases found
      | decimal digits => exact Number.maxDigits_lt_of_overlong? found
      | named name closed => cases found

end Lectern.Text.References
