/-
Module: Lectern.Yaml.Cursor
Purpose: A place in a text, with its line and column, and what can be seen from there.
Main exports: Fault, Cursor, Cursor.forward, Cursor.takeWhile, Cursor.lineBreak?,
  Cursor.atDocumentMark
-/

namespace Lectern.Yaml

/-- Why a text gives no value. -/
inductive Fault where
  /-- The text is not well-formed. -/
  | malformed
  /-- The text is well-formed, but one of its scalars has no value. -/
  | unfit (kind message : String)
  deriving DecidableEq, Repr, Inhabited

/-- Does a line end with this character? -/
def isBreak (c : Char) : Bool :=
  c == '\n' || c == '\r' || c == '\x85' || c == '\u2028' || c == '\u2029'

/-- Is there nothing, or a character of some kind? -/
def endOr (test : Char → Bool) : Option Char → Bool
  | none => true
  | some c => test c

/-- Is there a character of some kind? -/
def someOf (test : Char → Bool) : Option Char → Bool
  | none => false
  | some c => test c

/-- A blank, a tab or the end of a line. -/
def isGap (c : Char) : Bool := c == ' ' || c == '\t' || isBreak c

/-- A blank or the end of a line. -/
def isBlankOrBreak (c : Char) : Bool := c == ' ' || isBreak c

/-- An ASCII letter or digit, a hyphen or an underscore. -/
def isNameChar (c : Char) : Bool := c.isAlphanum || c == '-' || c == '_'

/-- What is left of a text, and where that starts. -/
structure Cursor where
  rest : List Char
  index : Nat := 0
  line : Nat := 0
  column : Nat := 0
  deriving DecidableEq, Repr, Inhabited

namespace Cursor

/-- The next character. -/
def next? (cursor : Cursor) : Option Char := cursor.rest.head?

/-- The character some places further on. -/
def ahead? (cursor : Cursor) (places : Nat) : Option Char := cursor.rest[places]?

/-- Past one character. -/
def forward (cursor : Cursor) : Cursor :=
  match cursor.rest with
  | [] => cursor
  | c :: rest =>
    if isBreak c then ⟨rest, cursor.index + 1, cursor.line + 1, 0⟩
    else ⟨rest, cursor.index + 1, cursor.line,
      if c == '\uFEFF' then cursor.column else cursor.column + 1⟩

/-- Past some characters. -/
def skip : Nat → Cursor → Cursor
  | 0, cursor => cursor
  | count + 1, cursor => skip count cursor.forward

/-- The characters of a kind that come next, and the place behind them. -/
def takeWhile (test : Char → Bool) (cursor : Cursor) : List Char × Cursor :=
  let taken := cursor.rest.takeWhile test
  (taken, cursor.skip taken.length)

/-- Past the characters of a kind. -/
def dropWhile (test : Char → Bool) (cursor : Cursor) : Cursor := (cursor.takeWhile test).2

/-- The end of a line, if one comes next: most of them count as the same. -/
def lineBreak? (cursor : Cursor) : Option (Char × Cursor) :=
  match cursor.rest with
  | '\r' :: '\n' :: _ => some ('\n', cursor.skip 2)
  | c :: _ =>
    if c == '\u2028' || c == '\u2029' then some (c, cursor.forward)
    else if isBreak c then some ('\n', cursor.forward)
    else none
  | [] => none

/-- Do three hyphens or three dots come next, with a gap behind them? -/
def atMark (mark : Char) (cursor : Cursor) : Bool :=
  cursor.rest.take 3 == [mark, mark, mark] && endOr isGap (cursor.ahead? 3)

/-- Does a mark between documents come next? -/
def atDocumentMark (cursor : Cursor) : Bool := cursor.atMark '-' || cursor.atMark '.'

/-- Past a comment, which leaves the end of its line. -/
def skipComment (cursor : Cursor) : Cursor :=
  if cursor.next? == some '#' then cursor.dropWhile fun c => !isBreak c else cursor

/-- Past blanks and a comment up to the end of the line, which must come then. -/
def restOfLine (cursor : Cursor) : Except Fault Cursor :=
  let cursor := (cursor.dropWhile (· == ' ')).skipComment
  match cursor.lineBreak? with
  | some (_, behind) => .ok behind
  | none => if cursor.rest.isEmpty then .ok cursor else .error .malformed

end Cursor

end Lectern.Yaml
