/-
Module: Lectern.Text.Blank
Purpose: White space and line ends over all scripts.
Main exports: isBlank, trim, trimRight, splitOn, firstLine, withPlainLineEnds
-/

namespace Lectern.Text

/-- White space: blanks, tabs, line and paragraph ends and separators of all scripts. -/
def isBlank (c : Char) : Bool :=
  let code := c.toNat
  (0x09 ≤ code && code ≤ 0x0D) || (0x1C ≤ code && code ≤ 0x20) || code == 0x85 || code == 0xA0 ||
    code == 0x1680 || (0x2000 ≤ code && code ≤ 0x200A) || code == 0x2028 || code == 0x2029 ||
    code == 0x202F || code == 0x205F || code == 0x3000

/-- Without the characters of a kind at the end. -/
def dropEndWhile (drop : Char → Bool) (text : List Char) : List Char :=
  (text.reverse.dropWhile drop).reverse

/-- Without the characters of a kind at either end. -/
def trimWhile (drop : Char → Bool) (text : List Char) : List Char :=
  dropEndWhile drop (text.dropWhile drop)

/-- Without white space at the end. -/
def trimRight (text : List Char) : List Char := dropEndWhile isBlank text

/-- Without white space at either end. -/
def trim (text : List Char) : List Char := trimWhile isBlank text

/-- The pieces between separators, the current piece kept in reverse. -/
def splitFrom (isSeparator : Char → Bool) : List Char → List Char → List (List Char)
  | piece, [] => [piece.reverse]
  | piece, c :: rest =>
    if isSeparator c then piece.reverse :: splitFrom isSeparator [] rest
    else splitFrom isSeparator (c :: piece) rest

/-- The pieces between separators; there is always at least one. -/
def splitOn (isSeparator : Char → Bool) (text : List Char) : List (List Char) :=
  splitFrom isSeparator [] text

/-- Does a line of text end here? -/
def isLineEnd (c : Char) : Bool :=
  let code := c.toNat
  (0x0A ≤ code && code ≤ 0x0D) || (0x1C ≤ code && code ≤ 0x1E) || code == 0x85 ||
    code == 0x2028 || code == 0x2029

/-- A text in which every line ends the same way. -/
def withPlainLineEnds (text : List Char) : List Char :=
  if text.contains '\r' then unify text else text
where
  /-- A text without carriage returns. -/
  unify : List Char → List Char
    | '\r' :: '\n' :: rest => '\n' :: unify rest
    | '\r' :: rest => '\n' :: unify rest
    | c :: rest => c :: unify rest
    | [] => []

/-- The first line of a text, without its end. -/
def firstLine (text : List Char) : List Char := text.takeWhile fun c => !isLineEnd c

end Lectern.Text
