/-
Module: Lectern.Syntax.Lexeme
Purpose: Where a lexeme that starts at a byte offset ends: white space, comments, words, numbers,
  quoted text, regular expressions and character references. Which lexeme is looked for at a place
  is the grammar's choice, since one text reads differently in different places.
Main exports: skipTrivia, wordStop, numberStop, stringStop, regexStop, referenceStop
-/
import Lectern.Text.Utf8

namespace Lectern.Syntax.Lexeme

open Lectern.Text.Utf8

/-- Is there this ASCII character at an offset? -/
@[inline] def at? (source : ByteArray) (offset : Nat) (c : Char) : Bool :=
  (byteAt source offset).toNat == c.toNat && offset < source.size

/-- Do these ASCII characters stand at an offset? -/
def startsWith (source : ByteArray) : Nat → List Char → Bool
  | _, [] => true
  | offset, c :: rest => at? source offset c && startsWith source (offset + 1) rest

/-- The first offset from here whose byte does not qualify, at most `fuel` bytes on. -/
def skipWhile (source : ByteArray) (keep : UInt8 → Bool) : Nat → Nat → Nat
  | 0, offset => offset
  | fuel + 1, offset =>
    if offset < source.size && keep (byteAt source offset) then
      skipWhile source keep fuel (offset + 1)
    else offset

/-- The first offset from here whose byte does not qualify. -/
def spanStop (source : ByteArray) (keep : UInt8 → Bool) (offset : Nat) : Nat :=
  skipWhile source keep (source.size - offset) offset

/-! ## White space and comments -/

/-- The width of the white space character at an offset, zero when there is none. -/
def spaceWidth (source : ByteArray) (offset : Nat) : Nat :=
  let first := byteAt source offset
  if offset ≥ source.size then 0
  else if first == 0x20 || (0x09 ≤ first && first ≤ 0x0D) then 1
  else if first < 0xC2 then 0
  else
    let second := byteAt source (offset + 1)
    let third := byteAt source (offset + 2)
    if first == 0xC2 && second == 0xA0 then 2
    else if first == 0xE1 && second == 0x9A && third == 0x80 then 3
    else if first == 0xE2 && second == 0x80 &&
        (0x80 ≤ third && third ≤ 0x8B || third == 0xA8 || third == 0xA9 || third == 0xAF) then 3
    else if first == 0xE2 && second == 0x81 && (third == 0x9F || third == 0xA0) then 3
    else if first == 0xE3 && second == 0x80 && third == 0x80 then 3
    else if first == 0xEF && second == 0xBB && third == 0xBF then 3
    else 0

/-- Does a line comment end before this byte? -/
def endsLine (source : ByteArray) (offset : Nat) : Bool :=
  let first := byteAt source offset
  first == 0x0A || first == 0x0D ||
    (first == 0xE2 && byteAt source (offset + 1) == 0x80 &&
      (byteAt source (offset + 2) == 0xA8 || byteAt source (offset + 2) == 0xA9))

/-- The end of a line comment whose marker has been read. -/
def lineStop (source : ByteArray) : Nat → Nat → Nat
  | 0, offset => offset
  | fuel + 1, offset =>
    if offset < source.size && !endsLine source offset then lineStop source fuel (offset + 1)
    else offset

/-- The end of a block comment whose opening marker has been read. -/
def blockStop (source : ByteArray) : Nat → Nat → Option Nat
  | 0, _ => none
  | fuel + 1, offset =>
    if offset ≥ source.size then none
    else if at? source offset '*' && at? source (offset + 1) '/' then some (offset + 2)
    else blockStop source fuel (offset + 1)

/-- The end of the comment that starts at an offset. -/
def commentStop (source : ByteArray) (offset : Nat) : Option Nat :=
  if at? source offset '/' then
    if at? source (offset + 1) '/' then
      some (lineStop source (source.size - offset) (offset + 2))
    else if at? source (offset + 1) '*' then
      blockStop source (source.size - offset) (offset + 2)
    else none
  else none

/-- Skip white space only. -/
def skipSpaceWith (source : ByteArray) : Nat → Nat → Nat
  | 0, offset => offset
  | fuel + 1, offset =>
    let width := spaceWidth source offset
    if width == 0 then offset else skipSpaceWith source fuel (offset + width)

/-- The first offset from here that is not white space. -/
def skipSpace (source : ByteArray) (offset : Nat) : Nat :=
  skipSpaceWith source (source.size - offset) offset

/-- Skip white space and comments. -/
def skipTriviaWith (source : ByteArray) : Nat → Nat → Nat
  | 0, offset => offset
  | fuel + 1, offset =>
    let next := skipSpace source offset
    match commentStop source next with
    | some stop => skipTriviaWith source fuel stop
    | none => next

/-- The first offset from here that is neither white space nor in a comment. -/
def skipTrivia (source : ByteArray) (offset : Nat) : Nat :=
  skipTriviaWith source (source.size - offset + 1) offset

/-- The comments between two offsets. -/
def commentsWith (source : ByteArray) (stop : Nat) : Nat → Nat → List (Nat × Nat)
  | 0, _ => []
  | fuel + 1, offset =>
    let next := skipSpace source offset
    if next ≥ stop then []
    else
      match commentStop source next with
      | some after => (next, after) :: commentsWith source stop fuel after
      | none => []

/-- The comments in a gap between two tokens. -/
def commentsBetween (source : ByteArray) (start stop : Nat) : List (Nat × Nat) :=
  if start ≥ stop then [] else commentsWith source stop (stop - start) start

/-- Is there a line break in the white space of a gap, comments not counted? -/
def breaksLineWith (source : ByteArray) (stop : Nat) : Nat → Nat → Bool
  | 0, _ => false
  | fuel + 1, offset =>
    if offset ≥ stop then false
    else if at? source offset '\n' then true
    else
      match commentStop source offset with
      | some after => breaksLineWith source stop fuel after
      | none => breaksLineWith source stop fuel (offset + 1)

/-- Does the gap between two tokens hold a line break outside its comments? -/
def breaksLine (source : ByteArray) (start stop : Nat) : Bool :=
  breaksLineWith source stop (stop - start) start

/-! ## Words -/

/-- May an ASCII byte stand in a word after its first place? -/
def isWordByte (byte : UInt8) : Bool :=
  (0x61 ≤ byte && byte ≤ 0x7A) || (0x41 ≤ byte && byte ≤ 0x5A) || (0x30 ≤ byte && byte ≤ 0x39) ||
    byte == 0x5F || byte == 0x24 || byte == 0x7F

/-- Is this a decimal digit? -/
def isDigit (byte : UInt8) : Bool := 0x30 ≤ byte && byte ≤ 0x39

/-- Is this a hexadecimal digit? -/
def isHexDigit (byte : UInt8) : Bool :=
  isDigit byte || (0x61 ≤ byte && byte ≤ 0x66) || (0x41 ≤ byte && byte ≤ 0x46)

/-- The width of the Unicode escape at an offset, zero when there is none. -/
def unicodeEscapeWidth (source : ByteArray) (offset : Nat) : Nat :=
  if at? source offset '\\' && at? source (offset + 1) 'u' then
    if at? source (offset + 2) '{' then
      let stop := spanStop source isHexDigit (offset + 3)
      if stop > offset + 3 && at? source stop '}' then stop + 1 - offset else 0
    else if skipWhile source isHexDigit 4 (offset + 2) == offset + 6 then 6
    else 0
  else 0

/-- The width of the character that continues a word at an offset, zero when none does. -/
def wordPartWidth (source : ByteArray) (offset : Nat) : Nat :=
  let first := byteAt source offset
  if offset ≥ source.size then 0
  else if isWordByte first then 1
  else if first ≥ 0x80 then
    if spaceWidth source offset != 0 then 0
    else if first < 0xE0 then 2
    else if first < 0xF0 then 3
    else 4
  else unicodeEscapeWidth source offset

/-- The end of a run of word characters. -/
def wordPartsStop (source : ByteArray) : Nat → Nat → Nat
  | 0, offset => offset
  | fuel + 1, offset =>
    let width := wordPartWidth source offset
    if width == 0 then offset else wordPartsStop source fuel (offset + width)

/-- The end of the word that starts at an offset; the offset itself when no word does. -/
def wordStop (source : ByteArray) (offset : Nat) : Nat :=
  if isDigit (byteAt source offset) then offset
  else wordPartsStop source (source.size - offset) offset

/-- The end of an element or attribute name: a word that may also hold hyphens. -/
def tagWordStop (source : ByteArray) (offset : Nat) : Nat :=
  let isTagByte := fun byte => byte != 0x7F && isWordByte byte
  let plain := wordStop source offset
  let ascii := spanStop source isTagByte offset
  if plain > offset && ascii == plain && at? source ascii '-' then
    spanStop source (fun byte => isTagByte byte || byte == 0x2D) ascii
  else plain

/-! ## Numbers -/

/-- The end of digits of a kind that single underscores may part. -/
def digitsStop (source : ByteArray) (digit : UInt8 → Bool) : Nat → Nat → Nat
  | 0, offset => offset
  | fuel + 1, offset =>
    if digit (byteAt source offset) then digitsStop source digit fuel (offset + 1)
    else if at? source offset '_' && digit (byteAt source (offset + 1)) then
      digitsStop source digit fuel (offset + 2)
    else offset

/-- The end of a decimal exponent, or the offset itself when there is none. -/
def exponentStop (source : ByteArray) (offset : Nat) : Nat :=
  if at? source offset 'e' || at? source offset 'E' then
    let digits := if at? source (offset + 1) '+' || at? source (offset + 1) '-'
      then offset + 2 else offset + 1
    let stop := digitsStop source isDigit (source.size - digits) digits
    if isDigit (byteAt source digits) then stop else offset
  else offset

/-- The end of the number that starts at an offset. -/
def numberStop (source : ByteArray) (offset : Nat) : Option Nat :=
  let run := fun digit start => digitsStop source digit (source.size - start) start
  let bigStop := fun stop => if at? source stop 'n' then stop + 1 else stop
  let based := fun (digit : UInt8 → Bool) =>
    if digit (byteAt source (offset + 2)) then some (bigStop (run digit (offset + 2)))
    else some (offset + 1)
  if at? source offset '.' then
    if isDigit (byteAt source (offset + 1)) then
      some (exponentStop source (run isDigit (offset + 1)))
    else none
  else if !isDigit (byteAt source offset) then none
  else if at? source offset '0' && (at? source (offset + 1) 'x' || at? source (offset + 1) 'X') then
    based isHexDigit
  else if at? source offset '0' && (at? source (offset + 1) 'o' || at? source (offset + 1) 'O') then
    based fun byte => 0x30 ≤ byte && byte ≤ 0x37
  else if at? source offset '0' && (at? source (offset + 1) 'b' || at? source (offset + 1) 'B') then
    based fun byte => byte == 0x30 || byte == 0x31
  else
    let whole := run isDigit offset
    if at? source whole 'n' then some (whole + 1)
    else if at? source whole '.' then
      some (exponentStop source (run isDigit (whole + 1)))
    else some (exponentStop source whole)

/-! ## Quoted text -/

/-- The width of the escape at a backslash, zero when it is no escape. -/
def escapeWidth (source : ByteArray) (offset : Nat) : Nat :=
  if offset + 1 ≥ source.size then 0
  else if at? source (offset + 1) 'x' then
    if skipWhile source isHexDigit 2 (offset + 2) == offset + 4 then 4 else 0
  else if at? source (offset + 1) 'u' then unicodeEscapeWidth source offset
  else if at? source (offset + 1) '\r' && at? source (offset + 2) '\n' then 3
  else 2

/-- The end of a string that `quote` closes, its opening quote read. -/
def stringRest (source : ByteArray) (quote : UInt8) : Nat → Nat → Option Nat
  | 0, _ => none
  | fuel + 1, offset =>
    let byte := byteAt source offset
    if offset ≥ source.size || byte == 0x0A || byte == 0x0D then none
    else if byte == quote then some (offset + 1)
    else if byte == 0x5C then
      let width := escapeWidth source offset
      if width == 0 then none else stringRest source quote fuel (offset + width)
    else stringRest source quote fuel (offset + 1)

/-- The end of the string literal that starts at an offset. -/
def stringStop (source : ByteArray) (offset : Nat) : Option Nat :=
  let quote := byteAt source offset
  if quote == 0x22 || quote == 0x27 then
    stringRest source quote (source.size - offset) (offset + 1)
  else none

/-- Where the literal text of a template ends: at its closing mark or before a substitution. -/
def templateTextStop (source : ByteArray) : Nat → Nat → Option Nat
  | 0, _ => none
  | fuel + 1, offset =>
    let byte := byteAt source offset
    if offset ≥ source.size then none
    else if byte == 0x60 || (byte == 0x24 && at? source (offset + 1) '{') then some offset
    else if byte == 0x5C then
      let width := escapeWidth source offset
      if width == 0 then none else templateTextStop source fuel (offset + width)
    else templateTextStop source fuel (offset + 1)

/-- The end of a regular expression's pattern, its opening slash read. -/
def patternStop (source : ByteArray) (inClass : Bool) : Nat → Nat → Option Nat
  | 0, _ => none
  | fuel + 1, offset =>
    let byte := byteAt source offset
    if offset ≥ source.size || byte == 0x0A then none
    else if byte == 0x5C then
      if at? source (offset + 1) '\n' || offset + 1 ≥ source.size then none
      else patternStop source inClass fuel (offset + 2)
    else if inClass then patternStop source (byte != 0x5D) fuel (offset + 1)
    else if byte == 0x2F then some offset
    else patternStop source (byte == 0x5B) fuel (offset + 1)

/-- The end of the regular expression literal that starts at an offset. -/
def regexStop (source : ByteArray) (offset : Nat) : Option Nat :=
  match patternStop source false (source.size - offset) (offset + 1) with
  | some slash =>
    if slash == offset + 1 then none
    else some (spanStop source (fun byte => 0x61 ≤ byte && byte ≤ 0x7A) (slash + 1))
  | none => none

/-! ## Markup text -/

/-- Is this an ASCII letter? -/
def isLetter (byte : UInt8) : Bool :=
  (0x61 ≤ byte && byte ≤ 0x7A) || (0x41 ≤ byte && byte ≤ 0x5A)

/-- The end of the character reference at an ampersand: at most five decimal digits, six
hexadecimal digits or thirty letters, and a semicolon. -/
def referenceStop (source : ByteArray) (offset : Nat) : Option Nat :=
  let closed := fun (start stop : Nat) =>
    if stop > start && at? source stop ';' then some (stop + 1) else none
  if !at? source offset '&' then none
  else if at? source (offset + 1) '#' then
    if at? source (offset + 2) 'x' || at? source (offset + 2) 'X' then
      closed (offset + 3) (skipWhile source isHexDigit 6 (offset + 3))
    else closed (offset + 2) (skipWhile source isDigit 5 (offset + 2))
  else closed (offset + 1) (skipWhile source isLetter 30 (offset + 1))

/-- The end of an attribute's quoted value, its opening quote read: no escapes, and an ampersand
before a letter or a number sign starts a character reference. -/
def attributeRest (source : ByteArray) (quote : UInt8) : Nat → Nat → Option Nat
  | 0, _ => none
  | fuel + 1, offset =>
    let byte := byteAt source offset
    if offset ≥ source.size then none
    else if byte == quote then some (offset + 1)
    else if byte == 0x26 then
      match referenceStop source offset with
      | some stop => attributeRest source quote fuel stop
      | none =>
        let next := byteAt source (offset + 1)
        if isLetter next || next == 0x23 then none else attributeRest source quote fuel (offset + 2)
    else attributeRest source quote fuel (offset + 1)

/-- The end of the quoted attribute value that starts at an offset. -/
def attributeStop (source : ByteArray) (offset : Nat) : Option Nat :=
  let quote := byteAt source offset
  if quote == 0x22 || quote == 0x27 then
    attributeRest source quote (source.size - offset) (offset + 1)
  else none

/-- Where text between tags stops: before a tag, an expression or the end. A stray angle bracket,
brace or ampersand is no text. -/
def markupTextStop (source : ByteArray) : Nat → Nat → Option Nat
  | 0, offset => some offset
  | fuel + 1, offset =>
    let byte := byteAt source offset
    if offset ≥ source.size || byte == 0x3C || byte == 0x7B then some offset
    else if byte == 0x3E || byte == 0x7D then none
    else if byte == 0x26 then
      match referenceStop source offset with
      | some stop => markupTextStop source fuel stop
      | none => none
    else markupTextStop source fuel (offset + 1)

end Lectern.Syntax.Lexeme
