/-
Module: Lectern.Text.Quoted
Purpose: Text as a string literal that JSON and JavaScript both read, in ASCII alone or with other
  characters left as they are; and text as it is shown in messages.
Main exports: Quoted.ascii, Quoted.plain, Quoted.script, Quoted.shown
-/
import Lectern.Text.Printable

namespace Lectern.Text.Quoted

/-- A hexadecimal digit in lower case. -/
def hexDigit (value : Nat) : Char :=
  if value < 10 then Char.ofNat (48 + value) else Char.ofNat (87 + value)

/-- A sixteen-bit unit as an escape of four hexadecimal digits. -/
def unit (value : Nat) : List Char :=
  ['\\', 'u', hexDigit (value / 4096 % 16), hexDigit (value / 256 % 16),
    hexDigit (value / 16 % 16), hexDigit (value % 16)]

/-- The escape of a character by its code, two units beyond the first plane. -/
def escape (c : Char) : List Char :=
  let code := c.toNat
  if code < 0x10000 then unit code
  else unit (0xD800 + (code - 0x10000) / 1024) ++ unit (0xDC00 + (code - 0x10000) % 1024)

/-- The escape a character has whatever the range of the literal. -/
def shortEscape (c : Char) : Option (List Char) :=
  match c with
  | '\x22' => some ['\\', '\x22']
  | '\\' => some ['\\', '\\']
  | '\n' => some ['\\', 'n']
  | '\r' => some ['\\', 'r']
  | '\t' => some ['\\', 't']
  | '\x08' => some ['\\', 'b']
  | '\x0c' => some ['\\', 'f']
  | _ => none

/-- A character of an ASCII literal. -/
def asciiChar (c : Char) : List Char :=
  match shortEscape c with
  | some text => text
  | none => if ' ' ≤ c && c ≤ '~' then [c] else escape c

/-- A character of a literal that only escapes quotes, backslashes and control characters. -/
def plainChar (c : Char) : List Char :=
  match shortEscape c with
  | some text => text
  | none => if c < ' ' then escape c else [c]

/-- A literal between quotes. -/
def wrap (body : List Char) : String :=
  String.ofList ('\x22' :: body ++ ['\x22'])

/-- A string literal in ASCII. -/
def ascii (text : List Char) : String := wrap (text.flatMap asciiChar)

/-- A string literal that keeps what it can. -/
def plain (text : List Char) : String := wrap (text.flatMap plainChar)

/-! ## Literals inside of a page -/

/-- A character of an ASCII literal that stands inside of a page. -/
def scriptChar (c : Char) : List Char :=
  if c == '<' || c == '>' || c == '&' || c == '\'' then unit c.toNat else asciiChar c

/-- A string literal in ASCII that no page takes for markup. -/
def script (text : List Char) : String := wrap (text.flatMap scriptChar)

/-! ## Text in messages -/

/-- The last digits of a code in hexadecimal. -/
def hexDigits (count code : Nat) : List Char :=
  (List.range count).reverse.map fun place => hexDigit (code / Nat.pow 16 place % 16)

/-- A character of text that is shown between `quote`s: what does not print is given by its code. -/
def shownChar (quote c : Char) : List Char :=
  if c == quote || c == '\\' then ['\\', c]
  else if c == '\n' then ['\\', 'n']
  else if c == '\r' then ['\\', 'r']
  else if c == '\t' then ['\\', 't']
  else if isPrintable c then [c]
  else if c.toNat < 0x100 then ['\\', 'x'] ++ hexDigits 2 c.toNat
  else if c.toNat < 0x10000 then ['\\', 'u'] ++ hexDigits 4 c.toNat
  else ['\\', 'U'] ++ hexDigits 8 c.toNat

/-- Text between single quotes, or double ones if it holds single quotes alone. -/
def shown (text : List Char) : String :=
  let quote := if text.contains '\'' && !text.contains '\x22' then '\x22' else '\''
  String.ofList (quote :: text.flatMap (shownChar quote) ++ [quote])

end Lectern.Text.Quoted
