/-
Module: Lectern.Text.Utf8
Purpose: Text as UTF-8 bytes: slices by byte offset, and reading bytes that need not be valid.
Main exports: Utf8.slice, Utf8.byteAt, Utf8.readLossy, Utf8.read
-/

namespace Lectern.Text.Utf8

/-- The byte at an offset, zero past the end. -/
@[inline] def byteAt (bytes : ByteArray) (offset : Nat) : UInt8 :=
  if h : offset < bytes.size then bytes[offset] else 0

/-- The bytes from `start` up to `stop`. -/
@[inline] def slice (bytes : ByteArray) (start stop : Nat) : ByteArray :=
  bytes.extract start stop

/-- The replacement character that stands for bytes that are no text. -/
def replacement : Char := '\uFFFD'

/-- The range a second byte must lie in after a lead byte, and how many bytes follow the lead. -/
def continuation (lead : UInt8) : Option (Nat × UInt8 × UInt8) :=
  if lead < 0xC2 then none
  else if lead < 0xE0 then some (1, 0x80, 0xBF)
  else if lead == 0xE0 then some (2, 0xA0, 0xBF)
  else if lead == 0xED then some (2, 0x80, 0x9F)
  else if lead < 0xF0 then some (2, 0x80, 0xBF)
  else if lead == 0xF0 then some (3, 0x90, 0xBF)
  else if lead < 0xF4 then some (3, 0x80, 0xBF)
  else if lead == 0xF4 then some (3, 0x80, 0x8F)
  else none

/--
Read the bytes after a lead byte: the code point so far, how many bytes are still due, and the
range for the next one. Answers the character and the rest, or the rest at the first byte that
does not belong.
-/
def readTail : Nat → UInt8 → UInt8 → Nat → List UInt8 → Option Char × List UInt8
  | 0, _, _, code, rest => (some (Char.ofNat code), rest)
  | _ + 1, _, _, _, [] => (none, [])
  | due + 1, low, high, code, byte :: rest =>
    if low ≤ byte && byte ≤ high then
      readTail due 0x80 0xBF (code * 64 + (byte.toNat - 0x80)) rest
    else (none, byte :: rest)

/-- Read characters, at most `fuel` of them; a maximal broken piece becomes one replacement. -/
def readChars : Nat → List UInt8 → List Char
  | 0, _ => []
  | _ + 1, [] => []
  | fuel + 1, byte :: rest =>
    if byte < 0x80 then Char.ofNat byte.toNat :: readChars fuel rest
    else
      match continuation byte with
      | none => replacement :: readChars fuel rest
      | some (due, low, high) =>
        let payload := byte.toNat % (if due == 1 then 32 else if due == 2 then 16 else 8)
        match readTail due low high payload rest with
        | (some c, rest) => c :: readChars fuel rest
        | (none, rest) => replacement :: readChars fuel rest

/-- Read bytes as text; what is not valid UTF-8 becomes replacement characters. -/
def readLossy (bytes : ByteArray) : String :=
  String.ofList (readChars bytes.size bytes.toList)

/-- Read bytes as text, with the valid case at hand without a second pass. -/
def read (bytes : ByteArray) : String :=
  match String.fromUTF8? bytes with
  | some text => text
  | none => readLossy bytes

end Lectern.Text.Utf8
