/-
Module: Lectern.Digest.Encoding
Purpose: Bytes written as text: hexadecimal digits and base 64.
Main exports: hex, base64, sourceHash, integrity
-/
import Lectern.Digest.Sha256
import Lectern.Digest.Sha384
import Lectern.Text.Quoted

namespace Lectern.Digest

/-- Bytes as hexadecimal digits in lower case. -/
def hex (bytes : List UInt8) : String :=
  String.ofList (bytes.flatMap fun byte =>
    [Text.Quoted.hexDigit (byte.toNat / 16), Text.Quoted.hexDigit (byte.toNat % 16)])

/-- The character that stands for six bits. -/
def base64Digit (value : Nat) : Char :=
  if value < 26 then Char.ofNat (65 + value)
  else if value < 52 then Char.ofNat (71 + value)
  else if value < 62 then Char.ofNat (value - 4)
  else if value == 62 then '+' else '/'

/-- Bytes in base 64, three to four characters, padded with equals signs. -/
def base64Chars : List UInt8 → List Char
  | [] => []
  | [a] =>
    let value := a.toNat * 16
    [base64Digit (value / 64 % 64), base64Digit (value % 64), '=', '=']
  | [a, b] =>
    let value := (a.toNat * 256 + b.toNat) * 4
    [base64Digit (value / 4096 % 64), base64Digit (value / 64 % 64), base64Digit (value % 64), '=']
  | a :: b :: c :: rest =>
    let value := (a.toNat * 256 + b.toNat) * 256 + c.toNat
    base64Digit (value / 262144 % 64) :: base64Digit (value / 4096 % 64) ::
      base64Digit (value / 64 % 64) :: base64Digit (value % 64) :: base64Chars rest

/-- Bytes in base 64. -/
def base64 (bytes : List UInt8) : String := String.ofList (base64Chars bytes)

/-- The hash that identifies a source text. -/
def sourceHash (text : String) : String := hex (Sha256.digest text.toUTF8)

/-- The integrity value of a module text, as a browser checks it. -/
def integrity (text : String) : String := "sha384-" ++ base64 (Sha384.digest text.toUTF8)

end Lectern.Digest
