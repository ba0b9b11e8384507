/-
Module: Lectern.Text.Identifier
Purpose: Numbers with 128 bits as identifiers.
Main exports: Identifier.plain, Identifier.grouped
-/
import Lectern.Text.Quoted

namespace Lectern.Identifier

/-- The 32 hexadecimal digits of a number with 128 bits. -/
def digits (number : Nat) : List Char := Text.Quoted.hexDigits 32 number

/-- A number as an identifier: its digits. -/
def plain (number : Nat) : String := String.ofList (digits number)

/-- A number as an identifier whose digits stand in five groups. -/
def grouped (number : Nat) : String :=
  let group (start count : Nat) := String.ofList (((digits number).drop start).take count)
  "-".intercalate [group 0 8, group 8 4, group 12 4, group 16 4, group 20 12]

end Lectern.Identifier
