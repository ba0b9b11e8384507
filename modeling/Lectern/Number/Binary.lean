/-
Module: Lectern.Number.Binary
Purpose: A floating-point number as what it stands for: a whole number times a power of two. From that
  its text with a fixed count of decimal places is made: the exact value is rounded, and a half goes to
  the even neighbour. And how long a whole number may be that is read from text.
Main exports: Binary, Binary.ofFloat, ofDecimal, twoToThe, roundToEven, fixed, Overlong, overlong?
-/

namespace Lectern.Number

/-- A finite number `mantissa * 2 ^ exponent` with a sign, or what is no finite number. -/
inductive Binary where
  | finite (negative : Bool) (mantissa : Nat) (exponent : Int)
  | infinite (negative : Bool)
  | notANumber
  deriving DecidableEq, Repr, Inhabited

/-- What a floating-point number stands for, read off its bits. -/
def Binary.ofFloat (x : Float) : Binary :=
  let bits : Nat := x.toBits.toNat
  let negative := bits / Nat.pow 2 63 == 1
  let biased : Nat := bits / Nat.pow 2 52 % Nat.pow 2 11
  let fraction : Nat := bits % Nat.pow 2 52
  if biased == 2047 then (if fraction == 0 then .infinite negative else .notANumber)
  else if biased == 0 then .finite negative fraction (-1074)
  else .finite negative (Nat.pow 2 52 + fraction) (Int.ofNat biased - 1075)

/-- The numerator and denominator of `2 ^ exponent`. -/
def powerOfTwo (exponent : Int) : Nat × Nat :=
  (Nat.pow 2 exponent.toNat, Nat.pow 2 (-exponent).toNat)

/-- The number nearest to `digits * 10 ^ exponent`. Exponents so large or small that the digits do
not matter are told apart first. -/
def ofDecimal (digits : Nat) (exponent : Int) : Float :=
  let magnitude : Int := (Nat.log2 digits : Int) * 3 / 10 + exponent
  if digits == 0 || magnitude < -400 then 0.0
  else if magnitude > 400 then 1.0 / 0.0
  else if exponent < 0 then Float.ofScientific digits true (-exponent).toNat
  else Float.ofScientific digits false exponent.toNat

/-- A power of two, put together from its bits: zero where it is smaller than every positive
floating-point number, and infinite where it is larger. -/
def twoToThe (power : Int) : Float :=
  let bits : Nat :=
    if power < -1074 then 0
    else if power < -1022 then Nat.pow 2 (power + 1074).toNat
    else Nat.pow 2 52 * (min power 1024 + 1023).toNat
  Float.ofBits (UInt64.ofNat bits)

/-! ## Decimal places -/

/-- A quotient rounded to a whole number, a half to the even neighbour. -/
def roundToEven (numerator denominator : Nat) : Nat :=
  let below := numerator / denominator
  let rest := numerator % denominator
  if 2 * rest < denominator || (2 * rest == denominator && below % 2 == 0) then below
  else below + 1

/-- Digits with a point in front of the last `places` of them. -/
def placePoint (places units : Nat) : List Char :=
  let text := (toString units).toList
  let text := List.replicate (places + 1 - text.length) '0' ++ text
  let whole := text.length - places
  if places == 0 then text else text.take whole ++ '.' :: text.drop whole

/-- A number with a fixed count of decimal places. -/
def fixed (places : Nat) (x : Float) : String :=
  match Binary.ofFloat x with
  | .notANumber => "nan"
  | .infinite negative => if negative then "-inf" else "inf"
  | .finite negative mantissa exponent =>
    let (up, down) := powerOfTwo exponent
    let text := placePoint places (roundToEven (mantissa * up * Nat.pow 10 places) down)
    String.ofList (if negative then '-' :: text else text)

/-! ## Digits that are read -/

/-- How many decimal digits are read as one whole number at most, leading zeros included. -/
def maxDigits : Nat := 4300

/-- The digits of a whole number are too many to be read. -/
structure Overlong where
  digits : Nat
  deriving DecidableEq, Repr, Inhabited

/-- The text of that failure. -/
def Overlong.message (overlong : Overlong) : String :=
  "Exceeds the limit (" ++ toString maxDigits ++ " digits) for integer string conversion: value has " ++
    toString overlong.digits ++ " digits; use sys.set_int_max_str_digits() to increase the limit"

/-- Are some digits too many to be read as one number? -/
def overlong? (digits : List Char) : Option Overlong :=
  if digits.length ≤ maxDigits then none else some ⟨digits.length⟩

theorem maxDigits_lt_of_overlong? {digits : List Char} {overlong : Overlong}
    (found : overlong? digits = some overlong) : maxDigits < overlong.digits := by
  unfold overlong? at found
  split at found
  next => cases found
  next long =>
    cases found
    exact Nat.lt_of_not_le long

end Lectern.Number
