/-
Module: Lectern.Number.Shortest
Purpose: The fewest decimal digits that read back as the same floating-point number, and their
  layout as text.
Main exports: Shortest.digits, Layout, render
-/
import Lectern.Number.Binary

namespace Lectern.Number

/-- Digits and a place: the number `0.d₁d₂… * 10 ^ point`. -/
structure Decimal where
  digits : List Char
  point : Int
  deriving DecidableEq, Repr, Inhabited

namespace Shortest

/-- A positive number with the reals that round to it: all between `low` and `high`, four times
counted, in units of `2 ^ exponent`; the ends belong to it when the mantissa is even. -/
structure Interval where
  mantissa : Nat
  exponent : Int
  low : Nat
  high : Nat
  closed : Bool

/-- The reals that round to a number. Below a power of two the neighbour is half as far. -/
def interval (mantissa : Nat) (exponent : Int) : Interval where
  mantissa
  exponent
  low := if mantissa == Nat.pow 2 52 && exponent > -1074 then 4 * mantissa - 1 else 4 * mantissa - 2
  high := 4 * mantissa + 2
  closed := mantissa % 2 == 0

/-- How a grid of step `10 ^ place` compares with the unit of the interval: the two factors that
bring both to whole numbers. -/
def factors (exponent place : Int) : Nat × Nat :=
  (Nat.pow 2 exponent.toNat * Nat.pow 10 (-place).toNat,
    Nat.pow 2 (-exponent).toNat * Nat.pow 10 place.toNat)

/-- Does a grid point round to the number? -/
def Interval.admits (range : Interval) (unit grid candidate : Nat) : Bool :=
  let point := 4 * candidate * grid
  if range.closed then range.low * unit ≤ point && point ≤ range.high * unit
  else range.low * unit < point && point < range.high * unit

/-- The point of the grid with step `10 ^ place` that rounds to the number, of two the nearer one,
of two equally near the even one. -/
def onGrid (range : Interval) (place : Int) : Option Nat :=
  let (unit, grid) := factors range.exponent place
  let below := range.mantissa * unit / grid
  let rest := range.mantissa * unit % grid
  match range.admits unit grid below && below != 0, range.admits unit grid (below + 1) with
  | true, true =>
    if 2 * rest < grid || (2 * rest == grid && below % 2 == 0) then some below
    else some (below + 1)
  | true, false => some below
  | false, true => some (below + 1)
  | false, false => none

/-- The exponent of the leading digit: the number is scaled so that it is no fraction, and its
digits are counted. -/
def leadingPlace (mantissa : Nat) (exponent : Int) : Int :=
  let (up, down) := powerOfTwo exponent
  let scaled := mantissa * up * Nat.pow 10 400 / down
  ((toString scaled).length : Int) - 401

/-- The first grid of at least so many digits that has a point for the number. -/
def search (range : Interval) (lead : Int) : Nat → Nat → Nat × Int
  | 0, count => ((onGrid range (lead - count)).getD 0, lead - count)
  | more + 1, count =>
    match onGrid range (lead - count) with
    | some point => (point, lead - count)
    | none => search range lead more (count + 1)

/-- The fewest digits that read back as a positive number. -/
def digits (mantissa : Nat) (exponent : Int) : Decimal :=
  let (point, place) :=
    search (interval mantissa exponent) (leadingPlace mantissa exponent) 16 0
  let text := (toString point).toList
  let kept := (text.reverse.dropWhile (· == '0')).reverse
  ⟨kept, place + text.length⟩

end Shortest

/-- How digits are laid out as text. -/
structure Layout where
  /-- The least place of the point at which no exponent is written. -/
  leastPoint : Int
  /-- The greatest place of the point at which no exponent is written. -/
  greatestPoint : Int
  /-- Does an exponent that is not negative carry a sign? -/
  signed : Bool
  /-- The least number of digits of an exponent. -/
  exponentWidth : Nat
  deriving DecidableEq, Repr, Inhabited

namespace Layout

/-- Zeros in front of a number up to a width. -/
def padded (width value : Nat) : List Char :=
  let text := (toString value).toList
  List.replicate (width - text.length) '0' ++ text

/-- An exponent as text. -/
def exponentText (layout : Layout) (exponent : Int) : List Char :=
  let sign := if exponent < 0 then ['-'] else if layout.signed then ['+'] else []
  'e' :: sign ++ padded layout.exponentWidth exponent.natAbs

/-- Digits as text. A number without fraction keeps one zero behind its point. -/
def decimal (layout : Layout) (value : Decimal) : List Char :=
  let ⟨digits, point⟩ := value
  if point < layout.leastPoint || layout.greatestPoint < point then
    let fraction := match digits.drop 1 with
      | [] => []
      | more => '.' :: more
    digits.take 1 ++ fraction ++ layout.exponentText (point - 1)
  else if point ≤ 0 then '0' :: '.' :: List.replicate (-point).toNat '0' ++ digits
  else
    let whole := point.toNat
    if digits.length ≤ whole then
      digits ++ List.replicate (whole - digits.length) '0' ++ ['.', '0']
    else digits.take whole ++ '.' :: digits.drop whole

end Layout

/-- The shortest text of a number in a layout. -/
def render (layout : Layout) (x : Float) : String :=
  match Binary.ofFloat x with
  | .notANumber => "NaN"
  | .infinite negative => if negative then "-Infinity" else "Infinity"
  | .finite negative mantissa exponent =>
    let text := if mantissa == 0 then ['0', '.', '0']
      else layout.decimal (Shortest.digits mantissa exponent)
    String.ofList (if negative then '-' :: text else text)

end Lectern.Number
