/-
Module: Lectern.Schema.Time
Purpose: Reading moments: a date and a clock time as text, a date alone, or a count of seconds.
Main exports: time
-/
import Lectern.Schema.Scalar
import Lectern.Time.Timestamp

namespace Lectern.Schema

open Lectern.Text

/-- Two digits in front of a text. -/
def twoDigits? : List Char → Option (Nat × List Char)
  | a :: b :: rest => (digits? [a, b]).map fun value => (value, rest)
  | _ => none

/-- A date in front of a text, or why there is none. -/
def readDate (text : List Char) : Except String (Date × List Char) :=
  match text with
  | y1 :: y2 :: y3 :: y4 :: s1 :: m1 :: m2 :: s2 :: d1 :: d2 :: rest =>
    match digits? [y1, y2, y3, y4] with
    | none => .error "invalid character in year"
    | some year =>
      if s1 != '-' then .error "invalid date separator, expected \x60-\x60"
      else match digits? [m1, m2] with
        | none => .error "invalid character in month"
        | some month =>
          if s2 != '-' then .error "invalid date separator, expected \x60-\x60"
          else match digits? [d1, d2] with
            | none => .error "invalid character in day"
            | some day =>
              if month < 1 || 12 < month then
                .error "month value is outside expected range of 1-12"
              else if day < 1 || Date.monthLength year month < day then
                .error "day value is outside expected range"
              else .ok (⟨year, month, day⟩, rest)
  | _ => .error "input is too short"

/-- Seconds and microseconds behind the minutes of a clock time. -/
def readSeconds? : List Char → Option (Nat × Nat × List Char)
  | ':' :: rest => do
    let (seconds, rest) ← twoDigits? rest
    match rest with
    | point :: behind =>
      if point == '.' || point == ',' then
        let digits := behind.takeWhile Char.isDigit
        let micros ← digits? (digits.take 6 ++ List.replicate (6 - digits.length) '0')
        if digits.isEmpty then none else some (seconds, micros, behind.drop digits.length)
      else some (seconds, 0, rest)
    | [] => some (seconds, 0, [])
  | rest => some (0, 0, rest)

/-- The offset behind a clock time. -/
def readOffset? : List Char → Option (Option Int)
  | [] => some none
  | ['Z'] => some (some 0)
  | ['z'] => some (some 0)
  | sign :: rest =>
    if sign != '+' && sign != '-' then none
    else do
      let (hours, rest) ← twoDigits? rest
      let rest := match rest with
        | ':' :: behind => behind
        | _ => rest
      let (minutes, rest) ← if rest.isEmpty then some (0, []) else twoDigits? rest
      if !rest.isEmpty || 59 < minutes || 23 < hours then none
      else
        let seconds : Int := hours * 3600 + minutes * 60
        some (some (if sign == '-' then -seconds else seconds))

/-- A moment behind its date. -/
def readClock? (date : Date) : List Char → Option Timestamp
  | separator :: rest => do
    if !(['T', 't', ' ', '_'].contains separator) then none
    let (hours, rest) ← twoDigits? rest
    let (minutes, rest) ← match rest with
      | ':' :: behind => twoDigits? behind
      | _ => none
    let (seconds, micros, rest) ← readSeconds? rest
    let offset ← readOffset? rest
    if 23 < hours || 59 < minutes || 59 < seconds then none
    else
      let shown := date.toDays * 86400 + (hours * 3600 + minutes * 60 + seconds : Nat)
      some ⟨(shown - offset.getD 0) * Timestamp.second + micros, offset⟩
  | [] => none

/-- The moment some microseconds after the start of 1970. Large counts are of milliseconds. -/
def momentOfSeconds (x : Float) : Timestamp :=
  let seconds := if x.abs > 20000000000.0 then x / 1000.0 else x
  ⟨(seconds * 1000000.0).round.toInt64.toInt, some 0⟩

/-- A moment spelled as text. -/
def readTime (text : String) : Checked Timestamp :=
  let chars := trim text.toList
  match readDate chars with
  | .ok (date, []) => .valid ⟨date.toDays * 86400 * Timestamp.second, none⟩
  | .ok (date, rest) =>
    match readClock? date rest with
    | some moment => .valid moment
    | none => .fail (.unreadTime "unexpected extra characters at the end of the input")
  | .error detail =>
    match readNumber? text with
    | some seconds => .valid (momentOfSeconds seconds)
    | none => .fail (.unreadTime detail)

/-- A moment. -/
def time : Reader Timestamp
  | .str value => readTime value
  | .int value => .valid (momentOfSeconds (Float.ofInt value))
  | .float value => .valid (momentOfSeconds value)
  | _ => .fail .notTime

end Lectern.Schema
