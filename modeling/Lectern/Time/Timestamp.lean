/-
Module: Lectern.Time.Timestamp
Purpose: Moments with microseconds, the calendar date and clock time they show at an offset, and
  their text.
Main exports: Timestamp, Timestamp.after, Timestamp.render, Timestamp.minuteLabel
-/

namespace Lectern

/-- A moment: microseconds since the start of 1970 in universal time, and the seconds by which the
clock that shows it is ahead. A clock without a known offset shows universal time. -/
structure Timestamp where
  micros : Int
  offset : Option Int := some 0
  deriving DecidableEq, Repr, Inhabited

/-- A date of the calendar. -/
structure Date where
  year : Int
  month : Nat
  day : Nat
  deriving DecidableEq, Repr, Inhabited

namespace Date

/-- The date that lies some days after the start of 1970. Years are counted from March, so that a
leap day comes last. -/
def ofDays (days : Int) : Date :=
  let shifted := days + 719468
  let era := shifted.fdiv 146097
  let dayOfEra := (shifted.fmod 146097).toNat
  let yearOfEra := (dayOfEra - dayOfEra / 1460 + dayOfEra / 36524 - dayOfEra / 146096) / 365
  let dayOfYear := dayOfEra - (365 * yearOfEra + yearOfEra / 4 - yearOfEra / 100)
  let marchMonth := (5 * dayOfYear + 2) / 153
  let day := dayOfYear - (153 * marchMonth + 2) / 5 + 1
  let month := if marchMonth < 10 then marchMonth + 3 else marchMonth - 9
  ⟨(yearOfEra : Int) + era * 400 + (if month ≤ 2 then 1 else 0), month, day⟩

/-- How many days a date lies after the start of 1970. -/
def toDays (date : Date) : Int :=
  let year := if date.month ≤ 2 then date.year - 1 else date.year
  let era := year.fdiv 400
  let yearOfEra := (year.fmod 400).toNat
  let marchMonth := if date.month > 2 then date.month - 3 else date.month + 9
  let dayOfYear := (153 * marchMonth + 2) / 5 + date.day - 1
  let dayOfEra := yearOfEra * 365 + yearOfEra / 4 - yearOfEra / 100 + dayOfYear
  era * 146097 + (dayOfEra : Int) - 719468

/-- How many days a month has. -/
def monthLength (year : Int) (month : Nat) : Nat :=
  if month == 2 then
    if year.fmod 4 == 0 && (year.fmod 100 != 0 || year.fmod 400 == 0) then 29 else 28
  else if [4, 6, 9, 11].contains month then 30
  else 31

end Date

namespace Timestamp

/-- Microseconds in a second. -/
def second : Int := 1000000

/-- The moment some seconds after the start of 2024. -/
def after (seconds : Int) : Timestamp := ⟨(1704067200 + seconds) * second, some 0⟩

/-- Is a moment earlier than another? -/
def isBefore (a b : Timestamp) : Bool := a.micros < b.micros

/-- A number with zeros in front, so that it has at least some digits. -/
def padded (width : Nat) (value : Nat) : String :=
  let text := toString value
  String.ofList (List.replicate (width - text.length) '0') ++ text

/-- What a clock shows: the date, the seconds of the day and the microseconds. -/
def shown (moment : Timestamp) : Date × Nat × Nat :=
  let here := moment.micros + moment.offset.getD 0 * second
  let seconds := here.fdiv second
  (Date.ofDays (seconds.fdiv 86400), (seconds.fmod 86400).toNat, (here.fmod second).toNat)

/-- A date as text. -/
def dateText (date : Date) : String :=
  padded 4 date.year.toNat ++ "-" ++ padded 2 date.month ++ "-" ++ padded 2 date.day

/-- Hours and minutes as text. -/
def minuteText (seconds : Nat) : String :=
  padded 2 (seconds / 3600) ++ ":" ++ padded 2 (seconds / 60 % 60)

/-- An offset as text. -/
def offsetText : Option Int → String
  | none => ""
  | some 0 => "Z"
  | some offset => (if offset < 0 then "-" else "+") ++ minuteText offset.natAbs

/-- A moment as text; a fraction of a second is written where there is one. -/
def render (moment : Timestamp) : String :=
  let (date, seconds, micros) := moment.shown
  dateText date ++ "T" ++ minuteText seconds ++ ":" ++ padded 2 (seconds % 60) ++
    (if micros == 0 then "" else "." ++ padded 6 micros) ++ offsetText moment.offset

/-- The date and the minute of a moment, for a reader. -/
def minuteLabel (moment : Timestamp) : String :=
  let (date, seconds, _) := moment.shown
  dateText date ++ " " ++ minuteText seconds

end Timestamp

end Lectern
