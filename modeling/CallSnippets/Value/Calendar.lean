import CallSnippets.Fault

/-!
# Dates and moments

A document may hold dates, and moments with a time of day and a distance from universal time. Only
dates that exist are values: every part is checked when a date is made, the year first.

## Main definitions

* `Date`, `Moment`: Dates and moments.
* `Date.of`, `Moment.of`: Made from their parts, if they exist.
* `Date.text`, `Moment.text`: As they are shown alone.
* `Date.form`, `Moment.form`: As they are shown inside of other values.
* `Moment.same`: Whether two moments are the same point in time.
-/

namespace CallSnippets

/-- A day of the calendar. -/
structure Date where
  /-- The year, from 1 on. -/
  year : Nat
  /-- The month, from 1 to 12. -/
  month : Nat
  /-- The day of the month. -/
  day : Nat
  deriving DecidableEq, Repr

/-- A day and a time of day. -/
structure Moment where
  /-- The day. -/
  date : Date
  /-- The hour, from 0 to 23. -/
  hour : Nat
  /-- The minute, from 0 to 59. -/
  minute : Nat
  /-- The second, from 0 to 59. -/
  second : Nat
  /-- The millionths of a second. -/
  micro : Nat
  /-- The distance from universal time in minutes, if it is known. -/
  offset : Option Int
  deriving DecidableEq, Repr

/-- The year has a 29th of February. -/
def isLeapYear (year : Nat) : Bool :=
  year % 4 = 0 && (year % 100 ≠ 0 || year % 400 = 0)

/-- The days of a month. -/
def daysOfMonth (year month : Nat) : Nat :=
  if month = 2 then (if isLeapYear year then 29 else 28)
  else if month = 4 ∨ month = 6 ∨ month = 9 ∨ month = 11 then 30
  else 31

/-- The number filled up with zeros to a count of digits. -/
def padded (width n : Nat) : Text :=
  let digits := natText n
  Text.repeated (width - digits.length) '0' ++ digits

namespace Date

/-- The date with these parts, if there is one. -/
def of (year month day : Nat) : Except Fault Date :=
  if year = 0 then .error (.value ("year " ++ natText year ++ " is out of range"))
  else if month = 0 ∨ 12 < month then .error (.value "month must be in 1..12")
  else if day = 0 ∨ daysOfMonth year month < day then
    .error (.value "day is out of range for month")
  else .ok ⟨year, month, day⟩

/-- The date as it is shown alone. -/
def text (d : Date) : Text :=
  padded 4 d.year ++ "-" ++ padded 2 d.month ++ "-" ++ padded 2 d.day

/-- The parts of the date between commas. -/
def parts (d : Date) : List Text :=
  [natText d.year, natText d.month, natText d.day]

/-- The date as it is shown inside of other values. -/
def form (d : Date) : Text :=
  "datetime.date(" ++ Text.join ", " d.parts ++ ")"

/-- The days since the first day of the year 1. -/
def dayNumber (d : Date) : Nat :=
  let y := d.year - 1
  y * 365 + y / 4 - y / 100 + y / 400 +
    (List.range (d.month - 1)).foldl (fun days m => days + daysOfMonth d.year (m + 1)) 0 + d.day

end Date

/-- A span of minutes as days and seconds, the seconds never negative. -/
def spanForm (minutes : Int) : Text :=
  let seconds := minutes * 60
  let days := seconds.fdiv 86400
  let rest := seconds.fmod 86400
  let dayPart := if days = 0 then [] else [("days=" : Text) ++ intText days]
  let secondPart := if rest = 0 then [] else [("seconds=" : Text) ++ intText rest]
  let parts := dayPart ++ secondPart
  "datetime.timedelta(" ++ (if parts.isEmpty then "0" else Text.join ", " parts : Text) ++ ")"

namespace Moment

/-- The moment with these parts, if there is one. -/
def of (year month day hour minute second micro : Nat) (offset : Option Int) :
    Except Fault Moment := do
  match offset with
  | some minutes =>
    if 1440 ≤ minutes.natAbs then
      .error (.value ("offset must be a timedelta strictly between -timedelta(hours=24) and " ++
        "timedelta(hours=24), not " ++ spanForm minutes ++ "."))
    else pure ()
  | none => pure ()
  let date ← Date.of year month day
  if 23 < hour then .error (.value "hour must be in 0..23")
  else if 59 < minute then .error (.value "minute must be in 0..59")
  else if 59 < second then .error (.value "second must be in 0..59")
  else .ok ⟨date, hour, minute, second, micro, offset⟩

/-- The distance from universal time as hours and minutes with a sign. -/
def offsetText (minutes : Int) : Text :=
  let size := minutes.natAbs
  (if minutes < 0 then "-" else "+" : Text) ++ padded 2 (size / 60) ++ ":" ++ padded 2 (size % 60)

/-- The moment as it is shown alone. -/
def text (m : Moment) : Text :=
  m.date.text ++ " " ++ padded 2 m.hour ++ ":" ++ padded 2 m.minute ++ ":" ++ padded 2 m.second ++
    (if m.micro = 0 then [] else '.' :: padded 6 m.micro : Text) ++
    (match m.offset with
      | some minutes => offsetText minutes
      | none => [])

/-- The distance from universal time as it is shown inside of other values. -/
def offsetForm (minutes : Int) : Text :=
  if minutes = 0 then "datetime.timezone.utc"
  else "datetime.timezone(" ++ spanForm minutes ++ ")"

/-- The moment as it is shown inside of other values, without the parts at the end that are zero. -/
def form (m : Moment) : Text :=
  let time := [natText m.hour, natText m.minute] ++
    (if m.micro ≠ 0 then [natText m.second, natText m.micro]
      else if m.second ≠ 0 then [natText m.second] else [])
  let zone := match m.offset with
    | some minutes => [("tzinfo=" : Text) ++ offsetForm minutes]
    | none => []
  "datetime.datetime(" ++ Text.join ", " (m.date.parts ++ time ++ zone) ++ ")"

/-- The minutes from the start of the calendar to the moment, in universal time. -/
def universalMinutes (m : Moment) (offset : Int) : Int :=
  (m.date.dayNumber : Int) * 1440 + m.hour * 60 + m.minute - offset

/-- Two moments are the same point in time. One with a known distance from universal time is never
    the same as one without. -/
def same (m n : Moment) : Bool :=
  match m.offset, n.offset with
  | none, none => m == n
  | some p, some q =>
    m.universalMinutes p == n.universalMinutes q && m.second == n.second && m.micro == n.micro
  | _, _ => false

end Moment

end CallSnippets
