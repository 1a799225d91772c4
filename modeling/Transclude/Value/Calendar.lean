/-!
# Dates and moments

Days of the calendar, and moments: a day with a time of day, perhaps in a time zone.

## Main definitions

* `Date.checked`     : a day that the calendar has.
* `Moment.checked`   : a moment whose parts are in range.
* `Moment.instant?`  : the moment in the time of the zeroth meridian.
-/

namespace Transclude

/-- A day of the calendar. -/
structure Date where
  year : Nat
  month : Nat
  day : Nat
  deriving DecidableEq, Repr, Inhabited

/-- Why there is no such day or moment. -/
inductive CalendarError
  | year (n : Nat)
  | month
  | day
  | hour
  | minute
  | second
  /-- A time zone that is a whole day or more away; the distance in seconds. -/
  | zone (offset : Int)
  deriving DecidableEq, Repr

/-- A number with zeros in front of it up to a width. -/
def padded (width n : Nat) : String :=
  let digits := toString n
  "".pushn '0' (width - digits.length) ++ digits

/-- The number of seconds of a day. -/
def secondsOfDay : Nat := 86400

/-- A span of time in seconds as a message quotes it: days, and seconds of the last day. -/
def spanShown (seconds : Int) : String :=
  let days := seconds.fdiv secondsOfDay
  let rest := seconds.fmod secondsOfDay
  let parts := (if days = 0 then [] else [s!"days={days}"]) ++
    (if rest = 0 then [] else [s!"seconds={rest}"])
  "datetime.timedelta(" ++ (if parts.isEmpty then "0" else ", ".intercalate parts) ++ ")"

/-- The reason in words. -/
def CalendarError.message : CalendarError → String
  | .year n => s!"year {n} is out of range"
  | .month => "month must be in 1..12"
  | .day => "day is out of range for month"
  | .hour => "hour must be in 0..23"
  | .minute => "minute must be in 0..59"
  | .second => "second must be in 0..59"
  | .zone offset =>
    "offset must be a timedelta strictly between -timedelta(hours=24) and timedelta(hours=24), " ++
      s!"not {spanShown offset}."

namespace Date

/-- Whether a year has a leap day. -/
def isLeap (year : Nat) : Bool := year % 4 == 0 && (year % 100 != 0 || year % 400 == 0)

/-- The number of days of a month. -/
def daysIn (year month : Nat) : Nat :=
  if month = 2 then (if isLeap year then 29 else 28)
  else if [4, 6, 9, 11].contains month then 30
  else 31

/-- The day, if the calendar has it. -/
def checked (d : Date) : Except CalendarError Date :=
  if d.year = 0 ∨ 9999 < d.year then .error (.year d.year)
  else if d.month = 0 ∨ 12 < d.month then .error .month
  else if d.day = 0 ∨ daysIn d.year d.month < d.day then .error .day
  else .ok d

/-- The date as year, month and day between hyphens. -/
def text (d : Date) : String := padded 4 d.year ++ "-" ++ padded 2 d.month ++ "-" ++ padded 2 d.day

/-- The date as a message quotes it. -/
def shown (d : Date) : String := s!"datetime.date({d.year}, {d.month}, {d.day})"

/-- The number of days from the first of January of the year one on. -/
def number (d : Date) : Nat :=
  let before := d.year - 1
  let months := (List.range (d.month - 1)).foldl (fun n m => n + daysIn d.year (m + 1)) 0
  before * 365 + before / 4 - before / 100 + before / 400 + months + d.day

end Date

/-- A moment: a day, the time of day, and the distance of its time zone from the zeroth meridian in
seconds. -/
structure Moment where
  date : Date
  hour : Nat
  minute : Nat
  second : Nat
  micro : Nat := 0
  zone : Option Int := none
  deriving DecidableEq, Repr, Inhabited

namespace Moment

/-- The moment, if its parts are in range. The zone is looked at first. -/
def checked (m : Moment) : Except CalendarError Moment := do
  if let some offset := m.zone then
    if secondsOfDay ≤ offset.natAbs then .error (.zone offset)
  let _ ← m.date.checked
  if 23 < m.hour then .error .hour
  else if 59 < m.minute then .error .minute
  else if 59 < m.second then .error .second
  else .ok m

/-- The distance of a time zone as a sign, hours and minutes, and seconds unless there are none. -/
def zoneText (offset : Int) : String :=
  let n := offset.natAbs
  let seconds := if n % 60 = 0 then "" else ":" ++ padded 2 (n % 60)
  (if offset < 0 then "-" else "+") ++ padded 2 (n / 3600) ++ ":" ++ padded 2 (n / 60 % 60) ++
    seconds

/-- The moment as a date and a time of day, and the zone. -/
def text (m : Moment) : String :=
  let fraction := if m.micro = 0 then "" else "." ++ padded 6 m.micro
  m.date.text ++ " " ++ padded 2 m.hour ++ ":" ++ padded 2 m.minute ++ ":" ++ padded 2 m.second ++
    fraction ++ (m.zone.map zoneText).getD ""

/-- A time zone as a message quotes it. -/
def zoneShown (offset : Int) : String :=
  if offset = 0 then "datetime.timezone.utc" else s!"datetime.timezone({spanShown offset})"

/-- The moment as a message quotes it. Seconds and their fractions are left out if they are zero. -/
def shown (m : Moment) : String :=
  let small := if m.micro = 0 then (if m.second = 0 then [] else [m.second])
    else [m.second, m.micro]
  let parts := [m.date.year, m.date.month, m.date.day, m.hour, m.minute] ++ small
  let zone := (m.zone.map fun offset => s!", tzinfo={zoneShown offset}").getD ""
  "datetime.datetime(" ++ ", ".intercalate (parts.map toString) ++ zone ++ ")"

/-- The number of microseconds from the start of the calendar on, if the zone is known. -/
def instant? (m : Moment) : Option Int :=
  m.zone.map fun offset =>
    ((m.date.number * secondsOfDay + m.hour * 3600 + m.minute * 60 + m.second : Nat) - offset)
      * 1000000 + m.micro

end Moment

end Transclude
