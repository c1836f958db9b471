/-!
# Points in time

Days, and times of a day with an optional time zone, as configuration files can give them. Two times
in different time zones may name the same point.
-/

namespace PfaScript

/-- A day of the calendar. -/
structure Day where
  year : Nat
  month : Nat
  day : Nat
deriving DecidableEq, Repr

/-- A time of a day. -/
structure Clock where
  hour : Nat
  minute : Nat
  second : Nat
  /-- Millionths of a second. -/
  micros : Nat
deriving DecidableEq, Repr

/-- A day, or a time of a day. -/
inductive Moment where
  | day (day : Day)
  /-- A time of a day, and how many minutes its time zone is ahead. -/
  | time (day : Day) (clock : Clock) (zone : Option Int)
deriving DecidableEq, Repr

/-- The decimal digits of a number, at least so many. -/
def paddedDigits (width n : Nat) : String :=
  let digits := Nat.toDigits 10 n
  String.ofList (List.replicate (width - digits.length) '0' ++ digits)

/-- A span of so many minutes: full days, and seconds to be added to them. -/
def spanText (minutes : Int) : String :=
  let days := minutes / 1440
  let seconds := minutes % 1440 * 60
  if seconds = 0 then s!"datetime.timedelta(days={days})"
  else if days = 0 then s!"datetime.timedelta(seconds={seconds})"
  else s!"datetime.timedelta(days={days}, seconds={seconds})"

namespace Day

/-- The number of days of a month. -/
def monthLength (year month : Nat) : Nat :=
  let isLeap := year % 4 = 0 && (year % 100 ≠ 0 || year % 400 = 0)
  if month = 2 then (if isLeap then 29 else 28)
  else if [4, 6, 9, 11].contains month then 30
  else 31

/-- The place of a day in the calendar, counted from its first day. -/
def place (day : Day) : Nat :=
  let years := day.year - 1
  let earlierMonths :=
    (List.range' 1 (day.month - 1)).foldl (fun days month => days + monthLength day.year month) 0
  365 * years + years / 4 - years / 100 + years / 400 + earlierMonths + day.day

/-- A day with four digits of the year. -/
def text (day : Day) : String :=
  s!"{paddedDigits 4 day.year}-{paddedDigits 2 day.month}-{paddedDigits 2 day.day}"

/-- The parts of a day with commas between them. -/
def shown (day : Day) : String :=
  s!"{day.year}, {day.month}, {day.day}"

end Day

namespace Clock

/-- A time, with a fraction of the second if it has one. -/
def text (clock : Clock) : String :=
  let fraction := if clock.micros = 0 then "" else "." ++ paddedDigits 6 clock.micros
  s!"{paddedDigits 2 clock.hour}:{paddedDigits 2 clock.minute}:{paddedDigits 2 clock.second}" ++
    fraction

/-- The parts of a time with commas between them; zeros at the end are left out. -/
def shown (clock : Clock) : String :=
  let start := s!"{clock.hour}, {clock.minute}"
  if clock.micros ≠ 0 then start ++ s!", {clock.second}, {clock.micros}"
  else if clock.second ≠ 0 then start ++ s!", {clock.second}"
  else start

end Clock

namespace Moment

/-- A time zone by its distance in hours and minutes. -/
def zoneText (minutes : Int) : String :=
  let size := minutes.natAbs
  let sign := if minutes < 0 then "-" else "+"
  s!"{sign}{paddedDigits 2 (size / 60)}:{paddedDigits 2 (size % 60)}"

/-- A time zone as it is shown. -/
def zoneShown (minutes : Int) : String :=
  if minutes = 0 then "datetime.timezone.utc" else s!"datetime.timezone({spanText minutes})"

/-- A point in time where a text is wanted. -/
def text : Moment → String
  | .day d => d.text
  | .time d clock zone => s!"{d.text} {clock.text}" ++ (zone.map zoneText).getD ""

/-- A point in time as it is shown. -/
def shown : Moment → String
  | .day d => s!"datetime.date({d.shown})"
  | .time d clock zone =>
    let place := (zone.map fun minutes => ", tzinfo=" ++ zoneShown minutes).getD ""
    s!"datetime.datetime({d.shown}, {clock.shown}{place})"

/-- The minute that a time with a time zone names, counted without one. -/
def minutePlace (day : Day) (clock : Clock) (zone : Int) : Int :=
  1440 * day.place + 60 * clock.hour + clock.minute - zone

/-- Whether two points in time are the same one. -/
def same : Moment → Moment → Bool
  | .time d c (some z), .time d' c' (some z') =>
    minutePlace d c z = minutePlace d' c' z' && c.second = c'.second && c.micros = c'.micros
  | a, b => a == b

/-- The name of the type in messages. -/
def typeName : Moment → String
  | .day _ => "date"
  | .time _ _ _ => "datetime"

end Moment

end PfaScript
