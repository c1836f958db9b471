import PfaScript.Setting.Moment
import PfaScript.Yaml.Problem

/-!
# Points in time in YAML texts

A day is written as year, month and day with dashes between them. A time may follow after a letter
or blanks, with a fraction of the second and a time zone.
-/

namespace PfaScript

namespace Yaml

namespace Time

/-- A number of so many digits at the start of a text, and the rest. Of a shorter and a longer
number the longer one is taken. -/
def number? (least most : Nat) (cs : List Char) : Option (Nat × List Char) :=
  let digits := (cs.take most).takeWhile Char.isDigit
  if digits.length < least then none
  else some (digits.foldl (fun n c => 10 * n + (c.toNat - '0'.toNat)) 0, cs.drop digits.length)

/-- The rest of a text after a character that has to come first. -/
def after? (mark : Char) : List Char → Option (List Char)
  | [] => none
  | c :: rest => if c = mark then some rest else none

/-- The day at the start of a text, and the rest. -/
def day? (cs : List Char) : Option (Day × List Char) := do
  let (year, rest) ← number? 4 4 cs
  let (month, rest) ← number? 1 2 (← after? '-' rest)
  let (day, rest) ← number? 1 2 (← after? '-' rest)
  return (⟨year, month, day⟩, rest)

/-- The millionths of a second that the digits of a fraction make; further digits do not count. -/
def micros (digits : List Char) : Nat :=
  ((digits ++ List.replicate 6 '0').take 6).foldl (fun n c => 10 * n + (c.toNat - '0'.toNat)) 0

/-- The time at the start of a text, and the rest. -/
def clock? (cs : List Char) : Option (Clock × List Char) := do
  let (hour, rest) ← number? 1 2 cs
  let (minute, rest) ← number? 2 2 (← after? ':' rest)
  let (second, rest) ← number? 2 2 (← after? ':' rest)
  match rest with
  | '.' :: rest =>
    let digits := rest.takeWhile Char.isDigit
    return (⟨hour, minute, second, micros digits⟩, rest.drop digits.length)
  | _ => return (⟨hour, minute, second, 0⟩, rest)

/-- The time zone that makes up a text, in minutes; there may be none. -/
def zone? (cs : List Char) : Option (Option Int) := do
  let away (sign : Int) (rest : List Char) : Option (Option Int) := do
    let (hours, rest) ← number? 1 2 rest
    match rest with
    | [] => return some (sign * (60 * hours))
    | ':' :: rest =>
      let (minutes, rest) ← number? 2 2 rest
      if rest.isEmpty then return some (sign * (60 * hours + minutes)) else none
    | _ => none
  if cs.isEmpty then return none
  else
    match cs.dropWhile fun c => c = ' ' || c = '\t' with
    | ['Z'] => return some 0
    | '+' :: rest => away 1 rest
    | '-' :: rest => away (-1) rest
    | _ => none

/-- The point in time that a text writes, whether it exists or not. -/
def read? (cs : List Char) : Option Moment := do
  let cs := if cs.getLast? = some '\n' then cs.dropLast else cs
  let (day, rest) ← day? cs
  match rest with
  | [] => return .day day
  | c :: rest =>
    let blanks := (c :: rest).takeWhile fun c => c = ' ' || c = '\t'
    let rest ← if c = 'T' || c = 't' then some rest
      else if blanks.isEmpty then none
      else some ((c :: rest).drop blanks.length)
    let (clock, rest) ← clock? rest
    return .time day clock (← zone? rest)

/-- Checks that a day exists. -/
def checkDay (day : Day) : Except Problem Unit := do
  if day.year = 0 then throw .yearZero
  if !(1 ≤ day.month && day.month ≤ 12) then throw (.outOfLimits "month" 1 12)
  if !(1 ≤ day.day && day.day ≤ Day.monthLength day.year day.month) then throw .noSuchDay

/-- Checks that a time exists. -/
def checkClock (clock : Clock) : Except Problem Unit := do
  if 23 < clock.hour then throw (.outOfLimits "hour" 0 23)
  if 59 < clock.minute then throw (.outOfLimits "minute" 0 59)
  if 59 < clock.second then throw (.outOfLimits "second" 0 59)

/-- Checks that a time zone is less than a day away. -/
def checkZone (zone : Option Int) : Except Problem Unit := do
  match zone with
  | some minutes => if 1440 ≤ minutes.natAbs then throw (.zoneTooFar minutes)
  | none => return ()

/-- The point in time that a scalar writes. -/
def moment (text : String) : Except Problem Moment := do
  match read? text.toList with
  | none => throw .notATime
  | some (.day day) =>
    checkDay day
    return .day day
  | some (.time day clock zone) =>
    checkZone zone
    checkDay day
    checkClock clock
    return .time day clock zone

end Time

end Yaml

end PfaScript
