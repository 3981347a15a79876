import LeakScan.Yaml.Fault
import LeakScan.Yaml.Kind

/-!
# Dates and moments

A date of the Gregorian calendar, and a moment: a date with a time of day and perhaps an offset
from the prime meridian. A written moment is one only if each of its parts is in its range.
-/

set_option autoImplicit false

namespace LeakScan.Yaml

/-- A date. -/
structure Date where
  year : Nat
  month : Nat
  day : Nat
deriving DecidableEq, Repr

/-- A time of day, and the offset of its zone in minutes. -/
structure DayTime where
  hour : Nat
  minute : Nat
  second : Nat
  micros : Nat
  offset : Option Int
deriving DecidableEq, Repr

/-- Whether a year has a day more in February. -/
def isLeap (year : Nat) : Bool :=
  year % 4 = 0 && (year % 100 != 0 || year % 400 = 0)

/-- The number of days of a month. -/
def daysIn (year month : Nat) : Nat :=
  if month = 2 then (if isLeap year then 29 else 28)
  else if month = 4 || month = 6 || month = 9 || month = 11 then 30
  else 31

namespace Date

/-- A date of parts in their ranges. -/
def ofParts (year month day : Nat) : Except MomentFault Date :=
  if year = 0 then .error .year
  else if month = 0 || 12 < month then .error .month
  else if day = 0 || daysIn year month < day then .error .day
  else .ok ⟨year, month, day⟩

end Date

/-- A number with zeros in front, up to a width. -/
def paddedNumber (width n : Nat) : String :=
  let digits := Nat.toDigits 10 n
  String.ofList (List.replicate (width - digits.length) '0' ++ digits)

/-- A date as text. -/
def Date.text (d : Date) : String :=
  paddedNumber 4 d.year ++ "-" ++ paddedNumber 2 d.month ++ "-" ++ paddedNumber 2 d.day

/-- The parts of a date, between commas. -/
def Date.partsShown (d : Date) : List String := [toString d.year, toString d.month, toString d.day]

/-- How a date shows in a message. -/
def Date.shown (d : Date) : String :=
  "datetime.date(" ++ ", ".intercalate d.partsShown ++ ")"

namespace DayTime

/-- An offset as text, in hours and minutes. -/
def offsetText (minutes : Int) : String :=
  let n := minutes.natAbs
  (if minutes < 0 then "-" else "+") ++ paddedNumber 2 (n / 60) ++ ":" ++ paddedNumber 2 (n % 60)

/-- A time of day as text. -/
def text (t : DayTime) : String :=
  paddedNumber 2 t.hour ++ ":" ++ paddedNumber 2 t.minute ++ ":" ++ paddedNumber 2 t.second ++
    (if t.micros = 0 then "" else "." ++ paddedNumber 6 t.micros) ++
    (t.offset.map offsetText).getD ""

/-- How an offset shows in a message. -/
def offsetShown (minutes : Int) : String :=
  "tzinfo=" ++
    (if minutes = 0 then "datetime.timezone.utc"
      else "datetime.timezone(" ++ spanText minutes ++ ")")

/-- The parts of a time as they show; seconds that are zero are left out. -/
def partsShown (t : DayTime) : List String :=
  [toString t.hour, toString t.minute] ++
    (if t.second = 0 && t.micros = 0 then [] else [toString t.second]) ++
    (if t.micros = 0 then [] else [toString t.micros]) ++
    (t.offset.map offsetShown).toList

/-- A time of parts in their ranges. -/
def ofParts (hour minute second micros : Nat) (offset : Option Int) :
    Except MomentFault DayTime :=
  if 23 < hour then .error .hour
  else if 59 < minute then .error .minute
  else if 59 < second then .error .second
  else .ok ⟨hour, minute, second, micros, offset⟩

end DayTime

/-- How a moment shows in a message. -/
def momentShown (d : Date) (t : DayTime) : String :=
  "datetime.datetime(" ++ ", ".intercalate (d.partsShown ++ t.partsShown) ++ ")"

/-- The number of days from the first of January of year one to a date, in the Gregorian
calendar. -/
def Date.dayNumber (d : Date) : Nat :=
  let years := d.year - 1
  let before := (List.range (d.month - 1)).foldl (fun days m => days + daysIn d.year (m + 1)) 0
  years * 365 + years / 4 - years / 100 + years / 400 + before + (d.day - 1)

/-- The millionths of a second from the start of year one to a moment, on the clock of its zone. -/
def clockMicros (d : Date) (t : DayTime) : Nat :=
  (((d.dayNumber * 24 + t.hour) * 60 + t.minute) * 60 + t.second) * 1000000 + t.micros

/-- The millionths of a second from the start of year one to a moment, on the prime meridian, if its
zone is known. -/
def instant? (d : Date) (t : DayTime) : Option Int :=
  t.offset.map fun minutes => (clockMicros d t : Int) - minutes * 60000000

/-- Whether two moments are the same: those of a zone if they are the same instant, and others if
their parts are the same. -/
def sameMoment (a b : Date × DayTime) : Bool :=
  match instant? a.1 a.2, instant? b.1 b.2 with
  | some x, some y => x = y
  | none, none => a = b
  | _, _ => false

/-- The offset of a zone in minutes; it is less than a day. -/
def Kind.Zone.minutes : Kind.Zone → Except MomentFault (Option Int)
  | .unsaid => .ok none
  | .prime => .ok (some 0)
  | .offset negative hours minutes =>
    let n : Int := 60 * Numeral.value hours + Numeral.value minutes
    let n := if negative then -n else n
    if n ≤ -1440 || 1440 ≤ n then .error (.offset n) else .ok (some n)

/-- The millionths of a second that a fraction stands for; further digits do not count. -/
def microsOf (fraction : List Char) : Nat :=
  let ds := fraction.take 6
  Numeral.value ds * Nat.pow 10 (6 - ds.length)

/-- The moment that is written. -/
def Kind.WrittenMoment.read (m : Kind.WrittenMoment) :
    Except MomentFault (Date × Option DayTime) := do
  let date := Date.ofParts (Numeral.value m.year) (Numeral.value m.month) (Numeral.value m.day)
  match m.time with
  | none => return (← date, none)
  | some (hour, minute, second, fraction, zone) =>
    let offset ← zone.minutes
    let date ← date
    let time ← DayTime.ofParts (Numeral.value hour) (Numeral.value minute)
      (Numeral.value second) (microsOf fraction) offset
    return (date, some time)

end LeakScan.Yaml
