/-!
# The calendar

Days counted from the first of January 1970, and the Gregorian date of each. Seconds are counted without leap
seconds; what clocks show at a second depends on the zone that they are in.
-/

namespace HostBridge.Time

/-- A date and a time of day. -/
structure Moment where
  /-- The year. -/
  year : Int
  /-- The month, from 1. -/
  month : Nat
  /-- The day of the month, from 1. -/
  day : Nat
  /-- The hour. -/
  hour : Nat
  /-- The minute. -/
  minute : Nat
  /-- The second. -/
  second : Nat
  /-- The day of the week; Sunday is 0. -/
  weekday : Nat
  /-- The day of the year, from 1. -/
  yearDay : Nat
  /-- The second since the count began. -/
  epoch : Int
  /-- How many seconds the clock is ahead of universal time. -/
  ahead : Int
  /-- The name of the zone. -/
  zoneName : String
deriving DecidableEq, Repr

/-- How many seconds clocks are ahead of universal time at each second, and the name of the zone then. -/
abbrev Zone := Int → Int × String

/-- The zone of universal time. -/
def Zone.universal : Zone := fun _ => (0, "UTC")

/-- Has the year a twenty-ninth of February? -/
def isLeapYear (year : Int) : Bool :=
  year % 4 == 0 && (year % 100 != 0 || year % 400 == 0)

/-- The number of days before the first of January of a year, counted from 1970. -/
def daysBeforeYear (year : Int) : Int :=
  let y := year - 1
  365 * (year - 1970) + (y.fdiv 4 - y.fdiv 100 + y.fdiv 400) - 477

/-- The lengths of the months. -/
def monthLengths (leap : Bool) : List Nat :=
  [31, if leap then 29 else 28, 31, 30, 31, 30, 31, 31, 30, 31, 30, 31]

/-- The month and the day of the month of a day of the year, both from 1, the latter counted from 0. -/
def monthAndDay : Nat → List Nat → Nat → Nat × Nat
  | month, length :: rest, day =>
    if day < length then (month, day + 1) else monthAndDay (month + 1) rest (day - length)
  | month, [], day => (month, day + 1)

/-- The year of a day: the guess by mean length is off by one at most. -/
def yearOfDay (days : Int) : Int :=
  let guess := 1970 + (days * 400).fdiv 146097
  if days < daysBeforeYear guess then guess - 1
  else if daysBeforeYear (guess + 1) ≤ days then guess + 1
  else guess

/-- The moment at a second, as clocks in a zone show it. -/
def Moment.ofEpoch (zone : Zone) (epoch : Int) : Moment :=
  let (ahead, zoneName) := zone epoch
  let days := (epoch + ahead).fdiv 86400
  let rest := ((epoch + ahead).fmod 86400).toNat
  let year := yearOfDay days
  let ordinal := (days - daysBeforeYear year).toNat
  let (month, day) := monthAndDay 1 (monthLengths (isLeapYear year)) ordinal
  { year, month, day, hour := rest / 3600, minute := rest / 60 % 60, second := rest % 60
    weekday := ((days + 4).fmod 7).toNat, yearDay := ordinal + 1, epoch
    ahead, zoneName }

example : (Moment.ofEpoch .universal 951782400).month = 2 ∧ (Moment.ofEpoch .universal 951782400).day = 29 := by decide
example : (Moment.ofEpoch .universal (-1)).year = 1969 ∧ (Moment.ofEpoch .universal (-1)).second = 59 := by decide

end HostBridge.Time
