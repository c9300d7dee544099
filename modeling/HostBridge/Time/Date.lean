import HostBridge.Time.Calendar

/-!
# Dates

Dates of the Gregorian calendar, and dates with a time of day that may be tied to a distance from universal
time. Each has a displayed text, which people read, and a literal text, which spells out how it is made.
-/

namespace HostBridge.Time

/-- A date. -/
structure Date where
  /-- The year. -/
  year : Nat
  /-- The month, from 1. -/
  month : Nat
  /-- The day of the month, from 1. -/
  day : Nat
deriving DecidableEq, Repr

/-- A date with a time of day. -/
structure DateTime where
  /-- The date. -/
  date : Date
  /-- The hour. -/
  hour : Nat
  /-- The minute. -/
  minute : Nat
  /-- The second. -/
  second : Nat
  /-- The millionths of a second. -/
  micro : Nat
  /-- How many minutes it is ahead of universal time, if it is known. -/
  offset? : Option Int
deriving DecidableEq, Repr

/-- Digits, filled up with zeros to a width. -/
def zeroFilled (width n : Nat) : String :=
  let ds := Nat.toDigits 10 n
  String.ofList (List.replicate (width - ds.length) '0' ++ ds)

/-- What is wrong with the parts of a date, if anything. -/
def Date.problem? (d : Date) : Option String :=
  if d.year < 1 ∨ 9999 < d.year then some s!"year {d.year} is out of range"
  else if d.month < 1 ∨ 12 < d.month then some "month must be in 1..12"
  else if d.day < 1 ∨ ((monthLengths (isLeapYear d.year))[d.month - 1]?).getD 0 < d.day then
    some "day is out of range for month"
  else none

/-- The displayed text of a date. -/
def Date.display (d : Date) : String :=
  zeroFilled 4 d.year ++ "-" ++ zeroFilled 2 d.month ++ "-" ++ zeroFilled 2 d.day

/-- The literal text of a date. -/
def Date.literal (d : Date) : String :=
  s!"datetime.date({d.year}, {d.month}, {d.day})"

/-- The literal text of a span of minutes: whole days, and the seconds of the rest. -/
def spanLiteral (minutes : Int) : String :=
  let days := minutes.fdiv 1440
  let seconds := minutes.fmod 1440 * 60
  let parts := (if days = 0 then [] else [s!"days={days}"]) ++
    (if seconds = 0 then [] else [s!"seconds={seconds}"])
  "datetime.timedelta(" ++ (if parts.isEmpty then "0" else ", ".intercalate parts) ++ ")"

/-- What is wrong with a distance from universal time: it has to be less than a day. -/
def offsetProblem? (minutes : Int) : Option String :=
  if minutes.natAbs < 1440 then none
  else some ("offset must be a timedelta strictly between -timedelta(hours=24) and timedelta(hours=24), not " ++
    spanLiteral minutes ++ ".")

/-- What is wrong with the parts of a date with a time of day, if anything. -/
def DateTime.problem? (t : DateTime) : Option String :=
  (t.offset?.bind offsetProblem?).or <| t.date.problem?.or <|
    if 24 ≤ t.hour then some "hour must be in 0..23"
    else if 60 ≤ t.minute then some "minute must be in 0..59"
    else if 60 ≤ t.second then some "second must be in 0..59"
    else none

/-- The displayed text of a date with a time of day. -/
def DateTime.display (t : DateTime) : String :=
  t.date.display ++ " " ++ zeroFilled 2 t.hour ++ ":" ++ zeroFilled 2 t.minute ++ ":" ++
    zeroFilled 2 t.second ++
  (if t.micro = 0 then "" else "." ++ zeroFilled 6 t.micro) ++
  (match t.offset? with
    | none => ""
    | some m => (if m < 0 then "-" else "+") ++ zeroFilled 2 (m.natAbs / 60) ++ ":" ++
        zeroFilled 2 (m.natAbs % 60))

/-- The literal text of a date with a time of day; parts that are zero are left out at the end. -/
def DateTime.literal (t : DateTime) : String :=
  let small :=
    if t.micro ≠ 0 then [t.second, t.micro] else if t.second ≠ 0 then [t.second] else []
  let parts := [t.date.year, t.date.month, t.date.day, t.hour, t.minute] ++ small
  "datetime.datetime(" ++ ", ".intercalate (parts.map toString) ++
  (match t.offset? with
    | none => ""
    | some m => ", tzinfo=" ++
      (if m = 0 then "datetime.timezone.utc" else "datetime.timezone(" ++ spanLiteral m ++ ")")) ++ ")"

/-- The day of a date, counted from the first of January 1970. -/
def Date.ordinal (d : Date) : Int :=
  let earlier := ((monthLengths (isLeapYear d.year)).take (d.month - 1)).foldl Nat.add 0
  daysBeforeYear d.year + earlier + d.day - 1

/-- The millionths of a second from the first of January 1970 to a date with a time of day, by its own
clock. -/
def DateTime.micros (t : DateTime) : Int :=
  (((t.date.ordinal * 24 + t.hour) * 60 + t.minute) * 60 + t.second) * 1000000 + t.micro

/-- Do two dates with a time of day mean one instant? One that is tied to universal time never equals one
that is not. -/
def DateTime.same (s t : DateTime) : Bool :=
  match s.offset?, t.offset? with
  | none, none => s == t
  | some m, some n => s.micros - m * 60000000 == t.micros - n * 60000000
  | _, _ => false

example : (Date.mk 2024 2 30).problem? = some "day is out of range for month" := by decide
example : (Date.mk 1 2 3).display = "0001-02-03" := by decide

end HostBridge.Time
