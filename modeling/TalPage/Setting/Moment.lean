/-!
# Dates and times

Calendar dates, and moments with a time of day and an offset from universal time, checked against
the Gregorian calendar.
-/

namespace TalPage

structure Date where
  year : Nat
  month : Nat
  day : Nat
deriving DecidableEq, Repr

structure TimeOfDay where
  hour : Nat
  minute : Nat
  second : Nat
  microsecond : Nat := 0
deriving DecidableEq, Repr

/-- A date with a time of day, and the seconds that its place is ahead of universal time, if known. -/
structure Moment where
  date : Date
  time : TimeOfDay
  offset : Option Int := none
deriving DecidableEq, Repr

/-- Why there is no such date or moment. -/
inductive CalendarFault where
  | year (year : Nat)
  | month
  | day
  | hour
  | minute
  | second
  | offset (seconds : Int)
deriving DecidableEq, Repr

def isLeapYear (year : Nat) : Bool :=
  year % 4 = 0 && (year % 100 ≠ 0 || year % 400 = 0)

def daysInMonth (year month : Nat) : Nat :=
  if month = 2 then (if isLeapYear year then 29 else 28)
  else if month ∈ [4, 6, 9, 11] then 30
  else 31

def Date.check (d : Date) : Except CalendarFault Date :=
  if d.year = 0 ∨ 9999 < d.year then .error (.year d.year)
  else if d.month = 0 ∨ 12 < d.month then .error .month
  else if d.day = 0 ∨ daysInMonth d.year d.month < d.day then .error .day
  else .ok d

def TimeOfDay.check (t : TimeOfDay) : Except CalendarFault TimeOfDay :=
  if 23 < t.hour then .error .hour
  else if 59 < t.minute then .error .minute
  else if 59 < t.second then .error .second
  else .ok t

/-- The offset is looked at first, and lies strictly within a day. -/
def Moment.check (m : Moment) : Except CalendarFault Moment := do
  if let some offset := m.offset then
    if 86400 ≤ offset.natAbs then throw (.offset offset)
  let date ← m.date.check
  let time ← m.time.check
  return { m with date := date, time := time }

/-- The number of days from the start of the year 1. -/
def Date.dayNumber (d : Date) : Nat :=
  let years := d.year - 1
  let days := (List.range (d.month - 1)).foldl (fun n m => n + daysInMonth d.year (m + 1)) (d.day - 1)
  years * 365 + years / 4 - years / 100 + years / 400 + days

/-- Whether two moments are the same: those with offsets are compared in universal time. -/
def Moment.same (m n : Moment) : Bool :=
  let seconds (m : Moment) (offset : Int) : Int :=
    m.date.dayNumber * 86400 + m.time.hour * 3600 + m.time.minute * 60 + m.time.second - offset
  match m.offset, n.offset with
  | some a, some b => seconds m a = seconds n b && m.time.microsecond = n.time.microsecond
  | none, none => m = n
  | _, _ => false

/-- A number with its name before it, in the list of a literal's parts; nothing for zero. -/
def namedPart (name : String) (n : Int) : List String :=
  if n = 0 then [] else [name ++ "=" ++ toString n]

/-- A duration as a literal, in days and seconds. -/
def durationLiteral (seconds : Int) : String :=
  let parts := namedPart "days" (seconds.fdiv 86400) ++ namedPart "seconds" (seconds.fmod 86400)
  "datetime.timedelta(" ++ (if parts = [] then "0" else ", ".intercalate parts) ++ ")"

def CalendarFault.message : CalendarFault → String
  | .year n => "year " ++ toString n ++ " is out of range"
  | .month => "month must be in 1..12"
  | .day => "day is out of range for month"
  | .hour => "hour must be in 0..23"
  | .minute => "minute must be in 0..59"
  | .second => "second must be in 0..59"
  | .offset seconds =>
    "offset must be a timedelta strictly between -timedelta(hours=24) and timedelta(hours=24), not " ++
      durationLiteral seconds ++ "."

def Date.parts (d : Date) : List String :=
  [d.year, d.month, d.day].map toString

def Date.literal (d : Date) : String :=
  "datetime.date(" ++ ", ".intercalate d.parts ++ ")"

/-- Seconds are left out when they and their fraction are zero, and so is a fraction of zero. -/
def TimeOfDay.parts (t : TimeOfDay) : List String :=
  let fine :=
    if t.microsecond = 0 then (if t.second = 0 then [] else [t.second]) else [t.second, t.microsecond]
  ([t.hour, t.minute] ++ fine).map toString

def offsetLiteral (seconds : Int) : String :=
  if seconds = 0 then "datetime.timezone.utc"
  else "datetime.timezone(" ++ durationLiteral seconds ++ ")"

def Moment.literal (m : Moment) : String :=
  let zone := match m.offset with
    | none => []
    | some seconds => ["tzinfo=" ++ offsetLiteral seconds]
  "datetime.datetime(" ++ ", ".intercalate (m.date.parts ++ m.time.parts ++ zone) ++ ")"

end TalPage
