import TalPage.Setting.Moment
import TalPage.Yaml.Fault

/-!
# Timestamps

The dates and moments that scalars stand for. A time of day may carry a fraction of a second and an
offset from universal time.
-/

namespace TalPage.Yaml

/-- A part of a timestamp is read from the front of what is left of it. -/
abbrev Scan := StateT (List Char) Option

namespace Scan

/-- Reads at least `least` and at most `most` digits. -/
def digits (least most : Nat) : Scan (List Char) := fun s =>
  let digits := (s.take most).takeWhile Char.isDigit
  if digits.length < least then none else some (digits, s.drop digits.length)

def number (least most : Nat) : Scan Nat := do
  return Nat.ofDigitChars 10 (← digits least most) 0

/-- Reads one of some characters. -/
def oneOf (options : List Char) : Scan Char := fun s =>
  match s with
  | c :: s => if c ∈ options then some (c, s) else none
  | [] => none

def gap : Scan Unit := fun s =>
  some ((), s.dropWhile fun c => c = ' ' || c = '\t')

def date : Scan Date := do
  let year ← number 4 4
  let _ ← oneOf ['-']
  let month ← number 1 2
  let _ ← oneOf ['-']
  return { year := year, month := month, day := ← number 1 2 }

/-- Reads what separates a date from a time of day. -/
def separator : Scan Unit := do
  let c ← oneOf ['T', 't', ' ', '\t']
  if c = ' ' ∨ c = '\t' then gap

/-- Reads a fraction of a second in millionths; further digits do not count. -/
def fraction : Scan Nat := do
  let s ← get
  if s.head? ≠ some '.' then return 0
  let _ ← oneOf ['.']
  let digits := (← digits 0 s.length).take 6
  return Nat.ofDigitChars 10 digits 0 * Nat.pow 10 (6 - digits.length)

def time : Scan TimeOfDay := do
  let hour ← number 1 2
  let _ ← oneOf [':']
  let minute ← number 2 2
  let _ ← oneOf [':']
  let second ← number 2 2
  return { hour := hour, minute := minute, second := second, microsecond := ← fraction }

/-- Reads an offset in seconds. -/
def offset : Scan Int := do
  match ← oneOf ['Z', '+', '-'] with
  | 'Z' => return 0
  | sign =>
    let hours ← number 1 2
    let minutes ← if (← get).head? = some ':' then do
        let _ ← oneOf [':']
        number 2 2
      else pure 0
    let seconds : Int := (hours * 60 + minutes) * 60
    return if sign = '-' then -seconds else seconds

/-- Whether nothing is left but one line end. -/
def atEnd : Scan Bool := fun s =>
  some (s = [] || s = ['\n'], s)

/-- Reads what follows a date. -/
def momentAt (date : Date) : Scan Moment := do
  separator
  let time ← time
  if ← atEnd then return { date := date, time := time }
  gap
  let offset ← offset
  return { date := date, time := time, offset := some offset }

end Scan

/-- A date, or a moment. -/
inductive Timestamp where
  | date (d : Date)
  | moment (m : Moment)

def Timestamp.scan : Scan Timestamp := do
  let date ← Scan.date
  let stamp ← if ← Scan.atEnd then pure (.date date) else .moment <$> Scan.momentAt date
  if ← Scan.atEnd then return stamp else failure

def Timestamp.read (text : Text.Points) : Except Fault Timestamp :=
  match (Text.characters? text).bind Timestamp.scan.run with
  | none => .error .noMoment
  | some (.date d, _) => (d.check.map .date).mapError .calendar
  | some (.moment m, _) => (m.check.map .moment).mapError .calendar

end TalPage.Yaml
