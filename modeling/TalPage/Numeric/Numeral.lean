import TalPage.Numeric.Binary
import TalPage.Text.Blank
import TalPage.Text.Digit
import TalPage.Text.Quoted

/-!
# Numerals

Whole and floating-point numbers as people type them: with blanks around them, a sign, the digits of
any script, and single underscores between digits.
-/

namespace TalPage.Numeric

/-- How many digits a numeral may have in a base that is no power of two. -/
def digitLimit : Nat := 4300

/-- Whether a whole number has no more digits than are written. -/
def isWritable (n : Int) : Bool :=
  n.natAbs < Nat.pow 10 digitLimit

inductive NumeralFault where
  | malformed (base : Nat) (text : Text.Points)
  | tooLong (digits : Nat)
  | malformedFloat (text : Text.Points)
deriving DecidableEq, Repr

def NumeralFault.message : NumeralFault → String
  | .malformed base text =>
    "invalid literal for int() with base " ++ toString base ++ ": " ++
      String.ofList ((Text.quoted text).toList.take 200)
  | .tooLong digits =>
    "Exceeds the limit (" ++ toString digitLimit ++ " digits) for integer string conversion: value has " ++
      toString digits ++ " digits; use sys.set_int_max_str_digits() to increase the limit"
  | .malformedFloat text => "could not convert string to float: " ++ Text.quoted text

/-- The ASCII character that stands for a code point in a numeral: blanks and digits beyond ASCII stand
for their ASCII kin, and all else beyond ASCII for none. -/
def plainChar (n : Nat) : Char :=
  if n < 0x80 then Char.ofNat n
  else if Text.isBlankPoint n then ' '
  else
    match Text.digitValue? n with
    | some d => Char.ofNat ('0'.toNat + d)
    | none => '?'

def isNumeralBlank (c : Char) : Bool :=
  c = ' ' || (0x09 ≤ c.toNat && c.toNat ≤ 0x0D)

/-- The plain characters of a numeral without the blanks around it. -/
def plain (text : Text.Points) : List Char :=
  let cs := (text.map fun p => plainChar p.toNat).dropWhile isNumeralBlank
  (cs.reverse.dropWhile isNumeralBlank).reverse

/-- Whether a numeral is negative, and the numeral without its sign. -/
def splitSign : List Char → Bool × List Char
  | '-' :: s => (true, s)
  | '+' :: s => (false, s)
  | s => (false, s)

/-- The value of a digit or letter, below 36. -/
def alphanumericValue? (c : Char) : Option Nat :=
  if c.isDigit then some (c.toNat - '0'.toNat)
  else if c.isLower then some (c.toNat - 'a'.toNat + 10)
  else if c.isUpper then some (c.toNat - 'A'.toNat + 10)
  else none

/-- The characters without underscores, if every underscore stands between two others. -/
def withoutUnderscores? (s : List Char) : Option (List Char) :=
  let doubled := (s.zip s.tail).any fun (a, b) => a = '_' && b = '_'
  if s.head? = some '_' ∨ s.getLast? = some '_' ∨ doubled then none
  else some (s.filter (· ≠ '_'))

/-- The value of digits in a base. -/
def ofDigits? (base : Nat) (digits : List Char) : Option Nat :=
  if digits = [] then none
  else
    digits.foldl (fun n? c => do
      let n ← n?
      let d ← alphanumericValue? c
      if d < base then some (n * base + d) else none) (some 0)

/-- A numeral without the letter that may announce its base, and an underscore after that. -/
def withoutBaseMark (base : Nat) (s : List Char) : List Char :=
  let marks := match base with
    | 2 => ['b', 'B']
    | 8 => ['o', 'O']
    | 16 => ['x', 'X']
    | _ => []
  match s with
  | '0' :: c :: rest =>
    if c ∈ marks then (if rest.head? = some '_' then rest.tail else rest) else s
  | _ => s

/-- Whether a character may stand among the digits of a base. -/
def isNumeralChar (base : Nat) (c : Char) : Bool :=
  c = '_' || (alphanumericValue? c).any (· < base)

/-- Reads a whole number in a base. The digits at the front are counted before what follows them is looked
at. -/
def readWhole (base : Nat) (text : Text.Points) : Except NumeralFault Int :=
  let (negative, s) := splitSign (plain text)
  let (front, rest) := (withoutBaseMark base s).span (isNumeralChar base)
  match (withoutUnderscores? front).bind fun digits => (ofDigits? base digits).map (digits, ·) with
  | none => .error (.malformed base text)
  | some (digits, n) =>
    if base = 10 ∧ digitLimit < digits.length then .error (.tooLong digits.length)
    else if rest = [] then .ok (if negative then -n else n)
    else .error (.malformed base text)

/-- The digits at the front with single underscores between them, and what follows them. -/
def spanDigits (s : List Char) : List Char × List Char :=
  s.span fun c => c.isDigit || c = '_'

/-- Digits that may be missing. -/
def optionalDigits (s : List Char) : Option (List Char) :=
  if s = [] then some [] else withoutUnderscores? s

/-- The exponent of a float, if there is one. -/
def exponent? (s : List Char) : Option Int :=
  match s with
  | [] => some 0
  | e :: s =>
    if e ≠ 'e' ∧ e ≠ 'E' then none
    else do
      let (negative, s) := splitSign s
      let digits ← withoutUnderscores? s
      let n ← ofDigits? 10 digits
      some (if negative then -n else n)

/-- A finite float without its sign. -/
def magnitude? (negative : Bool) (s : List Char) : Option Binary := do
  let (whole, s) := spanDigits s
  let (fraction, s) := match s with
    | '.' :: s => spanDigits s
    | s => ([], s)
  let whole ← optionalDigits whole
  let fraction ← optionalDigits fraction
  let power ← exponent? s
  let n ← ofDigits? 10 (whole ++ fraction)
  some (.ofDecimal negative n (power - fraction.length))

/-- Reads a floating-point number. -/
def readFloat (text : Text.Points) : Except NumeralFault Binary :=
  let (negative, s) := splitSign (plain text)
  let word := String.ofList (s.map Char.toLower)
  if word = "inf" ∨ word = "infinity" then .ok (.infinite negative)
  else if word = "nan" then .ok .nan
  else
    match magnitude? negative s with
    | some x => .ok x
    | none => .error (.malformedFloat text)

end TalPage.Numeric
