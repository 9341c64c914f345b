import TalPage.Setting.Issue
import TalPage.Text.Blank

/-!
# Whole numbers as settings

A whole number may be written as text: with blanks around it, a sign, leading zeros, single
underscores between its digits, and a fraction of zeros.
-/

namespace TalPage.WholeNumber

/-- How many digits a numeral may have. -/
def digitLimit : Nat := 4300

/-- White space without the four information separators. -/
def isSpace (c : Char) : Bool :=
  Text.isBlank c && !(0x1C ≤ c.toNat && c.toNat ≤ 0x1F)

def trimSpace (cs : List Char) : List Char :=
  ((cs.dropWhile isSpace).reverse.dropWhile isSpace).reverse

/-- Whether too many digits stand at the front, after a minus at most. A numeral that starts with a zero
is not counted. -/
def isTooLong (s : List Char) : Bool :=
  let s := if s.head? = some '-' then s.tail else s
  s.head? ≠ some '0' && digitLimit < (s.takeWhile Char.isDigit).length

/-- What follows the zeros and underscores after `last`, one of them; the last of all is kept, and so
is the one before a point. A minus may follow them. -/
def afterZeros (last : Char) : List Char → Option (List Char)
  | [] => some [last]
  | c :: s =>
    if c = '0' ∨ c = '_' then afterZeros c s
    else if c = '.' then some (last :: c :: s)
    else if c.isDigit ∨ c = '-' then some (c :: s)
    else none

/-- A numeral without its leading zeros; it has to start with a digit or a minus. -/
def withoutLeadingZeros : List Char → Option (List Char)
  | [] => none
  | c :: s =>
    if c = '0' then afterZeros c s
    else if c.isDigit ∨ c = '-' then some (c :: s)
    else none

/-- A numeral without a fraction of zeros, of which there is one at least after a point. -/
def withoutFraction (s : List Char) : Option (List Char) :=
  match s.dropWhile (· ≠ '.') with
  | [] => some s
  | _ :: fraction =>
    if fraction ≠ [] ∧ fraction.all (· = '0') then some (s.takeWhile (· ≠ '.')) else none

/-- A numeral without its underscores, each of which stands between two digits. -/
def withoutUnderscores (s : List Char) : Option (List Char) :=
  let stray := (s.zip s.tail).any fun (a, b) => (a = '_' && !b.isDigit) || (b = '_' && !a.isDigit)
  if s.head? = some '_' ∨ s.getLast? = some '_' ∨ stray then none
  else some (s.filter (· ≠ '_'))

/-- The value of digits, the first of which is no zero unless it is the only one. -/
def ofDigits? (s : List Char) : Option Int :=
  if s = [] ∨ s.any (!·.isDigit) ∨ (s.head? = some '0' ∧ s ≠ ['0']) ∨ digitLimit < s.length then none
  else some (Nat.ofDigitChars 10 s 0 : Nat)

/-- The sign is taken off before anything else. -/
def unsigned : List Char → Option (List Char)
  | '+' :: '-' :: _ => none
  | '+' :: s => some s
  | s => some s

def clean (s : List Char) : Option (List Char) := do
  let s ← unsigned (trimSpace s)
  let s ← withoutLeadingZeros s
  let s ← withoutFraction s
  withoutUnderscores s

/-- The number that a clean numeral stands for. -/
def ofClean? : List Char → Option Int
  | '-' :: digits => (ofDigits? digits).map (- ·)
  | digits => ofDigits? digits

/-- The number a text stands for. -/
def ofText (s : List Char) : Except Complaint Int :=
  if isTooLong s then .error .intParsingSize
  else
    match (clean s).bind ofClean? with
    | some n => .ok n
    | none => .error .intParsing

end TalPage.WholeNumber
