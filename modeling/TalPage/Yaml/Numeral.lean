import TalPage.Numeric.Numeral
import TalPage.Text.Lower
import TalPage.Yaml.Fault

/-!
# Numerals

The numbers that scalars stand for: whole numbers in base two, eight, ten, sixteen and sixty, and
floats in base ten and sixty. Underscores mean nothing.
-/

namespace TalPage.Yaml

open Numeric (Binary NumeralFault)
open Text (CodePoint)

/-- Whether a numeral has a minus, and the numeral without its sign. -/
def splitSign (text : Text.Points) : Except Fault (Bool × Text.Points) :=
  match text with
  | [] => .error .emptyNumeral
  | c :: rest =>
    if c = '-' then .ok (true, rest)
    else if c = '+' then .ok (false, rest)
    else .ok (false, text)

def withoutUnderscores (text : Text.Points) : Text.Points :=
  text.filter (· ≠ .char '_')

def readDigits (base : Nat) (digits : Text.Points) : Except Fault Int :=
  (Numeric.readWhole base digits).mapError .numeral

def readDecimal (digits : Text.Points) : Except Fault Binary :=
  (Numeric.readFloat digits).mapError .numeral

/-- The digits of a number in base sixty. -/
def splitSixtieths (text : Text.Points) : List Text.Points :=
  text.splitOn (.char ':')

/-- The whole number without its sign. -/
def readUnsigned (text : Text.Points) : Except Fault Int :=
  if text = [] then .error .emptyNumeral
  else if text = Text.points "0" then .ok 0
  else if (Text.points "0b").isPrefixOf text then readDigits 2 (text.drop 2)
  else if (Text.points "0x").isPrefixOf text then readDigits 16 (text.drop 2)
  else if (Text.points "0").isPrefixOf text then readDigits 8 text
  else if CodePoint.char ':' ∈ text then do
    let digits ← (splitSixtieths text).mapM (readDigits 10)
    return digits.foldl (fun n d => n * 60 + d) 0
  else readDigits 10 text

def readInt (text : Text.Points) : Except Fault Int := do
  let (negative, text) ← splitSign (withoutUnderscores text)
  let n ← readUnsigned text
  return if negative then -n else n

/-- The sum of digits in base sixty, the last one first; the digit after them counts `60 ^ power`. -/
def sumSixtieths (power : Nat) (sum : Binary) : List Binary → Except Fault Binary
  | [] => .ok sum
  | digit :: digits =>
    match digit.scaleBy? (Nat.pow 60 power) with
    | some x => sumSixtieths (power + 1) (sum.add x) digits
    | none => .error .overflow

/-- A float. The word for what is not a number gives none: it stands for the same value wherever it
stands, while any other float is a value of its own. -/
def readFloat? (text : Text.Points) : Except Fault (Option Binary) := do
  let (negative, text) ← splitSign (Text.lower (withoutUnderscores text))
  if text = Text.points ".nan" then return none
  let x ←
    if text = Text.points ".inf" then .ok (.infinite false)
    else if CodePoint.char ':' ∈ text then do
      let digits ← (splitSixtieths text).mapM readDecimal
      sumSixtieths 0 (.zero false) digits.reverse
    else readDecimal text
  return some (if negative then x.neg else x)

end TalPage.Yaml
