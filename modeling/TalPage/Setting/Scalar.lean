import TalPage.Json.Basic
import TalPage.Setting.Moment
import TalPage.Text.CodePoint

/-!
# Scalar settings

What a setting can be that holds no other settings, and which of them are the same key of a mapping.
-/

namespace TalPage

inductive Scalar where
  | null
  | bool (b : Bool)
  | int (n : Int)
  | float (x : Numeric.Binary)
  | text (s : Text.Points)
  | bytes (bs : List UInt8)
  | date (d : Date)
  | moment (m : Moment)
deriving DecidableEq, Repr

namespace Scalar

/-- The exact number that a scalar is, as numerator and denominator; truth values count as one and
zero. -/
def number? : Scalar → Option (Int × Nat)
  | .bool b => some (if b then 1 else 0, 1)
  | .int n => some (n, 1)
  | .float x => x.toRatio?
  | _ => none

/-- Whether two scalars are equal as keys: numbers are compared by their exact values, whatever their
kind. What is not a number is equal to nothing. -/
def sameKey : Scalar → Scalar → Bool
  | .null, .null => true
  | .text s, .text t => s == t
  | .bytes s, .bytes t => s == t
  | .date d, .date e => d == e
  | .moment d, .moment e => d.same e
  | .float (.infinite s), .float (.infinite t) => s == t
  | x, y =>
    match x.number?, y.number? with
    | some (a, b), some (c, d) => a * d == c * b
    | _, _ => false

/-- Whether a document that is only this scalar counts as empty. -/
def isBlank : Scalar → Bool
  | .null => true
  | .bool b => !b
  | .int n => n = 0
  | .float x => x.toRatio?.any (·.1 = 0)
  | .text s => s = []
  | .bytes bs => bs = []
  | _ => false

end Scalar

end TalPage
