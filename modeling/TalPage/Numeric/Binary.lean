/-!
# Binary64 numbers

Floating-point numbers as exact values, the reading of decimal numerals by rounding to the nearest
number, and the shortest decimal text that reads back as the same number.
-/

namespace TalPage.Numeric

/-- A binary64 number: finite numbers are `m * 2 ^ e` with a sign, where `m < 2 ^ 53` and
`-1074 ≤ e ≤ 971`, and `2 ^ 52 ≤ m` unless `e = -1074`. -/
inductive Binary where
  | finite (negative : Bool) (m : Nat) (e : Int)
  | infinite (negative : Bool)
  | nan
deriving DecidableEq, Repr

/-- The quotient rounded to the nearest natural number, a half to the even one. -/
def roundDiv (num den : Nat) : Nat :=
  let q := num / den
  let r := num % den
  if 2 * r < den then q else if den < 2 * r then q + 1 else q + q % 2

/-- The fraction `num / den * b ^ k`, as numerator and denominator. -/
def scale (num den b : Nat) (k : Int) : Nat × Nat :=
  if 0 ≤ k then (num * Nat.pow b k.toNat, den) else (num, den * Nat.pow b (-k).toNat)

namespace Binary

def zero (negative : Bool) : Binary := .finite negative 0 (-1074)

/-- The least significand of numbers above the least exponent, `2 ^ 52`. -/
def leastNormal : Nat := 0x10000000000000

/-- The number nearest to `num / den`; of two equally near ones that with the even significand. -/
def ofRatio (negative : Bool) (num den : Nat) : Binary :=
  if num = 0 then zero negative
  else
    let guess : Int := num.log2 - den.log2 - 52
    let (n, d) := scale num den 2 (-guess)
    let e := max (-1074) (if n / d < leastNormal then guess - 1 else guess)
    let (n, d) := scale num den 2 (-e)
    let m := roundDiv n d
    let (m, e) := if m = 2 * leastNormal then (leastNormal, e + 1) else (m, e)
    if 971 < e then .infinite negative else .finite negative m e

/-- The number nearest to `digits * 10 ^ k`. Powers far outside the range are not worked out. -/
def ofDecimal (negative : Bool) (digits : Nat) (k : Int) : Binary :=
  let magnitude : Int := (Nat.toDigits 10 digits).length + k
  if digits = 0 ∨ magnitude < -400 then zero negative
  else if 400 < magnitude then .infinite negative
  else
    let (n, d) := scale digits 1 10 k
    ofRatio negative n d

/-- The exact value of a finite number, as numerator and denominator. -/
def toRatio? : Binary → Option (Int × Nat)
  | .finite negative m e =>
    let (n, d) := scale m 1 2 e
    some (if negative then -n else n, d)
  | _ => none

/-- The number nearest to a signed fraction. -/
def ofFraction (num : Int) (den : Nat) : Binary :=
  ofRatio (num < 0) num.natAbs den

def neg : Binary → Binary
  | .finite negative m e => .finite (!negative) m e
  | .infinite negative => .infinite (!negative)
  | .nan => .nan

def add (x y : Binary) : Binary :=
  match x.toRatio?, y.toRatio? with
  | some (a, b), some (c, d) => ofFraction (a * d + c * b) (b * d)
  | none, some _ => x
  | some _, none => y
  | none, none => if x = y then x else .nan

/-- The product with a whole number, which is rounded itself first; there is none if it is too great. -/
def scaleBy? (x : Binary) (k : Nat) : Option Binary :=
  match (ofRatio false k 1).toRatio?, x.toRatio? with
  | none, _ => none
  | some (c, d), some (a, b) => some (if a = 0 then x else ofFraction (a * c) (b * d))
  | some _, none => some x

/-- The whole number that a finite number is, if it is one. -/
def toInt? (x : Binary) : Option Int := do
  let (n, d) ← x.toRatio?
  if n % d = 0 then some (n / d) else none

def isFinite : Binary → Bool
  | .finite .. => true
  | _ => false

/-- The decimal exponent `p` with `10 ^ p ≤ num / den < 10 ^ (p + 1)`. -/
def decimalExponent (num den : Nat) : Int :=
  if den ≤ num then (Nat.toDigits 10 (num / den)).length - 1
  else
    let p : Int := -(Nat.toDigits 10 (den / num)).length
    let (n, d) := scale num den 10 (-(p + 1))
    if d ≤ n then p + 1 else p

/-- The shortest decimal `d * 10 ^ k` that lies among the reals nearest to `m * 2 ^ e`, for `0 < m`;
of two with as few digits the nearer, and of two as near the even. -/
def shortest (m : Nat) (e : Int) : Nat × Int :=
  let below := if m = leastNormal ∧ -1074 < e then 1 else 2
  let (num, den) := scale (4 * m) 1 2 (e - 2)
  let unit := num / (4 * m)
  let lo := num - below * unit
  let hi := num + 2 * unit
  let p := decimalExponent num den
  let reaches (d : Nat) (k : Int) : Bool :=
    let (n, c) := scale d 1 10 k
    let inside := if m % 2 = 0 then lo * c ≤ n * den && n * den ≤ hi * c
      else lo * c < n * den && n * den < hi * c
    inside
  let onGrid (count : Nat) : Option (Nat × Int) :=
    let k := p + 1 - count
    let (n, c) := scale num den 10 (-k)
    let d := n / c
    match reaches d k, reaches (d + 1) k with
    | true, true => some (roundDiv n c, k)
    | true, false => some (d, k)
    | false, true => some (d + 1, k)
    | false, false => none
  ((List.range 17).findSome? fun i => onGrid (i + 1)).getD (m, e)

/-- The digits without trailing zeros. -/
def significant (digits : List Char) : List Char :=
  (digits.reverse.dropWhile (· = '0')).reverse

/-- The shortest text that reads back: positional from `0.0001` to below `10 ^ 16`, always with a
point, and in scientific notation with a signed exponent of at least two digits elsewhere. -/
def text : Binary → String
  | .nan => "nan"
  | .infinite negative => if negative then "-inf" else "inf"
  | .finite negative m e =>
    let sign := if negative then "-" else ""
    if m = 0 then sign ++ "0.0"
    else
      let (d, k) := shortest m e
      let all := Nat.toDigits 10 d
      let point : Int := all.length + k
      let digits := significant all
      if point ≤ -4 ∨ 16 < point then
        let power := point - 1
        let places := Nat.toDigits 10 power.natAbs
        let fraction := match digits.tail with
          | [] => []
          | rest => '.' :: rest
        sign ++ String.ofList (digits.take 1 ++ fraction ++ ['e', if power < 0 then '-' else '+'] ++
          List.replicate (2 - places.length) '0' ++ places)
      else if point ≤ 0 then
        sign ++ "0." ++ String.ofList (List.replicate (-point).toNat '0' ++ digits)
      else
        let whole := digits.take point.toNat
        let fraction := digits.drop point.toNat
        sign ++ String.ofList (whole ++ List.replicate (point.toNat - whole.length) '0' ++ ['.'] ++
          if fraction = [] then ['0'] else fraction)

end Binary

end TalPage.Numeric
