import TalPage.Json.Basic

/-!
# Reading JSON

A text is read as one value with blanks around it. Whole numbers without fraction and exponent are
kept exactly, all others are floats. A key that is repeated keeps its first place and takes the last
value. The three words for numbers that are not finite are read too. Surrogates may stand in a string, and
escapes may name them: only the two halves of a pair, one escape after the other, are one character.
-/

namespace TalPage.Json

open Text (CodePoint Points)

def isJsonBlank (c : Char) : Bool :=
  c = ' ' || c = '\n' || c = '\t' || c = '\r'

def skipBlanks (s : Points) : Points :=
  s.dropWhile (·.isChar isJsonBlank)

def hexValue? (c : Char) : Option Nat :=
  if c.isDigit then some (c.toNat - '0'.toNat)
  else if 'a' ≤ c ∧ c ≤ 'f' then some (c.toNat - 'a'.toNat + 10)
  else if 'A' ≤ c ∧ c ≤ 'F' then some (c.toNat - 'A'.toNat + 10)
  else none

/-- The unit that four hexadecimal digits give, with the text after them. -/
def readUnit : Points → Option (Nat × Points)
  | .char a :: .char b :: .char c :: .char d :: s => do
    let a ← hexValue? a
    let b ← hexValue? b
    let c ← hexValue? c
    let d ← hexValue? d
    some (((a * 16 + b) * 16 + c) * 16 + d, s)
  | _ => none

/-- The low half of a pair, if an escape of one comes next. -/
def readLowUnit? : Points → Option (Nat × Points)
  | .char '\\' :: .char 'u' :: s => (readUnit s).filter fun (low, _) => 0xDC00 ≤ low ∧ low ≤ 0xDFFF
  | _ => none

/-- The code point of a unit escape, after its `u`. A high half with a low one after it is a character with
it, and stands for itself else. -/
def readUnitEscape (s : Points) : Option (CodePoint × Points) := do
  let (high, s) ← readUnit s
  if 0xD800 ≤ high ∧ high ≤ 0xDBFF then
    match readLowUnit? s with
    | some (low, s) => some (.ofNat (0x10000 + (high - 0xD800) * 0x400 + (low - 0xDC00)), s)
    | none => some (.ofNat high, s)
  else some (.ofNat high, s)

def readShortEscape? (c : Char) : Option Char :=
  match c with
  | '"' => some '"'
  | '\\' => some '\\'
  | '/' => some '/'
  | 'b' => some (Char.ofNat 0x08)
  | 'f' => some (Char.ofNat 0x0C)
  | 'n' => some '\n'
  | 'r' => some '\r'
  | 't' => some '\t'
  | _ => none

/-- The code point of an escape, after its backslash. -/
def readEscape : Points → Option (CodePoint × Points)
  | .char 'u' :: s => readUnitEscape s
  | .char e :: s => (readShortEscape? e).map fun c => (.char c, s)
  | _ => none

/-- The code points up to the closing quote, and the text after it. -/
def readString : (fuel : Nat) → Points → Option (Points × Points)
  | fuel + 1, p :: s =>
    if p = .char '"' then some ([], s)
    else if p = .char '\\' then do
      let (q, s) ← readEscape s
      let (points, s) ← readString fuel s
      some (q :: points, s)
    else if p.toNat < 0x20 then none
    else do
      let (points, s) ← readString fuel s
      some (p :: points, s)
  | _, _ => none

/-- The digits at the front, and the text after them. -/
def spanDigits : Points → List Char × Points
  | .char c :: s =>
    if c.isDigit then
      let (digits, rest) := spanDigits s
      (c :: digits, rest)
    else ([], .char c :: s)
  | s => ([], s)

/-- The digits after a point, if there is one. -/
def readFraction : Points → Option (Option (List Char) × Points)
  | .char '.' :: s =>
    let (digits, s) := spanDigits s
    if digits = [] then none else some (some digits, s)
  | s => some (none, s)

/-- The value of an exponent, if there is one. -/
def readExponent (s : Points) : Option (Option Int × Points) :=
  if s.head? = some (.char 'e') ∨ s.head? = some (.char 'E') then
    let (negative, s) := match s.tail with
      | .char '-' :: s => (true, s)
      | .char '+' :: s => (false, s)
      | s => (false, s)
    let (digits, s) := spanDigits s
    let n : Int := Nat.ofDigitChars 10 digits 0
    if digits = [] then none else some (some (if negative then -n else n), s)
  else some (none, s)

/-- A number without its sign. -/
def readMagnitude (negative : Bool) (s : Points) : Option (Json × Points) := do
  let (whole, s) := spanDigits s
  if whole = [] ∨ (whole.head? = some '0' ∧ 1 < whole.length) then none
  let (fraction, s) ← readFraction s
  let (exponent, s) ← readExponent s
  if fraction.isNone ∧ exponent.isNone then
    let n : Int := Nat.ofDigitChars 10 whole 0
    some (.int (if negative then -n else n), s)
  else
    let digits := whole ++ fraction.getD []
    let power := exponent.getD 0 - (fraction.getD []).length
    some (.float (.ofDecimal negative (Nat.ofDigitChars 10 digits 0) power), s)

/-- The words that stand for values. -/
def words : List (String × Json) :=
  [("null", .null), ("true", .bool true), ("false", .bool false), ("NaN", .float .nan),
    ("Infinity", .float (.infinite false)), ("-Infinity", .float (.infinite true))]

def readWord (s : Points) : Option (Json × Points) :=
  words.findSome? fun (word, value) =>
    if (Text.points word).isPrefixOf s then some (value, s.drop word.length) else none

/-- Adds a member; a key that is there already keeps its place. -/
def insertMember (members : List (Points × Json)) (key : Points) (value : Json) :
    List (Points × Json) :=
  if members.any (·.1 == key) then members.map fun m => if m.1 == key then (key, value) else m
  else members ++ [(key, value)]

mutual
def readValue : (fuel : Nat) → Points → Option (Json × Points)
  | 0, _ => none
  | fuel + 1, s =>
    match s with
    | .char '"' :: rest => (readString fuel rest).map fun (s, rest) => (.string s, rest)
    | .char '[' :: rest =>
      match skipBlanks rest with
      | .char ']' :: rest => some (.array [], rest)
      | rest => readElements fuel [] rest
    | .char '{' :: rest =>
      match skipBlanks rest with
      | .char '}' :: rest => some (.object [], rest)
      | rest => readMembers fuel [] rest
    | .char '-' :: rest => (readMagnitude true rest).or (readWord s)
    | .char c :: _ => if c.isDigit then readMagnitude false s else readWord s
    | _ => none

/-- Elements up to the closing bracket, after those in `done`. -/
def readElements : (fuel : Nat) → (done : List Json) → Points → Option (Json × Points)
  | 0, _, _ => none
  | fuel + 1, done, s => do
    let (value, rest) ← readValue fuel s
    match skipBlanks rest with
    | .char ']' :: rest => some (.array (done ++ [value]), rest)
    | .char ',' :: rest => readElements fuel (done ++ [value]) (skipBlanks rest)
    | _ => none

/-- Members up to the closing brace, after those in `done`. -/
def readMembers : (fuel : Nat) → (done : List (Points × Json)) → Points → Option (Json × Points)
  | 0, _, _ => none
  | fuel + 1, done, s =>
    match s with
    | .char '"' :: rest => do
      let (key, rest) ← readString fuel rest
      match skipBlanks rest with
      | .char ':' :: rest =>
        let (value, rest) ← readValue fuel (skipBlanks rest)
        let done := insertMember done key value
        match skipBlanks rest with
        | .char '}' :: rest => some (.object done, rest)
        | .char ',' :: rest => readMembers fuel done (skipBlanks rest)
        | _ => none
      | _ => none
    | _ => none
end

/-- The value that a text stands for. -/
def ofText? (text : Points) : Option Json := do
  let (value, rest) ← readValue (text.length + 1) (skipBlanks text)
  if skipBlanks rest = [] then some value else none

end TalPage.Json
