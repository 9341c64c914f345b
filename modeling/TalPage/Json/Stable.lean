import TalPage.Json.Basic
import TalPage.Numeric.Numeral
import TalPage.Text.Quoted

/-!
# Stable JSON text

One text for each value: sorted members, two spaces of indentation for each level, every element and
member on a line of its own, and a line feed at the end. Characters beyond ASCII stand for
themselves. A value has no text that holds a number with too many digits, or that is nested too deep.
-/

namespace TalPage.Json

open Text (CodePoint Points)

/-- The short escape of a character, for those that have one. -/
def shortEscape? (c : Char) : Option Char :=
  if c = '"' ∨ c = '\\' then some c
  else if c = '\n' then some 'n'
  else if c = '\r' then some 'r'
  else if c = '\t' then some 't'
  else if c.toNat = 0x08 then some 'b'
  else if c.toNat = 0x0C then some 'f'
  else none

/-- A character inside a string: control characters are escaped. -/
def stableChar (c : Char) : List Char :=
  match shortEscape? c with
  | some short => ['\\', short]
  | none => if c.toNat < 0x20 then '\\' :: 'u' :: Text.hexDigits 4 c.toNat else [c]

/-- A code point inside a string: a surrogate stands for itself. -/
def stablePoint : CodePoint → Points
  | .char c => Text.pointsOf (stableChar c)
  | .surrogate n => [.surrogate n]

def stableString (s : Points) : Points :=
  .char '"' :: s.flatMap stablePoint ++ [.char '"']

/-- A new line at a level of indentation. -/
def lineBreak (level : Nat) : Points :=
  .char '\n' :: List.replicate (2 * level) (.char ' ')

mutual
/-- The text of a value that starts at a level of indentation. -/
def laidOut (level : Nat) : Json → Points
  | .null => "null"
  | .bool true => "true"
  | .bool false => "false"
  | .int n => Text.pointsOf (intText n)
  | .float x => Text.pointsOf (floatText x)
  | .string s => stableString s
  | .array [] => [.char '[', .char ']']
  | .array (value :: elements) =>
    .char '[' :: lineBreak (level + 1) ++ laidOut (level + 1) value ++
      laidOutElements (level + 1) elements ++ lineBreak level ++ [.char ']']
  | .object [] => [.char '{', .char '}']
  | .object ((key, value) :: members) =>
    .char '{' :: lineBreak (level + 1) ++ stableString key ++ [.char ':', .char ' '] ++ laidOut (level + 1) value ++
      laidOutMembers (level + 1) members ++ lineBreak level ++ [.char '}']

/-- The elements after the first. -/
def laidOutElements (level : Nat) : List Json → Points
  | [] => []
  | value :: elements =>
    .char ',' :: lineBreak level ++ laidOut level value ++ laidOutElements level elements

/-- The members after the first. -/
def laidOutMembers (level : Nat) : List (Points × Json) → Points
  | [] => []
  | (key, value) :: members =>
    .char ',' :: lineBreak level ++ stableString key ++ [.char ':', .char ' '] ++ laidOut level value ++
      laidOutMembers level members
end

/-- Why a value has no text. -/
inductive DumpFault where
  /-- A whole number has more digits than are written. -/
  | tooManyDigits
  /-- Arrays and objects stand inside each other deeper than calls can be opened to write them. -/
  | tooDeep
deriving DecidableEq, Repr

def DumpFault.message : DumpFault → String
  | .tooManyDigits =>
    "Exceeds the limit (" ++ toString Numeric.digitLimit ++ " digits) for integer string conversion; " ++
      "use sys.set_int_max_str_digits() to increase the limit"
  | .tooDeep => "maximum recursion depth exceeded while calling a Python object"

mutual
/-- The first thing that keeps a value from being written when `room` calls can still be opened inside each
other: each array and each object with something in it takes one for what is in it. -/
def fault? (room : Nat) : Json → Option DumpFault
  | .int n => if Numeric.isWritable n then none else some .tooManyDigits
  | .array (value :: elements) =>
    match room with
    | 0 => some .tooDeep
    | room + 1 => (fault? room value).or (elementsFault? room elements)
  | .object ((_, value) :: members) =>
    match room with
    | 0 => some .tooDeep
    | room + 1 => (fault? room value).or (membersFault? room members)
  | _ => none

def elementsFault? (room : Nat) : List Json → Option DumpFault
  | [] => none
  | value :: elements => (fault? room value).or (elementsFault? room elements)

def membersFault? (room : Nat) : List (Points × Json) → Option DumpFault
  | [] => none
  | (_, value) :: members => (fault? room value).or (membersFault? room members)
end

/-- The stable text of a value, when `room` calls can still be opened inside each other. -/
def stableText (room : Nat) (value : Json) : Except DumpFault Points :=
  match value.sorted.fault? room with
  | some fault => .error fault
  | none => .ok (laidOut 0 value.sorted ++ [.char '\n'])

end TalPage.Json
