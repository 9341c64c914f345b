import TalPage.Json.Stable

/-!
# JSON inside a script

A value on one line, in printable ASCII and without the characters that mean something to the HTML
around a script: those are written by their code.
-/

namespace TalPage.Json

open Text (CodePoint Points)

/-- A code point as one four-digit escape, or as two for the halves of its surrogate pair. -/
def unitEscape (n : Nat) : List Char :=
  if n < 0x10000 then '\\' :: 'u' :: Text.hexDigits 4 n
  else
    '\\' :: 'u' :: Text.hexDigits 4 (0xD800 + (n - 0x10000) / 0x400) ++
      '\\' :: 'u' :: Text.hexDigits 4 (0xDC00 + (n - 0x10000) % 0x400)

/-- The characters that could end a script or an attribute. -/
def isMarkup (c : Char) : Bool :=
  c ∈ ['<', '>', '&', '\'']

def scriptChar (c : Char) : List Char :=
  match shortEscape? c with
  | some short => ['\\', short]
  | none =>
    if c.toNat < 0x20 ∨ 0x7E < c.toNat ∨ isMarkup c then unitEscape c.toNat else [c]

/-- A code point inside a string. -/
def scriptPoint : CodePoint → List Char
  | .char c => scriptChar c
  | .surrogate n => unitEscape (CodePoint.surrogate n).toNat

def scriptString (s : Points) : List Char :=
  '"' :: s.flatMap scriptPoint ++ ['"']

mutual
/-- The text of a value on one line, members in their order. -/
def inLine : Json → List Char
  | .null => "null".toList
  | .bool true => "true".toList
  | .bool false => "false".toList
  | .int n => intText n
  | .float x => floatText x
  | .string s => scriptString s
  | .array [] => ['[', ']']
  | .array (value :: elements) => '[' :: inLine value ++ inLineElements elements ++ [']']
  | .object [] => ['{', '}']
  | .object ((key, value) :: members) =>
    '{' :: scriptString key ++ [':', ' '] ++ inLine value ++ inLineMembers members ++ ['}']

def inLineElements : List Json → List Char
  | [] => []
  | value :: elements => ',' :: ' ' :: inLine value ++ inLineElements elements

def inLineMembers : List (Points × Json) → List Char
  | [] => []
  | (key, value) :: members =>
    ',' :: ' ' :: scriptString key ++ [':', ' '] ++ inLine value ++ inLineMembers members
end

/-- The text of a value for a script, with sorted members. -/
def scriptText (value : Json) : String :=
  String.ofList (inLine value.sorted)

end TalPage.Json
