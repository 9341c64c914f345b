import TalPage.Yaml.Fault

/-!
# Places in a document

Moving through the text of a document with the line and column in view, and the classes of characters
that the rules of the format speak of. The end of the text counts as the end of a line.
-/

namespace TalPage.Yaml

structure Place where
  rest : List Char
  /-- The number of characters of the whole text. -/
  size : Nat := rest.length
  index : Nat := 0
  line : Nat := 0
  column : Nat := 0
deriving Repr

/-- Whether a character may stand in a document. -/
def isAllowed (c : Char) : Bool :=
  let n := c.toNat
  n = 0x09 || n = 0x0A || n = 0x0D || (0x20 ≤ n && n ≤ 0x7E) || n = 0x85 ||
    (0xA0 ≤ n && n ≤ 0xFFFD) || 0x10000 ≤ n

/-- The mark of the byte order, which takes no column. -/
def isByteOrderMark (c : Char) : Bool :=
  c.toNat = 0xFEFF

def isBreak (c : Char) : Bool :=
  c = '\n' || c = '\r' || c.toNat = 0x85 || c.toNat = 0x2028 || c.toNat = 0x2029

def isGap (c : Char) : Bool :=
  c = ' ' || c = '\t'

/-- Whether a line ends here. -/
def endsLine (c? : Option Char) : Bool :=
  c?.all isBreak

/-- Whether a part of a line ends here that only spaces separate. -/
def endsPart (c? : Option Char) : Bool :=
  c?.all fun c => c = ' ' || isBreak c

/-- Whether a word ends here. -/
def endsWord (c? : Option Char) : Bool :=
  c?.all fun c => isGap c || isBreak c

/-- Whether a character may stand in the name of an anchor or a handle. -/
def isNameChar (c : Char) : Bool :=
  c.isAlphanum || c = '-' || c = '_'

namespace Place

/-- The number of characters that are left. -/
def left (p : Place) : Nat := p.size - p.index

def peek (p : Place) : Option Char := p.rest.head?

def peekAt (p : Place) (n : Nat) : Option Char := p.rest[n]?

/-- The place after one character. -/
def next (p : Place) : Place :=
  match p.rest with
  | [] => p
  | c :: rest =>
    if isBreak c ∧ ¬(c = '\r' ∧ rest.head? = some '\n') then
      { p with rest := rest, index := p.index + 1, line := p.line + 1, column := 0 }
    else
      { p with
        rest := rest, index := p.index + 1
        column := if isByteOrderMark c then p.column else p.column + 1 }

/-- The place after `n` characters. -/
def skip : (n : Nat) → Place → Place
  | 0, p => p
  | n + 1, p => skip n p.next

/-- The characters from here on for which `keep` holds, and the place after them. -/
def takeWhile (p : Place) (keep : Char → Bool) : List Char × Place :=
  let taken := p.rest.takeWhile keep
  (taken, skip taken.length p)

def skipWhile (p : Place) (keep : Char → Bool) : Place :=
  (p.takeWhile keep).2

def skipSpaces (p : Place) : Place :=
  p.skipWhile (· = ' ')

/-- The line break here, and the place after it: a line feed for most of them. -/
def lineBreak? (p : Place) : Option (Char × Place) :=
  match p.rest with
  | '\r' :: '\n' :: _ => some ('\n', skip 2 p)
  | c :: _ =>
    if !isBreak c then none
    else if c.toNat = 0x2028 ∨ c.toNat = 0x2029 then some (c, p.next)
    else some ('\n', p.next)
  | [] => none

/-- Whether the line from here on is a mark between documents. -/
def atDocumentMark (p : Place) (mark : Char) : Bool :=
  p.rest.take 3 = [mark, mark, mark] && endsWord (p.peekAt 3)

def atDocumentEdge (p : Place) : Bool :=
  p.atDocumentMark '-' || p.atDocumentMark '.'

/-- What is left of a line when only a comment may follow. -/
def finishLine (p : Place) : Except Fault Place :=
  let p := p.skipSpaces
  let p := if p.peek = some '#' then p.skipWhile (!isBreak ·) else p
  if endsLine p.peek then .ok ((p.lineBreak?.map (·.2)).getD p) else .error .malformed

end Place

end TalPage.Yaml
