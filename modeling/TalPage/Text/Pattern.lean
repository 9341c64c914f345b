/-!
# Patterns

Regular sets of texts, matched one character at a time: what may follow the first character of a
match is a pattern again.
-/

namespace TalPage.Text

inductive Pattern where
  | never
  | empty
  | one (keep : Char → Bool)
  | both (first second : Pattern)
  | either (p q : Pattern)
  | many (p : Pattern)

namespace Pattern

def char (c : Char) : Pattern := .one (· = c)

def digit : Pattern := .one Char.isDigit

def charIn (s : String) : Pattern := .one (· ∈ s.toList)

def sequence (ps : List Pattern) : Pattern := ps.foldr .both .empty

def anyOf (ps : List Pattern) : Pattern := ps.foldr .either .never

def word (s : String) : Pattern := sequence (s.toList.map char)

def anyWord (ws : List String) : Pattern := anyOf (ws.map word)

def maybe (p : Pattern) : Pattern := .either p .empty

def repeated (p : Pattern) : Pattern := .both p (.many p)

/-- Whether the empty text matches. -/
def admitsEmpty : Pattern → Bool
  | never => false
  | empty => true
  | one _ => false
  | both p q => p.admitsEmpty && q.admitsEmpty
  | either p q => p.admitsEmpty || q.admitsEmpty
  | many _ => true

/-- Both in a row, without parts that say nothing. -/
def follow : Pattern → Pattern → Pattern
  | never, _ => never
  | empty, q => q
  | p, q => both p q

/-- Either of the two, without one that nothing matches. -/
def merge : Pattern → Pattern → Pattern
  | never, q => q
  | p, never => p
  | p, q => either p q

/-- What follows a first character in the texts that match. -/
def after (c : Char) : Pattern → Pattern
  | never => never
  | empty => never
  | one keep => if keep c then empty else never
  | both p q =>
    let rest := (p.after c).follow q
    if p.admitsEmpty then rest.merge (q.after c) else rest
  | either p q => (p.after c).merge (q.after c)
  | many p => (p.after c).follow (many p)

def accepts (p : Pattern) (cs : List Char) : Bool :=
  (cs.foldl (fun p c => p.after c) p).admitsEmpty

end Pattern

end TalPage.Text
