import TalPage.Markup.Reader

/-!
# Cursor

A place in a text that moves forward one character at a time. The position may start anywhere: a
negative one counts from the end of the text, and one past the text is at the end. From a position of
the text a cursor reads nodes and their parts, one after another.
-/

namespace TalPage.Markup

structure Cursor where
  source : List Char
  position : Int := 0
deriving DecidableEq, Repr

namespace Cursor

/-- Why there is no character at a position before the end. -/
inductive PositionFault where
  /-- It lies before the start of the text. -/
  | beforeStart
  /-- It lies further back than any text can reach. -/
  | outOfReach
deriving DecidableEq, Repr

def PositionFault.message : PositionFault → String
  | .beforeStart => "string index out of range"
  | .outOfReach => "cannot fit 'int' into an index-sized integer"

/-- The least position that an index into a text can have. -/
def leastIndex : Int := -0x8000000000000000

def atEnd (c : Cursor) : Bool :=
  c.source.length ≤ c.position

/-- The character at the cursor, or none at the end. -/
def peek (c : Cursor) : Except PositionFault (Option Char) :=
  if c.atEnd then .ok none
  else if c.position < leastIndex then .error .outOfReach
  else
    let index := if c.position < 0 then c.position + c.source.length else c.position
    if index < 0 then .error .beforeStart
    else .ok c.source[index.toNat]?

/-- The character at the cursor, with the cursor moved past it; at the end nothing moves. -/
def advance (c : Cursor) : Except PositionFault (Option Char × Cursor) := do
  match ← c.peek with
  | none => pure (none, c)
  | some char => pure (some char, { c with position := c.position + 1 })

/-- The text from the cursor on, for a position within the text. -/
def rest (c : Cursor) : List Char :=
  c.source.drop c.position.toNat

/-- The cursor at the place where `rest` is left of its text. -/
def withRest (c : Cursor) (rest : List Char) : Cursor :=
  { c with position := c.source.length - rest.length }

/-! ## Reading from a cursor -/

/-- The position is one of the text; its end is one. -/
def Within (c : Cursor) : Prop :=
  0 ≤ c.position ∧ c.position ≤ c.source.length

instance (c : Cursor) : Decidable c.Within :=
  inferInstanceAs (Decidable (_ ∧ _))

/-- Reads one node at `depth`: its HTML, if it is one, or the report of a failure, and the cursor where
the reading stopped. -/
def readNode (rules : Rules) (depth : Int) (c : Cursor) : Except Report (Option String) × Cursor :=
  match Markup.readNode rules depth c.rest with
  | .ok (html, rest) => (.ok html, c.withRest rest)
  | .error fault => (.error (fault.report c.source), c.withRest fault.rest)

/-- Reads as many modifiers as follow into an element. -/
def readModifiers (e : Element) (c : Cursor) : Element × Cursor :=
  let (e, rest) := Markup.readModifiers e c.rest
  (e, c.withRest rest)

/-- The cursor moved to the first root marker, or to the end of a text that has none. -/
def toRoot (c : Cursor) : Cursor :=
  c.withRest (findRoot c.rest)

end Cursor

end TalPage.Markup
