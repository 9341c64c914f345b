import TalPage.Yaml.Scalar

/-!
# Cutting a document into tokens

Indentation opens and closes collections, and a colon makes a key of what stands before it on its
line. What may still turn out to be a key is remembered for each level of brackets.
-/

namespace TalPage.Yaml

/-- What may turn out to be a key: the number of its first token and where it starts. It has to be
one if it is the first on its line in a block. -/
structure Candidate where
  token : Nat
  required : Bool
  index : Nat
  line : Nat
  column : Nat

structure Lexer where
  place : Place
  /-- The tokens so far, the last one first. -/
  taken : List Token := []
  /-- The number of tokens so far. -/
  count : Nat := 0
  /-- The number of brackets that are open. -/
  flow : Nat := 0
  /-- The column of the innermost block collection. -/
  indent : Int := -1
  /-- The columns of the collections around it. -/
  outer : List Int := []
  /-- Whether a key may start here. -/
  keyAllowed : Bool := true
  candidates : List (Nat × Candidate) := []

namespace Lexer

/-- How far a key may reach from its start to its colon. -/
def keyReach : Nat := 1024

def push (l : Lexer) (t : Token) : Lexer :=
  { l with taken := t :: l.taken, count := l.count + 1 }

/-- Puts a token in as number `position`, before those from there on. -/
def insert (l : Lexer) (position : Nat) (t : Token) : Lexer :=
  let later := l.count - position
  { l with taken := l.taken.take later ++ t :: l.taken.drop later, count := l.count + 1 }

/-- Takes one character as a token. -/
def pushNext (l : Lexer) (t : Token) : Lexer :=
  { l.push t with place := l.place.next }

/-- The place after blanks, comments and line ends; a new line in a block may start with a key. -/
def skipToToken : (fuel : Nat) → Lexer → Lexer
  | 0, l => l
  | fuel + 1, l =>
    let p := l.place.skipSpaces
    let p := if p.peek = some '#' then p.skipWhile (!isBreak ·) else p
    match p.lineBreak? with
    | some (_, p) => skipToToken fuel { l with place := p, keyAllowed := l.keyAllowed || l.flow = 0 }
    | none => { l with place := p }

/-- Whether a candidate is out of reach. -/
def isStale (l : Lexer) (c : Candidate) : Bool :=
  c.line ≠ l.place.line || keyReach < l.place.index - c.index

/-- The number of tokens at the front that no later one can come before. -/
def settled (l : Lexer) : Nat :=
  l.candidates.foldl (fun n (_, c) => if l.isStale c then n else min n c.token) l.count

/-- Drops the candidates that are out of reach; one that had to be a key is a fault. -/
def dropStale (l : Lexer) : Except Fault Lexer :=
  if l.candidates.any fun (_, c) => l.isStale c && c.required then .error .malformed
  else .ok { l with candidates := l.candidates.filter fun (_, c) => !l.isStale c }

/-- Drops the candidate of this level; one that had to be a key is a fault. -/
def dropCandidate (l : Lexer) : Except Fault Lexer :=
  match l.candidates.lookup l.flow with
  | some c =>
    if c.required then .error .malformed
    else .ok { l with candidates := l.candidates.filter (·.1 ≠ l.flow) }
  | none => .ok l

/-- Remembers the next token as a candidate, if a key may start here. -/
def saveCandidate (l : Lexer) : Except Fault Lexer := do
  if !l.keyAllowed then return l
  let l ← l.dropCandidate
  let p := l.place
  let c : Candidate :=
    { token := l.count, required := l.flow = 0 && l.indent = p.column, index := p.index,
      line := p.line, column := p.column }
  return { l with candidates := (l.flow, c) :: l.candidates }

/-- Ends the block collections that are indented deeper than a column. -/
def unwind (l : Lexer) (column : Int) : Lexer :=
  if l.flow ≠ 0 then l
  else
    let columns := l.indent :: l.outer
    let ended := columns.takeWhile (column < ·)
    match columns.drop ended.length with
    | [] => l
    | indent :: outer => ended.foldl (fun l _ => l.push .blockEnd) { l with indent := indent, outer := outer }

/-- Starts a block collection at a column that is deeper than the innermost one, with the token for it
put in as number `position`. -/
def indentTo (l : Lexer) (column : Nat) (start : Token) (position : Nat) : Lexer :=
  if l.indent < column then
    { l.insert position start with indent := column, outer := l.indent :: l.outer }
  else l

/-- Takes the three characters of a mark between documents, or a directive, after all that is open. -/
def atMargin (l : Lexer) : Except Fault Lexer := do
  let l ← (l.unwind (-1)).dropCandidate
  return { l with keyAllowed := false }

def openFlow (l : Lexer) (t : Token) : Except Fault Lexer := do
  let l ← l.saveCandidate
  return { l.pushNext t with flow := l.flow + 1, keyAllowed := true }

def closeFlow (l : Lexer) (t : Token) : Except Fault Lexer := do
  let l ← l.dropCandidate
  return { l.pushNext t with flow := l.flow - 1, keyAllowed := false }

def flowEntry (l : Lexer) : Except Fault Lexer := do
  let l ← l.dropCandidate
  return { l.pushNext .flowEntry with keyAllowed := true }

def blockEntry (l : Lexer) : Except Fault Lexer := do
  if l.flow = 0 ∧ !l.keyAllowed then throw .malformed
  let l := if l.flow = 0 then l.indentTo l.place.column .blockSequenceStart l.count else l
  let l ← l.dropCandidate
  return { l.pushNext .blockEntry with keyAllowed := true }

def explicitKey (l : Lexer) : Except Fault Lexer := do
  if l.flow = 0 ∧ !l.keyAllowed then throw .malformed
  let l := if l.flow = 0 then l.indentTo l.place.column .blockMappingStart l.count else l
  let l ← l.dropCandidate
  return { l.pushNext .key with keyAllowed := l.flow = 0 }

/-- A colon: the candidate of this level becomes a key, and may start a mapping at its column. -/
def value (l : Lexer) : Except Fault Lexer := do
  match l.candidates.lookup l.flow with
  | some c =>
    let l :=
      { l.insert c.token .key with
        candidates := l.candidates.filter (·.1 ≠ l.flow), keyAllowed := false }
    let l := if l.flow = 0 then l.indentTo c.column .blockMappingStart c.token else l
    return l.pushNext .value
  | none =>
    if l.flow = 0 ∧ !l.keyAllowed then throw .malformed
    let l := if l.flow = 0 then l.indentTo l.place.column .blockMappingStart l.count else l
    let l ← l.dropCandidate
    return { l.pushNext .value with keyAllowed := l.flow = 0 }

/-- Takes a token that may be a key or start one. -/
def content (l : Lexer) (read : Place → Except Fault (Token × Place)) : Except Fault Lexer := do
  let l ← l.saveCandidate
  let (t, p) ← read l.place
  return { l.push t with place := p, keyAllowed := false }

def plain (l : Lexer) : Except Fault Lexer := do
  let l ← l.saveCandidate
  let (t, ended, p) := plainScalar (l.flow ≠ 0) l.indent l.place
  return { l.push t with place := p, keyAllowed := ended }

def block (l : Lexer) (folded : Bool) : Except Fault Lexer := do
  let l ← l.dropCandidate
  let (t, p) ← blockScalar folded l.indent l.place
  return { l.push t with place := p, keyAllowed := true }

/-- The characters that mean something at the start of a token. -/
def indicators : List Char :=
  "-?:,[]{}#&*!|>'\"%@`".toList

/-- Whether a plain scalar may start here. -/
def startsPlain (l : Lexer) (c : Char) : Bool :=
  (c ∉ indicators && !endsWord (some c)) ||
    (!endsWord (l.place.peekAt 1) && (c = '-' || (l.flow = 0 && (c = '?' || c = ':'))))

/-- Takes the next token, which starts with `c`. -/
def takeToken (l : Lexer) (c : Char) : Except Fault Lexer := do
  let p := l.place
  let gapNext := endsWord (p.peekAt 1)
  if c = '%' ∧ p.column = 0 then
    let l ← l.atMargin
    let (t, p) ← directiveToken l.place
    return { l.push t with place := p }
  else if c = '-' ∧ p.column = 0 ∧ p.atDocumentMark '-' then
    let l ← l.atMargin
    return { l.push .documentStart with place := l.place.skip 3 }
  else if c = '.' ∧ p.column = 0 ∧ p.atDocumentMark '.' then
    let l ← l.atMargin
    return { l.push .documentEnd with place := l.place.skip 3 }
  else if c = '[' then l.openFlow .flowSequenceStart
  else if c = '{' then l.openFlow .flowMappingStart
  else if c = ']' then l.closeFlow .flowSequenceEnd
  else if c = '}' then l.closeFlow .flowMappingEnd
  else if c = ',' then l.flowEntry
  else if c = '-' ∧ gapNext then l.blockEntry
  else if c = '?' ∧ (l.flow ≠ 0 ∨ gapNext) then l.explicitKey
  else if c = ':' ∧ (l.flow ≠ 0 ∨ gapNext) then l.value
  else if c = '*' then l.content fun p => (anchorName p).map fun (name, p) => (.reference name, p)
  else if c = '&' then l.content fun p => (anchorName p).map fun (name, p) => (.anchor name, p)
  else if c = '!' then l.content tagToken
  else if c = '|' ∧ l.flow = 0 then l.block false
  else if c = '>' ∧ l.flow = 0 then l.block true
  else if c = '\'' then l.content (quotedScalar false)
  else if c = '"' then l.content (quotedScalar true)
  else if l.startsPlain c then l.plain
  else throw .malformed

/-- Takes the next token, or the end of the text as one. -/
def takeNext (fuel : Nat) (l : Lexer) : Except Fault Lexer := do
  let l ← (skipToToken fuel l).dropStale
  let l := l.unwind l.place.column
  match l.place.peek with
  | none => return (← l.atMargin).push .streamEnd
  | some c => l.takeToken c

/-- Takes tokens to the end of the text or to the first fault. Every token takes a character at least, so
that `fuel` is no less than what is left. -/
def run : (fuel : Nat) → Lexer → TokenStream
  | 0, l => { tokens := l.taken.reverse }
  | fuel + 1, l =>
    match l.takeNext fuel with
    | .ok next =>
      if next.taken.head? = some .streamEnd then { tokens := next.taken.reverse } else run fuel next
    | .error fault => { tokens := l.taken.reverse.take l.settled, fault := fault }

end Lexer

/-- The tokens of a text, all of whose characters have to be allowed. A mark of the byte order at its start
is passed over. -/
def tokens (text : List Char) : TokenStream :=
  if text.any (!isAllowed ·) then { tokens := [] }
  else
    let p : Place := { rest := text }
    let p := if text.head?.any isByteOrderMark then p.next else p
    Lexer.run (text.length + 1) { place := p }

end TalPage.Yaml
