import TalPage.Yaml.Property

/-!
# The text of scalars

The three ways to write a scalar: plain, in quotes, and as a block whose lines are kept or folded.
Inside plain and quoted scalars a line break becomes a space, and each further one a line feed.
-/

namespace TalPage.Yaml

/-- What a run of breaks inside a scalar stands for: the first is dropped if others follow it, and
otherwise becomes a space; one that is no line feed is kept. -/
def foldBreaks (first : Char) (others : List Char) : List Char :=
  (if first ≠ '\n' then [first] else if others = [] then [' '] else []) ++ others

/-! ## In quotes -/

/-- The characters with an escape of one letter. -/
def shortEscapes : List (Char × Nat) :=
  [('0', 0x00), ('a', 0x07), ('b', 0x08), ('t', 0x09), ('\t', 0x09), ('n', 0x0A), ('v', 0x0B),
    ('f', 0x0C), ('r', 0x0D), ('e', 0x1B), (' ', 0x20), ('"', 0x22), ('\\', 0x5C), ('/', 0x2F),
    ('N', 0x85), ('_', 0xA0), ('L', 0x2028), ('P', 0x2029)]

/-- The letters that announce a code, and the number of its digits. -/
def codeEscapes : List (Char × Nat) :=
  [('x', 2), ('u', 4), ('U', 8)]

/-- The breaks and gaps that follow a break inside quotes; a mark between documents may not. -/
def quotedBreaks : (fuel : Nat) → Place → Except Fault (List Char × Place)
  | 0, p => .ok ([], p)
  | fuel + 1, p =>
    if p.atDocumentEdge then .error .malformed
    else
      let p := p.skipWhile isGap
      match p.lineBreak? with
      | none => .ok ([], p)
      | some (c, p) => do
        let (more, p) ← quotedBreaks fuel p
        return (c :: more, p)

/-- The greatest code that an escape is looked at for. -/
def codeLimit : Nat := 0x7FFFFFFF

/-- The code points of an escape, from after its backslash on. -/
def escaped (p : Place) : Except Fault (Text.Points × Place) :=
  match p.rest with
  | [] => .error .malformed
  | c :: rest =>
    match shortEscapes.lookup c with
    | some n => .ok ([.ofNat n], p.next)
    | none =>
      match codeEscapes.lookup c with
      | some width =>
        match (rest.take width).mapM hexDigit? with
        | none => .error .malformed
        | some digits =>
          let n := digits.foldl (fun n d => n * 16 + d) 0
          if digits.length < width then .error .malformed
          else if codeLimit < n then .error .codeTooGreat
          else if 0x10FFFF < n then .error .codePoint
          else .ok ([.ofNat n], p.skip (width + 1))
      | none =>
        match p.lineBreak? with
        | some (_, p) => (quotedBreaks p.left p).map fun (breaks, p) => (Text.pointsOf breaks, p)
        | none => .error .malformed

/-- The text up to the closing quote. -/
def quotedText (double : Bool) : (fuel : Nat) → Place → Except Fault (Text.Points × Place)
  | 0, _ => .error .malformed
  | fuel + 1, p =>
    let quote := if double then '"' else '\''
    match p.rest with
    | [] => .error .malformed
    | c :: rest =>
      if !double ∧ c = '\'' ∧ rest.head? = some '\'' then do
        let (more, p) ← quotedText double fuel (p.skip 2)
        return (.char c :: more, p)
      else if c = quote then .ok ([], p.next)
      else if double ∧ c = '\\' then do
        let (escape, p) ← escaped p.next
        let (more, p) ← quotedText double fuel p
        return (escape ++ more, p)
      else if isGap c ∨ isBreak c then
        let (gaps, p) := p.takeWhile isGap
        match p.lineBreak? with
        | some (first, p) => do
          let (others, p) ← quotedBreaks fuel p
          let (more, p) ← quotedText double fuel p
          return (Text.pointsOf (foldBreaks first others) ++ more, p)
        | none => do
          let (more, p) ← quotedText double fuel p
          return (Text.pointsOf gaps ++ more, p)
      else do
        let (more, p) ← quotedText double fuel p.next
        return (.char c :: more, p)

/-- A scalar in quotes, from its opening quote on. -/
def quotedScalar (double : Bool) (p : Place) : Except Fault (Token × Place) := do
  let (text, p) ← quotedText double (p.left + 1) p.next
  return (.scalar false text, p)

/-! ## Blocks -/

/-- What is done with the breaks at the end of a block. -/
inductive Chomping where
  | strip
  | clip
  | keep
deriving DecidableEq, Repr

def chomping? (c? : Option Char) : Option Chomping :=
  if c? = some '+' then some .keep else if c? = some '-' then some .strip else none

def increment? (c? : Option Char) : Option Nat := do
  let c ← c?
  if c.isDigit then some (c.toNat - '0'.toNat) else none

/-- The indicators after the character that announces a block, in either order. -/
def blockHeader (p : Place) : Except Fault (Chomping × Option Nat × Place) := do
  let (chomping, increment, p) :=
    match chomping? p.peek with
    | some chomping =>
      match increment? p.next.peek with
      | some n => (chomping, some n, p.skip 2)
      | none => (chomping, none, p.next)
    | none =>
      match increment? p.peek with
      | some n =>
        match chomping? p.next.peek with
        | some chomping => (chomping, some n, p.skip 2)
        | none => (.clip, some n, p.next)
      | none => (.clip, none, p)
  if increment = some 0 ∨ !endsPart p.peek then throw .malformed
  return (chomping, increment, ← p.finishLine)

/-- The breaks before the first line of a block, and the deepest column on the way to it. -/
def blockIndentation : (fuel : Nat) → (deepest : Nat) → Place → List Char × Nat × Place
  | 0, deepest, p => ([], deepest, p)
  | fuel + 1, deepest, p =>
    match p.lineBreak? with
    | some (c, p) =>
      let (more, deepest, p) := blockIndentation fuel deepest p
      (c :: more, deepest, p)
    | none =>
      if p.peek = some ' ' then blockIndentation fuel (max deepest p.next.column) p.next
      else ([], deepest, p)

/-- The place after the spaces before a column. -/
def skipIndent (indent : Nat) (p : Place) : Place :=
  p.skip (min (indent - p.column) (p.rest.takeWhile (· = ' ')).length)

/-- The breaks between the lines of a block. -/
def blockBreaks (indent : Nat) : (fuel : Nat) → Place → List Char × Place
  | 0, p => ([], p)
  | fuel + 1, p =>
    let p := skipIndent indent p
    match p.lineBreak? with
    | some (c, p) =>
      let (more, p) := blockBreaks indent fuel p
      (c :: more, p)
    | none => ([], p)

/-- The lines of a block after the breaks before them. -/
def blockLines (folded : Bool) (chomping : Chomping) (indent : Nat) :
    (fuel : Nat) → (breaks : List Char) → Place → List Char × Place
  | 0, breaks, p => (breaks, p)
  | fuel + 1, breaks, p =>
    let flush := !(p.peek.any isGap)
    let (line, p) := p.takeWhile (!isBreak ·)
    let (lineEnd, p) := match p.lineBreak? with
      | some (c, p) => ([c], p)
      | none => ([], p)
    let (nextBreaks, p) := blockBreaks indent fuel p
    if p.column = indent ∧ p.rest ≠ [] then
      let joint :=
        if folded ∧ lineEnd = ['\n'] ∧ flush ∧ !(p.peek.any isGap) then
          (if nextBreaks = [] then [' '] else [])
        else lineEnd
      let (more, p) := blockLines folded chomping indent fuel nextBreaks p
      (breaks ++ line ++ joint ++ more, p)
    else
      let ending := match chomping with
        | .strip => []
        | .clip => lineEnd
        | .keep => lineEnd ++ nextBreaks
      (breaks ++ line ++ ending, p)

/-- A block scalar, from the character that announces it on, inside the indentation `outer`. -/
def blockScalar (folded : Bool) (outer : Int) (p : Place) : Except Fault (Token × Place) := do
  let (chomping, increment, p) ← blockHeader p.next
  let least := (max 1 (outer + 1)).toNat
  let (breaks, indent, p) := match increment with
    | some n =>
      let indent := least + n - 1
      let (breaks, p) := blockBreaks indent (p.left + 1) p
      (breaks, indent, p)
    | none =>
      let (breaks, deepest, p) := blockIndentation (p.left + 1) 0 p
      (breaks, max least deepest, p)
  if p.column = indent ∧ p.rest ≠ [] then
    let (cs, p) := blockLines folded chomping indent (p.left + 1) breaks p
    return (.scalar false (Text.pointsOf cs), p)
  else
    let cs := if chomping = .keep then breaks else []
    return (.scalar false (Text.pointsOf cs), p)

/-! ## Plain -/

/-- Whether a plain scalar may not go on with a character, given the one after it. -/
def endsPlain (flow : Bool) (c : Char) (next? : Option Char) : Bool :=
  endsWord (some c) ||
  (c = ':' && (endsWord next? || (flow && next?.any (· ∈ [',', '[', ']', '{', '}'])))) ||
  (flow && c ∈ [',', '?', '[', ']', '{', '}'])

/-- A run of a plain scalar without blanks in it. -/
def plainRun (flow : Bool) : List Char → List Char
  | [] => []
  | c :: s => if endsPlain flow c s.head? then [] else c :: plainRun flow s

/-- The breaks and spaces that follow a break in a plain scalar, and whether a mark between documents
ends it there. -/
def plainBreaks : (fuel : Nat) → Place → List Char × Bool × Place
  | 0, p => ([], false, p)
  | fuel + 1, p =>
    if p.peek = some ' ' then plainBreaks fuel p.next
    else
      match p.lineBreak? with
      | none => ([], false, p)
      | some (c, p) =>
        if p.atDocumentEdge then ([c], true, p)
        else
          let (more, edge, p) := plainBreaks fuel p
          (c :: more, edge, p)

/-- What stands between two runs of a plain scalar, whether a line ended in it, and the place after
it; nothing if the scalar cannot go on. -/
def plainSpaces (p : Place) : List Char × Bool × Place :=
  let (spaces, p) := p.takeWhile (· = ' ')
  match p.lineBreak? with
  | none => (spaces, false, p)
  | some (first, p) =>
    if p.atDocumentEdge then ([], true, p)
    else
      let (others, edge, p) := plainBreaks p.left p
      if edge then ([], true, p) else (foldBreaks first others, true, p)

/-- The runs of a plain scalar after the spaces before them. Gives also whether a line ended at the
end of it. -/
def plainText (flow : Bool) (indent : Int) :
    (fuel : Nat) → (spaces : List Char) → (ended : Bool) → Place → List Char × Bool × Place
  | 0, _, ended, p => ([], ended, p)
  | fuel + 1, spaces, ended, p =>
    if p.peek = some '#' then ([], ended, p)
    else
      let run := plainRun flow p.rest
      if run = [] then ([], ended, p)
      else
        let (next, ended, p) := plainSpaces (p.skip run.length)
        if next = [] ∨ p.peek = some '#' ∨ (!flow ∧ p.column < indent) then (spaces ++ run, ended, p)
        else
          let (more, ended, p) := plainText flow indent fuel next ended p
          (spaces ++ run ++ more, ended, p)

/-- A plain scalar inside the indentation `outer`. A simple key may follow if a line ended at its
end. -/
def plainScalar (flow : Bool) (outer : Int) (p : Place) : Token × Bool × Place :=
  let (cs, ended, p) := plainText flow (outer + 1) (p.left + 1) [] false p
  (.scalar true (Text.pointsOf cs), ended, p)

end TalPage.Yaml
