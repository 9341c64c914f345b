import TalPage.Markup.Element
import TalPage.Markup.Fault

/-!
# Reading the markup

    node     := [tag] modifier* ["{" text "}"] ["[" (blank | node)* "]"]
    modifier := "." class | "!" action | "#" id

A reading takes the text left to read and gives what is left after it. The children of nested
elements are read in one pass that keeps the open elements in a list, the innermost first. A
character that cannot start a node is skipped, and what is still open at the end of the text is
closed there, or is a fault in a strict reading.
-/

namespace TalPage.Markup

/-- How a reading treats depth and open ends. -/
structure Rules where
  maxDepth : Int := 256
  strict : Bool := false
deriving DecidableEq, Repr

/-- How many elements may be open at once, whatever the rules allow. -/
def openLimit : Nat := 400

/-- The characters that end a token. -/
def isStructural (c : Char) : Bool :=
  c ∈ ['.', '!', '{', '}', '[', ']', '#']

/-- The characters that start a node: the tag characters, and those that open a part of a node
without a tag. -/
def startsNode (c : Char) : Bool :=
  (tagName? c).isSome || c ∈ ['.', '!', '{', '[']

def readToken (s : List Char) : List Char × List Char :=
  (s.takeWhile (!isStructural ·), s.dropWhile (!isStructural ·))

/-- What a modifier sets on its element. -/
inductive Modifier where
  | style (name : String)
  | action (name : String)
  | id (name : String)
deriving DecidableEq, Repr

/-- The modifier that a marker introduces. -/
def Modifier.ofMarker? (c : Char) (name : String) : Option Modifier :=
  match c with
  | '.' => some (.style name)
  | '!' => some (.action name)
  | '#' => some (.id name)
  | _ => none

/-- A known style class adds its fragment and an unknown one nothing; an action or id replaces the
one before it. -/
def Element.apply (e : Element) : Modifier → Element
  | .style name => match styleFragment? name with
    | some fragment => e.addStyle fragment
    | none => e
  | .action name => { e with action := name }
  | .id name => { e with id := name }

/-- Reads as many modifiers as follow. -/
def readModifiers (e : Element) : List Char → Element × List Char
  | [] => (e, [])
  | c :: s =>
    match Modifier.ofMarker? c (String.ofList (readToken s).1) with
    | some m => readModifiers (e.apply m) (readToken s).2
    | none => (e, c :: s)
termination_by s => s.length
decreasing_by
  exact Nat.lt_succ_of_le (List.dropWhile_sublist _).length_le

/-- Reads a content block, whatever its first character: up to the first closing brace. -/
def readContent (rules : Rules) (e : Element) (s : List Char) : Element × Except Fault (List Char) :=
  let text := (s.drop 1).takeWhile (· ≠ '}')
  match (s.drop 1).dropWhile (· ≠ '}') with
  | [] =>
    if rules.strict then (e, .error ⟨.openContent, s, []⟩)
    else ({ e with content := String.ofList text }, .ok [])
  | _ :: rest => ({ e with content := String.ofList text }, .ok rest)

/-- Reads the tag character, if there is one. -/
def readTag : List Char → Element × List Char
  | [] => ({}, [])
  | c :: s =>
    match tagName? c with
    | some tag => ({ tag := tag }, s)
    | none => ({}, c :: s)

/-- Reads all of a node but its children. -/
def readHead (rules : Rules) (s : List Char) : Element × Except Fault (List Char) :=
  let (e, rest) := readTag s
  let (e, rest) := readModifiers e rest
  if rest.head? = some '{' then readContent rules e rest else (e, .ok rest)

/-- The text after an opening bracket, if it starts with one. -/
def afterBracket? (s : List Char) : Option (List Char) :=
  if s.head? = some '[' then some s.tail else none

theorem length_readModifiers_le (e : Element) (s : List Char) :
    (readModifiers e s).2.length ≤ s.length := by
  fun_induction readModifiers e s with
  | case1 => simp
  | case2 e c s m _ ih =>
    have := (List.dropWhile_sublist (l := s) (!isStructural ·)).length_le
    simp only [readToken, List.length_cons] at *
    omega
  | case3 => simp

theorem length_readModifiers_lt {c : Char} (hc : c = '.' ∨ c = '!') (e : Element) (s : List Char) :
    (readModifiers e (c :: s)).2.length < (c :: s).length := by
  have hl := (List.dropWhile_sublist (l := s) (!isStructural ·)).length_le
  rcases hc with rfl | rfl
  all_goals
    rw [readModifiers]
    simp only [Modifier.ofMarker?, List.length_cons]
    exact Nat.lt_succ_of_le (Nat.le_trans (length_readModifiers_le _ _) hl)

theorem length_readContent_lt {rules : Rules} {e : Element} {c : Char} {s rest : List Char}
    (h : (readContent rules e (c :: s)).2 = .ok rest) : rest.length < (c :: s).length := by
  have hl := (List.dropWhile_sublist (l := s) (· ≠ '}')).length_le
  simp only [readContent, List.drop_succ_cons, List.drop_zero] at h
  split at h
  · split at h
    · simp at h
    · simp only [Except.ok.injEq] at h
      simp [← h]
  · rename_i heq
    simp only [Except.ok.injEq] at h
    rw [← h]
    rw [heq] at hl
    simp only [List.length_cons] at *
    omega

theorem length_readHead_le {rules : Rules} {s rest : List Char} (h : (readHead rules s).2 = .ok rest) :
    rest.length ≤ (readModifiers (readTag s).1 (readTag s).2).2.length := by
  simp only [readHead] at h
  split at h
  · rename_i hb
    obtain ⟨t, ht⟩ := List.head?_eq_some_iff.1 hb
    rw [ht] at h ⊢
    exact Nat.le_of_lt (length_readContent_lt h)
  · simp only [Except.ok.injEq] at h
    exact Nat.le_of_eq (congrArg List.length h.symm)

theorem length_readTag_le (s : List Char) : (readTag s).2.length ≤ s.length := by
  cases s with
  | nil => simp [readTag]
  | cons c s => simp only [readTag]; split <;> simp

/-- A character that is no marker ends the modifiers. -/
theorem readModifiers_of_ofMarker?_eq_none {c : Char} (hc : ∀ name, Modifier.ofMarker? c name = none)
    (e : Element) (s : List Char) : readModifiers e (c :: s) = (e, c :: s) := by
  rw [readModifiers, hc]

/-- A node that starts reads at least one character, or has a bracket first. -/
theorem length_readHead_lt {rules : Rules} {c : Char} {s rest : List Char} (hc : startsNode c)
    (h : (readHead rules (c :: s)).2 = .ok rest) (hb : afterBracket? rest = none) :
    rest.length < (c :: s).length := by
  have hle := length_readHead_le h
  cases ht : tagName? c with
  | some tag =>
    have := length_readModifiers_le { tag := tag } s
    simp only [readTag, ht] at hle
    simp only [List.length_cons]
    omega
  | none =>
    simp only [startsNode, ht, Option.isSome_none, Bool.false_or, decide_eq_true_eq, List.mem_cons,
      List.not_mem_nil, or_false] at hc
    simp only [readTag, ht] at hle
    rcases hc with hc | hc | rfl | rfl
    · exact Nat.lt_of_le_of_lt hle (length_readModifiers_lt (.inl hc) _ _)
    · exact Nat.lt_of_le_of_lt hle (length_readModifiers_lt (.inr hc) _ _)
    · simp only [readHead, readTag, ht, List.head?_cons, ↓reduceIte,
        readModifiers_of_ofMarker?_eq_none (c := '{') (fun _ => rfl)] at h
      exact length_readContent_lt h
    · simp [readHead, readTag, ht,
        readModifiers_of_ofMarker?_eq_none (c := '[') (fun _ => rfl)] at h
      simp [← h, afterBracket?] at hb

theorem length_of_afterBracket? {rules : Rules} {s rest rest' : List Char}
    (h : (readHead rules s).2 = .ok rest) (hb : afterBracket? rest = some rest') :
    rest'.length < s.length := by
  have h₁ := length_readHead_le h
  have h₂ := length_readModifiers_le (readTag s).1 (readTag s).2
  have h₃ := length_readTag_le s
  have h₄ : rest.length = rest'.length + 1 := by
    simp only [afterBracket?] at hb
    split at hb
    · rename_i hr
      obtain ⟨t, rfl⟩ := List.head?_eq_some_iff.1 hr
      simp_all
    · simp at hb
  omega

/-- An element whose children are being read, with the text from its opening bracket on. -/
structure Open where
  element : Element
  place : List Char
deriving DecidableEq, Repr

def Open.add (o : Open) (child : Element) : Open :=
  { o with element := o.element.addChild child.html }

/-- The outermost open element as it stands. -/
def outermost (top : Open) (outer : List Open) : Element :=
  (outer.getLast?.getD top).element

/-- Closes every open element at the end of the text. -/
def closeAll (top : Open) (outer : List Open) : Element :=
  outer.foldl (fun child parent => (parent.add child).element) top.element

/-- Reads children of the innermost open element until the outermost closes; `depth` is the depth of
the outermost. Gives that element as it then stands, and the text left or the fault. -/
def readItems (rules : Rules) (depth : Int) (top : Open) (outer : List Open) :
    List Char → Element × Except Fault (List Char)
  | [] =>
    if rules.strict then (outermost top outer, .error ⟨.openChildren, top.place, []⟩)
    else (closeAll top outer, .ok [])
  | c :: s =>
    if c = ']' then
      match outer with
      | [] => (top.element, .ok s)
      | parent :: outer => readItems rules depth (parent.add top.element) outer s
    else if Text.isBlank c then readItems rules depth top outer s
    else if hc : startsNode c then
      if rules.maxDepth < depth + outer.length + 1 then
        (outermost top outer, .error ⟨.tooDeep rules.maxDepth, c :: s, c :: s⟩)
      else if openLimit ≤ outer.length + 1 then
        (outermost top outer, .error ⟨.exhausted, c :: s, c :: s⟩)
      else
        match hh : readHead rules (c :: s) with
        | (_, .error fault) => (outermost top outer, .error fault)
        | (head, .ok rest) =>
          match hb : afterBracket? rest with
          | some rest' =>
            have := length_of_afterBracket? (congrArg Prod.snd hh) hb
            readItems rules depth ⟨head, rest⟩ (top :: outer) rest'
          | none =>
            have := length_readHead_lt hc (congrArg Prod.snd hh) hb
            readItems rules depth (top.add head) outer rest
    else readItems rules depth top outer s
termination_by s => s.length
decreasing_by all_goals (simp only [List.length_cons] at *; omega)

/-- Reads a list of children into `e`, an element at `depth`, whatever the first character. -/
def readChildren (rules : Rules) (depth : Int) (e : Element) (s : List Char) :
    Element × Except Fault (List Char) :=
  readItems rules depth ⟨e, s⟩ [] (s.drop 1)

/-- Reads one node at `depth` and gives its HTML with the text left; a character that cannot start a
node is passed over and gives no HTML. -/
def readNode (rules : Rules) (depth : Int) : List Char → Except Fault (Option String × List Char)
  | [] => .ok (none, [])
  | c :: s =>
    if !startsNode c then .ok (none, s)
    else if rules.maxDepth < depth then .error ⟨.tooDeep rules.maxDepth, c :: s, c :: s⟩
    else
      match readHead rules (c :: s) with
      | (_, .error fault) => .error fault
      | (head, .ok rest) =>
        if (afterBracket? rest).isNone then .ok (some head.html, rest)
        else
          match readChildren rules depth head rest with
          | (_, .error fault) => .error fault
          | (e, .ok rest) => .ok (some e.html, rest)

/-- The text from the first root marker on. -/
def findRoot (s : List Char) : List Char :=
  s.dropWhile (· ≠ rootMarker)

/-- Reads the root element of a document. What stands before its marker and after its end is not
looked at. -/
def readRoot (rules : Rules) (s : List Char) : Except Fault String :=
  match findRoot s with
  | [] => .error ⟨.noRoot, [], []⟩
  | c :: root => (readNode rules 1 (c :: root)).map fun (html, _) => html.getD ""

/-- The HTML of the root element of `source`, or the fault that keeps it from being read. -/
def parse (rules : Rules) (source : String) : Except Fault String :=
  readRoot rules source.toList

end TalPage.Markup
