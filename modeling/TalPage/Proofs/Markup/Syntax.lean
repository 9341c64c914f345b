import TalPage.Markup.Reader

/-!
# Concrete syntax

The trees that the markup is written from: the text of a tree gives back every character, skipped
ones and missing closing brackets included, and its HTML is said without the reader.
-/

namespace TalPage.Markup

/-! ## Modifiers -/

namespace Modifier

/-- The character that introduces the modifier. -/
def marker : Modifier → Char
  | .style _ => '.'
  | .action _ => '!'
  | .id _ => '#'

def name : Modifier → String
  | .style name | .action name | .id name => name

def text (m : Modifier) : List Char :=
  m.marker :: m.name.toList

/-- The name is free of structural characters. -/
def Plain (m : Modifier) : Prop :=
  ∀ c ∈ m.name.toList, isStructural c = false

def fragment? : Modifier → Option String
  | .style name => styleFragment? name
  | _ => none

def action? : Modifier → Option String
  | .action name => some name
  | _ => none

def id? : Modifier → Option String
  | .id name => some name
  | _ => none

end Modifier

/-- A chain of modifiers as it is written. -/
def chain (ms : List Modifier) : List Char :=
  ms.flatMap Modifier.text

@[simp]
theorem chain_nil : chain [] = [] := rfl

@[simp]
theorem chain_cons (m : Modifier) (ms : List Modifier) : chain (m :: ms) = m.text ++ chain ms := rfl

/-! ## Nodes -/

/-- A closing bracket, or nothing where it is missing. -/
def closer (c : Char) (closed : Bool) : List Char :=
  if closed then [c] else []

@[simp]
theorem closer_true (c : Char) : closer c true = [c] := rfl

@[simp]
theorem closer_false (c : Char) : closer c false = [] := rfl

/-- A content block. -/
structure Content where
  text : String
  closed : Bool

def Content.written (b : Content) : List Char :=
  '{' :: b.text.toList ++ closer '}' b.closed

/-- All of a node but its list of children. -/
structure Head where
  tag : Option Char
  modifiers : List Modifier
  content : Option Content

mutual
/-- A node with or without a list of children; the list may lack its closing bracket. -/
inductive Node where
  | leaf (head : Head)
  | branch (head : Head) (items : Items) (closed : Bool)

/-- What a list of children holds, in order: skipped characters and nodes. -/
inductive Items where
  | nil
  | skip (c : Char) (next : Items)
  | node (n : Node) (next : Items)
end

def Head.contentText (h : Head) : List Char :=
  (h.content.map Content.written).getD []

def Head.text (h : Head) : List Char :=
  h.tag.toList ++ (chain h.modifiers ++ h.contentText)

mutual
def Node.text : Node → List Char
  | .leaf h => h.text
  | .branch h items closed => h.text ++ '[' :: (items.text ++ closer ']' closed)

def Items.text : Items → List Char
  | .nil => []
  | .skip c next => c :: next.text
  | .node n next => n.text ++ next.text
end

def Node.head : Node → Head
  | .leaf h | .branch h _ _ => h

mutual
/-- The number of levels of nodes; skipped characters have none. -/
def Node.height : Node → Nat
  | .leaf _ => 1
  | .branch _ items _ => items.height + 1

def Items.height : Items → Nat
  | .nil => 0
  | .skip _ next => next.height
  | .node n next => max n.height next.height
end

/-! ## HTML -/

namespace Head

def tagName (h : Head) : String :=
  (h.tag.bind tagName?).getD defaultTag

/-- The last id of the chain. -/
def id (h : Head) : String :=
  (h.modifiers.filterMap Modifier.id?).getLast?.getD ""

/-- The last action of the chain. -/
def action (h : Head) : String :=
  (h.modifiers.filterMap Modifier.action?).getLast?.getD ""

/-- The fragments of the known style classes in order, with a space between them. -/
def style (h : Head) : String :=
  " ".intercalate (h.modifiers.filterMap Modifier.fragment?)

def contentHtml (h : Head) : String :=
  (h.content.map Content.text).getD ""

/-- The attributes of the opening tag; those without a value are left out. -/
def attributes (h : Head) : String :=
  (if h.id = "" then "" else Element.attributeText "id" h.id) ++
  (if h.style = "" then "" else Element.attributeText "style" h.style) ++
  (if h.action = "" then ""
    else Element.attributeText "data-action" h.action ++
      Element.attributeText "onclick" ("app.dispatch('" ++ h.action ++ "')"))

/-- The HTML of a node whose children are written as `inner`. -/
def html (h : Head) (inner : String) : String :=
  "<" ++ h.tagName ++ h.attributes ++ ">" ++ h.contentHtml ++ inner ++ "</" ++ h.tagName ++ ">"

end Head

mutual
def Node.html : Node → String
  | .leaf h => h.html ""
  | .branch h items _ => h.html (String.join items.pieces)

/-- The HTML of each node of a list; skipped characters give none. -/
def Items.pieces : Items → List String
  | .nil => []
  | .skip _ next => next.pieces
  | .node n next => n.html :: next.pieces
end

/-! ## Well-formed trees -/

structure Head.Spelled (h : Head) : Prop where
  tag : ∀ c ∈ h.tag, (tagName? c).isSome
  modifiers : ∀ m ∈ h.modifiers, m.Plain
  content : ∀ b ∈ h.content, '}' ∉ b.text.toList

/-- A node without a tag shows by its first character that it is one. -/
def Node.Opens (n : Node) : Prop :=
  n.head.tag = none → ∃ c ∈ n.text.head?, c ∈ ['.', '!', '{', '[']

mutual
/-- Each part of the tree is written in the characters it may have. -/
def Node.Spelled : Node → Prop
  | .leaf h => h.Spelled ∧ (Node.leaf h).Opens
  | .branch h items closed => h.Spelled ∧ (Node.branch h items closed).Opens ∧ items.Spelled

def Items.Spelled : Items → Prop
  | .nil => True
  | .skip c next => (startsNode c = false ∧ c ≠ ']') ∧ next.Spelled
  | .node n next => n.Spelled ∧ next.Spelled
end

-- The quantifiers over characters are named: they run over the text, not over all characters.
instance (m : Modifier) : Decidable m.Plain :=
  List.decidableBAll (isStructural · = false) m.name.toList

instance (h : Head) : Decidable h.Spelled :=
  have : Decidable (∀ c ∈ h.tag, (tagName? c).isSome) := Option.decidableForallMem h.tag
  decidable_of_iff ((∀ c ∈ h.tag, (tagName? c).isSome) ∧ (∀ m ∈ h.modifiers, m.Plain) ∧
    ∀ b ∈ h.content, '}' ∉ b.text.toList)
    ⟨fun ⟨ht, hm, hc⟩ => ⟨ht, hm, hc⟩, fun ⟨ht, hm, hc⟩ => ⟨ht, hm, hc⟩⟩

instance (n : Node) : Decidable n.Opens :=
  have : Decidable (∃ c ∈ n.text.head?, c ∈ ['.', '!', '{', '[']) :=
    Option.decidableExistsMem n.text.head?
  inferInstanceAs (Decidable (n.head.tag = none → ∃ c ∈ n.text.head?, c ∈ ['.', '!', '{', '[']))

mutual
instance Node.decidableSpelled : (n : Node) → Decidable n.Spelled
  | .leaf h => inferInstanceAs (Decidable (h.Spelled ∧ (Node.leaf h).Opens))
  | .branch h items closed =>
      have := items.decidableSpelled
      inferInstanceAs (Decidable (h.Spelled ∧ (Node.branch h items closed).Opens ∧ items.Spelled))

instance Items.decidableSpelled : (items : Items) → Decidable items.Spelled
  | .nil => .isTrue trivial
  | .skip c next =>
      have := next.decidableSpelled
      inferInstanceAs (Decidable ((startsNode c = false ∧ c ≠ ']') ∧ next.Spelled))
  | .node n next =>
      have := n.decidableSpelled
      have := next.decidableSpelled
      inferInstanceAs (Decidable (n.Spelled ∧ next.Spelled))
end

def Head.Closed (h : Head) : Prop :=
  ∀ b ∈ h.content, b.closed = true

mutual
/-- No closing bracket is missing. -/
def Node.Closed : Node → Prop
  | .leaf h => h.Closed
  | .branch h items closed => h.Closed ∧ items.Closed ∧ closed = true

def Items.Closed : Items → Prop
  | .nil => True
  | .skip _ next => next.Closed
  | .node n next => n.Closed ∧ next.Closed
end

/-! ## Longest match -/

/-- A token ends before this text: at a structural character or the end. -/
def EndsToken (after : List Char) : Prop :=
  ∀ c ∈ after.head?, isStructural c = true

/-- Every token of the chain ends where it is said to, and no marker follows the chain. -/
def ChainEnds : List Modifier → List Char → Prop
  | [], after => ∀ c ∈ after.head?, c ∉ ['.', '!', '#']
  | _ :: ms, after => EndsToken (chain ms ++ after) ∧ ChainEnds ms after

/-- No part of the head could be read further into the text after it, and only the end of the text
stands in for a missing brace. -/
structure Head.Maximal (h : Head) (after : List Char) : Prop where
  chain : ChainEnds h.modifiers (h.contentText ++ after)
  content : h.content = none → after.head? ≠ some '{'
  closed : ∀ b ∈ h.content, b.closed = false → after = []

mutual
/-- No part of the node could be read further into the text after it, and only the end of the
text stands in for a missing bracket. -/
def Node.Maximal (after : List Char) : Node → Prop
  | .leaf h => h.Maximal after ∧ after.head? ≠ some '['
  | .branch h items closed =>
      h.Maximal ('[' :: (items.text ++ closer ']' closed ++ after)) ∧
        items.Maximal (closer ']' closed ++ after) ∧ (closed = false → after = [])

def Items.Maximal (after : List Char) : Items → Prop
  | .nil => True
  | .skip _ next => next.Maximal after
  | .node n next => n.Maximal (next.text ++ after) ∧ next.Maximal after
end

instance (after : List Char) : Decidable (EndsToken after) :=
  Option.decidableForallMem after.head?

instance decidableChainEnds : (ms : List Modifier) → (after : List Char) → Decidable (ChainEnds ms after)
  | [], after => Option.decidableForallMem after.head?
  | _ :: ms, after =>
      have := decidableChainEnds ms after
      inferInstanceAs (Decidable (EndsToken (chain ms ++ after) ∧ ChainEnds ms after))

instance (h : Head) (after : List Char) : Decidable (h.Maximal after) :=
  decidable_of_iff (ChainEnds h.modifiers (h.contentText ++ after) ∧
    (h.content.isNone → after.head? ≠ some '{') ∧ ∀ b ∈ h.content, b.closed = false → after = [])
    ⟨fun ⟨hm, hn, hc⟩ => ⟨hm, fun h => hn (by simp [h]), hc⟩,
      fun ⟨hm, hn, hc⟩ => ⟨hm, fun h => hn (by simpa using h), hc⟩⟩

mutual
instance Node.decidableMaximal (after : List Char) : (n : Node) → Decidable (n.Maximal after)
  | .leaf h => inferInstanceAs (Decidable (h.Maximal after ∧ after.head? ≠ some '['))
  | .branch h items closed =>
      have := items.decidableMaximal (closer ']' closed ++ after)
      inferInstanceAs (Decidable (h.Maximal ('[' :: (items.text ++ closer ']' closed ++ after)) ∧
        items.Maximal (closer ']' closed ++ after) ∧ (closed = false → after = [])))

instance Items.decidableMaximal (after : List Char) :
    (items : Items) → Decidable (items.Maximal after)
  | .nil => .isTrue trivial
  | .skip _ next => next.decidableMaximal after
  | .node n next =>
      have := n.decidableMaximal (next.text ++ after)
      have := next.decidableMaximal after
      inferInstanceAs (Decidable (n.Maximal (next.text ++ after) ∧ next.Maximal after))
end

/-! ## Separated nodes -/

/-- A node without a list of children has a closing character right after it. -/
def Node.Follows (after : List Char) : Node → Prop
  | .leaf _ => ∃ c ∈ after.head?, c = ']' ∨ c = '}'
  | .branch .. => True

mutual
/-- Every node below this one is followed as it has to be. -/
def Node.Separated : Node → Prop
  | .leaf _ => True
  | .branch _ items _ => items.Separated

def Items.Separated : Items → Prop
  | .nil => True
  | .skip _ next => next.Separated
  | .node n next => n.Follows (next.text ++ [']']) ∧ n.Separated ∧ next.Separated
end

/-- A tree whose text is to be read back: spelled out, with all brackets closed and every node
separated from what follows it. -/
structure Node.WellFormed (n : Node) : Prop where
  spelled : n.Spelled
  closed : n.Closed
  separated : n.Separated

end TalPage.Markup
