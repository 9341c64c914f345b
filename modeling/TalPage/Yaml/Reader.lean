import TalPage.Yaml.Graph
import TalPage.Yaml.Token

/-!
# Reading nodes

The graph of the one document that a stream of tokens holds at most. An alias is the node that has its
anchor. A token is asked for only when the structure depends on it, so that of two faults the one that
is met first is found.
-/

namespace TalPage.Yaml

/-- What is left to read of a document, with the nodes so far, those of them that have an anchor, and the
expansions of tag handles. -/
structure Reader where
  stream : TokenStream
  nodes : Graph := #[]
  anchors : List (String × NodeId) := []
  handles : List (String × String) := []

/-- A step of reading. -/
abbrev Read := StateT Reader (Except Fault)

/-- Where a node stands: in brackets, in a block, or in a block where a sequence needs no
indentation of its own. -/
inductive Position where
  | flow
  | block
  | blockEntry
deriving DecidableEq, Repr

/-- How a sequence is written: in brackets, indented, or with its items at the column of the keys
around it. -/
inductive SequenceStyle where
  | flow
  | block
  | bare
deriving DecidableEq, Repr

/-- How a mapping is written: in braces, or indented. -/
inductive MappingStyle where
  | flow
  | block
deriving DecidableEq, Repr

namespace Read

/-- The next token. -/
def peek : Read Token := do
  let r ← get
  match r.stream.tokens with
  | t :: _ => return t
  | [] => throw r.stream.fault

/-- Passes over the next token. -/
def next : Read Unit :=
  modify fun r => { r with stream := { r.stream with tokens := r.stream.tokens.tail } }

/-- The anchor and the tag of a node, as they are written. -/
structure Properties where
  anchor : Option String := none
  tag : Option (Option String × String) := none

/-- An anchor and a tag, in either order. -/
def properties : Read Properties := do
  match ← peek with
  | .anchor name =>
    next
    match ← peek with
    | .tag handle suffix =>
      next
      return ⟨some name, some (handle, suffix)⟩
    | _ => return ⟨some name, none⟩
  | .tag handle suffix =>
    next
    match ← peek with
    | .anchor name =>
      next
      return ⟨some name, some (handle, suffix)⟩
    | _ => return ⟨none, some (handle, suffix)⟩
  | _ => return {}

/-- The full text of a tag. -/
def expandTag : Option String × String → Read String
  | (none, suffix) => return suffix
  | (some handle, suffix) => do
    match (← get).handles.lookup handle with
    | some expansion => return expansion ++ suffix
    | none => throw .malformed

/-- The tag that leaves the kind of a node open. -/
def openTag : String := "!"

/-- The kind that a tag gives a node; without one, or with one that leaves it open, it has its own. -/
def kindOf (tag : Option String) (own : Kind) : Kind :=
  match tag with
  | none => own
  | some tag => if tag = openTag then own else Kind.ofTag tag

/-- A scalar; the form of the text counts if it is plain, or if its tag leaves its kind open. -/
def scalarOf (tag : Option String) (plain : Bool) (text : Text.Points) : Node where
  kind := kindOf tag (if plain ∨ tag = some openTag then Kind.ofPlain text else .str)
  content := .scalar text

/-- A new node of the document. -/
def newNode (node : Node) : Read NodeId := do
  let id := (← get).nodes.size
  modify fun r => { r with nodes := r.nodes.push node }
  return id

/-- A new node with an anchor, which no node before it may have. -/
def anchoredNode (anchor : Option String) (node : Node) : Read NodeId := do
  match anchor with
  | none => newNode node
  | some name =>
    if ((← get).anchors.lookup name).isSome then throw .malformed
    let id ← newNode node
    modify fun r => { r with anchors := (name, id) :: r.anchors }
    return id

/-- Fills a node that was made before what is in it. -/
def fill (id : NodeId) (content : Content) : Read Unit :=
  modify fun r => { r with nodes := r.nodes.setContent id content }

def emptyNode : Read NodeId := newNode (scalarOf none true [])

/-- A node, or an empty one before a token that can come after it. -/
def orEmpty (ends : List Token) (read : Read NodeId) : Read NodeId := do
  if (← peek) ∈ ends then emptyNode else read

/-- The value after a key; it is empty without a colon. -/
def valueOrEmpty (ends : List Token) (read : Read NodeId) : Read NodeId := do
  if (← peek) = .value then
    next
    orEmpty ends read
  else emptyNode

/-- The tokens that can come after an entry of an indented mapping. -/
def entryEnds : List Token := [.key, .value, .blockEnd]

/-- What separates the items in brackets: nothing before the first one, and before all others a
comma, unless the collection ends. -/
def skipSeparator (first : Bool) (closing : Token) : Read Unit := do
  let t ← peek
  if t ≠ closing ∧ !first then
    if t = .flowEntry then next else throw .malformed

mutual
/-- Reads a node. -/
def node (position : Position) : (fuel : Nat) → Read NodeId
  | 0 => throw .malformed
  | fuel + 1 => do
    match ← peek with
    | .reference name =>
      next
      match (← get).anchors.lookup name with
      | some id => return id
      | none => throw .malformed
    | _ =>
      let given ← properties
      let tag ← given.tag.mapM expandTag
      let sequenceOf (style : SequenceStyle) : Read NodeId := do
        let id ← anchoredNode given.anchor { kind := kindOf tag .seq, content := .sequence [] }
        fill id (.sequence (← sequenceItems style true fuel))
        return id
      let mappingOf (style : MappingStyle) : Read NodeId := do
        let id ← anchoredNode given.anchor { kind := kindOf tag .map, content := .mapping [] }
        fill id (.mapping (← mappingEntries style true fuel))
        return id
      match ← peek, position with
      | .blockEntry, .blockEntry => sequenceOf .bare
      | .scalar plain text, _ =>
        next
        anchoredNode given.anchor (scalarOf tag (plain && tag.isNone) text)
      | .flowSequenceStart, _ =>
        next
        sequenceOf .flow
      | .flowMappingStart, _ =>
        next
        mappingOf .flow
      | .blockSequenceStart, .block | .blockSequenceStart, .blockEntry =>
        next
        sequenceOf .block
      | .blockMappingStart, .block | .blockMappingStart, .blockEntry =>
        next
        mappingOf .block
      | _, _ =>
        if given.anchor.isNone ∧ tag.isNone then throw .malformed
        anchoredNode given.anchor (scalarOf tag tag.isNone [])

/-- Reads the items of a sequence, and its end. In brackets a key makes an item a mapping of one
entry. -/
def sequenceItems (style : SequenceStyle) (first : Bool) : (fuel : Nat) → Read (List NodeId)
  | 0 => throw .malformed
  | fuel + 1 => do
    match style with
    | .flow =>
      skipSeparator first .flowSequenceEnd
      let t ← peek
      if t = .flowSequenceEnd then
        next
        return []
      let ends : List Token := [.flowEntry, .flowSequenceEnd]
      let item ←
        if t = .key then do
          next
          let id ← newNode { kind := .map, content := .mapping [] }
          let key ← orEmpty (.value :: ends) (node .flow fuel)
          let value ← valueOrEmpty ends (node .flow fuel)
          fill id (.mapping [(key, value)])
          pure id
        else node .flow fuel
      return item :: (← sequenceItems .flow false fuel)
    | .block =>
      let t ← peek
      next
      if t = .blockEnd then return []
      if t ≠ .blockEntry then throw .malformed
      let item ← orEmpty [.blockEntry, .blockEnd] (node .block fuel)
      return item :: (← sequenceItems .block false fuel)
    | .bare =>
      if (← peek) ≠ .blockEntry then return []
      next
      let item ← orEmpty (.blockEntry :: entryEnds) (node .block fuel)
      return item :: (← sequenceItems .bare false fuel)

/-- Reads the entries of a mapping, and its end. -/
def mappingEntries (style : MappingStyle) (first : Bool) : (fuel : Nat) → Read Entries
  | 0 => throw .malformed
  | fuel + 1 => do
    match style with
    | .flow =>
      skipSeparator first .flowMappingEnd
      let t ← peek
      if t = .flowMappingEnd then
        next
        return []
      let ends : List Token := [.flowEntry, .flowMappingEnd]
      let entry ←
        if t = .key then do
          next
          let key ← orEmpty (.value :: ends) (node .flow fuel)
          let value ← valueOrEmpty ends (node .flow fuel)
          pure (key, value)
        else do
          let key ← node .flow fuel
          pure (key, ← emptyNode)
      return entry :: (← mappingEntries .flow false fuel)
    | .block =>
      let t ← peek
      next
      if t = .blockEnd then return []
      if t ≠ .key then throw .malformed
      let key ← orEmpty entryEnds (node .blockEntry fuel)
      let value ← valueOrEmpty entryEnds (node .blockEntry fuel)
      return (key, value) :: (← mappingEntries .block false fuel)
end

/-- The handles that need no directive. -/
def defaultHandles : List (String × String) :=
  [("!", "!"), ("!!", tagStart)]

/-- Reads the directives before a document: at most one version, which has to be a first one, and one
expansion for each handle. -/
def directives : (fuel : Nat) → (versioned : Bool) → (handles : List (String × String)) → Read Unit
  | 0, _, _ => throw .malformed
  | fuel + 1, versioned, handles => do
    match ← peek with
    | .versionDirective major _ =>
      next
      if versioned ∨ major ≠ 1 then throw .malformed
      directives fuel true handles
    | .tagDirective handle expansion =>
      next
      if (handles.lookup handle).isSome then throw .malformed
      directives fuel versioned ((handle, expansion) :: handles)
    | .otherDirective =>
      next
      directives fuel versioned handles
    | _ => modify fun r => { r with handles := handles ++ defaultHandles }

/-- Whether a token is a directive. -/
def isDirective : Token → Bool
  | .versionDirective .. => true
  | .tagDirective .. => true
  | .otherDirective => true
  | _ => false

/-- Reads the directives before a document and the mark at its start. -/
def documentStart (fuel : Nat) : Read Unit := do
  directives fuel false []
  if (← peek) ≠ .documentStart then throw .malformed
  next

/-- Passes over the marks at the end of a document. -/
def skipDocumentEnds : (fuel : Nat) → Read Unit
  | 0 => throw .malformed
  | fuel + 1 => do
    if (← peek) = .documentEnd then
      next
      skipDocumentEnds fuel

/-- Reads a document: after a mark of its start it may be empty. -/
def document (fuel : Nat) : Read NodeId := do
  let t ← peek
  if isDirective t ∨ t = .documentStart then
    documentStart fuel
    let t ← peek
    if isDirective t ∨ t ∈ [.documentStart, .documentEnd, .streamEnd] then emptyNode else node .block fuel
  else
    modify fun r => { r with handles := defaultHandles }
    node .block fuel

/-- Reads the one document of a stream, if there is one. The start of a second one is a fault. -/
def only (fuel : Nat) : Read (Option NodeId) := do
  if (← peek) = .streamEnd then return none
  let root ← document fuel
  skipDocumentEnds fuel
  if (← peek) ≠ .streamEnd then
    documentStart fuel
    throw .malformed
  return some root

end Read

/-- The graph of a document, and the number of its outermost node. -/
structure Document where
  graph : Graph
  root : NodeId

/-- The one document of a stream, if there is one. -/
def Document.ofTokens? (stream : TokenStream) : Except Fault (Option Document) := do
  let (root?, r) ← (Read.only (2 * stream.tokens.length + 2)).run { stream := stream }
  return root?.map fun root => { graph := r.nodes, root := root }

end TalPage.Yaml
