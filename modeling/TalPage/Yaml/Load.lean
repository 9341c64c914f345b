import TalPage.Text.Base64
import TalPage.Text.Lower
import TalPage.Yaml.Lexer
import TalPage.Yaml.Merge
import TalPage.Yaml.Numeral
import TalPage.Yaml.Part
import TalPage.Yaml.Reader
import TalPage.Yaml.Timestamp

/-!
# Loading documents

The values of a document's nodes. A node has one value, wherever it stands. A collection is there before
what is in it, and collections are filled in the order in which they are met; what a mapping takes over
is settled when it is filled.
-/

namespace TalPage.Yaml

/-- The scalar that a node is. The word for what is not a number gives none. -/
def scalarOf? (g : Graph) (id : NodeId) : Except Fault (Option Scalar) := do
  match g.kind id with
  | .null =>
    let _ ← g.textOf id
    return some .null
  | .bool =>
    let word := Text.lower (← g.textOf id)
    if ["yes", "true", "on"].any (word = Text.points ·) then return some (.bool true)
    if ["no", "false", "off"].any (word = Text.points ·) then return some (.bool false)
    throw (.unknownWord word)
  | .int => return some (.int (← readInt (← g.textOf id)))
  | .float => return (← readFloat? (← g.textOf id)).map .float
  | .binary =>
    let text ← g.textOf id
    if text.any (0x80 ≤ ·.toNat) then throw .malformed
    match Text.base64? (text.map fun p => Char.ofNat p.toNat) with
    | some bytes => return some (.bytes bytes)
    | none => throw .malformed
  | .timestamp =>
    let text ← g.textOf id
    if (g.entries? id).isSome then throw .noText
    match ← Timestamp.read text with
    | .date d => return some (.date d)
    | .moment m => return some (.moment m)
  | .str => return some (.text (← g.textOf id))
  | _ => throw .malformed

/-- The values so far, and the collections that are to be filled. -/
structure Loader where
  graph : Graph
  values : Values := #[]
  /-- The values of the nodes that have one. -/
  known : Array (Option ValueId) := Array.replicate graph.size none
  /-- The value of the word for what is not a number. -/
  nan? : Option ValueId := none
  /-- The collections in the order in which they were met. -/
  collections : Array (NodeId × ValueId) := #[]

/-- A step of loading. -/
abbrev Load := StateT Loader (Except Fault)

namespace Load

def newValue (v : Value) : Load ValueId := do
  let id := (← get).values.size
  modify fun l => { l with values := l.values.push v }
  return id

/-- A new collection, which is filled later. -/
def newCollection (id : NodeId) (kind : Kind) : Load ValueId := do
  let v ← newValue (match kind with
    | .map => .map []
    | .set => .set []
    | _ => .list [])
  modify fun l => { l with collections := l.collections.push (id, v) }
  return v

/-- The value of the word for what is not a number. -/
def sharedNan : Load ValueId := do
  match (← get).nan? with
  | some v => return v
  | none =>
    let v ← newValue (.scalar (.float .nan))
    modify fun l => { l with nan? := some v }
    return v

/-- The value of a node. -/
def valueOf (id : NodeId) : Load ValueId := do
  match ((← get).known[id]?).join with
  | some v => return v
  | none =>
    let kind := (← get).graph.kind id
    let v ←
      if kind.isCollection then newCollection id kind
      else
        match ← scalarOf? (← get).graph id with
        | some s => newValue (.scalar s)
        | none => sharedNan
    modify fun l => { l with known := l.known.setIfInBounds id (some v) }
    return v

/-- The keys and values of a mapping, with what it takes over. The keys have to be scalars; of two values
under one key the later one counts. -/
def entriesOf (id : NodeId) : Load (List (ValueId × ValueId)) := do
  let ((), graph) ← (Merge.flatten id).run (← get).graph
  modify fun l => { l with graph := graph }
  match graph.entries? id with
  | none => throw .malformed
  | some entries =>
    entries.foldlM (fun known (key, value) => do
      let k ← valueOf key
      if ((← get).values.key? k).isNone then throw .malformed
      let v ← valueOf value
      return (← get).values.insertEntry k v known) []

/-- The items of a sequence. -/
def itemsOf (id : NodeId) : Load (List NodeId) := do
  match (← get).graph.content id with
  | .sequence items => return items
  | _ => throw .malformed

/-- One of a list of pairs: a mapping of one entry. -/
def pairOf (id : NodeId) : Load ValueId := do
  match (← get).graph.entries? id with
  | some [(key, value)] => newValue (.pair (← valueOf key) (← valueOf value))
  | _ => throw .malformed

/-- Fills the collection that is the value `v` of a node. -/
def fill (id : NodeId) (v : ValueId) : Load Unit := do
  let filled ← match (← get).graph.kind id with
    | .map => pure (Value.map (← entriesOf id))
    | .set => pure (Value.set ((← entriesOf id).map (·.1)))
    | .seq => pure (Value.list (← (← itemsOf id).mapM valueOf))
    | _ => pure (Value.list (← (← itemsOf id).mapM pairOf))
  modify fun l => { l with values := l.values.setIfInBounds v filled }

/-- Fills the collections from number `n` on, those that are met on the way among them. No node is filled
twice, so that `fuel` is no less than the number of nodes. -/
def fillFrom : (fuel : Nat) → (n : Nat) → Load Unit
  | 0, _ => return
  | fuel + 1, n => do
    match (← get).collections[n]? with
    | none => return
    | some (id, v) =>
      fill id v
      fillFrom fuel (n + 1)

/-- The value of the outermost node, with all that is in it. -/
def whole (root : NodeId) : Load ValueId := do
  let v ← valueOf root
  fillFrom (← get).graph.size 0
  return v

end Load

/-- The outermost part of a document. -/
def Document.load (d : Document) : Except Fault Part := do
  let (v, l) ← (Load.whole d.root).run { graph := d.graph }
  return { values := l.values, id := v }

/-- The outermost part of the document in a text; without a document it is empty. -/
def load (text : String) : Except Fault Part := do
  match ← Document.ofTokens? (tokens text.toList) with
  | some d => d.load
  | none => return { values := #[.scalar .null], id := 0 }

end TalPage.Yaml
