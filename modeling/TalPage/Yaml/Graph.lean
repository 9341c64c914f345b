import TalPage.Yaml.Fault
import TalPage.Yaml.Kind

/-!
# Graphs of nodes

The structure of a document: scalars, sequences and mappings with their kinds. A node holds the numbers
of the nodes in it, so that one node can stand in several places, and in itself.
-/

namespace TalPage.Yaml

/-- The number of a node in its document. -/
abbrev NodeId := Nat

/-- The entries of a mapping: keys and values, in their order. -/
abbrev Entries := List (NodeId × NodeId)

inductive Content where
  | scalar (text : Text.Points)
  | sequence (items : List NodeId)
  | mapping (entries : Entries)
deriving DecidableEq, Repr

structure Node where
  kind : Kind
  content : Content
deriving DecidableEq, Repr

/-- The nodes of a document by their numbers. -/
abbrev Graph := Array Node

namespace Graph

/-- A node; where there is none, an empty one without a kind stands. -/
def node (g : Graph) (id : NodeId) : Node :=
  g[id]?.getD { kind := .other, content := .scalar [] }

def kind (g : Graph) (id : NodeId) : Kind :=
  (g.node id).kind

def content (g : Graph) (id : NodeId) : Content :=
  (g.node id).content

/-- The entries of a node that is a mapping. -/
def entries? (g : Graph) (id : NodeId) : Option Entries :=
  match g.content id with
  | .mapping entries => some entries
  | _ => none

def setContent (g : Graph) (id : NodeId) (content : Content) : Graph :=
  g.modify id fun n => { n with content := content }

def setKind (g : Graph) (id : NodeId) (kind : Kind) : Graph :=
  g.modify id fun n => { n with kind := kind }

/-- The text of a scalar, or of what a mapping has under the key that stands for it. -/
def text (g : Graph) : (fuel : Nat) → NodeId → Except Fault Text.Points
  | 0, _ => .error .endlessText
  | fuel + 1, id =>
    match g.content id with
    | .scalar text => .ok text
    | .sequence _ => .error .malformed
    | .mapping entries =>
      match entries.find? fun (key, _) => g.kind key = .value with
      | some (_, value) => g.text fuel value
      | none => .error .malformed

/-- The text that a node stands for. A way to it that is longer than the document has nodes goes on for
ever. -/
def textOf (g : Graph) (id : NodeId) : Except Fault Text.Points :=
  g.text (g.size + 1) id

end Graph

end TalPage.Yaml
