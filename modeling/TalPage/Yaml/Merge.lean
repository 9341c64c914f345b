import TalPage.Yaml.Graph

/-!
# Taking over entries

A mapping may take over the entries of other mappings, by entries of its own with a key for that. What
it takes over stands before its own entries, and the mappings it takes over from have done the same
before. A mapping that takes over from itself finds what is left in it.
-/

namespace TalPage.Yaml

/-- A change of a document's graph. -/
abbrev Change := StateT Graph (Except Fault)

namespace Graph

/-- The first entry that takes over others is cut out: its value, and the entries that are left. -/
def cutMerge? (g : Graph) : Entries → Option (NodeId × Entries)
  | [] => none
  | (key, value) :: entries =>
    if g.kind key = .merge then some (value, entries)
    else (g.cutMerge? entries).map fun (cut, left) => (cut, (key, value) :: left)

/-- The number of entries that take over others. -/
def mergeCount (g : Graph) : Nat :=
  g.foldl (fun n node =>
    match node.content with
    | .mapping entries => n + entries.countP fun (key, _) => g.kind key = .merge
    | _ => n) 0

/-- The keys that stand for the mapping itself become texts. -/
def withTextKeys (g : Graph) (entries : Entries) : Graph :=
  entries.foldl (fun g (key, _) => if g.kind key = .value then g.setKind key .str else g) g

end Graph

namespace Merge

/-- The entries of a mapping that others are taken over from. -/
def source (id : NodeId) : Change Entries := do
  match (← get).entries? id with
  | some entries => return entries
  | none => throw .malformed

/-- Lets a mapping take over all it has to; `taken` is what it has so far. Each step cuts out an entry, so
that `fuel` is no less than the number of those left. -/
def flattenWith : (fuel : Nat) → (taken : Entries) → NodeId → Change Unit
  | 0, _, _ => throw .malformed
  | fuel + 1, taken, id => do
    let g ← get
    let entries ← source id
    match g.cutMerge? entries with
    | none =>
      let g := g.withTextKeys entries
      set (if taken = [] then g else g.setContent id (.mapping (taken ++ entries)))
    | some (value, left) =>
      set (g.setContent id (.mapping left))
      let flat (id : NodeId) : Change Entries := do
        let _ ← source id
        flattenWith fuel [] id
        source id
      match g.content value with
      | .mapping _ => flattenWith fuel (taken ++ (← flat value)) id
      | .sequence items =>
        let parts ← items.mapM flat
        flattenWith fuel (taken ++ parts.reverse.flatten) id
      | .scalar _ => throw .malformed

/-- Lets a mapping take over all it has to. -/
def flatten (id : NodeId) : Change Unit := do
  let entries ← source id
  let g ← get
  flattenWith (if (g.cutMerge? entries).isNone then 1 else g.mergeCount + 1) [] id

end Merge

end TalPage.Yaml
