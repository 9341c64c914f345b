import TalPage.Setting.Issue

/-!
# Parts of a document

The values of a document. Each has a number, and collections hold the numbers of what is in them, so that
one value can stand in several places, and in itself. A part is one of them, seen as a setting.
-/

namespace TalPage.Yaml

/-- The number of a value in its document. -/
abbrev ValueId := Nat

inductive Value where
  | scalar (s : Scalar)
  | list (items : List ValueId)
  | map (entries : List (ValueId × ValueId))
  | set (items : List ValueId)
  | pair (first second : ValueId)
deriving DecidableEq, Repr

/-- The values of a document by their numbers. -/
abbrev Values := Array Value

namespace Values

/-- A value; where there is none, an empty one stands. -/
def value (vs : Values) (id : ValueId) : Value :=
  vs[id]?.getD (.scalar .null)

/-- A value as a key; a collection is none. -/
def key? (vs : Values) (id : ValueId) : Option Scalar :=
  match vs.value id with
  | .scalar s => some s
  | _ => none

/-- Whether two values are the same key: they are one value, or equal. -/
def sameKey (vs : Values) (a b : ValueId) : Bool :=
  a = b ||
    match vs.key? a, vs.key? b with
    | some s, some t => s.sameKey t
    | _, _ => false

/-- Puts a value under a key: a key that is there already keeps its place and its spelling. -/
def insertEntry (vs : Values) (key value : ValueId) :
    List (ValueId × ValueId) → List (ValueId × ValueId)
  | [] => [(key, value)]
  | (k, v) :: entries =>
    if vs.sameKey k key then (k, value) :: entries else (k, v) :: insertEntry vs key value entries

/-- Texts with commas between them and brackets around them. -/
def bracketed (opening closing : String) (texts : List String) : String :=
  opening ++ ", ".intercalate texts ++ closing

/-- The literal of a value that stands in collections `outer`. One that stands in itself is only hinted
at. As all of `outer` are different, `fuel` is no less than the number of the values that are left. -/
def literalIn (vs : Values) : (fuel : Nat) → (outer : List ValueId) → ValueId → Option String
  | 0, _, _ => none
  | fuel + 1, outer, id =>
    let inner := vs.literalIn fuel (id :: outer)
    match vs.value id with
    | .scalar s => s.literal?
    | .list items =>
      if id ∈ outer then some "[...]"
      else (items.mapM inner).map (bracketed "[" "]")
    | .map entries =>
      if id ∈ outer then some "\x7b...\x7d"
      else
        (entries.mapM fun (key, value) => do
          return (← inner key) ++ ": " ++ (← inner value)).map (bracketed "\x7b" "\x7d")
    | .set [] => some "set()"
    | .set items => (items.mapM inner).map (bracketed "\x7b" "\x7d")
    | .pair first second =>
      if id ∈ outer then some "(...)"
      else ([first, second].mapM inner).map (bracketed "(" ")")

end Values

structure Part where
  values : Values
  id : ValueId

namespace Part

def shape (p : Part) : Shape Part :=
  let part (id : ValueId) : Part := { p with id := id }
  match p.values.value p.id with
  | .scalar s => .scalar s
  | .list items => .list (items.map part)
  | .map entries => .map (entries.map fun (key, value) => (part key, part value))
  | .set items => .set (items.map part)
  | .pair first second => .tuple [part first, part second]

/-- The literal of a part. There is none if a number in it has none. -/
def literal? (p : Part) : Option String :=
  p.values.literalIn (p.values.size + 1) [] p.id

end Part

instance : Reported Part where
  shape := Part.shape
  literal? := Part.literal?

end TalPage.Yaml
