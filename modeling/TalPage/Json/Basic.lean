import TalPage.Numeric.Binary
import TalPage.Text.CodePoint

/-!
# JSON values

Objects keep their members in order. `Json.sorted` is the form in which the members of every object
stand in the order of their keys.
-/

namespace TalPage

open Text (CodePoint Points)

inductive Json where
  | null
  | bool (b : Bool)
  | int (n : Int)
  | float (x : Numeric.Binary)
  | string (s : Points)
  | array (elements : List Json)
  | object (members : List (Points × Json))
deriving Repr

namespace Json

/-- The order of texts by their first code points that differ; what goes on longer comes after. -/
def keyLe : Points → Points → Bool
  | [], _ => true
  | _ :: _, [] => false
  | p :: ps, q :: qs => p.toNat < q.toNat || (p = q && keyLe ps qs)

/-- The members in the order of their keys. -/
def sortByKey {α : Type} (members : List (Points × α)) : List (Points × α) :=
  members.mergeSort fun a b => keyLe a.1 b.1

mutual
/-- The value with the members of every object in it in the order of their keys. -/
def sorted : Json → Json
  | .array elements => .array (sortedElements elements)
  | .object members => .object (sortByKey (sortedMembers members))
  | value => value

def sortedElements : List Json → List Json
  | [] => []
  | value :: elements => value.sorted :: sortedElements elements

def sortedMembers : List (Points × Json) → List (Points × Json)
  | [] => []
  | (key, value) :: members => (key, value.sorted) :: sortedMembers members
end

/-- A whole number in decimal. -/
def intText (n : Int) : List Char :=
  if n < 0 then '-' :: Nat.toDigits 10 n.natAbs else Nat.toDigits 10 n.natAbs

/-- A float in decimal; the numbers that are not finite have words of their own. -/
def floatText (x : Numeric.Binary) : List Char :=
  match x with
  | .nan => "NaN".toList
  | .infinite false => "Infinity".toList
  | .infinite true => "-Infinity".toList
  | x => x.text.toList

end Json

end TalPage
