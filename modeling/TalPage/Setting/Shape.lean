import TalPage.Setting.Scalar

/-!
# Shapes of settings

What a setting is when it is looked at from outside: a scalar, or a collection of settings. Whatever can
be looked at in this way can be checked.
-/

namespace TalPage

/-- A setting with parts of type `σ`. The keys of a mapping are scalars and distinct, and so are the
items of a set. -/
inductive Shape (σ : Type) where
  | scalar (s : Scalar)
  | list (items : List σ)
  | map (entries : List (σ × σ))
  | set (items : List σ)
  | tuple (items : List σ)

/-- Data that are settings. -/
class Shaped (σ : Type) where
  shape : σ → Shape σ

export Shaped (shape)

namespace Shape

variable {σ : Type}

/-- Whether a document of this shape counts as empty. -/
def isBlank : Shape σ → Bool
  | .scalar s => s.isBlank
  | .list items => items.isEmpty
  | .map entries => entries.isEmpty
  | .set items => items.isEmpty
  | .tuple items => items.isEmpty

/-- Whether this is the text `s`. -/
def isText (s : Text.Points) : Shape σ → Bool
  | .scalar (.text t) => t == s
  | _ => false

end Shape

/-- The value under a text key. -/
def valueUnder? {σ : Type} [Shaped σ] (key : Text.Points) (entries : List (σ × σ)) : Option σ :=
  (entries.find? fun entry => (shape entry.1).isText key).map (·.2)

/-- A JSON value as a setting. -/
def Json.shape : Json → Shape Json
  | .null => .scalar .null
  | .bool b => .scalar (.bool b)
  | .int n => .scalar (.int n)
  | .float x => .scalar (.float x)
  | .string s => .scalar (.text s)
  | .array elements => .list elements
  | .object members => .map (members.map fun (key, value) => (.string key, value))

instance : Shaped Json := ⟨Json.shape⟩

end TalPage
