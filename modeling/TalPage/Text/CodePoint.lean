/-!
# Code points

A text as the list of its code points. Beside those of characters there may be surrogates, which are no
characters and stand in no `String`: an escape can name one, and a word of a command line holds one for
each byte that is no text.
-/

namespace TalPage.Text

/-- A code point: that of a character, or one of the surrogates by its number among them. -/
inductive CodePoint where
  | char (c : Char)
  | surrogate (n : Fin 0x800)
deriving DecidableEq, Repr

namespace CodePoint

def toNat : CodePoint → Nat
  | .char c => c.toNat
  | .surrogate n => 0xD800 + n

/-- The code point with a number. -/
def ofNat (n : Nat) : CodePoint :=
  if h : 0xD800 ≤ n ∧ n - 0xD800 < 0x800 then .surrogate ⟨n - 0xD800, h.2⟩ else .char (Char.ofNat n)

def char? : CodePoint → Option Char
  | .char c => some c
  | .surrogate _ => none

/-- Whether this is a character for which `keep` holds. -/
def isChar (keep : Char → Bool) : CodePoint → Bool
  | .char c => keep c
  | .surrogate _ => false

/-- Whether this is the first half of a pair that stands for one character. -/
def isHighSurrogate : CodePoint → Bool
  | .char _ => false
  | .surrogate n => n < 0x400

/-- Whether this is the second half of such a pair. -/
def isLowSurrogate : CodePoint → Bool
  | .char _ => false
  | .surrogate n => 0x400 ≤ n.val

def isSurrogate : CodePoint → Bool
  | .char _ => false
  | .surrogate _ => true

end CodePoint

/-- A text by its code points. -/
abbrev Points := List CodePoint

/-- The code points of characters. -/
def pointsOf (cs : List Char) : Points :=
  cs.map .char

/-- The code points of a text. -/
def points (s : String) : Points :=
  pointsOf s.toList

instance : Coe Char CodePoint := ⟨.char⟩

instance : Coe String Points := ⟨points⟩

/-- The characters with these code points, unless there is a surrogate among them. -/
def characters? (ps : Points) : Option (List Char) :=
  ps.mapM CodePoint.char?

/-- The text with these code points, unless there is a surrogate among them. -/
def string? (ps : Points) : Option String :=
  (characters? ps).map String.ofList

/-! ## Code points of characters -/

@[simp] theorem pointsOf_nil : pointsOf [] = [] := rfl

@[simp] theorem pointsOf_cons (c : Char) (cs : List Char) : pointsOf (c :: cs) = .char c :: pointsOf cs := rfl

@[simp] theorem pointsOf_append (cs ds : List Char) : pointsOf (cs ++ ds) = pointsOf cs ++ pointsOf ds :=
  List.map_append

theorem pointsOf_flatMap {α : Type} (f : α → List Char) (l : List α) :
    pointsOf (l.flatMap f) = l.flatMap fun a => pointsOf (f a) :=
  List.map_flatMap

theorem points_append (s t : String) : points (s ++ t) = points s ++ points t := by
  simp [points]

@[simp] theorem char_mem_pointsOf {c : Char} {cs : List Char} : .char c ∈ pointsOf cs ↔ c ∈ cs := by
  simp [pointsOf]

theorem surrogate_notMem_pointsOf {n : Fin 0x800} (cs : List Char) : .surrogate n ∉ pointsOf cs := by
  simp [pointsOf]

@[simp] theorem pointsOf_inj {cs ds : List Char} : pointsOf cs = pointsOf ds ↔ cs = ds :=
  List.map_inj_right fun _ _ => CodePoint.char.inj

@[simp] theorem points_inj {s t : String} : points s = points t ↔ s = t := by
  simp [points, String.toList_inj]

end TalPage.Text
