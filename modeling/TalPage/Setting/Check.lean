import TalPage.Setting.WholeNumber
import TalPage.Text.Encoding

/-!
# Checking settings

A check turns a setting into a value of a known type, or gives all issues it finds. Scalars are taken
generously: a truth value may be written as a word, and a number as text.
-/

namespace TalPage

open Text (Points)

/-- The outcome of a check of settings of type `σ`. -/
inductive Checked (σ α : Type) where
  | valid (a : α)
  | invalid (issues : List (Issue σ))

namespace Checked

variable {σ α β : Type}

def complain (complaint : Complaint) (input : σ) : Checked σ α :=
  .invalid [⟨[], complaint, input⟩]

def map (f : α → β) : Checked σ α → Checked σ β
  | .valid a => .valid (f a)
  | .invalid issues => .invalid issues

/-- Two checks side by side: the issues of both, in their order. -/
def and : Checked σ α → Checked σ β → Checked σ (α × β)
  | .valid a, .valid b => .valid (a, b)
  | .valid _, .invalid issues => .invalid issues
  | .invalid issues, .valid _ => .invalid issues
  | .invalid issues, .invalid more => .invalid (issues ++ more)

/-- The check of a part, its issues located from the whole. -/
def inside (step : Step) : Checked σ α → Checked σ α
  | .valid a => .valid a
  | .invalid issues => .invalid (issues.map fun i => { i with location := step :: i.location })

/-- All checks of a list, one after the other. -/
def all : List (Checked σ α) → Checked σ (List α)
  | [] => .valid []
  | c :: cs => (c.and (all cs)).map fun (a, as) => a :: as

end Checked

/-- A check of one setting. -/
abbrev Check (σ α : Type) := σ → Checked σ α

/-- Puts a text under a key: a key that is there already keeps its place. -/
def putText (key value : Points) : List (Points × Points) → List (Points × Points)
  | [] => [(key, value)]
  | (k, v) :: entries =>
    if k = key then (k, value) :: entries else (k, v) :: putText key value entries

namespace Check

variable {σ α : Type}

def parsed (complaint : Complaint) (input : σ) : Option α → Checked σ α
  | some a => .valid a
  | none => .complain complaint input

def ofResult (input : σ) : Except Complaint α → Checked σ α
  | .ok a => .valid a
  | .error complaint => .complain complaint input

def falseWords : List String := ["0", "f", "n", "no", "off", "false"]

def trueWords : List String := ["1", "t", "y", "on", "yes", "true"]

/-- The truth value of a word, in any case. -/
def boolOfWord? (s : String) : Option Bool :=
  let word := String.ofList (s.toList.map Char.toLower)
  if word ∈ falseWords then some false else if word ∈ trueWords then some true else none

/-- Whether the whole number that a float is can be taken for one: it lies strictly inside the signed
words of 64 bits. -/
def fitsFloat (n : Int) : Bool :=
  -0x8000000000000000 < n && n < 0x8000000000000000

/-- A number is true if it is one and false if it is zero. -/
def boolOfInt? (n : Int) : Option Bool :=
  if n = 0 then some false else if n = 1 then some true else none

/-- Checks a text that may hold no surrogates. -/
def withString (input : σ) (s : Points) (check : String → Checked σ α) : Checked σ α :=
  match Text.string? s with
  | some s => check s
  | none => .complain .stringUnicode input

variable [Shaped σ]

/-- A text may hold surrogates, unless it is given by its bytes. -/
def text : Check σ Points := fun v =>
  match shape v with
  | .scalar (.text s) => .valid s
  | .scalar (.bytes bs) =>
    match Text.decode .utf8 bs with
    | .ok cs => .valid (Text.pointsOf cs)
    | .error _ => .complain .stringUnicode v
  | _ => .complain .stringType v

def bool : Check σ Bool := fun v =>
  match shape v with
  | .scalar (.bool b) => .valid b
  | .scalar (.text s) => withString v s fun s => parsed .boolParsing v (boolOfWord? s)
  | .scalar (.bytes bs) =>
    parsed .boolParsing v ((Text.decode .utf8 bs).toOption.bind (boolOfWord? ∘ String.ofList))
  | .scalar (.int n) =>
    if fitsWord n then parsed .boolParsing v (boolOfInt? n) else .complain .boolType v
  | .scalar (.float x) =>
    match x.toInt? with
    | some n => if fitsFloat n then parsed .boolParsing v (boolOfInt? n) else .complain .boolType v
    | none => .complain .boolType v
  | _ => .complain .boolType v

def int : Check σ Int := fun v =>
  match shape v with
  | .scalar (.bool b) => .valid (if b then 1 else 0)
  | .scalar (.int n) => .valid n
  | .scalar (.text s) => withString v s fun s => ofResult v (WholeNumber.ofText s.toList)
  | .scalar (.bytes bs) =>
    match Text.decode .utf8 bs with
    | .ok cs => ofResult v (WholeNumber.ofText cs)
    | .error _ => .complain .intParsing v
  | .scalar (.float x) =>
    if !x.isFinite then .complain .finiteNumber v
    else
      match x.toInt? with
      | none => .complain .intFromFloat v
      | some n => if fitsFloat n then .valid n else .complain .intParsingSize v
  | _ => .complain .intType v

/-- A whole number between two bounds. -/
def bounded (least greatest : Nat) : Check σ Nat := fun v =>
  match int v with
  | .invalid issues => .invalid issues
  | .valid n =>
    if n < least then .complain (.atLeast least) v
    else if greatest < n then .complain (.atMost greatest) v
    else .valid n.toNat

/-- A setting that may be left empty. -/
def optional (check : Check σ α) : Check σ (Option α) := fun v =>
  match shape v with
  | .scalar .null => .valid none
  | _ => (check v).map some

/-- One of several words. -/
def choice (options : List (String × α)) : Check σ α := fun v =>
  let complaint := Complaint.choice (options.map (·.1))
  match shape v with
  | .scalar (.text s) => withString v s fun s => parsed complaint v (options.lookup s)
  | _ => .complain complaint v

/-- A list of settings of one kind. -/
def list (check : Check σ α) : Check σ (List α) := fun v =>
  let items? : Option (List σ) := match shape v with
    | .list items => some items
    | .set items => some items
    | .tuple items => some items
    | _ => none
  match items? with
  | some items => .all (items.zipIdx.map fun (item, i) => (check item).inside (.index i))
  | none => .complain .listType v

/-- An entry of a mapping of texts; an issue with the key is located at the key itself. -/
def textEntry (key value : σ) : Checked σ (Points × Points) :=
  let step := Step.ofKey key
  (((text key).inside (.key "[key]")).inside step).and ((text value).inside step)

/-- A mapping from texts to texts, in its order. Of entries whose keys are the same text the last one
counts, in the place of the first. -/
def textMap : Check σ (List (Points × Points)) := fun v =>
  match shape v with
  | .map entries =>
    (Checked.all (entries.map fun (key, value) => textEntry key value)).map
      (List.foldl (fun known (key, value) => putText key value known) [])
  | _ => .complain .mappingType v

/-- A named part of a record: it is looked up under its other name first and then under its name, and has
a default if it stands under neither. -/
def field (entries : List (σ × σ)) (otherName name : String) (check : Check σ α) (default : α) :
    Checked σ α :=
  match valueUnder? otherName entries with
  | some v => (check v).inside (.key otherName)
  | none =>
    match valueUnder? name entries with
    | some v => (check v).inside (.key name)
    | none => .valid default

end Check

end TalPage
