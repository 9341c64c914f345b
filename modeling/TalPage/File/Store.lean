import TalPage.File.Path

/-!
# File stores

A file system as a value: what stands at each location, the directory that relative paths start from,
and how many directories can be made on the way to a file. There are no links.
-/

namespace TalPage.File

open Text (Bytes)

/-- The names that lead from the root to a place, as bytes. -/
abbrev Location := List Bytes

inductive Entry where
  | directory
  | file (bytes : Bytes)
deriving DecidableEq, Repr

structure Store where
  entries : List (Location × Entry) := []
  working : Location := []
  /-- The greatest number of missing directories on the way to one that can be made. They are made by as
  many calls inside each other, so that the number is below that of calls a program can have open, and
  depends on how many it has open already. -/
  missingLimit : Nat := 1000
deriving DecidableEq, Repr

/-- Why the file system refuses a request. -/
inductive Refusal where
  | notFound
  | exists
  | notDirectory
  | isDirectory
  | nameTooLong
deriving DecidableEq, Repr

namespace Store

/-- What stands at a location; the root is a directory. -/
def get? (s : Store) (l : Location) : Option Entry :=
  if l = [] then some .directory else s.entries.lookup l

/-- Puts an entry at a location, in place of the one there. -/
def put (s : Store) (l : Location) (e : Entry) : Store :=
  { s with entries := (l, e) :: s.entries.filter (·.1 ≠ l) }

@[simp] theorem get?_put_self {s : Store} {l : Location} {e : Entry} (h : l ≠ []) :
    (s.put l e).get? l = some e := by
  simp [get?, put, h]

theorem lookup_filter_ne {l k : Location} (h : k ≠ l) (entries : List (Location × Entry)) :
    (entries.filter (·.1 ≠ l)).lookup k = entries.lookup k := by
  induction entries with
  | nil => rfl
  | cons x xs ih =>
    obtain ⟨j, e⟩ := x
    by_cases hj : j = l
    · have hk : (k == j) = false := by simp [hj, h]
      rw [List.filter_cons_of_neg (by simp [hj]), ih, List.lookup_cons, hk]
    · rw [List.filter_cons_of_pos (by simp [hj]), List.lookup_cons, List.lookup_cons, ih]

@[simp] theorem get?_put_of_ne {s : Store} {l k : Location} {e : Entry} (h : k ≠ l) :
    (s.put l e).get? k = s.get? k := by
  have hk : (k == l) = false := by simp [h]
  simp only [get?, put, List.lookup_cons, hk, lookup_filter_ne h]

/-- The greatest length of a name, in bytes. -/
def nameLimit : Nat := 255

/-- The length in bytes that a path stays below. -/
def pathLimit : Nat := 4096

/-- The name that leads out of a directory. -/
def twoDots : Bytes := nameBytes ".."

/-- Goes from a location along a name: only a directory has names in it, and two dots lead out. -/
def step (s : Store) (l : Location) (name : Bytes) : Except Refusal Location :=
  match s.get? l with
  | none => .error .notFound
  | some (.file _) => .error .notDirectory
  | some .directory =>
    if name = twoDots then .ok l.dropLast
    else if nameLimit < name.length then .error .nameTooLong
    else .ok (l ++ [name])

/-- The location that a path leads to; nothing need stand there, but all on the way. -/
def locate (s : Store) (p : Path) : Except Refusal Location :=
  if pathLimit ≤ (nameBytes p.text).length then .error .nameTooLong
  else (p.names.map nameBytes).foldlM s.step (if p.isAbsolute then [] else s.working)

/-- What stands where a path leads. -/
def look (s : Store) (p : Path) : Except Refusal Entry := do
  match s.get? (← s.locate p) with
  | some e => .ok e
  | none => .error .notFound

def read (s : Store) (p : Path) : Except Refusal Bytes := do
  match ← s.look p with
  | .file bytes => .ok bytes
  | .directory => .error .isDirectory

/-- Puts bytes into a file, which is made if there is none. -/
def write (s : Store) (p : Path) (bytes : Bytes) : Except Refusal Store := do
  let l ← s.locate p
  match s.get? l with
  | some .directory => .error .isDirectory
  | _ => .ok (s.put l (.file bytes))

/-- Makes a directory inside one that is there. -/
def makeDirectory (s : Store) (p : Path) : Except Refusal Store := do
  let l ← s.locate p
  match s.get? l with
  | some _ => .error .exists
  | none => .ok (s.put l .directory)

end Store

end TalPage.File
