import TalPage.File.Store
import TalPage.Text.Newline

/-!
# Reading and writing texts

Texts go to files and come from them in a character encoding. Writing makes the directories that are
missing, unless there are too many; reading gives every line end as a line feed.
-/

namespace TalPage.File

open Text (Charset Points)

/-- Why a text cannot be read or written. -/
inductive Fault where
  | refused (refusal : Refusal) (path : Path)
  | undecodable (fault : Text.DecodeFault)
  /-- A text, or a path, has no bytes. -/
  | unencodable (fault : Text.EncodeFault)
  /-- A path holds a null character, which no file system takes. -/
  | nullInPath
  /-- More directories are missing on the way to a file than can be made for one. -/
  | tooManyMissing
deriving DecidableEq, Repr

/-- The number that a refusal is known by. -/
def Refusal.number : Refusal → Nat
  | .notFound => 2
  | .exists => 17
  | .notDirectory => 20
  | .isDirectory => 21
  | .nameTooLong => 36

def Refusal.text : Refusal → String
  | .notFound => "No such file or directory"
  | .exists => "File exists"
  | .notDirectory => "Not a directory"
  | .isDirectory => "Is a directory"
  | .nameTooLong => "File name too long"

def Fault.message : Fault → String
  | .refused refusal path =>
    "[Errno " ++ toString refusal.number ++ "] " ++ refusal.text ++ ": " ++ Text.quoted path.text
  | .undecodable fault => fault.message
  | .unencodable fault => fault.message
  | .nullInPath => "embedded null byte"
  | .tooManyMissing => "maximum recursion depth exceeded while calling a Python object"

/-- Why no file system takes a path: it has no bytes, or a null character in it. -/
def Path.fault? (p : Path) : Option Fault :=
  match p.encodeFault? with
  | some fault => some (.unencodable fault)
  | none => if p.hasNull then some .nullInPath else none

namespace Store

/-- Whether something stands where a path leads. -/
def exists? (s : Store) (p : Path) : Except Fault Bool :=
  if p.fault?.isSome then .ok false
  else
    match s.look p with
    | .ok _ => .ok true
    | .error .notFound => .ok false
    | .error .notDirectory => .ok false
    | .error refusal => .error (.refused refusal p)

/-- Whether a path leads to a directory. -/
def isDirectory (s : Store) (p : Path) : Bool :=
  match s.look p with
  | .ok .directory => true
  | _ => false

/-- Makes one directory; one that is there already is left as it is. -/
def ensureDirectory (s : Store) (p : Path) : Except Fault Unit × Store :=
  match s.makeDirectory p with
  | .ok s => (.ok (), s)
  | .error refusal => if s.isDirectory p then (.ok (), s) else (.error (.refused refusal p), s)

/-- Makes the directory that names lead to, and before it those that are missing on the way. The names
are in reverse; the place they start from is there. -/
def ensureDirectories (s : Store) (root : Points) : List Points → Except Fault Unit × Store
  | [] => (.ok (), s)
  | name :: outer =>
    let p : Path := { root := root, names := (name :: outer).reverse }
    match s.makeDirectory p with
    | .error .notFound =>
      match ensureDirectories s root outer with
      | (.error fault, s) => (.error fault, s)
      | (.ok (), s) => s.ensureDirectory p
    | _ => s.ensureDirectory p

/-- How many directories are missing on the way to the one that names lead to. The names are in
reverse. -/
def missing (s : Store) (root : Points) : List Points → Nat
  | [] => 0
  | name :: outer =>
    match s.makeDirectory { root := root, names := (name :: outer).reverse } with
    | .error .notFound => missing s root outer + 1
    | _ => 0

/-- Makes the directories on the way to a file; none is made where too many are missing. -/
def makeParents (s : Store) (p : Path) : Except Fault Unit × Store :=
  if p.parent = {} then (.ok (), s)
  else
    match p.parent.fault? with
    | some fault => (.error fault, s)
    | none =>
      if s.missingLimit < s.missing p.root p.parent.names.reverse then (.error .tooManyMissing, s)
      else s.ensureDirectories p.root p.parent.names.reverse

/-- Writes a text to a file. A text that cannot be encoded leaves the file empty. -/
def writeText (s : Store) (p : Path) (text : Points) (charset : Charset) : Except Fault Unit × Store :=
  match s.makeParents p with
  | (.error fault, s) => (.error fault, s)
  | (.ok (), s) =>
    match p.fault? with
    | some fault => (.error fault, s)
    | none =>
      match Text.encode charset text with
      | .ok bytes =>
        match s.write p bytes with
        | .ok s => (.ok (), s)
        | .error refusal => (.error (.refused refusal p), s)
      | .error fault =>
        match s.write p [] with
        | .ok s => (.error (.unencodable fault), s)
        | .error refusal => (.error (.refused refusal p), s)

/-- Reads the text of a file. -/
def readText (s : Store) (p : Path) (charset : Charset) : Except Fault String :=
  match p.fault? with
  | some fault => .error fault
  | none =>
    match s.read p with
    | .error refusal => .error (.refused refusal p)
    | .ok bytes =>
      match Text.decode charset bytes with
      | .error fault => .error (.undecodable fault)
      | .ok cs => .ok (String.ofList (Text.unifyNewlines cs))

end Store

end TalPage.File
