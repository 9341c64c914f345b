import TalPage.Text.Encoding

/-!
# Paths

A path as it is written, without what has no meaning in it: repeated slashes, single dots and a slash
at the end. Two slashes at the start, and no more, are kept apart from one. For the file system a name is
its bytes.
-/

namespace TalPage.File

open Text (Bytes CodePoint EncodeFault Points)

structure Path where
  /-- The slashes at the start: none, one or two. -/
  root : Points := []
  names : List Points := []
deriving DecidableEq, Repr

/-- The byte that a surrogate stands for in a name: the last of them stand for the bytes beyond ASCII. -/
def escapedByte? : CodePoint → Option UInt8
  | .char _ => none
  | .surrogate n => if 0x480 ≤ n.val ∧ n.val < 0x500 then some (UInt8.ofNat (n - 0x400)) else none

/-- Whether a code point has bytes in a name. -/
def isNameable (p : CodePoint) : Bool :=
  !p.isSurrogate || (escapedByte? p).isSome

/-- The bytes of a name. -/
def nameBytes (name : Points) : Bytes :=
  name.flatMap fun p => ((escapedByte? p).map ([·])).getD (Text.Charset.utf8.bytesOf p)

namespace Path

def ofText (s : Points) : Path :=
  let slashes := (s.takeWhile (· = .char '/')).length
  let root : Points := if slashes = 0 then [] else if slashes = 2 then "//" else "/"
  { root := root, names := (s.splitOn (.char '/')).filter fun name => name ≠ [] ∧ name ≠ "." }

/-- The path as it is shown; one without root and names is a dot. -/
def text (p : Path) : Points :=
  if p.root = [] ∧ p.names = [] then "." else p.root ++ List.intercalate "/" p.names

/-- The last name. -/
def name (p : Path) : Points :=
  p.names.getLast?.getD []

/-- The path without its last name. -/
def parent (p : Path) : Path :=
  { p with names := p.names.dropLast }

def isAbsolute (p : Path) : Bool :=
  p.root ≠ []

/-- Whether a null character stands in the path, which no file system takes. -/
def hasNull (p : Path) : Bool :=
  p.names.any fun name => name.any fun c => c.toNat = 0

/-- What keeps the path from having bytes: the first run of surrogates from one that stands for none. -/
def encodeFault? (p : Path) : Option EncodeFault :=
  match p.text.dropWhile isNameable with
  | c :: rest =>
    some ⟨.utf8, (p.text.takeWhile isNameable).length, 1 + (rest.takeWhile (·.isSurrogate)).length, c⟩
  | [] => none

end Path

end TalPage.File
