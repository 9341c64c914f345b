/-!
# Faults

Why a reading of the markup fails, and the report made of it.
-/

namespace TalPage.Markup

/-- The kinds of failure a report names. -/
inductive Kind where
  | general
  | missingRoot
  | unterminatedContent
  | unterminatedChildren
  | nestingTooDeep
deriving DecidableEq, Repr

/-- The word a kind is reported under. -/
def Kind.name : Kind → String
  | .general => "error"
  | .missingRoot => "missing_root"
  | .unterminatedContent => "unterminated_content"
  | .unterminatedChildren => "unterminated_children"
  | .nestingTooDeep => "nesting_too_deep"

/-- A reported failure. -/
structure Report where
  kind : Kind
  message : String
  position : Int := 0
deriving DecidableEq, Repr

/-- The message with the offset it is about. -/
def Report.text (r : Report) : String :=
  r.message ++ " (at offset " ++ toString r.position ++ ")"

/-- Why a reading fails. -/
inductive Cause where
  /-- The text has no root marker. -/
  | noRoot
  /-- A content block is still open at the end of the text. -/
  | openContent
  /-- A list of children is still open at the end of the text. -/
  | openChildren
  /-- An element lies deeper than the limit allows. -/
  | tooDeep (limit : Int)
  /-- Elements nest deeper than the reader can follow under any limit. -/
  | exhausted
deriving DecidableEq, Repr

def Cause.kind : Cause → Kind
  | .noRoot => .missingRoot
  | .openContent => .unterminatedContent
  | .openChildren => .unterminatedChildren
  | .tooDeep _ => .nestingTooDeep
  | .exhausted => .nestingTooDeep

def Cause.message : Cause → String
  | .noRoot => "No root marker '^' found"
  | .openContent => "Content block is never closed with '\x7d'"
  | .openChildren => "Children list is never closed with ']'"
  | .tooDeep limit => "Nesting exceeds the limit of " ++ toString limit ++ " levels"
  | .exhausted => "Nesting exceeds the interpreter recursion limit"

/-- A cause with the text from the place it is about to the end, and the text that was left unread
when the reading stopped. -/
structure Fault where
  cause : Cause
  place : List Char
  rest : List Char
deriving DecidableEq, Repr

/-- The report of a fault met while reading `source`: the place is given by its offset. -/
def Fault.report (f : Fault) (source : List Char) : Report where
  kind := f.cause.kind
  message := f.cause.message
  position := source.length - f.place.length

end TalPage.Markup
