import TalPage.Text.CodePoint
import TalPage.Yaml.Fault

/-!
# Tokens of YAML

What a document is cut into before its structure is read. The start and end of the collections that
indentation makes are tokens of their own.
-/

namespace TalPage.Yaml

inductive Token where
  | streamEnd
  | versionDirective (major minor : Nat)
  | tagDirective (handle expansion : String)
  | otherDirective
  | documentStart
  | documentEnd
  | blockSequenceStart
  | blockMappingStart
  | blockEnd
  | flowSequenceStart
  | flowSequenceEnd
  | flowMappingStart
  | flowMappingEnd
  | flowEntry
  | blockEntry
  | key
  | value
  /-- An alias. -/
  | reference (name : String)
  | anchor (name : String)
  /-- A tag by its handle and the rest; one without a handle is complete. -/
  | tag (handle : Option String) (suffix : String)
  | scalar (plain : Bool) (text : Text.Points)
deriving DecidableEq, Repr

/-- The tokens of a text. If they are not all, a fault follows them, which is found when one more is asked
for. -/
structure TokenStream where
  tokens : List Token
  fault : Fault := .malformed
deriving Repr

end TalPage.Yaml
