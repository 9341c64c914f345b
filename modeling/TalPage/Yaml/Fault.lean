import TalPage.Numeric.Numeral
import TalPage.Setting.Moment

/-!
# Faults in YAML documents

A text that is no YAML document of known kinds is malformed. A scalar that has a kind by its form or
its tag, and no value of that kind, is a fault of its own.
-/

namespace TalPage.Yaml

inductive Fault where
  | malformed
  | numeral (fault : Numeric.NumeralFault)
  | calendar (fault : CalendarFault)
  /-- A tagged truth value that is none of the words for one. -/
  | unknownWord (word : Text.Points)
  /-- A tagged number without a digit. -/
  | emptyNumeral
  /-- A tagged time that does not have the form of one. -/
  | noMoment
  /-- A mapping with the tag of a time. -/
  | noText
  /-- A digit too far before the point. -/
  | overflow
  /-- An escape beyond the last code point. -/
  | codePoint
  /-- An escape beyond the signed words of 32 bits. -/
  | codeTooGreat
  /-- A mapping whose text is its own text. -/
  | endlessText
deriving DecidableEq, Repr

def Fault.message : Fault → String
  | .malformed => ""
  | .numeral fault => fault.message
  | .calendar fault => fault.message
  | .unknownWord word => Text.quoted word
  | .emptyNumeral => "string index out of range"
  | .noMoment => "'NoneType' object has no attribute 'groupdict'"
  | .noText => "expected string or bytes-like object, got 'list'"
  | .overflow => "int too large to convert to float"
  | .codePoint => "chr() arg not in range(0x110000)"
  | .codeTooGreat => "Python int too large to convert to C int"
  | .endlessText => "maximum recursion depth exceeded"

end TalPage.Yaml
