import TalPage.Numeric.Numeral
import TalPage.Setting.Scalar

/-!
# Literals

The text of a scalar setting in a report, and the name of its kind.
-/

namespace TalPage.Scalar

/-- The literal of a scalar. A whole number with too many digits has none. -/
def literal? : Scalar → Option String
  | .null => some "None"
  | .bool true => some "True"
  | .bool false => some "False"
  | .int n =>
    if Numeric.isWritable n then some (String.ofList (Json.intText n)) else none
  | .float x => some x.text
  | .text s => some (Text.quoted s)
  | .bytes bs => some (Text.quotedBytes bs)
  | .date d => some d.literal
  | .moment m => some m.literal

def kindName : Scalar → String
  | .null => "NoneType"
  | .bool _ => "bool"
  | .int _ => "int"
  | .float _ => "float"
  | .text _ => "str"
  | .bytes _ => "bytes"
  | .date _ => "date"
  | .moment _ => "datetime"

end TalPage.Scalar
