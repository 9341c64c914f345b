import TalPage.Text.CodePoint

/-!
# HTML entities

The five characters that mean something to HTML are written as entities, so that a text can stand
between tags and inside a quoted attribute.
-/

namespace TalPage.Page

open Text (CodePoint Points)

def entity (c : Char) : List Char :=
  match c with
  | '&' => "&amp;".toList
  | '<' => "&lt;".toList
  | '>' => "&gt;".toList
  | '\'' => "&#39;".toList
  | '"' => "&#34;".toList
  | c => [c]

/-- What stands for a code point: a surrogate stands for itself. -/
def escapedPoint : CodePoint → Points
  | .char c => Text.pointsOf (entity c)
  | .surrogate n => [.surrogate n]

def escape (s : Points) : Points :=
  s.flatMap escapedPoint

end TalPage.Page
