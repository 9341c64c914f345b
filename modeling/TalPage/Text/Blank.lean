/-!
# Blank characters

The characters that count as white space in running text, and trimming them off both ends.
-/

namespace TalPage.Text

/-- The code points of white space, as closed ranges: the ASCII blanks and separators, and the
spaces and line ends of the other scripts. -/
def blankRanges : List (Nat × Nat) :=
  [(0x09, 0x0D), (0x1C, 0x20), (0x85, 0x85), (0xA0, 0xA0), (0x1680, 0x1680), (0x2000, 0x200A),
    (0x2028, 0x2029), (0x202F, 0x202F), (0x205F, 0x205F), (0x3000, 0x3000)]

/-- Whether a code point is one of white space. -/
def isBlankPoint (n : Nat) : Bool :=
  blankRanges.any fun (lo, hi) => lo ≤ n && n ≤ hi

def isBlank (c : Char) : Bool :=
  isBlankPoint c.toNat

/-- The characters without the blanks at either end. -/
def trim (cs : List Char) : List Char :=
  ((cs.dropWhile isBlank).reverse.dropWhile isBlank).reverse

/-- The text without the blanks at either end. -/
def strip (s : String) : String :=
  String.ofList (trim s.toList)

end TalPage.Text
