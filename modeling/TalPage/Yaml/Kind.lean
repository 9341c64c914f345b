import TalPage.Text.CodePoint
import TalPage.Text.Pattern

/-!
# Kinds of nodes

The kinds that nodes have by their tags, and the kinds that plain scalars without a tag have by their
form.
-/

namespace TalPage.Yaml

open Text (Pattern)

inductive Kind where
  | null
  | bool
  | int
  | float
  | binary
  | timestamp
  | omap
  | pairs
  | set
  | str
  | seq
  | map
  /-- The key of entries that are taken over from other mappings. -/
  | merge
  /-- The key of the entry that stands for the mapping. -/
  | value
  /-- Any tag that names no kind. -/
  | other
deriving DecidableEq, Repr

/-- What the tags of the kinds begin with. -/
def tagStart : String := "tag:yaml.org,2002:"

/-- The ends of the tags of the kinds. -/
def Kind.names : List (String × Kind) :=
  [("null", .null), ("bool", .bool), ("int", .int), ("float", .float), ("binary", .binary),
    ("timestamp", .timestamp), ("omap", .omap), ("pairs", .pairs), ("set", .set), ("str", .str),
    ("seq", .seq), ("map", .map), ("merge", .merge), ("value", .value)]

def Kind.ofTag (tag : String) : Kind :=
  ((Kind.names.map fun (name, kind) => (tagStart ++ name, kind)).lookup tag).getD .other

namespace Form

open Text.Pattern

def sign : Pattern := maybe (charIn "+-")

/-- A digit, and digits and underscores after it. -/
def digits : Pattern := .both digit (.many (charIn "0123456789_"))

def exponent : Pattern := sequence [charIn "eE", charIn "+-", repeated digit]

/-- Further digits of a number in base sixty. -/
def sixtieths : Pattern := repeated (sequence [char ':', maybe (charIn "012345"), digit])

/-- Digits and underscores after a point. -/
def fraction : Pattern := .both (char '.') (.many (charIn "0123456789_"))

def bool : Pattern :=
  anyWord ["yes", "Yes", "YES", "no", "No", "NO", "true", "True", "TRUE", "false", "False", "FALSE",
    "on", "On", "ON", "off", "Off", "OFF"]

def float : Pattern :=
  anyOf [
    sequence [sign, digits, fraction, maybe exponent],
    sequence [char '.', digits, maybe exponent],
    sequence [sign, digits, sixtieths, fraction],
    sequence [sign, anyWord [".inf", ".Inf", ".INF"]],
    anyWord [".nan", ".NaN", ".NAN"]]

/-- A digit above zero, and digits and underscores after it. -/
def positive : Pattern := .both (charIn "123456789") (.many (charIn "0123456789_"))

def int : Pattern :=
  anyOf [
    sequence [sign, word "0b", repeated (charIn "01_")],
    sequence [sign, char '0', repeated (charIn "01234567_")],
    sequence [sign, anyOf [char '0', positive]],
    sequence [sign, word "0x", repeated (charIn "0123456789abcdefABCDEF_")],
    sequence [sign, positive, sixtieths]]

def null : Pattern :=
  anyWord ["~", "null", "Null", "NULL", ""]

def oneOrTwoDigits : Pattern := .both digit (maybe digit)

def year : Pattern := sequence [digit, digit, digit, digit]

def gap : Pattern := charIn " \t"

/-- A date with two digits for month and day, or a date with a time of day. -/
def timestamp : Pattern :=
  let minus := char '-'
  let twoDigits := Pattern.both digit digit
  let zone := anyOf [
    char 'Z',
    sequence [charIn "+-", oneOrTwoDigits, maybe (.both (char ':') twoDigits)]]
  anyOf [
    sequence [year, minus, twoDigits, minus, twoDigits],
    sequence [year, minus, oneOrTwoDigits, minus, oneOrTwoDigits, anyOf [charIn "Tt", repeated gap],
      oneOrTwoDigits, char ':', twoDigits, char ':', twoDigits,
      maybe (.both (char '.') (.many digit)), maybe (.both (.many gap) zone)]]

/-- The forms that give a plain scalar its kind; no text has two of them. -/
def kinds : List (Kind × Pattern) :=
  [(.bool, bool), (.float, float), (.int, int), (.merge, word "<<"), (.null, null),
    (.timestamp, timestamp), (.value, char '='), (.other, charIn "!&*")]

end Form

/-- The kind of a plain scalar. A line feed at the end does not count, unless it is all there is. -/
def Kind.ofPlain (text : Text.Points) : Kind :=
  match Text.characters? text with
  | none => .str
  | some cs =>
    let cs := if cs.getLast? = some '\n' ∧ 1 < cs.length then cs.dropLast else cs
    ((Form.kinds.find? fun (_, form) => form.accepts cs).map (·.1)).getD .str

/-- Whether a kind is one of collections. -/
def Kind.isCollection : Kind → Bool
  | .seq | .map | .set | .omap | .pairs => true
  | _ => false

end TalPage.Yaml
