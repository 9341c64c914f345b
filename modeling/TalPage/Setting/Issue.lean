import TalPage.Setting.Literal
import TalPage.Setting.Shape

/-!
# Issues

What is wrong with a setting, where, and how it is reported.
-/

namespace TalPage

/-- What is wrong with a value. -/
inductive Complaint where
  | stringType
  | stringUnicode
  | boolType
  | boolParsing
  | intType
  | intParsing
  | intParsingSize
  | intFromFloat
  | finiteNumber
  | atLeast (bound : Nat)
  | atMost (bound : Nat)
  | choice (options : List String)
  | listType
  | mappingType
  | recordType (record : String)
deriving DecidableEq, Repr

def Complaint.code : Complaint → String
  | .stringType => "string_type"
  | .stringUnicode => "string_unicode"
  | .boolType => "bool_type"
  | .boolParsing => "bool_parsing"
  | .intType => "int_type"
  | .intParsing => "int_parsing"
  | .intParsingSize => "int_parsing_size"
  | .intFromFloat => "int_from_float"
  | .finiteNumber => "finite_number"
  | .atLeast _ => "greater_than_equal"
  | .atMost _ => "less_than_equal"
  | .choice _ => "literal_error"
  | .listType => "list_type"
  | .mappingType => "dict_type"
  | .recordType _ => "model_type"

/-- Options in quotes, with commas and an "or" before the last. -/
def optionList : List String → String
  | [] => ""
  | [s] => Text.quoted s
  | [s, t] => Text.quoted s ++ " or " ++ Text.quoted t
  | s :: rest => Text.quoted s ++ ", " ++ optionList rest

def Complaint.message : Complaint → String
  | .stringType => "Input should be a valid string"
  | .stringUnicode => "Input should be a valid string, unable to parse raw data as a unicode string"
  | .boolType => "Input should be a valid boolean"
  | .boolParsing => "Input should be a valid boolean, unable to interpret input"
  | .intType => "Input should be a valid integer"
  | .intParsing => "Input should be a valid integer, unable to parse string as an integer"
  | .intParsingSize => "Unable to parse input string as an integer, exceeded maximum size"
  | .intFromFloat => "Input should be a valid integer, got a number with a fractional part"
  | .finiteNumber => "Input should be a finite number"
  | .atLeast bound => "Input should be greater than or equal to " ++ toString bound
  | .atMost bound => "Input should be less than or equal to " ++ toString bound
  | .choice options => "Input should be " ++ optionList options
  | .listType => "Input should be a valid list"
  | .mappingType => "Input should be a valid dictionary"
  | .recordType record => "Input should be a valid dictionary or instance of " ++ record

/-- One step from a value to a value inside it. -/
inductive Step where
  | key (name : String)
  | index (n : Int)
deriving DecidableEq, Repr

/-- Whether a number fits a signed word of 64 bits. -/
def fitsWord (n : Int) : Bool :=
  -0x8000000000000000 ≤ n && n < 0x8000000000000000

/-- What stands for a setting that has no literal, by the name of its kind. -/
def unprintable (kind : String) : String :=
  "<unprintable " ++ kind ++ " object>"

/-- The name of a step along a text: each surrogate has three bytes, none of which is a character of its
own. -/
def textName (ps : Text.Points) : String :=
  String.ofList (ps.flatMap fun
    | .char c => [c]
    | .surrogate _ => List.replicate 3 (Char.ofNat 0xFFFD))

/-- The name of a step along a key that is neither a text nor a small number. -/
def Scalar.stepName (s : Scalar) : String :=
  s.literal?.getD (unprintable s.kindName)

/-- The step to the entry under a key. -/
def Step.ofScalar : Scalar → Step
  | .text s => .key (textName s)
  | .bool b => .index (if b then 1 else 0)
  | .int n => if fitsWord n then .index n else .key (Scalar.int n).stepName
  | s => .key s.stepName

def Shape.kindName {σ : Type} : Shape σ → String
  | .scalar s => s.kindName
  | .list _ => "list"
  | .map _ => "dict"
  | .set _ => "set"
  | .tuple _ => "tuple"

/-- The step to the entry under a key, which is a scalar. -/
def Step.ofKey {σ : Type} [Shaped σ] (key : σ) : Step :=
  match shape key with
  | .scalar s => .ofScalar s
  | collection => .key (unprintable collection.kindName)

/-- A name that holds a dot stands between backticks. -/
def Step.text : Step → String
  | .key name => if '.' ∈ name.toList then "`" ++ name ++ "`" else name
  | .index n => toString n

/-- A complaint about a setting, with the steps that lead to it. -/
structure Issue (σ : Type) where
  location : List Step
  complaint : Complaint
  input : σ

/-- Settings that have a text in a report. -/
class Reported (σ : Type) extends Shaped σ where
  literal? : σ → Option String

/-- A text of more than fifty bytes is cut in the middle, between characters. -/
def abridged (s : String) : String :=
  if s.utf8ByteSize ≤ 50 then s
  else
    let front := (s.toList.foldl (fun (taken, size) c =>
      if size + c.utf8Size ≤ 25 then (c :: taken, size + c.utf8Size) else (taken, 26)) ([], 0)).1.reverse
    let back := (s.toList.reverse.foldl (fun (taken, size) c =>
      if size + c.utf8Size ≤ 24 then (c :: taken, size + c.utf8Size) else (taken, 25)) ([], 0)).1
    String.ofList (front ++ "...".toList ++ back)

/-- The lines about one issue in a report. -/
def Issue.text {σ : Type} [Reported σ] (i : Issue σ) : String :=
  let place := if i.location = [] then "" else ".".intercalate (i.location.map Step.text) ++ "\n"
  let kind := (shape i.input).kindName
  let literal := (Reported.literal? i.input).getD (unprintable kind)
  place ++ "  " ++ i.complaint.message ++ " [type=" ++ i.complaint.code ++ ", input_value=" ++
    abridged literal ++ ", input_type=" ++ kind ++
    "]\n    For further information visit https://errors.pydantic.dev/2.14/v/" ++ i.complaint.code

/-- The report of all issues with a record. -/
def issueReport {σ : Type} [Reported σ] (record : String) (issues : List (Issue σ)) : String :=
  let count := toString issues.length ++
    (if issues.length = 1 then " validation error for " else " validation errors for ")
  "\n".intercalate ((count ++ record) :: issues.map Issue.text)

end TalPage
