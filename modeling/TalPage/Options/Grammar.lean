import TalPage.Text.Quoted

/-!
# Option grammars

What a command accepts: options that set something or show something, and operands. A grammar is
read into a state of the command's own.
-/

namespace TalPage.Options

open Text (Points)

/-- Why the value of an option is refused. -/
inductive ValueFault where
  /-- The value has the wrong form for a kind of value. -/
  | invalid (kind : String) (value : Points)
  | unknownChoice (value : Points) (choices : List String)
  | outOfRange (least greatest : Nat) (value : Int)
deriving DecidableEq, Repr

/-- What an option does. -/
inductive Effect (σ : Type) where
  | showHelp
  | showVersion
  | flag (set : σ → σ)
  | value (read : Points → Except ValueFault (σ → σ))

/-- Words in quotes, with commas between them. -/
def quotedList (words : List String) : String :=
  ", ".intercalate (words.map fun word : String => Text.quoted word)

def ValueFault.message : ValueFault → String
  | .invalid kind value => "invalid " ++ kind ++ " value: " ++ Text.quoted value
  | .unknownChoice value choices =>
    "invalid choice: " ++ Text.quoted value ++ " (choose from " ++ quotedList choices ++ ")"
  | .outOfRange least greatest value =>
    "must be between " ++ toString least ++ " and " ++ toString greatest ++ ", got " ++ toString value

structure Opt (σ : Type) where
  names : List String
  effect : Effect σ

/-- Whether a value goes with the option. -/
def Opt.takesValue {σ : Type} (o : Opt σ) : Bool :=
  match o.effect with
  | .value _ => true
  | _ => false

/-- What a command is given besides options. -/
inductive Operands (σ : Type) where
  | none
  /-- One word, which has to be there. -/
  | one (name : String) (set : Points → σ → σ)
  /-- A word and everything after it. -/
  | rest (set : List Points → σ → σ)

/-- The name that messages start with, the usage and help texts, and what is accepted. -/
structure Grammar (σ : Type) where
  name : String
  usage : String
  help : String
  options : List (Opt σ)
  operands : Operands σ

/-- What is wrong with a command line. -/
inductive Fault where
  | ambiguous (word : Points) (candidates : List Points)
  | noValue (names : List String)
  | ignoredValue (names : List String) (value : Points)
  | badValue (names : List String) (fault : ValueFault)
  | missing (name : String)
  | unrecognized (words : List Points)
deriving DecidableEq, Repr

/-- A message about an argument, which is named by all its names. -/
def aboutArgument (names : List String) (message : String) : String :=
  "argument " ++ "/".intercalate names ++ ": " ++ message

def Fault.message : Fault → Points
  | .ambiguous word candidates =>
    "ambiguous option: " ++ word ++ " could match " ++ List.intercalate ", " candidates
  | .noValue names => aboutArgument names "expected one argument"
  | .ignoredValue names value =>
    aboutArgument names ("ignored explicit argument " ++ Text.quoted value)
  | .badValue names fault => aboutArgument names fault.message
  | .missing name => "the following arguments are required: " ++ name
  | .unrecognized words => "unrecognized arguments: " ++ List.intercalate " " words

/-- Why a reading ends early. -/
inductive Stop where
  | help
  | version
  | fault (f : Fault)
deriving DecidableEq, Repr

end TalPage.Options
