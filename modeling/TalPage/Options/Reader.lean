import TalPage.Options.Grammar
import TalPage.Text.Digit

/-!
# Reading a command line

Every word is first told apart as an option, an operand or the separator after which all words are
operands; then the words are taken in order. Long options may be cut short where only one fits.
-/

namespace TalPage.Options

open Text (CodePoint Points)

variable {σ : Type}

/-- An option as it stands in a word: the name it was written or completed to, and the value joined
to it. -/
structure Found (σ : Type) where
  opt : Opt σ
  name : Points
  joined : Option Points := none

/-- What a word is taken for. -/
inductive Role (σ : Type) where
  | operand
  | separator
  /-- An option, known or not. -/
  | option (found : Option (Found σ))

/-- The parts of a word before and after the first equals sign. -/
def splitEquals (word : Points) : Points × Option Points :=
  match word.dropWhile (· ≠ .char '=') with
  | [] => (word, none)
  | _ :: value => (word.takeWhile (· ≠ .char '='), some value)

/-- All options with their names, one pair a name. -/
def named (options : List (Opt σ)) : List (Points × Opt σ) :=
  options.flatMap fun o => o.names.map fun name => (Text.points name, o)

def startsWith (word start : Points) : Bool :=
  start.isPrefixOf word

/-- The options that a word could be short for. A word with one dash may also be a name of one letter
with a value joined to it. -/
def candidates (options : List (Opt σ)) (word : Points) : List (Found σ) :=
  if startsWith word "--" then
    let (start, joined) := splitEquals word
    (named options).filterMap fun (name, o) =>
      if startsWith name start then some ⟨o, name, joined⟩ else none
  else
    (named options).filterMap fun (name, o) =>
      if name = word.take 2 then some ⟨o, name, some (word.drop 2)⟩
      else if startsWith name word then some ⟨o, name, none⟩
      else none

/-- Whether a word is a minus and digits, with at most one point and a digit at the end; a line end
may follow. -/
def isNegativeNumber (word : Points) : Bool :=
  let isDigit (p : CodePoint) : Bool := (Text.digitValue? p.toNat).isSome
  match if word.getLast? = some (.char '\n') then word.dropLast else word with
  | '-' :: s =>
    let rest := s.dropWhile isDigit
    match rest with
    | [] => s ≠ []
    | '.' :: fraction => fraction ≠ [] && fraction.all isDigit
    | _ => false
  | _ => false

/-- Tells what a word that comes before any separator is. -/
def role (options : List (Opt σ)) (word : Points) : Except Fault (Role σ) :=
  if !startsWith word "-" then .ok .operand
  else if word = "--" then .ok .separator
  else
    match (named options).lookup word with
    | some o => .ok (.option (some ⟨o, word, none⟩))
    | none =>
      if word = "-" then .ok .operand
      else
        let (name, joined) := splitEquals word
        match joined.bind fun value => ((named options).lookup name).map fun o => (⟨o, name, some value⟩ : Found σ) with
        | some found => .ok (.option (some found))
        | none =>
          match candidates options word with
          | [found] => .ok (.option (some found))
          | [] =>
            if isNegativeNumber word ∨ .char ' ' ∈ word then .ok .operand
            else .ok (.option none)
          | several => .error (.ambiguous word (several.map (·.name)))

/-- The words with their roles; after a separator all are operands. -/
def classify (options : List (Opt σ)) : List Points → Except Fault (List (Points × Role σ))
  | [] => .ok []
  | word :: words => do
    match ← role options word with
    | .separator => return (word, .separator) :: words.map fun w => (w, .operand)
    | r => return (word, r) :: (← classify options words)

/-- What a reading has come to: the state, whether the operand is still to come, and the words that
nothing takes. -/
structure Progress (σ : Type) where
  state : σ
  pending : Bool
  extras : List Points := []

/-- Does what an option without a value does. -/
def Opt.act (o : Opt σ) (p : Progress σ) : Except Stop (Progress σ) :=
  match o.effect with
  | .showHelp => .error .help
  | .showVersion => .error .version
  | .flag set => .ok { p with state := set p.state }
  | .value _ => .error (.fault (.noValue o.names))

/-- Gives an option its value. -/
def Opt.give (o : Opt σ) (value : Points) (p : Progress σ) : Except Stop (Progress σ) :=
  match o.effect with
  | .value read =>
    match read value with
    | .ok set => .ok { p with state := set p.state }
    | .error fault => .error (.fault (.badValue o.names fault))
  | _ => .error (.fault (.ignoredValue o.names value))

/-- The options of one letter that are joined in a word, when the first takes no value: all but the
last, and the last with what is still joined to it. -/
def unjoin (options : List (Opt σ)) (o : Opt σ) : Points → Except Fault (List (Opt σ) × Opt σ × Option Points)
  | [] => .ok ([], o, none)
  | c :: joined =>
    if o.takesValue then .ok ([], o, some (c :: joined))
    else
      match (named options).lookup [.char '-', c] with
      | none => .error (.ignoredValue o.names (c :: joined))
      | some next => do
        let (before, last, value) ← unjoin options next joined
        return (o :: before, last, value)

/-- The options that a found option stands for, and the value joined to the last. -/
def Found.parts (options : List (Opt σ)) (f : Found σ) :
    Except Fault (List (Opt σ) × Opt σ × Option Points) :=
  match f.joined with
  | none => .ok ([], f.opt, none)
  | some value =>
    if f.opt.takesValue then .ok ([], f.opt, some value)
    else if startsWith f.name "--" ∨ value = [] then .error (.ignoredValue f.opt.names value)
    else unjoin options f.opt value

/-- Whether the next word may be the value of an option. -/
def nextOperand? : List (Points × Role σ) → Option (Points × List (Points × Role σ))
  | (word, .operand) :: words => some (word, words)
  | _ => none

/-- The words without separators at the front. -/
def skipSeparators : List (Points × Role σ) → List (Points × Role σ)
  | (_, .separator) :: words => skipSeparators words
  | words => words

theorem length_skipSeparators_le (words : List (Points × Role σ)) :
    (skipSeparators words).length ≤ words.length := by
  fun_induction skipSeparators words with
  | case1 _ words ih => simp only [List.length_cons]; omega
  | case2 => exact Nat.le_refl _

theorem length_of_nextOperand? {words rest : List (Points × Role σ)} {word : Points}
    (h : nextOperand? words = some (word, rest)) : rest.length < words.length := by
  unfold nextOperand? at h
  split at h
  · simp at h; simp [h.2]
  · simp at h

/-- Takes the words in order. -/
def take (g : Grammar σ) (p : Progress σ) (words : List (Points × Role σ)) : Except Stop (Progress σ) :=
  match words with
  | [] => .ok p
  | (word, .option none) :: words => take g { p with extras := p.extras ++ [word] } words
  | (_, .option (some found)) :: words =>
    match found.parts g.options with
    | .error fault => .error (.fault fault)
    | .ok (before, last, joined) =>
      match before.foldlM (fun p o => o.act p) p with
      | .error stop => .error stop
      | .ok p =>
        match joined with
        | some value => do take g (← last.give value p) words
        | none =>
          if last.takesValue then
            match h : nextOperand? words with
            | some (value, rest) =>
              have := length_of_nextOperand? h
              do take g (← last.give value p) rest
            | none => .error (.fault (.noValue last.names))
          else do take g (← last.act p) words
  | (word, .separator) :: words =>
    match h : nextOperand? words with
    | some (operand, rest) =>
      have := length_of_nextOperand? h
      have := length_skipSeparators_le rest
      if p.pending then
        match g.operands with
        | .one _ set => take g { p with state := set operand p.state, pending := false } (skipSeparators rest)
        | .rest set => .ok { p with state := set (word :: words.map (·.1)) p.state, pending := false }
        | .none => take g { p with extras := p.extras ++ [word] } words
      else take g { p with extras := p.extras ++ [word] } words
    | none => take g { p with extras := p.extras ++ [word] } words
  | (word, .operand) :: words =>
    have := length_skipSeparators_le words
    if p.pending then
      match g.operands with
      | .one _ set => take g { p with state := set word p.state, pending := false } (skipSeparators words)
      | .rest set => .ok { p with state := set (word :: words.map (·.1)) p.state, pending := false }
      | .none => take g { p with extras := p.extras ++ [word] } words
    else take g { p with extras := p.extras ++ [word] } words
termination_by words.length

/-- Reads a command line from a first state; gives the state it comes to and the words that nothing
takes. -/
def Grammar.read (g : Grammar σ) (start : σ) (words : List Points) : Except Stop (σ × List Points) := do
  let words ← (classify g.options words).mapError Stop.fault
  let takes := match g.operands with
    | .none => false
    | _ => true
  let p ← take g { state := start, pending := takes } words
  match g.operands with
  | .one name _ => if p.pending then .error (.fault (.missing name)) else .ok (p.state, p.extras)
  | _ => .ok (p.state, p.extras)

end TalPage.Options
