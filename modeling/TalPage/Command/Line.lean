import TalPage.Config.Override
import TalPage.Numeric.Numeral
import TalPage.Options.Reader

/-!
# The command line

The commands with their options, and the texts of their help.
-/

namespace TalPage.Command

open Options
open Text (Points)

/-- What a build is asked for. -/
structure BuildArgs where
  config : Option Points := none
  overrides : Overrides := {}
  label : Option Points := none
  check : Bool := false
deriving DecidableEq, Repr

/-- What a reading of a source is asked for. -/
structure ParseArgs where
  source : Points := []
  strict : Bool := false
  maxDepth : Nat := depthLimit
deriving DecidableEq, Repr

/-- A command with what it is asked for. -/
inductive Request where
  | build (args : BuildArgs)
  | parse (args : ParseArgs)
  | tokens
deriving DecidableEq, Repr

/-- The end of a run that never came to its work. -/
structure Exit where
  code : Nat
  stdout : Points := []
  stderr : Points := []
deriving DecidableEq, Repr

def versionText : String := "talgen 0.1.0\n"

def topUsage : String :=
  "usage: talgen [-h] [--version] \x7bbuild,parse,tokens\x7d ...\n"

def topHelp : String :=
  topUsage ++
  "\n" ++
  "Transpile TAL sources into standalone HTML pages\n" ++
  "\n" ++
  "positional arguments:\n" ++
  "  \x7bbuild,parse,tokens\x7d\n" ++
  "    build               Build an HTML page from a TAL source file.\n" ++
  "    parse               Print the HTML fragment for a TAL source.\n" ++
  "    tokens              Dump the design token dictionary as JSON.\n" ++
  "\n" ++
  "options:\n" ++
  "  -h, --help            show this help message and exit\n" ++
  "  --version             Show the talgen version and exit.\n"

def buildUsage : String :=
  "usage: talgen build [-h] [--config CONFIG] [--in INPUT] [--out OUTPUT]\n" ++
  "                    [--title TITLE] [--strict] [--max-depth MAX_DEPTH]\n" ++
  "                    [--on-missing-root \x7bdiagnostic,abort\x7d]\n" ++
  "                    [--build-label BUILD_LABEL] [--check]\n"

def buildHelp : String :=
  buildUsage ++
  "\n" ++
  "Parse the TAL source, embed it in the page template, and write the page. A\n" ++
  "demo source is created when the input file does not exist.\n" ++
  "\n" ++
  "options:\n" ++
  "  -h, --help            show this help message and exit\n" ++
  "  --config CONFIG       Path to a tal.yaml build config.\n" ++
  "  --in INPUT            TAL source file (default: code.tal).\n" ++
  "  --out OUTPUT          Output HTML file (default: index.html).\n" ++
  "  --title TITLE         Document title for the generated page.\n" ++
  "  --strict              Fail on unterminated '\x7b' or '[' instead of truncating\n" ++
  "                        silently.\n" ++
  "  --max-depth MAX_DEPTH\n" ++
  "                        Maximum element nesting depth (default: 256).\n" ++
  "  --on-missing-root \x7bdiagnostic,abort\x7d\n" ++
  "                        Render an error fragment or abort when the source has\n" ++
  "                        no '^' root.\n" ++
  "  --build-label BUILD_LABEL\n" ++
  "                        Append a build label comment to the generated page.\n" ++
  "  --check               Render twice and fail if the outputs differ.\n"

def parseUsage : String :=
  "usage: talgen parse [-h] [--strict] [--max-depth MAX_DEPTH] source\n"

def parseHelp : String :=
  parseUsage ++
  "\n" ++
  "Parse a TAL source and write the root element's HTML to stdout.\n" ++
  "\n" ++
  "positional arguments:\n" ++
  "  source                TAL source file, or '-' for stdin.\n" ++
  "\n" ++
  "options:\n" ++
  "  -h, --help            show this help message and exit\n" ++
  "  --strict              Fail on unterminated '\x7b' or '['.\n" ++
  "  --max-depth MAX_DEPTH\n" ++
  "                        Maximum element nesting depth (default: 256).\n"

def tokensUsage : String :=
  "usage: talgen tokens [-h]\n"

def tokensHelp : String :=
  tokensUsage ++
  "\n" ++
  "Print every TAL symbol and its expansion.\n" ++
  "\n" ++
  "options:\n" ++
  "  -h, --help  show this help message and exit\n"

/-- Reads a nesting limit. -/
def readDepth (word : Points) : Except ValueFault Nat :=
  match Numeric.readWhole 10 word with
  | .error _ => .error (.invalid "_depth" word)
  | .ok n =>
    if 1 ≤ n ∧ n ≤ depthLimit then .ok n.toNat else .error (.outOfRange 1 depthLimit n)

def readMissingRoot (word : Points) : Except ValueFault MissingRoot :=
  match (Text.string? word).bind fun s => MissingRoot.words.lookup s with
  | some choice => .ok choice
  | none => .error (.unknownChoice word (MissingRoot.words.map (·.1)))

def helpOption {σ : Type} : Opt σ := ⟨["-h", "--help"], .showHelp⟩

/-- An option whose value is taken as it is. -/
def textOption {σ : Type} (name : String) (set : Points → σ → σ) : Opt σ :=
  ⟨[name], .value fun word => .ok (set word)⟩

/-- A change of the overrides of a build. -/
def overriding (f : Overrides → Overrides) (a : BuildArgs) : BuildArgs :=
  { a with overrides := f a.overrides }

def buildGrammar : Grammar BuildArgs where
  name := "talgen build"
  usage := buildUsage
  help := buildHelp
  options := [
    helpOption,
    textOption "--config" fun word a => { a with config := some word },
    textOption "--in" fun word => overriding fun o => { o with input := some word },
    textOption "--out" fun word => overriding fun o => { o with output := some word },
    textOption "--title" fun word => overriding fun o => { o with title := some word },
    ⟨["--strict"], .flag (overriding fun o => { o with strict := true })⟩,
    ⟨["--max-depth"], .value fun word =>
      (readDepth word).map fun n => overriding fun o => { o with maxDepth := some n }⟩,
    ⟨["--on-missing-root"], .value fun word =>
      (readMissingRoot word).map fun choice => overriding fun o => { o with onMissingRoot := some choice }⟩,
    textOption "--build-label" fun word a => { a with label := some word },
    ⟨["--check"], .flag fun a => { a with check := true }⟩]
  operands := .none

def parseGrammar : Grammar ParseArgs where
  name := "talgen parse"
  usage := parseUsage
  help := parseHelp
  options := [
    helpOption,
    ⟨["--strict"], .flag fun a => { a with strict := true }⟩,
    ⟨["--max-depth"], .value fun word => (readDepth word).map fun n a => { a with maxDepth := n }⟩]
  operands := .one "source" fun word a => { a with source := word }

def tokensGrammar : Grammar Unit where
  name := "talgen tokens"
  usage := tokensUsage
  help := tokensHelp
  options := [helpOption]
  operands := .none

/-- The grammar around the commands: it takes the command and its words as they are. -/
def topGrammar : Grammar (List Points) where
  name := "talgen"
  usage := topUsage
  help := topHelp
  options := [helpOption, ⟨["--version"], .showVersion⟩]
  operands := .rest fun words _ => words

/-- How a run ends that stops while its words are read. -/
def exitOf {σ : Type} (g : Grammar σ) : Stop → Exit
  | .help => ⟨0, g.help, []⟩
  | .version => ⟨0, versionText, []⟩
  | .fault f => ⟨2, [], g.usage ++ g.name ++ ": error: " ++ f.message ++ "\n"⟩

def readAs {σ : Type} (g : Grammar σ) (start : σ) (words : List Points) :
    Except Exit (σ × List Points) :=
  (g.read start words).mapError (exitOf g)

/-- The names of the commands. -/
def commandNames : List String := ["build", "parse", "tokens"]

/-- Reads the words of a command; gives also those that nothing takes. -/
def readCommand (name : Points) (words : List Points) : Except Exit (Request × List Points) := do
  match Text.string? name with
  | some "build" => return (← readAs buildGrammar {} words).map .build id
  | some "parse" => return (← readAs parseGrammar {} words).map .parse id
  | some "tokens" => return (← readAs tokensGrammar () words).map (fun _ => .tokens) id
  | _ => throw (exitOf topGrammar (.fault (.badValue ["command"] (.unknownChoice name commandNames))))

/-- What a command line asks for; words that nothing takes are refused once all is read, and without a
command the help is shown. -/
def readLine (words : List Points) : Except Exit Request := do
  let (command, extras) ← readAs topGrammar [] words
  let refuse (words : List Points) : Exit := exitOf topGrammar (.fault (.unrecognized words))
  match command with
  | [] => if extras = [] then throw ⟨0, topHelp, []⟩ else throw (refuse extras)
  | name :: words => do
    let (request, more) ← readCommand name words
    if extras ++ more = [] then return request else throw (refuse (extras ++ more))

end TalPage.Command
