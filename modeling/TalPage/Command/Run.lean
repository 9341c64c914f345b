import TalPage.Command.Line
import TalPage.Config.Load
import TalPage.Json.Stable
import TalPage.Markup.Symbol
import TalPage.Page.Body
import TalPage.Page.Template

/-!
# Running commands

What a command line does: to the files, to the two outputs, and how it ends.
-/

namespace TalPage.Command

open File (Path Store)
open Text (Bytes Charset EncodeFault Points)

/-- The files, what has been printed, and the encoding of standard output if it has one: a stream without an
encoding takes every text, as standard error does. -/
structure Session where
  store : Store
  encoding : Option Charset
  stdout : Points := []
  stderr : Points := []

/-- Why a run ends early. -/
inductive Stop where
  | exit (code : Nat)
  /-- The run ends with code 1 and a message. -/
  | failure (message : Points)
  /-- A fault of a file, or of a text on its way to a file or an output, that the command does not report as a
  failure. -/
  | file (fault : File.Fault)
  /-- A fault of the settings document. -/
  | document (fault : Yaml.Fault)
  /-- A value has no text to be printed. -/
  | dump (fault : Json.DumpFault)
deriving DecidableEq, Repr

/-- A run keeps what it has done to the session when it ends early. -/
abbrev Run := ExceptT Stop (StateM Session)

/-- What keeps standard output from taking a text. -/
def printFault? (encoding : Option Charset) (text : Points) : Option EncodeFault :=
  match encoding with
  | none => none
  | some charset =>
    match Text.encode charset text with
    | .ok _ => none
    | .error fault => some fault

def print (text : Points) : Run Unit := do
  let s ← get
  match printFault? s.encoding text with
  | none => set { s with stdout := s.stdout ++ text }
  | some fault => throw (.file (.unencodable fault))

def printLine (text : Points) : Run Unit :=
  print (text ++ "\n")

/-- Tells something on standard error. -/
def tell (text : Points) : Run Unit :=
  modify fun s => { s with stderr := s.stderr ++ text ++ "\n" }

/-- A fault of a file as a failure of a command. A path that no file system takes is no failure of the
command's work, and neither is a text without bytes or a path with too much missing on its way. -/
def failed (what : String) (fault : File.Fault) : Stop :=
  let failure := Stop.failure (what ++ " failed: " ++ fault.message)
  match fault with
  | .refused .. => failure
  | .undecodable _ => failure
  | .unencodable _ => .file fault
  | .nullInPath => .file fault
  | .tooManyMissing => .file fault

def writeText (what : String) (path : Path) (text : Points) : Run Unit := do
  let s ← get
  let (result, store) := s.store.writeText path text .utf8
  set { s with store := store }
  match result with
  | .ok () => return
  | .error fault => throw (failed what fault)

def ofFile {α : Type} (what : String) (result : Except File.Fault α) : Run α :=
  match result with
  | .ok a => return a
  | .error fault => throw (failed what fault)

/-! ## Commands -/

/-- The source that is written where there is none. -/
def demoSource : String :=
  "[$theme:dark]^.dark[d.f.jc[h.h1\x7bHello TAL\x7dt.sub\x7bThe future of AI UI is here.\x7d" ++
  "d.fr.jc[b.btn!login\x7bGet Started\x7db.btn2!docs\x7bRead Docs\x7d]]]"

/-- Writes the demo source where there is nothing, and tells whether it did. -/
def ensureSource (s : Store) (path : Path) : Except File.Fault Bool × Store :=
  match s.exists? path with
  | .error fault => (.error fault, s)
  | .ok true => (.ok false, s)
  | .ok false =>
    let (result, s) := s.writeText path demoSource .utf8
    (result.map fun () => true, s)

/-- The settings of a build: those of its settings file under those of the command line. -/
def buildConfig (s : Store) (args : BuildArgs) : Except LoadFault BuildConfig :=
  (BuildConfig.loadOrDefault s args.config).map (·.override args.overrides)

/-- How a run ends whose settings cannot be loaded. -/
def unloadable : LoadFault → Stop
  | .config fault => .failure fault.message
  | .file fault => .file fault
  | .document fault => .document fault

/-- What is told when the source of a build has no page. -/
def buildFailed (report : Markup.Report) : String :=
  "Build failed: " ++ report.text

/-- The page that a source gives under the settings of a build. The warning that goes with it is told,
unless the page is made quietly. -/
def makePage (config : BuildConfig) (label : Option Points) (source : String) (quiet : Bool) : Run Points := do
  match Page.bodyOf config source with
  | .ok body =>
    if let some warning := body.warning then
      if !quiet then tell warning
    return Page.render config.page body.html label
  | .error report => throw (.failure (buildFailed report))

/-- The bytes of a page. -/
def encoded (page : Points) : Run Bytes :=
  match Text.encode .utf8 page with
  | .ok bytes => return bytes
  | .error fault => throw (.file (.unencodable fault))

/-- Makes the page once more, quietly, and fails if its bytes are others. -/
def checkPage (config : BuildConfig) (label : Option Points) (source : String) (page : Points) : Run Unit := do
  let again ← makePage config label source true
  if (← encoded page) ≠ (← encoded again) then
    throw (.failure "Determinism check failed: outputs differ between runs")

/-- Sees to it that there is a source, and says so if it has been made. -/
def provideSource (input : Path) : Run Unit := do
  let s ← get
  let (created, store) := ensureSource s.store input
  set { s with store := store }
  if ← ofFile "Build" created then printLine ("Created demo " ++ input.name)

/-- Says what has been built. -/
def reportBuild (args : BuildArgs) (output : Path) (page : Points) : Run Unit := do
  if args.check then printLine "Determinism check passed."
  let size := (← encoded page).length
  printLine ("Build success! Generated " ++ output.text ++ " (" ++ toString size ++ " bytes)")

/-- Builds the page. -/
def build (args : BuildArgs) : Run Unit := do
  let config ← match buildConfig (← get).store args with
    | .ok config => pure config
    | .error fault => throw (unloadable fault)
  let input := Path.ofText config.input
  let output := Path.ofText config.output
  provideSource input
  let source ← ofFile "Build" ((← get).store.readText input .utf8)
  let page ← makePage config args.label source false
  if args.check then checkPage config args.label source page
  writeText "Build" output page
  reportBuild args output page

/-- The text of a source: standard input for a dash, and else a file. -/
def sourceText (stdin : Bytes) (source : Points) : Run String :=
  if source = "-" then
    match Text.decode .utf8 stdin with
    | .ok cs => return String.ofList (Text.unifyNewlines cs)
    | .error fault => throw (failed "Parse" (.undecodable fault))
  else do ofFile "Parse" ((← get).store.readText (.ofText source) .utf8)

/-- Prints the HTML of a source. -/
def parse (stdin : Bytes) (args : ParseArgs) : Run Unit := do
  let source ← sourceText stdin args.source
  match Markup.parse { maxDepth := args.maxDepth, strict := args.strict } source with
  | .ok html => printLine html
  | .error fault =>
    let report := fault.report source.toList
    tell (report.kind.name ++ ": " ++ report.text)
    throw (.exit 1)

/-- The symbols with what they stand for. -/
def symbolTable : Json :=
  .object (Markup.symbols.map fun (key, value) => (key, .string value))

/-- How many calls a program can have open inside each other. -/
def callLimit : Nat := 1000

/-- Prints all symbols with what they stand for. -/
def tokens : Run Unit :=
  match symbolTable.stableText callLimit with
  | .ok text => print text
  | .error fault => throw (.dump fault)

def runRequest (stdin : Bytes) : Request → Run Unit
  | .build args => build args
  | .parse args => parse stdin args
  | .tokens => tokens

/-! ## What a request looks at -/

/-- The paths of the settings that a request is made under. -/
def settingsPaths : Request → List Path
  | .build args => (args.config.map Path.ofText).toList
  | _ => []

/-- The paths that a request reads from and writes to, once its settings are in the store. -/
def workPaths (s : Store) : Request → List Path
  | .build args =>
    match buildConfig s args with
    | .ok config => [.ofText config.input, .ofText config.output]
    | .error _ => []
  | .parse args => if args.source = "-" then [] else [.ofText args.source]
  | .tokens => []

/-- Whether a request reads from standard input. -/
def Request.readsInput : Request → Bool
  | .parse args => args.source = "-"
  | _ => false

/-! ## Whole runs -/

/-- How a run ends: with a code, or with a fault that it does not report. -/
inductive Ending where
  | code (n : Nat)
  | file (fault : File.Fault)
  | document (fault : Yaml.Fault)
  | dump (fault : Json.DumpFault)
deriving DecidableEq, Repr

structure Outcome where
  ending : Ending
  session : Session

/-- The end of a run; a failure is told on standard error. -/
def finish : Except Stop Unit × Session → Outcome
  | (.ok (), s) => { ending := .code 0, session := s }
  | (.error (.exit code), s) => { ending := .code code, session := s }
  | (.error (.failure message), s) =>
    { ending := .code 1, session := { s with stderr := s.stderr ++ message ++ "\n" } }
  | (.error (.file fault), s) => { ending := .file fault, session := s }
  | (.error (.document fault), s) => { ending := .document fault, session := s }
  | (.error (.dump fault), s) => { ending := .dump fault, session := s }

/-- Runs a command line, with an encoding of standard output if that has one. The help that is printed for a line
without a request has bytes in every encoding. -/
def run (encoding : Option Charset) (words : List Points) (stdin : Bytes) (store : Store) : Outcome :=
  match readLine words with
  | .error exit =>
    { ending := .code exit.code
      session := { store := store, encoding := encoding, stdout := exit.stdout, stderr := exit.stderr } }
  | .ok request => finish (((runRequest stdin request).run).run { store := store, encoding := encoding })

end TalPage.Command
