import TalPage.Config.Check
import TalPage.File.Access
import TalPage.Yaml.Load

/-!
# Loading settings

Build settings from a file. A file that is empty configures nothing.
-/

namespace TalPage

open Text (Points)

/-- What is wrong with the settings at a path. -/
inductive ConfigFault where
  | missing (path : File.Path)
  | noMapping (path : File.Path)
  | invalid (path : File.Path) (issues : List (Issue Yaml.Part))

def ConfigFault.message : ConfigFault → Points
  | .missing path => "Config file not found: " ++ path.text
  | .noMapping path => path.text ++ " must contain a mapping of build settings."
  | .invalid path issues =>
    "Invalid build config in " ++ path.text ++ ": " ++ issueReport "BuildConfig" issues

/-- Why settings cannot be loaded: they are at fault themselves, or there is no reading the file or
the document in it. -/
inductive LoadFault where
  | config (fault : ConfigFault)
  | file (fault : File.Fault)
  | document (fault : Yaml.Fault)

namespace BuildConfig

/-- The settings in a document. -/
def ofDocument (path : File.Path) (document : Yaml.Part) : Except ConfigFault BuildConfig :=
  let checked? : Option (Checked Yaml.Part BuildConfig) :=
    match shape document with
    | .map entries => some (ofEntries entries)
    | content => if content.isBlank then some (.valid {}) else none
  match checked? with
  | none => .error (.noMapping path)
  | some (.valid config) => .ok config
  | some (.invalid issues) => .error (.invalid path issues)

def load (s : File.Store) (path : File.Path) : Except LoadFault BuildConfig := do
  if !(← (s.exists? path).mapError .file) then throw (.config (.missing path))
  let text ← (s.readText path .utf8).mapError .file
  let document ← (Yaml.load text).mapError .document
  (ofDocument path document).mapError .config

/-- The settings at a path, or the defaults without one. -/
def loadOrDefault (s : File.Store) (path : Option Points) : Except LoadFault BuildConfig :=
  match path with
  | some path => load s (.ofText path)
  | none => .ok {}

end BuildConfig

end TalPage
