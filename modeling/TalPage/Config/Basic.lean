import TalPage.Text.CodePoint

/-!
# Settings

What a page and its build are configured by, with the settings that hold when nothing else is said.
-/

namespace TalPage

open Text (Points)

/-- The greatest nesting limit that can be configured, and the limit if none is. -/
def depthLimit : Nat := 256

/-- What a build makes of a source without a root. -/
inductive MissingRoot where
  /-- A page that shows the error. -/
  | diagnostic
  /-- No page. -/
  | abort
deriving DecidableEq, Repr

/-- The words for what is done about a missing root. -/
def MissingRoot.words : List (String × MissingRoot) :=
  [("diagnostic", .diagnostic), ("abort", .abort)]

def MissingRoot.word : MissingRoot → String
  | .diagnostic => "diagnostic"
  | .abort => "abort"

def defaultRoutes : List (Points × Points) :=
  [("nav_home", "home"), ("nav_docs", "docs"), ("nav_examples", "examples"), ("nav_res", "resources")]

/-- The sections that routes lead to, each once, in the order of their first route. -/
def routeTargets (routes : List (Points × Points)) : List Points :=
  routes.foldl (fun targets (_, target) => if target ∈ targets then targets else targets ++ [target]) []

/-- The settings of the page around the markup. -/
structure PageConfig where
  title : Points := "TAL Generated App"
  lang : Points := "en"
  routes : List (Points × Points) := defaultRoutes
  sections : List Points := routeTargets routes
  homeSection : Points := "home"
  sectionDisplay : Points := "flex"
deriving DecidableEq, Repr

structure BuildConfig where
  input : Points := "code.tal"
  output : Points := "index.html"
  strict : Bool := false
  maxDepth : Option Nat := none
  onMissingRoot : MissingRoot := .diagnostic
  page : PageConfig := {}
deriving DecidableEq, Repr

/-- The nesting limit that holds for the build. -/
def BuildConfig.depth (c : BuildConfig) : Nat :=
  c.maxDepth.getD depthLimit

end TalPage
