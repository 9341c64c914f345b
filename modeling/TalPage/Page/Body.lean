import TalPage.Config.Basic
import TalPage.Markup.Reader

/-!
# The body of a page

The HTML that the source of a build gives under its settings.
-/

namespace TalPage.Page

/-- What stands in the page for a source without a root. -/
def missingRootHtml : String :=
  "<h1 style=\"color:red\">Error: No Valid Root (^) Found</h1>"

/-- A body, and the warning that goes with it. -/
structure Body where
  html : String
  warning : Option String := none
deriving DecidableEq, Repr

/-- The rules that a build reads its source by. -/
def rules (config : BuildConfig) : Markup.Rules where
  maxDepth := config.depth
  strict := config.strict

/-- A missing root is shown and warned of, unless the settings say that it ends the build. -/
def bodyOf (config : BuildConfig) (source : String) : Except Markup.Report Body :=
  match Markup.parse (rules config) source with
  | .ok html => .ok { html := html }
  | .error fault =>
    let report := fault.report source.toList
    if fault.cause = .noRoot ∧ config.onMissingRoot = .diagnostic then
      .ok { html := missingRootHtml, warning := some ("Warning: " ++ report.text) }
    else .error report

end TalPage.Page
