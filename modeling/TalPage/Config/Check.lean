import TalPage.Config.Basic
import TalPage.Setting.Check

/-!
# Checking page and build settings

Every field is checked by itself, and the issues stand in the order in which the fields are declared.
Entries that name no field are passed over.
-/

namespace TalPage

open Text (Points)

/-- The sections that are configured, or else the targets of the routes. -/
def orTargets (sections : List Points) (routes : List (Points × Points)) : List Points :=
  if sections = [] then routeTargets routes else sections

variable {σ : Type} [Shaped σ]

def PageConfig.ofEntries (entries : List (σ × σ)) : Checked σ PageConfig :=
  let title := Check.field entries "title" "title" Check.text "TAL Generated App"
  let lang := Check.field entries "lang" "lang" Check.text "en"
  let routes := Check.field entries "routes" "routes" Check.textMap defaultRoutes
  let sections := Check.field entries "sections" "sections" (Check.list Check.text) []
  let home := Check.field entries "homeSection" "home_section" Check.text "home"
  let display := Check.field entries "sectionDisplay" "section_display" Check.text "flex"
  (title.and (lang.and (routes.and (sections.and (home.and display))))).map
    fun (title, lang, routes, sections, home, display) =>
      { title := title, lang := lang, routes := routes, sections := orTargets sections routes,
        homeSection := home, sectionDisplay := display }

def PageConfig.check : Check σ PageConfig := fun v =>
  match shape v with
  | .map entries => ofEntries entries
  | _ => .complain (.recordType "PageConfig") v

def BuildConfig.ofEntries (entries : List (σ × σ)) : Checked σ BuildConfig :=
  let input := Check.field entries "input" "input" Check.text "code.tal"
  let output := Check.field entries "output" "output" Check.text "index.html"
  let strict := Check.field entries "strict" "strict" Check.bool false
  let maxDepth :=
    Check.field entries "maxDepth" "max_depth" (Check.optional (Check.bounded 1 depthLimit)) none
  let onMissingRoot := Check.field entries "onMissingRoot" "on_missing_root"
    (Check.choice MissingRoot.words) .diagnostic
  let page := Check.field entries "page" "page" PageConfig.check {}
  (input.and (output.and (strict.and (maxDepth.and (onMissingRoot.and page))))).map
    fun (input, output, strict, maxDepth, onMissingRoot, page) =>
      { input := input, output := output, strict := strict, maxDepth := maxDepth,
        onMissingRoot := onMissingRoot, page := page }

def BuildConfig.check : Check σ BuildConfig := fun v =>
  match shape v with
  | .map entries => ofEntries entries
  | _ => .complain (.recordType "BuildConfig") v

end TalPage
