import TalPage.Config.Check
import TalPage.Proofs.Setting.Field

/-!
# The fields of page and build settings

The tables of the fields, in the order of their declaration, and what it means for settings to be given by
the entries of a record: every field comes to its own value, and none looks at the entries of another.
-/

namespace TalPage

open Text (Points)

variable {σ : Type} [Shaped σ] {entries entries' : List (σ × σ)}

namespace PageConfig

/-! ## The page -/

def titleField : Field := .plain "title"

def langField : Field := .plain "lang"

def routesField : Field := .plain "routes"

def sectionsField : Field := .plain "sections"

def homeSectionField : Field := ⟨"homeSection", "home_section"⟩

def sectionDisplayField : Field := ⟨"sectionDisplay", "section_display"⟩

/-- The fields of a page, in order. -/
def fields : List Field :=
  [titleField, langField, routesField, sectionsField, homeSectionField, sectionDisplayField]

theorem fields_apart : ∀ f ∈ fields, ∀ g ∈ fields, f ≠ g → f.Apart g := by
  decide

theorem ofEntries_eq (entries : List (σ × σ)) :
    ofEntries entries =
      ((titleField.check entries Check.text "TAL Generated App").and
        ((langField.check entries Check.text "en").and
          ((routesField.check entries Check.textMap defaultRoutes).and
            ((sectionsField.check entries (Check.list Check.text) []).and
              ((homeSectionField.check entries Check.text "home").and
                (sectionDisplayField.check entries Check.text "flex")))))).map
        fun (title, lang, routes, sections, home, display) =>
          { title := title, lang := lang, routes := routes, sections := orTargets sections routes,
            homeSection := home, sectionDisplay := display } :=
  rfl

/-- The entries of a record give these settings, field by field. -/
structure Given (entries : List (σ × σ)) (p : PageConfig) : Prop where
  title : titleField.check entries Check.text "TAL Generated App" = .valid p.title
  lang : langField.check entries Check.text "en" = .valid p.lang
  routes : routesField.check entries Check.textMap defaultRoutes = .valid p.routes
  sections : ∃ sections, sectionsField.check entries (Check.list Check.text) [] = .valid sections ∧
    orTargets sections p.routes = p.sections
  homeSection : homeSectionField.check entries Check.text "home" = .valid p.homeSection
  sectionDisplay : sectionDisplayField.check entries Check.text "flex" = .valid p.sectionDisplay

theorem ofEntries_eq_valid_iff {p : PageConfig} : ofEntries entries = .valid p ↔ Given entries p := by
  simp only [ofEntries_eq, Checked.map_eq_valid_iff, Checked.and_eq_valid_iff]
  constructor
  · rintro ⟨_, ⟨htitle, hlang, hroutes, hsections, hhome, hdisplay⟩, rfl⟩
    exact ⟨htitle, hlang, hroutes, ⟨_, hsections, rfl⟩, hhome, hdisplay⟩
  · rintro ⟨htitle, hlang, hroutes, ⟨sections, hsections, he⟩, hhome, hdisplay⟩
    exact ⟨(p.title, p.lang, p.routes, sections, p.homeSection, p.sectionDisplay),
      ⟨htitle, hlang, hroutes, hsections, hhome, hdisplay⟩, by rw [he]⟩

theorem given_of_check {v : σ} {p : PageConfig} (h : PageConfig.check v = .valid p) :
    Given (shape v).entries p := by
  unfold PageConfig.check at h
  split at h
  · next entries hs =>
      rw [hs]
      exact ofEntries_eq_valid_iff.1 h
  · cases h

theorem ofEntries_congr (h : ∀ f ∈ fields, f.select entries = f.select entries') :
    ofEntries entries = ofEntries entries' := by
  simp only [fields, List.forall_mem_cons] at h
  obtain ⟨htitle, hlang, hroutes, hsections, hhome, hdisplay, -⟩ := h
  rw [ofEntries_eq, ofEntries_eq, Field.check_congr htitle, Field.check_congr hlang,
    Field.check_congr hroutes, Field.check_congr hsections, Field.check_congr hhome,
    Field.check_congr hdisplay]

theorem Given.of_agrees {p : PageConfig} (h : ∀ f ∈ fields, f.Agrees entries entries')
    (hg : Given entries p) : Given entries' p := by
  simp only [fields, List.forall_mem_cons] at h
  obtain ⟨htitle, hlang, hroutes, hsections, hhome, hdisplay, -⟩ := h
  obtain ⟨sections, hs, he⟩ := hg.sections
  exact ⟨htitle hg.title, hlang hg.lang, hroutes hg.routes, ⟨sections, hsections hs, he⟩,
    hhome hg.homeSection, hdisplay hg.sectionDisplay⟩

end PageConfig

namespace BuildConfig

/-! ## The build -/

def inputField : Field := .plain "input"

def outputField : Field := .plain "output"

def strictField : Field := .plain "strict"

def maxDepthField : Field := ⟨"maxDepth", "max_depth"⟩

def onMissingRootField : Field := ⟨"onMissingRoot", "on_missing_root"⟩

def pageField : Field := .plain "page"

/-- The fields of a build, in order. -/
def fields : List Field :=
  [inputField, outputField, strictField, maxDepthField, onMissingRootField, pageField]

theorem fields_apart : ∀ f ∈ fields, ∀ g ∈ fields, f ≠ g → f.Apart g := by
  decide

/-- The check of a nesting limit, which may be left empty. -/
def checkDepth : Check σ (Option Nat) :=
  Check.optional (Check.bounded 1 depthLimit)

theorem ofEntries_eq (entries : List (σ × σ)) :
    ofEntries entries =
      ((inputField.check entries Check.text "code.tal").and
        ((outputField.check entries Check.text "index.html").and
          ((strictField.check entries Check.bool false).and
            ((maxDepthField.check entries checkDepth none).and
              ((onMissingRootField.check entries (Check.choice MissingRoot.words) .diagnostic).and
                (pageField.check entries PageConfig.check {})))))).map
        fun (input, output, strict, maxDepth, onMissingRoot, page) =>
          { input := input, output := output, strict := strict, maxDepth := maxDepth,
            onMissingRoot := onMissingRoot, page := page } :=
  rfl

/-- The entries of a record give these settings, field by field. -/
structure Given (entries : List (σ × σ)) (c : BuildConfig) : Prop where
  input : inputField.check entries Check.text "code.tal" = .valid c.input
  output : outputField.check entries Check.text "index.html" = .valid c.output
  strict : strictField.check entries Check.bool false = .valid c.strict
  maxDepth : maxDepthField.check entries checkDepth none = .valid c.maxDepth
  onMissingRoot : onMissingRootField.check entries (Check.choice MissingRoot.words) .diagnostic =
    .valid c.onMissingRoot
  page : pageField.check entries PageConfig.check {} = .valid c.page

theorem ofEntries_eq_valid_iff {c : BuildConfig} : ofEntries entries = .valid c ↔ Given entries c := by
  simp only [ofEntries_eq, Checked.map_eq_valid_iff, Checked.and_eq_valid_iff]
  constructor
  · rintro ⟨_, ⟨hinput, houtput, hstrict, hdepth, hroot, hpage⟩, rfl⟩
    exact ⟨hinput, houtput, hstrict, hdepth, hroot, hpage⟩
  · rintro ⟨hinput, houtput, hstrict, hdepth, hroot, hpage⟩
    exact ⟨(c.input, c.output, c.strict, c.maxDepth, c.onMissingRoot, c.page),
      ⟨hinput, houtput, hstrict, hdepth, hroot, hpage⟩, rfl⟩

theorem given_of_check {v : σ} {c : BuildConfig} (h : BuildConfig.check v = .valid c) :
    Given (shape v).entries c := by
  unfold BuildConfig.check at h
  split at h
  · next entries hs =>
      rw [hs]
      exact ofEntries_eq_valid_iff.1 h
  · cases h

/-- The page may be another one, as long as it comes to the same. -/
theorem ofEntries_congr (h : ∀ f ∈ fields, f ≠ pageField → f.select entries = f.select entries')
    (hp : pageField.check entries PageConfig.check {} = pageField.check entries' PageConfig.check {}) :
    ofEntries entries = ofEntries entries' := by
  have hinput := h inputField (by decide) (by decide)
  have houtput := h outputField (by decide) (by decide)
  have hstrict := h strictField (by decide) (by decide)
  have hdepth := h maxDepthField (by decide) (by decide)
  have hroot := h onMissingRootField (by decide) (by decide)
  rw [ofEntries_eq, ofEntries_eq, Field.check_congr hinput, Field.check_congr houtput,
    Field.check_congr hstrict, Field.check_congr hdepth, Field.check_congr hroot, hp]

theorem Given.of_agrees {c : BuildConfig}
    (h : ∀ f ∈ fields, f ≠ pageField → f.Agrees entries entries')
    (hp : ∀ p, pageField.check entries PageConfig.check {} = .valid p →
      pageField.check entries' PageConfig.check {} = .valid p)
    (hg : Given entries c) : Given entries' c where
  input := h inputField (by decide) (by decide) hg.input
  output := h outputField (by decide) (by decide) hg.output
  strict := h strictField (by decide) (by decide) hg.strict
  maxDepth := h maxDepthField (by decide) (by decide) hg.maxDepth
  onMissingRoot := h onMissingRootField (by decide) (by decide) hg.onMissingRoot
  page := hp _ hg.page

end BuildConfig

end TalPage
