import TalPage.Proofs.Config.WellFormed
import TalPage.Proofs.Setting.Shape

/-!
# Overrides as settings

Overrides can be put into the settings before these are checked: each takes the place of its field, under
whichever name that stands. What is checked then is what comes of overriding the checked settings.
-/

namespace TalPage

open Text (Points)

variable {σ α : Type}

/-- Settings in which some parts are new and the others are kept from other settings. -/
inductive Overlay (σ : Type) where
  | kept (v : σ)
  | scalar (s : Scalar)
  | record (entries : List (Overlay σ × Overlay σ))

variable [Shaped σ]

/-- A part that is kept looks as it did. -/
def Overlay.shape : Overlay σ → Shape (Overlay σ)
  | .kept v => (TalPage.shape v).carry .kept
  | .scalar s => .scalar s
  | .record entries => .map entries

instance : Shaped (Overlay σ) := ⟨Overlay.shape⟩

/-! ## Overrides put into settings -/

/-- Takes a field out under both its names and puts a new value in, under a name of the field. -/
def Field.replace (f : Field) (key value : σ) (entries : List (σ × σ)) : List (σ × σ) :=
  entries.filter (fun entry => !f.names entry) ++ [(key, value)]

/-- Replaces a field if there is a new value for it. -/
def Overlay.put (s : Spelling) (f : Field) (new : Option (Overlay σ))
    (entries : List (Overlay σ × Overlay σ)) : List (Overlay σ × Overlay σ) :=
  match new with
  | some value => f.replace (.scalar (.text (s.key f))) value entries
  | none => entries

/-- The text that is given, unless it is empty. -/
def givenText (new : Option Points) : Option Points :=
  new.filter (· ≠ [])

namespace Overrides

/-- The page among settings with its title replaced; without a page there is a new one. -/
def overlayPage (s : Spelling) (title : Points) (entries : List (Overlay σ × Overlay σ)) : Overlay σ :=
  let page := ((valueUnder? "page" entries).map fun p => (shape p).entries).getD []
  .record (Overlay.put s PageConfig.titleField (some (.scalar (.text title))) page)

/-- The entries of settings with each field that is overridden replaced. -/
def overlayEntries (s : Spelling) (o : Overrides) (entries : List (Overlay σ × Overlay σ)) :
    List (Overlay σ × Overlay σ) :=
  let text (new : Option Points) : Option (Overlay σ) := (givenText new).map fun t => .scalar (.text t)
  Overlay.put s BuildConfig.inputField (text o.input) <|
  Overlay.put s BuildConfig.outputField (text o.output) <|
  Overlay.put s BuildConfig.strictField ((Option.guard id o.strict).map fun b => .scalar (.bool b)) <|
  Overlay.put s BuildConfig.maxDepthField (o.maxDepth.map fun (n : Nat) => .scalar (.int n)) <|
  Overlay.put s BuildConfig.onMissingRootField (o.onMissingRoot.map fun m => .scalar (.text m.word)) <|
  Overlay.put s BuildConfig.pageField ((givenText o.title).map fun t => overlayPage s t entries) entries

/-- Settings with each field that is overridden replaced. -/
def overlay (s : Spelling) (o : Overrides) (v : σ) : Overlay σ :=
  .record (overlayEntries s o (shape (Overlay.kept v)).entries)

/-- Each field that is not overridden is as before, and of the page all but the title. -/
structure Keeps (o : Overrides) (c c' : BuildConfig) : Prop where
  input : givenText o.input = none → c'.input = c.input
  output : givenText o.output = none → c'.output = c.output
  strict : o.strict = false → c'.strict = c.strict
  maxDepth : o.maxDepth = none → c'.maxDepth = c.maxDepth
  onMissingRoot : o.onMissingRoot = none → c'.onMissingRoot = c.onMissingRoot
  title : givenText o.title = none → c'.page.title = c.page.title
  page : { c'.page with title := c.page.title } = c.page

end Overrides

/-! ## Replaced fields -/

namespace Field

variable {f g : Field} {key value : σ} {entries : List (σ × σ)}

theorem select_replace {name : Points} (hk : shape key = .scalar (.text name)) (hs : f.spells name = true) :
    f.select (f.replace key value entries) = [(key, value)] := by
  have hn : f.names (key, value) = true := (names_eq_spells (e := (key, value)) hk).trans hs
  rw [replace, select, List.filter_append, List.filter_filter, List.filter_eq_nil_iff.2 (by simp),
    List.filter_singleton, hn]
  rfl

theorem select_replace_of_apart (h : g.Apart f) {name : Points} (hk : shape key = .scalar (.text name))
    (hs : f.spells name = true) : g.select (f.replace key value entries) = g.select entries := by
  have hn : g.names (key, value) = false :=
    (names_eq_spells (e := (key, value)) hk).trans (h.spells_eq_false hs)
  have hf : ∀ entry ∈ entries, (g.names entry && !f.names entry) = g.names entry := by
    intro entry _
    cases he : g.names entry with
    | false => rfl
    | true => rw [h.symm.names_eq_false he]; rfl
  rw [replace, select, List.filter_append, List.filter_filter, List.filter_congr hf, List.filter_singleton, hn]
  exact List.append_nil _

end Field

namespace Overlay

variable {s : Spelling} {f g : Field} {entries : List (Overlay σ × Overlay σ)}
  {c : Check (Overlay σ) α} {d a : α}

theorem keepsShape_kept : KeepsShape (Overlay.kept : σ → Overlay σ) :=
  fun _ => rfl

theorem check_put_some {v : Overlay σ} (h : c v = .valid a) :
    f.check (put s f (some v) entries) c d = .valid a := by
  have hk : shape (Overlay.scalar (σ := σ) (.text (s.key f))) = .scalar (.text (s.key f)) := rfl
  have hs : f.select (f.replace (.scalar (.text (s.key f))) v entries) = _ :=
    Field.select_replace hk (s.spells_key f)
  rw [put, Field.check_of_select_eq_singleton hs hk, h]
  rfl

/-- A field that is replaced comes to the new value, and else to what it came to. -/
theorem check_put {β : Type} {new : Option β} {g : β → Overlay σ} (value : β → α)
    (h : f.check entries c d = .valid a) (hv : ∀ b, new = some b → c (g b) = .valid (value b)) :
    f.check (put s f (new.map g) entries) c d = .valid ((new.map value).getD a) := by
  cases new with
  | none => exact h
  | some b => exact check_put_some (hv b rfl)

theorem check_put_of_apart {new : Option (Overlay σ)} (h : g.Apart f) :
    g.check (put s f new entries) c d = g.check entries c d := by
  cases new with
  | none => rfl
  | some v => exact Field.check_congr (Field.select_replace_of_apart h rfl (s.spells_key f))

end Overlay

/-! ## Checks of settings with overrides -/

theorem overridden_eq (new : Option Points) (old : Points) :
    overridden new old = (givenText new).getD old := by
  cases new with
  | none => rfl
  | some t => by_cases ht : t = [] <;> simp [overridden, givenText, Option.filter, ht]

theorem overridden_of_none {new : Option Points} (h : givenText new = none) (old : Points) :
    overridden new old = old := by
  rw [overridden_eq, h, Option.getD_none]

namespace PageConfig

theorem carries_check {τ : Type} [Shaped τ] {f : σ → τ} (h : KeepsShape f) :
    Check.Carries f PageConfig.check PageConfig.check := by
  intro v
  simp only [PageConfig.check, h v]
  cases shape v with
  | map entries =>
      have ht := Check.carries_text h
      dsimp only [Shape.carry]
      simp only [ofEntries_eq, Checked.carry_map, Checked.carry_and, Field.check_carry h ht,
        Field.check_carry h (Check.carries_textMap h), Field.check_carry h (Check.carries_list h ht)]
  | _ => rfl

/-- Settings give a page also if there is none among them. -/
theorem given_page {entries : List (σ × σ)} {p : PageConfig}
    (h : BuildConfig.pageField.check entries PageConfig.check {} = .valid p) :
    Given (((valueUnder? "page" entries).map fun v => (shape v).entries).getD []) p := by
  unfold Field.check Check.field BuildConfig.pageField Field.plain at h
  cases hv : valueUnder? "page" entries with
  | some v =>
      simp only [hv, Checked.inside_eq_valid_iff] at h
      exact given_of_check h
  | none =>
      simp only [hv] at h
      cases h
      exact ofEntries_eq_valid_iff.1 rfl

/-- A title that is replaced is the only change. -/
theorem check_put_title {entries : List (Overlay σ × Overlay σ)} {p : PageConfig}
    (h : Given entries p) (s : Spelling) (title : Points) :
    PageConfig.check (Overlay.record (Overlay.put s titleField (some (.scalar (.text title))) entries)) =
      .valid { p with title := title } := by
  refine ofEntries_eq_valid_iff.2 ⟨?_, ?_, ?_, ?_, ?_, ?_⟩
  · exact Overlay.check_put_some (Check.text_of_shape rfl)
  all_goals simp (disch := decide) only [Overlay.check_put_of_apart]
  · exact h.lang
  · exact h.routes
  · exact h.sections
  · exact h.homeSection
  · exact h.sectionDisplay

end PageConfig

namespace BuildConfig

theorem carries_check {τ : Type} [Shaped τ] {f : σ → τ} (h : KeepsShape f) :
    Check.Carries f BuildConfig.check BuildConfig.check := by
  intro v
  simp only [BuildConfig.check, h v]
  cases shape v with
  | map entries =>
      have hd : Check.Carries f checkDepth checkDepth :=
        Check.carries_optional h (Check.carries_bounded h 1 depthLimit)
      dsimp only [Shape.carry]
      simp only [ofEntries_eq, Checked.carry_map, Checked.carry_and, Field.check_carry h hd,
        Field.check_carry h (Check.carries_text h), Field.check_carry h (Check.carries_bool h),
        Field.check_carry h (Check.carries_choice h _), Field.check_carry h (PageConfig.carries_check h)]
  | _ => rfl

/-- Entries with overrides put into them give the settings with the overrides. -/
theorem Given.overlayEntries {entries : List (Overlay σ × Overlay σ)} {c : BuildConfig} {o : Overrides}
    (h : Given entries c) (ho : o.Admissible) (s : Spelling) :
    Given (o.overlayEntries s entries) (c.override o) := by
  -- Of all fields that are replaced only one concerns the field in question.
  constructor
  all_goals simp (disch := decide) only [Overrides.overlayEntries, Overlay.check_put_of_apart]
  case input =>
    refine Eq.trans (Overlay.check_put id (a := c.input) ?_ fun t _ => Check.text_of_shape rfl) ?_
    · simp (disch := decide) only [Overlay.check_put_of_apart, h.input]
    · rw [Option.map_id, id, ← overridden_eq, BuildConfig.override]
  case output =>
    refine Eq.trans (Overlay.check_put id (a := c.output) ?_ fun t _ => Check.text_of_shape rfl) ?_
    · simp (disch := decide) only [Overlay.check_put_of_apart, h.output]
    · rw [Option.map_id, id, ← overridden_eq, BuildConfig.override]
  case strict =>
    refine Eq.trans (Overlay.check_put id (a := c.strict) ?_ fun b _ => rfl) ?_
    · simp (disch := decide) only [Overlay.check_put_of_apart, h.strict]
    · cases hs : o.strict <;> simp [BuildConfig.override, hs, Option.guard]
  case maxDepth =>
    refine Eq.trans (Overlay.check_put some (a := c.maxDepth) ?_ fun n hn => ?_) ?_
    · simp (disch := decide) only [Overlay.check_put_of_apart, h.maxDepth]
    · exact checkDepth_of_shape (ho n hn) rfl
    · cases hn : o.maxDepth <;> simp [BuildConfig.override, hn]
  case onMissingRoot =>
    refine Eq.trans (Overlay.check_put id (a := c.onMissingRoot) ?_ fun m _ => Check.choice_of_shape rfl) ?_
    · simp (disch := decide) only [Overlay.check_put_of_apart, h.onMissingRoot]
    · rw [Option.map_id, id, BuildConfig.override]
  case page =>
    have hp := PageConfig.given_page h.page
    have ht (t : Points) : PageConfig.check (Overrides.overlayPage s t entries) =
        .valid { c.page with title := t } :=
      PageConfig.check_put_title hp s t
    refine Eq.trans (Overlay.check_put _ h.page fun t _ => ht t) ?_
    cases hn : givenText o.title <;> simp [BuildConfig.override, overridden_eq, hn]

/-- Settings with overrides put into them are valid, and are the settings overridden. -/
theorem check_overlay {v : σ} {c : BuildConfig} {o : Overrides} (h : BuildConfig.check v = .valid c)
    (ho : o.Admissible) (s : Spelling) : BuildConfig.check (o.overlay s v) = .valid (c.override o) := by
  have hk : BuildConfig.check (Overlay.kept v) = .valid c := by
    rw [carries_check Overlay.keepsShape_kept v, h, Checked.carry]
  exact ofEntries_eq_valid_iff.2 ((given_of_check hk).overlayEntries ho s)

theorem keeps_override (c : BuildConfig) (o : Overrides) : o.Keeps c (c.override o) where
  input h := overridden_of_none h _
  output h := overridden_of_none h _
  strict h := by rw [override, h, Bool.false_or]
  maxDepth h := by rw [override, h, Option.none_or]
  onMissingRoot h := by rw [override, h, Option.getD_none]
  title h := overridden_of_none h _
  page := rfl

end BuildConfig

end TalPage
