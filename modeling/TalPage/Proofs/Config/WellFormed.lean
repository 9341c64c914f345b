import Mathlib.Data.List.Nodup
import TalPage.Config.Override
import TalPage.Page.Template
import TalPage.Proofs.Config.Layout

/-!
# Well-formed settings

Settings that have passed their check keep its bounds, and so do settings that are overridden within these
bounds. Settings are well-formed exactly if they can be written out as an object that comes to them again.
-/

namespace TalPage

open Text (Points)

/-! ## Settings within their bounds -/

/-- No action stands twice among the routes, and there are sections wherever there are routes. -/
structure PageConfig.WellFormed (p : PageConfig) : Prop where
  routes : (p.routes.map Prod.fst).Nodup
  sections : p.sections = [] → p.routes = []

/-- The nesting limit is one that can be configured, and the page is well-formed. -/
structure BuildConfig.WellFormed (c : BuildConfig) : Prop where
  maxDepth : ∀ n ∈ c.maxDepth, 1 ≤ n ∧ n ≤ depthLimit
  page : c.page.WellFormed

/-- The nesting limit given for one build is one that can be configured. -/
def Overrides.Admissible (o : Overrides) : Prop :=
  ∀ n ∈ o.maxDepth, 1 ≤ n ∧ n ≤ depthLimit

theorem foldl_targets_ne_nil (routes : List (Points × Points)) {targets : List Points} (h : targets ≠ []) :
    routes.foldl (fun targets (_, target) => if target ∈ targets then targets else targets ++ [target])
      targets ≠ [] := by
  induction routes generalizing targets with
  | nil => exact h
  | cons route routes ih =>
      obtain ⟨_, target⟩ := route
      rw [List.foldl_cons]
      dsimp only
      split
      · exact ih h
      · exact ih (List.append_ne_nil_of_right_ne_nil _ (List.cons_ne_nil _ _))

theorem routeTargets_eq_nil_iff {routes : List (Points × Points)} : routeTargets routes = [] ↔ routes = [] := by
  cases routes with
  | nil => exact iff_of_true rfl rfl
  | cons route routes =>
      have ht : [route.2] ≠ [] := List.cons_ne_nil _ _
      exact iff_of_false (foldl_targets_ne_nil routes ht) (List.cons_ne_nil _ _)

theorem orTargets_eq_nil {sections : List Points} {routes : List (Points × Points)}
    (h : orTargets sections routes = []) : routes = [] := by
  unfold orTargets at h
  split at h
  · exact routeTargets_eq_nil_iff.1 h
  · contradiction

theorem orTargets_of_wellFormed {p : PageConfig} (h : p.WellFormed) :
    orTargets p.sections p.routes = p.sections := by
  unfold orTargets
  split
  · next hs => rw [hs, h.sections hs, routeTargets_eq_nil_iff]
  · rfl

/-! ## Checked settings -/

variable {σ α : Type} [Shaped σ] {v : σ} {entries : List (σ × σ)} {key value : Points}
  {l : List (Points × Points)}

theorem putText_of_notMem (h : key ∉ l.map Prod.fst) : putText key value l = l ++ [(key, value)] := by
  induction l with
  | nil => rfl
  | cons entry l ih =>
      obtain ⟨k, v⟩ := entry
      simp only [List.map_cons, List.mem_cons, not_or] at h
      rw [putText, if_neg (Ne.symm h.1), ih h.2, List.cons_append]

theorem map_fst_putText_of_mem (h : key ∈ l.map Prod.fst) :
    (putText key value l).map Prod.fst = l.map Prod.fst := by
  induction l with
  | nil => cases h
  | cons entry l ih =>
      obtain ⟨k, v⟩ := entry
      by_cases hk : k = key
      · rw [putText, if_pos hk, List.map_cons, List.map_cons]
      · rw [putText, if_neg hk, List.map_cons, List.map_cons,
          ih ((List.mem_cons.1 h).resolve_left (Ne.symm hk))]

theorem nodup_putText (h : (l.map Prod.fst).Nodup) : ((putText key value l).map Prod.fst).Nodup := by
  by_cases hk : key ∈ l.map Prod.fst
  · rwa [map_fst_putText_of_mem hk]
  · rw [putText_of_notMem hk, List.map_append]
    exact List.nodup_append_comm.1 (List.nodup_cons.2 ⟨hk, h⟩)

theorem nodup_foldl_putText {entries : List (Points × Points)} (h : (l.map Prod.fst).Nodup) :
    ((entries.foldl (fun known (key, value) => putText key value known) l).map Prod.fst).Nodup := by
  induction entries generalizing l with
  | nil => exact h
  | cons entry entries ih => exact ih (nodup_putText h)

theorem foldl_putText_of_nodup {entries : List (Points × Points)}
    (h : ((l ++ entries).map Prod.fst).Nodup) :
    entries.foldl (fun known (key, value) => putText key value known) l = l ++ entries := by
  induction entries generalizing l with
  | nil => simp
  | cons entry entries ih =>
      obtain ⟨key, value⟩ := entry
      have hk : key ∉ l.map Prod.fst := by
        rw [List.map_append, List.map_cons] at h
        exact fun hm => (List.nodup_append.1 h).2.2 key hm key List.mem_cons_self rfl
      rw [List.foldl_cons]
      dsimp only
      rw [putText_of_notMem hk, ih (by simpa using h), List.append_assoc, List.singleton_append]

namespace Check

theorem nodup_of_textMap {routes : List (Points × Points)} (h : textMap v = .valid routes) :
    (routes.map Prod.fst).Nodup := by
  unfold textMap at h
  split at h
  · obtain ⟨entries, -, rfl⟩ := Checked.map_eq_valid_iff.1 h
    exact nodup_foldl_putText .nil
  · cases h

theorem bounds_of_bounded {least greatest n : Nat} (h : bounded least greatest v = .valid n) :
    least ≤ n ∧ n ≤ greatest := by
  unfold bounded at h
  split at h
  · cases h
  · split at h
    · cases h
    · split at h <;> cases h
      omega

theorem check_of_optional {c : Check σ α} {a : α} (h : optional c v = .valid (some a)) :
    c v = .valid a := by
  unfold optional at h
  split at h
  · cases h
  · obtain ⟨b, hb, he⟩ := Checked.map_eq_valid_iff.1 h
    cases he
    exact hb

end Check

/-- What a field comes to is its default, or comes from a value under its name. -/
theorem Field.eq_or_exists_of_check {f : Field} {c : Check σ α} {d a : α}
    (h : f.check entries c d = .valid a) : a = d ∨ ∃ v, c v = .valid a := by
  unfold Field.check Check.field at h
  split at h
  · exact .inr ⟨_, Checked.inside_eq_valid_iff.1 h⟩
  · split at h
    · exact .inr ⟨_, Checked.inside_eq_valid_iff.1 h⟩
    · cases h
      exact .inl rfl

theorem PageConfig.Given.wellFormed {p : PageConfig} (h : Given entries p) : p.WellFormed where
  routes := by
    rcases Field.eq_or_exists_of_check h.routes with he | ⟨_, hv⟩
    · rw [he]
      decide +kernel
    · exact Check.nodup_of_textMap hv
  sections hs := by
    obtain ⟨sections, -, he⟩ := h.sections
    exact orTargets_eq_nil (he.trans hs)

theorem PageConfig.wellFormed_of_check {p : PageConfig} (h : PageConfig.check v = .valid p) :
    p.WellFormed :=
  (given_of_check h).wellFormed

theorem PageConfig.wellFormed_default : ({} : PageConfig).WellFormed where
  routes := by decide +kernel
  sections h := absurd h (by decide +kernel)

theorem BuildConfig.Given.wellFormed {c : BuildConfig} (h : Given entries c) : c.WellFormed where
  maxDepth n hn := by
    rcases Field.eq_or_exists_of_check h.maxDepth with he | ⟨v, hv⟩
    · rw [he] at hn
      cases hn
    · rw [hn] at hv
      exact Check.bounds_of_bounded (Check.check_of_optional hv)
  page := by
    rcases Field.eq_or_exists_of_check h.page with he | ⟨v, hv⟩
    · rw [he]
      exact PageConfig.wellFormed_default
    · exact PageConfig.wellFormed_of_check hv

/-- Settings that pass their check are well-formed. -/
theorem BuildConfig.wellFormed_of_check {c : BuildConfig} (h : BuildConfig.check v = .valid c) :
    c.WellFormed :=
  (given_of_check h).wellFormed

/-- Overrides within the bounds keep settings well-formed. -/
theorem BuildConfig.WellFormed.override {c : BuildConfig} {o : Overrides} (h : c.WellFormed)
    (ho : o.Admissible) : (c.override o).WellFormed where
  maxDepth n hn := by
    rcases Option.or_eq_some_iff.1 hn with hn | ⟨-, hn⟩
    · exact ho n hn
    · exact h.maxDepth n hn
  page := ⟨h.page.routes, h.page.sections⟩

/-- The nesting limit that holds for a build is one that can be configured. -/
theorem BuildConfig.WellFormed.depth {c : BuildConfig} (h : c.WellFormed) :
    1 ≤ c.depth ∧ c.depth ≤ depthLimit := by
  unfold BuildConfig.depth
  cases hd : c.maxDepth with
  | none => decide
  | some n => exact h.maxDepth n hd

/-! ## Settings that are written out -/

/-- The members of a page that is written out. -/
def PageConfig.members (s : Spelling) (p : PageConfig) : List (Points × Json) :=
  [(↑(s.key titleField), .string p.title),
    (↑(s.key langField), .string p.lang),
    (↑(s.key routesField), Page.routesJson p.routes),
    (↑(s.key sectionsField), .array (p.sections.map .string)),
    (↑(s.key homeSectionField), .string p.homeSection),
    (↑(s.key sectionDisplayField), .string p.sectionDisplay)]

/-- A nesting limit that is written out. -/
def depthJson : Option Nat → Json
  | none => .null
  | some n => .int n

/-- The members of build settings that are written out. -/
def BuildConfig.members (s : Spelling) (c : BuildConfig) : List (Points × Json) :=
  [(↑(s.key inputField), .string c.input),
    (↑(s.key outputField), .string c.output),
    (↑(s.key strictField), .bool c.strict),
    (↑(s.key maxDepthField), depthJson c.maxDepth),
    (↑(s.key onMissingRootField), .string c.onMissingRoot.word),
    (↑(s.key pageField), .object (c.page.members s))]

namespace Check

theorem text_of_shape {t : Points} (h : shape v = .scalar (.text t)) : text v = .valid t := by
  simp only [text, h]

theorem textMap_routesJson {routes : List (Points × Points)} (h : (routes.map Prod.fst).Nodup) :
    textMap (Page.routesJson routes) = .valid routes := by
  have hs : shape (Page.routesJson routes) =
      .map (routes.map fun route => (Json.string route.1, .string route.2)) := by
    simp [shape, Page.routesJson, Json.shape]
  have ha : Checked.all ((routes.map fun route => (Json.string route.1, Json.string route.2)).map
      fun entry => textEntry entry.1 entry.2) = .valid routes := by
    rw [List.map_map]
    exact (Checked.all_map_valid id routes).trans (by rw [List.map_id])
  rw [textMap, hs]
  dsimp only
  rw [ha, Checked.map]
  exact congrArg _ (foldl_putText_of_nodup (l := []) h)

theorem list_text_strings (l : List Points) :
    list text (Json.array (l.map .string)) = .valid l := by
  have ha : (l.map Json.string).zipIdx.map (fun (item, i) => (text item).inside (.index i)) =
      l.zipIdx.map fun p => .valid p.1 := by
    rw [List.zipIdx_map, List.map_map]
    rfl
  unfold list
  dsimp only [shape, Json.shape]
  rw [ha, Checked.all_map_valid, List.zipIdx_map_fst]

theorem bounded_of_shape {least greatest n : Nat} (hl : least ≤ n) (hg : n ≤ greatest)
    (h : shape v = .scalar (.int n)) : bounded least greatest v = .valid n := by
  have hi : int v = .valid (n : Int) := by
    simp only [int, h]
  rw [bounded, hi]
  dsimp only
  rw [if_neg (by omega), if_neg (by omega), Int.toNat_natCast]

theorem choice_of_shape {m : MissingRoot} (h : shape v = .scalar (.text m.word)) :
    choice MissingRoot.words v = .valid m := by
  simp only [choice, h]
  cases m <;> rfl

end Check

theorem BuildConfig.checkDepth_of_shape {n : Nat} (hn : 1 ≤ n ∧ n ≤ depthLimit)
    (h : shape v = .scalar (.int n)) : checkDepth v = .valid (some n) := by
  simp only [checkDepth, Check.optional, h, Check.bounded_of_shape hn.1 hn.2 h, Checked.map]

theorem BuildConfig.checkDepth_depthJson {depth : Option Nat}
    (h : ∀ n ∈ depth, 1 ≤ n ∧ n ≤ depthLimit) : checkDepth (depthJson depth) = .valid depth := by
  cases depth with
  | none => rfl
  | some n => exact checkDepth_of_shape (h n rfl) rfl

theorem PageConfig.among_members (s : Spelling) (p : PageConfig) :
    titleField.among (p.members s) = [(↑(s.key titleField), .string p.title)] ∧
      langField.among (p.members s) = [(↑(s.key langField), .string p.lang)] ∧
      routesField.among (p.members s) = [(↑(s.key routesField), Page.routesJson p.routes)] ∧
      sectionsField.among (p.members s) = [(↑(s.key sectionsField), .array (p.sections.map .string))] ∧
      homeSectionField.among (p.members s) = [(↑(s.key homeSectionField), .string p.homeSection)] ∧
      sectionDisplayField.among (p.members s) =
        [(↑(s.key sectionDisplayField), .string p.sectionDisplay)] := by
  simp (disch := decide) only [members, Field.among_key, Field.among_key_of_apart, Field.among_nil, and_self]

theorem BuildConfig.among_members (s : Spelling) (c : BuildConfig) :
    inputField.among (c.members s) = [(↑(s.key inputField), .string c.input)] ∧
      outputField.among (c.members s) = [(↑(s.key outputField), .string c.output)] ∧
      strictField.among (c.members s) = [(↑(s.key strictField), .bool c.strict)] ∧
      maxDepthField.among (c.members s) = [(↑(s.key maxDepthField), depthJson c.maxDepth)] ∧
      onMissingRootField.among (c.members s) =
        [(↑(s.key onMissingRootField), .string c.onMissingRoot.word)] ∧
      pageField.among (c.members s) = [(↑(s.key pageField), .object (c.page.members s))] := by
  simp (disch := decide) only [members, Field.among_key, Field.among_key_of_apart, Field.among_nil, and_self]

theorem PageConfig.check_members {p : PageConfig} (h : p.WellFormed) (s : Spelling) :
    PageConfig.check (Json.object (p.members s)) = .valid p := by
  obtain ⟨htitle, hlang, hroutes, hsections, hhome, hdisplay⟩ := among_members s p
  rw [check_object, ofEntries_eq_valid_iff]
  constructor
  · rw [Field.check_of_among_eq_singleton htitle, Check.text_of_shape rfl, Checked.inside]
  · rw [Field.check_of_among_eq_singleton hlang, Check.text_of_shape rfl, Checked.inside]
  · rw [Field.check_of_among_eq_singleton hroutes, Check.textMap_routesJson h.routes, Checked.inside]
  · refine ⟨p.sections, ?_, orTargets_of_wellFormed h⟩
    rw [Field.check_of_among_eq_singleton hsections, Check.list_text_strings, Checked.inside]
  · rw [Field.check_of_among_eq_singleton hhome, Check.text_of_shape rfl, Checked.inside]
  · rw [Field.check_of_among_eq_singleton hdisplay, Check.text_of_shape rfl, Checked.inside]

/-- Well-formed settings that are written out come to themselves, whichever names their fields stand under. -/
theorem BuildConfig.check_members {c : BuildConfig} (h : c.WellFormed) (s : Spelling) :
    BuildConfig.check (Json.object (c.members s)) = .valid c := by
  obtain ⟨hinput, houtput, hstrict, hdepth, hroot, hpage⟩ := among_members s c
  rw [check_object, ofEntries_eq_valid_iff]
  constructor
  · rw [Field.check_of_among_eq_singleton hinput, Check.text_of_shape rfl, Checked.inside]
  · rw [Field.check_of_among_eq_singleton houtput, Check.text_of_shape rfl, Checked.inside]
  · rw [Field.check_of_among_eq_singleton hstrict]
    rfl
  · rw [Field.check_of_among_eq_singleton hdepth, checkDepth_depthJson h.maxDepth, Checked.inside]
  · rw [Field.check_of_among_eq_singleton hroot, Check.choice_of_shape rfl, Checked.inside]
  · rw [Field.check_of_among_eq_singleton hpage, PageConfig.check_members h.page, Checked.inside]

theorem BuildConfig.spelledOnce_members (s : Spelling) (c : BuildConfig) :
    SettingsSpelledOnce (c.members s) where
  build := by
    obtain ⟨hinput, houtput, hstrict, hdepth, hroot, hpage⟩ := among_members s c
    simp [SpelledOnce, fields, Field.values, hinput, houtput, hstrict, hdepth, hroot, hpage]
  page ps hm := by
    obtain ⟨-, -, -, -, -, hpage⟩ := among_members s c
    obtain ⟨htitle, hlang, hroutes, hsections, hhome, hdisplay⟩ := PageConfig.among_members s c.page
    rw [Field.values, hpage] at hm
    cases List.mem_singleton.1 hm
    simp [SpelledOnce, PageConfig.fields, Field.values, htitle, hlang, hroutes, hsections, hhome, hdisplay]

end TalPage
