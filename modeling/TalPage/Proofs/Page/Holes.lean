import TalPage.Page.Template
import TalPage.Proofs.Json.ScriptText
import TalPage.Proofs.Markup.Mark

/-!
# What a page was made of

A page can be taken apart again. The language ends at the first quote after it and the title at the first
angle bracket; the settings in the script hold no angle bracket, so the body ends at the last one that
opens a script; and each of those settings is read up to its own end.
-/

namespace TalPage.Page

open Json (sortByKey Unpaired)
open Text (CodePoint Points pointsOf)

variable {c c' : PageConfig} {body body' : Points}

/-! ## Entities -/

theorem entity_ne_nil (c : Char) : entity c ≠ [] := by
  unfold entity
  split <;> simp

/-- No entity is the beginning of another. -/
theorem entity_append_inj {c d : Char} {s t : Points}
    (h : pointsOf (entity c) ++ s = pointsOf (entity d) ++ t) : c = d ∧ s = t := by
  -- Two entities differ before either of them ends, and no other character is written with an ampersand.
  unfold entity at h
  split at h <;> split at h <;> simp_all <;> grind

theorem escapedPoint_ne_nil (p : CodePoint) : escapedPoint p ≠ [] := by
  cases p with
  | char c => simpa [escapedPoint, pointsOf] using entity_ne_nil c
  | surrogate n => exact List.cons_ne_nil _ _

/-- A text of characters does not begin with a surrogate. -/
theorem pointsOf_append_ne {n : Fin 0x800} {cs : List Char} {s t : Points} (h : cs ≠ []) :
    pointsOf cs ++ s ≠ .surrogate n :: t := by
  obtain ⟨c, cs, rfl⟩ := List.exists_cons_of_ne_nil h
  exact nofun

theorem escapedPoint_append_inj {p q : CodePoint} {s t : Points}
    (h : escapedPoint p ++ s = escapedPoint q ++ t) : p = q ∧ s = t := by
  cases p with
  | char c =>
      cases q with
      | char d =>
          obtain ⟨rfl, hs⟩ := entity_append_inj h
          exact ⟨rfl, hs⟩
      | surrogate n => exact absurd h (pointsOf_append_ne (entity_ne_nil c))
  | surrogate n =>
      cases q with
      | char d => exact absurd h.symm (pointsOf_append_ne (entity_ne_nil d))
      | surrogate m => exact List.cons.inj h

theorem escape_injective {s t : Points} (h : escape s = escape t) : s = t := by
  induction s generalizing t with
  | nil =>
      cases t with
      | nil => rfl
      | cons q t => simp [escape, escapedPoint_ne_nil] at h
  | cons p s ih =>
      cases t with
      | nil => simp [escape, escapedPoint_ne_nil] at h
      | cons q t =>
          rw [escape, escape, List.flatMap_cons, List.flatMap_cons] at h
          obtain ⟨rfl, hs⟩ := escapedPoint_append_inj h
          rw [ih hs]

theorem escape_pointsOf (cs : List Char) : escape (pointsOf cs) = pointsOf (cs.flatMap entity) := by
  rw [Text.pointsOf_flatMap, escape, pointsOf, List.flatMap_map]
  rfl

theorem notMem_escape {c : Char} (hc : c ∈ ['<', '>', '"', '\'']) (s : Points) : .char c ∉ escape s := by
  have he : ∀ d, c ∉ entity d := by
    intro d
    simp only [List.mem_cons, List.not_mem_nil, or_false] at hc
    unfold entity
    rcases hc with rfl | rfl | rfl | rfl <;> split <;> simp_all [eq_comm]
  intro hm
  obtain ⟨p, -, hp⟩ := List.mem_flatMap.1 hm
  cases p with
  | char d => exact he d (Text.char_mem_pointsOf.1 hp)
  | surrogate n => cases List.mem_singleton.1 hp

/-! ## Texts of the template -/

theorem notMem_toList_ofList {c : Char} {l : List Char} (h : c ∉ l) : c ∉ (String.ofList l).toList := by
  rwa [String.toList_ofList]

theorem head?_points_append {c : Char} {s t : String} (h : s.toList.head? = some c) :
    (Text.points (s ++ t)).head? = some (.char c) := by
  obtain ⟨l, hl⟩ := List.head?_eq_some_iff.1 h
  simp [Text.points, hl]

/-- What ends the language, the title and each of the settings in front of another one. -/
theorem head?_template :
    (Text.points afterLang).head? = some (.char '"') ∧ (Text.points afterTitle).head? = some (.char '<') ∧
      (Text.points afterRoutes).head? = some (.char ',') ∧
      (Text.points afterSections).head? = some (.char ',') ∧
      (Text.points afterDisplay).head? = some (.char ';') := by
  unfold afterLang afterTitle afterRoutes afterSections afterDisplay
  -- The texts are kept in their pieces: joining them would make long literals to be taken apart again.
  simp only [String.append_assoc, -String.reduceAppend]
  and_intros <;> exact head?_points_append rfl

theorem notMem_template :
    '<' ∉ afterRoutes.toList ∧ '<' ∉ afterSections.toList ∧ '<' ∉ afterDisplay.toList := by
  unfold afterRoutes afterSections afterDisplay Markup.dispatcherName
  simp only [String.toList_append, List.mem_append, not_or, -String.reduceAppend, -String.reduceToList]
  and_intros <;> exact notMem_toList_ofList (by decide +kernel)

/-- The angle bracket before the script is the last one in front of the settings. -/
theorem exists_afterBody :
    ∃ s t, Text.points afterBody = s ++ .char '<' :: t ∧ .char '<' ∉ t :=
  ⟨"\n    ", (Text.points afterBody).drop 6, by decide +kernel, by decide +kernel⟩

/-! ## Settings in the script -/

theorem map_fst_routesJson (routes : List (Points × Points)) :
    (routes.map fun (action, target) => (action, Json.string target)).map Prod.fst =
      routes.map Prod.fst := by
  rw [List.map_map]
  rfl

theorem regular_routesJson {W : Points → Prop} {routes : List (Points × Points)}
    (h : (routes.map Prod.fst).Nodup) (hw : ∀ route ∈ routes, W route.1 ∧ W route.2) :
    (routesJson routes).Regular W := by
  refine ⟨by rwa [map_fst_routesJson], Json.regularMembers_iff.2 fun m hm => ?_⟩
  obtain ⟨route, hr, rfl⟩ := List.mem_map.1 hm
  exact hw route hr

theorem regular_string {W : Points → Prop} {s : Points} (h : W s) : (Json.string s).Regular W := h

theorem regular_strings {W : Points → Prop} {l : List Points} (hw : ∀ s ∈ l, W s) :
    (Json.array (l.map .string)).Regular W := by
  refine Json.regularElements_iff.2 fun v hv => ?_
  obtain ⟨s, hs, rfl⟩ := List.mem_map.1 hv
  exact hw s hs

theorem sorted_strings (l : List Points) :
    (Json.array (l.map .string)).sorted = .array (l.map .string) := by
  have h : Json.sortedElements (l.map .string) = l.map .string := by
    induction l with
    | nil => rfl
    | cons s l ih => simp only [List.map_cons, Json.sortedElements, ih, Json.sorted]
  rw [Json.sorted, h]

theorem sorted_routesJson (routes : List (Points × Points)) :
    (routesJson routes).sorted =
      .object (sortByKey (routes.map fun (action, target) => (action, .string target))) := by
  have h : Json.sortedMembers (routes.map fun (action, target) => (action, Json.string target)) =
      routes.map fun (action, target) => (action, .string target) := by
    induction routes with
    | nil => rfl
    | cons route routes ih => simp only [List.map_cons, Json.sortedMembers, ih, Json.sorted]
  rw [routesJson, Json.sorted, h]

theorem sorted_routesJson_eq_iff {routes routes' : List (Points × Points)}
    (h : (routes.map Prod.fst).Nodup) (h' : (routes'.map Prod.fst).Nodup) :
    (routesJson routes).sorted = (routesJson routes').sorted ↔
      ∀ action, routes.lookup action = routes'.lookup action := by
  have hi : Function.Injective fun (route : Points × Points) => (route.1, Json.string route.2) := by
    rintro ⟨action, target⟩ ⟨action', target'⟩ he
    cases he
    rfl
  rw [sorted_routesJson, sorted_routesJson, Json.object.injEq,
    Json.sortByKey_eq_iff (by rwa [map_fst_routesJson]), ← Json.perm_iff_lookup h h']
  exact List.map_perm_map_iff hi

/-- In no text that stands in the script does a first half of a surrogate pair stand directly before a second
half. -/
structure ScriptUnpaired (c : PageConfig) : Prop where
  routes : ∀ route ∈ c.routes, Unpaired route.1 ∧ Unpaired route.2
  sections : ∀ s ∈ c.sections, Unpaired s
  sectionDisplay : Unpaired c.sectionDisplay
  homeSection : Unpaired c.homeSection

/-- The settings in the script, with what stands between them. -/
def settingsText (c : PageConfig) : Points :=
  (routesJson c.routes).scriptText ++
    ((afterRoutes : Points) ++ ((Json.array (c.sections.map .string)).scriptText ++
      ((afterSections : Points) ++ ((Json.string c.sectionDisplay).scriptText ++
        ((afterDisplay : Points) ++ (Json.string c.homeSection).scriptText)))))

theorem notMem_scriptText {v : Json} (h : v.Regular fun _ => True) : '<' ∉ v.scriptText.toList :=
  fun hm => absurd (Json.scriptSafe_scriptText h '<' hm).2.2 (by decide)

theorem notMem_settingsText (h : (c.routes.map Prod.fst).Nodup) : .char '<' ∉ settingsText c := by
  have hs : ∀ s, (Json.string s).Regular fun _ => True := fun _ => regular_string trivial
  obtain ⟨h₁, h₂, h₃⟩ := notMem_template
  simp only [settingsText, Text.points, List.mem_append, Text.char_mem_pointsOf, not_or]
  exact ⟨notMem_scriptText (regular_routesJson h fun _ _ => ⟨trivial, trivial⟩), h₁,
    notMem_scriptText (regular_strings fun _ _ => trivial), h₂, notMem_scriptText (hs _), h₃,
    notMem_scriptText (hs _)⟩

/-- A setting in front of a fixed text is read up to its own end. -/
theorem scriptText_append_inj {v v' : Json} {t r r' : Points} {c : Char} (hv : v.Regular Unpaired)
    (hv' : v'.Regular Unpaired) (ht : t.head? = some (.char c))
    (hc : c.isDigit = false ∧ c ≠ '.' ∧ c ≠ 'e' ∧ c ≠ 'E')
    (h : Text.points v.scriptText ++ (t ++ r) = v'.scriptText ++ (t ++ r')) :
    v.sorted = v'.sorted ∧ r = r' := by
  obtain ⟨t, rfl⟩ := List.head?_eq_some_iff.1 ht
  have hs := Json.reads_scriptText (Json.regular_sorted v hv)
  have hs' := Json.reads_scriptText (Json.regular_sorted v' hv')
  obtain ⟨hs, hr⟩ := hs.append_inj hs' (Json.delimited_cons hc) (Json.delimited_cons hc) h
  exact ⟨hs, List.append_cancel_left (List.cons.inj hr).2⟩

theorem scriptText_inj {v v' : Json} (hv : v.Regular Unpaired) (hv' : v'.Regular Unpaired)
    (h : v.scriptText = v'.scriptText) : v.sorted = v'.sorted := by
  have ht := Json.ofText?_scriptText (Json.regular_sorted v hv)
  rw [h, Json.ofText?_scriptText (Json.regular_sorted v' hv')] at ht
  exact (Option.some.inj ht).symm

theorem settingsText_eq_iff (h : (c.routes.map Prod.fst).Nodup) (h' : (c'.routes.map Prod.fst).Nodup)
    (hu : ScriptUnpaired c) (hu' : ScriptUnpaired c') :
    settingsText c = settingsText c' ↔
      (∀ action, c.routes.lookup action = c'.routes.lookup action) ∧ c.sections = c'.sections ∧
        c.sectionDisplay = c'.sectionDisplay ∧ c.homeSection = c'.homeSection := by
  obtain ⟨-, -, h₁, h₂, h₃⟩ := head?_template
  have hstring : Function.Injective Json.string := fun _ _ => Json.string.inj
  rw [← sorted_routesJson_eq_iff h h']
  constructor
  · intro he
    obtain ⟨hroutes, he⟩ := scriptText_append_inj (regular_routesJson h hu.routes)
      (regular_routesJson h' hu'.routes) h₁ (by decide) he
    obtain ⟨hsections, he⟩ := scriptText_append_inj (regular_strings hu.sections)
      (regular_strings hu'.sections) h₂ (by decide) he
    obtain ⟨hdisplay, he⟩ := scriptText_append_inj (regular_string hu.sectionDisplay)
      (regular_string hu'.sectionDisplay) h₃ (by decide) he
    have hhome := scriptText_inj (regular_string hu.homeSection) (regular_string hu'.homeSection)
      (Text.points_inj.1 he)
    rw [sorted_strings, sorted_strings, Json.array.injEq,
      (List.map_injective_iff.2 hstring).eq_iff] at hsections
    exact ⟨hroutes, hsections, Json.string.inj hdisplay, Json.string.inj hhome⟩
  · rintro ⟨hroutes, hsections, hdisplay, hhome⟩
    -- The text of routes depends on them only through their object in order.
    have ht : (routesJson c.routes).scriptText = (routesJson c'.routes).scriptText := by
      rw [Json.scriptText, hroutes, Json.scriptText]
    rw [settingsText, ht, hsections, hdisplay, hhome, settingsText]

/-! ## Pages -/

theorem unlabelled_eq (c : PageConfig) (body : Points) :
    unlabelled c body =
      (opening : Points) ++ (escape c.lang ++ ((afterLang : Points) ++ (escape c.title ++
        ((afterTitle : Points) ++ (body ++ ((afterBody : Points) ++ (settingsText c ++ closing))))))) := by
  simp only [unlabelled, settingsText, List.append_assoc]

/-- A page is made of characters if its language and its title are, its body and its label. -/
theorem exists_render_eq (lang title : List Char) (hl : c.lang = pointsOf lang) (ht : c.title = pointsOf title)
    (body : List Char) (label : Option (List Char)) :
    ∃ cs, render c (pointsOf body) (label.map pointsOf) = pointsOf cs := by
  have hu : ∃ cs, unlabelled c (pointsOf body) = pointsOf cs := by
    simp only [unlabelled, hl, ht, escape_pointsOf, Text.points, ← Text.pointsOf_append]
    exact ⟨_, rfl⟩
  obtain ⟨cs, hu⟩ := hu
  rw [render, hu]
  cases label with
  | none => exact ⟨cs, List.append_nil _⟩
  | some label =>
      simp only [Option.map_some, labelComment]
      split
      · exact ⟨cs, List.append_nil _⟩
      · simp only [Text.points, ← Text.pointsOf_append]
        exact ⟨_, rfl⟩

theorem append_inj_of_head? {p : CodePoint} {s s' t r r' : Points} (hs : p ∉ s) (hs' : p ∉ s')
    (ht : t.head? = some p) (h : s ++ (t ++ r) = s' ++ (t ++ r')) : s = s' ∧ r = r' := by
  obtain ⟨t, rfl⟩ := List.head?_eq_some_iff.1 ht
  obtain ⟨rfl, hr⟩ := Markup.append_cons_inj hs hs' h
  exact ⟨rfl, List.append_cancel_left hr⟩

theorem body_inj {s s' : Points} (hs : .char '<' ∉ s) (hs' : .char '<' ∉ s')
    (h : body ++ ((afterBody : Points) ++ s) = body' ++ ((afterBody : Points) ++ s')) :
    body = body' ∧ s = s' := by
  obtain ⟨u, t, he, ht⟩ := exists_afterBody
  simp only [he, List.append_assoc, List.cons_append] at h
  rw [← List.append_assoc, ← List.append_assoc] at h
  obtain ⟨hb, hst⟩ := Markup.append_cons_inj_last (by simp [ht, hs]) (by simp [ht, hs']) h
  exact ⟨List.append_cancel_right hb, List.append_cancel_left hst⟩

/-- A page fixes all it was made of, its routes as a mapping, in which no action stands twice. The body may
hold any text, that of the template included; only the texts in the script must not hold the two halves of a
surrogate pair in a row, since these are read as one character there. -/
theorem render_eq_iff (label : Option Points) (h : (c.routes.map Prod.fst).Nodup)
    (h' : (c'.routes.map Prod.fst).Nodup) (hu : ScriptUnpaired c) (hu' : ScriptUnpaired c') :
    render c body label = render c' body' label ↔
      c.lang = c'.lang ∧ c.title = c'.title ∧ body = body' ∧
        (∀ action, c.routes.lookup action = c'.routes.lookup action) ∧ c.sections = c'.sections ∧
        c.homeSection = c'.homeSection ∧ c.sectionDisplay = c'.sectionDisplay := by
  obtain ⟨h₁, h₂, -⟩ := head?_template
  rw [render, render, List.append_left_inj, unlabelled_eq, unlabelled_eq, List.append_right_inj]
  constructor
  · intro he
    -- The language stands before the first quote, and the title before the first angle bracket.
    obtain ⟨hlang, he⟩ := append_inj_of_head? (notMem_escape (by decide) _)
      (notMem_escape (by decide) _) h₁ he
    obtain ⟨htitle, he⟩ := append_inj_of_head? (notMem_escape (by decide) _)
      (notMem_escape (by decide) _) h₂ he
    -- Both pages close in the same way; in front of that, the last bracket opens the script.
    simp only [← List.append_assoc] at he
    have he := List.append_cancel_right he
    simp only [List.append_assoc] at he
    obtain ⟨hbody, hs⟩ := body_inj (notMem_settingsText h) (notMem_settingsText h') he
    obtain ⟨hroutes, hsections, hdisplay, hhome⟩ := (settingsText_eq_iff h h' hu hu').1 hs
    exact ⟨escape_injective hlang, escape_injective htitle, hbody, hroutes, hsections, hhome, hdisplay⟩
  · rintro ⟨hlang, htitle, hbody, hroutes, hsections, hhome, hdisplay⟩
    have hs := (settingsText_eq_iff h h' hu hu').2 ⟨hroutes, hsections, hdisplay, hhome⟩
    rw [hlang, htitle, hbody, hs]

/-- The order of routes does not change a page; a body that looks like the start of the script does. -/
theorem render_afterBody :
    render { routes := [("a", "x"), ("b", "y")], sections := ["x", "y"] } afterBody none =
        render { routes := [("b", "y"), ("a", "x")], sections := ["x", "y"] } afterBody none ∧
      render { routes := [("a", "x"), ("b", "y")], sections := ["x", "y"] } afterBody none ≠
        render { routes := [("b", "y"), ("a", "x")], sections := ["x", "y"] } [] none := by
  have hu : ScriptUnpaired { routes := [("a", "x"), ("b", "y")], sections := ["x", "y"] } :=
    ⟨by decide, by decide, Json.unpaired_points _, Json.unpaired_points _⟩
  have hu' : ScriptUnpaired { routes := [("b", "y"), ("a", "x")], sections := ["x", "y"] } :=
    ⟨by decide, by decide, Json.unpaired_points _, Json.unpaired_points _⟩
  have hl := (Json.perm_iff_lookup (by decide) (by decide)).1
    (List.Perm.swap (Text.points "b", Text.points "y") (Text.points "a", Text.points "x") [])
  refine ⟨(render_eq_iff none (by decide) (by decide) hu hu').2 ⟨rfl, rfl, rfl, hl, rfl, rfl, rfl⟩,
    fun he => ?_⟩
  have hb := ((render_eq_iff none (by decide) (by decide) hu hu').1 he).2.2.1
  exact absurd hb (by decide +kernel)

/-- The two halves of a surrogate pair in a row make the same page as the character they stand for. -/
theorem render_surrogatePair :
    render { homeSection := [.surrogate 0x3D, .surrogate 0x600] } [] none =
        render { homeSection := "😀" } [] none ∧
      ([.surrogate 0x3D, .surrogate 0x600] : Points) ≠ "😀" := by
  have ht : (Json.string [.surrogate 0x3D, .surrogate 0x600]).scriptText = (Json.string "😀").scriptText := by
    decide +kernel
  exact ⟨by simp only [render, unlabelled, ht], by decide⟩

end TalPage.Page
