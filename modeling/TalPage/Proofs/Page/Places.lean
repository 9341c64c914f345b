import TalPage.Proofs.Page.Holes

/-!
# The places of a page

Each setting has a place in the page, and none reaches beyond it: language and title stand there without any
character that could end a tag or an attribute, and the other settings as JSON without any that could end the
script. Each is read from its place again, and all angle brackets around the body are those of the template.
-/

namespace TalPage.Page

open Json (sortByKey ScriptSafe Unpaired)
open Text (CodePoint Points pointsOf)

variable {c : PageConfig} {s t : Points}

/-! ## Places -/

/-- The texts that stand for the settings of a page. -/
structure Places where
  lang : Points := []
  title : Points := []
  routes : String := ""
  sections : String := ""
  sectionDisplay : String := ""
  homeSection : String := ""

namespace Places

/-- The page up to its body. -/
def front (p : Places) : Points :=
  opening ++ p.lang ++ afterLang ++ p.title ++ afterTitle

/-- The page from its body on. -/
def back (p : Places) : Points :=
  afterBody ++ p.routes ++ afterRoutes ++ p.sections ++ afterSections ++ p.sectionDisplay ++
    afterDisplay ++ p.homeSection ++ closing

/-- Nothing stands for the settings: what is left is the template. -/
def blank : Places := {}

end Places

/-- The texts that stand for settings. -/
def places (c : PageConfig) : Places where
  lang := escape c.lang
  title := escape c.title
  routes := (routesJson c.routes).scriptText
  sections := (Json.array (c.sections.map .string)).scriptText
  sectionDisplay := (Json.string c.sectionDisplay).scriptText
  homeSection := (Json.string c.homeSection).scriptText

/-! ## What the places hold -/

/-- The characters that are written as entities. -/
def specials : List Char := ['&', '<', '>', '\'', '"']

/-- A text with its entities replaced by their characters. -/
def unescape : Points → Points
  | .char '&' :: .char 'a' :: .char 'm' :: .char 'p' :: .char ';' :: s => .char '&' :: unescape s
  | .char '&' :: .char 'l' :: .char 't' :: .char ';' :: s => .char '<' :: unescape s
  | .char '&' :: .char 'g' :: .char 't' :: .char ';' :: s => .char '>' :: unescape s
  | .char '&' :: .char '#' :: .char '3' :: .char '9' :: .char ';' :: s => .char '\'' :: unescape s
  | .char '&' :: .char '#' :: .char '3' :: .char '4' :: .char ';' :: s => .char '"' :: unescape s
  | p :: s => p :: unescape s
  | [] => []

/-- The text stands for `s` between tags or in an attribute: nothing in it ends these, each ampersand starts an
entity, and it is `s` with the entities replaced. -/
structure StandsFor (text s : Points) : Prop where
  notMem : ∀ c ∈ ['<', '>', '"', '\''], .char c ∉ text
  entity : ∀ t, .char '&' :: t <:+ text → ∃ c ∈ specials, pointsOf (entity c) <+: .char '&' :: t
  unescape : unescape text = s

/-- The text stands for a value in the script: nothing in it ends the script, and it is read as that value
unless the two halves of a surrogate pair stand in a row in a text of it. -/
structure ReadsAs (text : String) (v : Json) : Prop where
  safe : ScriptSafe text.toList
  value : v.Regular Unpaired → Json.ofText? text = some v

/-- Each place holds its setting; the routes are there as a mapping, their actions in the order of their code
points. -/
structure Places.Hold (p : Places) (c : PageConfig) : Prop where
  lang : StandsFor p.lang c.lang
  title : StandsFor p.title c.title
  routes : ∃ routes, ReadsAs p.routes (routesJson routes) ∧ routes.Perm c.routes ∧
    (routes.map Prod.fst).Pairwise Json.KeyLt
  sections : ReadsAs p.sections (.array (c.sections.map .string))
  sectionDisplay : ReadsAs p.sectionDisplay (.string c.sectionDisplay)
  homeSection : ReadsAs p.homeSection (.string c.homeSection)

/-- The angle brackets of a text, in order. -/
def brackets (s : Points) : Points :=
  s.filter fun p => p = .char '<' ∨ p = .char '>'

/-! ## Entities -/

theorem unescape_cons {p : CodePoint} (h : p ≠ .char '&') (s : Points) : unescape (p :: s) = p :: unescape s := by
  conv_lhs => unfold unescape
  split <;> simp_all

theorem unescape_escapedPoint (p : CodePoint) (s : Points) :
    unescape (escapedPoint p ++ s) = p :: unescape s := by
  cases p with
  | surrogate n => exact unescape_cons (p := .surrogate n) nofun s
  | char c =>
      rw [escapedPoint]
      unfold entity
      split
      case h_6 hc _ _ _ _ => exact unescape_cons (by simpa using hc) s
      all_goals rfl

theorem unescape_escape (s : Points) : unescape (escape s) = s := by
  induction s with
  | nil => rfl
  | cons p s ih => rw [escape, List.flatMap_cons, unescape_escapedPoint, ← escape, ih]

theorem suffix_escapedPoint {p : CodePoint} (h : .char '&' :: t <:+ escapedPoint p ++ s) :
    (∃ c ∈ specials, p = .char c ∧ .char '&' :: t = pointsOf (entity c) ++ s) ∨ .char '&' :: t <:+ s := by
  cases p with
  | surrogate n =>
      rcases List.suffix_cons_iff.1 h with h | h
      · cases (List.cons.inj h).1
      · exact .inr h
  | char c =>
      -- No entity holds another ampersand than its first character.
      rw [escapedPoint] at h
      unfold entity at h
      split at h
      case h_6 hc _ _ _ _ =>
        rcases List.suffix_cons_iff.1 h with h | h
        · exact absurd (CodePoint.char.inj (List.cons.inj h).1).symm hc
        · exact .inr h
      all_goals simpa [List.suffix_cons_iff, specials, entity] using h

theorem exists_entity_prefix (h : .char '&' :: t <:+ escape s) :
    ∃ c ∈ specials, pointsOf (entity c) <+: .char '&' :: t := by
  induction s with
  | nil => cases List.suffix_nil.1 h
  | cons p s ih =>
      rcases suffix_escapedPoint h with ⟨c, hc, -, he⟩ | h
      · exact ⟨c, hc, he ▸ List.prefix_append _ _⟩
      · exact ih h

theorem standsFor_escape (s : Points) : StandsFor (escape s) s where
  notMem _ hc := notMem_escape hc s
  entity _ h := exists_entity_prefix h
  unescape := unescape_escape s

/-! ## Settings in the script -/

theorem readsAs_scriptText {v : Json} (h : v.Regular fun _ => True) : ReadsAs v.scriptText v.sorted :=
  ⟨Json.scriptSafe_scriptText h, Json.ofText?_scriptText⟩

theorem sorted_routesJson_eq (routes : List (Points × Points)) :
    (routesJson routes).sorted = routesJson (sortByKey routes) := by
  have hm : (sortByKey routes).map (fun route => (route.1, Json.string route.2)) =
      sortByKey (routes.map fun route => (route.1, .string route.2)) :=
    List.map_mergeSort fun _ _ _ _ => rfl
  rw [sorted_routesJson, routesJson, hm]

/-- Each place holds its setting. -/
theorem hold_places (h : (c.routes.map Prod.fst).Nodup) : (places c).Hold c where
  lang := standsFor_escape c.lang
  title := standsFor_escape c.title
  routes := by
    have hr := readsAs_scriptText (regular_routesJson h fun _ _ => ⟨trivial, trivial⟩)
    rw [sorted_routesJson_eq] at hr
    exact ⟨sortByKey c.routes, hr, Json.perm_sortByKey c.routes, Json.pairwise_keys_sortByKey h⟩
  sections := by
    have hs := readsAs_scriptText (regular_strings (l := c.sections) fun _ _ => trivial)
    rwa [sorted_strings] at hs
  sectionDisplay := readsAs_scriptText (v := .string c.sectionDisplay) trivial
  homeSection := readsAs_scriptText (v := .string c.homeSection) trivial

/-! ## Angle brackets -/

theorem brackets_append (s t : Points) : brackets (s ++ t) = brackets s ++ brackets t :=
  List.filter_append ..

theorem brackets_eq_nil (h : .char '<' ∉ s ∧ .char '>' ∉ s) : brackets s = [] := by
  rw [brackets, List.filter_eq_nil_iff]
  rintro p hp he
  rcases of_decide_eq_true he with rfl | rfl
  · exact h.1 hp
  · exact h.2 hp

theorem StandsFor.brackets {text : Points} (h : StandsFor text s) : brackets text = [] :=
  brackets_eq_nil ⟨h.notMem _ (by decide), h.notMem _ (by decide)⟩

theorem ReadsAs.brackets {text : String} {v : Json} (h : ReadsAs text v) : brackets text = [] :=
  brackets_eq_nil ⟨fun hc => absurd (h.safe _ (Text.char_mem_pointsOf.1 hc)).2.2 (by decide),
    fun hc => absurd (h.safe _ (Text.char_mem_pointsOf.1 hc)).2.2 (by decide)⟩

theorem brackets_nil : brackets [] = [] :=
  rfl

theorem brackets_empty : brackets "" = [] :=
  rfl

theorem Places.Hold.brackets_front {p : Places} (h : p.Hold c) :
    brackets p.front = brackets blank.front := by
  simp only [front, blank, brackets_append, h.lang.brackets, h.title.brackets, brackets_nil]

theorem Places.Hold.brackets_back {p : Places} (h : p.Hold c) :
    brackets p.back = brackets blank.back := by
  obtain ⟨_, hroutes, -⟩ := h.routes
  simp only [back, blank, brackets_append, hroutes.brackets, h.sections.brackets,
    h.sectionDisplay.brackets, h.homeSection.brackets, brackets_empty]

/-! ## Pages -/

theorem render_eq_places (c : PageConfig) (body : Points) :
    render c body none = (places c).front ++ body ++ (places c).back := by
  simp only [render, unlabelled, labelComment, Places.front, Places.back, places, List.append_assoc,
    List.append_nil]

/-- No setting breaks out of its place in a page: each is read from there again, and around the body no angle
bracket stands that is not one of the template. -/
theorem render_places (body : Points) (h : (c.routes.map Prod.fst).Nodup) :
    render c body none = (places c).front ++ body ++ (places c).back ∧ (places c).Hold c ∧
      brackets (places c).front = brackets Places.blank.front ∧
      brackets (places c).back = brackets Places.blank.back := by
  have hp := hold_places h
  exact ⟨render_eq_places c body, hp, hp.brackets_front, hp.brackets_back⟩

/-- Settings that try to end their places, some of them in an escaped form already. -/
def intrusiveConfig : PageConfig where
  lang := "\"><b>"
  title := "</title>&lt;"
  routes := [("b", "</script>"), ("a", "\\u003c")]
  sections := ["'\u2028", "😀"]

theorem render_places_intrusiveConfig :
    (places intrusiveConfig).title = "&lt;/title&gt;&amp;lt;" ∧
      (places intrusiveConfig).sections = "[\"\\u0027\\u2028\", \"\\ud83d\\ude00\"]" ∧
      Json.ofText? (places intrusiveConfig).sections = some (.array [.string "'\u2028", .string "😀"]) ∧
      (places intrusiveConfig).Hold intrusiveConfig ∧
      brackets (places intrusiveConfig).back = brackets Places.blank.back := by
  obtain ⟨-, hp, -, hb⟩ := render_places (c := intrusiveConfig) [] (by decide +kernel)
  have hu : ∀ s ∈ intrusiveConfig.sections, Unpaired s := by
    decide +kernel
  exact ⟨by decide +kernel, by decide +kernel, hp.sections.value (regular_strings hu), hp, hb⟩

/-- The two halves of a surrogate pair in a row are read from their place as the character they stand for. -/
theorem ofText?_surrogatePair :
    Json.ofText? (places { homeSection := [.surrogate 0x3D, .surrogate 0x600] }).homeSection =
        some (.string "😀") ∧
      Json.string [.surrogate 0x3D, .surrogate 0x600] ≠ .string "😀" := by
  have ht : (places { homeSection := [.surrogate 0x3D, .surrogate 0x600] }).homeSection =
      (Json.string "😀").scriptText := by
    decide +kernel
  rw [ht]
  exact ⟨Json.ofText?_scriptText (v := .string "😀") (Json.unpaired_points _),
    fun h => absurd (Json.string.inj h) (by decide)⟩

end TalPage.Page
