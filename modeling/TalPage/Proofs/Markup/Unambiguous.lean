import TalPage.Proofs.Markup.Lossless
import TalPage.Proofs.Markup.Tree

/-!
# HTML is unambiguous

The HTML of a document without angle brackets and quotation marks is that of a tree of elements, so
that its tags match. Trees with the same HTML are the same but for the blanks around their styles.
-/

namespace TalPage.Markup
open Text

/-! ## Plain heads -/

theorem plainText_ofList {l : List Char} (h : l.all (· ∉ ['<', '>', '"']) = true) :
    PlainText (String.ofList l) := by
  intro c hc
  rw [String.toList_ofList] at hc
  simpa using List.all_eq_true.1 h c hc

theorem PlainText.join {l : List String} (h : ∀ s ∈ l, PlainText s) : PlainText (String.join l) := by
  intro c hc
  rw [String.toList_join, List.mem_flatMap] at hc
  obtain ⟨s, hs, hc⟩ := hc
  exact h s hs c hc

theorem plainText_of_mem_styles : ∀ p ∈ styles, PlainText p.2 := by
  simp only [styles, List.forall_mem_cons, List.not_mem_nil, false_implies, implies_true, and_true]
  and_intros
  all_goals repeat' with_reducible apply PlainText.append
  all_goals exact plainText_ofList (by decide +kernel)

theorem plainText_of_styleFragment? {name fragment : String}
    (h : styleFragment? name = some fragment) : PlainText fragment := by
  obtain ⟨l₁, l₂, hl, -⟩ := List.lookup_eq_some_iff.1 h
  exact plainText_of_mem_styles (name, fragment) (by simp [hl])

namespace Head
variable {h : Head}

/-- The text of the head can stand in HTML as it is. -/
def Plain (h : Head) : Prop :=
  ∀ c ∈ h.text, c ∉ ['<', '>', '"']

theorem Plain.modifier (hp : h.Plain) {m : Modifier} (hm : m ∈ h.modifiers) : PlainText m.name := by
  intro c hc
  have ht : c ∈ m.text := List.mem_cons_of_mem _ hc
  have hch : c ∈ chain h.modifiers := List.mem_flatMap.2 ⟨m, hm, ht⟩
  exact hp c (by simp [text, hch])

/-- A name that modifiers set is plain, and so is the empty one. -/
theorem Plain.last (hp : h.Plain) {f : Modifier → Option String}
    (hf : ∀ m name, f m = some name → m.name = name) :
    PlainText ((h.modifiers.filterMap f).getLast?.getD "") := by
  cases hl : (h.modifiers.filterMap f).getLast? with
  | none => decide
  | some name =>
      obtain ⟨m, hm, hn⟩ := List.mem_filterMap.1 (List.mem_of_getLast? hl)
      exact hf m name hn ▸ hp.modifier hm

theorem plainText_style (h : Head) : PlainText h.element.style := by
  refine PlainText.join ?_
  intro s hs
  obtain ⟨fragment, hf, rfl⟩ := List.mem_map.1 hs
  obtain ⟨m, -, hm⟩ := List.mem_filterMap.1 hf
  cases m with
  | style name => exact (plainText_of_styleFragment? hm).append (by decide)
  | action _ | id _ => cases hm

theorem tagName_mem (h : Head) : h.tagName ∈ tags.map Prod.snd := by
  rw [tagName]
  cases ht : h.tag.bind tagName? with
  | none => decide
  | some name =>
      obtain ⟨c, -, hc⟩ := Option.bind_eq_some_iff.1 ht
      obtain ⟨l₁, l₂, hl, -⟩ := List.lookup_eq_some_iff.1 hc
      simp [hl]

theorem Plain.content (hp : h.Plain) : PlainText h.contentHtml := by
  intro c hc
  cases hb : h.content with
  | none => simp [contentHtml, hb] at hc
  | some b =>
      have ht : c ∈ b.text.toList := by simpa [contentHtml, hb] using hc
      exact hp c (by simp [text, contentText, hb, Content.written, ht])

theorem Plain.element (hp : h.Plain) : h.element.Plain where
  tag := h.tagName_mem
  id := hp.last fun m name hm => by cases m <;> cases hm; rfl
  style := h.plainText_style
  action := hp.last fun m name hm => by cases m <;> cases hm; rfl
  content := hp.content

end Head

/-! ## The tree of a node -/

mutual
/-- The elements of a node. -/
def Node.tree : Node → Tree
  | .leaf h => ⟨h.element, []⟩
  | .branch h items _ => ⟨{ h.element with children := items.pieces }, items.trees⟩

def Items.trees : Items → List Tree
  | .nil => []
  | .skip _ next => next.trees
  | .node n next => n.tree :: next.trees
end

theorem Node.html_tree (n : Node) : n.tree.element.html = n.html := by
  cases n with
  | leaf h => exact h.html_element []
  | branch h items closed => exact h.html_element items.pieces

theorem Items.map_html_trees : (items : Items) → items.trees.map (·.element.html) = items.pieces
  | .nil => rfl
  | .skip _ next => next.map_html_trees
  | .node n next => by rw [trees, pieces, List.map_cons, n.html_tree, next.map_html_trees]

mutual
theorem Node.height_tree : (n : Node) → n.tree.height = n.height
  | .leaf h => by simp [Node.tree, Tree.height, Node.height]
  | .branch h items _ => by rw [Node.tree, Tree.height, items.foldr_height_trees, Node.height]

theorem Items.foldr_height_trees : (items : Items) →
    (items.trees.map fun t => t.height).foldr max 0 = items.height
  | .nil => rfl
  | .skip _ next => next.foldr_height_trees
  | .node n next => by
      rw [Items.trees, List.map_cons, List.foldr_cons, n.height_tree, next.foldr_height_trees,
        Items.height]
end

mutual
theorem Node.wellFormed_tree : (n : Node) → (∀ c ∈ n.text, c ∉ ['<', '>', '"']) → n.tree.WellFormed
  | .leaf h, hp => .intro (Head.Plain.element hp) rfl (by simp)
  | .branch h items closed, hp => by
      have hh : h.element.Plain :=
        Head.Plain.element fun c hc => hp c (List.mem_append_left _ hc)
      have hi : ∀ c ∈ items.text, c ∉ ['<', '>', '"'] := fun c hc => hp c (by simp [Node.text, hc])
      exact .intro ⟨hh.tag, hh.id, hh.style, hh.action, hh.content⟩ items.map_html_trees.symm
        (items.wellFormed_trees hi)

theorem Items.wellFormed_trees : (items : Items) → (∀ c ∈ items.text, c ∉ ['<', '>', '"']) →
    ∀ t ∈ items.trees, t.WellFormed
  | .nil, _ => by simp [Items.trees]
  | .skip _ next, hp => next.wellFormed_trees fun c hc => hp c (List.mem_cons_of_mem _ hc)
  | .node n next, hp => by
      refine List.forall_mem_cons.2 ⟨n.wellFormed_tree ?_, next.wellFormed_trees ?_⟩
      · exact fun c hc => hp c (List.mem_append_left _ hc)
      · exact fun c hc => hp c (List.mem_append_right _ hc)
end

/-! ## Documents -/

/-- The HTML of a plain document is that of a tree within the limit. -/
theorem exists_tree_of_parse_eq_ok {rules : Rules} {source html : String} (hs : PlainText source)
    (hp : parse rules source = .ok html) :
    ∃ t : Tree, t.WellFormed ∧ t.height ≤ rules.maxDepth ∧ t.element.html = html := by
  obtain ⟨before, root, html', rest, ht, hr, rfl⟩ := exists_of_parse_eq_ok hp
  obtain ⟨n, hl, hh, rfl⟩ := exists_node (by decide) hr
  refine ⟨n.tree, n.wellFormed_tree ?_, by rw [n.height_tree]; omega, n.html_tree⟩
  intro c hc
  exact hs c (by rw [ht, hl.text]; simp [hc])

/-- Two trees with the same HTML are the same but for the blanks around their styles, since a tree is
read back from its HTML; its tags match, up to the end of the text. The HTML of a document without
angle brackets and quotation marks is of this kind, and nests no deeper than the limit. -/
theorem html_unambiguous :
    (∀ t : Tree, t.WellFormed →
      Tree.ofHtml? t.element.html = some t.trimmed ∧ Balanced t.height t.element.html) ∧
    (∀ t u : Tree, t.WellFormed → u.WellFormed → t.element.html = u.element.html →
      t.trimmed = u.trimmed) ∧
    (∀ (rules : Rules) (source html : String), PlainText source → parse rules source = .ok html →
      Balanced rules.maxDepth.toNat html) := by
  refine ⟨fun t ht => ⟨ht.ofHtml?_html, ht.balanced (Nat.le_refl _)⟩, ?_, ?_⟩
  · intro t u ht hu he
    have hr := ht.ofHtml?_html
    rw [he, hu.ofHtml?_html] at hr
    exact (Option.some.inj hr).symm
  · intro rules source html hs hp
    obtain ⟨t, ht, hh, rfl⟩ := exists_tree_of_parse_eq_ok hs hp
    exact ht.balanced (by omega)

/-- A paragraph in a section that has a style with the blanks of `style`. -/
def styledSection (style : String) : Tree :=
  ⟨{ tag := "section", id := "a", style := style, content := "b", children := ["<p>c</p>"] },
    [⟨{ tag := "p", content := "c" }, []⟩]⟩

theorem styledSection_wellFormed {style : String} (hs : PlainText style) :
    (styledSection style).WellFormed := by
  have hc : ["<p>c</p>"] = [({ tag := "p", content := "c" } : Element).html] := by decide +kernel
  refine .intro ⟨(by decide : "section" ∈ tags.map Prod.snd), (by decide : PlainText "a"), hs,
    (by decide : PlainText ""), (by decide : PlainText "b")⟩ hc ?_
  simp only [List.forall_mem_singleton]
  exact .intro ⟨by decide, by decide, by decide, by decide, by decide⟩ rfl (by simp)

theorem html_unambiguous_styledSection :
    (styledSection " top:0 ").WellFormed ∧ (styledSection "top:0").WellFormed ∧
      (styledSection " top:0 ").element.html = (styledSection "top:0").element.html ∧
      (styledSection " top:0 ").trimmed = (styledSection "top:0").trimmed ∧
      PlainText "^\x7ba\x7d" ∧ Balanced 1 "<main>a</main>" := by
  have h₁ : (styledSection " top:0 ").WellFormed := styledSection_wellFormed (by decide)
  have h₂ : (styledSection "top:0").WellFormed := styledSection_wellFormed (by decide)
  have he : (styledSection " top:0 ").element.html = (styledSection "top:0").element.html := by
    decide +kernel
  have hs : PlainText "^\x7ba\x7d" := by decide
  have hp : parse { maxDepth := 1 } "^\x7ba\x7d" = .ok "<main>a</main>" := by
    have hr : tagName? '^' = some "main" := by decide
    have he : ({ tag := "main", content := "a" } : Element).html = "<main>a</main>" := by
      decide +kernel
    simp [parse, readRoot, findRoot, readNode, readHead, readTag, readModifiers, readContent,
      afterBracket?, startsNode, rootMarker, Except.map, Modifier.ofMarker?, hr, he]
  exact ⟨h₁, h₂, he, html_unambiguous.2.1 _ _ h₁ h₂ he, hs, html_unambiguous.2.2 _ _ _ hs hp⟩

end TalPage.Markup
