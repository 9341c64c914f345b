import TalPage.Proofs.Markup.Step

/-!
# Nodes and documents

What the reading of one node comes to, by the syntax alone, and what the reading of a document makes
of its root.
-/

namespace TalPage.Markup

/-- The reading of one node, or of a character that starts none. -/
inductive NodeReads (rules : Rules) (depth : Int) :
    List Char → Except Fault (Option String × List Char) → Prop where
  | atEnd : NodeReads rules depth [] (.ok (none, []))
  | skip {c s} (hn : startsNode c = false) : NodeReads rules depth (c :: s) (.ok (none, s))
  | tooDeep {c s} (hn : startsNode c = true) (hd : rules.maxDepth < depth) :
      NodeReads rules depth (c :: s) (.error ⟨.tooDeep rules.maxDepth, c :: s, c :: s⟩)
  | openContent {c s rest text} {h : Head} (hn : startsNode c = true) (hd : depth ≤ rules.maxDepth)
      (hl : h.Leads (c :: s) rest) (hs : rules.strict = true)
      (hc : h.content = some ⟨text, false⟩) :
      NodeReads rules depth (c :: s) (.error ⟨.openContent, '{' :: text.toList, []⟩)
  | leaf {c s rest} {h : Head} (hn : startsNode c = true) (hd : depth ≤ rules.maxDepth)
      (hl : h.Leads (c :: s) rest) (hc : rules.strict = true → h.Closed)
      (hb : rest.head? ≠ some '[') :
      NodeReads rules depth (c :: s) (.ok (some h.element.html, rest))
  | branch {c s rest out} {h : Head} (hn : startsNode c = true) (hd : depth ≤ rules.maxDepth)
      (hl : h.Leads (c :: s) ('[' :: rest))
      (hr : Reads rules depth ⟨⟨h.element, '[' :: rest⟩, [], rest⟩ out) :
      NodeReads rules depth (c :: s) (out.map fun (e, rest) => (some e.html, rest))

variable {rules : Rules} {depth : Int} {s : List Char}

theorem NodeReads.readNode_eq {result : Except Fault (Option String × List Char)}
    (h : NodeReads rules depth s result) : readNode rules depth s = result := by
  cases h with
  | atEnd => rfl
  | skip hn => simp [readNode, hn]
  | tooDeep hn hd => simp [readNode, hn, hd]
  | openContent hn hd hl hs hc => simp [readNode, hn, Int.not_lt.2 hd, hl.readHead_of_open hs hc]
  | leaf hn hd hl hc hb =>
      simp [readNode, hn, Int.not_lt.2 hd, hl.readHead_of_closed hc, afterBracket?, hb]
  | @branch c s rest _ h hn hd hl hr =>
      rw [← hr.outcome_readItems]
      simp only [readNode, hn, Int.not_lt.2 hd, hl.readHead_of_closed fun _ => hl.closed,
        afterBracket?, readChildren, List.drop_succ_cons, List.drop_zero]
      rcases readItems rules depth ⟨h.element, '[' :: rest⟩ [] rest with ⟨e, fault | rest'⟩ <;>
        simp [outcome, Except.map]

theorem exists_nodeReads (rules : Rules) (depth : Int) (s : List Char) :
    ∃ result, NodeReads rules depth s result := by
  cases s with
  | nil => exact ⟨_, .atEnd⟩
  | cons c s =>
      by_cases hn : startsNode c = true
      · by_cases hd : rules.maxDepth < depth
        · exact ⟨_, .tooDeep hn hd⟩
        have hd := Int.not_lt.1 hd
        obtain ⟨h, rest, hl, hr⟩ := exists_leads_cases rules (c :: s)
        rcases hr with ⟨rest, rfl⟩ | ⟨hc, hb⟩ | ⟨hs, text, hc⟩
        · exact ⟨_, .branch hn hd hl (reads_readItems rules depth _)⟩
        · exact ⟨_, .leaf hn hd hl hc hb⟩
        · exact ⟨_, .openContent hn hd hl hs hc⟩
      · exact ⟨_, .skip (by simpa using hn)⟩

theorem nodeReads_readNode (rules : Rules) (depth : Int) (s : List Char) :
    NodeReads rules depth s (readNode rules depth s) := by
  obtain ⟨result, h⟩ := exists_nodeReads rules depth s
  exact h.readNode_eq ▸ h

/-! ## Documents -/

theorem findRoot_of_not_mem {s : List Char} (h : rootMarker ∉ s) : findRoot s = [] := by
  rw [findRoot, List.dropWhile_eq_nil_iff]
  intro c hc
  have hne : c ≠ rootMarker := fun he => h (he ▸ hc)
  simp [hne]

theorem readRoot_of_not_mem (rules : Rules) {s : List Char} (h : rootMarker ∉ s) :
    readRoot rules s = .error ⟨.noRoot, [], []⟩ := by
  rw [readRoot, findRoot_of_not_mem h]

theorem findRoot_append {before : List Char} (hb : rootMarker ∉ before) (s : List Char) :
    findRoot (before ++ s) = findRoot s := by
  rw [findRoot, List.dropWhile_append_of_pos, findRoot]
  intro c hc
  have hne : c ≠ rootMarker := fun he => hb (he ▸ hc)
  simp [hne]

theorem readRoot_append (rules : Rules) {before : List Char} (hb : rootMarker ∉ before)
    (s : List Char) :
    readRoot rules (before ++ rootMarker :: s) =
      (readNode rules 1 (rootMarker :: s)).map fun (html, _) => html.getD "" := by
  have hr : findRoot (before ++ rootMarker :: s) = rootMarker :: s := by
    rw [findRoot_append hb]
    simp [findRoot]
  rw [readRoot, hr]

/-- A document has no root, or its root is read after the text before its marker. -/
theorem readRoot_cases (s : List Char) :
    rootMarker ∉ s ∨ ∃ before root, rootMarker ∉ before ∧ s = before ++ rootMarker :: root := by
  by_cases h : rootMarker ∈ s
  · obtain ⟨before, root, hs, hb⟩ := List.eq_append_cons_of_mem h
    exact .inr ⟨before, root, hb, hs⟩
  · exact .inl h

/-- A document has no root under any rules, or is read as the node at its root. -/
theorem parse_cases (source : String) :
    (rootMarker ∉ source.toList ∧ ∀ rules, parse rules source = .error ⟨.noRoot, [], []⟩) ∨
      ∃ before root, rootMarker ∉ before ∧ source.toList = before ++ rootMarker :: root ∧
        ∀ rules, parse rules source =
          (readNode rules 1 (rootMarker :: root)).map fun (html, _) => html.getD "" := by
  rcases readRoot_cases source.toList with hr | ⟨before, root, hb, hs⟩
  · exact .inl ⟨hr, fun rules => readRoot_of_not_mem rules hr⟩
  · refine .inr ⟨before, root, hb, hs, fun rules => ?_⟩
    rw [parse, hs, readRoot_append rules hb]

/-- A document that fails has no root, or its root is a node whose reading fails. -/
theorem cases_of_parse_eq_error {source : String} {fault : Fault}
    (hp : parse rules source = .error fault) :
    (rootMarker ∉ source.toList ∧ fault = ⟨.noRoot, [], []⟩) ∨
      ∃ before root, rootMarker ∉ before ∧ source.toList = before ++ rootMarker :: root ∧
        NodeReads rules 1 (rootMarker :: root) (.error fault) := by
  rcases parse_cases source with ⟨hr, h⟩ | ⟨before, root, hb, hs, h⟩
  · rw [h] at hp
    cases hp
    exact .inl ⟨hr, rfl⟩
  · have hn := nodeReads_readNode rules 1 (rootMarker :: root)
    rw [h] at hp
    cases hr : readNode rules 1 (rootMarker :: root) with
    | ok result => rw [hr] at hp; cases hp
    | error fault' =>
        rw [hr] at hp hn
        cases hp
        exact .inr ⟨before, root, hb, hs, hn⟩

/-- A document that is read has a root whose reading gives its HTML. -/
theorem exists_of_parse_eq_ok {source html : String} (hp : parse rules source = .ok html) :
    ∃ before root html' rest, source.toList = before ++ rootMarker :: root ∧
      readNode rules 1 (rootMarker :: root) = .ok (html', rest) ∧ html = html'.getD "" := by
  rcases parse_cases source with ⟨-, h⟩ | ⟨before, root, -, hs, h⟩
  · rw [h] at hp
    cases hp
  · rw [h] at hp
    cases hr : readNode rules 1 (rootMarker :: root) with
    | error fault => rw [hr] at hp; cases hp
    | ok result =>
        obtain ⟨html', rest⟩ := result
        rw [hr] at hp
        cases hp
        exact ⟨before, root, html', rest, hs, hr, rfl⟩

/-- A document that ends inside a content block of a list. -/
theorem parse_openContent :
    parse { maxDepth := 2, strict := true } "^[t\x7ba" = .error ⟨.openContent, ['{', 'a'], []⟩ := by
  have hr : tagName? '^' = some "main" := by decide
  have ht : tagName? 't' = some "p" := by decide
  simp [parse, readRoot, findRoot, readNode, readChildren, readItems_cons, readHead, readTag,
    readModifiers, readContent, afterBracket?, startsNode, rootMarker, Except.map,
    Modifier.ofMarker?, openLimit, hr, ht]

end TalPage.Markup
