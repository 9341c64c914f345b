import TalPage.Proofs.Markup.Document

/-!
# Reading what is written

A tree whose parts are read by longest match is read back from its text, whatever comes after it. The
nodes of a document that separates them by closing brackets are such trees.
-/

namespace TalPage.Markup

variable {rules : Rules} {depth : Int} {out : Outcome}

/-! ## Children of an open element -/

/-- The open element with more finished children. -/
def Open.addAll (o : Open) (pieces : List String) : Open :=
  { o with element := { o.element with children := o.element.children ++ pieces } }

@[simp]
theorem Open.addAll_nil (o : Open) : o.addAll [] = o := by
  simp [addAll]

theorem Open.addAll_addAll (o : Open) (ps qs : List String) :
    (o.addAll ps).addAll qs = o.addAll (ps ++ qs) := by
  simp [addAll]

theorem Open.add_eq_addAll (o : Open) (e : Element) : o.add e = o.addAll [e.html] := rfl

/-- An open element that has read all its items is written as its node. -/
theorem Open.html_addAll (h : Head) (place : List Char) (pieces : List String) :
    ((⟨h.element, place⟩ : Open).addAll pieces).element.html = h.html (String.join pieces) :=
  h.html_element pieces

theorem Head.element_html (h : Head) : h.element.html = h.html "" :=
  h.html_element []

/-! ## The start of a node -/

/-- The text of a node after its head. -/
def Node.tail : Node → List Char
  | .leaf _ => []
  | .branch _ items closed => '[' :: (items.text ++ closer ']' closed)

theorem Node.text_eq (n : Node) : n.text = n.head.text ++ n.tail := by
  cases n with
  | leaf h => simp [text, head, tail]
  | branch h items closed => simp [text, head, tail]

theorem Node.Spelled.head {n : Node} (hs : n.Spelled) : n.head.Spelled ∧ n.Opens := by
  cases n with
  | leaf h => exact hs
  | branch h items closed => exact ⟨hs.1, hs.2.1⟩

theorem Node.Maximal.head {n : Node} {after : List Char} (hm : n.Maximal after) :
    n.head.Maximal (n.tail ++ after) := by
  cases n with
  | leaf h => exact hm.1
  | branch h items closed => exact hm.1

/-- The text of a node starts with a character that starts one. -/
theorem Node.Spelled.exists_cons {n : Node} (hs : n.Spelled) :
    ∃ c s, n.text = c :: s ∧ startsNode c = true := by
  obtain ⟨hh, ho⟩ := hs.head
  cases ht : n.head.tag with
  | none =>
      obtain ⟨c, hc, hm⟩ := ho ht
      obtain ⟨s, hs⟩ := List.head?_eq_some_iff.1 hc
      exact ⟨c, s, hs, by simp [startsNode, hm]⟩
  | some c =>
      have hc : (tagName? c).isSome = true := hh.tag c ht
      exact ⟨c, _, by rw [n.text_eq, Head.text, ht]; rfl, by simp [startsNode, hc]⟩

theorem Node.head_leads {n : Node} {after : List Char} (hs : n.Spelled) (hm : n.Maximal after) :
    n.head.Leads (n.text ++ after) (n.tail ++ after) := by
  refine ⟨by rw [n.text_eq, List.append_assoc], hs.head.1, hm.head, ?_⟩
  intro ht c hc
  obtain ⟨c', hc', hm'⟩ := hs.head.2 ht
  obtain rfl : c' = c := by simpa [Option.mem_def.1 hc'] using hc
  have hn : ['.', '!', '{', '['].all (tagName? · = none) = true := by decide
  simpa using List.all_eq_true.1 hn c' hm'

theorem Node.head_leads_branch {h : Head} {items : Items} {closed : Bool} {after : List Char}
    (hs : (Node.branch h items closed).Spelled) (hm : (Node.branch h items closed).Maximal after) :
    h.Leads ((Node.branch h items closed).text ++ after)
      ('[' :: (items.text ++ (closer ']' closed ++ after))) := by
  simpa [Node.tail, Node.head] using Node.head_leads hs hm

/-! ## Items -/

/-- At the end of the text an open element closes by itself, unless the reading is strict. -/
theorem Reads.close_at_end (hs : rules.strict = false) {top parent : Open} {outer : List Open}
    (hr : Reads rules depth ⟨parent.add top.element, outer, []⟩ out) :
    Reads rules depth ⟨top, parent :: outer, []⟩ out := by
  cases hr with
  | stop h =>
      cases h with
      | truncated => exact .stop (.truncated hs)
      | openChildren ht => simp [hs] at ht
  | step h => cases h

/-- A list of children inside another element closes at its bracket, or at the end of the text. -/
theorem Reads.close_inner {top parent : Open} {outer : List Open} {closed : Bool} {after : List Char}
    (hc : rules.strict = true → closed = true) (ha : closed = false → after = [])
    (hr : Reads rules depth ⟨parent.add top.element, outer, after⟩ out) :
    Reads rules depth ⟨top, parent :: outer, closer ']' closed ++ after⟩ out := by
  cases closed with
  | true => exact .step .close hr
  | false =>
      have hs : rules.strict = false := by simpa using hc
      obtain rfl := ha rfl
      exact Reads.close_at_end hs hr

theorem Reads.close_outermost (top : Open) {closed : Bool} {after : List Char}
    (hc : rules.strict = true → closed = true) (ha : closed = false → after = []) :
    Reads rules depth ⟨top, [], closer ']' closed ++ after⟩ (.ok (top.element, after)) := by
  cases closed with
  | true => exact .stop .closed
  | false =>
      have hs : rules.strict = false := by simpa using hc
      obtain rfl := ha rfl
      exact .stop (.truncated hs)

theorem Fits.mono {outer : List Open} {m n : Nat} (h : Fits rules depth outer n) (hmn : m ≤ n) :
    Fits rules depth outer m := by
  have h₁ := h.1
  have h₂ := h.2
  constructor <;> omega

theorem Fits.cons {outer : List Open} {n : Nat} (h : Fits rules depth outer (n + 1)) (o : Open) :
    Fits rules depth (o :: outer) n := by
  have h₁ := h.1
  have h₂ := h.2
  constructor <;> simp only [List.length_cons] <;> omega

mutual
/-- A node inside the open elements is read as a child of the innermost. -/
theorem Node.reads : (n : Node) → {after : List Char} → {top : Open} → {outer : List Open} →
    n.Spelled → n.Maximal after → (rules.strict = true → n.Closed) →
    Fits rules depth outer n.height →
    Reads rules depth ⟨top.addAll [n.html], outer, after⟩ out →
    Reads rules depth ⟨top, outer, n.text ++ after⟩ out
  | .leaf h, after, top, outer, hs, hm, hc, hf, hr => by
      obtain ⟨c, s, ht, hn⟩ := hs.exists_cons
      have hl : h.Leads ((Node.leaf h).text ++ after) after := Node.head_leads hs hm
      rw [ht] at hl ⊢
      refine .step (.leaf hn hf hl hc hm.2) ?_
      rwa [Open.add_eq_addAll, h.element_html]
  | .branch h items closed, after, top, outer, hs, hm, hc, hf, hr => by
      obtain ⟨c, s, ht, hn⟩ := hs.exists_cons
      have hl := Node.head_leads_branch hs hm
      rw [ht] at hl ⊢
      refine .step (.branch hn (hf.mono (Nat.succ_le_succ (Nat.zero_le _))) hl) ?_
      refine Items.reads items hs.2.2 hm.2.1 (fun h => (hc h).2.1) (hf.cons top) ?_
      refine Reads.close_inner (fun h => (hc h).2.2) hm.2.2 ?_
      rwa [Open.add_eq_addAll, Open.html_addAll]

/-- The items of a list are read in order. -/
theorem Items.reads : (items : Items) → {after : List Char} → {top : Open} → {outer : List Open} →
    items.Spelled → items.Maximal after → (rules.strict = true → items.Closed) →
    Fits rules depth outer items.height →
    Reads rules depth ⟨top.addAll items.pieces, outer, after⟩ out →
    Reads rules depth ⟨top, outer, items.text ++ after⟩ out
  | .nil, after, top, outer, hs, hm, hc, hf, hr => by simpa [Items.pieces, Items.text] using hr
  | .skip c next, after, top, outer, hs, hm, hc, hf, hr => by
      exact .step (.skip hs.1.2 hs.1.1) (Items.reads next hs.2 hm hc hf hr)
  | .node n next, after, top, outer, hs, hm, hc, hf, hr => by
      rw [Items.text, List.append_assoc]
      refine Node.reads n hs.1 hm.1 (fun h => (hc h).1) (hf.mono (Nat.le_max_left _ _)) ?_
      refine Items.reads next hs.2 hm.2 (fun h => (hc h).2) (hf.mono (Nat.le_max_right _ _)) ?_
      rwa [Open.addAll_addAll]
end

/-! ## Nodes -/

/-- A tree that could not be read further is read from its text, up to the text after it. -/
theorem Node.readNode_text {n : Node} {after : List Char} (hs : n.Spelled) (hm : n.Maximal after)
    (hc : rules.strict = true → n.Closed) (hd : depth + n.height ≤ rules.maxDepth + 1)
    (he : n.height ≤ openLimit) :
    readNode rules depth (n.text ++ after) = .ok (some n.html, after) := by
  obtain ⟨c, s, ht, hn⟩ := hs.exists_cons
  cases n with
  | leaf h =>
      have hl : h.Leads ((Node.leaf h).text ++ after) after := Node.head_leads hs hm
      have hd : depth ≤ rules.maxDepth := by simp only [height] at hd; omega
      rw [ht] at hl ⊢
      have hr := NodeReads.leaf hn hd hl hc hm.2
      rw [h.element_html] at hr
      exact hr.readNode_eq
  | branch h items closed =>
      have hl := Node.head_leads_branch hs hm
      have hf : Fits rules depth [] items.height := by
        simp only [height] at hd he
        constructor <;> simp only [List.length_nil] <;> omega
      have hd : depth ≤ rules.maxDepth := by simp only [height] at hd; omega
      rw [ht, List.cons_append] at hl ⊢
      rw [(NodeReads.branch hn hd hl (Items.reads items hs.2.2 hm.2.1 (fun h => (hc h).2.1) hf
          (Reads.close_outermost _ (fun h => (hc h).2.2) hm.2.2))).readNode_eq]
      simp only [Except.map, Open.html_addAll, html]

/-! ## Separated trees -/

theorem Node.Follows.maximal_head {h : Head} {after : List Char} (hc : h.Closed)
    (hf : ∀ c ∈ after.head?, c = ']' ∨ c = '}') : (Node.leaf h).Maximal after := by
  refine ⟨hc.maximal fun c hc => ?_, ?_⟩
  · rcases hf c hc with rfl | rfl <;> decide
  · intro h'
    rcases hf '[' h' with h' | h' <;> cases h'

theorem Node.Follows.append {n : Node} {s : List Char} (hf : n.Follows s) (after : List Char) :
    n.Follows (s ++ after) := by
  cases n with
  | leaf h =>
      obtain ⟨c, hc, hf⟩ := hf
      obtain ⟨s, rfl⟩ := List.head?_eq_some_iff.1 hc
      exact ⟨c, rfl, hf⟩
  | branch h items closed => trivial

mutual
theorem Node.maximal_of_separated : (n : Node) → {after : List Char} → n.Closed → n.Separated →
    n.Follows after → n.Maximal after
  | .leaf h, after, hc, _, ⟨c, hc', hf⟩ => by
      refine Node.Follows.maximal_head hc fun c' hc'' => ?_
      rw [Option.mem_unique hc'' hc']
      exact hf
  | .branch h items closed, after, ⟨hh, hi, hcl⟩, hs, _ => by
      subst hcl
      exact ⟨hh.maximal (by simp), Items.maximal_of_separated items hi hs, by simp⟩

theorem Items.maximal_of_separated : (items : Items) → {after : List Char} → items.Closed →
    items.Separated → items.Maximal (']' :: after)
  | .nil, _, _, _ => trivial
  | .skip _ next, _, hc, hs => Items.maximal_of_separated next hc hs
  | .node n next, after, hc, ⟨hf, hn, hs⟩ => by
      have hf' := hf.append after
      rw [List.append_assoc] at hf'
      exact ⟨Node.maximal_of_separated n hc.1 hn hf', Items.maximal_of_separated next hc.2 hs⟩
end

theorem Node.maximal_at_end (n : Node) (hc : n.Closed) (hs : n.Separated) : n.Maximal [] := by
  cases n with
  | leaf h => exact Node.Follows.maximal_head hc (by simp)
  | branch h items closed => exact Node.maximal_of_separated _ hc hs trivial

/-! ## Documents -/

/-- A document whose root could not be read further is read as that tree. -/
theorem parse_of_maximal (hd : rules.maxDepth ≤ 256) {root : Node}
    (ht : root.head.tag = some rootMarker) {before after : String} (hs : root.Spelled)
    (hm : root.Maximal after.toList) (hc : rules.strict = true → root.Closed)
    (hh : root.height ≤ rules.maxDepth) (hb : rootMarker ∉ before.toList) :
    parse rules (before ++ String.ofList root.text ++ after) = .ok root.html := by
  have htext : rootMarker :: root.text.tail = root.text := by
    rw [root.text_eq, Head.text, ht]
    rfl
  have hr : readNode rules 1 (root.text ++ after.toList) = .ok (some root.html, after.toList) :=
    Node.readNode_text hs hm hc (by omega) (by unfold openLimit; omega)
  rw [parse, String.toList_append, String.toList_append, String.toList_ofList, List.append_assoc,
    ← htext, List.cons_append, readRoot_append rules hb, ← List.cons_append, htext, hr]
  rfl

/-- A well-formed document is read as the tree it was written from, whatever stands before its root
and after it. -/
theorem parse_text (rules : Rules) (hd : rules.maxDepth ≤ 256) {root : Node}
    (ht : root.head.tag = some rootMarker) (hw : root.WellFormed)
    (hh : root.height ≤ rules.maxDepth) {before after : String} (hb : rootMarker ∉ before.toList)
    (hf : root.Follows after.toList ∨ after = "") :
    parse rules (before ++ String.ofList root.text ++ after) = .ok root.html := by
  have hm : root.Maximal after.toList := by
    rcases hf with hf | rfl
    · exact root.maximal_of_separated hw.closed hw.separated hf
    · exact root.maximal_at_end hw.closed hw.separated
  exact parse_of_maximal hd ht hw.spelled hm (fun _ => hw.closed) hh hb

/-- A document of three levels, with skipped characters wherever they may stand. -/
def sampleRoot : Node :=
  .branch ⟨some '^', [.id "m", .style "dark", .action "go"], some ⟨"Hi", true⟩⟩
    (.skip ' ' (.skip 'x' (.node
      (.branch ⟨none, [.style "row", .action "a b", .action "c", .id "i"], none⟩
        (.skip '}' (.node (.leaf ⟨some 't', [], some ⟨"z", true⟩⟩)
          (.skip '}' (.node (.leaf ⟨some 'd', [.id "^q"], none⟩) .nil)))) true)
      (.skip '#' .nil)))) true

theorem parse_text_sampleRoot :
    sampleRoot.WellFormed ∧ (sampleRoot.height : Int) ≤ 3 ∧
      parse { maxDepth := 3, strict := true } ("[$a] " ++ String.ofList sampleRoot.text ++ "^d") =
        .ok sampleRoot.html := by
  have hw : sampleRoot.WellFormed := by
    refine ⟨by decide, ?_, ?_⟩
    · simp [sampleRoot, Node.Closed, Items.Closed, Head.Closed]
    · simp [sampleRoot, Node.Separated, Items.Separated, Node.Follows, Items.text]
  exact ⟨hw, by decide, parse_text _ (by decide) rfl hw (by decide) (by decide) (.inl trivial)⟩

end TalPage.Markup
