import TalPage.Proofs.Markup.Written

/-!
# Nothing is lost

Every reading that succeeds has read the text of a tree by longest match and gives the HTML of that
tree. With the reading of what is written, a document is read exactly when it is such a text.
-/

namespace TalPage.Markup

variable {rules : Rules} {depth : Int}

/-! ## Nodes that start a text -/

/-- The text `s` starts with the node `n`, which could not be read further, and `s'` comes after. -/
structure Node.Leads (rules : Rules) (n : Node) (s s' : List Char) : Prop where
  text : s = n.text ++ s'
  spelled : n.Spelled
  maximal : n.Maximal s'
  closes : rules.strict = true → n.Closed

/-- The items of a list and its end stand at the start of the text `s`, and `s'` comes after. -/
structure Items.Leads (rules : Rules) (depth : Int) (outer : List Open) (items : Items)
    (closed : Bool) (s s' : List Char) : Prop where
  text : s = items.text ++ (closer ']' closed ++ s')
  spelled : items.Spelled
  maximal : items.Maximal (closer ']' closed ++ s')
  closes : rules.strict = true → items.Closed ∧ closed = true
  atEnd : closed = false → s' = []
  fits : items.height ≠ 0 → Fits rules depth outer items.height

theorem Head.Leads.opens {h : Head} {c : Char} {s rest : List Char} (hl : h.Leads (c :: s) rest)
    (hn : startsNode c = true) (ht : h.tag = none) : c ∈ ['.', '!', '{', '['] := by
  have hc : tagName? c = none := hl.untagged ht c rfl
  simpa [startsNode, hc] using hn

/-- A head before anything but a list of children has at least one character. -/
theorem Head.Leads.text_ne_nil {h : Head} {c : Char} {s rest : List Char}
    (hl : h.Leads (c :: s) rest) (hn : startsNode c = true) (hb : rest.head? ≠ some '[') :
    h.text ≠ [] := by
  intro he
  obtain ⟨ht, hm⟩ := List.append_eq_nil_iff.1 he
  obtain ⟨hm, hc⟩ := List.append_eq_nil_iff.1 hm
  have ht : h.tag = none := by simpa using ht
  have hm : h.modifiers = [] := by
    cases hms : h.modifiers with
    | nil => rfl
    | cons m ms => simp [hms, Modifier.text] at hm
  have hc : h.content = none := by
    cases hb : h.content with
    | none => rfl
    | some b => simp [contentText, hb, Content.written] at hc
  have hr : rest = c :: s := by simpa [he] using hl.text.symm
  subst hr
  have hch := hl.maximal.chain
  have hbr := hl.maximal.content hc
  have ho := hl.opens hn ht
  simp only [hm, contentText, hc, ChainEnds, Option.map_none, Option.getD_none, List.nil_append,
    List.head?_cons, Option.mem_some_iff, forall_eq'] at hch
  simp_all

theorem Node.Leads.leaf {h : Head} {c : Char} {s rest : List Char} (hl : h.Leads (c :: s) rest)
    (hn : startsNode c = true) (hc : rules.strict = true → h.Closed) (hb : rest.head? ≠ some '[') :
    Node.Leads rules (.leaf h) (c :: s) rest := by
  refine ⟨hl.text, ⟨hl.spelled, ?_⟩, ⟨hl.maximal, hb⟩, hc⟩
  intro ht
  obtain ⟨c', t, he⟩ := List.exists_cons_of_ne_nil (hl.text_ne_nil hn hb)
  have htext := hl.text
  rw [he, List.cons_append, List.cons.injEq] at htext
  exact ⟨c, by simp [Node.text, he, htext.1], hl.opens hn ht⟩

theorem Node.Leads.branch {h : Head} {c : Char} {s rest rest' : List Char} {items : Items}
    {closed : Bool} {outer : List Open} (hl : h.Leads (c :: s) ('[' :: rest))
    (hn : startsNode c = true) (hi : items.Leads rules depth outer closed rest rest') :
    Node.Leads rules (.branch h items closed) (c :: s) rest' := by
  have htext : c :: s = (Node.branch h items closed).text ++ rest' := by
    rw [hl.text, hi.text]
    simp [Node.text]
  refine ⟨htext, ⟨hl.spelled, ?_, hi.spelled⟩, ⟨?_, hi.maximal, hi.atEnd⟩, ?_⟩
  · intro ht
    obtain ⟨c', t, he⟩ := List.exists_cons_of_ne_nil (l := (Node.branch h items closed).text)
      (by simp [Node.text])
    rw [he, List.cons_append, List.cons.injEq] at htext
    exact ⟨c, by simp [he, htext.1], hl.opens hn ht⟩
  · have hm := hl.maximal
    rwa [hi.text, ← List.append_assoc] at hm
  · exact fun hs => ⟨hl.closed, hi.closes hs⟩

/-! ## Lists of children -/

section
variable {outer : List Open} {s s' s'' : List Char}

theorem Items.Leads.skip {items : Items} {closed : Bool} {c : Char} (hb : c ≠ ']')
    (hn : startsNode c = false) (hi : items.Leads rules depth outer closed s s') :
    (Items.skip c items).Leads rules depth outer closed (c :: s) s' where
  text := by rw [hi.text]; rfl
  spelled := ⟨⟨hn, hb⟩, hi.spelled⟩
  maximal := hi.maximal
  closes := hi.closes
  atEnd := hi.atEnd
  fits := hi.fits

theorem Items.Leads.node {n : Node} {items : Items} {closed : Bool} (hn : n.Leads rules s s')
    (hf : Fits rules depth outer n.height) (hi : items.Leads rules depth outer closed s' s'') :
    (Items.node n items).Leads rules depth outer closed s s'' where
  text := by rw [hn.text, hi.text, Items.text, List.append_assoc]
  spelled := ⟨hn.spelled, hi.spelled⟩
  maximal := by
    have hm := hn.maximal
    rw [hi.text] at hm
    exact ⟨hm, hi.maximal⟩
  closes hs := ⟨⟨hn.closes hs, (hi.closes hs).1⟩, (hi.closes hs).2⟩
  atEnd := hi.atEnd
  fits _ := by
    rw [Items.height]
    by_cases h : items.height = 0
    · rwa [h, Nat.max_zero]
    · rcases Nat.le_total n.height items.height with hle | hle
      · rw [Nat.max_eq_right hle]
        exact hi.fits h
      · rwa [Nat.max_eq_left hle]

theorem Items.Leads.closeBracket (rules : Rules) (depth : Int) (outer : List Open)
    (s : List Char) : Items.nil.Leads rules depth outer true (']' :: s) s :=
  ⟨rfl, trivial, trivial, fun _ => ⟨trivial, rfl⟩, by simp, by simp [Items.height]⟩

theorem Items.Leads.truncated (hs : rules.strict = false) (depth : Int) (outer : List Open) :
    Items.nil.Leads rules depth outer false [] [] :=
  ⟨rfl, trivial, trivial, by simp [hs], fun _ => rfl, by simp [Items.height]⟩

/-- The height of a node whose list of children fits. -/
theorem Items.Leads.fits_branch {h : Head} {items : Items} {closed closed' : Bool} {top : Open}
    (hf : Fits rules depth outer 1)
    (hi : items.Leads rules depth (top :: outer) closed s s') :
    Fits rules depth outer (Node.branch h items closed').height := by
  rw [Node.height]
  by_cases h : items.height = 0
  · rwa [h]
  · have h₁ := (hi.fits h).1
    have h₂ := (hi.fits h).2
    simp only [List.length_cons] at h₁ h₂
    constructor <;> omega

end

/-- The elements around a finished one take the items after it, each up to the end of its list; the
outermost comes to `e`, with the text `rest` after it. -/
def Ends (rules : Rules) (depth : Int) (e : Element) (rest : List Char) :
    List Open → Element → List Char → Prop
  | [], inner, s => e = inner ∧ rest = s
  | parent :: outer, inner, s =>
      ∃ (items : Items) (closed : Bool) (s' : List Char),
        items.Leads rules depth outer closed s s' ∧
        Ends rules depth e rest outer ((parent.add inner).addAll items.pieces).element s'

/-- At the end of the text no open list has more items. -/
theorem ends_closeAll (hs : rules.strict = false) (top : Open) (outer : List Open) :
    Ends rules depth (closeAll top outer) [] outer top.element [] := by
  induction outer generalizing top with
  | nil => exact ⟨rfl, rfl⟩
  | cons parent outer ih =>
      refine ⟨.nil, false, [], .truncated hs depth outer, ?_⟩
      rw [Items.pieces, Open.addAll_nil]
      exact ih (parent.add top.element)

/-- A reading that succeeds has read items up to the end of every open list. -/
theorem Reads.exists_items {st : State} {out : Outcome} (hr : Reads rules depth st out)
    {e : Element} {rest : List Char} (ho : out = .ok (e, rest)) :
    ∃ (items : Items) (closed : Bool) (s' : List Char),
      items.Leads rules depth st.outer closed st.rest s' ∧
      Ends rules depth e rest st.outer (st.top.addAll items.pieces).element s' := by
  induction hr with
  | stop h =>
      cases h with
      | closed =>
          cases ho
          exact ⟨.nil, true, _, .closeBracket .., by simp [Ends, Items.pieces]⟩
      | truncated hs =>
          cases ho
          refine ⟨.nil, false, [], .truncated hs depth _, ?_⟩
          rw [Items.pieces, Open.addAll_nil]
          exact ends_closeAll hs _ _
      | openChildren | tooDeep | exhausted | openContent => cases ho
  | step h _ ih =>
      obtain ⟨items, closed, s', hi, he⟩ := ih ho
      cases h with
      | skip hb hn => exact ⟨.skip _ items, closed, s', hi.skip hb hn, he⟩
      | close =>
          refine ⟨.nil, true, _, .closeBracket .., ?_⟩
          rw [Items.pieces, Open.addAll_nil]
          exact ⟨items, closed, s', hi, he⟩
      | @leaf top outer c s rest h hn hf hl hc hb =>
          refine ⟨.node (.leaf h) items, closed, s', hi.node (.leaf hl hn hc hb) hf, ?_⟩
          rwa [Open.add_eq_addAll, Open.addAll_addAll, h.element_html] at he
      | @branch top outer c s rest h hn hf hl =>
          -- The items found first are those of the new element; the list around it goes on after.
          obtain ⟨items', closed', s'', hi', he⟩ := he
          refine ⟨.node (.branch h items closed) items', closed', s'',
            hi'.node (.branch hl hn hi) (hi.fits_branch hf), ?_⟩
          rwa [Open.add_eq_addAll, Open.addAll_addAll, Open.html_addAll] at he

/-! ## Nodes -/

theorem Fits.height_le {levels : Nat} (hf : Fits rules depth [] levels) :
    depth + levels ≤ rules.maxDepth := by
  simpa using hf.1

/-- A reading of a node that succeeds has read the text of a tree. -/
theorem exists_node {c : Char} {s rest : List Char} {html : Option String}
    (hn : startsNode c = true) (hr : readNode rules depth (c :: s) = .ok (html, rest)) :
    ∃ n : Node, n.Leads rules (c :: s) rest ∧ depth + n.height ≤ rules.maxDepth + 1 ∧
      html = some n.html := by
  have h := nodeReads_readNode rules depth (c :: s)
  rw [hr] at h
  generalize ho : Except.ok (html, rest) = out at h
  cases h with
  | skip hn' => simp [hn] at hn'
  | tooDeep | openContent => cases ho
  | leaf _ hd hl hc hb =>
      cases ho
      exact ⟨.leaf _, .leaf hl hn hc hb, by simp only [Node.height]; omega, by
        rw [Head.element_html]; rfl⟩
  | @branch _ _ rest' out h _ hd hl hr =>
      cases out with
      | error fault => cases ho
      | ok result =>
          obtain ⟨e, rest'⟩ := result
          cases ho
          obtain ⟨items, closed, s', hi, rfl, rfl⟩ := hr.exists_items rfl
          refine ⟨.branch h items closed, .branch hl hn hi, ?_, ?_⟩
          · rw [Node.height]
            by_cases h0 : items.height = 0
            · omega
            · have := (hi.fits h0).height_le
              omega
          · rw [Open.html_addAll]
            rfl

/-! ## Documents -/

theorem Node.Leads.tag {n : Node} {s s' : List Char} (hl : n.Leads rules (rootMarker :: s) s') :
    n.head.tag = some rootMarker := by
  obtain ⟨c, t, ht, hn⟩ := hl.spelled.exists_cons
  have htext := hl.text
  rw [ht, List.cons_append, List.cons.injEq] at htext
  obtain ⟨rfl, -⟩ := htext
  cases hh : n.head.tag with
  | none =>
      obtain ⟨c', hc, hm⟩ := hl.spelled.head.2 hh
      obtain rfl : rootMarker = c' := by simpa [ht] using hc
      simp [rootMarker] at hm
  | some c' =>
      rw [n.text_eq, Head.text, hh, Option.toList_some, List.cons_append, List.cons_append,
        List.cons.injEq] at ht
      rw [ht.1]

/-- A document is read exactly when the text from its first root marker on starts with a tree by
longest match, within the depth; every bracket of the tree is closed where the reading is strict, and
the result is the HTML of the tree. -/
theorem parse_eq_ok_iff (rules : Rules) (hd : rules.maxDepth ≤ 256) (source html : String) :
    parse rules source = .ok html ↔
      ∃ (before : String) (root : Node) (rest : String),
        source = before ++ String.ofList root.text ++ rest ∧ rootMarker ∉ before.toList ∧
        root.head.tag = some rootMarker ∧ root.Spelled ∧ root.Maximal rest.toList ∧
        (rules.strict = true → root.Closed) ∧ root.height ≤ rules.maxDepth ∧ html = root.html := by
  constructor
  · intro hp
    rcases readRoot_cases source.toList with hr | ⟨before, s, hb, hs⟩
    · rw [parse, readRoot_of_not_mem rules hr] at hp
      cases hp
    · rw [parse, hs, readRoot_append rules hb] at hp
      cases hr : readNode rules 1 (rootMarker :: s) with
      | error fault => rw [hr] at hp; cases hp
      | ok result =>
          obtain ⟨html', rest⟩ := result
          obtain ⟨root, hl, hh, rfl⟩ := exists_node (by decide) hr
          rw [hr] at hp
          cases hp
          refine ⟨String.ofList before, root, String.ofList rest, ?_, by simpa using hb, hl.tag,
            hl.spelled, by simpa using hl.maximal, hl.closes, by omega, rfl⟩
          rw [← String.toList_inj, hs, hl.text]
          simp
  · rintro ⟨before, root, rest, rfl, hb, ht, hs, hm, hc, hh, rfl⟩
    exact parse_of_maximal hd ht hs hm hc hh hb

/-- A document that ends inside a content block, two lists deep. -/
def truncatedRoot : Node :=
  .branch ⟨some '^', [.id "a"], none⟩
    (.skip ' ' (.node
      (.branch ⟨none, [.style "row"], none⟩
        (.skip '}' (.node (.leaf ⟨some 't', [], some ⟨"b", false⟩⟩) .nil)) false) .nil)) false

theorem parse_truncatedRoot :
    parse { maxDepth := 3 } "q]^#a[ .row[\x7dt\x7bb" =
      .ok ("<main id=\"a\"><div style=\"display:flex; flex-direction:row; gap:1.5rem; " ++
        "align-items:center;\"><p>b</p></div></main>") :=
  (parse_eq_ok_iff { maxDepth := 3 } (by decide) _ _).2
    ⟨"q]", truncatedRoot, "", by decide, by decide, rfl, by decide, by decide, by simp, by decide,
      by decide⟩

end TalPage.Markup
