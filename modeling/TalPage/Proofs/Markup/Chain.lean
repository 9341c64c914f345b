import TalPage.Proofs.Markup.Lossless
import TalPage.Proofs.Markup.Position

/-!
# Chains of modifiers

A text is cut into segments, markers with their tokens, in one way only, and reading goes as far as
segments go. What the segments make of an element depends on the order of those of one kind alone.
-/

namespace TalPage.Markup

variable {ms ms' : List Modifier} {s after after' : List Char} {m m' a b : Modifier}

/-! ## Segments -/

/-- Every token of the chain ends where it is said to. -/
def TokensEnd : List Modifier → List Char → Prop
  | [], _ => True
  | _ :: ms, after => EndsToken (chain ms ++ after) ∧ TokensEnd ms after

/-- The text `s` starts with the segments `ms`, and `after` comes next. -/
structure Segments (ms : List Modifier) (s after : List Char) : Prop where
  text : s = chain ms ++ after
  plain : ∀ m ∈ ms, m.Plain
  ends : TokensEnd ms after

/-- The text `s` starts with the segments `ms`, and no segments reach further into it. -/
structure LongestChain (ms : List Modifier) (s after : List Char) : Prop extends
    Segments ms s after where
  longest : ∀ ms' after', Segments ms' s after' →
    ms' <+: ms ∧ (chain ms').length ≤ (chain ms).length

theorem chain_append (ms ms' : List Modifier) : chain (ms ++ ms') = chain ms ++ chain ms' :=
  List.flatMap_append

theorem chainEnds_iff_tokensEnd :
    ChainEnds ms after ↔ TokensEnd ms after ∧ ∀ c ∈ after.head?, c ∉ ['.', '!', '#'] := by
  induction ms with
  | nil => simp [ChainEnds, TokensEnd]
  | cons m ms ih => rw [ChainEnds, TokensEnd, ih, and_assoc]

theorem Modifier.eq_of_marker_eq (hm : m.marker = m'.marker) (hn : m.name = m'.name) : m = m' := by
  have h := m.ofMarker?_marker
  rw [hm, hn, m'.ofMarker?_marker] at h
  exact (Option.some.inj h).symm

/-- A segment is cut off a text in one way. -/
theorem Modifier.text_append_inj (hp : m.Plain) (hp' : m'.Plain) (he : EndsToken after)
    (he' : EndsToken after') (h : m.text ++ after = m'.text ++ after') :
    m = m' ∧ after = after' := by
  rw [Modifier.text, Modifier.text, List.cons_append, List.cons_append, List.cons.injEq] at h
  obtain ⟨hm, ht⟩ := h
  have hr := readToken_append hp he
  rw [ht, readToken_append hp' he', Prod.mk.injEq] at hr
  exact ⟨Modifier.eq_of_marker_eq hm (String.toList_inj.1 hr.1.symm), hr.2.symm⟩

/-- Segments at the start of a text are the first ones of a chain that no marker follows. -/
theorem Segments.isPrefix (h' : Segments ms' s after') (h : Segments ms s after)
    (hn : ∀ c ∈ after.head?, c ∉ ['.', '!', '#']) : ms' <+: ms := by
  induction ms' generalizing ms s with
  | nil => exact List.nil_prefix
  | cons m' ms' ih =>
      have ht := h'.text.symm.trans h.text
      rw [chain_cons, List.append_assoc] at ht
      cases ms with
      | nil =>
          -- No marker follows the chain, but the text goes on with one.
          have hmem := hn m'.marker (by rw [← List.nil_append after, ← chain_nil, ← ht]; rfl)
          cases m' <;> simp [Modifier.marker] at hmem
      | cons m ms =>
          rw [chain_cons, List.append_assoc] at ht
          obtain ⟨rfl, hrest⟩ := Modifier.text_append_inj (h'.plain _ List.mem_cons_self)
            (h.plain _ List.mem_cons_self) h'.ends.1 h.ends.1 ht
          refine List.cons_prefix_cons.2 ⟨rfl, ih ⟨rfl, ?_, h'.ends.2⟩ ⟨hrest, ?_, h.ends.2⟩⟩
          · exact fun m hm => h'.plain m (List.mem_cons_of_mem _ hm)
          · exact fun m hm => h.plain m (List.mem_cons_of_mem _ hm)

/-- A chain that no marker follows is the longest. -/
theorem Segments.longestChain (h : Segments ms s after)
    (hn : ∀ c ∈ after.head?, c ∉ ['.', '!', '#']) : LongestChain ms s after where
  toSegments := h
  longest ms' after' h' := by
    obtain ⟨rest, rfl⟩ := h'.isPrefix h hn
    refine ⟨List.prefix_append _ _, ?_⟩
    rw [chain_append, List.length_append]
    exact Nat.le_add_right _ _

theorem LongestChain.of_chainEnds (hp : ∀ m ∈ ms, m.Plain) (he : ChainEnds ms after) :
    LongestChain ms (chain ms ++ after) after :=
  Segments.longestChain ⟨rfl, hp, (chainEnds_iff_tokensEnd.1 he).1⟩ (chainEnds_iff.1 he).2

/-- After a segment, what ends the chain is a bracket. -/
theorem ChainEnds.mem_of_ne_nil (he : ChainEnds ms after) (hms : ms ≠ []) :
    ∀ c ∈ after.head?, c ∈ ['{', '}', '[', ']'] := by
  intro c hc
  obtain ⟨ht, hn⟩ := chainEnds_iff.1 he
  have hs := ht hms c hc
  have hm := hn c hc
  simp only [isStructural, decide_eq_true_eq, List.mem_cons, List.not_mem_nil, or_false] at hs hm ⊢
  grind

/-! ## Exchanged segments -/

/-- Modifiers of different kinds set different parts of an element. -/
theorem Element.apply_comm (e : Element) (h : a.marker ≠ b.marker) :
    (e.apply a).apply b = (e.apply b).apply a := by
  have hs (name : String) (m : Modifier) (hm : m.marker ≠ '.') :
      (e.apply (.style name)).apply m = (e.apply m).apply (.style name) := by
    cases m with
    | style => exact absurd rfl hm
    | action | id => cases hf : styleFragment? name <;> simp [apply, hf, addStyle]
  cases a with
  | style name => exact hs name b h.symm
  | action =>
      cases b with
      | style name => exact (hs name _ h).symm
      | action => exact absurd rfl h
      | id => rfl
  | id =>
      cases b with
      | style name => exact (hs name _ h).symm
      | action => rfl
      | id => exact absurd rfl h

theorem ChainEnds.swap {ms₁ ms₂ : List Modifier} (he : ChainEnds (ms₁ ++ a :: b :: ms₂) after) :
    ChainEnds (ms₁ ++ b :: a :: ms₂) after := by
  rw [chainEnds_iff] at he ⊢
  exact ⟨fun _ => he.1 (by simp), he.2⟩

theorem foldl_apply_swap (ms₁ ms₂ : List Modifier) (h : a.marker ≠ b.marker) (e : Element) :
    (ms₁ ++ b :: a :: ms₂).foldl Element.apply e = (ms₁ ++ a :: b :: ms₂).foldl Element.apply e := by
  simp only [List.foldl_append, List.foldl_cons, Element.apply_comm _ h]

/-! ## The style that is written -/

theorem lookup_style (e : Element) :
    e.attributes.lookup "style" =
      if Text.strip e.style = "" then none else some (Text.strip e.style) := by
  by_cases hi : e.id = "" <;> by_cases hs : Text.strip e.style = "" <;>
    by_cases ha : e.action = "" <;> simp [Element.attributes, hi, hs, ha, List.lookup_cons]

theorem Solid.ne_empty {f : String} (hf : Solid f) : f ≠ "" := by
  rintro rfl
  exact absurd hf.1.head (by decide)

/-- The fragments of a head are its style attribute, which is left out where there are none. -/
theorem Head.lookup_style (h : Head) (children : List String) :
    ({ h.element with children := children } : Element).attributes.lookup "style" =
      if h.modifiers.filterMap Modifier.fragment? = [] then none
      else some (" ".intercalate (h.modifiers.filterMap Modifier.fragment?)) := by
  rw [Markup.lookup_style, show Text.strip _ = h.style from h.strip_style, Head.style]
  by_cases hf : h.modifiers.filterMap Modifier.fragment? = []
  · rw [hf]
    rfl
  · rw [if_neg hf, if_neg (solid_intercalate hf solid_of_mem_fragments).ne_empty]

/-- A node that is read is the element of a head, with the children that follow it. -/
theorem exists_head_of_readNode {rules : Rules} {depth : Int} {rest : List Char} {html : String}
    (hr : readNode rules depth s = .ok (some html, rest)) :
    ∃ (h : Head) (after : List Char) (children : List String), h.Leads s after ∧
      html = ({ h.element with children := children } : Element).html := by
  cases s with
  | nil => simp [readNode] at hr
  | cons c s =>
      cases hn : startsNode c with
      | false => simp [readNode, hn] at hr
      | true =>
          obtain ⟨n, hl, -, hh⟩ := exists_node hn hr
          obtain rfl := Option.some.inj hh
          have hh : n.head.Leads (c :: s) (n.tail ++ rest) :=
            hl.text ▸ Node.head_leads hl.spelled hl.maximal
          cases n with
          | leaf h => exact ⟨h, _, [], hh, (h.html_element []).symm⟩
          | branch h items closed => exact ⟨h, _, items.pieces, hh, (h.html_element _).symm⟩

/-! ## Reading a chain -/

theorem Cursor.readModifiers_between (hp : ∀ m ∈ ms, m.Plain) (he : ChainEnds ms after)
    (before : List Char) (e : Element) :
    (between before (chain ms ++ after)).readModifiers e =
      (ms.foldl Element.apply e, between (before ++ chain ms) after) := by
  rw [readModifiers, rest_between, readModifiers_chain hp he]
  simp only [withRest_between]

/-- The chain with two segments exchanged is read to the same element and place. -/
theorem Cursor.readModifiers_swap {ms₁ ms₂ : List Modifier}
    (hp : ∀ m ∈ ms₁ ++ a :: b :: ms₂, m.Plain) (he : ChainEnds (ms₁ ++ a :: b :: ms₂) after)
    (h : a.marker ≠ b.marker) (before : List Char) (e : Element) :
    ((between before (chain (ms₁ ++ b :: a :: ms₂) ++ after)).readModifiers e).1 =
        ((between before (chain (ms₁ ++ a :: b :: ms₂) ++ after)).readModifiers e).1 ∧
      ((between before (chain (ms₁ ++ b :: a :: ms₂) ++ after)).readModifiers e).2.position =
        ((between before (chain (ms₁ ++ a :: b :: ms₂) ++ after)).readModifiers e).2.position := by
  have hperm : (ms₁ ++ b :: a :: ms₂).Perm (ms₁ ++ a :: b :: ms₂) :=
    List.Perm.append_left ms₁ (List.Perm.swap a b ms₂)
  have hp' : ∀ m ∈ ms₁ ++ b :: a :: ms₂, m.Plain := fun m hm => hp m (hperm.mem_iff.1 hm)
  rw [readModifiers_between hp' he.swap, readModifiers_between hp he, foldl_apply_swap ms₁ ms₂ h]
  simp only [position_between, List.length_append, (hperm.flatMap_right Modifier.text).length_eq,
    chain, and_self]

/-- The modifiers at a cursor are read by longest match, up to a bracket or the end of the text. They
add the fragments of the known classes to the style in order, and the last action and the last id
stand; adjacent ones of different kinds can change places. A node is written with the fragments of its
chain, a space between each two of them. -/
theorem readModifiers_longestChain (e : Element) {c : Cursor} (hc : c.Within) :
    ∃ ms after, LongestChain ms c.rest after ∧
      (ms ≠ [] → ∀ char ∈ after.head?, char ∈ ['{', '}', '[', ']']) ∧
      c.readModifiers e =
        ({ e with
            style := e.style ++ String.join ((ms.filterMap Modifier.fragment?).map (· ++ " "))
            action := (ms.filterMap Modifier.action?).getLast?.getD e.action
            id := (ms.filterMap Modifier.id?).getLast?.getD e.id },
          { c with position := c.position + (chain ms).length }) ∧
      (∀ ms₁ a b ms₂, ms = ms₁ ++ a :: b :: ms₂ → a.marker ≠ b.marker → ∀ c' : Cursor,
        c'.source = c.source.take c.position.toNat ++ (chain (ms₁ ++ b :: a :: ms₂) ++ after) →
        c'.position = c.position →
        (c'.readModifiers e).1 = (c.readModifiers e).1 ∧
          (c'.readModifiers e).2.position = (c.readModifiers e).2.position) ∧
      ∀ rules depth html, (c.readNode rules depth).1 = .ok (some html) →
        ∃ ms' after' content children node, LongestChain ms' (readTag c.rest).2 after' ∧
          node = { (readModifiers (readTag c.rest).1 (readTag c.rest).2).1 with
            content := content, children := children } ∧
          html = node.html ∧
          node.attributes.lookup "style" =
            if ms'.filterMap Modifier.fragment? = [] then none
            else some (" ".intercalate (ms'.filterMap Modifier.fragment?)) := by
  obtain ⟨before, hb⟩ := hc.exists_between
  obtain ⟨ms, after, hs, hp, he⟩ := exists_chain c.rest
  rw [hs] at hb ⊢
  subst hb
  refine ⟨ms, after, .of_chainEnds hp he, he.mem_of_ne_nil, ?_, ?_, ?_⟩
  · rw [Cursor.readModifiers_between hp he, foldl_apply]
    simp [Cursor.between]
  · rintro ms₁ a b ms₂ rfl hab ⟨source, position⟩ hsource hposition
    obtain rfl : position = before.length := hposition
    obtain rfl : source = before ++ (chain (ms₁ ++ b :: a :: ms₂) ++ after) := by
      simpa using hsource
    exact Cursor.readModifiers_swap hp he hab before e
  · intro rules depth html h
    cases hr : readNode rules depth (chain ms ++ after) with
    | error fault => simp [Cursor.readNode, hr] at h
    | ok p =>
        obtain ⟨html', rest⟩ := p
        obtain rfl : html' = some html := by simpa [Cursor.readNode, hr] using h
        obtain ⟨head, after', children, hl, rfl⟩ := exists_head_of_readNode hr
        refine ⟨head.modifiers, head.contentText ++ after', head.contentHtml, children, _, ?_, ?_,
          rfl, head.lookup_style children⟩
        · rw [hl.readTag_eq]
          exact .of_chainEnds hl.spelled.modifiers hl.maximal.chain
        · rw [hl.readModifiers_readTag]
          rfl

/-- The cursor at a chain with a class, an action and an id before a content block. -/
def chainCursor : Cursor :=
  ⟨['^', '.', 'j', 'c', '!', 'g', 'o', '#', 'a', '{'], 1⟩

theorem readModifiers_longestChain_chainCursor :
    chainCursor.Within ∧ ∃ ms after,
      LongestChain ms ['.', 'j', 'c', '!', 'g', 'o', '#', 'a', '{'] after ∧
        (chainCursor.readModifiers {}).2 =
          { chainCursor with position := 1 + (chain ms).length } := by
  obtain ⟨ms, after, hl, -, hr, -⟩ := readModifiers_longestChain {} (c := chainCursor) (by decide)
  exact ⟨by decide, ms, after, hl, congrArg Prod.snd hr⟩

end TalPage.Markup
