import TalPage.Proofs.Markup.Rendering

/-!
# Heads

Every text starts with exactly one head by longest match, and `readHead` reads that one. What a head
does to its element is said by its modifiers alone, so that the element is written as the HTML of
the head.
-/

namespace TalPage.Markup

/-! ## Tokens and modifiers -/

theorem readToken_append {token after : List Char} (hp : ∀ c ∈ token, isStructural c = false)
    (he : EndsToken after) : readToken (token ++ after) = (token, after) := by
  have hp' : ∀ c ∈ token, (!isStructural c) = true := fun c hc => by simp [hp c hc]
  rw [readToken, List.takeWhile_append_of_pos hp', List.dropWhile_append_of_pos hp']
  cases after with
  | nil => simp
  | cons c after =>
    have hc : isStructural c = true := he c rfl
    simp [hc]

theorem endsToken_dropWhile (s : List Char) : EndsToken (s.dropWhile (!isStructural ·)) := by
  intro c hc
  have h := List.head?_dropWhile_not (!isStructural ·) s
  rw [Option.mem_def.1 hc] at h
  simpa using h

theorem Modifier.ofMarker?_marker (m : Modifier) : ofMarker? m.marker m.name = some m := by
  cases m <;> rfl

theorem Modifier.ofMarker?_eq_some {c : Char} {name : String} {m : Modifier}
    (h : ofMarker? c name = some m) : m.marker = c ∧ m.name = name := by
  unfold ofMarker? at h
  split at h
  all_goals first | (cases h; exact ⟨rfl, rfl⟩) | cases h

theorem Modifier.ofMarker?_eq_none {c : Char} (hc : c ∉ ['.', '!', '#']) (name : String) :
    ofMarker? c name = none := by
  unfold ofMarker?
  split <;> simp_all

theorem Modifier.not_mem_of_ofMarker?_eq_none {c : Char} {name : String}
    (h : ofMarker? c name = none) : c ∉ ['.', '!', '#'] := by
  intro hc
  simp only [List.mem_cons, List.not_mem_nil, or_false] at hc
  rcases hc with rfl | rfl | rfl <;> cases h

/-- A chain of modifiers that ends where it is said to is read as a whole. -/
theorem readModifiers_chain {ms : List Modifier} {after : List Char} (hp : ∀ m ∈ ms, m.Plain)
    (he : ChainEnds ms after) (e : Element) :
    readModifiers e (chain ms ++ after) = (ms.foldl Element.apply e, after) := by
  induction ms generalizing e with
  | nil =>
    cases after with
    | nil => simp [readModifiers]
    | cons c after =>
      exact readModifiers_of_ofMarker?_eq_none (Modifier.ofMarker?_eq_none (he c rfl)) e after
  | cons m ms ih =>
    have ht := readToken_append (hp m (by simp)) he.1
    rw [chain_cons, Modifier.text, List.cons_append, List.cons_append, List.append_assoc,
      readModifiers, ht, String.ofList_toList, Modifier.ofMarker?_marker]
    exact ih (fun m' hm => hp m' (by simp [hm])) he.2 _

/-- Every text starts with a chain of modifiers by longest match. -/
theorem exists_chain (s : List Char) :
    ∃ ms after, s = chain ms ++ after ∧ (∀ m ∈ ms, m.Plain) ∧ ChainEnds ms after := by
  match s with
  | [] => exact ⟨[], [], rfl, by simp, by simp [ChainEnds]⟩
  | c :: s =>
    cases hm : Modifier.ofMarker? c (String.ofList (s.takeWhile (!isStructural ·))) with
    | none =>
      exact ⟨[], c :: s, rfl, by simp, by
        simpa [ChainEnds] using Modifier.not_mem_of_ofMarker?_eq_none hm⟩
    | some m =>
      obtain ⟨rfl, hn⟩ := Modifier.ofMarker?_eq_some hm
      have hlt : (s.dropWhile (!isStructural ·)).length < s.length + 1 :=
        Nat.lt_succ_of_le (List.dropWhile_sublist _).length_le
      obtain ⟨ms, after, hs, hp, he⟩ := exists_chain (s.dropWhile (!isStructural ·))
      refine ⟨m :: ms, after, ?_, ?_, ?_, he⟩
      · rw [chain_cons, Modifier.text, hn, String.toList_ofList, List.append_assoc, ← hs,
          List.cons_append, List.takeWhile_append_dropWhile]
      · intro m' hm'
        rcases List.mem_cons.1 hm' with rfl | hm'
        · intro c hc
          rw [hn, String.toList_ofList] at hc
          simpa using List.mem_takeWhile_imp hc
        · exact hp m' hm'
      · rw [← hs]
        exact endsToken_dropWhile s
termination_by s.length

/-! ## Content blocks -/

theorem readContent_closed {text : List Char} (ht : '}' ∉ text) (rules : Rules) (e : Element)
    (c : Char) (rest : List Char) :
    readContent rules e (c :: (text ++ '}' :: rest)) =
      ({ e with content := String.ofList text }, .ok rest) := by
  have hp : ∀ c ∈ text, (decide (c ≠ '}')) = true := by
    intro c hc
    have hne : c ≠ '}' := fun h => ht (h ▸ hc)
    simp [hne]
  simp only [readContent, List.drop_succ_cons, List.drop_zero]
  rw [List.takeWhile_append_of_pos hp, List.dropWhile_append_of_pos hp]
  simp

theorem readContent_open {text : List Char} (ht : '}' ∉ text) (rules : Rules) (e : Element)
    (c : Char) :
    readContent rules e (c :: text) =
      if rules.strict then (e, .error ⟨.openContent, c :: text, []⟩)
      else ({ e with content := String.ofList text }, .ok []) := by
  have hp : ∀ c ∈ text, (decide (c ≠ '}')) = true := by
    intro c hc
    have hne : c ≠ '}' := fun h => ht (h ▸ hc)
    simp [hne]
  simp only [readContent, List.drop_succ_cons, List.drop_zero]
  rw [List.dropWhile_eq_nil_iff.2 hp, List.takeWhile_eq_self_iff.2 hp]

/-! ## Heads -/

/-- The text `s` starts with the head `h`, which could not be read further, and `rest` comes after. -/
structure Head.Leads (h : Head) (s rest : List Char) : Prop where
  text : s = h.text ++ rest
  spelled : h.Spelled
  maximal : h.Maximal rest
  untagged : h.tag = none → ∀ c ∈ s.head?, tagName? c = none

theorem Head.Leads.length_le {h : Head} {s rest : List Char} (hl : h.Leads s rest) :
    rest.length ≤ s.length := by
  rw [hl.text, List.length_append]
  exact Nat.le_add_left _ _

theorem readTag_toList {tag : Option Char} {s : List Char} (ht : ∀ c ∈ tag, (tagName? c).isSome)
    (hn : tag = none → ∀ c ∈ s.head?, tagName? c = none) :
    readTag (tag.toList ++ s) = ({ tag := (tag.bind tagName?).getD defaultTag }, s) := by
  cases tag with
  | none =>
      cases s with
      | nil => rfl
      | cons c s => simp [readTag, hn rfl c rfl]
  | some c =>
      obtain ⟨tag, hc⟩ := Option.isSome_iff_exists.1 (ht c rfl)
      simp [readTag, hc]

theorem Head.Leads.readTag_eq {h : Head} {s rest : List Char} (hl : h.Leads s rest) :
    readTag s = ({ tag := h.tagName }, chain h.modifiers ++ (h.contentText ++ rest)) := by
  have hn : h.tag = none → ∀ c ∈ (chain h.modifiers ++ (h.contentText ++ rest)).head?,
      tagName? c = none := by
    intro ht c hc
    refine hl.untagged ht c ?_
    rw [hl.text, Head.text, ht]
    simpa using hc
  rw [hl.text, Head.text, List.append_assoc, List.append_assoc, readTag_toList hl.spelled.tag hn]
  rfl

/-- All of a head but its content is read in one way. -/
theorem Head.Leads.readModifiers_readTag {h : Head} {s rest : List Char} (hl : h.Leads s rest) :
    readModifiers (readTag s).1 (readTag s).2 =
      ({ h.element with content := "" }, h.contentText ++ rest) := by
  rw [hl.readTag_eq, ← h.foldl_apply_modifiers]
  exact readModifiers_chain hl.spelled.modifiers hl.maximal.chain _

theorem readHead_eq (rules : Rules) (s : List Char) :
    readHead rules s =
      if (readModifiers (readTag s).1 (readTag s).2).2.head? = some '{' then
        readContent rules (readModifiers (readTag s).1 (readTag s).2).1
          (readModifiers (readTag s).1 (readTag s).2).2
      else ((readModifiers (readTag s).1 (readTag s).2).1,
        .ok (readModifiers (readTag s).1 (readTag s).2).2) := rfl

/-- A head is read as a whole, unless a strict reading meets its missing brace. -/
theorem Head.Leads.readHead_of_closed {h : Head} {s rest : List Char} (hl : h.Leads s rest)
    {rules : Rules} (hc : rules.strict = true → h.Closed) :
    readHead rules s = (h.element, .ok rest) := by
  rw [readHead_eq, hl.readModifiers_readTag]
  cases hb : h.content with
  | none =>
      have he : h.element.content = "" := by simp [element, contentHtml, hb]
      have hr : rest.head? ≠ some '{' := hl.maximal.content hb
      simp [contentText, hb, hr, ← he]
  | some b =>
      obtain ⟨text, closed⟩ := b
      have he : h.element.content = text := by simp [element, contentHtml, hb]
      have ht : '}' ∉ text.toList := hl.spelled.content _ hb
      cases closed with
      | true =>
          have hr := readContent_closed ht rules { h.element with content := "" } '{' rest
          simpa [contentText, hb, Content.written, ← he] using hr
      | false =>
          have hs : rules.strict = false := by
            by_contra hs
            simpa using hc (by simpa using hs) _ hb
          have hr := readContent_open ht rules { h.element with content := "" } '{'
          rw [hl.maximal.closed _ hb rfl]
          simpa [contentText, hb, Content.written, hs, ← he] using hr

theorem Head.Leads.readHead_of_open {h : Head} {s rest : List Char} (hl : h.Leads s rest)
    {rules : Rules} (hs : rules.strict = true) {text : String} (hc : h.content = some ⟨text, false⟩) :
    readHead rules s =
      ({ h.element with content := "" }, .error ⟨.openContent, '{' :: text.toList, []⟩) := by
  have ht : '}' ∉ text.toList := hl.spelled.content _ hc
  have hr := readContent_open ht rules { h.element with content := "" } '{'
  rw [readHead_eq, hl.readModifiers_readTag, hl.maximal.closed _ hc rfl]
  simpa [contentText, hc, Content.written, hs] using hr

theorem exists_tag (s : List Char) :
    ∃ (tag : Option Char) (s' : List Char), s = tag.toList ++ s' ∧
      (∀ c ∈ tag, (tagName? c).isSome) ∧ (tag = none → ∀ c ∈ s.head?, tagName? c = none) := by
  cases s with
  | nil => exact ⟨none, [], rfl, by simp, by simp⟩
  | cons c s =>
      cases ht : tagName? c with
      | none => exact ⟨none, c :: s, rfl, by simp, by simp [ht]⟩
      | some tag => exact ⟨some c, s, rfl, by simp [ht], by simp⟩

theorem exists_content (s : List Char) :
    ∃ (content : Option Content) (rest : List Char),
      s = (content.map Content.written).getD [] ++ rest ∧
      (∀ b ∈ content, '}' ∉ b.text.toList) ∧ (content = none → rest.head? ≠ some '{') ∧
      ∀ b ∈ content, b.closed = false → rest = [] := by
  by_cases hh : s.head? = some '{'
  · obtain ⟨s, rfl⟩ := List.head?_eq_some_iff.1 hh
    by_cases hm : '}' ∈ s
    · obtain ⟨text, rest, rfl, ht⟩ := List.eq_append_cons_of_mem hm
      exact ⟨some ⟨String.ofList text, true⟩, rest, by simp [Content.written], by simpa using ht,
        by simp, by simp⟩
    · exact ⟨some ⟨String.ofList s, false⟩, [], by simp [Content.written], by simpa using hm,
        by simp, by simp⟩
  · exact ⟨none, s, by simp, by simp, fun _ => hh, by simp⟩

/-- Every text starts with a head by longest match. -/
theorem exists_leads (s : List Char) : ∃ (h : Head) (rest : List Char), h.Leads s rest := by
  obtain ⟨tag, s₁, hs, ht, hn⟩ := exists_tag s
  obtain ⟨ms, s₂, rfl, hp, he⟩ := exists_chain s₁
  obtain ⟨content, rest, rfl, hb, hc, hr⟩ := exists_content s₂
  refine ⟨⟨tag, ms, content⟩, rest, ?_, ⟨ht, hp, hb⟩, ⟨he, hc, hr⟩, hn⟩
  simp [hs, Head.text, Head.contentText]

/-- A head before more text is closed: only the end of the text stands in for its brace. -/
theorem Head.Leads.closed {h : Head} {s rest : List Char} {c : Char} (hl : h.Leads s (c :: rest)) :
    h.Closed := by
  intro b hb
  by_contra hc
  exact absurd (hl.maximal.closed b hb (by simpa using hc)) (by simp)

theorem Head.exists_of_not_closed {h : Head} (hc : ¬ h.Closed) :
    ∃ text, h.content = some ⟨text, false⟩ := by
  obtain ⟨b, hb⟩ := Classical.not_forall.1 hc
  obtain ⟨hb, hf⟩ := Classical.not_imp.1 hb
  obtain ⟨text, closed⟩ := b
  obtain rfl : closed = false := by simpa using hf
  exact ⟨text, hb⟩

/-- What comes after the head of a text: a list of children, something else, or the end of the text
in place of a brace that a strict reading asks for. -/
theorem exists_leads_cases (rules : Rules) (s : List Char) :
    ∃ (h : Head) (rest : List Char), h.Leads s rest ∧
      ((∃ rest', rest = '[' :: rest') ∨
        ((rules.strict = true → h.Closed) ∧ rest.head? ≠ some '[') ∨
        (rules.strict = true ∧ ∃ text, h.content = some ⟨text, false⟩)) := by
  obtain ⟨h, rest, hl⟩ := exists_leads s
  refine ⟨h, rest, hl, ?_⟩
  by_cases hr : rest.head? = some '['
  · exact .inl (List.head?_eq_some_iff.1 hr)
  by_cases hc : rules.strict = true → h.Closed
  · exact .inr (.inl ⟨hc, hr⟩)
  · obtain ⟨hs, hc⟩ := Classical.not_imp.1 hc
    exact .inr (.inr ⟨hs, h.exists_of_not_closed hc⟩)

/-! ## Closed heads -/

/-- A marker ends the token before it, so that a chain depends on the next character alone. -/
theorem chainEnds_iff {ms : List Modifier} {after : List Char} :
    ChainEnds ms after ↔
      (ms ≠ [] → EndsToken after) ∧ ∀ c ∈ after.head?, c ∉ ['.', '!', '#'] := by
  induction ms with
  | nil => simp [ChainEnds]
  | cons m ms ih =>
      rw [ChainEnds, ih, ← and_assoc]
      refine and_congr_left fun _ => ?_
      cases ms with
      | nil => simp
      | cons m' ms =>
          have he : EndsToken (chain (m' :: ms) ++ after) := by
            intro c hc
            obtain rfl : m'.marker = c := by simpa [Modifier.text] using hc
            cases m' <;> rfl
          exact ⟨fun h _ => h.2 (by simp), fun h => ⟨he, fun _ => h (by simp)⟩⟩

theorem chainEnds_of_head {after : List Char}
    (h : ∀ c ∈ after.head?, isStructural c = true ∧ c ∉ ['.', '!', '#']) (ms : List Modifier) :
    ChainEnds ms after :=
  chainEnds_iff.2 ⟨fun _ c hc => (h c hc).1, fun c hc => (h c hc).2⟩

theorem ChainEnds.of_head? {ms : List Modifier} {s s' : List Char} (h : ChainEnds ms s)
    (hs : s.head? = s'.head?) : ChainEnds ms s' := by
  rw [chainEnds_iff, EndsToken, hs] at h
  exact chainEnds_iff.2 h

/-- Of the text after it a head sees the first character only. -/
theorem Head.Maximal.of_head? {h : Head} {s s' : List Char} (hm : h.Maximal s)
    (hs : s.head? = s'.head?) : h.Maximal s' where
  chain := hm.chain.of_head? (by rw [List.head?_append, hs, ← List.head?_append])
  content hc := hs ▸ hm.content hc
  closed b hb hf := by
    have hn := hm.closed b hb hf
    rw [hn, List.head?_nil] at hs
    exact List.head?_eq_none_iff.1 hs.symm

theorem Head.Closed.maximal {h : Head} (hc : h.Closed) {after : List Char}
    (ha : ∀ c ∈ after.head?, c ∈ [']', '}', '[']) : h.Maximal after := by
  have hn : ∀ c ∈ [']', '}', '['], c ≠ '{' ∧ isStructural c = true ∧ c ∉ ['.', '!', '#'] := by
    simp [isStructural]
  refine ⟨?_, ?_, ?_⟩
  · refine chainEnds_of_head ?_ h.modifiers
    intro c hc
    cases hb : h.content with
    | none => exact (hn c (ha c (by simpa [contentText, hb] using hc))).2
    | some b =>
        obtain rfl : '{' = c := by simpa [contentText, hb, Content.written] using hc
        decide
  · intro _ h'
    exact (hn '{' (ha '{' h')).1 rfl
  · intro b hb hf
    simp [hc b hb] at hf

end TalPage.Markup
