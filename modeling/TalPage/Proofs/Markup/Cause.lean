import TalPage.Proofs.Markup.Lossless
import TalPage.Proofs.Markup.Strictness

/-!
# What a failure says of its text

Every element that is open stands at a bracket of the text and took it, so that depth is bounded by
the brackets read. A failure is at a place of the text where there is cause for it, and a lenient
reading of a document with a root and few brackets does not fail.
-/

namespace TalPage.Markup

variable {rules : Rules} {depth : Int} {st st' : State} {text : List Char}

/-! ## Places in a text -/

theorem Head.Leads.suffix {h : Head} {s rest : List Char} (hl : h.Leads s rest) : rest <:+ s :=
  ⟨h.text, hl.text.symm⟩

theorem Step.rest_suffix (h : Step rules depth st st') : st'.rest <:+ st.rest := by
  cases h with
  | skip | close => exact List.suffix_cons _ _
  | leaf hn hf hl hc hb => exact hl.suffix
  | branch hn hf hl => exact (List.suffix_cons _ _).trans hl.suffix

/-- The places of the state lie in the text, and each open element took a bracket before the text
that is left. -/
structure State.Inside (text : List Char) (st : State) : Prop where
  rest : st.rest <:+ text
  places : ∀ o ∈ st.top :: st.outer, o.place <:+ text ∧ o.place.head? = some '['
  brackets : st.outer.length + 1 + st.rest.count '[' ≤ text.count '['

theorem Step.inside (h : Step rules depth st st') (hi : st.Inside text) : st'.Inside text := by
  have hsuf := h.rest_suffix
  have hcount := hsuf.sublist.count_le '['
  obtain ⟨hr, hp, hb⟩ := hi
  have hr' := hsuf.trans hr
  cases h with
  | skip => exact ⟨hr', hp, by simp only at hb hcount ⊢; omega⟩
  | close =>
      obtain ⟨-, hpar, hout⟩ := by simpa only [List.forall_mem_cons] using hp
      refine ⟨hr', List.forall_mem_cons.2 ⟨hpar, hout⟩, ?_⟩
      simp only [List.length_cons] at hb hcount ⊢
      omega
  | leaf =>
      obtain ⟨htop, hout⟩ := List.forall_mem_cons.1 hp
      exact ⟨hr', List.forall_mem_cons.2 ⟨htop, hout⟩, by simp only at hb hcount ⊢; omega⟩
  | @branch top outer c s rest h hn hf hl =>
      have hlc : ('[' :: rest).count '[' ≤ (c :: s).count '[' := hl.suffix.sublist.count_le _
      refine ⟨hr', List.forall_mem_cons.2 ⟨⟨hl.suffix.trans hr, rfl⟩, hp⟩, ?_⟩
      rw [List.count_cons_self] at hlc
      simp only [List.length_cons] at hb ⊢
      omega

/-! ## Causes -/

/-- A fault of a reading that starts with `text` at `depth` lies in the text and has a cause there. -/
def Fault.Grounded (rules : Rules) (depth : Int) (text : List Char) (fault : Fault) : Prop :=
  fault.place <:+ text ∧
    match fault.cause with
    | .openContent => rules.strict = true ∧ ∃ s, fault.place = '{' :: s ∧ '}' ∉ s
    | .openChildren => rules.strict = true ∧ fault.place.head? = some '['
    | .tooDeep _ => (∃ c ∈ fault.place.head?, startsNode c = true) ∧
        rules.maxDepth + fault.place.count '[' < depth + text.count '['
    | .noRoot | .exhausted => False

theorem Head.Leads.grounded {h : Head} {s rest : List Char} {content : String}
    (hl : h.Leads s rest) (hs : rules.strict = true) (hc : h.content = some ⟨content, false⟩)
    (ht : s <:+ text) :
    Fault.Grounded rules depth text ⟨.openContent, '{' :: content.toList, []⟩ := by
  have hp : '{' :: content.toList <:+ s := by
    refine ⟨h.tag.toList ++ chain h.modifiers, ?_⟩
    rw [hl.text, hl.maximal.closed _ hc rfl]
    simp [Head.text, Head.contentText, hc, Content.written]
  exact ⟨hp.trans ht, hs, _, rfl, hl.spelled.content _ hc⟩

theorem Stops.grounded {fault : Fault} (h : Stops rules depth st (.error fault))
    (hi : st.Inside text) (hd : rules.maxDepth < depth + openLimit) :
    fault.Grounded rules depth text := by
  have hb := hi.brackets
  cases h with
  | openChildren hs =>
      obtain ⟨hp, hh⟩ := hi.places _ List.mem_cons_self
      exact ⟨hp, hs, hh⟩
  | tooDeep hn hl =>
      simp only at hb
      exact ⟨hi.rest, ⟨_, rfl, hn⟩, by simp only; omega⟩
  | exhausted hn hl he => omega
  | openContent hn hf hl hs hc => exact hl.grounded hs hc hi.rest

theorem Reads.grounded {fault : Fault} (hr : Reads rules depth st (.error fault))
    (hi : st.Inside text) (hd : rules.maxDepth < depth + openLimit) :
    fault.Grounded rules depth text := by
  generalize ho : Except.error fault = out at hr
  induction hr with
  | stop h =>
      subst ho
      exact h.grounded hi hd
  | step h _ ih => exact ih (h.inside hi) ho

theorem NodeReads.grounded {fault : Fault} (h : NodeReads rules depth text (.error fault))
    (hd : rules.maxDepth < depth + openLimit) : fault.Grounded rules depth text := by
  generalize ho : Except.error fault = result at h
  cases h with
  | atEnd | skip | leaf => cases ho
  | tooDeep hn hl =>
      cases ho
      exact ⟨List.suffix_rfl, ⟨_, rfl, hn⟩, by simp only; omega⟩
  | openContent hn hl hh hs hc =>
      cases ho
      exact hh.grounded hs hc List.suffix_rfl
  | @branch c s rest out h hn hl hh hr =>
      cases out with
      | ok result => cases ho
      | error fault' =>
          cases ho
          have hb : ('[' :: rest).count '[' ≤ (c :: s).count '[' := hh.suffix.sublist.count_le _
          rw [List.count_cons_self] at hb
          refine hr.grounded ⟨(List.suffix_cons _ _).trans hh.suffix, ?_, ?_⟩ hd
          · simpa using hh.suffix
          · simp only [List.length_nil]
            omega

/-! ## Positions -/

/-- What a failure at the position `p` says of the text that was read. -/
def Kind.HoldsAt (rules : Rules) (source : List Char) (p : Nat) : Kind → Prop
  | .missingRoot => rootMarker ∉ source ∧ p = source.length
  | .unterminatedContent =>
      rules.strict = true ∧ source[p]? = some '{' ∧ '}' ∉ source.drop (p + 1)
  | .unterminatedChildren => rules.strict = true ∧ source[p]? = some '['
  | .nestingTooDeep =>
      (∃ c ∈ source[p]?, (tagName? c).isSome = true ∨ c ∈ ['.', '!', '{', '[']) ∧
        rules.maxDepth ≤ (findRoot (source.take p)).count '['
  | .general => False

theorem findRoot_take_sublist (s : List Char) (p : Nat) :
    (findRoot (s.take p)).Sublist (findRoot s) := by
  have hs : findRoot s = findRoot (s.take p ++ s.drop p) := by rw [List.take_append_drop]
  rw [hs, findRoot, findRoot, List.dropWhile_append]
  split
  · rename_i he
    rw [List.isEmpty_iff.1 he]
    exact List.nil_sublist _
  · exact List.sublist_append_left _ _

/-- A fault of the reading that starts at the root is reported at a position where it has its cause. -/
theorem Fault.Grounded.holdsAt {fault : Fault} {before s : List Char}
    (hg : fault.Grounded rules 1 (rootMarker :: s)) (hb : rootMarker ∉ before) :
    ∃ p : Nat, (fault.report (before ++ rootMarker :: s)).position = p ∧
      fault.cause.kind.HoldsAt rules (before ++ rootMarker :: s) p := by
  obtain ⟨cause, place, rest⟩ := fault
  obtain ⟨⟨read, hread⟩, hc⟩ := hg
  simp only at hread hc
  have hroot : findRoot (before ++ read) = read := by
    rw [findRoot_append hb]
    cases read with
    | nil => rfl
    | cons c read =>
        obtain ⟨rfl, -⟩ := List.cons.inj hread
        simp [findRoot]
  have hlen : (before ++ rootMarker :: s).length = (before ++ read).length + place.length := by
    rw [← hread, ← List.append_assoc, List.length_append]
  refine ⟨(before ++ read).length, by simp only [Fault.report]; omega, ?_⟩
  have hat : (before ++ rootMarker :: s)[(before ++ read).length]? = place.head? := by
    rw [← hread, ← List.append_assoc, List.getElem?_append_right (Nat.le_refl _), Nat.sub_self,
      List.head?_eq_getElem?]
  cases cause with
  | noRoot | exhausted => exact hc.elim
  | openContent =>
      obtain ⟨hs, t, rfl, ht⟩ := hc
      refine ⟨hs, hat, ?_⟩
      rwa [← hread, ← List.append_assoc, List.drop_append, List.drop_eq_nil_of_le (by omega),
        List.nil_append, Nat.add_sub_cancel_left, List.drop_one]
  | openChildren => exact ⟨hc.1, hat.trans hc.2⟩
  | tooDeep =>
      obtain ⟨⟨c, hc', hn⟩, hcount⟩ := hc
      refine ⟨⟨c, hat ▸ hc', by simpa [startsNode] using hn⟩, ?_⟩
      rw [← hread, ← List.append_assoc, List.take_left, hroot]
      rw [← hread, List.count_append] at hcount
      omega

/-! ## Documents -/

theorem Head.html_of_root {h : Head} (ht : h.tag = some rootMarker) (inner : String) :
    ∃ s, h.html inner = "<main" ++ s ++ "</main>" := by
  have hn : h.tagName = "main" := by rw [Head.tagName, ht]; decide
  refine ⟨h.attributes ++ ">" ++ h.contentHtml ++ inner, ?_⟩
  rw [Head.html, hn, ← String.toList_inj]
  simp

theorem Node.html_of_root {n : Node} (ht : n.head.tag = some rootMarker) :
    ∃ s, n.html = "<main" ++ s ++ "</main>" := by
  cases n with
  | leaf h => exact Head.html_of_root ht _
  | branch h items closed => exact Head.html_of_root ht _

theorem holdsAt_of_parse_eq_error (hd : rules.maxDepth ≤ openLimit) {source : String} {fault : Fault}
    (hp : parse rules source = .error fault) :
    ∃ p : Nat, (fault.report source.toList).position = p ∧
      fault.cause.kind.HoldsAt rules source.toList p := by
  rcases cases_of_parse_eq_error hp with ⟨hr, rfl⟩ | ⟨before, root, hb, hs, hn⟩
  · exact ⟨source.toList.length, by simp [Fault.report], hr, rfl⟩
  · rw [hs]
    exact (hn.grounded (by omega)).holdsAt hb

theorem exists_html_of_parse_eq_ok {source html : String} (hp : parse rules source = .ok html) :
    ∃ inner, html = "<main" ++ inner ++ "</main>" := by
  obtain ⟨before, root, html', rest, -, hr, rfl⟩ := exists_of_parse_eq_ok hp
  obtain ⟨n, hl, -, rfl⟩ := exists_node (by decide) hr
  exact n.html_of_root hl.tag

/-- A failure has its cause at the position it reports: there is no root exactly if the text has no
marker, and an open block or an element too deep stands where it is said to. A lenient reading fails
for no other reason: a text with a root and fewer brackets than the limit is read. -/
theorem parse_fault_holds (rules : Rules) (hd : rules.maxDepth ≤ 256) (source : String) :
    ((∃ fault, parse rules source = .error fault ∧ fault.cause.kind = .missingRoot) ↔
      rootMarker ∉ source.toList) ∧
    (∀ fault, parse rules source = .error fault →
      ∃ p : Nat, (fault.report source.toList).position = p ∧
        fault.cause.kind.HoldsAt rules source.toList p) ∧
    (rules.strict = false → rootMarker ∈ source.toList →
      (findRoot source.toList).count '[' < rules.maxDepth →
      ∃ inner, parse rules source = .ok ("<main" ++ inner ++ "</main>")) := by
  have hh := @holdsAt_of_parse_eq_error rules (Int.le_trans hd (by decide)) source
  refine ⟨⟨?_, ?_⟩, fun fault => hh, ?_⟩
  · rintro ⟨fault, hp, hk⟩
    obtain ⟨p, -, ha⟩ := hh hp
    rw [hk] at ha
    exact ha.1
  · exact fun hr => ⟨_, readRoot_of_not_mem rules hr, rfl⟩
  · intro hs hr hlt
    cases hp : parse rules source with
    | ok html =>
        obtain ⟨inner, rfl⟩ := exists_html_of_parse_eq_ok hp
        exact ⟨inner, rfl⟩
    | error fault =>
        obtain ⟨p, -, ha⟩ := hh hp
        obtain ⟨limit, strict⟩ := rules
        obtain rfl : strict = false := hs
        rcases kind_of_parse_eq_error hp with hk | hk
        · rw [hk] at ha
          exact absurd hr ha.1
        · -- The brackets before the position are brackets after the root.
          rw [hk] at ha
          have hcount : (findRoot (source.toList.take p)).count '[' ≤
              (findRoot source.toList).count '[' := (findRoot_take_sublist _ p).count_le _
          have hle : limit ≤ (findRoot (source.toList.take p)).count '[' := ha.2
          simp only at hlt
          omega

/-- An open content block is a failure of a strict reading alone. -/
theorem parse_fault_holds_openContent :
    (∃ p : Nat, (Fault.report ⟨.openContent, ['{', 'a'], []⟩ "^[t\x7ba".toList).position = p ∧
      Kind.unterminatedContent.HoldsAt ⟨2, true⟩ "^[t\x7ba".toList p) ∧
    ∃ inner, parse { maxDepth := 2 } "^[t\x7ba" = .ok ("<main" ++ inner ++ "</main>") := by
  exact ⟨(parse_fault_holds ⟨2, true⟩ (by decide) _).2.1 _ parse_openContent,
    (parse_fault_holds { maxDepth := 2 } (by decide) _).2.2 rfl (by decide) (by decide)⟩

end TalPage.Markup
