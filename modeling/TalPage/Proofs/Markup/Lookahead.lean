import TalPage.Proofs.Markup.Progress

/-!
# What a reading looks at

A reading that stops before a character of the text has seen nothing after that character: two texts
that agree up to it are read in the same steps and stop at the same place. Of a document it does not
see what stands before the root either.
-/

namespace TalPage.Markup

variable {α β : Type} {rules : Rules} {depth : Int} {st st₁ st' : State} {c : Char}
variable {s s' u v rest : List Char} {out out' : Outcome}

/-! ## Heads before other texts -/

theorem head?_append_cons (u : List Char) (c : Char) (s s' : List Char) :
    (u ++ c :: s).head? = (u ++ c :: s').head? := by
  cases u <;> rfl

/-- A head before one text is a head before any that starts with the same character. -/
theorem Head.Leads.of_append {h : Head} (hl : h.Leads (u ++ c :: s) (v ++ c :: s)) (s' : List Char) :
    h.Leads (u ++ c :: s') (v ++ c :: s') where
  text := by
    have ht := hl.text
    rw [← List.append_assoc, List.append_left_inj] at ht
    rw [ht, List.append_assoc]
  spelled := hl.spelled
  maximal := hl.maximal.of_head? (head?_append_cons v c s s')
  untagged ht d hd := hl.untagged ht d (head?_append_cons u c s s' ▸ hd)

/-! ## Readings of two texts -/

/-- The texts left start alike and go on with `t` and `t'`, and the open elements hold the same. -/
structure State.Alike (t t' : List Char) (st st' : State) : Prop where
  top : st.top.element = st'.top.element
  outer : st.outer.map Open.element = st'.outer.map Open.element
  rest : ∃ u, st.rest = u ++ t ∧ st'.rest = u ++ t'

/-- Results that stop with `t` and `t'` left: the same successes, or the same refusals of what comes
next. -/
inductive StopsBefore (t t' : List Char) :
    Except Fault (α × List Char) → Except Fault (α × List Char) → Prop where
  | done (a) : StopsBefore t t' (.ok (a, t)) (.ok (a, t'))
  | refused (cause) : StopsBefore t t' (.error ⟨cause, t, t⟩) (.error ⟨cause, t', t'⟩)

theorem StopsBefore.rest_eq {t t' : List Char} {fault : Fault}
    {result : Except Fault (α × List Char)} (h : StopsBefore t t' (.error fault) result) :
    fault.rest = t := by
  generalize ho : Except.error fault = out at h
  cases h with
  | done => cases ho
  | refused cause => cases ho; rfl

theorem Open.element_add_congr {o o' : Open} {e e' : Element} (ho : o.element = o'.element)
    (he : e = e') : (o.add e).element = (o'.add e').element := by
  rw [add, add, ho, he]

theorem exists_cons_of_append {d : Char} (h : d :: rest = u ++ c :: s) (s' : List Char) :
    ∃ rest', u ++ c :: s' = d :: rest' := by
  cases u with
  | nil => exact ⟨s', by rw [(List.cons.inj h).1, List.nil_append]⟩
  | cons e u => exact ⟨u ++ c :: s', by rw [(List.cons.inj h).1, List.cons_append]⟩

theorem Fits.of_length_eq {outer outer' : List Open} {levels : Nat}
    (hf : Fits rules depth outer levels) (hl : outer.length = outer'.length) :
    Fits rules depth outer' levels := by
  rwa [Fits, ← hl]

theorem State.Alike.length_outer {t t' : List Char} (h : st.Alike t t' st') :
    st.outer.length = st'.outer.length := by
  simpa using congrArg List.length h.outer

/-- A step that leaves what the texts differ in to be read is one of both readings. -/
theorem Step.alike (h : Step rules depth st st₁) (hst : st.Alike (c :: s) (c :: s') st')
    (hs : c :: s <:+ st₁.rest) :
    ∃ st₁', Step rules depth st' st₁' ∧ st₁.Alike (c :: s) (c :: s') st₁' := by
  have hlen := hst.length_outer
  obtain ⟨top', outer', rest'⟩ := st'
  obtain ⟨htop, houter, u, hu, rfl⟩ := hst
  obtain ⟨v, hv⟩ := hs
  cases h with
  | @skip top outer d r hb hn =>
      obtain rfl : v ++ c :: s = r := hv
      obtain rfl : d :: v = u := (List.append_left_inj (c :: s)).1 hu
      exact ⟨_, .skip hb hn, htop, houter, v, rfl, rfl⟩
  | @close top parent outer r =>
      obtain rfl : v ++ c :: s = r := hv
      obtain rfl : ']' :: v = u := (List.append_left_inj (c :: s)).1 hu
      obtain ⟨parent', outer', rfl, hp, ho⟩ := List.map_eq_cons_iff.1 houter.symm
      exact ⟨_, .close, Open.element_add_congr hp.symm htop, ho.symm, v, rfl, rfl⟩
  | @leaf top outer d r rest h hn hf hl hc hb =>
      obtain rfl : v ++ c :: s = rest := hv
      obtain ⟨r', hr'⟩ := exists_cons_of_append hu s'
      rw [show d :: r = u ++ c :: s from hu] at hl
      have hl' := hl.of_append s'
      rw [hr'] at hl' ⊢
      exact ⟨_, .leaf hn (hf.of_length_eq hlen) hl' hc (head?_append_cons v c s s' ▸ hb),
        Open.element_add_congr htop rfl, houter, v, rfl, rfl⟩
  | @branch top outer d r rest h hn hf hl =>
      obtain rfl : v ++ c :: s = rest := hv
      obtain ⟨r', hr'⟩ := exists_cons_of_append hu s'
      rw [show d :: r = u ++ c :: s from hu] at hl
      have hl' := Head.Leads.of_append (v := '[' :: v) hl s'
      rw [hr'] at hl' ⊢
      exact ⟨_, .branch hn (hf.of_length_eq hlen) hl', rfl, congrArg₂ List.cons htop houter, v, rfl,
        rfl⟩

/-- The text that a reading leaves is the end of the text it started with. -/
theorem Reads.suffix_of_stopsBefore {t t' : List Char} (hr : Reads rules depth st out)
    (ho : StopsBefore t t' out out') : t <:+ st.rest := by
  induction hr with
  | stop h =>
      cases h with
      | closed => cases ho; exact List.suffix_cons _ _
      | tooDeep | exhausted => cases ho; exact List.suffix_rfl
      | truncated => cases ho; exact List.nil_suffix
      | openChildren | openContent =>
          obtain rfl := ho.rest_eq
          exact List.nil_suffix
  | step h _ ih => exact (ih ho).trans h.rest_suffix

theorem Stops.alike (h : Stops rules depth st out) (hst : st.Alike (c :: s) (c :: s') st')
    (ho : StopsBefore (c :: s) (c :: s') out out') : Stops rules depth st' out' := by
  have hlen := hst.length_outer
  obtain ⟨top', outer', rest'⟩ := st'
  obtain ⟨htop, houter, u, hu, rfl⟩ := hst
  cases h with
  | closed =>
      cases ho
      obtain rfl : [']'] = u := (List.append_left_inj (c :: s)).1 hu
      obtain rfl := List.map_eq_nil_iff.1 houter.symm
      simp only at htop
      rw [htop]
      exact .closed
  | tooDeep hn hd =>
      cases ho
      obtain rfl : [] = u := (List.append_left_inj (c :: s)).1 hu
      exact .tooDeep hn (by rwa [← hlen])
  | exhausted hn hd he =>
      cases ho
      obtain rfl : [] = u := (List.append_left_inj (c :: s)).1 hu
      exact .exhausted hn (by rwa [← hlen]) (by rwa [← hlen])
  | truncated => cases ho
  | openChildren | openContent => cases ho.rest_eq

theorem Reads.alike (hr : Reads rules depth st out) (hst : st.Alike (c :: s) (c :: s') st')
    (ho : StopsBefore (c :: s) (c :: s') out out') : Reads rules depth st' out' := by
  induction hr generalizing st' with
  | stop h => exact .stop (h.alike hst ho)
  | step h hr ih =>
      obtain ⟨st₁', h', hst₁⟩ := h.alike hst (hr.suffix_of_stopsBefore ho)
      exact .step h' (ih hst₁ ho)

/-! ## Nodes -/

theorem StopsBefore.of_map {t t' : List Char} {f : α → β} {out : Except Fault (α × List Char)}
    {result : Except Fault (β × List Char)}
    (h : StopsBefore t t' (out.map fun (a, rest) => (f a, rest)) result) :
    ∃ out', StopsBefore t t' out out' ∧ result = out'.map fun (a, rest) => (f a, rest) := by
  cases out with
  | ok p =>
      obtain ⟨a, rest⟩ := p
      cases h
      exact ⟨_, .done a, rfl⟩
  | error fault =>
      cases h
      exact ⟨_, .refused _, rfl⟩

theorem NodeReads.suffix_of_stopsBefore {t t' text : List Char}
    {result result' : Except Fault (Option String × List Char)}
    (h : NodeReads rules depth text result) (ho : StopsBefore t t' result result') :
    t <:+ text := by
  cases h with
  | atEnd => cases ho; exact List.suffix_rfl
  | skip => cases ho; exact List.suffix_cons _ _
  | tooDeep => cases ho; exact List.suffix_rfl
  | openContent =>
      obtain rfl := ho.rest_eq
      exact List.nil_suffix
  | leaf hn hd hl => cases ho; exact hl.suffix
  | branch hn hd hl hr =>
      obtain ⟨out', ho', rfl⟩ := StopsBefore.of_map (f := fun e : Element => some e.html) ho
      exact (hr.suffix_of_stopsBefore ho').trans ((List.suffix_cons _ _).trans hl.suffix)

/-- A node that stops before a character is read in the same way from any text that goes on otherwise
after it. -/
theorem NodeReads.of_append {result result' : Except Fault (Option String × List Char)}
    (h : NodeReads rules depth (u ++ c :: s) result)
    (ho : StopsBefore (c :: s) (c :: s') result result') :
    NodeReads rules depth (u ++ c :: s') result' := by
  generalize ht : u ++ c :: s = t at h
  cases h with
  | atEnd => simp at ht
  | @skip d r hn =>
      cases ho
      obtain rfl : u = [d] := (List.append_left_inj (c :: s)).1 ht
      exact .skip hn
  | tooDeep hn hd =>
      cases ho
      obtain rfl : u = [] := (List.append_left_inj (c :: s)).1 ht
      exact .tooDeep hn hd
  | openContent => cases ho
  | leaf hn hd hl hc hb =>
      cases ho
      obtain ⟨r', hr'⟩ := exists_cons_of_append ht.symm s'
      rw [← ht] at hl
      have hl' := Head.Leads.of_append (v := []) hl s'
      rw [hr'] at hl' ⊢
      exact .leaf hn hd hl' hc hb
  | @branch d r rest out h hn hd hl hr =>
      obtain ⟨out', ho', rfl⟩ := StopsBefore.of_map (f := fun e : Element => some e.html) ho
      obtain ⟨v, rfl⟩ := hr.suffix_of_stopsBefore ho'
      obtain ⟨r', hr'⟩ := exists_cons_of_append ht.symm s'
      rw [← ht] at hl
      have hl' := Head.Leads.of_append (v := '[' :: v) hl s'
      rw [hr'] at hl' ⊢
      exact .branch hn hd hl' (hr.alike ⟨rfl, rfl, v, rfl, rfl⟩ ho')

theorem readNode_of_append {result result' : Except Fault (Option String × List Char)}
    (h : readNode rules depth (u ++ c :: s) = result)
    (ho : StopsBefore (c :: s) (c :: s') result result') :
    readNode rules depth (u ++ c :: s') = result' :=
  NodeReads.readNode_eq ((h ▸ nodeReads_readNode rules depth _).of_append ho)

/-! ## Cursors -/

theorem exists_append_of_take_eq {read source : List Char}
    (h : source.take (read.length + 1) = (read ++ c :: s).take (read.length + 1)) :
    ∃ s', source = read ++ c :: s' := by
  have ht : (read ++ c :: s).take (read.length + 1) = read ++ [c] := by
    rw [List.take_length_add_append]
    rfl
  refine ⟨source.drop (read.length + 1), ?_⟩
  calc source = source.take (read.length + 1) ++ source.drop (read.length + 1) :=
        (List.take_append_drop _ _).symm
    _ = read ++ c :: source.drop (read.length + 1) := by
        rw [h, ht, List.append_assoc, List.singleton_append]

namespace Cursor

theorem readNode_of_refused {before t : List Char} {cause : Cause}
    (ht : Markup.readNode rules depth (u ++ t) = .error ⟨cause, t, t⟩) :
    (between before (u ++ t)).readNode rules depth =
      (.error ⟨cause.kind, cause.message, (before ++ u).length⟩, between (before ++ u) t) := by
  rw [readNode_of_error ht rfl, report_append before u ⟨cause, t, t⟩]

/-- A reading that stops before a character of the text comes to the same whatever follows that
character. -/
theorem exists_stop {before text : List Char} {result : Except Report (Option String)} {e : Cursor}
    (hr : (between before text).readNode rules depth = (result, e))
    (he : e.position < (before ++ text).length) :
    ∃ u c s, text = u ++ c :: s ∧ e = between (before ++ u) (c :: s) ∧ ∀ s',
      (between before (u ++ c :: s')).readNode rules depth =
        (result, between (before ++ u) (c :: s')) := by
  have h := nodeReads_readNode rules depth text
  cases ht : Markup.readNode rules depth text with
  | ok p =>
      obtain ⟨html, rest⟩ := p
      rw [ht] at h
      obtain ⟨u, rfl⟩ := h.suffix_of_stopsBefore (.done html : StopsBefore rest rest _ _)
      rw [readNode_of_ok ht rfl] at hr
      cases hr
      cases rest with
      | nil => simp at he
      | cons c s =>
          exact ⟨u, c, s, rfl, rfl, fun s' =>
            readNode_of_ok (Markup.readNode_of_append ht (.done html)) rfl⟩
  | error fault =>
      rw [ht] at h
      cases h.halts with
      | unterminated hc =>
          rw [readNode_of_error ht (List.append_nil _).symm] at hr
          cases hr
          simp at he
      | @refused cause c s hc =>
          obtain ⟨u, rfl⟩ := h.suffix_of_stopsBefore
            (.refused cause : StopsBefore (c :: s) (c :: s) _ _)
          rw [readNode_of_refused ht] at hr
          cases hr
          exact ⟨u, c, s, rfl, rfl, fun s' =>
            readNode_of_refused (Markup.readNode_of_append ht (.refused cause))⟩

/-- A refused element stands in the text, where the cursor stops. -/
theorem position_of_refused {before text : List Char} {report : Report} {e : Cursor}
    (hr : (between before text).readNode rules depth = (.error report, e))
    (hk : report.kind = .nestingTooDeep) :
    e.position = report.position ∧ e.position < (before ++ text).length := by
  have h := nodeReads_readNode rules depth text
  cases ht : Markup.readNode rules depth text with
  | ok p => simp [readNode, ht] at hr
  | error fault =>
      rw [ht] at h
      cases h.halts with
      | unterminated hc =>
          rw [readNode_of_error ht (List.append_nil _).symm] at hr
          cases hr
          rcases hc with rfl | rfl <;> cases hk
      | @refused cause c s hc =>
          obtain ⟨u, rfl⟩ := h.suffix_of_stopsBefore
            (.refused cause : StopsBefore (c :: s) (c :: s) _ _)
          rw [readNode_of_refused ht] at hr
          cases hr
          refine ⟨rfl, ?_⟩
          simp only [position_between, List.length_append, List.length_cons]
          omega

theorem readNode_of_take_eq {before text source : List Char}
    {result : Except Report (Option String)} {e : Cursor}
    (hr : (between before text).readNode rules depth = (result, e))
    (he : e.position < (before ++ text).length)
    (hs : source.take (e.position.toNat + 1) = (before ++ text).take (e.position.toNat + 1)) :
    readNode rules depth ⟨source, before.length⟩ = (result, ⟨source, e.position⟩) := by
  obtain ⟨u, c, s, rfl, rfl, h⟩ := exists_stop hr he
  rw [position_between, Int.toNat_natCast, ← List.append_assoc] at hs
  obtain ⟨s', rfl⟩ := exists_append_of_take_eq hs
  have h' := h s'
  simp only [between, ← List.append_assoc] at h'
  exact h'

theorem toRoot_of_not_mem {source : List Char} (hr : rootMarker ∉ source) :
    toRoot ⟨source, 0⟩ = between source [] := by
  simp [toRoot, rest, withRest, between, findRoot_of_not_mem hr]

theorem toRoot_append {before : List Char} (hb : rootMarker ∉ before) (s : List Char) :
    toRoot ⟨before ++ rootMarker :: s, 0⟩ = between before (rootMarker :: s) := by
  have hf : findRoot (before ++ rootMarker :: s) = rootMarker :: s := by
    rw [findRoot_append hb]
    simp [findRoot]
  have hw := withRest_between [] before (rootMarker :: s)
  rwa [toRoot, rest, Int.toNat_zero, List.drop_zero, hf]

/-- A document is read from its root marker on. -/
theorem parse_of_readNode {source : String} {before s : List Char} {html : Option String}
    {e : Cursor} (hs : source.toList = before ++ rootMarker :: s) (hb : rootMarker ∉ before)
    (h : (between before (rootMarker :: s)).readNode rules 1 = (.ok html, e)) :
    parse rules source = .ok (html.getD "") := by
  rw [parse, hs, readRoot_append rules hb]
  cases hr : Markup.readNode rules 1 (rootMarker :: s) with
  | ok p =>
      simp only [readNode, rest_between, hr, Prod.mk.injEq, Except.ok.injEq] at h
      simp only [Except.map, h.1]
  | error fault => simp [readNode, hr] at h

theorem parse_of_take_eq {source source' : String} {html : Option String} {e : Cursor}
    (hr : (toRoot ⟨source.toList, 0⟩).readNode rules 1 = (.ok html, e))
    (he : e.position < source.length)
    (hs : source'.toList.take (e.position.toNat + 1) = source.toList.take (e.position.toNat + 1)) :
    parse rules source = .ok (html.getD "") ∧ parse rules source' = parse rules source := by
  rw [← String.length_toList] at he
  rcases readRoot_cases source.toList with hn | ⟨before, root, hb, hsrc⟩
  · rw [toRoot_of_not_mem hn, readNode_between_nil] at hr
    cases hr
    simp at he
  · rw [hsrc, toRoot_append hb] at hr
    rw [hsrc] at he hs
    obtain ⟨u, c, s, hu, rfl, h⟩ := exists_stop hr he
    rw [position_between, Int.toNat_natCast, hu, ← List.append_assoc] at hs
    obtain ⟨s', hs'⟩ := exists_append_of_take_eq hs
    -- The root marker is among the characters that the texts have in common.
    obtain ⟨root', hroot⟩ := exists_cons_of_append hu s'
    rw [List.append_assoc, hroot] at hs'
    have hr' := h s'
    rw [hroot] at hr'
    have hp := parse_of_readNode hsrc hb hr
    exact ⟨hp, (parse_of_readNode hs' hb hr').trans hp.symm⟩

end Cursor

/-- A node is read without a look at anything past the first character after it. Where the reading
stops before the end of the text, or refuses an element, any text that agrees with this one up to and
including that character is read in the same way. So a document whose root ends before its end is read
as it is whatever else follows that character. -/
theorem readNode_lookahead (rules : Rules) (depth : Int) {c : Cursor} (hc : c.Within) :
    (∀ html e, c.readNode rules depth = (.ok html, e) → e.position < c.source.length →
      ∀ source, source.take (e.position.toNat + 1) = c.source.take (e.position.toNat + 1) →
        Cursor.readNode rules depth ⟨source, c.position⟩ = (.ok html, ⟨source, e.position⟩)) ∧
    (∀ report e, c.readNode rules depth = (.error report, e) → report.kind = .nestingTooDeep →
      ∀ source, source.take (report.position.toNat + 1) =
          c.source.take (report.position.toNat + 1) →
        Cursor.readNode rules depth ⟨source, c.position⟩ = (.error report, ⟨source, e.position⟩)) ∧
    ∀ (doc : String) html e,
      (Cursor.toRoot ⟨doc.toList, 0⟩).readNode rules 1 = (.ok html, e) → e.position < doc.length →
      ∀ doc' : String,
        doc'.toList.take (e.position.toNat + 1) = doc.toList.take (e.position.toNat + 1) →
        parse rules doc = .ok (html.getD "") ∧ parse rules doc' = parse rules doc := by
  obtain ⟨before, hb⟩ := hc.exists_between
  generalize c.rest = text at hb
  subst hb
  refine ⟨?_, ?_, ?_⟩
  · intro html e hr he source hs
    exact Cursor.readNode_of_take_eq hr he hs
  · intro report e hr hk source hs
    obtain ⟨hp, he⟩ := Cursor.position_of_refused hr hk
    rw [← hp] at hs
    exact Cursor.readNode_of_take_eq hr he hs
  · intro doc html e hr he doc' hs
    exact Cursor.parse_of_take_eq hr he hs

/-- The cursor at a root that ends before its text does. -/
def closedCursor : Cursor :=
  ⟨['^', '[', 't', '{', 'a', '}', ']', 'x', 'y'], 0⟩

theorem readNode_closedCursor :
    closedCursor.readNode ⟨2, true⟩ 1 =
      (.ok (some "<main><p>a</p></main>"), ⟨closedCursor.source, 7⟩) := by
  have hr : tagName? '^' = some "main" := by decide
  have ht : tagName? 't' = some "p" := by decide
  simp [closedCursor, Cursor.readNode, Cursor.rest, Cursor.withRest, readNode, readChildren,
    readItems_cons, readHead, readTag, readModifiers, readContent, afterBracket?, startsNode,
    Modifier.ofMarker?, openLimit, hr, ht]
  decide

theorem readNode_lookahead_closedCursor :
    closedCursor.Within ∧
      Cursor.readNode ⟨2, true⟩ 1 ⟨['^', '[', 't', '{', 'a', '}', ']', 'x'], 0⟩ =
        (.ok (some "<main><p>a</p></main>"), ⟨['^', '[', 't', '{', 'a', '}', ']', 'x'], 7⟩) :=
  ⟨by decide, (readNode_lookahead ⟨2, true⟩ 1 (c := closedCursor) (by decide)).1 _ _
    readNode_closedCursor (by decide) _ (by decide)⟩

/-! ## Before the root -/

/-- What stands before the root marker moves the positions of failures and changes nothing else. -/
theorem parse_append (rules : Rules) {before : String} (hb : rootMarker ∉ before.toList)
    (source : String) :
    (∀ html, parse rules (before ++ source) = .ok html ↔ parse rules source = .ok html) ∧
    ∀ fault fault', parse rules (before ++ source) = .error fault →
      parse rules source = .error fault' →
      (fault.report (before ++ source).toList).kind = (fault'.report source.toList).kind ∧
      (fault.report (before ++ source).toList).message = (fault'.report source.toList).message ∧
      (fault.report (before ++ source).toList).position =
        (fault'.report source.toList).position + before.length := by
  have hp : parse rules (before ++ source) = parse rules source := by
    rw [parse, String.toList_append, readRoot, findRoot_append hb, parse, readRoot]
  refine ⟨fun html => by rw [hp], ?_⟩
  intro fault fault' h h'
  rw [hp, h'] at h
  cases h
  refine ⟨rfl, rfl, ?_⟩
  simp only [Fault.report, String.toList_append, List.length_append, String.length_toList]
  omega

/-- A block before the root with characters that start nodes and close them. -/
theorem parse_append_openContent :
    parse { maxDepth := 2, strict := true } ("[d] " ++ "^[t\x7ba") =
      .error ⟨.openContent, ['{', 'a'], []⟩ ∧
    (Fault.report ⟨.openContent, ['{', 'a'], []⟩ ("[d] " ++ "^[t\x7ba").toList).position =
      (Fault.report ⟨.openContent, ['{', 'a'], []⟩ "^[t\x7ba".toList).position + 4 := by
  have hr : tagName? '^' = some "main" := by decide
  have ht : tagName? 't' = some "p" := by decide
  have h : parse { maxDepth := 2, strict := true } ("[d] " ++ "^[t\x7ba") =
      .error ⟨.openContent, ['{', 'a'], []⟩ := by
    simp [parse, readRoot, findRoot, readNode, readChildren, readItems_cons, readHead, readTag,
      readModifiers, readContent, afterBracket?, startsNode, rootMarker, Except.map,
      Modifier.ofMarker?, openLimit, hr, ht]
  have hb : rootMarker ∉ "[d] ".toList := by decide
  exact ⟨h, ((parse_append _ hb _).2 _ _ h parse_openContent).2.2⟩

end TalPage.Markup
