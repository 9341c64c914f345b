import TalPage.Proofs.Markup.Head

/-!
# Steps of a reading

The reading of a list of children, one item at a time: what each step may do is said once, by the
syntax alone, and a reading is steps up to a stop. `readItems` gives the result of the one reading
there is.
-/

namespace TalPage.Markup

/-- The innermost open element, the elements around it, and the text left to read. -/
structure State where
  top : Open
  outer : List Open
  rest : List Char

/-- What a reading comes to: an element with the text left after it, or a fault. -/
abbrev Outcome := Except Fault (Element × List Char)

/-- The limits leave room for so many more levels of elements inside the open ones. -/
def Fits (rules : Rules) (depth : Int) (outer : List Open) (levels : Nat) : Prop :=
  depth + outer.length + levels ≤ rules.maxDepth ∧ outer.length + levels < openLimit

inductive Step (rules : Rules) (depth : Int) : State → State → Prop where
  | skip {top outer c s} (hb : c ≠ ']') (hn : startsNode c = false) :
      Step rules depth ⟨top, outer, c :: s⟩ ⟨top, outer, s⟩
  | close {top parent outer s} :
      Step rules depth ⟨top, parent :: outer, ']' :: s⟩ ⟨parent.add top.element, outer, s⟩
  | leaf {top outer c s rest} {h : Head} (hn : startsNode c = true) (hf : Fits rules depth outer 1)
      (hl : h.Leads (c :: s) rest) (hc : rules.strict = true → h.Closed)
      (hb : rest.head? ≠ some '[') :
      Step rules depth ⟨top, outer, c :: s⟩ ⟨top.add h.element, outer, rest⟩
  | branch {top outer c s rest} {h : Head} (hn : startsNode c = true)
      (hf : Fits rules depth outer 1) (hl : h.Leads (c :: s) ('[' :: rest)) :
      Step rules depth ⟨top, outer, c :: s⟩ ⟨⟨h.element, '[' :: rest⟩, top :: outer, rest⟩

inductive Stops (rules : Rules) (depth : Int) : State → Outcome → Prop where
  | closed {top s} : Stops rules depth ⟨top, [], ']' :: s⟩ (.ok (top.element, s))
  | truncated {top outer} (hs : rules.strict = false) :
      Stops rules depth ⟨top, outer, []⟩ (.ok (closeAll top outer, []))
  | openChildren {top outer} (hs : rules.strict = true) :
      Stops rules depth ⟨top, outer, []⟩ (.error ⟨.openChildren, top.place, []⟩)
  | tooDeep {top outer c s} (hn : startsNode c = true)
      (hd : rules.maxDepth < depth + outer.length + 1) :
      Stops rules depth ⟨top, outer, c :: s⟩ (.error ⟨.tooDeep rules.maxDepth, c :: s, c :: s⟩)
  | exhausted {top outer c s} (hn : startsNode c = true)
      (hd : depth + outer.length + 1 ≤ rules.maxDepth) (he : openLimit ≤ outer.length + 1) :
      Stops rules depth ⟨top, outer, c :: s⟩ (.error ⟨.exhausted, c :: s, c :: s⟩)
  | openContent {top outer c s rest text} {h : Head} (hn : startsNode c = true)
      (hf : Fits rules depth outer 1) (hl : h.Leads (c :: s) rest) (hs : rules.strict = true)
      (hc : h.content = some ⟨text, false⟩) :
      Stops rules depth ⟨top, outer, c :: s⟩ (.error ⟨.openContent, '{' :: text.toList, []⟩)

/-- A reading: steps up to a stop. -/
inductive Reads (rules : Rules) (depth : Int) : State → Outcome → Prop where
  | stop {st out} (h : Stops rules depth st out) : Reads rules depth st out
  | step {st st' out} (h : Step rules depth st st') (hr : Reads rules depth st' out) :
      Reads rules depth st out

/-! ## Characters -/

theorem startsNode_iff {c : Char} :
    startsNode c = true ↔ c ∈ ['^', 's', 'd', 't', 'h', 'b', '.', '!', '{', '['] := by
  have ht : (tagName? c).isSome = true ↔ c ∈ ['^', 's', 'd', 't', 'h', 'b'] := by
    rw [tagName?, List.lookup_eq_findSome?, List.findSome?_isSome_iff]
    simp [tags]
  rw [startsNode, Bool.or_eq_true, ht, decide_eq_true_iff]
  simp only [List.mem_cons, List.not_mem_nil, or_false, or_assoc]

theorem startsNode_eq_false_of_isBlank {c : Char} (h : Text.isBlank c = true) :
    startsNode c = false := by
  by_contra hn
  have hm := startsNode_iff.1 (by simpa using hn)
  have hb : ['^', 's', 'd', 't', 'h', 'b', '.', '!', '{', '['].all (!Text.isBlank ·) = true := by
    decide
  have hc := List.all_eq_true.1 hb c hm
  rw [h] at hc
  cases hc

theorem ne_of_startsNode {c : Char} (h : startsNode c = true) : c ≠ ']' := by
  rintro rfl
  cases h

/-! ## The loop -/

/-- The loop on a text that is not at its end. A blank is skipped like any other character that
starts no node. -/
theorem readItems_cons (rules : Rules) (depth : Int) (top : Open) (outer : List Open) (c : Char)
    (s : List Char) :
    readItems rules depth top outer (c :: s) =
      if c = ']' then
        match outer with
        | [] => (top.element, .ok s)
        | parent :: outer => readItems rules depth (parent.add top.element) outer s
      else if startsNode c = false then readItems rules depth top outer s
      else if rules.maxDepth < depth + outer.length + 1 then
        (outermost top outer, .error ⟨.tooDeep rules.maxDepth, c :: s, c :: s⟩)
      else if openLimit ≤ outer.length + 1 then
        (outermost top outer, .error ⟨.exhausted, c :: s, c :: s⟩)
      else
        match readHead rules (c :: s) with
        | (_, .error fault) => (outermost top outer, .error fault)
        | (head, .ok rest) =>
          match afterBracket? rest with
          | some rest' => readItems rules depth ⟨head, rest⟩ (top :: outer) rest'
          | none => readItems rules depth (top.add head) outer rest := by
  rw [readItems.eq_def]
  simp only
  split
  · rfl
  · by_cases hb : Text.isBlank c = true
    · simp [hb, startsNode_eq_false_of_isBlank hb]
    · by_cases hn : startsNode c = true
      · simp only [hb, hn, ↓reduceIte, ↓reduceDIte, Bool.true_eq_false, Bool.false_eq_true]
        split
        · rfl
        · split
          · rfl
          · split <;> rename_i heq <;> rw [heq]
            simp only
            split <;> rename_i heq' <;> rw [heq']
      · simp [hb, hn]

variable {rules : Rules} {depth : Int} {st st' : State} {out : Outcome}

/-- The result of the loop without the element that a fault leaves behind. -/
def outcome (result : Element × Except Fault (List Char)) : Outcome :=
  result.2.map fun rest => (result.1, rest)

theorem Fits.not_tooDeep {outer : List Open} (h : Fits rules depth outer 1) :
    ¬ rules.maxDepth < depth + outer.length + 1 ∧ ¬ openLimit ≤ outer.length + 1 :=
  ⟨Int.not_lt.2 h.1, Nat.not_le.2 h.2⟩

theorem Step.readItems_eq (h : Step rules depth st st') :
    readItems rules depth st.top st.outer st.rest =
      readItems rules depth st'.top st'.outer st'.rest := by
  cases h with
  | skip hb hn => simp [readItems_cons, hb, hn]
  | close => simp [readItems_cons]
  | leaf hn hf hl hc hb =>
      simp [readItems_cons, ne_of_startsNode hn, hn, hf.not_tooDeep, hl.readHead_of_closed hc,
        afterBracket?, hb]
  | branch hn hf hl =>
      simp [readItems_cons, ne_of_startsNode hn, hn, hf.not_tooDeep,
        hl.readHead_of_closed fun _ => hl.closed, afterBracket?]

theorem Stops.outcome_readItems (h : Stops rules depth st out) :
    outcome (readItems rules depth st.top st.outer st.rest) = out := by
  cases h with
  | closed => simp [readItems_cons, outcome, Except.map]
  | truncated hs => simp [readItems, hs, outcome, Except.map]
  | openChildren hs => simp [readItems, hs, outcome, Except.map]
  | tooDeep hn hd =>
      simp [readItems_cons, ne_of_startsNode hn, hn, hd, outcome, Except.map]
  | exhausted hn hd he =>
      simp [readItems_cons, ne_of_startsNode hn, hn, Int.not_lt.2 hd, he, outcome, Except.map]
  | openContent hn hf hl hs hc =>
      simp [readItems_cons, ne_of_startsNode hn, hn, hf.not_tooDeep, hl.readHead_of_open hs hc,
        outcome, Except.map]

/-- A reading comes to what the loop gives. -/
theorem Reads.outcome_readItems (h : Reads rules depth st out) :
    outcome (readItems rules depth st.top st.outer st.rest) = out := by
  induction h with
  | stop h => exact h.outcome_readItems
  | step h _ ih => rw [h.readItems_eq, ih]

/-- Every step takes characters from the text. -/
theorem Step.length_lt (h : Step rules depth st st') : st'.rest.length < st.rest.length := by
  cases h with
  | skip | close => simp
  | leaf hn hf hl hc hb =>
      exact length_readHead_lt hn (congrArg Prod.snd (hl.readHead_of_closed hc))
        (by simp [afterBracket?, hb])
  | branch hn hf hl =>
      have hlen := hl.length_le
      simp only [List.length_cons] at hlen ⊢
      omega

theorem step_or_stops (rules : Rules) (depth : Int) (st : State) :
    (∃ st', Step rules depth st st') ∨ ∃ out, Stops rules depth st out := by
  obtain ⟨top, outer, s⟩ := st
  cases s with
  | nil =>
      cases hs : rules.strict with
      | true => exact .inr ⟨_, .openChildren hs⟩
      | false => exact .inr ⟨_, .truncated hs⟩
  | cons c s =>
      by_cases hb : c = ']'
      · subst hb
        cases outer with
        | nil => exact .inr ⟨_, .closed⟩
        | cons parent outer => exact .inl ⟨_, .close⟩
      by_cases hn : startsNode c = true
      · by_cases hd : rules.maxDepth < depth + outer.length + 1
        · exact .inr ⟨_, .tooDeep hn hd⟩
        by_cases he : openLimit ≤ outer.length + 1
        · exact .inr ⟨_, .exhausted hn (Int.not_lt.1 hd) he⟩
        have hf : Fits rules depth outer 1 := ⟨Int.not_lt.1 hd, Nat.not_le.1 he⟩
        obtain ⟨h, rest, hl, hr⟩ := exists_leads_cases rules (c :: s)
        rcases hr with ⟨rest, rfl⟩ | ⟨hc, hb⟩ | ⟨hs, text, hc⟩
        · exact .inl ⟨_, .branch hn hf hl⟩
        · exact .inl ⟨_, .leaf hn hf hl hc hb⟩
        · exact .inr ⟨_, .openContent hn hf hl hs hc⟩
      · exact .inl ⟨_, .skip hb (by simpa using hn)⟩

theorem reads_readItems (rules : Rules) (depth : Int) (st : State) :
    Reads rules depth st (outcome (readItems rules depth st.top st.outer st.rest)) := by
  rcases step_or_stops rules depth st with ⟨st', hs⟩ | ⟨out, hs⟩
  · have := hs.length_lt
    rw [hs.readItems_eq]
    exact .step hs (reads_readItems rules depth st')
  · rw [hs.outcome_readItems]
    exact .stop hs
termination_by st.rest.length

theorem reads_iff :
    Reads rules depth st out ↔
      outcome (readItems rules depth st.top st.outer st.rest) = out :=
  ⟨Reads.outcome_readItems, fun h => h ▸ reads_readItems rules depth st⟩

end TalPage.Markup
