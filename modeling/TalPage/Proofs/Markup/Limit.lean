import TalPage.Proofs.Markup.Document

/-!
# Nesting limits

Under a greater limit a reading takes the steps it takes under a smaller one, up to an element that the
smaller one refuses. There it goes on. So it gives the same where no element was refused, and refuses an
element only further on in the text.
-/

namespace TalPage.Markup

variable {α β : Type} {rules : Rules} {strict : Bool} {limit limit' depth : Int} {st st' : State}

/-! ## Refused elements -/

/-- An element that is refused for its depth is refused by the limit, and starts in the last `n`
characters of the text. -/
def RefusesWithin (limit : Int) (n : Nat) (out : Except Fault α) : Prop :=
  ∀ fault, out = .error fault → fault.cause.kind = .nestingTooDeep →
    fault.cause = .tooDeep limit ∧ fault.place.length ≤ n

theorem RefusesWithin.mono {m n : Nat} {out : Except Fault α} (h : RefusesWithin limit m out)
    (hmn : m ≤ n) : RefusesWithin limit n out := by
  intro fault ho hk
  obtain ⟨hc, hp⟩ := h fault ho hk
  exact ⟨hc, hp.trans hmn⟩

theorem RefusesWithin.map {n : Nat} {out : Except Fault α} (h : RefusesWithin limit n out)
    (f : α → β) : RefusesWithin limit n (out.map f) := by
  cases out with
  | error fault =>
      intro fault' ho hk
      cases ho
      exact h fault rfl hk
  | ok a => intro fault ho; cases ho

theorem refusesWithin_ok (limit : Int) (n : Nat) (a : α) : RefusesWithin limit n (.ok a) := by
  intro fault ho
  cases ho

theorem refusesWithin_error {fault : Fault} (h : fault.cause.kind ≠ .nestingTooDeep) (limit : Int)
    (n : Nat) : RefusesWithin limit n (.error fault : Except Fault α) := by
  intro fault' ho hk
  cases ho
  exact absurd hk h

theorem Stops.refusesWithin {out : Outcome} (h : Stops rules depth st out)
    (hd : rules.maxDepth < depth + openLimit) :
    RefusesWithin rules.maxDepth st.rest.length out := by
  cases h with
  | closed | truncated => exact refusesWithin_ok _ _ _
  | openChildren | openContent => exact refusesWithin_error (by simp [Cause.kind]) _ _
  | tooDeep =>
      intro fault ho _
      cases ho
      exact ⟨rfl, Nat.le_refl _⟩
  | exhausted hn hl he => omega

theorem Reads.refusesWithin {out : Outcome} (hr : Reads rules depth st out)
    (hd : rules.maxDepth < depth + openLimit) :
    RefusesWithin rules.maxDepth st.rest.length out := by
  induction hr with
  | stop h => exact h.refusesWithin hd
  | step h _ ih => exact ih.mono h.length_lt.le

/-- Where the limits leave room for a node, only a later one is refused. -/
theorem Reads.refusesWithin_of_fits {top : Open} {outer : List Open} {c : Char} {s : List Char}
    {out : Outcome} (hr : Reads rules depth ⟨top, outer, c :: s⟩ out)
    (hd : rules.maxDepth < depth + openLimit) (hf : Fits rules depth outer 1) :
    RefusesWithin rules.maxDepth s.length out := by
  cases hr with
  | stop h =>
      cases h with
      | closed => exact refusesWithin_ok _ _ _
      | openContent => exact refusesWithin_error (by simp [Cause.kind]) _ _
      | tooDeep _ hl => exact absurd hl hf.not_tooDeep.1
      | exhausted _ _ he => exact absurd he hf.not_tooDeep.2
  | step h hr => exact (hr.refusesWithin hd).mono (Nat.le_of_lt_succ h.length_lt)

/-! ## Two limits -/

/-- The results of one text under two limits, the smaller one first. -/
inductive Deeper (limit limit' : Int) : Except Fault α → Except Fault α → Prop where
  | same {out} (h : ∀ fault, out = .error fault → fault.cause.kind ≠ .nestingTooDeep) :
      Deeper limit limit' out out
  | beyond {place rest out} {n : Nat} (hn : n < place.length) (h : RefusesWithin limit' n out) :
      Deeper limit limit' (.error ⟨.tooDeep limit, place, rest⟩) out

theorem Deeper.map {out out' : Except Fault α} (h : Deeper limit limit' out out') (f : α → β) :
    Deeper limit limit' (out.map f) (out'.map f) := by
  cases h with
  | same h =>
      refine .same ?_
      intro fault ho
      cases out with
      | error fault' => cases ho; exact h _ rfl
      | ok a => cases ho
  | beyond hn h => exact .beyond hn (h.map f)

theorem deeper_ok (limit limit' : Int) (a : α) : Deeper limit limit' (.ok a) (.ok a) :=
  .same (by simp)

theorem deeper_error {fault : Fault} (h : fault.cause.kind ≠ .nestingTooDeep) (limit limit' : Int) :
    Deeper limit limit' (.error fault : Except Fault α) (.error fault) :=
  .same (by simpa using h)

theorem Fits.limit_le {outer : List Open} {levels : Nat}
    (h : Fits ⟨limit, strict⟩ depth outer levels) (hle : limit ≤ limit') :
    Fits ⟨limit', strict⟩ depth outer levels :=
  ⟨Int.le_trans h.1 hle, h.2⟩

theorem Step.limit_le (h : Step ⟨limit, strict⟩ depth st st') (hle : limit ≤ limit') :
    Step ⟨limit', strict⟩ depth st st' := by
  cases h with
  | skip hb hn => exact .skip hb hn
  | close => exact .close
  | leaf hn hf hl hc hb => exact .leaf hn (hf.limit_le hle) hl hc hb
  | branch hn hf hl => exact .branch hn (hf.limit_le hle) hl

/-- The innermost open element is within the limit. -/
def State.Within (limit depth : Int) (st : State) : Prop :=
  depth + st.outer.length ≤ limit

theorem Step.within (h : Step ⟨limit, strict⟩ depth st st') (hw : st.Within limit depth) :
    st'.Within limit depth := by
  cases h with
  | skip | leaf => exact hw
  | close =>
      simp only [State.Within, List.length_cons] at hw ⊢
      omega
  | branch hn hf hl => simpa [State.Within, Int.add_assoc] using hf.1

/-- A stop under the smaller limit is one under the greater, or refuses an element that the greater
limit leaves room for. -/
theorem Stops.limit_lt {out : Outcome} (h : Stops ⟨limit, strict⟩ depth st out)
    (hw : st.Within limit depth) (hlt : limit < limit') (hd : limit' < depth + openLimit) :
    ∃ out', Reads ⟨limit', strict⟩ depth st out' ∧ Deeper limit limit' out out' := by
  cases h with
  | closed => exact ⟨_, .stop .closed, deeper_ok _ _ _⟩
  | truncated hs => exact ⟨_, .stop (.truncated hs), deeper_ok _ _ _⟩
  | openChildren hs =>
      exact ⟨_, .stop (.openChildren hs), deeper_error (by simp [Cause.kind]) _ _⟩
  | openContent hn hf hl hs hc =>
      exact ⟨_, .stop (.openContent hn (hf.limit_le (Int.le_of_lt hlt)) hl hs hc),
        deeper_error (by simp [Cause.kind]) _ _⟩
  | exhausted hn hl he => simp only at hl; omega
  | @tooDeep top outer c s hn hl =>
      have hf : Fits ⟨limit', strict⟩ depth outer 1 := by
        simp only [State.Within] at hw
        constructor
        · simp only; omega
        · omega
      have hr := reads_readItems ⟨limit', strict⟩ depth ⟨top, outer, c :: s⟩
      exact ⟨_, hr, .beyond (Nat.lt_succ_self s.length) (hr.refusesWithin_of_fits hd hf)⟩

theorem Reads.limit_lt {out : Outcome} (hr : Reads ⟨limit, strict⟩ depth st out)
    (hw : st.Within limit depth) (hlt : limit < limit') (hd : limit' < depth + openLimit) :
    ∃ out', Reads ⟨limit', strict⟩ depth st out' ∧ Deeper limit limit' out out' := by
  induction hr with
  | stop h => exact h.limit_lt hw hlt hd
  | step h _ ih =>
      obtain ⟨out', hr', ho⟩ := ih (h.within hw)
      exact ⟨out', .step (h.limit_le (Int.le_of_lt hlt)) hr', ho⟩

/-! ## Nodes -/

theorem NodeReads.refusesWithin {c : Char} {s : List Char}
    {result : Except Fault (Option String × List Char)} (h : NodeReads rules depth (c :: s) result)
    (hl : depth ≤ rules.maxDepth) (hd : rules.maxDepth < depth + openLimit) :
    RefusesWithin rules.maxDepth s.length result := by
  cases h with
  | skip | leaf => exact refusesWithin_ok _ _ _
  | tooDeep _ hl' => omega
  | openContent => exact refusesWithin_error (by simp [Cause.kind]) _ _
  | branch _ _ hh hr =>
      have hle := hh.length_le
      simp only [List.length_cons, Nat.add_le_add_iff_right] at hle
      exact ((hr.refusesWithin hd).mono hle).map _

theorem NodeReads.limit_lt {s : List Char} {result : Except Fault (Option String × List Char)}
    (h : NodeReads ⟨limit, strict⟩ depth s result) (hw : depth ≤ limit + 1) (hlt : limit < limit')
    (hd : limit' < depth + openLimit) :
    ∃ result', NodeReads ⟨limit', strict⟩ depth s result' ∧
      Deeper limit limit' result result' := by
  have hle := Int.le_of_lt hlt
  cases h with
  | atEnd => exact ⟨_, .atEnd, deeper_ok _ _ _⟩
  | skip hn => exact ⟨_, .skip hn, deeper_ok _ _ _⟩
  | leaf hn hl hh hc hb => exact ⟨_, .leaf hn (Int.le_trans hl hle) hh hc hb, deeper_ok _ _ _⟩
  | openContent hn hl hh hs hc =>
      exact ⟨_, .openContent hn (Int.le_trans hl hle) hh hs hc,
        deeper_error (by simp [Cause.kind]) _ _⟩
  | @tooDeep c s hn hl =>
      have h' := nodeReads_readNode ⟨limit', strict⟩ depth (c :: s)
      have hw' : depth ≤ limit' := by omega
      exact ⟨_, h', .beyond (Nat.lt_succ_self s.length) (h'.refusesWithin hw' hd)⟩
  | branch hn hl hh hr =>
      obtain ⟨out', hr', ho⟩ := hr.limit_lt (by simpa [State.Within] using hl) hlt hd
      exact ⟨_, .branch hn (Int.le_trans hl hle) hh hr', ho.map _⟩

/-! ## Documents -/

theorem deeper_parse (h0 : 0 ≤ limit) (hlt : limit < limit') (hd : limit' ≤ openLimit)
    (strict : Bool) (source : String) :
    Deeper limit limit' (parse ⟨limit, strict⟩ source) (parse ⟨limit', strict⟩ source) := by
  rcases parse_cases source with ⟨-, h⟩ | ⟨before, root, -, -, h⟩
  · rw [h, h]
    exact deeper_error (by simp [Cause.kind]) _ _
  · obtain ⟨result, hn, ho⟩ :=
      (nodeReads_readNode ⟨limit, strict⟩ 1 (rootMarker :: root)).limit_lt (by omega) hlt (by omega)
    rw [h, h, hn.readNode_eq]
    exact ho.map _

/-- A greater limit changes nothing where the smaller one refuses no element for its depth. Where
both refuse one, the greater limit gets further into the text, and each message names its limit. -/
theorem parse_limit_lt {limit limit' : Int} (h0 : 0 ≤ limit) (hlt : limit < limit')
    (hd : limit' ≤ 256) (strict : Bool) (source : String) :
    ((∀ fault, parse { maxDepth := limit, strict := strict } source = .error fault →
        fault.cause.kind ≠ .nestingTooDeep) →
      parse { maxDepth := limit', strict := strict } source =
        parse { maxDepth := limit, strict := strict } source) ∧
    ∀ fault fault', parse { maxDepth := limit, strict := strict } source = .error fault →
      parse { maxDepth := limit', strict := strict } source = .error fault' →
      fault.cause.kind = .nestingTooDeep → fault'.cause.kind = .nestingTooDeep →
      (fault.report source.toList).position < (fault'.report source.toList).position ∧
      (fault.report source.toList).message =
        "Nesting exceeds the limit of " ++ toString limit ++ " levels" ∧
      (fault'.report source.toList).message =
        "Nesting exceeds the limit of " ++ toString limit' ++ " levels" := by
  have h := deeper_parse h0 hlt (Int.le_trans hd (by decide)) strict source
  generalize parse ⟨limit, strict⟩ source = out at h ⊢
  generalize parse ⟨limit', strict⟩ source = out' at h ⊢
  cases h with
  | same h =>
      refine ⟨fun _ => rfl, ?_⟩
      intro fault _ ho _ hk
      exact absurd hk (h fault ho)
  | beyond hn h =>
      refine ⟨fun hk => absurd rfl (hk _ rfl), ?_⟩
      intro fault fault' ho ho' _ hk'
      cases ho
      obtain ⟨hc, hp⟩ := h fault' ho' hk'
      refine ⟨?_, rfl, by rw [Fault.report, hc]; rfl⟩
      simp only [Fault.report]
      omega

/-- Of three nested elements, a limit of one refuses the second and a limit of two the third. -/
theorem parse_limit_one_lt_two :
    parse { maxDepth := 1, strict := true } "^[d[t" =
      .error ⟨.tooDeep 1, ['d', '[', 't'], ['d', '[', 't']⟩ ∧
    parse { maxDepth := 2, strict := true } "^[d[t" = .error ⟨.tooDeep 2, ['t'], ['t']⟩ ∧
    (Fault.report ⟨.tooDeep 1, ['d', '[', 't'], ['d', '[', 't']⟩ "^[d[t".toList).position <
      (Fault.report ⟨.tooDeep 2, ['t'], ['t']⟩ "^[d[t".toList).position := by
  have hr : tagName? '^' = some "main" := by decide
  have hd : tagName? 'd' = some "div" := by decide
  have h₁ : parse { maxDepth := 1, strict := true } "^[d[t" =
      .error ⟨.tooDeep 1, ['d', '[', 't'], ['d', '[', 't']⟩ := by
    simp [parse, readRoot, findRoot, readNode, readChildren, readItems_cons, readHead, readTag,
      readModifiers, afterBracket?, startsNode, rootMarker, Except.map, Modifier.ofMarker?, hr, hd]
  have h₂ : parse { maxDepth := 2, strict := true } "^[d[t" =
      .error ⟨.tooDeep 2, ['t'], ['t']⟩ := by
    have ht : tagName? 't' = some "p" := by decide
    simp [parse, readRoot, findRoot, readNode, readChildren, readItems_cons, readHead, readTag,
      readModifiers, afterBracket?, startsNode, rootMarker, Except.map, Modifier.ofMarker?,
      openLimit, hr, hd, ht]
  exact ⟨h₁, h₂,
    ((parse_limit_lt (by decide) (by decide) (by decide) true _).2 _ _ h₁ h₂ rfl rfl).1⟩

end TalPage.Markup
