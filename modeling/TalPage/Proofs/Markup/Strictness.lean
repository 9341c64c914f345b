import TalPage.Proofs.Markup.Document

/-!
# Strict readings

A strict reading takes the steps of a lenient one until a bracket turns out to be missing, which only
happens at the end of the text. No element is refused for its depth there, so that a strict reading
gives what the lenient one gives or refuses a success for an open bracket.
-/

namespace TalPage.Markup

variable {α β : Type} {limit depth : Int} {st st' : State}

/-- The cause is a bracket that is missing. -/
def Cause.Unterminated (cause : Cause) : Prop :=
  cause = .openContent ∨ cause = .openChildren

/-- The results of a lenient and a strict reading of one text. -/
inductive Stricter : Except Fault α → Except Fault α → Prop where
  | same {out} : Stricter out out
  | refused {a fault} (hc : fault.cause.Unterminated) : Stricter (.ok a) (.error fault)

theorem Stricter.map {out out' : Except Fault α} (h : Stricter out out') (f : α → β) :
    Stricter (out.map f) (out'.map f) := by
  cases h with
  | same => exact .same
  | refused hc => exact .refused hc

theorem Stricter.lenient_eq_ok {out out' : Except Fault α} (h : Stricter out out') {a : α}
    (ha : out' = .ok a) : out = .ok a := by
  cases h with
  | same => exact ha
  | refused => cases ha

/-! ## Lists of children -/

/-- A lenient step is a strict one, or reads a content block that is open at the end of the text. -/
theorem Step.strict (h : Step ⟨limit, false⟩ depth st st') :
    Step ⟨limit, true⟩ depth st st' ∨
      st'.rest = [] ∧ ∃ fault, fault.cause = .openContent ∧
        Stops ⟨limit, true⟩ depth st (.error fault) := by
  cases h with
  | skip hb hn => exact .inl (.skip hb hn)
  | close => exact .inl .close
  | @leaf _ _ _ _ _ h hn hf hl _ hb =>
      by_cases hc : h.Closed
      · exact .inl (.leaf hn hf hl (fun _ => hc) hb)
      · obtain ⟨text, hc⟩ := h.exists_of_not_closed hc
        exact .inr ⟨hl.maximal.closed _ hc rfl, _, rfl, .openContent hn hf hl rfl hc⟩
  | branch hn hf hl => exact .inl (.branch hn hf hl)

theorem Step.lenient (h : Step ⟨limit, true⟩ depth st st') : Step ⟨limit, false⟩ depth st st' := by
  cases h with
  | skip hb hn => exact .skip hb hn
  | close => exact .close
  | leaf hn hf hl _ hb => exact .leaf hn hf hl (by simp) hb
  | branch hn hf hl => exact .branch hn hf hl

/-- A lenient reading never fails at the end of the text. -/
theorem Reads.exists_ok {out : Outcome} (hr : Reads ⟨limit, false⟩ depth st out)
    (he : st.rest = []) : ∃ result, out = .ok result := by
  cases hr with
  | stop h =>
      cases h with
      | closed | tooDeep | exhausted | openContent => cases he
      | truncated => exact ⟨_, rfl⟩
      | openChildren hs => cases hs
  | step h => cases h <;> cases he

theorem Reads.strict {out : Outcome} (hr : Reads ⟨limit, false⟩ depth st out) :
    ∃ out', Reads ⟨limit, true⟩ depth st out' ∧ Stricter out out' := by
  induction hr with
  | stop h =>
      cases h with
      | closed => exact ⟨_, .stop .closed, .same⟩
      | truncated => exact ⟨_, .stop (.openChildren rfl), .refused (.inr rfl)⟩
      | openChildren hs | openContent _ _ _ hs => cases hs
      | tooDeep hn hd => exact ⟨_, .stop (.tooDeep hn hd), .same⟩
      | exhausted hn hd he => exact ⟨_, .stop (.exhausted hn hd he), .same⟩
  | step h hr ih =>
      rcases h.strict with h | ⟨he, fault, hc, hs⟩
      · obtain ⟨out', hr', ho⟩ := ih
        exact ⟨out', .step h hr', ho⟩
      · -- The text is at its end, where no depth can be exceeded any more.
        obtain ⟨result, rfl⟩ := hr.exists_ok he
        exact ⟨_, .stop hs, .refused (.inl hc)⟩

theorem Reads.cause {rules : Rules} {fault : Fault} (hr : Reads rules depth st (.error fault))
    (hs : rules.strict = false) : fault.cause.kind = .nestingTooDeep := by
  generalize ho : Except.error fault = out at hr
  induction hr with
  | stop h =>
      cases h with
      | closed | truncated => cases ho
      | tooDeep | exhausted => cases ho; rfl
      | openChildren hs' | openContent _ _ _ hs' => rw [hs] at hs'; cases hs'
  | step _ _ ih => exact ih ho

/-! ## Nodes -/

theorem NodeReads.strict {s : List Char} {result : Except Fault (Option String × List Char)}
    (h : NodeReads ⟨limit, false⟩ depth s result) :
    ∃ result', NodeReads ⟨limit, true⟩ depth s result' ∧ Stricter result result' := by
  cases h with
  | atEnd => exact ⟨_, .atEnd, .same⟩
  | skip hn => exact ⟨_, .skip hn, .same⟩
  | tooDeep hn hd => exact ⟨_, .tooDeep hn hd, .same⟩
  | openContent _ _ _ hs => cases hs
  | @leaf _ _ _ h hn hd hl _ hb =>
      by_cases hc : h.Closed
      · exact ⟨_, .leaf hn hd hl (fun _ => hc) hb, .same⟩
      · obtain ⟨text, hc⟩ := h.exists_of_not_closed hc
        exact ⟨_, .openContent hn hd hl rfl hc, .refused (.inl rfl)⟩
  | branch hn hd hl hr =>
      obtain ⟨out', hr', ho⟩ := hr.strict
      exact ⟨_, .branch hn hd hl hr', ho.map _⟩

theorem stricter_readNode (limit depth : Int) (s : List Char) :
    Stricter (readNode ⟨limit, false⟩ depth s) (readNode ⟨limit, true⟩ depth s) := by
  obtain ⟨result, h, ho⟩ := (nodeReads_readNode ⟨limit, false⟩ depth s).strict
  rwa [h.readNode_eq]

theorem NodeReads.cause {rules : Rules} {s : List Char} {fault : Fault}
    (h : NodeReads rules depth s (.error fault)) (hs : rules.strict = false) :
    fault.cause.kind = .nestingTooDeep := by
  generalize ho : Except.error fault = result at h
  cases h with
  | atEnd | skip | leaf => cases ho
  | tooDeep => cases ho; rfl
  | openContent _ _ _ hs' => rw [hs] at hs'; cases hs'
  | @branch _ _ _ out _ _ _ _ hr =>
      cases out with
      | error fault' => cases ho; exact hr.cause hs
      | ok result => cases ho

/-! ## Documents -/

theorem stricter_parse (limit : Int) (source : String) :
    Stricter (parse ⟨limit, false⟩ source) (parse ⟨limit, true⟩ source) := by
  rcases parse_cases source with ⟨-, h⟩ | ⟨before, root, -, -, h⟩
  · rw [h, h]
    exact .same
  · rw [h, h]
    exact (stricter_readNode limit 1 _).map _

/-- A lenient reading fails for want of a root, or for the depth of an element. -/
theorem kind_of_parse_eq_error {source : String} {fault : Fault}
    (hp : parse ⟨limit, false⟩ source = .error fault) :
    fault.cause.kind = .missingRoot ∨ fault.cause.kind = .nestingTooDeep := by
  rcases cases_of_parse_eq_error hp with ⟨-, rfl⟩ | ⟨_, _, -, -, hn⟩
  · exact .inl rfl
  · exact .inr (hn.cause rfl)

/-- A strict reading adds refusals and changes no answer: it gives what a lenient one gives, or
refuses its success for a missing bracket, and fails in the same way and place where that one does. -/
theorem strict_parse (limit : Int) (source : String) :
    (∀ html, parse { maxDepth := limit, strict := true } source = .ok html →
      parse { maxDepth := limit, strict := false } source = .ok html) ∧
    (∀ html, parse { maxDepth := limit, strict := false } source = .ok html →
      parse { maxDepth := limit, strict := true } source = .ok html ∨
      ∃ fault, parse { maxDepth := limit, strict := true } source = .error fault ∧
        (fault.cause.kind = .unterminatedContent ∨ fault.cause.kind = .unterminatedChildren)) ∧
    (∀ fault, parse { maxDepth := limit, strict := false } source = .error fault →
      (fault.cause.kind = .missingRoot ∨ fault.cause.kind = .nestingTooDeep) ∧
      parse { maxDepth := limit, strict := true } source = .error fault) := by
  have h := stricter_parse limit source
  have hk := @kind_of_parse_eq_error limit source
  refine ⟨fun _ => h.lenient_eq_ok, ?_⟩
  generalize parse ⟨limit, false⟩ source = out at h hk ⊢
  generalize parse ⟨limit, true⟩ source = out' at h ⊢
  cases h with
  | same => exact ⟨fun _ h => .inl h, fun _ h => ⟨hk h, h⟩⟩
  | @refused a fault hc =>
      refine ⟨fun _ _ => .inr ⟨fault, rfl, ?_⟩, by simp⟩
      rcases hc with hc | hc
      · exact .inl (by rw [hc]; rfl)
      · exact .inr (by rw [hc]; rfl)

/-- An open content block too deep in the document is refused for its depth. -/
theorem strict_parse_tooDeep :
    parse { maxDepth := 1, strict := false } "^[d\x7ba" =
      .error ⟨.tooDeep 1, ['d', '{', 'a'], ['d', '{', 'a']⟩ ∧
    parse { maxDepth := 1, strict := true } "^[d\x7ba" =
      .error ⟨.tooDeep 1, ['d', '{', 'a'], ['d', '{', 'a']⟩ := by
  have h : parse { maxDepth := 1, strict := false } "^[d\x7ba" =
      .error ⟨.tooDeep 1, ['d', '{', 'a'], ['d', '{', 'a']⟩ := by
    have hr : tagName? '^' = some "main" := by decide
    have hd : tagName? 'd' = some "div" := by decide
    simp [parse, readRoot, findRoot, readNode, readChildren, readItems_cons, readHead, readTag,
      readModifiers, afterBracket?, startsNode, rootMarker, Except.map, Modifier.ofMarker?, hr, hd]
  exact ⟨h, ((strict_parse 1 _).2.2 _ h).2⟩

end TalPage.Markup
