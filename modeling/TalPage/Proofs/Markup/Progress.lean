import Mathlib.Logic.Function.Iterate
import TalPage.Proofs.Markup.Cause
import TalPage.Proofs.Markup.Position

/-!
# Progress

An attempt to read a node takes at least one character from any text that is not at its end, and a
failure leaves the cursor where its report says or at the end of the text. So attempts made one after
another come to the end, or to a failure, in no more attempts than there are characters.
-/

namespace TalPage.Markup

variable {rules : Rules} {depth : Int} {st : State}

/-! ## Failures -/

/-- Where a failed reading stops: at the end of the text for a bracket that is missing, and before an
element that is refused. -/
inductive Fault.Halts : Fault → Prop where
  | unterminated {cause place} (hc : cause.Unterminated) : Halts ⟨cause, place, []⟩
  | refused {cause c s} (hc : cause.kind = .nestingTooDeep) : Halts ⟨cause, c :: s, c :: s⟩

theorem Stops.halts {fault : Fault} (h : Stops rules depth st (.error fault)) : fault.Halts := by
  cases h with
  | openChildren => exact .unterminated (.inr rfl)
  | openContent => exact .unterminated (.inl rfl)
  | tooDeep | exhausted => exact .refused rfl

theorem Reads.halts {fault : Fault} (hr : Reads rules depth st (.error fault)) : fault.Halts := by
  generalize ho : Except.error fault = out at hr
  induction hr with
  | stop h =>
      subst ho
      exact h.halts
  | step _ _ ih => exact ih ho

theorem NodeReads.halts {s : List Char} {fault : Fault}
    (h : NodeReads rules depth s (.error fault)) : fault.Halts := by
  generalize ho : Except.error fault = result at h
  cases h with
  | atEnd | skip | leaf => cases ho
  | tooDeep => cases ho; exact .refused rfl
  | openContent => cases ho; exact .unterminated (.inl rfl)
  | @branch _ _ _ out _ _ _ _ hr =>
      cases out with
      | ok result => cases ho
      | error fault' => cases ho; exact hr.halts

/-! ## Attempts -/

namespace Cursor

/-- What an attempt to read a node comes to for a cursor before `after`, and where it leaves the
cursor. -/
inductive Attempt (before : List Char) :
    List Char → Except Report (Option String) × Cursor → Prop where
  | atEnd : Attempt before [] (.ok none, between before [])
  | skip {c s} (hn : startsNode c = false) :
      Attempt before (c :: s) (.ok none, between (before ++ [c]) s)
  | node {c s read rest} {html : String} (hn : startsNode c = true) (ht : c :: s = read ++ rest)
      (hr : read ≠ []) : Attempt before (c :: s) (.ok (some html), between (before ++ read) rest)
  | refused {c s read place} {report : Report} (hn : startsNode c = true) (ht : c :: s = read ++ place)
      (hk : report.kind = .nestingTooDeep) (hp : report.position = (before ++ read).length) :
      Attempt before (c :: s) (.error report, between (before ++ read) place)
  | unterminated {c s read place} {report : Report} (hn : startsNode c = true) (ht : c :: s = read ++ place)
      (hk : report.kind = .unterminatedContent ∨ report.kind = .unterminatedChildren)
      (hp : report.position = (before ++ read).length) :
      Attempt before (c :: s) (.error report, between (before ++ c :: s) [])

theorem readNode_of_ok {before s read rest : List Char} {html : Option String}
    (h : Markup.readNode rules depth s = .ok (html, rest)) (hs : s = read ++ rest) :
    (between before s).readNode rules depth = (.ok html, between (before ++ read) rest) := by
  rw [readNode, rest_between, h, hs]
  simp only [withRest_between]

theorem readNode_between_nil (before : List Char) :
    (between before []).readNode rules depth = (.ok none, between before []) := by
  have h : (between before []).readNode rules depth = (.ok none, between (before ++ []) []) :=
    readNode_of_ok rfl rfl
  rwa [List.append_nil] at h

theorem readNode_of_error {before s read : List Char} {fault : Fault}
    (h : Markup.readNode rules depth s = .error fault) (hs : s = read ++ fault.rest) :
    (between before s).readNode rules depth =
      (.error (fault.report (before ++ s)), between (before ++ read) fault.rest) := by
  rw [readNode, rest_between, h, source_between]
  simp only [hs, withRest_between]

/-- A report gives the length of the text before the place that it is about. -/
theorem report_append (before read : List Char) (fault : Fault) :
    fault.report (before ++ (read ++ fault.place)) =
      ⟨fault.cause.kind, fault.cause.message, (before ++ read).length⟩ := by
  simp only [Fault.report, List.length_append, Report.mk.injEq, true_and]
  omega

theorem attempt_of_error {before s : List Char} {c : Char} {fault : Fault}
    (hn : startsNode c = true) (h : Markup.readNode rules depth (c :: s) = .error fault)
    (hp : fault.place <:+ c :: s) (hf : fault.Halts) :
    Attempt before (c :: s) ((between before (c :: s)).readNode rules depth) := by
  obtain ⟨read, hread⟩ := hp
  have hpos := congrArg Report.position (report_append before read fault)
  rw [hread] at hpos
  cases hf with
  | unterminated hc =>
      rw [readNode_of_error h (List.append_nil _).symm]
      refine .unterminated hn hread.symm ?_ hpos
      rcases hc with rfl | rfl
      · exact .inl rfl
      · exact .inr rfl
  | refused hc =>
      rw [readNode_of_error h hread.symm]
      exact .refused hn hread.symm hc hpos

/-- Every attempt is of one of these kinds. -/
theorem attempt_readNode (hd : rules.maxDepth < depth + openLimit) (before s : List Char) :
    Attempt before s ((between before s).readNode rules depth) := by
  have h := nodeReads_readNode rules depth s
  cases s with
  | nil =>
      rw [readNode_between_nil]
      exact .atEnd
  | cons c s =>
      cases hn : startsNode c with
      | false =>
          have hs : (between before (c :: s)).readNode rules depth =
              (.ok none, between (before ++ [c]) s) :=
            readNode_of_ok (NodeReads.readNode_eq (.skip hn)) rfl
          rw [hs]
          exact .skip hn
      | true =>
          cases hr : Markup.readNode rules depth (c :: s) with
          | ok result =>
              obtain ⟨html, rest⟩ := result
              obtain ⟨n, hl, -, rfl⟩ := exists_node hn hr
              obtain ⟨d, t, hd, -⟩ := hl.spelled.exists_cons
              rw [readNode_of_ok hr hl.text]
              exact .node hn hl.text (by simp [hd])
          | error fault =>
              rw [hr] at h
              exact attempt_of_error hn hr (h.grounded hd).1 h.halts

/-- The cursor after an attempt to read a node. -/
def passNode (rules : Rules) (depth : Int) (c : Cursor) : Cursor :=
  (c.readNode rules depth).2

/-- In at most `n` attempts the cursor comes to the end of the text, or to an attempt that fails. -/
def Arrives (rules : Rules) (depth : Int) (n : Nat) (c : Cursor) : Prop :=
  ∃ m ≤ n, ((passNode rules depth)^[m] c).atEnd = true ∨
    ∃ report, (((passNode rules depth)^[m] c).readNode rules depth).1 = .error report

theorem Arrives.step {n : Nat} {c : Cursor} (h : Arrives rules depth n (passNode rules depth c)) :
    Arrives rules depth (n + 1) c := by
  obtain ⟨m, hm, h⟩ := h
  exact ⟨m + 1, Nat.succ_le_succ hm, by rwa [Function.iterate_succ_apply]⟩

theorem arrives_between (hd : rules.maxDepth < depth + openLimit) {n : Nat} {before s : List Char}
    (hs : s.length ≤ n) : Arrives rules depth n (between before s) := by
  -- An attempt that succeeds leaves a shorter text, and the others go on from there.
  induction n generalizing before s with
  | zero =>
      obtain rfl := List.length_eq_zero_iff.1 (Nat.le_zero.1 hs)
      exact ⟨0, Nat.le_refl _, .inl (atEnd_between.2 rfl)⟩
  | succ n ih =>
      have ha := attempt_readNode hd before s
      generalize hr : (between before s).readNode rules depth = result at ha
      have hp : passNode rules depth (between before s) = result.2 := congrArg Prod.snd hr
      cases ha with
      | atEnd => exact ⟨0, Nat.zero_le _, .inl (atEnd_between.2 rfl)⟩
      | refused | unterminated => exact ⟨0, Nat.zero_le _, .inr ⟨_, congrArg Prod.fst hr⟩⟩
      | skip =>
          refine Arrives.step ?_
          rw [hp]
          exact ih (Nat.le_of_succ_le_succ hs)
      | @node c s read rest html hn ht hne =>
          refine Arrives.step ?_
          have hpos := List.length_pos_iff.2 hne
          have hlen := congrArg List.length ht
          rw [List.length_append] at hlen
          rw [hp]
          exact ih (by omega)

end Cursor

/-! ## Forward progress -/

theorem startsNode_eq_false_iff {c : Char} :
    startsNode c = false ↔ tagName? c = none ∧ c ∉ ['.', '!', '{', '['] := by
  rw [startsNode, Bool.or_eq_false_iff, Option.isSome_eq_false_iff, Option.isNone_iff_eq_none,
    decide_eq_false_iff_not]

/-- An attempt to read a node moves the cursor forward: at the end of the text it does nothing, a
character that starts no node is passed over alone, a node takes at least one character, and a failure
leaves the cursor at the element that is refused or at the end of the text, never before where it
started. So no more attempts than characters bring the cursor to the end, unless one of them fails. -/
theorem readNode_progress {rules : Rules} (hd : rules.maxDepth ≤ 256) {depth : Int} (h1 : 1 ≤ depth)
    {c : Cursor} (hc : c.Within) :
    (c.atEnd = true → c.readNode rules depth = (.ok none, c)) ∧
    (∀ char result e, c.peek = .ok (some char) → c.readNode rules depth = (result, e) →
      (result = .ok none ↔ tagName? char = none ∧ char ∉ ['.', '!', '{', '[']) ∧
      (result = .ok none → e.position = c.position + 1) ∧
      (∀ html, result = .ok (some html) →
        c.position + 1 ≤ e.position ∧ e.position ≤ c.source.length) ∧
      ∀ report, result = .error report → c.position ≤ report.position ∧
        (report.kind = .nestingTooDeep ∧ e.position = report.position ∨
          (report.kind = .unterminatedContent ∨ report.kind = .unterminatedChildren) ∧
            e.position = c.source.length)) ∧
    ∃ n ≤ c.source.length, ((Cursor.passNode rules depth)^[n] c).atEnd = true ∨
      ∃ report, (((Cursor.passNode rules depth)^[n] c).readNode rules depth).1 = .error report := by
  obtain ⟨before, hb⟩ := hc.exists_between
  generalize c.rest = s at hb
  subst hb
  have hd' : rules.maxDepth < depth + openLimit := by unfold openLimit; omega
  have ha := Cursor.attempt_readNode hd' before s
  refine ⟨?_, ?_, ?_⟩
  · intro he
    obtain rfl := Cursor.atEnd_between.1 he
    generalize (Cursor.between before []).readNode rules depth = result at ha
    cases ha
    rfl
  · intro char result e hchar hr
    obtain ⟨s, rfl⟩ := Cursor.exists_cons_of_peek hchar
    rw [hr] at ha
    rw [← startsNode_eq_false_iff]
    cases ha with
    | skip hn =>
        refine ⟨by simp [hn], fun _ => ?_, by simp, by simp⟩
        simp
    | @node _ _ read rest html hn ht hne =>
        have hpos := List.length_pos_iff.2 hne
        refine ⟨by simp [hn], by simp, fun _ _ => ?_, by simp⟩
        simp only [Cursor.position_between, Cursor.source_between, ht, List.length_append]
        omega
    | @refused _ _ read place report hn ht hk hp =>
        refine ⟨by simp [hn], by simp, by simp, fun _ he => ?_⟩
        cases he
        refine ⟨?_, .inl ⟨hk, hp.symm⟩⟩
        rw [hp, Cursor.position_between, List.length_append]
        omega
    | @unterminated _ _ read place report hn ht hk hp =>
        refine ⟨by simp [hn], by simp, by simp, fun _ he => ?_⟩
        cases he
        refine ⟨?_, .inr ⟨hk, rfl⟩⟩
        rw [hp, Cursor.position_between, List.length_append]
        omega
  · exact Cursor.arrives_between hd' (by simp)

/-- The cursor at the root of a text that ends inside a content block. -/
def openCursor : Cursor :=
  ⟨['x', '^', '[', 't', '{', 'a'], 1⟩

theorem readNode_openCursor :
    openCursor.readNode ⟨2, true⟩ 1 =
      (.error ⟨.unterminatedContent, Cause.openContent.message, 4⟩, ⟨openCursor.source, 6⟩) := by
  have hr : tagName? '^' = some "main" := by decide
  have ht : tagName? 't' = some "p" := by decide
  simp [openCursor, Cursor.readNode, Cursor.rest, Cursor.withRest, readNode, readChildren,
    readItems_cons, readHead, readTag, readModifiers, readContent, afterBracket?, startsNode,
    Modifier.ofMarker?, openLimit, Fault.report, Cause.kind, hr, ht]

theorem readNode_progress_openCursor :
    openCursor.Within ∧ openCursor.peek = .ok (some '^') ∧ openCursor.position ≤ 4 ∧
      ∃ n ≤ 6, ((Cursor.passNode ⟨2, true⟩ 1)^[n] openCursor).atEnd = true ∨ ∃ report,
        (((Cursor.passNode ⟨2, true⟩ 1)^[n] openCursor).readNode ⟨2, true⟩ 1).1 = .error report := by
  have h := @readNode_progress ⟨2, true⟩ (by decide) 1 (by decide) openCursor (by decide)
  exact ⟨by decide, rfl, ((h.2.1 '^' _ _ rfl readNode_openCursor).2.2.2 _ rfl).1, h.2.2⟩

end TalPage.Markup
