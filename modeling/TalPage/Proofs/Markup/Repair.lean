import Mathlib.Data.List.Basic
import Mathlib.Logic.Function.Iterate
import Mathlib.Logic.Relation
import TalPage.Proofs.Markup.Strictness

/-!
# Repairing a strict reading

A strict reading that fails for a missing bracket stops at the innermost open block. With that bracket
added to the text it takes the same steps, closes the block and stops at the list around it, if there
is one, while the lenient reading gives what it gave before. One bracket after another, the text comes
to one that is read, with the answer of the lenient reading.
-/

namespace TalPage.Markup

variable {rules : Rules} {limit depth : Int} {st st' : State} {c : Char}

/-! ## Heads before a closing character -/

theorem Head.Maximal.push {h : Head} {rest : List Char} (hm : h.Maximal rest) (hc : h.Closed)
    (hb : c = ']' ∨ c = '}') : h.Maximal (rest ++ [c]) := by
  cases rest with
  | nil =>
      refine hc.maximal ?_
      rcases hb with rfl | rfl <;> simp
  | cons d rest => exact hm.of_head? rfl

theorem Head.Leads.untagged_push {h : Head} {s rest : List Char} (hl : h.Leads s rest)
    (hb : c = ']' ∨ c = '}') (ht : h.tag = none) : ∀ d ∈ (s ++ [c]).head?, tagName? d = none := by
  cases s with
  | nil =>
      intro d hd
      obtain rfl : c = d := by simpa using hd
      rcases hb with rfl | rfl <;> decide
  | cons d s => exact hl.untagged ht

/-- A closed head takes nothing of a closing character that is added to the text. -/
theorem Head.Leads.push {h : Head} {s rest : List Char} (hl : h.Leads s rest) (hc : h.Closed)
    (hb : c = ']' ∨ c = '}') : h.Leads (s ++ [c]) (rest ++ [c]) where
  text := by rw [hl.text, List.append_assoc]
  spelled := hl.spelled
  maximal := hl.maximal.push hc hb
  untagged := hl.untagged_push hb

/-- The head with its content block closed. -/
def Head.withContent (h : Head) (text : String) : Head :=
  { h with content := some ⟨text, true⟩ }

theorem Head.closed_withContent (h : Head) (text : String) : (h.withContent text).Closed := by
  simp [Closed, withContent]

theorem Head.element_withContent {h : Head} {text : String} {closed : Bool}
    (hc : h.content = some ⟨text, closed⟩) : (h.withContent text).element = h.element := by
  simp [element, withContent, contentHtml, hc, tagName, id, action]

theorem Head.Leads.closeBrace {h : Head} {s rest : List Char} {text : String}
    (hl : h.Leads s rest) (hc : h.content = some ⟨text, false⟩) :
    (h.withContent text).Leads (s ++ ['}']) [] where
  text := by
    rw [hl.text, hl.maximal.closed _ hc rfl]
    simp [Head.text, withContent, contentText, hc, Content.written]
  spelled := ⟨hl.spelled.tag, hl.spelled.modifiers, by
    simpa [withContent] using hl.spelled.content _ hc⟩
  maximal := (h.closed_withContent text).maximal (by simp)
  untagged := hl.untagged_push (.inr rfl)

theorem Head.Leads.length_place_le {h : Head} {s rest : List Char} {text : String} {closed : Bool}
    (hl : h.Leads s rest) (hc : h.content = some ⟨text, closed⟩) :
    ('{' :: text.toList).length ≤ s.length := by
  rw [hl.text, Head.text, contentText, hc]
  simp only [Option.map_some, Option.getD_some, Content.written, List.length_append,
    List.length_cons]
  omega

/-! ## States of a longer text -/

def Open.push (o : Open) (c : Char) : Open :=
  { o with place := o.place ++ [c] }

/-- The state of the same reading with a character more at the end of its text. -/
def State.push (st : State) (c : Char) : State :=
  ⟨st.top.push c, st.outer.map (·.push c), st.rest ++ [c]⟩

theorem Fits.push {outer : List Open} {levels : Nat} (hf : Fits rules depth outer levels)
    (c : Char) : Fits rules depth (outer.map (·.push c)) levels := by
  simpa [Fits] using hf

/-- Closing all elements depends on what they hold, not on where they were opened. -/
theorem closeAll_push (top : Open) (outer : List Open) (c : Char) :
    closeAll (top.push c) (outer.map (·.push c)) = closeAll top outer := by
  rw [closeAll, List.foldl_map]
  rfl

theorem Step.push (h : Step ⟨limit, true⟩ depth st st') (hb : c = ']' ∨ c = '}') :
    Step ⟨limit, true⟩ depth (st.push c) (st'.push c) := by
  cases h with
  | skip hb hn => exact .skip hb hn
  | close => exact .close
  | @leaf _ _ _ _ rest _ hn hf hl hc hr =>
      refine .leaf hn (hf.push c) (hl.push (hc rfl) hb) hc ?_
      cases rest with
      | nil => rcases hb with rfl | rfl <;> simp
      | cons => exact hr
  | branch hn hf hl => exact .branch hn (hf.push c) (hl.push hl.closed hb)

/-! ## Runs -/

abbrev Steps (rules : Rules) (depth : Int) : State → State → Prop :=
  Relation.ReflTransGen (Step rules depth)

theorem Reads.exists_steps {out : Outcome} (hr : Reads rules depth st out) :
    ∃ st', Steps rules depth st st' ∧ Stops rules depth st' out := by
  induction hr with
  | stop h => exact ⟨_, .refl, h⟩
  | step h _ ih =>
      obtain ⟨st', hs, ht⟩ := ih
      exact ⟨st', .head h hs, ht⟩

theorem Reads.of_steps {out : Outcome} (hs : Steps rules depth st st')
    (hr : Reads rules depth st' out) : Reads rules depth st out := by
  induction hs with
  | refl => exact hr
  | tail _ h ih => exact ih (.step h hr)

theorem Steps.lenient (h : Steps ⟨limit, true⟩ depth st st') : Steps ⟨limit, false⟩ depth st st' :=
  Relation.ReflTransGen.mono (fun _ _ h => h.lenient) _ _ h

theorem Steps.push (h : Steps ⟨limit, true⟩ depth st st') (hb : c = ']' ∨ c = '}') :
    Steps ⟨limit, true⟩ depth (st.push c) (st'.push c) :=
  Relation.ReflTransGen.lift (·.push c) (fun _ _ h => h.push hb) _ _ h

/-! ## Places -/

/-- How far from the end of the text the open elements were opened, the innermost first. -/
def State.places (st : State) : List Nat :=
  (st.top :: st.outer).map (·.place.length)

/-- Each open element was opened before what it holds, in a text of `n` characters. -/
structure State.Nested (n : Nat) (st : State) : Prop where
  rest : ∀ m ∈ st.places, st.rest.length < m
  outer : st.places.Pairwise (· < ·)
  bound : ∀ m ∈ st.places, m ≤ n

theorem Step.nested {n : Nat} (h : Step rules depth st st') (hn : st.Nested n) : st'.Nested n := by
  have hlt := h.length_lt
  obtain ⟨hr, ho, hb⟩ := hn
  cases h with
  | skip | leaf => exact ⟨fun m hm => hlt.trans (hr m hm), ho, hb⟩
  | close =>
      exact ⟨fun m hm => hlt.trans (hr m (List.mem_cons_of_mem _ hm)), (List.pairwise_cons.1 ho).2,
        fun m hm => hb m (List.mem_cons_of_mem _ hm)⟩
  | @branch top outer c s rest h hn hf hl =>
      have hle : ('[' :: rest).length ≤ (c :: s).length := hl.length_le
      have htop : (c :: s).length < top.place.length := hr _ List.mem_cons_self
      refine ⟨List.forall_mem_cons.2 ⟨Nat.lt_succ_self _, fun m hm => hlt.trans (hr m hm)⟩,
        List.pairwise_cons.2 ⟨fun m hm => hle.trans_lt (hr m hm), ho⟩,
        List.forall_mem_cons.2 ⟨?_, hb⟩⟩
      exact hle.trans (htop.le.trans (hb _ List.mem_cons_self))

theorem Steps.nested {n : Nat} (h : Steps rules depth st st') (hn : st.Nested n) :
    st'.Nested n := by
  induction h with
  | refl => exact hn
  | tail _ h ih => exact h.nested ih

/-! ## Brackets at the end -/

/-- The bracket that is missing. -/
def Cause.bracket? : Cause → Option Char
  | .openContent => some '}'
  | .openChildren => some ']'
  | _ => none

/-- What a strict reading comes to with the bracket added that `fault` is about: a success, or a list
that was opened before the place of the fault, in a text of `n` characters. -/
inductive Mended (fault : Fault) (n : Nat) {α : Type} : Except Fault α → Prop where
  | done {a} : Mended fault n (.ok a)
  | outer {fault'} (hc : fault'.cause = .openChildren)
      (hp : fault.place.length + 1 < fault'.place.length) (hn : fault'.place.length ≤ n) :
      Mended fault n (.error fault')

theorem Mended.map {α β : Type} {fault : Fault} {n : Nat} {out : Except Fault α}
    (h : Mended fault n out) (f : α → β) : Mended fault n (out.map f) := by
  cases h with
  | done => exact .done
  | outer hc hp hn => exact .outer hc hp hn

theorem Mended.mono {α : Type} {fault : Fault} {m n : Nat} {out : Except Fault α}
    (h : Mended fault m out) (hmn : m ≤ n) : Mended fault n out := by
  cases h with
  | done => exact .done
  | outer hc hp hn => exact .outer hc hp (hn.trans hmn)

/-- The bracket of the innermost list closes it, and a strict reading stops at the one around it. -/
theorem reads_bracket {n : Nat} {top : Open} {outer : List Open}
    (hn : (State.mk top outer []).Nested n) :
    ∃ out, Reads ⟨limit, true⟩ depth ((State.mk top outer []).push ']') out ∧
      Mended ⟨.openChildren, top.place, []⟩ (n + 1) out := by
  cases outer with
  | nil => exact ⟨_, .stop .closed, .done⟩
  | cons parent outer =>
      refine ⟨_, .step .close (.stop (.openChildren rfl)), .outer rfl ?_ ?_⟩
      · have hlt : top.place.length < parent.place.length :=
          (List.pairwise_cons.1 hn.outer).1 _ List.mem_cons_self
        simpa [Open.push, Open.add] using hlt
      · have hle : parent.place.length ≤ n :=
          hn.bound _ (List.mem_cons_of_mem _ List.mem_cons_self)
        simpa [Open.push, Open.add] using hle

/-- A lenient reading gives the same with the bracket as without it. -/
theorem reads_bracket_lenient (limit depth : Int) (top : Open) (outer : List Open) :
    Reads ⟨limit, false⟩ depth ((State.mk top outer []).push ']') (.ok (closeAll top outer, [])) := by
  rw [← closeAll_push top outer ']']
  cases outer with
  | nil => exact .stop .closed
  | cons parent outer => exact .step .close (.stop (.truncated rfl))

/-- The brace of an open content block closes it, and a strict reading stops at the list around it. -/
theorem reads_brace {n : Nat} {top : Open} {outer : List Open} {d : Char} {s rest : List Char}
    {text : String} {h : Head} (hd : startsNode d = true) (hf : Fits ⟨limit, true⟩ depth outer 1)
    (hl : h.Leads (d :: s) rest) (hc : h.content = some ⟨text, false⟩)
    (hn : (State.mk top outer (d :: s)).Nested n) :
    ∃ out, Reads ⟨limit, true⟩ depth ((State.mk top outer (d :: s)).push '}') out ∧
      Mended ⟨.openContent, '{' :: text.toList, []⟩ (n + 1) out := by
  have hlt : (d :: s).length < top.place.length := hn.rest _ List.mem_cons_self
  have hle : top.place.length ≤ n := hn.bound _ List.mem_cons_self
  refine ⟨_, .step (.leaf hd (hf.push '}') (hl.closeBrace hc)
    (fun _ => h.closed_withContent text) (by simp)) (.stop (.openChildren rfl)), .outer rfl ?_ ?_⟩
  · have hp := (hl.length_place_le hc).trans_lt hlt
    simpa [Open.push, Open.add] using hp
  · simpa [Open.push, Open.add] using hle

/-- A lenient reading gives the same with the brace as without it. -/
theorem reads_brace_lenient (top : Open) {outer : List Open} {d : Char} {s rest : List Char}
    {text : String} {h : Head} (hd : startsNode d = true) (hf : Fits ⟨limit, true⟩ depth outer 1)
    (hl : h.Leads (d :: s) rest) (hc : h.content = some ⟨text, false⟩) :
    ∃ out, Reads ⟨limit, false⟩ depth ⟨top, outer, d :: s⟩ out ∧
      Reads ⟨limit, false⟩ depth ((State.mk top outer (d :: s)).push '}') out := by
  obtain rfl := hl.maximal.closed _ hc rfl
  refine ⟨.ok (closeAll (top.add h.element) outer, []),
    .step (.leaf hd hf hl (by simp) (by simp)) (.stop (.truncated rfl)), ?_⟩
  rw [← closeAll_push (top.add h.element) outer '}', ← h.element_withContent hc]
  exact .step (.leaf hd (hf.push '}') (hl.closeBrace hc) (by simp) (by simp)) (.stop (.truncated rfl))

/-- A strict reading that fails for a missing bracket, as the run it is of its text and of the text
with the bracket. -/
theorem Reads.mended {n : Nat} {fault : Fault} (hr : Reads ⟨limit, true⟩ depth st (.error fault))
    (hc : fault.cause.bracket? = some c) (hn : st.Nested n) :
    (0 < fault.place.length ∧ fault.place.length ≤ n) ∧
      (∃ out, Reads ⟨limit, true⟩ depth (st.push c) out ∧ Mended fault (n + 1) out) ∧
      ∃ out, Reads ⟨limit, false⟩ depth st out ∧ Reads ⟨limit, false⟩ depth (st.push c) out := by
  -- The steps up to the fault are the steps of the longer text as well; only the stop differs.
  obtain ⟨st', hs, ht⟩ := hr.exists_steps
  have hn' := hs.nested hn
  cases ht with
  | tooDeep | exhausted => cases hc
  | @openChildren top outer =>
      cases hc
      obtain ⟨out, hr, hm⟩ := reads_bracket hn'
      refine ⟨⟨hn'.rest _ List.mem_cons_self, hn'.bound _ List.mem_cons_self⟩,
        ⟨out, hr.of_steps (hs.push (.inl rfl)), hm⟩, .ok (closeAll top outer, []), ?_, ?_⟩
      · exact Reads.of_steps hs.lenient (.stop (.truncated rfl))
      · exact (reads_bracket_lenient limit depth top outer).of_steps (hs.push (.inl rfl)).lenient
  | @openContent top outer d s rest text h hd hf hl _ ho =>
      cases hc
      obtain ⟨out, hr, hm⟩ := reads_brace hd hf hl ho hn'
      obtain ⟨out', hr₁, hr₂⟩ := reads_brace_lenient top hd hf hl ho
      have hlt : (d :: s).length < top.place.length := hn'.rest _ List.mem_cons_self
      have hle : top.place.length ≤ n := hn'.bound _ List.mem_cons_self
      have hp := hl.length_place_le ho
      refine ⟨⟨by simp, hp.trans (hlt.le.trans hle)⟩,
        ⟨out, hr.of_steps (hs.push (.inr rfl)), hm⟩, out', ?_, ?_⟩
      · exact hr₁.of_steps hs.lenient
      · exact hr₂.of_steps (hs.push (.inr rfl)).lenient

/-! ## Documents -/

/-- The root of a document whose strict reading fails for a missing bracket. -/
theorem NodeReads.mended {s : List Char} {fault : Fault} {d : Char}
    (h : NodeReads ⟨limit, true⟩ depth (d :: s) (.error fault))
    (hc : fault.cause.bracket? = some c) :
    (0 < fault.place.length ∧ fault.place.length ≤ (d :: s).length) ∧
      (∃ result, NodeReads ⟨limit, true⟩ depth (d :: s ++ [c]) result ∧
        Mended fault ((d :: s).length + 1) result) ∧
      ∃ result, NodeReads ⟨limit, false⟩ depth (d :: s) result ∧
        NodeReads ⟨limit, false⟩ depth (d :: s ++ [c]) result := by
  generalize ho : Except.error fault = result at h
  cases h with
  | skip | leaf => cases ho
  | tooDeep => cases ho; cases hc
  | @openContent _ _ rest text h hn hd hl _ hb =>
      cases ho
      cases hc
      obtain rfl := hl.maximal.closed _ hb rfl
      refine ⟨⟨by simp, hl.length_place_le hb⟩,
        ⟨_, .leaf hn hd (hl.closeBrace hb) (fun _ => h.closed_withContent text) (by simp), .done⟩,
        _, .leaf hn hd hl (by simp) (by simp), ?_⟩
      rw [← h.element_withContent hb]
      exact .leaf hn hd (hl.closeBrace hb) (by simp) (by simp)
  | @branch _ _ rest out h hn hd hl hr =>
      cases out with
      | ok result => cases ho
      | error fault =>
          cases ho
          have hle : ('[' :: rest).length ≤ (d :: s).length := hl.length_le
          have hn' : (State.mk ⟨h.element, '[' :: rest⟩ [] rest).Nested (d :: s).length :=
            ⟨by simp [State.places], by simp [State.places], by simpa [State.places] using hle⟩
          have hb : c = ']' ∨ c = '}' := by
            cases hf : fault.cause <;> rw [hf] at hc <;> cases hc <;> simp
          obtain ⟨hp, ⟨out, hr, hm⟩, out', hr₁, hr₂⟩ := hr.mended hc hn'
          have hl' := hl.push hl.closed hb
          exact ⟨hp, ⟨_, .branch hn hd hl' hr, hm.map _⟩, _, .branch hn hd hl hr₁,
            .branch hn hd hl' hr₂⟩

/-- With the missing bracket added, a strict reading gets further out, and a lenient one gives the
same. -/
theorem parse_mended {source : String} {fault : Fault}
    (hp : parse ⟨limit, true⟩ source = .error fault) (hc : fault.cause.bracket? = some c) :
    (0 < fault.place.length ∧ fault.place.length ≤ source.length) ∧
      Mended fault (source.length + 1) (parse ⟨limit, true⟩ (source.push c)) ∧
      parse ⟨limit, false⟩ (source.push c) = parse ⟨limit, false⟩ source := by
  simp only [parse, String.toList_push] at hp ⊢
  rcases readRoot_cases source.toList with hr | ⟨before, s, hb, hs⟩
  · rw [readRoot_of_not_mem _ hr] at hp
    cases hp
    cases hc
  · rw [hs, readRoot_append _ hb] at hp
    have hn := nodeReads_readNode ⟨limit, true⟩ 1 (rootMarker :: s)
    cases hr : readNode ⟨limit, true⟩ 1 (rootMarker :: s) with
    | ok result => rw [hr] at hp; cases hp
    | error fault' =>
        rw [hr] at hp hn
        cases hp
        obtain ⟨⟨h0, hn'⟩, ⟨result, h₁, hm⟩, result', h₂, h₃⟩ := hn.mended hc
        have hle : (rootMarker :: s).length ≤ source.length := by
          rw [← String.length_toList, hs, List.length_append]
          exact Nat.le_add_left _ _
        rw [hs, List.append_assoc, List.cons_append, readRoot_append _ hb, readRoot_append _ hb,
          readRoot_append _ hb, ← List.cons_append, h₁.readNode_eq, h₂.readNode_eq, h₃.readNode_eq]
        exact ⟨⟨h0, hn'.trans hle⟩, (hm.mono (Nat.succ_le_succ hle)).map _, rfl⟩

/-! ## Positions -/

/-- The strict reading of `source` fails for `cause` at the position `p`. -/
def FailsAt (limit : Int) (source : String) (cause : Cause) (p : Int) : Prop :=
  ∃ fault, parse { maxDepth := limit, strict := true } source = .error fault ∧
    fault.cause = cause ∧ (fault.report source.toList).position = p

section
variable {source : String} {cause : Cause} {p : Int}

theorem FailsAt.bounds (h : FailsAt limit source cause p) (hc : cause.bracket? = some c) :
    0 ≤ p ∧ p < source.length := by
  obtain ⟨fault, hf, rfl, rfl⟩ := h
  obtain ⟨⟨h0, hn⟩, -, -⟩ := parse_mended hf hc
  simp only [Fault.report, String.length_toList]
  omega

/-- With the bracket that is missing, the reading succeeds or fails for a list opened before. -/
theorem FailsAt.push (h : FailsAt limit source cause p) (hc : cause.bracket? = some c) :
    (∃ html, parse { maxDepth := limit, strict := true } (source.push c) = .ok html) ∨
      ∃ p' < p, FailsAt limit (source.push c) .openChildren p' := by
  obtain ⟨fault, hf, rfl, rfl⟩ := h
  obtain ⟨-, hm, -⟩ := parse_mended hf hc
  generalize hr : parse ⟨limit, true⟩ (source.push c) = result at hm
  cases hm with
  | done => exact .inl ⟨_, rfl⟩
  | @outer fault' hc' hp hn =>
      refine .inr ⟨_, ?_, fault', hr, hc', rfl⟩
      simp only [Fault.report, String.length_toList, String.length_push]
      omega

end

/-! ## Repair -/

/-- Adds the bracket that a strict reading of the text finds missing. -/
def mend (limit : Int) (source : String) : String :=
  match parse { maxDepth := limit, strict := true } source with
  | .ok _ => source
  | .error fault => (fault.cause.bracket?.map source.push).getD source

section
variable {source : String} {p : Int}

theorem mend_eq {fault : Fault} (hp : parse ⟨limit, true⟩ source = .error fault)
    (hc : fault.cause.bracket? = some c) : mend limit source = source.push c := by
  simp [mend, hp, hc]

theorem FailsAt.mend_eq {cause : Cause} (h : FailsAt limit source cause p)
    (hc : cause.bracket? = some c) : mend limit source = source.push c := by
  obtain ⟨fault, hp, rfl, -⟩ := h
  exact Markup.mend_eq hp hc

/-- Mending a text does not change what a lenient reading gives. -/
theorem parse_mend (limit : Int) (source : String) :
    parse ⟨limit, false⟩ (mend limit source) = parse ⟨limit, false⟩ source := by
  cases hp : parse ⟨limit, true⟩ source with
  | ok html => simp [mend, hp]
  | error fault =>
      cases hc : fault.cause.bracket? with
      | none => simp [mend, hp, hc]
      | some c =>
          rw [mend_eq hp hc]
          exact (parse_mended hp hc).2.2

theorem parse_iterate_mend (limit : Int) (source : String) (n : Nat) :
    parse ⟨limit, false⟩ ((mend limit)^[n] source) = parse ⟨limit, false⟩ source := by
  induction n with
  | zero => rfl
  | succ n ih => rw [Function.iterate_succ_apply', parse_mend, ih]

/-- Open lists are closed one after another, each opened before the one mended last. -/
theorem FailsAt.exists_iterate (h : FailsAt limit source .openChildren p) (m : Nat) (hm : p < m) :
    ∃ n ≤ m, (mend limit)^[n] source = source ++ String.ofList (List.replicate n ']') ∧
      ∃ html, parse { maxDepth := limit, strict := true } ((mend limit)^[n] source) = .ok html := by
  induction m generalizing source p with
  | zero =>
      have h0 := (h.bounds rfl).1
      omega
  | succ m ih =>
      have hs := h.mend_eq rfl
      rcases h.push rfl with hp | ⟨p', hp', h'⟩
      · refine ⟨1, by omega, ?_, by rwa [Function.iterate_one, hs]⟩
        rw [Function.iterate_one, hs, ← String.toList_inj]
        simp
      · obtain ⟨n, hn, ht, hp⟩ := ih h' (by omega)
        refine ⟨n + 1, by omega, ?_, by rwa [Function.iterate_succ_apply, hs]⟩
        rw [Function.iterate_succ_apply, hs, ht, ← String.toList_inj]
        simp [List.replicate_succ]

end

/-- A strict reading that fails for a missing bracket is repaired by it up to a list opened before,
and by one bracket after another as a whole: by a brace at most and then the brackets of lists. The
text it comes to is read as the lenient reading reads the text it started from. -/
theorem strict_parse_mend (limit : Int) (source : String) :
    (∀ p, FailsAt limit source .openContent p →
      (∃ html, parse { maxDepth := limit, strict := true } (source.push '}') = .ok html) ∨
        ∃ p' < p, FailsAt limit (source.push '}') .openChildren p') ∧
    (∀ p, FailsAt limit source .openChildren p →
      (∃ html, parse { maxDepth := limit, strict := true } (source.push ']') = .ok html) ∨
        ∃ p' < p, FailsAt limit (source.push ']') .openChildren p') ∧
    (∀ p, FailsAt limit source .openContent p ∨ FailsAt limit source .openChildren p →
      ∃ n ≤ source.length, ∃ brace k html,
        (mend limit)^[n] source =
          source ++ String.ofList (closer '}' brace ++ List.replicate k ']') ∧
        parse { maxDepth := limit, strict := true } ((mend limit)^[n] source) = .ok html ∧
        parse { maxDepth := limit, strict := false } source = .ok html) := by
  refine ⟨fun p h => h.push rfl, fun p h => h.push rfl, ?_⟩
  -- The HTML is that of the lenient reading, which no bracket on the way changes.
  suffices h : ∀ p, FailsAt limit source .openContent p ∨ FailsAt limit source .openChildren p →
      ∃ n ≤ source.length, ∃ brace k,
        (mend limit)^[n] source =
          source ++ String.ofList (closer '}' brace ++ List.replicate k ']') ∧
        ∃ html, parse ⟨limit, true⟩ ((mend limit)^[n] source) = .ok html by
    intro p hp
    obtain ⟨n, hn, brace, k, ht, html, hs⟩ := h p hp
    refine ⟨n, hn, brace, k, html, ht, hs, ?_⟩
    rw [← parse_iterate_mend limit source n]
    exact (stricter_parse limit _).lenient_eq_ok hs
  rintro p (h | h)
  · have hb := h.bounds rfl
    have hs := h.mend_eq rfl
    rcases h.push rfl with hp | ⟨p', hp', h'⟩
    · refine ⟨1, by omega, true, 0, ?_, by rwa [Function.iterate_one, hs]⟩
      rw [Function.iterate_one, hs, ← String.toList_inj]
      simp
    · obtain ⟨n, hn, ht, hp⟩ := h'.exists_iterate (source.length - 1) (by omega)
      refine ⟨n + 1, by omega, true, n, ?_, by rwa [Function.iterate_succ_apply, hs]⟩
      rw [Function.iterate_succ_apply, hs, ht, ← String.toList_inj]
      simp
  · obtain ⟨n, hn, ht, hp⟩ := h.exists_iterate source.length (h.bounds rfl).2
    exact ⟨n, hn, false, n, ht, hp⟩

theorem failsAt_openContent : FailsAt 2 "^[t\x7ba" .openContent 3 :=
  ⟨_, parse_openContent, rfl, by decide⟩

theorem strict_parse_mend_openContent :
    FailsAt 2 "^[t\x7ba" .openContent 3 ∧ ∃ n ≤ 5, ∃ brace k html,
      (mend 2)^[n] "^[t\x7ba" =
        "^[t\x7ba" ++ String.ofList (closer '}' brace ++ List.replicate k ']') ∧
      parse { maxDepth := 2, strict := true } ((mend 2)^[n] "^[t\x7ba") = .ok html ∧
      parse { maxDepth := 2, strict := false } "^[t\x7ba" = .ok html :=
  ⟨failsAt_openContent, (strict_parse_mend 2 "^[t\x7ba").2.2 3 (.inl failsAt_openContent)⟩

end TalPage.Markup
