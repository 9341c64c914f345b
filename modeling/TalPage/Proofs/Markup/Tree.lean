import Mathlib.Data.List.DropRight
import TalPage.Proofs.Markup.Mark
import TalPage.Proofs.Markup.Rendering

/-!
# Trees of elements

Elements whose children are the HTML of other elements. Such a tree is read back from its HTML, but for
the blanks around a style, so that its HTML says all there is in it, and its tags match.
-/

namespace TalPage.Markup
open Text

/-! ## Blanks -/

theorem trim_sublist (cs : List Char) : (trim cs).Sublist cs := by
  have h : ((cs.dropWhile isBlank).reverse.dropWhile isBlank).Sublist cs.reverse :=
    (List.dropWhile_sublist _).trans (List.dropWhile_sublist _).reverse
  simpa [trim] using h.reverse

theorem mem_of_mem_strip {s : String} {c : Char} (h : c ∈ (strip s).toList) : c ∈ s.toList := by
  rw [strip, String.toList_ofList] at h
  exact (trim_sublist _).mem h

theorem trim_trim (cs : List Char) : trim (trim cs) = trim cs := by
  have hp : trim cs <+: cs.dropWhile isBlank := by
    have hs := List.dropWhile_suffix isBlank (l := (cs.dropWhile isBlank).reverse)
    simpa [trim] using List.reverse_prefix.2 hs
  -- What is left at the start is no blank, since it is left there without the blanks before it.
  have hd : (trim cs).dropWhile isBlank = trim cs := by
    cases hc : trim cs with
    | nil => rfl
    | cons c t =>
        obtain ⟨u, hu⟩ := hp
        have hn := List.head?_dropWhile_not isBlank cs
        rw [← hu, hc, List.cons_append, List.head?_cons] at hn
        exact List.dropWhile_cons_of_neg (by simpa using hn)
  rw [trim, hd, trim]
  simp [List.dropWhile_idempotent]

theorem strip_strip (s : String) : strip (strip s) = strip s := by
  rw [strip, strip, String.toList_ofList, trim_trim]

/-! ## Elements -/

/-- The text can stand in HTML as it is, in a value or between tags. -/
def PlainText (s : String) : Prop :=
  ∀ c ∈ s.toList, c ∉ ['<', '>', '"']

instance (s : String) : Decidable (PlainText s) :=
  List.decidableBAll (· ∉ ['<', '>', '"']) s.toList

theorem PlainText.append {s t : String} (hs : PlainText s) (ht : PlainText t) : PlainText (s ++ t) := by
  intro c hc
  rw [String.toList_append, List.mem_append] at hc
  exact hc.elim (hs c) (ht c)

theorem PlainText.strip {s : String} (h : PlainText s) : PlainText (strip s) := by
  intro c hc
  exact h c (mem_of_mem_strip hc)

theorem PlainText.notMem {s : String} (h : PlainText s) :
    '<' ∉ s.toList ∧ '>' ∉ s.toList ∧ '"' ∉ s.toList :=
  ⟨fun hc => h _ hc (by simp), fun hc => h _ hc (by simp), fun hc => h _ hc (by simp)⟩

structure Element.Plain (e : Element) : Prop where
  tag : e.tag ∈ tags.map Prod.snd
  id : PlainText e.id
  style : PlainText e.style
  action : PlainText e.action
  content : PlainText e.content

namespace Element

/-- The attributes of the element as they stand in its tag. -/
def attributesText (e : Element) : String :=
  String.join (e.attributes.map fun (name, value) => attributeText name value)

/-- The element without the blanks around its style. -/
def trimmed (e : Element) : Element :=
  { e with style := strip e.style }

theorem attributes_trimmed (e : Element) : e.trimmed.attributes = e.attributes := by
  have hs : strip e.trimmed.style = strip e.style := strip_strip e.style
  have hi : e.trimmed.id = e.id := rfl
  have ha : e.trimmed.action = e.action := rfl
  simp only [attributes, hs, hi, ha]

theorem html_trimmed (e : Element) : e.trimmed.html = e.html := by
  rw [html, html, attributes_trimmed]
  rfl

theorem Plain.attributes {e : Element} (h : e.Plain) :
    ∀ p ∈ e.attributes, '=' ∉ p.1.toList ∧ PlainText p.1 ∧ PlainText p.2 := by
  have hd : PlainText (dispatcherName ++ ".dispatch('" ++ e.action ++ "')") :=
    (PlainText.append (by decide) h.action).append (by decide)
  have hn : ∀ name ∈ ["id", "style", "data-action", "onclick"],
      '=' ∉ name.toList ∧ PlainText name := by decide
  intro p hp
  simp only [Element.attributes, List.mem_append, List.mem_ite_nil_left, List.mem_cons,
    List.not_mem_nil, or_false] at hp
  rcases hp with (⟨-, rfl⟩ | ⟨-, rfl⟩) | ⟨-, rfl | rfl⟩
  · exact ⟨(hn _ (by simp)).1, (hn _ (by simp)).2, h.id⟩
  · exact ⟨(hn _ (by simp)).1, (hn _ (by simp)).2, h.style.strip⟩
  · exact ⟨(hn _ (by simp)).1, (hn _ (by simp)).2, h.action⟩
  · exact ⟨(hn _ (by simp)).1, (hn _ (by simp)).2, hd⟩

/-- The element that is read from a tag and the text after it. -/
def ofTag? (name attributes text : String) : Option Element :=
  (attributes? attributes.toList).map fun known =>
    { tag := name
      id := (known.lookup "id").getD ""
      style := (known.lookup "style").getD ""
      action := (known.lookup "data-action").getD ""
      content := text }

theorem Plain.ofTag?_attributesText {e : Element} (h : e.Plain) :
    ofTag? e.tag e.attributesText e.content = some { e.trimmed with children := [] } := by
  rw [ofTag?, attributesText, attributes?_join fun p hp =>
    ⟨(h.attributes p hp).1, (h.attributes p hp).2.2.notMem.2.2⟩, Option.map_some]
  by_cases hi : e.id = "" <;> by_cases hs : strip e.style = "" <;> by_cases ha : e.action = "" <;>
    simp [Element.attributes, trimmed, hi, hs, ha, List.lookup_cons]

theorem opensTag_html (e : Element) (s : List Char) : OpensTag (e.html.toList ++ s) := by
  simp [OpensTag, html]

def opening (e : Element) : Mark :=
  .opening e.tag e.attributesText e.content

def closing (e : Element) : Mark :=
  .closing e.tag ""

theorem Plain.tagName {e : Element} (h : e.Plain) :
    '>' ∉ e.tag.toList ∧ ' ' ∉ e.tag.toList ∧ e.tag.toList.head?.any (· ≠ '/') = true := by
  have ht : ∀ name ∈ tags.map Prod.snd,
      '>' ∉ name.toList ∧ ' ' ∉ name.toList ∧ name.toList.head?.any (· ≠ '/') = true := by decide
  exact ht _ h.tag

theorem Plain.notMem_attributesText {e : Element} (h : e.Plain) : '>' ∉ e.attributesText.toList := by
  intro hc
  rw [attributesText, String.toList_join, List.mem_flatMap] at hc
  obtain ⟨text, ht, hc⟩ := hc
  obtain ⟨p, hp, rfl⟩ := List.mem_map.1 ht
  obtain ⟨-, hn, hv⟩ := h.attributes p hp
  simp [attributeText, hn.notMem.2.1, hv.notMem.2.1] at hc

theorem head?_attributesText (e : Element) : ∀ c ∈ e.attributesText.toList.head?, c = ' ' := by
  rw [attributesText]
  cases e.attributes with
  | nil => simp
  | cons p attributes => simp [attributeText]

theorem Plain.marks?_opening {e : Element} (h : e.Plain) {rest : List Char} (hr : OpensTag rest) :
    marks? ('<' :: (e.tag.toList ++ e.attributesText.toList ++ '>' :: (e.content.toList ++ rest))) =
      (marks? rest).map (e.opening :: ·) := by
  obtain ⟨hc, hs, hn⟩ := h.tagName
  have ht : '>' ∉ e.tag.toList ++ e.attributesText.toList :=
    fun hm => (List.mem_append.1 hm).elim hc h.notMem_attributesText
  rw [marks?_tag ht h.content.notMem.1 hr, Mark.ofTag_opening hn hs e.head?_attributesText]
  simp [opening]

theorem Plain.marks?_closing {e : Element} (h : e.Plain) {rest : List Char} (hr : OpensTag rest) :
    marks? ('<' :: ('/' :: e.tag.toList ++ '>' :: rest)) = (marks? rest).map (e.closing :: ·) := by
  have ht : '>' ∉ '/' :: e.tag.toList := by simpa using h.tagName.1
  have hm := marks?_tag ht (List.not_mem_nil (a := '<')) hr
  simpa [Mark.ofTag_closing, closing] using hm

end Element

/-! ## Trees -/

/-- An element with those that are in it. -/
structure Tree where
  element : Element
  parts : List Tree

/-- All texts in the tree are plain, and each element has the HTML of its parts for children. -/
inductive Tree.WellFormed : Tree → Prop where
  | intro {e parts} (plain : e.Plain) (children : e.children = parts.map (·.element.html))
      (parts_wellFormed : ∀ t ∈ parts, t.WellFormed) : Tree.WellFormed ⟨e, parts⟩

namespace Tree

/-- The tree without the blanks around the styles. -/
def trimmed : Tree → Tree
  | ⟨e, parts⟩ => ⟨e.trimmed, parts.map fun t => t.trimmed⟩

def height : Tree → Nat
  | ⟨_, parts⟩ => (parts.map fun t => t.height).foldr max 0 + 1

def marks : Tree → List Mark
  | ⟨e, parts⟩ => e.opening :: (parts.flatMap fun t => t.marks) ++ [e.closing]

/-- The tree with another part at the end. -/
def add (t part : Tree) : Tree :=
  ⟨t.element.addChild part.element.html, t.parts ++ [part]⟩

/-- Reads the marks inside the open trees, the innermost first, up to the end of the outermost. -/
def ofMarks? : (opened : List Tree) → List Mark → Option Tree
  | opened, .opening name attributes text :: ms =>
    match Element.ofTag? name attributes text with
    | some e => ofMarks? (⟨e, []⟩ :: opened) ms
    | none => none
  | [t], [.closing name ""] => if name = t.element.tag then some t else none
  | t :: parent :: outer, .closing name "" :: ms =>
    if name = t.element.tag then ofMarks? (parent.add t :: outer) ms else none
  | _, _ => none

/-- The tree that is written as a text. -/
def ofHtml? (html : String) : Option Tree :=
  (marks? html.toList).bind (ofMarks? [])

/-! ## Marks of a tree -/

theorem marks_append (e : Element) (parts : List Tree) (ms : List Mark) :
    (⟨e, parts⟩ : Tree).marks ++ ms =
      e.opening :: ((parts.flatMap fun t => t.marks) ++ e.closing :: ms) := by
  simp [marks]

theorem html_trimmed (t : Tree) : t.trimmed.element.html = t.element.html := by
  obtain ⟨e, parts⟩ := t
  rw [trimmed]
  exact e.html_trimmed

theorem opensTag_join (parts : List Tree) {s : List Char} (hs : OpensTag s) :
    OpensTag ((String.join (parts.map (·.element.html))).toList ++ s) := by
  cases parts with
  | nil => simpa using hs
  | cons t parts =>
      rw [List.map_cons, String.join_cons, String.toList_append, List.append_assoc]
      exact t.element.opensTag_html _

theorem marks?_join {parts : List Tree}
    (h : ∀ t ∈ parts, ∀ {s : List Char}, OpensTag s →
      marks? (t.element.html.toList ++ s) = (marks? s).map (t.marks ++ ·))
    {s : List Char} (hs : OpensTag s) :
    marks? ((String.join (parts.map (·.element.html))).toList ++ s) =
      (marks? s).map ((parts.flatMap fun t => t.marks) ++ ·) := by
  induction parts with
  | nil => simp
  | cons t parts ih =>
      obtain ⟨ht, hp⟩ := List.forall_mem_cons.1 h
      rw [List.map_cons, String.join_cons, String.toList_append, List.append_assoc,
        ht (opensTag_join parts hs), ih hp, Option.map_map]
      simp [Function.comp_def]

/-- The HTML of a tree has its marks. -/
theorem WellFormed.marks?_html {t : Tree} (h : t.WellFormed) {s : List Char} (hs : OpensTag s) :
    marks? (t.element.html.toList ++ s) = (marks? s).map (t.marks ++ ·) := by
  induction h generalizing s with
  | @intro e parts hp hc _ ih =>
      have ho : OpensTag ('<' :: ('/' :: e.tag.toList ++ '>' :: s)) := by simp [OpensTag]
      have hh : e.html.toList ++ s =
          '<' :: (e.tag.toList ++ e.attributesText.toList ++ '>' ::
            (e.content.toList ++ ((String.join e.children).toList ++
              '<' :: ('/' :: e.tag.toList ++ '>' :: s)))) := by
        simp [Element.html, Element.attributesText]
      rw [hh, hc, hp.marks?_opening (opensTag_join parts ho), marks?_join ih ho,
        hp.marks?_closing hs, marks, Option.map_map, Option.map_map]
      simp [Function.comp_def]

theorem WellFormed.marks?_eq {t : Tree} (h : t.WellFormed) :
    marks? t.element.html.toList = some t.marks := by
  have hm := h.marks?_html (s := []) (by simp [OpensTag])
  simpa [marks?] using hm

/-! ## Reading a tree back -/

/-- The tree with more parts at the end. -/
def addAll (t : Tree) (parts : List Tree) : Tree :=
  ⟨{ t.element with children := t.element.children ++ parts.map (·.element.html) }, t.parts ++ parts⟩

theorem addAll_nil (t : Tree) : t.addAll [] = t := by
  obtain ⟨e, parts⟩ := t
  rw [addAll, List.map_nil, List.append_nil, List.append_nil]

theorem add_addAll (t part : Tree) (parts : List Tree) :
    (t.add part).addAll parts = t.addAll (part :: parts) := by
  simp [add, addAll, Element.addChild]

theorem ofMarks?_opening {e : Element} (h : e.Plain) (opened : List Tree) (ms : List Mark) :
    ofMarks? opened (e.opening :: ms) =
      ofMarks? (⟨{ e.trimmed with children := [] }, []⟩ :: opened) ms := by
  rw [Element.opening, ofMarks?, h.ofTag?_attributesText]

theorem tag_trimmed (t : Tree) : t.trimmed.element.tag = t.element.tag := by
  obtain ⟨e, parts⟩ := t
  rw [trimmed]
  rfl

theorem ofMarks?_closing (t parent : Tree) (outer : List Tree) (ms : List Mark) :
    ofMarks? (t.trimmed :: parent :: outer) (t.element.closing :: ms) =
      ofMarks? (parent.add t.trimmed :: outer) ms := by
  rw [Element.closing, ofMarks?, if_pos t.tag_trimmed.symm]

theorem ofMarks?_flatMap {parts : List Tree}
    (h : ∀ t ∈ parts, ∀ (opened : List Tree) (ms : List Mark),
      ofMarks? opened (t.marks ++ ms) = ofMarks? (t.trimmed :: opened) (t.element.closing :: ms))
    (parent : Tree) (outer : List Tree) (ms : List Mark) :
    ofMarks? (parent :: outer) ((parts.flatMap fun t => t.marks) ++ ms) =
      ofMarks? (parent.addAll (parts.map fun t => t.trimmed) :: outer) ms := by
  induction parts generalizing parent with
  | nil => simp [addAll_nil]
  | cons t parts ih =>
      obtain ⟨ht, hp⟩ := List.forall_mem_cons.1 h
      rw [List.flatMap_cons, List.append_assoc, ht, ofMarks?_closing, ih hp, add_addAll,
        List.map_cons]

/-- The marks of a tree are read as the tree, up to its closing tag. -/
theorem WellFormed.ofMarks?_marks {t : Tree} (h : t.WellFormed) (opened : List Tree)
    (ms : List Mark) :
    ofMarks? opened (t.marks ++ ms) = ofMarks? (t.trimmed :: opened) (t.element.closing :: ms) := by
  induction h generalizing opened ms with
  | @intro e parts hp hc _ ih =>
      have ht : (⟨{ e.trimmed with children := [] }, []⟩ : Tree).addAll
          (parts.map fun t => t.trimmed) = trimmed ⟨e, parts⟩ := by
        simp [addAll, trimmed, hc, html_trimmed, Function.comp_def, Element.trimmed]
      rw [marks_append, ofMarks?_opening hp, ofMarks?_flatMap ih, ht]

/-- A tree is read back from its HTML, without the blanks around its styles. -/
theorem WellFormed.ofHtml?_html {t : Tree} (h : t.WellFormed) :
    ofHtml? t.element.html = some t.trimmed := by
  have hr := h.ofMarks?_marks [] []
  rw [List.append_nil] at hr
  rw [ofHtml?, h.marks?_eq, Option.bind_some, hr, Element.closing, ofMarks?,
    if_pos t.tag_trimmed.symm]

/-! ## Tags match -/

theorem matched_flatMap {n : Nat} {parts : List Tree}
    (h : ∀ t ∈ parts, ∀ {name : String} {outer : List String} {ms : List Mark},
      outer.length + 1 + t.height ≤ n → Matched n (name :: outer) ms →
      Matched n (name :: outer) (t.marks ++ ms))
    {name : String} {outer : List String} {ms : List Mark}
    (hn : outer.length + 1 + (parts.map fun t => t.height).foldr max 0 ≤ n)
    (hm : Matched n (name :: outer) ms) :
    Matched n (name :: outer) ((parts.flatMap fun t => t.marks) ++ ms) := by
  induction parts with
  | nil => exact hm
  | cons t parts ih =>
      obtain ⟨ht, hp⟩ := List.forall_mem_cons.1 h
      rw [List.map_cons, List.foldr_cons] at hn
      rw [List.flatMap_cons, List.append_assoc]
      exact ht (by omega) (ih hp (by omega))

theorem matched_marks {e : Element} {parts : List Tree} {n : Nat}
    (h : ∀ t ∈ parts, ∀ {name : String} {outer : List String} {ms : List Mark},
      outer.length + 1 + t.height ≤ n → Matched n (name :: outer) ms →
      Matched n (name :: outer) (t.marks ++ ms))
    {opened : List String} {ms : List Mark}
    (hn : opened.length + (⟨e, parts⟩ : Tree).height ≤ n)
    (hm : Matched n (e.tag :: opened) (e.closing :: ms)) :
    Matched n opened ((⟨e, parts⟩ : Tree).marks ++ ms) := by
  rw [height] at hn
  rw [marks_append]
  exact ⟨by omega, matched_flatMap h (by omega) hm⟩

theorem WellFormed.matched_inside {t : Tree} (h : t.WellFormed) {n : Nat} {name : String}
    {outer : List String} {ms : List Mark} (hn : outer.length + 1 + t.height ≤ n)
    (hm : Matched n (name :: outer) ms) : Matched n (name :: outer) (t.marks ++ ms) := by
  induction h generalizing name outer ms with
  | intro _ _ _ ih => exact matched_marks ih hn ⟨rfl, hm⟩

/-- The tags of the HTML of a tree match. -/
theorem WellFormed.balanced {t : Tree} (h : t.WellFormed) {n : Nat} (hn : t.height ≤ n) :
    Balanced n t.element.html := by
  refine ⟨_, h.marks?_eq, ?_⟩
  cases h with
  | @intro e parts _ _ hp =>
      have hl : ([] : List String).length + (⟨e, parts⟩ : Tree).height ≤ n := by simpa using hn
      rw [← List.append_nil (marks _)]
      exact matched_marks (fun t ht => (hp t ht).matched_inside) hl ⟨rfl, rfl, rfl⟩

end Tree

end TalPage.Markup
