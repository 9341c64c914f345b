import TalPage.Markup.Element

/-!
# Marks

HTML as the list of its tags, each with the text after it, and how the tags of such a list match. Texts
and tags are cut at the characters that no text, name or value may hold.
-/

namespace TalPage.Markup

/-- A tag with the text between it and the next one. -/
inductive Mark where
  | opening (name attributes text : String)
  | closing (name text : String)
deriving DecidableEq, Repr

/-- The texts before and after the first `c`. -/
def cut? (c : Char) : List Char → Option (List Char × List Char)
  | [] => none
  | d :: s => if d = c then some ([], s) else (cut? c s).map fun (before, after) => (d :: before, after)

theorem cut?_append {c : Char} {before : List Char} (h : c ∉ before) (after : List Char) :
    cut? c (before ++ c :: after) = some (before, after) := by
  induction before with
  | nil => simp [cut?]
  | cons d before ih =>
      obtain ⟨hd, hb⟩ := not_or.1 (mt List.mem_cons.2 h)
      simp [cut?, Ne.symm hd, ih hb]

theorem append_cons_inj {α : Type} {c : α} {s t u v : List α} (hs : c ∉ s) (ht : c ∉ t)
    (h : s ++ c :: u = t ++ c :: v) : s = t ∧ u = v := by
  induction s generalizing t with
  | nil =>
      cases t with
      | nil => exact ⟨rfl, (List.cons.inj h).2⟩
      | cons d t => exact absurd ((List.cons.inj h).1 ▸ List.mem_cons_self) ht
  | cons d s ih =>
      cases t with
      | nil => exact absurd ((List.cons.inj h).1 ▸ List.mem_cons_self) hs
      | cons e t =>
          obtain ⟨rfl, h'⟩ := List.cons.inj h
          obtain ⟨rfl, hu⟩ := ih (fun hc => hs (List.mem_cons_of_mem _ hc))
            (fun hc => ht (List.mem_cons_of_mem _ hc)) h'
          exact ⟨rfl, hu⟩

/-- Texts are split in the same way at the last `c`. -/
theorem append_cons_inj_last {α : Type} {c : α} {s t u v : List α} (hu : c ∉ u) (hv : c ∉ v)
    (h : s ++ c :: u = t ++ c :: v) : s = t ∧ u = v := by
  have hr := congrArg List.reverse h
  simp only [List.reverse_append, List.reverse_cons, List.append_assoc, List.singleton_append] at hr
  obtain ⟨hr, hs⟩ := append_cons_inj (by simpa using hu) (by simpa using hv) hr
  exact ⟨List.reverse_inj.1 hs, List.reverse_inj.1 hr⟩

theorem length_of_cut? {c : Char} {s before after : List Char} (h : cut? c s = some (before, after)) :
    after.length < s.length := by
  induction s generalizing before with
  | nil => cases h
  | cons d s ih =>
      simp only [cut?] at h
      split at h
      · cases h
        exact Nat.lt_succ_self _
      · obtain ⟨⟨before', after'⟩, hs, he⟩ := Option.map_eq_some_iff.1 h
        cases he
        exact Nat.lt_trans (ih hs) (Nat.lt_succ_self _)

/-! ## Tags -/

/-- The mark of what stands between the angle brackets of a tag, with the text after the tag. -/
def Mark.ofTag (tag : List Char) (text : String) : Mark :=
  if tag.head? = some '/' then .closing (String.ofList tag.tail) text
  else .opening (String.ofList (tag.takeWhile (· ≠ ' '))) (String.ofList (tag.dropWhile (· ≠ ' '))) text

/-- The marks of a text that starts with a tag or is empty. -/
def marks? : List Char → Option (List Mark)
  | [] => some []
  | c :: s =>
    if c = '<' then
      match h : cut? '>' s with
      | some (tag, rest) =>
        have := length_of_cut? h
        (marks? (rest.dropWhile (· ≠ '<'))).map
          (Mark.ofTag tag (String.ofList (rest.takeWhile (· ≠ '<'))) :: ·)
      | none => none
    else none
termination_by s => s.length
decreasing_by
  have hd := (List.dropWhile_sublist (l := rest) (· ≠ '<')).length_le
  simp only [List.length_cons]
  omega

/-- The next character, if there is one, opens a tag. -/
def OpensTag (s : List Char) : Prop :=
  ∀ c ∈ s.head?, c = '<'

theorem span_opensTag {text rest : List Char} (ht : '<' ∉ text) (hr : OpensTag rest) :
    (text ++ rest).takeWhile (· ≠ '<') = text ∧ (text ++ rest).dropWhile (· ≠ '<') = rest := by
  have hp : ∀ c ∈ text, decide (c ≠ '<') = true := by
    intro c hc
    have hne : c ≠ '<' := fun he => ht (he ▸ hc)
    simp [hne]
  rw [List.takeWhile_append_of_pos hp, List.dropWhile_append_of_pos hp]
  cases rest with
  | nil => simp
  | cons c rest =>
      obtain rfl : c = '<' := hr c rfl
      simp

theorem marks?_tag {tag text rest : List Char} (ht : '>' ∉ tag) (hx : '<' ∉ text)
    (hr : OpensTag rest) :
    marks? ('<' :: (tag ++ '>' :: (text ++ rest))) =
      (marks? rest).map (Mark.ofTag tag (String.ofList text) :: ·) := by
  obtain ⟨htake, hdrop⟩ := span_opensTag hx hr
  rw [marks?]
  simp only [↓reduceIte]
  split
  · rename_i tag' rest' hc
    rw [cut?_append ht] at hc
    cases hc
    rw [htake, hdrop]
  · rename_i hc
    rw [cut?_append ht] at hc
    cases hc

theorem Mark.ofTag_closing (name : List Char) (text : String) :
    ofTag ('/' :: name) text = .closing (String.ofList name) text := by
  simp [ofTag]

theorem Mark.ofTag_opening {name attributes : List Char} (hn : name.head?.any (· ≠ '/') = true)
    (hs : ' ' ∉ name) (ha : ∀ c ∈ attributes.head?, c = ' ') (text : String) :
    ofTag (name ++ attributes) text =
      .opening (String.ofList name) (String.ofList attributes) text := by
  have hp : ∀ c ∈ name, decide (c ≠ ' ') = true := by
    intro c hc
    have hne : c ≠ ' ' := fun he => hs (he ▸ hc)
    simp [hne]
  have hh : (name ++ attributes).head? ≠ some '/' := by
    cases name with
    | nil => cases hn
    | cons c name => simpa using hn
  rw [ofTag, if_neg hh, List.takeWhile_append_of_pos hp, List.dropWhile_append_of_pos hp]
  cases attributes with
  | nil => simp
  | cons c attributes =>
      obtain rfl : c = ' ' := ha c rfl
      simp

/-! ## Attributes -/

/-- The names and values of the attributes in a tag. -/
def attributes? : List Char → Option (List (String × String))
  | [] => some []
  | c :: s =>
    if c = ' ' then
      match h : cut? '=' s with
      | some (name, '"' :: rest) =>
        have := length_of_cut? h
        match h' : cut? '"' rest with
        | some (value, rest') =>
          have := length_of_cut? h'
          (attributes? rest').map ((String.ofList name, String.ofList value) :: ·)
        | none => none
      | _ => none
    else none
termination_by s => s.length
decreasing_by
  simp only [List.length_cons] at *
  omega

theorem attributes?_attributeText {name value : String} (hn : '=' ∉ name.toList)
    (hv : '"' ∉ value.toList) (s : List Char) :
    attributes? ((Element.attributeText name value).toList ++ s) =
      (attributes? s).map ((name, value) :: ·) := by
  have ht : (Element.attributeText name value).toList ++ s =
      ' ' :: (name.toList ++ '=' :: '"' :: (value.toList ++ '"' :: s)) := by
    simp [Element.attributeText]
  rw [ht, attributes?]
  simp only [↓reduceIte]
  split
  · rename_i name' rest hc
    rw [cut?_append hn] at hc
    cases hc
    split
    · rename_i value' rest' hc'
      rw [cut?_append hv] at hc'
      cases hc'
      simp
    · rename_i hc'
      rw [cut?_append hv] at hc'
      cases hc'
  · rename_i hc
    exact absurd (cut?_append hn _) (hc _ _)

theorem attributes?_join {attributes : List (String × String)}
    (h : ∀ p ∈ attributes, '=' ∉ p.1.toList ∧ '"' ∉ p.2.toList) :
    attributes? (String.join (attributes.map fun (name, value) =>
      Element.attributeText name value)).toList = some attributes := by
  induction attributes with
  | nil => simp [attributes?]
  | cons p attributes ih =>
      obtain ⟨hp, h⟩ := List.forall_mem_cons.1 h
      rw [List.map_cons, String.join_cons, String.toList_append,
        attributes?_attributeText hp.1 hp.2, ih h]
      rfl

/-! ## Matching tags -/

/-- Every closing tag closes the innermost open element, with at most `n` elements open at once, and
the outermost closes with the last mark. The names of the open elements are in `opened`, the innermost
first. -/
def Matched (n : Nat) : (opened : List String) → List Mark → Prop
  | opened, .opening name _ _ :: ms => opened.length < n ∧ Matched n (name :: opened) ms
  | [name], .closing name' text :: ms => name' = name ∧ text = "" ∧ ms = []
  | name :: parent :: outer, .closing name' _ :: ms => name' = name ∧ Matched n (parent :: outer) ms
  | _, _ => False

/-- The tags of a text match, and it ends with the outermost element; elements nest at most `n` deep. -/
def Balanced (n : Nat) (html : String) : Prop :=
  ∃ ms, marks? html.toList = some ms ∧ Matched n [] ms

end TalPage.Markup
