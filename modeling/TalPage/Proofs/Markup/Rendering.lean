import Mathlib.Data.List.TakeWhile
import TalPage.Proofs.Markup.Syntax

/-!
# Rendering

What the modifiers of a head do to its element, and the HTML that the element is written as. The
reader adds a space after each fragment of style and trims the sum; a head has one space between
each two of its fragments. The two agree since no fragment starts or ends with a blank.
-/

namespace TalPage.Markup
open Text

/-! ## Style -/

/-- The text starts with a character that is not blank. -/
structure FirstSolid (s : String) : Prop where
  head : s.toList.head?.any (!isBlank ·) = true

/-- The text ends with a character that is not blank. -/
structure LastSolid (s : String) : Prop where
  getLast : s.toList.getLast?.any (!isBlank ·) = true

def Solid (s : String) : Prop :=
  FirstSolid s ∧ LastSolid s

theorem firstSolid_ofList {l : List Char} (h : l.head?.any (!isBlank ·) = true) :
    FirstSolid (String.ofList l) :=
  ⟨by rwa [String.toList_ofList]⟩

theorem lastSolid_ofList {l : List Char} (h : l.getLast?.any (!isBlank ·) = true) :
    LastSolid (String.ofList l) :=
  ⟨by rwa [String.toList_ofList]⟩

theorem FirstSolid.append {s : String} (t : String) (h : FirstSolid s) : FirstSolid (s ++ t) := by
  have hs := h.head
  constructor
  rw [String.toList_append, List.head?_append]
  cases hc : s.toList.head? with
  | none => simp [hc] at hs
  | some c => simpa [hc] using hs

theorem LastSolid.append {t : String} (s : String) (h : LastSolid t) : LastSolid (s ++ t) := by
  have ht := h.getLast
  constructor
  rw [String.toList_append, List.getLast?_append]
  cases hc : t.toList.getLast? with
  | none => simp [hc] at ht
  | some c => simpa [hc] using ht

theorem Solid.append {s t : String} (u : String) (hs : Solid s) (ht : Solid t) :
    Solid (s ++ u ++ t) :=
  ⟨(hs.1.append u).append t, ht.2.append (s ++ u)⟩

set_option maxRecDepth 4000 in
-- The table is checked on the characters of its literals; decoding the texts themselves takes the
-- kernel too long.
theorem solid_of_mem_styles : ∀ p ∈ styles, Solid p.2 := by
  simp only [styles, List.forall_mem_cons, List.not_mem_nil, false_implies, implies_true, and_true]
  and_intros
  all_goals repeat with_reducible apply FirstSolid.append
  all_goals try with_reducible apply LastSolid.append
  all_goals first | exact firstSolid_ofList (by decide +kernel) | exact lastSolid_ofList (by decide +kernel)

theorem solid_of_styleFragment? {name fragment : String} (h : styleFragment? name = some fragment) :
    Solid fragment := by
  obtain ⟨l₁, l₂, hl, -⟩ := List.lookup_eq_some_iff.1 h
  exact solid_of_mem_styles (name, fragment) (by simp [hl])

theorem dropWhile_isBlank_eq_self {s : List Char} (h : s.head?.any (!isBlank ·) = true) :
    s.dropWhile isBlank = s := by
  cases s with
  | nil => rfl
  | cons c s =>
      have hc : ¬ isBlank c = true := by simpa using h
      exact List.dropWhile_cons_of_neg hc

theorem Solid.strip_append_space {s : String} (h : Solid s) : strip (s ++ " ") = s := by
  have hf : (s.toList ++ [' ']).head?.any (!isBlank ·) = true := by
    cases hl : s.toList with
    | nil => simpa [hl] using h.1.head
    | cons c cs => simpa [hl] using h.1.head
  have hl : s.toList.reverse.dropWhile isBlank = s.toList.reverse :=
    dropWhile_isBlank_eq_self (by rw [List.head?_reverse]; exact h.2.getLast)
  have hb : isBlank ' ' = true := by decide
  rw [strip, String.toList_append, show " ".toList = [' '] from rfl, trim,
    dropWhile_isBlank_eq_self hf, List.reverse_append, List.reverse_singleton, List.singleton_append,
    List.dropWhile_cons_of_pos hb, hl, List.reverse_reverse, String.ofList_toList]

theorem solid_intercalate {fs : List String} (hn : fs ≠ []) (h : ∀ f ∈ fs, Solid f) :
    Solid (" ".intercalate fs) := by
  induction fs with
  | nil => exact absurd rfl hn
  | cons f fs ih =>
      cases fs with
      | nil => simpa using h f (by simp)
      | cons g fs =>
          rw [String.intercalate_cons_cons]
          exact (h f (by simp)).append " " (ih (by simp) fun f' hf => h f' (by simp [hf]))

theorem join_map_space {fs : List String} (hn : fs ≠ []) :
    String.join (fs.map (· ++ " ")) = " ".intercalate fs ++ " " := by
  induction fs with
  | nil => exact absurd rfl hn
  | cons f fs ih =>
      cases fs with
      | nil => simp
      | cons g fs =>
          rw [List.map_cons, String.join_cons, ih (by simp), String.intercalate_cons_cons]
          simp only [String.append_assoc]

theorem strip_join_fragments {fs : List String} (h : ∀ f ∈ fs, Solid f) :
    strip (String.join (fs.map (· ++ " "))) = " ".intercalate fs := by
  cases fs with
  | nil => decide
  | cons f fs => rw [join_map_space (by simp), (solid_intercalate (by simp) h).strip_append_space]

/-! ## Elements -/

/-- A chain keeps the last id and the last action, and adds its fragments to the style. -/
theorem foldl_apply (ms : List Modifier) (e : Element) :
    ms.foldl Element.apply e =
      { e with
        id := (ms.filterMap Modifier.id?).getLast?.getD e.id
        style := e.style ++ String.join ((ms.filterMap Modifier.fragment?).map (· ++ " "))
        action := (ms.filterMap Modifier.action?).getLast?.getD e.action } := by
  induction ms generalizing e with
  | nil => simp
  | cons m ms ih =>
      rw [List.foldl_cons, ih]
      cases m with
      | style name =>
          cases hf : styleFragment? name with
          | none => simp [Element.apply, Modifier.id?, Modifier.action?, Modifier.fragment?, hf]
          | some f =>
              simp [Element.apply, Modifier.id?, Modifier.action?, Modifier.fragment?, hf,
                Element.addStyle, String.append_assoc]
      | action name =>
          have hf : (Modifier.action name :: ms).filterMap Modifier.fragment? =
              ms.filterMap Modifier.fragment? := rfl
          simp [Element.apply, Modifier.id?, Modifier.action?, hf, List.getLast?_cons]
      | id name =>
          have hf : (Modifier.id name :: ms).filterMap Modifier.fragment? =
              ms.filterMap Modifier.fragment? := rfl
          simp [Element.apply, Modifier.id?, Modifier.action?, hf, List.getLast?_cons]

/-- The element that the head of a node makes. -/
def Head.element (h : Head) : Element where
  tag := h.tagName
  id := h.id
  style := String.join ((h.modifiers.filterMap Modifier.fragment?).map (· ++ " "))
  action := h.action
  content := h.contentHtml

theorem Head.foldl_apply_modifiers (h : Head) :
    h.modifiers.foldl Element.apply { tag := h.tagName } = { h.element with content := "" } := by
  rw [foldl_apply]
  simp [element, id, action]

theorem solid_of_mem_fragments {ms : List Modifier} :
    ∀ f ∈ ms.filterMap Modifier.fragment?, Solid f := by
  intro f hf
  obtain ⟨m, -, hm⟩ := List.mem_filterMap.1 hf
  cases m with
  | style name => exact solid_of_styleFragment? hm
  | action _ | id _ => cases hm

theorem Head.strip_style (h : Head) : strip h.element.style = h.style :=
  strip_join_fragments solid_of_mem_fragments

theorem join_attributeText_ite {p : Prop} [Decidable p] (attributes : List (String × String)) :
    String.join ((if p then [] else attributes).map
      fun (name, value) => Element.attributeText name value) =
    if p then "" else String.join (attributes.map
      fun (name, value) => Element.attributeText name value) := by
  split <;> rfl

theorem Head.join_attributes (h : Head) (children : List String) :
    String.join (({ h.element with children := children } : Element).attributes.map
      fun (name, value) => Element.attributeText name value) = h.attributes := by
  have hs : strip ({ h.element with children := children } : Element).style = h.style := h.strip_style
  have hi : h.element.id = h.id := rfl
  have ha : h.element.action = h.action := rfl
  simp only [Element.attributes, hs, hi, ha, List.map_append, String.join_append,
    join_attributeText_ite]
  simp [Head.attributes, dispatcherName]

/-- The element of a head is written as the head is, with its children in order. -/
theorem Head.html_element (h : Head) (children : List String) :
    ({ h.element with children := children } : Element).html = h.html (String.join children) := by
  rw [Element.html, h.join_attributes]
  rfl

end TalPage.Markup
