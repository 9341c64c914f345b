import TalPage.Proofs.Setting.Checked

/-!
# Fields of a record

A field is looked up under two names. What it comes to depends only on the entries under these names, so
that neither the order of a mapping nor what else stands in it is of any account.
-/

namespace TalPage

open Text (Points)

variable {σ α : Type} [Shaped σ]

/-- The entries of a mapping; whatever is none has no entries. -/
def Shape.entries : Shape σ → List (σ × σ)
  | .map entries => entries
  | _ => []

/-- The two names of a field; for most fields they are the same. -/
structure Field where
  otherName : String
  name : String
deriving DecidableEq

namespace Field

/-- A field with one name. -/
def plain (name : String) : Field := ⟨name, name⟩

/-- Whether a key is a name of the field. -/
def spells (f : Field) (key : Points) : Bool :=
  key == f.otherName || key == f.name

/-- Whether an entry stands under a name of the field. -/
def names (f : Field) (entry : σ × σ) : Bool :=
  (shape entry.1).isText f.otherName || (shape entry.1).isText f.name

/-- The entries under the names of the field. -/
def select (f : Field) (entries : List (σ × σ)) : List (σ × σ) :=
  entries.filter f.names

/-- What the field comes to among the entries of a record. -/
def check (f : Field) (entries : List (σ × σ)) (check : Check σ α) (default : α) : Checked σ α :=
  Check.field entries f.otherName f.name check default

/-- What is valid of the field among some entries is so among others, whatever its check. -/
def Agrees (f : Field) (entries entries' : List (σ × σ)) : Prop :=
  ∀ {α : Type} {c : Check σ α} {d a : α}, f.check entries c d = .valid a → f.check entries' c d = .valid a

/-- No name of the second field is a name of the first. -/
def Apart (f g : Field) : Prop :=
  f.spells g.otherName = false ∧ f.spells g.name = false

instance (f g : Field) : Decidable (f.Apart g) :=
  inferInstanceAs (Decidable (_ ∧ _))

variable {f g : Field} {entries entries' : List (σ × σ)} {key : Points} {c : Check σ α} {d : α}

/-! ## Names -/

theorem names_eq_spells {e : σ × σ} (h : shape e.1 = .scalar (.text key)) :
    f.names e = f.spells key := by
  simp [names, spells, h, Shape.isText]

theorem spells_iff : f.spells key = true ↔ key = Text.points f.otherName ∨ key = Text.points f.name := by
  simp [spells]

theorem Apart.spells_eq_false (h : f.Apart g) (hk : g.spells key = true) : f.spells key = false := by
  rcases spells_iff.1 hk with rfl | rfl
  · exact h.1
  · exact h.2

theorem Apart.symm (h : f.Apart g) : g.Apart f := by
  simp only [Apart, spells, Bool.or_eq_false_iff, beq_eq_false_iff_ne] at h ⊢
  exact ⟨⟨h.1.1.symm, h.2.1.symm⟩, h.1.2.symm, h.2.2.symm⟩

theorem Apart.names_eq_false (h : f.Apart g) {entry : σ × σ} (hn : g.names entry = true) :
    f.names entry = false := by
  unfold names Shape.isText at hn
  split at hn
  · next s hs =>
      rw [names_eq_spells hs]
      refine h.spells_eq_false (spells_iff.2 ?_)
      simpa using hn
  · cases hn

/-! ## Look-ups among the entries of a field -/

theorem names_of_isText (h : f.spells key = true) {entry : σ × σ}
    (ht : (shape entry.1).isText key = true) : f.names entry = true := by
  rcases spells_iff.1 h with rfl | rfl <;> simp [names, ht]

theorem valueUnder?_select (h : f.spells key = true) :
    valueUnder? key (f.select entries) = valueUnder? key entries := by
  have hp : (fun entry : σ × σ => decide (f.names entry = true ∧ (shape entry.1).isText key = true)) =
      fun entry => (shape entry.1).isText key := by
    funext entry
    rw [Bool.eq_iff_iff, decide_eq_true_iff]
    exact and_iff_right_of_imp (names_of_isText h)
  rw [valueUnder?, select, List.find?_filter, hp, valueUnder?]

theorem valueUnder?_select_of_not (h : f.spells key = false) : valueUnder? key (f.select entries) = none := by
  rw [valueUnder?, Option.map_eq_none_iff, List.find?_eq_none]
  rintro entry he ht
  have hn : f.names entry = true := (List.mem_filter.1 he).2
  unfold Shape.isText at ht
  split at ht
  · next s hs =>
      rw [names_eq_spells hs, beq_iff_eq.1 ht, h] at hn
      cases hn
  · cases ht

theorem check_select : f.check (f.select entries) c d = f.check entries c d := by
  simp only [check, Check.field, valueUnder?_select (spells_iff.2 (.inl rfl)),
    valueUnder?_select (spells_iff.2 (.inr rfl))]

theorem check_select_of_apart (h : f.Apart g) : g.check (f.select entries) c d = .valid d := by
  simp only [check, Check.field, valueUnder?_select_of_not h.1, valueUnder?_select_of_not h.2]

/-- A field depends only on the entries under its names. -/
theorem check_congr (h : f.select entries = f.select entries') :
    f.check entries c d = f.check entries' c d := by
  rw [← check_select, h, check_select]

theorem check_of_select_eq_nil (h : f.select entries = []) : f.check entries c d = .valid d := by
  rw [← check_select, h]
  rfl

theorem check_of_select_eq_singleton {k v : σ} {key : String} (h : f.select entries = [(k, v)])
    (hk : shape k = .scalar (.text key)) : f.check entries c d = (c v).inside (.key key) := by
  have hs : f.spells key = true := by
    have hm : (k, v) ∈ f.select entries := by simp [h]
    rw [← names_eq_spells hk (e := (k, v))]
    exact (List.mem_filter.1 hm).2
  rw [← check_select, h]
  by_cases ho : key = f.otherName
  · simp [check, Check.field, valueUnder?, hk, Shape.isText, ho]
  · -- Under its first name the field is not found, so the key is the second one.
    have hn : key = f.name :=
      Text.points_inj.1 ((spells_iff.1 hs).resolve_left fun h => ho (Text.points_inj.1 h))
    subst hn
    simp [check, Check.field, valueUnder?, hk, Shape.isText, ho]

end Field

/-- A choice of one of its names for every field. -/
structure Spelling where
  key : Field → String
  spells_key : ∀ f : Field, f.spells (key f) = true

/-- Every field under its own name. -/
def Spelling.names : Spelling where
  key := Field.name
  spells_key _ := Field.spells_iff.2 (.inr rfl)

end TalPage
