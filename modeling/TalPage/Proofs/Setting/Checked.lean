import TalPage.Setting.Check

/-!
# Outcomes of checks

What is valid, and which issues there are, when checks stand side by side or concern parts.
-/

namespace TalPage

/-- An issue with a part, located from the whole. -/
def Issue.under {σ : Type} (step : Step) (i : Issue σ) : Issue σ :=
  { i with location := step :: i.location }

namespace Checked

variable {σ α β : Type} {c : Checked σ α} {d : Checked σ β} {step : Step}

/-- The issues that have been found. -/
def issues : Checked σ α → List (Issue σ)
  | .valid _ => []
  | .invalid issues => issues

/-- Nothing is wrong. -/
def Accepted (c : Checked σ α) : Prop :=
  ∃ a, c = .valid a

/-! ## Valid outcomes -/

theorem accepted_valid (a : α) : (valid a : Checked σ α).Accepted :=
  ⟨a, rfl⟩

theorem and_eq_valid_iff {p : α × β} : c.and d = .valid p ↔ c = .valid p.1 ∧ d = .valid p.2 := by
  cases c <;> cases d <;> simp [Checked.and, Prod.ext_iff]

theorem map_eq_valid_iff {f : α → β} {b : β} : c.map f = .valid b ↔ ∃ a, c = .valid a ∧ f a = b := by
  cases c <;> simp [Checked.map]

theorem inside_eq_valid_iff {a : α} : c.inside step = .valid a ↔ c = .valid a := by
  cases c <;> simp [Checked.inside]

theorem accepted_and : (c.and d).Accepted ↔ c.Accepted ∧ d.Accepted := by
  simp [Accepted, and_eq_valid_iff]

theorem accepted_map {f : α → β} : (c.map f).Accepted ↔ c.Accepted := by
  cases c <;> simp [Checked.map, Accepted]

theorem all_map_valid (f : β → α) (l : List β) :
    all (l.map fun b => (valid (f b) : Checked σ α)) = .valid (l.map f) := by
  induction l with
  | nil => rfl
  | cons b l ih =>
      rw [List.map_cons, all, ih]
      rfl

/-! ## Issues -/

theorem issues_valid (a : α) : (valid a : Checked σ α).issues = [] :=
  rfl

theorem issues_and : (c.and d).issues = c.issues ++ d.issues := by
  cases c <;> cases d <;> simp [Checked.and, issues]

theorem issues_map (f : α → β) : (c.map f).issues = c.issues := by
  cases c <;> rfl

theorem issues_inside : (c.inside step).issues = c.issues.map (Issue.under step) := by
  cases c <;> rfl

end Checked

end TalPage
