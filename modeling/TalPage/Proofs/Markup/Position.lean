import TalPage.Markup.Cursor

/-!
# Positions

A cursor within its text stands between the text before it and the text left to read. What is read is
taken from the second part and added to the first, so that positions are lengths of texts read.
-/

namespace TalPage.Markup.Cursor

variable {before read after : List Char} {c : Cursor}

/-- The cursor between two parts of a text. -/
def between (before after : List Char) : Cursor :=
  ⟨before ++ after, before.length⟩

@[simp]
theorem source_between (before after : List Char) :
    (between before after).source = before ++ after := rfl

@[simp]
theorem position_between (before after : List Char) :
    (between before after).position = before.length := rfl

@[simp]
theorem rest_between (before after : List Char) : (between before after).rest = after := by
  simp [rest]

theorem Within.exists_between (hc : c.Within) : ∃ before, c = between before c.rest := by
  obtain ⟨source, position⟩ := c
  obtain ⟨n, rfl⟩ := Int.eq_ofNat_of_zero_le hc.1
  have hn : n ≤ source.length := by simpa using hc.2
  refine ⟨source.take n, ?_⟩
  simp [between, rest, Nat.min_eq_left hn]

/-- What is read stands before the cursor afterwards. -/
theorem withRest_between (before read after : List Char) :
    (between before (read ++ after)).withRest after = between (before ++ read) after := by
  simp only [withRest, between, List.append_assoc, List.length_append, Cursor.mk.injEq, true_and]
  omega

theorem atEnd_between : (between before after).atEnd = true ↔ after = [] := by
  simp only [atEnd, source_between, position_between, decide_eq_true_eq, List.length_append]
  rw [← List.length_eq_zero_iff]
  omega

theorem peek_between_cons (before : List Char) (char : Char) (after : List Char) :
    (between before (char :: after)).peek = .ok (some char) := by
  have he : ¬ (between before (char :: after)).atEnd = true := by simp [atEnd_between]
  have h0 : ¬ (before.length : Int) < 0 := by omega
  have hl : ¬ (before.length : Int) < leastIndex := by simp only [leastIndex]; omega
  simp [peek, he, h0, hl]

theorem exists_cons_of_peek {char : Char} (h : (between before after).peek = .ok (some char)) :
    ∃ rest, after = char :: rest := by
  cases after with
  | nil => simp [peek, atEnd_between] at h
  | cons c rest =>
      rw [peek_between_cons] at h
      cases h
      exact ⟨rest, rfl⟩

end TalPage.Markup.Cursor
