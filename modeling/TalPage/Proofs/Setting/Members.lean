import TalPage.Proofs.Setting.Field

/-!
# Fields among the members of an object

An object is a record whose keys are texts. A field that no two of its members stand for comes to what the
value of the one member comes to, under whichever of its names that member stands.
-/

namespace TalPage

open Text (Points)

/-- The members of an object as entries of a record. -/
def Json.entries (ms : List (Points × Json)) : List (Json × Json) :=
  ms.map fun (key, value) => (.string key, value)

namespace Field

/-- The members that stand under the names of a field. -/
def among (f : Field) (ms : List (Points × Json)) : List (Points × Json) :=
  ms.filter fun m => f.spells m.1

/-- The values that stand under the names of a field. -/
def values (f : Field) (ms : List (Points × Json)) : List Json :=
  (f.among ms).map Prod.snd

variable {f g : Field} {ms ms' before after : List (Points × Json)} {key : Points} {v : Json}

/-! ## Members under the names of a field -/

theorem among_append : f.among (ms ++ ms') = f.among ms ++ f.among ms' :=
  List.filter_append ..

theorem among_cons_of_spells (h : f.spells key = true) : f.among ((key, v) :: ms) = (key, v) :: f.among ms :=
  List.filter_cons_of_pos h

theorem among_cons_of_not (h : f.spells key = false) : f.among ((key, v) :: ms) = f.among ms :=
  List.filter_cons_of_neg (by simp [h])

theorem among_key (s : Spelling) : f.among ((↑(s.key f), v) :: ms) = (↑(s.key f), v) :: f.among ms :=
  among_cons_of_spells (s.spells_key f)

theorem among_key_of_apart (s : Spelling) (h : f.Apart g) : f.among ((↑(s.key g), v) :: ms) = f.among ms :=
  among_cons_of_not (h.spells_eq_false (s.spells_key g))

theorem among_nil : f.among [] = [] :=
  rfl

theorem values_append_cons : f.values (before ++ (key, v) :: after) =
    f.values before ++ ((if f.spells key then [v] else []) ++ f.values after) := by
  cases h : f.spells key with
  | true => simp [values, among_append, among_cons_of_spells h]
  | false => simp [values, among_append, among_cons_of_not h]

theorem select_entries : f.select (Json.entries ms) = Json.entries (f.among ms) := by
  rw [Json.entries, select, List.filter_map]
  exact congrArg _ (List.filter_congr fun m _ => names_eq_spells rfl)

/-! ## What a field comes to -/

variable {α : Type} {c : Check Json α} {d a : α}

theorem check_of_among_eq_nil (h : f.among ms = []) : f.check (Json.entries ms) c d = .valid d :=
  check_of_select_eq_nil (by rw [select_entries, h]; rfl)

theorem check_of_among_eq_singleton {key : String} (h : f.among ms = [(Text.points key, v)]) :
    f.check (Json.entries ms) c d = (c v).inside (.key key) :=
  check_of_select_eq_singleton (k := .string key) (by rw [select_entries, h]; rfl) rfl

/-- A member under a name of the field stands under a text of characters. -/
theorem exists_of_among_eq_singleton (h : f.among ms = [(key, v)]) : ∃ name : String, key = name := by
  have hm : (key, v) ∈ f.among ms := by simp [h]
  rcases spells_iff.1 (List.mem_filter.1 hm).2 with hk | hk
  · exact ⟨f.otherName, hk⟩
  · exact ⟨f.name, hk⟩

/-- A field that is spelled once comes to what its value comes to. -/
theorem check_entries_eq_valid_iff (hl : (f.values ms).length ≤ 1) :
    f.check (Json.entries ms) c d = .valid a ↔
      f.values ms = [] ∧ d = a ∨ ∃ v, f.values ms = [v] ∧ c v = .valid a := by
  unfold values at hl ⊢
  match h : f.among ms, hl with
  | [], _ =>
      rw [check_of_among_eq_nil h]
      simp
  | [(key, v)], _ =>
      obtain ⟨name, rfl⟩ := exists_of_among_eq_singleton h
      rw [check_of_among_eq_singleton h, Checked.inside_eq_valid_iff]
      simp

theorem agrees_of_values (h : f.values ms = f.values ms') (hl : (f.values ms).length ≤ 1) :
    f.Agrees (Json.entries ms) (Json.entries ms') := by
  intro α c d a hv
  rw [check_entries_eq_valid_iff hl, h] at hv
  exact (check_entries_eq_valid_iff (h ▸ hl)).2 hv

end Field

end TalPage
