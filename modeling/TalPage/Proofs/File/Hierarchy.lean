import Mathlib.Data.List.Induction
import TalPage.Proofs.File.Growth

/-!
# Directory hierarchies

In a file system everything stands in a directory. A path that leads out of directories only at its start
then leads to nothing new once directories have been made on the way to it.
-/

namespace TalPage.File

open Text (Bytes)

/-- Two dots stand only at the start of the path. -/
def Path.Direct (p : Path) : Prop :=
  Store.twoDots ∉ (p.names.map nameBytes).dropWhile (· = Store.twoDots)

namespace Store

variable {s s' : Store} {l : Location} {p : Path} {e : Entry}

/-- Everything stands in a directory, and relative paths start from one. -/
structure WellFormed (s : Store) : Prop where
  working : s.get? s.working = some .directory
  parents : ∀ l e, s.get? l = some e → s.get? l.dropLast = some .directory

theorem WellFormed.directory_of_append (h : s.WellFormed) {names : List Bytes} (hn : names ≠ [])
    (he : s.get? (l ++ names) = some e) : s.get? l = some .directory := by
  induction names using List.reverseRecOn generalizing e with
  | nil => exact absurd rfl hn
  | append_singleton names name ih =>
      have hd := h.parents _ _ he
      rw [← List.append_assoc, List.dropLast_concat] at hd
      by_cases hs : names = []
      · rwa [hs, List.append_nil] at hd
      · exact ih hs hd

theorem eq_append_of_foldlM_step {names : List Bytes} {start : Location} (hn : twoDots ∉ names)
    (hl : names.foldlM s.step start = .ok l) : l = start ++ names := by
  induction names generalizing start with
  | nil =>
      cases hl
      exact (List.append_nil _).symm
  | cons name names ih =>
      rw [List.mem_cons, not_or] at hn
      rw [List.foldlM_cons] at hl
      cases hs : s.step start name with
      | error refusal =>
          rw [hs] at hl
          cases hl
      | ok next =>
          rw [hs] at hl
          have hk := (step_eq_ok_iff.1 hs).2
          rw [if_neg (Ne.symm hn.1)] at hk
          rw [ih hn.2 hl, ← hk.2, List.append_assoc, List.singleton_append]

/-- What stands where names lead in a later store is led to already, if there are no two dots. -/
theorem WellFormed.foldlM_step (h : s.WellFormed) {names : List Bytes} {start : Location}
    (hn : twoDots ∉ names) (hl : names.foldlM s'.step start = .ok l) (he : s.get? l = some e) :
    names.foldlM s.step start = .ok l := by
  have hs := eq_append_of_foldlM_step hn hl
  induction names generalizing start with
  | nil => exact hl
  | cons name names ih =>
      have hd : s.get? start = some .directory :=
        h.directory_of_append (List.cons_ne_nil name names) (hs ▸ he)
      rw [List.mem_cons, not_or] at hn
      rw [List.foldlM_cons] at hl ⊢
      cases hk : s'.step start name with
      | error refusal =>
          rw [hk] at hl
          cases hl
      | ok next =>
          rw [hk] at hl
          rw [step_eq_ok_iff.2 ⟨hd, (step_eq_ok_iff.1 hk).2⟩]
          exact ih hn.2 hl (eq_append_of_foldlM_step hn.2 hl)

theorem WellFormed.foldlM_step_direct (h : s.WellFormed) {names : List Bytes} {start : Location}
    (hd : s.get? start = some .directory) (hn : twoDots ∉ names.dropWhile (· = twoDots))
    (hl : names.foldlM s'.step start = .ok l) (he : s.get? l = some e) :
    names.foldlM s.step start = .ok l := by
  induction names generalizing start with
  | nil => exact hl
  | cons name names ih =>
      by_cases ht : name = twoDots
      · subst ht
        rw [List.dropWhile_cons_of_pos (by simp)] at hn
        rw [List.foldlM_cons] at hl ⊢
        cases hk : s'.step start twoDots with
        | error refusal =>
            rw [hk] at hl
            cases hl
        | ok next =>
            rw [hk] at hl
            have ho := (step_eq_ok_iff.1 hk).2
            rw [step_eq_ok_iff.2 ⟨hd, ho⟩]
            rw [if_pos rfl] at ho
            exact ih (ho ▸ h.parents _ _ hd) hn hl
      · rw [List.dropWhile_cons_of_neg (by simpa using ht)] at hn
        exact h.foldlM_step hn hl he

/-- Where a path that is direct leads in a later store, nothing stood when the path led nowhere. -/
theorem WellFormed.get?_eq_none (h : s.WellFormed) (hp : p.Direct) (hn : p.fault? = none)
    (he : s.exists? p = .ok false) (hw : s'.working = s.working) (hl : s'.locate p = .ok l) :
    s.get? l = none := by
  cases hg : s.get? l with
  | none => rfl
  | some e =>
      have hs : s.locate p = .ok l := by
        unfold locate at hl ⊢
        split at hl
        · cases hl
        · next ht =>
            rw [if_neg ht]
            rw [hw] at hl
            refine h.foldlM_step_direct ?_ hp hl hg
            split
            · rfl
            · exact h.working
      rw [exists?_eq_true_iff.2 ⟨hn, e, look_eq_ok_iff.2 ⟨l, hs, hg⟩⟩] at he
      cases he

end Store

end TalPage.File
