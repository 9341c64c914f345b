import Mathlib.Data.List.Nodup
import Mathlib.Data.List.Perm.Basic
import TalPage.Json.Basic
import TalPage.Proofs.Text.Encoding

/-!
# Members

Pairs of keys and values as a mapping: two lists without repeated keys are the same mapping exactly if
they are the same in the order of their keys.
-/

namespace TalPage.Json

open Text (CodePoint Points)

variable {α : Type} {l l' : List (Points × α)} {key key' : Points} {a : α}

/-! ## Mappings -/

theorem lookup_eq_some_iff_mem (h : (l.map Prod.fst).Nodup) : l.lookup key = some a ↔ (key, a) ∈ l := by
  induction l with
  | nil => simp
  | cons m l ih =>
      obtain ⟨key', b⟩ := m
      obtain ⟨hn, h⟩ := List.nodup_cons.1 h
      rw [List.lookup_cons, List.mem_cons]
      by_cases hk : key = key'
      · subst hk
        have hm : (key, a) ∉ l := fun hm => hn (List.mem_map.2 ⟨_, hm, rfl⟩)
        simp [hm, eq_comm]
      · simp [beq_eq_false_iff_ne.2 hk, hk, ih h]

/-- Lists without repeated keys hold the same members exactly if they are the same mapping. -/
theorem perm_iff_lookup (h : (l.map Prod.fst).Nodup) (h' : (l'.map Prod.fst).Nodup) :
    l.Perm l' ↔ ∀ key, l.lookup key = l'.lookup key := by
  rw [List.perm_ext_iff_of_nodup h.of_map h'.of_map]
  constructor
  · intro hm key
    ext a
    rw [lookup_eq_some_iff_mem h, lookup_eq_some_iff_mem h', hm]
  · rintro hk ⟨key, a⟩
    rw [← lookup_eq_some_iff_mem h, ← lookup_eq_some_iff_mem h', hk]

/-! ## The order of keys -/

theorem toNat_injective : Function.Injective CodePoint.toNat := by
  intro p q h
  rw [← CodePoint.ofNat_toNat p, h, CodePoint.ofNat_toNat]

/-- The first code points that differ are in order, or the text is a beginning of the other. -/
inductive KeyLt : Points → Points → Prop
  | shorter (q : CodePoint) (t : Points) : KeyLt [] (q :: t)
  | differ {p q : CodePoint} (s t : Points) (h : p.toNat < q.toNat) : KeyLt (p :: s) (q :: t)
  | agree (p : CodePoint) {s t : Points} (h : KeyLt s t) : KeyLt (p :: s) (p :: t)

theorem keyLe_cons {p q : CodePoint} {s t : Points} :
    keyLe (p :: s) (q :: t) = true ↔ p.toNat < q.toNat ∨ p = q ∧ keyLe s t = true := by
  simp [keyLe]

theorem keyLe_refl (key : Points) : keyLe key key = true := by
  induction key with
  | nil => rfl
  | cons p s ih => exact keyLe_cons.2 (.inr ⟨rfl, ih⟩)

theorem keyLe_trans {key key' key'' : Points} (h : keyLe key key' = true) (h' : keyLe key' key'' = true) :
    keyLe key key'' = true := by
  induction key generalizing key' key'' with
  | nil => rfl
  | cons p s ih =>
      cases key' with
      | nil => cases h
      | cons q t =>
          cases key'' with
          | nil => cases h'
          | cons r u =>
              rcases keyLe_cons.1 h with hpq | ⟨rfl, hst⟩
              · rcases keyLe_cons.1 h' with hqr | ⟨rfl, -⟩
                · exact keyLe_cons.2 (.inl (Nat.lt_trans hpq hqr))
                · exact keyLe_cons.2 (.inl hpq)
              · rcases keyLe_cons.1 h' with hqr | ⟨rfl, htu⟩
                · exact keyLe_cons.2 (.inl hqr)
                · exact keyLe_cons.2 (.inr ⟨rfl, ih hst htu⟩)

/-- Of two different texts one is before the other. -/
theorem keyLt_trichotomy (key key' : Points) : KeyLt key key' ∨ key = key' ∨ KeyLt key' key := by
  induction key generalizing key' with
  | nil =>
      cases key' with
      | nil => exact .inr (.inl rfl)
      | cons q t => exact .inl (.shorter q t)
  | cons p s ih =>
      cases key' with
      | nil => exact .inr (.inr (.shorter p s))
      | cons q t =>
          rcases Nat.lt_trichotomy p.toNat q.toNat with hl | he | hl
          · exact .inl (.differ s t hl)
          · cases toNat_injective he
            rcases ih t with h | rfl | h
            · exact .inl (.agree p h)
            · exact .inr (.inl rfl)
            · exact .inr (.inr (.agree p h))
          · exact .inr (.inr (.differ t s hl))

theorem KeyLt.le (h : KeyLt key key') : keyLe key key' = true := by
  induction h with
  | shorter => rfl
  | differ s t h => exact keyLe_cons.2 (.inl h)
  | agree p h ih => exact keyLe_cons.2 (.inr ⟨rfl, ih⟩)

theorem KeyLt.not_le (h : KeyLt key key') : ¬ keyLe key' key = true := by
  induction h with
  | shorter => exact nofun
  | differ s t h =>
      rw [keyLe_cons]
      rintro (hl | ⟨rfl, -⟩)
      · exact Nat.lt_asymm h hl
      · exact Nat.lt_irrefl _ h
  | agree p h ih =>
      rw [keyLe_cons]
      rintro (hl | ⟨-, hl⟩)
      · exact Nat.lt_irrefl _ hl
      · exact ih hl

theorem keyLe_total (key key' : Points) : keyLe key key' = true ∨ keyLe key' key = true := by
  rcases keyLt_trichotomy key key' with h | rfl | h
  · exact .inl h.le
  · exact .inl (keyLe_refl key)
  · exact .inr h.le

theorem keyLt_of_keyLe (h : keyLe key key' = true) (hn : key ≠ key') : KeyLt key key' := by
  rcases keyLt_trichotomy key key' with hl | he | hl
  · exact hl
  · exact absurd he hn
  · exact absurd h hl.not_le

theorem keyLe_antisymm (h : keyLe key key' = true) (h' : keyLe key' key = true) : key = key' :=
  Decidable.by_contra fun hn => (keyLt_of_keyLe h hn).not_le h'

theorem perm_sortByKey (l : List (Points × α)) : (sortByKey l).Perm l :=
  List.mergeSort_perm l _

theorem pairwise_sortByKey (l : List (Points × α)) :
    (sortByKey l).Pairwise fun m n => keyLe m.1 n.1 = true := by
  refine List.pairwise_mergeSort (fun _ _ _ h h' => ?_) (fun m n => ?_) l
  · exact keyLe_trans h h'
  · simpa using keyLe_total m.1 n.1

theorem pairwise_keys_sortByKey (h : (l.map Prod.fst).Nodup) :
    ((sortByKey l).map Prod.fst).Pairwise KeyLt := by
  have hn : ((sortByKey l).map Prod.fst).Nodup := ((perm_sortByKey l).map _).nodup_iff.2 h
  have hp : ((sortByKey l).map Prod.fst).Pairwise fun key key' => keyLe key key' = true :=
    List.pairwise_map.2 (pairwise_sortByKey l)
  exact (hp.and hn).imp fun h => keyLt_of_keyLe h.1 h.2

/-- Lists without repeated keys have the same members in order exactly if they have the same members. -/
theorem sortByKey_eq_iff (h : (l.map Prod.fst).Nodup) : sortByKey l = sortByKey l' ↔ l.Perm l' := by
  constructor
  · intro he
    exact (perm_sortByKey l).symm.trans (he ▸ perm_sortByKey l')
  · intro hp
    refine List.Perm.eq_of_pairwise ?_ (pairwise_sortByKey l) (pairwise_sortByKey l')
      ((perm_sortByKey l).trans (hp.trans (perm_sortByKey l').symm))
    rintro ⟨key, a⟩ ⟨key', b⟩ ha hb hle hle'
    -- Members with the same key are the same, since no key is repeated.
    cases keyLe_antisymm hle hle'
    have ha := (lookup_eq_some_iff_mem h).2 ((perm_sortByKey l).mem_iff.1 ha)
    have hb := (lookup_eq_some_iff_mem h).2 (hp.mem_iff.2 ((perm_sortByKey l').mem_iff.1 hb))
    rw [ha] at hb
    cases hb
    rfl

end TalPage.Json
