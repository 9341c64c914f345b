import TalPage.File.Access

/-!
# Stores that grow

Making directories changes nothing that is there, and where every directory stays, every path that leads
somewhere goes on leading there.
-/

namespace TalPage.File.Store

open Text (Bytes Points)

variable {s s' s'' : Store} {l k : Location} {p : Path}

/-! ## What stays -/

/-- Every directory of a store is one in a later store. -/
structure Extends (s s' : Store) : Prop where
  working : s'.working = s.working
  missingLimit : s'.missingLimit = s.missingLimit
  directory : ∀ l, s.get? l = some .directory → s'.get? l = some .directory

theorem Extends.trans (h : Extends s s') (h' : Extends s' s'') : Extends s s'' where
  working := h'.working.trans h.working
  missingLimit := h'.missingLimit.trans h.missingLimit
  directory l hl := h'.directory l (h.directory l hl)

/-- At a location nothing has changed, but that a directory may have been made. -/
def KeptAt (s s' : Store) (l : Location) : Prop :=
  s'.get? l = s.get? l ∨ s.get? l = none ∧ s'.get? l = some .directory

theorem KeptAt.trans (h : KeptAt s s' l) (h' : KeptAt s' s'' l) : KeptAt s s'' l := by
  rcases h with h | ⟨hn, hd⟩
  · rcases h' with h' | ⟨hn', hd'⟩
    · exact .inl (h'.trans h)
    · exact .inr ⟨h ▸ hn', hd'⟩
  · rcases h' with h' | ⟨hn', -⟩
    · exact .inr ⟨hn, h'.trans hd⟩
    · rw [hd] at hn'
      cases hn'

theorem KeptAt.directory (h : KeptAt s s' l) (hl : s.get? l = some .directory) :
    s'.get? l = some .directory := by
  rcases h with h | ⟨hn, -⟩
  · exact h.trans hl
  · rw [hl] at hn
    cases hn

theorem KeptAt.file {bytes : Bytes} (h : KeptAt s s' l) :
    s'.get? l = some (.file bytes) ↔ s.get? l = some (.file bytes) := by
  rcases h with h | ⟨hn, hd⟩
  · rw [h]
  · simp [hn, hd]

/-- Directories have been made, and nothing else has changed. -/
structure Grown (s s' : Store) : Prop where
  working : s'.working = s.working
  missingLimit : s'.missingLimit = s.missingLimit
  kept : ∀ l, KeptAt s s' l

theorem Grown.refl (s : Store) : Grown s s where
  working := rfl
  missingLimit := rfl
  kept _ := .inl rfl

theorem Grown.trans (h : Grown s s') (h' : Grown s' s'') : Grown s s'' where
  working := h'.working.trans h.working
  missingLimit := h'.missingLimit.trans h.missingLimit
  kept l := (h.kept l).trans (h'.kept l)

theorem Grown.extends (h : Grown s s') : Extends s s' where
  working := h.working
  missingLimit := h.missingLimit
  directory l hl := (h.kept l).directory hl

theorem ne_nil_of_get?_ne (h : s.get? l ≠ some .directory) : l ≠ [] := by
  rintro rfl
  exact h rfl

theorem ne_nil_of_get?_eq_none (h : s.get? l = none) : l ≠ [] :=
  ne_nil_of_get?_ne (s := s) (by simp [h])

theorem grown_put (h : s.get? l = none) : Grown s (s.put l .directory) where
  working := rfl
  missingLimit := rfl
  kept k := by
    by_cases hk : k = l
    · subst hk
      exact .inr ⟨h, get?_put_self (ne_nil_of_get?_eq_none h)⟩
    · exact .inl (get?_put_of_ne hk)

theorem extends_put {e : Entry} (h : s.get? l ≠ some .directory) : Extends s (s.put l e) where
  working := rfl
  missingLimit := rfl
  directory k hk := by
    have hkl : k ≠ l := by
      rintro rfl
      exact h hk
    rwa [get?_put_of_ne hkl]

theorem put_put (e : Entry) : (s.put l e).put l e = s.put l e := by
  simp [put, List.filter_filter]

/-! ## Paths -/

theorem step_eq_ok_iff {name : Bytes} :
    s.step l name = .ok k ↔ s.get? l = some .directory ∧
      (if name = twoDots then l.dropLast = k else name.length ≤ nameLimit ∧ l ++ [name] = k) := by
  unfold step
  cases hl : s.get? l with
  | none => simp
  | some e =>
      cases e with
      | file bytes => simp
      | directory =>
          by_cases hn : name = twoDots
          · simp [hn]
          · by_cases hs : nameLimit < name.length
            · simp [hn, hs, Nat.not_le.2 hs]
            · simp [hn, hs, Nat.not_lt.1 hs]

theorem Extends.step (h : Extends s s') {name : Bytes} (hs : s.step l name = .ok k) :
    s'.step l name = .ok k := by
  obtain ⟨hd, hk⟩ := step_eq_ok_iff.1 hs
  exact step_eq_ok_iff.2 ⟨h.directory l hd, hk⟩

theorem Extends.foldlM (h : Extends s s') {names : List Bytes} (hs : names.foldlM s.step l = .ok k) :
    names.foldlM s'.step l = .ok k := by
  induction names generalizing l with
  | nil => exact hs
  | cons name names ih =>
      rw [List.foldlM_cons] at hs ⊢
      cases hn : s.step l name with
      | error refusal =>
          rw [hn] at hs
          cases hs
      | ok l' =>
          rw [hn] at hs
          rw [h.step hn]
          exact ih hs

theorem Extends.locate (h : Extends s s') (hl : s.locate p = .ok l) : s'.locate p = .ok l := by
  unfold Store.locate at hl ⊢
  split at hl
  · cases hl
  · next hp =>
      rw [if_neg hp, h.working]
      exact h.foldlM hl

theorem look_eq_ok_iff {e : Entry} :
    s.look p = .ok e ↔ ∃ l, s.locate p = .ok l ∧ s.get? l = some e := by
  unfold look
  cases hl : s.locate p with
  | error refusal => simp [bind, Except.bind]
  | ok l =>
      cases he : s.get? l with
      | none => simp [bind, Except.bind, he]
      | some e' => simp [bind, Except.bind, he]

theorem exists?_eq_true_iff :
    s.exists? p = .ok true ↔ p.fault? = none ∧ ∃ entry, s.look p = .ok entry := by
  cases hn : p.fault? with
  | some fault => simp [exists?, hn]
  | none =>
      cases hl : s.look p with
      | ok entry => simp [exists?, hn, hl]
      | error refusal => cases refusal <;> simp [exists?, hn, hl]

theorem readText_eq_ok_iff (hn : p.fault? = none) {text : String} {charset : Text.Charset} :
    s.readText p charset = .ok text ↔
      ∃ bytes cs, s.look p = .ok (.file bytes) ∧ Text.decode charset bytes = .ok cs ∧
        text = String.ofList (Text.unifyNewlines cs) := by
  cases hl : s.look p with
  | error refusal => simp [readText, read, hn, hl, bind, Except.bind]
  | ok entry =>
      cases entry with
      | directory => simp [readText, read, hn, hl, bind, Except.bind]
      | file bytes =>
          cases hd : Text.decode charset bytes with
          | error fault => simp [readText, read, hn, hl, hd, bind, Except.bind]
          | ok cs => simp [readText, read, hn, hl, hd, bind, Except.bind, eq_comm]

theorem isDirectory_iff :
    s.isDirectory p = true ↔ ∃ l, s.locate p = .ok l ∧ s.get? l = some .directory := by
  rw [← look_eq_ok_iff]
  unfold isDirectory
  cases s.look p with
  | error refusal => simp
  | ok e => cases e <;> simp

theorem Extends.isDirectory (h : Extends s s') (hd : s.isDirectory p = true) :
    s'.isDirectory p = true := by
  obtain ⟨l, hl, he⟩ := isDirectory_iff.1 hd
  exact isDirectory_iff.2 ⟨l, h.locate hl, h.directory l he⟩

/-! ## Making directories -/

theorem makeDirectory_eq_ok_iff :
    s.makeDirectory p = .ok s' ↔
      ∃ l, s.locate p = .ok l ∧ s.get? l = none ∧ s' = s.put l .directory := by
  unfold makeDirectory
  cases hl : s.locate p with
  | error refusal => simp [bind, Except.bind]
  | ok l => cases he : s.get? l <;> simp [bind, Except.bind, he, eq_comm]

theorem makeDirectory_of_isDirectory (h : s.isDirectory p = true) :
    s.makeDirectory p = .error .exists := by
  obtain ⟨l, hl, he⟩ := isDirectory_iff.1 h
  simp [makeDirectory, hl, he, bind, Except.bind]

theorem ensureDirectory_of_isDirectory (h : s.isDirectory p = true) :
    s.ensureDirectory p = (.ok (), s) := by
  rw [ensureDirectory, makeDirectory_of_isDirectory h]
  exact if_pos h

theorem grown_ensureDirectory {result : Except Fault Unit} (h : s.ensureDirectory p = (result, s')) :
    Grown s s' := by
  unfold ensureDirectory at h
  cases hm : s.makeDirectory p with
  | ok s₁ =>
      rw [hm] at h
      cases h
      obtain ⟨l, -, hn, rfl⟩ := makeDirectory_eq_ok_iff.1 hm
      exact grown_put hn
  | error refusal =>
      simp only [hm] at h
      split at h <;> cases h <;> exact Grown.refl s

theorem isDirectory_ensureDirectory (h : s.ensureDirectory p = (.ok (), s')) :
    s'.isDirectory p = true := by
  have hg := grown_ensureDirectory h
  unfold ensureDirectory at h
  cases hm : s.makeDirectory p with
  | ok s₁ =>
      rw [hm] at h
      cases h
      obtain ⟨l, hl, hn, rfl⟩ := makeDirectory_eq_ok_iff.1 hm
      exact isDirectory_iff.2 ⟨l, hg.extends.locate hl,
        get?_put_self (ne_nil_of_get?_eq_none hn)⟩
  | error refusal =>
      simp only [hm] at h
      split at h
      · cases h
        assumption
      · cases h

theorem ensureDirectories_cons (s : Store) (root name : Points) (outer : List Points) :
    s.ensureDirectories root (name :: outer) =
        s.ensureDirectory { root := root, names := (name :: outer).reverse } ∨
      (∃ fault s₁, s.ensureDirectories root outer = (.error fault, s₁) ∧
        s.ensureDirectories root (name :: outer) = (.error fault, s₁)) ∨
      ∃ s₁, s.ensureDirectories root outer = (.ok (), s₁) ∧
        s.ensureDirectories root (name :: outer) =
          s₁.ensureDirectory { root := root, names := (name :: outer).reverse } := by
  rw [ensureDirectories]
  split
  · split
    · next fault s₁ ho => exact .inr (.inl ⟨fault, s₁, ho, rfl⟩)
    · next s₁ ho => exact .inr (.inr ⟨s₁, ho, rfl⟩)
  · exact .inl rfl

theorem grown_ensureDirectories {root : Points} {names : List Points} {result : Except Fault Unit}
    (h : s.ensureDirectories root names = (result, s')) : Grown s s' := by
  induction names generalizing s' result with
  | nil =>
      cases h
      exact Grown.refl s
  | cons name outer ih =>
      rcases ensureDirectories_cons s root name outer with
        he | ⟨fault, s₁, ho, he⟩ | ⟨s₁, ho, he⟩
      · exact grown_ensureDirectory (he ▸ h)
      · rw [he] at h
        cases h
        exact ih ho
      · exact (ih ho).trans (grown_ensureDirectory (he ▸ h))

theorem isDirectory_ensureDirectories {root name : Points} {outer : List Points}
    (h : s.ensureDirectories root (name :: outer) = (.ok (), s')) :
    s'.isDirectory { root := root, names := (name :: outer).reverse } = true := by
  rcases ensureDirectories_cons s root name outer with
    he | ⟨fault, s₁, -, he⟩ | ⟨s₁, -, he⟩
  · exact isDirectory_ensureDirectory (he ▸ h)
  · rw [he] at h
    cases h
  · exact isDirectory_ensureDirectory (he ▸ h)

theorem ensureDirectories_of_isDirectory {root name : Points} {outer : List Points}
    (h : s.isDirectory { root := root, names := (name :: outer).reverse } = true) :
    s.ensureDirectories root (name :: outer) = (.ok (), s) := by
  rw [ensureDirectories, makeDirectory_of_isDirectory h]
  exact ensureDirectory_of_isDirectory h

theorem grown_makeParents {result : Except Fault Unit} (h : s.makeParents p = (result, s')) :
    Grown s s' := by
  unfold makeParents at h
  split at h
  · cases h
    exact Grown.refl s
  split at h
  · cases h
    exact Grown.refl s
  split at h
  · cases h
    exact Grown.refl s
  · exact grown_ensureDirectories h

theorem missing_of_isDirectory {root name : Points} {outer : List Points}
    (h : s.isDirectory { root := root, names := (name :: outer).reverse } = true) :
    s.missing root (name :: outer) = 0 := by
  rw [missing, makeDirectory_of_isDirectory h]

/-- The directories on the way that have been made once need not be made again. -/
theorem makeParents_again (h : s.makeParents p = (.ok (), s')) (he : Extends s' s'') :
    s''.makeParents p = (.ok (), s'') := by
  unfold makeParents at h ⊢
  split at h
  · next hp => rw [if_pos hp]
  · next hp =>
      rw [if_neg hp]
      cases hn : p.parent.fault? with
      | some fault =>
          rw [hn] at h
          cases h
      | none =>
          rw [hn] at h
          dsimp only at h ⊢
          split at h
          · cases h
          · generalize hr : p.parent.names.reverse = names at h ⊢
            cases names with
            | nil => rfl
            | cons name outer =>
                have hd := he.isDirectory (isDirectory_ensureDirectories h)
                rw [missing_of_isDirectory hd, if_neg (Nat.not_lt_zero _)]
                exact ensureDirectories_of_isDirectory hd

end TalPage.File.Store
