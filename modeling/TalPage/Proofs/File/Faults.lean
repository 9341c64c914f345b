import Mathlib.Data.List.Induction
import TalPage.Proofs.File.Writing

/-!
# Faults of files

Without a null character in its path, a file cannot be read or written because the file system refuses it,
because its bytes are no text, or because one of a few things escapes the file system: the path or the text
has no bytes, or too many directories are missing on the way. The last is decided before anything is made,
and never comes about by what is made.
-/

namespace TalPage.File

open Text (Bytes CodePoint Points)

/-! ## Null characters -/

theorem subset_of_mem_splitOn {α : Type} [DecidableEq α] {c : α} {cs part : List α}
    (h : part ∈ cs.splitOn c) : part ⊆ cs := by
  induction cs generalizing part with
  | nil =>
      rw [List.splitOn, List.splitOnP_nil, List.mem_singleton] at h
      exact h ▸ List.Subset.refl []
  | cons d cs ih =>
      rw [List.splitOn, List.splitOnP_cons_eq_if_modifyHead] at h
      split at h
      · rcases List.mem_cons.1 h with rfl | h
        · exact List.nil_subset _
        · exact List.subset_cons_of_subset d (ih h)
      · obtain ⟨first, parts, hs⟩ := List.exists_cons_of_ne_nil (List.splitOnP_ne_nil (· == c) cs)
        rw [List.splitOn, hs] at ih
        rw [hs, List.modifyHead_cons] at h
        rcases List.mem_cons.1 h with rfl | h
        · exact List.cons_subset_cons d (ih List.mem_cons_self)
        · exact List.subset_cons_of_subset d (ih (List.mem_cons_of_mem _ h))

theorem toNat_eq_zero_iff {c : CodePoint} : c.toNat = 0 ↔ c = .char '\x00' := by
  cases c with
  | char c => exact ⟨fun h => congrArg CodePoint.char (Char.toNat_inj.1 h), fun h => h ▸ rfl⟩
  | surrogate n => simp [CodePoint.toNat]

namespace Path

variable {p : Path}

theorem hasNull_eq_false_iff : p.hasNull = false ↔ ∀ name ∈ p.names, .char '\x00' ∉ name := by
  simp only [hasNull, List.any_eq_false, Bool.not_eq_true, decide_eq_false_iff_not, toNat_eq_zero_iff]
  exact forall₂_congr fun name _ => ⟨fun h hm => h _ hm rfl, fun h c hm he => h (he ▸ hm)⟩

theorem hasNull_parent (h : p.hasNull = false) : p.parent.hasNull = false :=
  hasNull_eq_false_iff.2 fun name hm => hasNull_eq_false_iff.1 h name (List.dropLast_subset _ hm)

theorem hasNull_ofText {text : Points} (h : .char '\x00' ∉ text) : (ofText text).hasNull = false :=
  hasNull_eq_false_iff.2 fun _ hm hc => h (subset_of_mem_splitOn (List.mem_filter.1 hm).1 hc)

/-- No file system takes a path without null characters that has no bytes, and only that. -/
theorem fault?_of_hasNull (h : p.hasNull = false) : p.fault? = p.encodeFault?.map .unencodable := by
  unfold fault?
  cases p.encodeFault? with
  | some fault => rfl
  | none => simp [h]

theorem encodeFault?_eq_none (h : ∀ c ∈ p.text, isNameable c = true) : p.encodeFault? = none := by
  rw [encodeFault?, List.dropWhile_eq_nil_iff.2 h]

/-- What holds of a slash, of a dot and of all in the names of a relative path holds of all in its text. -/
theorem forall_mem_text {P : CodePoint → Prop} {names : List Points} (hs : P (.char '/')) (hd : P (.char '.'))
    (h : ∀ name ∈ names, ∀ c ∈ name, P c) : ∀ c ∈ text { names := names }, P c := by
  have hi : ∀ c ∈ List.intercalate "/" names, P c := by
    induction names with
    | nil => exact List.forall_mem_nil P
    | cons name names ih =>
        obtain ⟨hn, hr⟩ := List.forall_mem_cons.1 h
        cases names with
        | nil => simpa using hn
        | cons next names =>
            rw [List.intercalate_cons_cons, List.forall_mem_append, List.forall_mem_append]
            exact ⟨⟨hn, List.forall_mem_singleton.2 hs⟩, ih hr⟩
  unfold text
  split
  · exact List.forall_mem_singleton.2 hd
  · exact hi

/-- A relative path is what its text stands for. -/
theorem ofText_text {names : List Points} (hn : names ≠ [])
    (h : ∀ name ∈ names, name ≠ [] ∧ name ≠ "." ∧ .char '/' ∉ name) :
    ofText (text { names := names }) = { names := names } := by
  have ht : text { names := names } = List.intercalate [.char '/'] names := by
    rw [text, if_neg fun hc => hn hc.2, List.nil_append]
    rfl
  have hsplit : (List.intercalate [.char '/'] names).splitOn (.char '/') = names :=
    List.splitOn_intercalate _ (fun name hm => (h name hm).2.2) hn
  have hroot : (List.intercalate [.char '/'] names).takeWhile (· = .char '/') = [] := by
    cases names with
    | nil => exact absurd rfl hn
    | cons name names =>
        obtain ⟨he, -, hs⟩ := h name List.mem_cons_self
        cases name with
        | nil => exact absurd rfl he
        | cons c cs =>
            have hc : c ≠ .char '/' := fun hc => hs (hc ▸ List.mem_cons_self)
            cases names with
            | nil => simp [List.intercalate, hc]
            | cons next names => simp [List.intercalate, hc]
  have hfilter : names.filter (fun name => name ≠ [] ∧ name ≠ ".") = names :=
    List.filter_eq_self.2 fun name hm => decide_eq_true ⟨(h name hm).1, (h name hm).2.1⟩
  simp only [ofText, ht, hsplit, hroot, hfilter, List.length_nil, ↓reduceIte]

end Path

/-! ## Faults -/

/-- The file system refuses a path, or the bytes of a file are no text. -/
def Fault.Common : Fault → Prop
  | .refused _ _ => True
  | .undecodable _ => True
  | _ => False

namespace Store

variable {s s' s'' : Store} {l : Location} {p : Path} {text : Points} {fault : Fault}

/-- More directories are missing on the way to a file than can be made for it. -/
def TooFar (s : Store) (p : Path) : Prop :=
  s.missingLimit < s.missing p.root p.parent.names.reverse

/-- What escapes the file system when a text is to be written. The directories on the way are made before the
last name is looked at, and the file is opened before the text is. -/
inductive Escapes (s : Store) (p : Path) (text : Points) : Fault → Prop where
  /-- The path of the directory has no bytes. -/
  | parent {f} (h : p.parent.encodeFault? = some f) : Escapes s p text (.unencodable f)
  | tooFar (hp : p.parent.encodeFault? = none) (h : s.TooFar p) : Escapes s p text .tooManyMissing
  /-- The path has no bytes. -/
  | path {s' f} (hm : s.makeParents p = (.ok (), s')) (h : p.encodeFault? = some f) :
      Escapes s p text (.unencodable f)
  /-- The text has no bytes. -/
  | text {s' s'' f} (hm : s.makeParents p = (.ok (), s')) (hp : p.encodeFault? = none)
      (hw : s'.write p [] = .ok s'') (h : Text.encode .utf8 text = .error f) : Escapes s p text (.unencodable f)

theorem Escapes.not_common (h : s.Escapes p text fault) : ¬ fault.Common := by
  cases h <;> exact id

theorem common_of_exists? (h : s.exists? p = .error fault) : fault.Common := by
  unfold exists? at h
  split at h
  · cases h
  split at h <;> cases h
  trivial

theorem common_of_readText {charset : Text.Charset} (hn : p.fault? = none)
    (h : s.readText p charset = .error fault) : fault.Common := by
  unfold readText at h
  rw [hn] at h
  dsimp only at h
  split at h
  · cases h
    trivial
  split at h <;> cases h
  trivial

theorem common_of_ensureDirectory (h : s.ensureDirectory p = (.error fault, s')) : fault.Common := by
  unfold ensureDirectory at h
  split at h
  · cases h
  split at h <;> cases h
  trivial

theorem common_of_ensureDirectories {root : Points} {names : List Points}
    (h : s.ensureDirectories root names = (.error fault, s')) : fault.Common := by
  induction names generalizing s' with
  | nil => cases h
  | cons name outer ih =>
      rcases ensureDirectories_cons s root name outer with
        he | ⟨fault', s₁, ho, he⟩ | ⟨s₁, -, he⟩
      · exact common_of_ensureDirectory (he ▸ h)
      · rw [he] at h
        cases h
        exact ih ho
      · exact common_of_ensureDirectory (he ▸ h)

theorem fault?_parent (hn : p.hasNull = false) :
    p.parent.fault? = p.parent.encodeFault?.map .unencodable :=
  Path.fault?_of_hasNull (Path.hasNull_parent hn)

theorem escapes_of_makeParents (hn : p.hasNull = false) (h : s.makeParents p = (.error fault, s')) :
    fault.Common ∨ s.Escapes p text fault := by
  unfold makeParents at h
  rw [fault?_parent hn] at h
  split at h
  · cases h
  cases hp : p.parent.encodeFault? with
  | some f =>
      rw [hp] at h
      cases h
      exact .inr (.parent hp)
  | none =>
      rw [hp] at h
      dsimp only [Option.map_none] at h
      split at h
      · next hf =>
          cases h
          exact .inr (.tooFar hp hf)
      · exact .inl (common_of_ensureDirectories h)

theorem escapes_of_writeText (hn : p.hasNull = false) (h : s.writeText p text .utf8 = (.error fault, s')) :
    fault.Common ∨ s.Escapes p text fault := by
  unfold writeText at h
  rw [Path.fault?_of_hasNull hn] at h
  rcases hm : s.makeParents p with ⟨fault' | _, s₁⟩
  · rw [hm] at h
    cases h
    exact escapes_of_makeParents hn hm
  rw [hm] at h
  cases hp : p.encodeFault? with
  | some f =>
      simp only [hp, Option.map_some] at h
      cases h
      exact .inr (.path hm hp)
  | none =>
      simp only [hp, Option.map_none] at h
      split at h
      · split at h <;> cases h
        exact .inl trivial
      · next f he =>
          split at h
          · next hw =>
              cases h
              exact .inr (.text hm hp hw he)
          · cases h
            exact .inl trivial

theorem makeParents_of_fault {f : Fault} (h : p.parent.fault? = some f) : s.makeParents p = (.error f, s) := by
  have hp : p.parent ≠ {} := by
    intro hp
    rw [hp] at h
    exact nomatch h
  rw [makeParents, if_neg hp, h]

/-- Nothing is made for a file that is too far. -/
theorem makeParents_of_tooFar (hn : p.parent.fault? = none) (hf : s.TooFar p) :
    s.makeParents p = (.error .tooManyMissing, s) := by
  have hp : p.parent ≠ {} := by
    intro hp
    rw [TooFar, hp] at hf
    exact absurd hf (Nat.not_lt_zero _)
  rw [makeParents, if_neg hp, hn]
  exact if_pos hf

theorem Escapes.exists_writeText (hn : p.hasNull = false) (h : s.Escapes p text fault) :
    ∃ s', s.writeText p text .utf8 = (.error fault, s') := by
  cases h with
  | parent h =>
      have hm := makeParents_of_fault (s := s) (fault?_parent hn ▸ congrArg (Option.map _) h)
      exact ⟨s, by rw [writeText, hm]⟩
  | tooFar hp h =>
      have hm := makeParents_of_tooFar (fault?_parent hn ▸ congrArg (Option.map _) hp) h
      exact ⟨s, by rw [writeText, hm]⟩
  | @path s₁ f hm h =>
      exact ⟨s₁, by simp only [writeText, hm, Path.fault?_of_hasNull hn, h, Option.map_some]⟩
  | @text s₁ s₂ f hm hp hw h =>
      exact ⟨s₂, by simp only [writeText, hm, Path.fault?_of_hasNull hn, hp, Option.map_none, h, hw]⟩

/-! ## What is missing on a way -/

theorem makeDirectory_eq_notFound_iff :
    s.makeDirectory p = .error .notFound ↔ s.locate p = .error .notFound := by
  unfold makeDirectory
  cases hl : s.locate p with
  | error refusal => simp [bind, Except.bind]
  | ok l => cases he : s.get? l <;> simp [bind, Except.bind, he]

/-- The number of bytes of names with a slash after each. -/
def bytesOf : List Points → Nat
  | [] => 0
  | name :: names => (nameBytes name).length + 1 + bytesOf names

theorem bytesOf_append (names names' : List Points) :
    bytesOf (names ++ names') = bytesOf names + bytesOf names' := by
  induction names with
  | nil => exact (Nat.zero_add _).symm
  | cons name names ih =>
      rw [List.cons_append, bytesOf, bytesOf, ih]
      exact (Nat.add_assoc _ _ _).symm

theorem bytesOf_replicate (n : Nat) (name : Points) :
    bytesOf (List.replicate n name) = n * ((nameBytes name).length + 1) := by
  induction n with
  | zero => exact (Nat.zero_mul _).symm
  | succ n ih =>
      rw [List.replicate_succ, bytesOf, ih, Nat.succ_mul]
      exact Nat.add_comm _ _

theorem length_nameBytes_text_le {names : List Points} (hn : names ≠ []) :
    (nameBytes (Path.text { names := names })).length ≤ bytesOf names := by
  rw [Path.text, if_neg fun hc => hn hc.2, List.nil_append]
  clear hn
  induction names with
  | nil => exact Nat.le_refl 0
  | cons name names ih =>
      cases names with
      | nil => simp [bytesOf]
      | cons next names =>
          have hs : (nameBytes "/").length = 1 := rfl
          rw [List.intercalate_cons_cons, nameBytes, List.flatMap_append, List.flatMap_append, List.length_append,
            List.length_append, bytesOf]
          exact Nat.add_le_add_left ih ((nameBytes name).length + 1)

section Vacant

variable {name : Points} {names : List Points} (hd : s.get? s.working = some .directory)
  (hn : nameBytes name ≠ twoDots) (hk : (nameBytes name).length ≤ nameLimit)
  (hv : s.get? (s.working ++ [nameBytes name]) = none)

include hd hn hk

theorem locate_vacant (hs : bytesOf (name :: names) < pathLimit) :
    s.locate { names := name :: names } =
      (names.map nameBytes).foldlM s.step (s.working ++ [nameBytes name]) := by
  have hl := Nat.lt_of_le_of_lt (length_nameBytes_text_le (List.cons_ne_nil name names)) hs
  have hn' : s.step s.working (nameBytes name) = .ok (s.working ++ [nameBytes name]) :=
    step_eq_ok_iff.2 ⟨hd, by rw [if_neg hn]; exact ⟨hk, rfl⟩⟩
  rw [locate, if_neg (Nat.not_le.2 hl), List.map_cons, List.foldlM_cons]
  change (s.step s.working (nameBytes name) >>= fun l => (names.map nameBytes).foldlM s.step l) = _
  rw [hn']
  rfl

include hv

/-- Where nothing stands under the first name of a relative path, the rest leads nowhere. -/
theorem locate_of_vacant (hne : names ≠ [])
    (hs : bytesOf (name :: names) < pathLimit) :
    s.locate { names := name :: names } = .error .notFound := by
  obtain ⟨next, rest, rfl⟩ := List.exists_cons_of_ne_nil hne
  rw [locate_vacant hd hn hk hs, List.map_cons, List.foldlM_cons, step, hv]
  rfl

/-- All directories of a relative path but the first are missing on the way to the last when nothing stands
under the first name. -/
theorem missing_of_vacant (hs : bytesOf (name :: names) < pathLimit) :
    s.missing [] (name :: names).reverse = names.length := by
  induction names using List.reverseRecOn with
  | nil =>
      have hm : s.makeDirectory { names := [name] } = .ok (s.put (s.working ++ [nameBytes name]) .directory) :=
        makeDirectory_eq_ok_iff.2 ⟨_, locate_vacant hd hn hk hs, hv, rfl⟩
      rw [List.reverse_singleton, missing, List.reverse_singleton, hm]
      rfl
  | append_singleton names last ih =>
      have hne : names ++ [last] ≠ [] := by simp
      have hl := locate_of_vacant hd hn hk hv hne hs
      have hr : (name :: (names ++ [last])).reverse = last :: (name :: names).reverse := by simp
      rw [hr, missing, ← hr, List.reverse_reverse, makeDirectory_eq_notFound_iff.2 hl]
      simp only [List.length_append, List.length_singleton]
      rw [ih]
      rw [← List.cons_append, bytesOf_append] at hs
      exact Nat.lt_of_le_of_lt (Nat.le_add_right _ _) hs

end Vacant

/-! ## What is missing in a later store -/

/-- Directories stay directories, and files stay files. -/
structure Retains (s s' : Store) : Prop extends Extends s s' where
  file : ∀ l bytes, s.get? l = some (.file bytes) → ∃ bytes', s'.get? l = some (.file bytes')

theorem Grown.retains (h : Grown s s') : Retains s s' where
  toExtends := h.extends
  file l bytes hl := ⟨bytes, (h.kept l).file.2 hl⟩

theorem Written.retains {bytes : Bytes} (h : Written s s' p l bytes) : Retains s s' where
  toExtends := h.extends
  file k bytes' hk := by
    by_cases hkl : k = l
    · exact ⟨bytes, hkl ▸ h.file⟩
    · exact ⟨bytes', (h.kept k hkl).file.2 hk⟩

/-- What is not merely absent is the same in a later store. -/
theorem Retains.step (h : Retains s s') {name : Bytes} (hs : s.step l name ≠ .error .notFound) :
    s'.step l name = s.step l name := by
  unfold Store.step at hs ⊢
  cases hl : s.get? l with
  | none =>
      rw [hl] at hs
      exact absurd rfl hs
  | some entry =>
      cases entry with
      | directory => rw [h.directory l hl]
      | file bytes =>
          obtain ⟨bytes', hl'⟩ := h.file l bytes hl
          rw [hl']

theorem Retains.foldlM (h : Retains s s') {names : List Bytes}
    (hs : names.foldlM s.step l ≠ .error .notFound) : names.foldlM s'.step l = names.foldlM s.step l := by
  induction names generalizing l with
  | nil => rfl
  | cons name names ih =>
      rw [List.foldlM_cons] at hs ⊢
      rw [List.foldlM_cons]
      cases hn : s.step l name with
      | error refusal =>
          rw [h.step (fun he => hs (by rw [he]; rfl)), hn]
          rfl
      | ok k =>
          rw [hn] at hs
          rw [h.step (by rw [hn]; exact nofun), hn]
          exact ih hs

theorem Retains.locate (h : Retains s s') (hl : s.locate p ≠ .error .notFound) :
    s'.locate p = s.locate p := by
  unfold Store.locate at hl ⊢
  rw [h.working]
  split at hl
  · next hp => rw [if_pos hp, if_pos hp]
  · next hp =>
      rw [if_neg hp, if_neg hp]
      exact h.foldlM hl

/-- No more directories are missing in a later store. -/
theorem Retains.missing_le (h : Retains s s') (root : Points) (names : List Points) :
    s'.missing root names ≤ s.missing root names := by
  induction names with
  | nil => exact Nat.le_refl 0
  | cons name outer ih =>
      generalize hp : (⟨root, (name :: outer).reverse⟩ : Path) = p
      by_cases hl : s.locate p = .error .notFound
      · have hs : s.missing root (name :: outer) = s.missing root outer + 1 := by
          rw [missing, hp, makeDirectory_eq_notFound_iff.2 hl]
        rw [hs, missing, hp]
        split
        · exact Nat.succ_le_succ ih
        · exact Nat.zero_le _
      · have hl' : s'.makeDirectory p ≠ .error .notFound := by
          rwa [Ne, makeDirectory_eq_notFound_iff, h.locate hl]
        rw [missing, hp]
        split
        · next hm => exact absurd hm hl'
        · exact Nat.zero_le _

theorem Retains.tooFar (h : Retains s s') (hf : s'.TooFar p) : s.TooFar p := by
  rw [TooFar, h.missingLimit] at hf
  exact Nat.lt_of_lt_of_le hf (h.missing_le _ _)

end Store

end TalPage.File
