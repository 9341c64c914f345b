import TalPage.Proofs.File.Growth
import TalPage.Proofs.Text.Encoding

/-!
# Written files

What writing a text does to a store: on success the bytes stand where the path leads, and elsewhere
nothing has changed but the directories made on the way. The text is read back, and writing it once more
changes nothing.
-/

namespace TalPage.File.Store

open Text (Bytes Points utf8Bytes)

variable {s s' s'' : Store} {l : Location} {p : Path} {text : Points} {charset : Text.Charset} {bytes : Bytes}

/-! ## Writing -/

theorem write_eq_ok_iff :
    s.write p bytes = .ok s' ↔
      ∃ l, s.locate p = .ok l ∧ s.get? l ≠ some .directory ∧ s' = s.put l (.file bytes) := by
  unfold write
  cases hl : s.locate p with
  | error refusal => simp [bind, Except.bind]
  | ok l =>
      cases he : s.get? l with
      | none => simp [bind, Except.bind, he, eq_comm]
      | some e => cases e <;> simp [bind, Except.bind, he, eq_comm]

theorem writeText_eq_ok_iff :
    s.writeText p text charset = (.ok (), s') ↔
      ∃ s₁ l bytes, s.makeParents p = (.ok (), s₁) ∧ p.fault? = none ∧
        Text.encode charset text = .ok bytes ∧ s₁.locate p = .ok l ∧
        s₁.get? l ≠ some .directory ∧ s' = s₁.put l (.file bytes) := by
  have hw : s.writeText p text charset = (.ok (), s') ↔ ∃ s₁ bytes, s.makeParents p = (.ok (), s₁) ∧
      p.fault? = none ∧ Text.encode charset text = .ok bytes ∧ s₁.write p bytes = .ok s' := by
    unfold writeText
    rcases s.makeParents p with ⟨fault | _, s₁⟩
    · simp
    cases p.fault? with
    | some fault => simp
    | none =>
        cases Text.encode charset text with
        | ok bytes => cases hw : s₁.write p bytes <;> simp [hw]
        | error fault => cases hw : s₁.write p [] <;> simp [hw]
  simp only [hw, write_eq_ok_iff]
  constructor
  · rintro ⟨s₁, bytes, hm, hn, he, l, hl⟩
    exact ⟨s₁, l, bytes, hm, hn, he, hl⟩
  · rintro ⟨s₁, l, bytes, hm, hn, he, hl⟩
    exact ⟨s₁, bytes, hm, hn, he, l, hl⟩

/-- A file that has been written where a path leads, with the directories on the way. -/
structure Written (s s' : Store) (p : Path) (l : Location) (bytes : Bytes) : Prop where
  working : s'.working = s.working
  missingLimit : s'.missingLimit = s.missingLimit
  noFault : p.fault? = none
  locate : s'.locate p = .ok l
  file : s'.get? l = some (.file bytes)
  noDirectory : s.get? l ≠ some .directory
  kept : ∀ k, k ≠ l → KeptAt s s' k

theorem written_put (hm : s.makeParents p = (.ok (), s')) (hn : p.fault? = none) (hl : s'.locate p = .ok l)
    (hd : s'.get? l ≠ some .directory) : Written s (s'.put l (.file bytes)) p l bytes := by
  have hg := grown_makeParents hm
  refine ⟨hg.working, hg.missingLimit, hn, (extends_put hd).locate hl,
    get?_put_self (ne_nil_of_get?_ne hd), ?_, ?_⟩
  · exact fun hs => hd ((hg.kept l).directory hs)
  · intro k hk
    rw [KeptAt, get?_put_of_ne hk]
    exact hg.kept k

theorem exists_written_of_writeText (h : s.writeText p text charset = (.ok (), s')) :
    ∃ l bytes, Text.encode charset text = .ok bytes ∧ Written s s' p l bytes := by
  obtain ⟨s₁, l, bytes, hm, hn, he, hl, hd, rfl⟩ := writeText_eq_ok_iff.1 h
  exact ⟨l, bytes, he, written_put hm hn hl hd⟩

theorem written_of_writeText {cs : List Char} (h : s.writeText p (Text.pointsOf cs) .utf8 = (.ok (), s')) :
    ∃ l, Written s s' p l (utf8Bytes cs) := by
  obtain ⟨l, bytes, he, hw⟩ := exists_written_of_writeText h
  rw [Text.encode_utf8] at he
  cases he
  exact ⟨l, hw⟩

/-- When a text is not written, directories are all that has been made, unless the text has no bytes: the file
is then empty. -/
theorem of_writeText_eq_error {fault : Fault} (h : s.writeText p text charset = (.error fault, s')) :
    Grown s s' ∨ ∃ f l, Text.encode charset text = .error f ∧ fault = .unencodable f ∧ Written s s' p l [] := by
  unfold writeText at h
  rcases hm : s.makeParents p with ⟨fault' | _, s₁⟩
  · rw [hm] at h
    cases h
    exact .inl (grown_makeParents hm)
  rw [hm] at h
  have hg := grown_makeParents hm
  cases hn : p.fault? with
  | some fault' =>
      simp only [hn] at h
      cases h
      exact .inl hg
  | none =>
      simp only [hn] at h
      split at h
      · split at h <;> cases h
        exact .inl hg
      · next f he =>
          split at h
          · next s₂ hw =>
              cases h
              obtain ⟨l, hl, hd, rfl⟩ := write_eq_ok_iff.1 hw
              exact .inr ⟨f, l, he, rfl, written_put hm hn hl hd⟩
          · cases h
            exact .inl hg

theorem grown_of_writeText_eq_error {fault : Fault} (he : Text.encode charset text = .ok bytes)
    (h : s.writeText p text charset = (.error fault, s')) : Grown s s' := by
  rcases of_writeText_eq_error h with hg | ⟨f, -, he', -⟩
  · exact hg
  · cases he.symm.trans he'

/-- A file can be written where the path leads. -/
def Writable (s : Store) (p : Path) : Prop :=
  ∃ s', s.writeText p [] .utf8 = (.ok (), s')

theorem Writable.exists_writeText (h : s.Writable p) (he : Text.encode .utf8 text = .ok bytes) :
    ∃ s', s.writeText p text .utf8 = (.ok (), s') := by
  obtain ⟨s', h⟩ := h
  obtain ⟨s₁, l, -, hm, hn, -, hl, hd, -⟩ := writeText_eq_ok_iff.1 h
  exact ⟨_, writeText_eq_ok_iff.2 ⟨s₁, l, _, hm, hn, he, hl, hd, rfl⟩⟩

/-- Where a text has been written, another can be written later. -/
theorem writeText_of_extends {text' : Points} {bytes' : Bytes}
    (h : s.writeText p text charset = (.ok (), s')) (hx : Extends s' s'') (hl : s'.locate p = .ok l)
    (hd : s''.get? l ≠ some .directory) (he : Text.encode charset text' = .ok bytes') :
    s''.writeText p text' charset = (.ok (), s''.put l (.file bytes')) := by
  obtain ⟨s₁, k, bytes, hm, hn, -, -, hk, rfl⟩ := writeText_eq_ok_iff.1 h
  have hm' := makeParents_again hm ((extends_put hk).trans hx)
  exact writeText_eq_ok_iff.2 ⟨s'', l, bytes', hm', hn, he, hx.locate hl, hd, rfl⟩

/-- Writing the text of a file once more leaves the store as it is. -/
theorem writeText_again (h : s.writeText p text charset = (.ok (), s')) :
    s'.writeText p text charset = (.ok (), s') := by
  obtain ⟨s₁, l, bytes, -, -, he, hl, hd, rfl⟩ := writeText_eq_ok_iff.1 h
  have hf : (s₁.put l (.file bytes)).get? l = some (.file bytes) := get?_put_self (ne_nil_of_get?_ne hd)
  have hw := writeText_of_extends h (Grown.refl _).extends ((extends_put hd).locate hl) (by simp [hf]) he
  rwa [put_put] at hw

theorem Written.extends (h : Written s s' p l bytes) : Extends s s' where
  working := h.working
  missingLimit := h.missingLimit
  directory k hk := by
    have hkl : k ≠ l := by
      rintro rfl
      exact h.noDirectory hk
    exact (h.kept k hkl).directory hk

theorem Written.look (h : Written s s' p l bytes) : s'.look p = .ok (.file bytes) :=
  look_eq_ok_iff.2 ⟨l, h.locate, h.file⟩

theorem Written.read (h : Written s s' p l bytes) : s'.read p = .ok bytes := by
  rw [Store.read, h.look]
  rfl

theorem Written.exists? (h : Written s s' p l bytes) : s'.exists? p = .ok true :=
  exists?_eq_true_iff.2 ⟨h.noFault, _, h.look⟩

theorem Written.readText (h : Written s s' p l bytes) {cs : List Char}
    (he : Text.decode charset bytes = .ok cs) :
    s'.readText p charset = .ok (String.ofList (Text.unifyNewlines cs)) :=
  (readText_eq_ok_iff h.noFault).2 ⟨_, _, h.look, he, rfl⟩

theorem Written.grown (h : Written s s' p l bytes) (hg : Grown s' s'') : Written s s'' p l bytes where
  working := hg.working.trans h.working
  missingLimit := hg.missingLimit.trans h.missingLimit
  noFault := h.noFault
  locate := hg.extends.locate h.locate
  file := (hg.kept l).file.2 h.file
  noDirectory := h.noDirectory
  kept k hk := (h.kept k hk).trans (hg.kept k)

/-! ## Reading what has not changed -/

theorem exists_locate_of_readText {text : String} (h : s.readText p charset = .ok text) :
    p.fault? = none ∧ ∃ l bytes, s.locate p = .ok l ∧ s.get? l = some (.file bytes) := by
  cases hn : p.fault? with
  | some fault => simp [Store.readText, hn] at h
  | none =>
      obtain ⟨bytes, cs, hl, -, -⟩ := (readText_eq_ok_iff hn).1 h
      obtain ⟨l, hl, hf⟩ := look_eq_ok_iff.1 hl
      exact ⟨rfl, l, bytes, hl, hf⟩

theorem exists?_of_readText {text : String} (h : s.readText p charset = .ok text) : s.exists? p = .ok true := by
  obtain ⟨hn, l, bytes, hl, hf⟩ := exists_locate_of_readText h
  exact exists?_eq_true_iff.2 ⟨hn, _, look_eq_ok_iff.2 ⟨l, hl, hf⟩⟩

/-- A path goes on leading to the same text where its file is kept. -/
theorem readText_of_keptAt {text : String} (h : s.readText p charset = .ok text) (he : Extends s s')
    (hk : ∀ l, s.locate p = .ok l → KeptAt s s' l) : s'.readText p charset = .ok text := by
  have hn := (exists_locate_of_readText h).1
  obtain ⟨bytes, cs, hl, hd, ht⟩ := (readText_eq_ok_iff hn).1 h
  obtain ⟨l, hl, hf⟩ := look_eq_ok_iff.1 hl
  have hl' : s'.look p = .ok (.file bytes) :=
    look_eq_ok_iff.2 ⟨l, he.locate hl, (hk l hl).file.2 hf⟩
  exact (readText_eq_ok_iff hn).2 ⟨bytes, cs, hl', hd, ht⟩

end TalPage.File.Store
