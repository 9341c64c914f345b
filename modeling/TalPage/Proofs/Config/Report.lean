import TalPage.Config.Load
import TalPage.Proofs.File.Growth

/-!
# Settings that are reported

A settings file that is missing is reported, and so are settings that are no mapping or have bad
values. A file that is no document is not: what keeps it from being read or loaded leaves the loading
as it is.
-/

namespace TalPage.BuildConfig
open File File.Store

variable {s : Store} {path : Path}

/-- The settings are loaded, or what is wrong with them is reported. -/
def LoadedOrReported (result : Except LoadFault BuildConfig) : Prop :=
  (∃ config, result = .ok config) ∨ ∃ fault, result = .error (.config fault)

/-! ## What stands at the path -/

/-- Nothing stands where the path leads, as nothing does where it cannot be asked for. -/
def Vacant (s : Store) (path : Path) : Prop :=
  path.fault? ≠ none ∨ s.look path = .error .notFound ∨ s.look path = .error .notDirectory

/-- The path leads to a file whose text is a document. -/
def HoldsDocument (s : Store) (path : Path) : Prop :=
  ∃ bytes cs document, s.look path = .ok (.file bytes) ∧ Text.decode .utf8 bytes = .ok cs ∧
    Yaml.load (String.ofList (Text.unifyNewlines cs)) = .ok document

theorem exists?_eq_false_iff : s.exists? path = .ok false ↔ Vacant s path := by
  cases hn : path.fault? with
  | some fault => simp [Store.exists?, Vacant, hn]
  | none =>
      cases hl : s.look path with
      | ok entry => simp [Store.exists?, Vacant, hn, hl]
      | error refusal => cases refusal <;> simp [Store.exists?, Vacant, hn, hl]

theorem holdsDocument_iff (hn : path.fault? = none) :
    HoldsDocument s path ↔
      ∃ text document, s.readText path .utf8 = .ok text ∧ Yaml.load text = .ok document := by
  constructor
  · rintro ⟨bytes, cs, document, hl, hd, hy⟩
    exact ⟨_, document, (readText_eq_ok_iff hn).2 ⟨bytes, cs, hl, hd, rfl⟩, hy⟩
  · rintro ⟨text, document, ht, hy⟩
    obtain ⟨bytes, cs, hl, hd, rfl⟩ := (readText_eq_ok_iff hn).1 ht
    exact ⟨bytes, cs, document, hl, hd, hy⟩

/-! ## Loading -/

theorem loadedOrReported_config (result : Except ConfigFault BuildConfig) :
    LoadedOrReported (result.mapError .config) := by
  cases result with
  | ok config => exact .inl ⟨config, rfl⟩
  | error fault => exact .inr ⟨fault, rfl⟩

theorem not_loadedOrReported_file (fault : File.Fault) : ¬ LoadedOrReported (.error (.file fault)) := by
  simp [LoadedOrReported]

theorem not_loadedOrReported_document (fault : Yaml.Fault) :
    ¬ LoadedOrReported (.error (.document fault)) := by
  simp [LoadedOrReported]

theorem load_of_not_exists (h : s.exists? path = .ok false) :
    load s path = .error (.config (.missing path)) := by
  rw [load, h]
  rfl

theorem load_of_exists?_eq_error {fault : File.Fault} (h : s.exists? path = .error fault) :
    load s path = .error (.file fault) := by
  rw [load, h]
  rfl

theorem load_of_readText_eq_error (h : s.exists? path = .ok true) {fault : File.Fault}
    (ht : s.readText path .utf8 = .error fault) : load s path = .error (.file fault) := by
  rw [load, h, ht]
  rfl

theorem load_of_readText (h : s.exists? path = .ok true) {text : String}
    (ht : s.readText path .utf8 = .ok text) :
    load s path = ((Yaml.load text).mapError .document).bind fun document =>
      (ofDocument path document).mapError .config := by
  rw [load, h, ht]
  rfl

theorem loadedOrReported_of_exists (h : s.exists? path = .ok true) :
    LoadedOrReported (load s path) ↔ HoldsDocument s path := by
  have hn : path.fault? = none := (exists?_eq_true_iff.1 h).1
  rw [holdsDocument_iff hn]
  cases ht : s.readText path .utf8 with
  | error fault =>
      rw [load_of_readText_eq_error h ht]
      simp [not_loadedOrReported_file]
  | ok text =>
      rw [load_of_readText h ht]
      cases hy : Yaml.load text with
      | error fault =>
          refine iff_of_false (not_loadedOrReported_document fault) ?_
          rintro ⟨text', document, ht', hd⟩
          cases ht'
          rw [hy] at hd
          cases hd
      | ok document =>
          have hr := loadedOrReported_config (ofDocument path document)
          exact iff_of_true hr ⟨text, document, rfl, hy⟩

/-- Settings are loaded or reported exactly if there is nothing at the path, or a file whose text is a
document. What is wrong with anything else at the path is not reported. -/
theorem loadedOrReported_iff (s : Store) (path : Path) :
    LoadedOrReported (load s path) ↔ Vacant s path ∨ HoldsDocument s path := by
  cases he : s.exists? path with
  | ok found =>
      cases found with
      | false =>
          rw [load_of_not_exists he]
          exact iff_of_true (.inr ⟨_, rfl⟩) (.inl (exists?_eq_false_iff.1 he))
      | true =>
          have hv : ¬ Vacant s path := by
            rw [← exists?_eq_false_iff, he]
            simp
          rw [loadedOrReported_of_exists he, or_iff_right hv]
  | error fault =>
      rw [load_of_exists?_eq_error he]
      refine iff_of_false (not_loadedOrReported_file fault) ?_
      rintro (hv | ⟨bytes, cs, document, hl, -, -⟩)
      · rw [exists?_eq_false_iff.2 hv] at he
        cases he
      · -- Something that is found is there, unless it cannot be asked for.
        cases hn : path.fault? with
        | some _ => simp [Store.exists?, hn] at he
        | none =>
            rw [exists?_eq_true_iff.2 ⟨hn, _, hl⟩] at he
            cases he

/-- A directory in place of a settings file is not reported. -/
theorem not_loadedOrReported_directory :
    ¬ LoadedOrReported (load { entries := [([nameBytes "conf"], .directory)] } (.ofText "conf")) := by
  have hl : Store.look { entries := [([nameBytes "conf"], .directory)] } (.ofText "conf") =
      .ok .directory := rfl
  have he : Store.exists? { entries := [([nameBytes "conf"], .directory)] } (.ofText "conf") = .ok true :=
    exists?_eq_true_iff.2 ⟨by decide +kernel, _, hl⟩
  rw [loadedOrReported_of_exists he]
  rintro ⟨bytes, cs, document, hf, -, -⟩
  rw [hl] at hf
  cases hf

end TalPage.BuildConfig
