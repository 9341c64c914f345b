import TalPage.Proofs.Command.Effect
import TalPage.Proofs.Config.Report
import TalPage.Proofs.Page.Holes

/-!
# Building again

A build that has come to its end comes to the same end when it is done again: it finds the settings and
the source as they were, and writes the page that is there already.
-/

namespace TalPage.BuildConfig

open File (Path Store)
open File.Store (Extends KeptAt)

variable {s s' : Store} {path : Path} {config : BuildConfig}

theorem exists_readText_of_load (h : load s path = .ok config) :
    ∃ text, s.readText path .utf8 = .ok text := by
  cases he : s.exists? path with
  | error fault =>
      rw [load_of_exists?_eq_error he] at h
      cases h
  | ok found =>
      cases found with
      | false =>
          rw [load_of_not_exists he] at h
          cases h
      | true =>
          cases ht : s.readText path .utf8 with
          | error fault =>
              rw [load_of_readText_eq_error he ht] at h
              cases h
          | ok text => exact ⟨text, rfl⟩

theorem load_of_keptAt (h : load s path = .ok config) (he : Extends s s')
    (hk : ∀ l, s.locate path = .ok l → KeptAt s s' l) : load s' path = .ok config := by
  obtain ⟨text, ht⟩ := exists_readText_of_load h
  have ht' := File.Store.readText_of_keptAt ht he hk
  rw [load_of_readText (File.Store.exists?_of_readText ht) ht] at h
  rw [load_of_readText (File.Store.exists?_of_readText ht') ht', h]

end TalPage.BuildConfig

namespace TalPage.Command

open File (Path Store Location nameBytes)
open File.Store (Extends KeptAt)
open Text (Bytes Charset Points utf8Bytes)

variable {s s' : Store} {p : Path} {args : BuildArgs} {config : BuildConfig}
  {encoding : Option Charset}

/-! ## What a build finds again -/

theorem buildConfig_of_keptAt (h : buildConfig s args = .ok config) (he : Extends s s')
    (hk : ∀ path ∈ settingsPaths (.build args), ∀ l, s.locate path = .ok l → KeptAt s s' l) :
    buildConfig s' args = .ok config := by
  cases hp : args.config with
  | none =>
      simp only [buildConfig, BuildConfig.loadOrDefault, hp] at h ⊢
      exact h
  | some path =>
      simp only [buildConfig, BuildConfig.loadOrDefault, hp] at h ⊢
      cases hl : BuildConfig.load s (.ofText path) with
      | error fault =>
          rw [hl] at h
          cases h
      | ok loaded =>
          have hm : Path.ofText path ∈ settingsPaths (.build args) := by simp [settingsPaths, hp]
          rw [BuildConfig.load_of_keptAt hl he (hk _ hm), ← hl]
          exact h

theorem kept_of_ensureSource {created : Bool} (h : ensureSource s p = (.ok created, s')) :
    Extends s s' ∧ ∀ l, s'.locate p ≠ .ok l → KeptAt s s' l := by
  rcases ensureSource_cases h with ⟨fault, hf, -⟩ | ⟨-, -, rfl⟩ | ⟨-, -, i, hw⟩
  · cases hf
  · exact ⟨(File.Store.Grown.refl s').extends, fun l _ => .inl rfl⟩
  · refine ⟨hw.extends, fun l hl => hw.kept l ?_⟩
    rintro rfl
    exact hl hw.locate

theorem exists?_of_ensureSource {created : Bool} (h : ensureSource s p = (.ok created, s')) :
    s.exists? p = .ok (!created) := by
  rcases ensureSource_cases h with ⟨fault, hf, -⟩ | ⟨hf, hx, -⟩ | ⟨hf, hx, -⟩
  · cases hf
  · cases hf
    exact hx
  · cases hf
    exact hx

/-! ## Building again -/

/-- The settings, the source and the page of a build are in different files of a store. -/
def Apart (s s' : Store) (args : BuildArgs) : Prop :=
  ((settingsPaths (.build args) ++ workPaths s (.build args)).map s'.locate).Nodup

theorem Apart.input_ne (h : Apart s s' args) (hc : buildConfig s args = .ok config) :
    s'.locate (.ofText config.input) ≠ s'.locate (.ofText config.output) := by
  have h := (List.nodup_append.1 (by simpa [Apart] using h)).2.1
  simpa [workPaths, hc] using h

theorem Apart.settings_ne (h : Apart s s' args) (hc : buildConfig s args = .ok config)
    (hp : p ∈ settingsPaths (.build args)) :
    s'.locate p ≠ s'.locate (.ofText config.input) ∧ s'.locate p ≠ s'.locate (.ofText config.output) := by
  have h := (List.nodup_append.1 (by simpa [Apart] using h)).2.2 _ (List.mem_map_of_mem hp)
  simpa [workPaths, hc] using h

/-- The source of a build is read again, once its page has been written. -/
theorem ReadsSource.again {created : Bool} {s₁ : Store} {source : String} {page : Points}
    (h : ReadsSource s encoding args config created s₁ source)
    (hw : s₁.writeText (.ofText config.output) page .utf8 = (.ok (), s')) (ha : Apart s s' args) :
    ReadsSource s' encoding args config false s' source := by
  obtain ⟨hc, he, -, hr⟩ := h
  obtain ⟨o, bytes, -, ho⟩ := File.Store.exists_written_of_writeText hw
  obtain ⟨hx, hk⟩ := kept_of_ensureSource he
  -- The settings are neither at the source nor at the page, and the source is not at the page.
  have hc' : buildConfig s' args = .ok config := by
    refine buildConfig_of_keptAt hc (hx.trans ho.extends) fun path hp l hl => ?_
    obtain ⟨hi, ho'⟩ := ha.settings_ne hc hp
    rw [(hx.trans ho.extends).locate hl] at hi ho'
    refine (hk l fun hi' => hi (ho.extends.locate hi').symm).trans (ho.kept l ?_)
    rintro rfl
    exact ho' ho.locate.symm
  have hr' : s'.readText (.ofText config.input) .utf8 = .ok source := by
    refine File.Store.readText_of_keptAt hr ho.extends fun l hl => ho.kept l ?_
    rintro rfl
    exact ha.input_ne hc ((ho.extends.locate hl).trans ho.locate.symm)
  exact ⟨hc', ensureSource_of_readText hr', printFault?_nil, hr'⟩

theorem Builds.again {σ : Session} (h : Builds s encoding args (.ok (), σ)) (ha : Apart s σ.store args) :
    ∃ config found σ', buildConfig s args = .ok config ∧ s.exists? (.ofText config.input) = .ok found ∧
      Builds σ.store encoding args (.ok (), σ') ∧ σ'.store = σ.store ∧ σ'.stderr = σ.stderr ∧
      σ.stdout = createdLine (!found) (.ofText config.input) ++ σ'.stdout := by
  cases h with
  | @built config created s₁ source body bytes s₂ hs hb hp hw ht =>
      refine ⟨config, !created, _, hs.configured, exists?_of_ensureSource hs.provided,
        .built (hs.again hw ha) hb hp (File.Store.writeText_again hw) ht, rfl, rfl, ?_⟩
      have hn : createdLine false (.ofText config.input) = [] := rfl
      simp only [Bool.not_not, hn, List.nil_append]

/-- A build that ends well does so again, with the files as the first run has left them, and prints the
same, but that it has no source to make. -/
theorem run_again {words : List Points} (encoding : Option Charset) (stdin stdin' : Bytes)
    (hr : readLine words = .ok (.build args)) (hok : (run encoding words stdin s).ending = .code 0)
    (ha : Apart s (run encoding words stdin s).session.store args) :
    ∃ config found, buildConfig s args = .ok config ∧ s.exists? (.ofText config.input) = .ok found ∧
      (run encoding words stdin' (run encoding words stdin s).session.store).ending = .code 0 ∧
      (run encoding words stdin' (run encoding words stdin s).session.store).session.store =
        (run encoding words stdin s).session.store ∧
      (run encoding words stdin' (run encoding words stdin s).session.store).session.stderr =
        (run encoding words stdin s).session.stderr ∧
      (run encoding words stdin s).session.stdout = createdLine (!found) (.ofText config.input) ++
        (run encoding words stdin' (run encoding words stdin s).session.store).session.stdout := by
  obtain ⟨⟨stop | _, σ⟩, hb⟩ := exists_builds s encoding args
  · rw [run_of_build hr stdin hb] at hok
    exact absurd hok hb.ending_ne
  · rw [run_of_build hr stdin hb] at ha ⊢
    obtain ⟨config, found, σ', hc, hf, hb', hs, he, ho⟩ := hb.again ha
    have hrun : run encoding words stdin' (finish (.ok (), σ)).session.store = finish (.ok (), σ') :=
      run_of_build hr stdin' hb'
    rw [hrun]
    exact ⟨config, found, hc, hf, rfl, hs, he, ho⟩

/-- A build where there is nothing yet makes its source, and finds it when it is done again. -/
theorem run_again_demo :
    (run none ["build"] [] {}).ending = .code 0 ∧ Apart {} (run none ["build"] [] {}).session.store {} ∧
      (run none ["build"] [] (run none ["build"] [] {}).session.store).ending = .code 0 ∧
      (run none ["build"] [] (run none ["build"] [] {}).session.store).session.store =
        (run none ["build"] [] {}).session.store ∧
      (run none ["build"] [] (run none ["build"] [] {}).session.store).session.stderr =
        (run none ["build"] [] {}).session.stderr ∧
      (run none ["build"] [] {}).session.stdout = ("Created demo " : Points) ++ "code.tal" ++ "\n" ++
        (run none ["build"] [] (run none ["build"] [] {}).session.store).session.stdout := by
  let sourced : Store := { entries := [([nameBytes "code.tal"], .file demoBytes)] }
  have hr : readLine ["build"] = .ok (.build {}) := by
    decide +kernel
  have he : ensureSource {} (.ofText "code.tal") = (.ok true, sourced) := by
    decide +kernel
  have hs : sourced.readText (.ofText "code.tal") .utf8 = .ok demoSource := by
    decide +kernel
  have hp : (Page.bodyOf {} demoSource).isOk = true := by
    decide +kernel
  obtain ⟨body, hb⟩ : ∃ body, Page.bodyOf {} demoSource = .ok body := by
    cases hb : Page.bodyOf {} demoSource with
    | error report => simp [hb, Except.isOk, Except.toBool] at hp
    | ok body => exact ⟨body, rfl⟩
  have hw : sourced.Writable (.ofText "index.html") := ⟨_, rfl⟩
  obtain ⟨page, hpage⟩ : ∃ cs, Page.render {} body.html none = Text.pointsOf cs :=
    Page.exists_render_eq "en".toList "TAL Generated App".toList rfl rfl _ none
  have he' : Text.encode .utf8 (pageOf {} {} body) = .ok (utf8Bytes page) := by
    rw [← Text.encode_utf8, ← hpage]
    rfl
  obtain ⟨s₂, hw⟩ := hw.exists_writeText he'
  obtain ⟨o, bytes, -, hwritten⟩ := File.Store.exists_written_of_writeText hw
  have hx := hwritten.extends
  have hc : buildConfig {} {} = .ok {} := rfl
  have hread : ReadsSource {} none {} {} true sourced demoSource := ⟨hc, he, rfl, hs⟩
  have hrun := run_of_build hr [] (.built hread hb he' hw rfl)
  have hok : (run none ["build"] [] {}).ending = .code 0 := by
    rw [hrun]
    rfl
  have ha : Apart {} (run none ["build"] [] {}).session.store {} := by
    have hi : s₂.locate (.ofText "code.tal") = .ok [nameBytes "code.tal"] := hx.locate rfl
    have ho : s₂.locate (.ofText "index.html") = .ok [nameBytes "index.html"] := hx.locate rfl
    rw [hrun]
    change [s₂.locate (.ofText "code.tal"), s₂.locate (.ofText "index.html")].Nodup
    have hne : nameBytes "code.tal" ≠ nameBytes "index.html" := by
      decide
    simpa [hi, ho] using hne
  obtain ⟨config, found, hc, hf, h⟩ := run_again none [] [] hr hok ha
  cases hc
  have hn : Store.exists? {} (.ofText "code.tal") = .ok false := by
    decide +kernel
  cases hn.symm.trans hf
  exact ⟨hok, ha, h⟩

end TalPage.Command
