import TalPage.Proofs.Command.Symbols
import TalPage.Proofs.File.Hierarchy

/-!
# What a run touches

Only a build changes files. One that comes to its end writes the page, and the demo source where it found
none; one that stops early has at most written the demo source. The demo source may stand in place of
another file, when its path leads out of a directory that had to be made first; a page without bytes leaves
the file empty that it was to be written to; and a build stops after its work is done if it cannot say so.
-/

namespace TalPage.Command

open File (Path Store Location nameBytes)
open File.Store (Grown KeptAt Written)
open Text (Bytes Charset Points utf8Bytes)

/-- The bytes of the demo source. -/
def demoBytes : Bytes :=
  utf8Bytes demoSource.toList

variable {s s' s'' : Store} {p : Path} {l : Location} {encoding : Option Charset}

/-! ## Providing the source -/

/-- A source is found or made, or directories are all that has been made. -/
theorem ensureSource_cases {result : Except File.Fault Bool} (h : ensureSource s p = (result, s')) :
    (∃ fault, result = .error fault ∧ Grown s s') ∨
      (result = .ok false ∧ s.exists? p = .ok true ∧ s' = s) ∨
      (result = .ok true ∧ s.exists? p = .ok false ∧ ∃ l, Written s s' p l demoBytes) := by
  unfold ensureSource at h
  cases he : s.exists? p with
  | error fault =>
      rw [he] at h
      cases h
      exact .inl ⟨fault, rfl, Grown.refl s⟩
  | ok found =>
      cases found with
      | true =>
          rw [he] at h
          cases h
          exact .inr (.inl ⟨rfl, rfl, rfl⟩)
      | false =>
          rcases hw : s.writeText p demoSource .utf8 with ⟨fault | _, s₁⟩
          · rw [he] at h
            simp only [hw] at h
            cases h
            exact .inl ⟨fault, rfl, File.Store.grown_of_writeText_eq_error (Text.encode_utf8 _) hw⟩
          · rw [he] at h
            simp only [hw] at h
            cases h
            exact .inr (.inr ⟨rfl, rfl, File.Store.written_of_writeText hw⟩)

theorem readText_demoSource (h : Written s s' p l demoBytes) :
    s'.readText p .utf8 = .ok demoSource := by
  have hr := h.readText (Text.decode_utf8Bytes demoSource.toList)
  rwa [Text.unifyNewlines_eq_self (by decide +kernel), String.ofList_toList] at hr

/-! ## Builds -/

/-- What a build leaves that has written its page: `found` says whether there was a source, `bytes` are those of
the page, and the paths lead to `i` and to `o`. -/
structure Produced (s : Store) (args : BuildArgs) (s' : Store) (config : BuildConfig) (found : Bool)
    (source : String) (body : Page.Body) (bytes : Bytes) (i o : Location) : Prop where
  configured : buildConfig s args = .ok config
  provided : s.exists? (.ofText config.input) = .ok found
  input : s'.locate (.ofText config.input) = .ok i
  output : s'.locate (.ofText config.output) = .ok o
  sourced : if found then s.readText (.ofText config.input) .utf8 = .ok source else source = demoSource
  embodied : Page.bodyOf config source = .ok body
  encoded : Text.encode .utf8 (pageOf config args body) = .ok bytes
  page : s'.get? o = some (.file bytes)
  demo : found = false → i ≠ o → s'.get? i = some (.file demoBytes)
  kept : ∀ k, k ≠ o → (k = i → found = true) → KeptAt s s' k
  vacant : found = false → s.WellFormed → (Path.ofText config.input).Direct → s.get? i = none

/-- What a build leaves that has come to its end: its page, and what it says of it. -/
structure Completed (s : Store) (args : BuildArgs) (σ : Session) (config : BuildConfig) (found : Bool)
    (source : String) (body : Page.Body) (bytes : Bytes) (i o : Location) : Prop extends
    Produced s args σ.store config found source body bytes i o where
  stdout : σ.stdout = createdLine (!found) (.ofText config.input) ++
    (checkLine args.check ++ successLine (.ofText config.output) bytes)

/-- What a build has changed by the time it has a source: nothing but directories, and at most the demo source.
Where its path is direct, the demo source is a new file. -/
def Provides (s : Store) (args : BuildArgs) (s' : Store) : Prop :=
  Grown s s' ∨
    ∃ config i, buildConfig s args = .ok config ∧ s.exists? (.ofText config.input) = .ok false ∧
      Written s s' (.ofText config.input) i demoBytes ∧
      (s.WellFormed → (Path.ofText config.input).Direct → s.get? i = none)

/-- A build without a check has left the file empty that its page was to be written to, since the page has no
bytes. -/
def Empties (s : Store) (encoding : Option Charset) (args : BuildArgs) (s' : Store) : Prop :=
  args.check = false ∧ ∃ s₁ output page fault o, ComesToPage s encoding args s₁ output page ∧
    Text.encode .utf8 page = .error fault ∧ Provides s args s₁ ∧ Written s₁ s' output o []

/-- A build has written its page, and standard output does not take the line that says so. -/
def Unreported (s : Store) (encoding : Option Charset) (args : BuildArgs) (s' : Store) : Prop :=
  ∃ config found source body bytes i o fault, Produced s args s' config found source body bytes i o ∧
    printFault? encoding (successLine (.ofText config.output) bytes) = some fault

/-- What a build leaves that has stopped early: the files it found, and at most the demo source beside them,
unless its page has no bytes or has been written already. -/
def Abandoned (s : Store) (encoding : Option Charset) (args : BuildArgs) (s' : Store) : Prop :=
  Provides s args s' ∨ Empties s encoding args s' ∨ Unreported s encoding args s'

theorem provides_of_ensureSource {args : BuildArgs} {config : BuildConfig} {s₁ s₂ : Store}
    {created : Bool} (hc : buildConfig s args = .ok config)
    (he : ensureSource s (.ofText config.input) = (.ok created, s₁)) (hg : Grown s₁ s₂) :
    Provides s args s₂ := by
  rcases ensureSource_cases he with ⟨fault, hf, -⟩ | ⟨-, -, rfl⟩ | ⟨-, hn, i, hw⟩
  · cases hf
  · exact .inl hg
  · refine .inr ⟨config, i, hc, hn, hw.grown hg, fun hs hp => ?_⟩
    exact hs.get?_eq_none hp hw.noFault hn hw.working hw.locate

theorem ReadsSource.provides {args : BuildArgs} {config : BuildConfig} {created : Bool} {s₁ s₂ : Store}
    {source : String} (h : ReadsSource s encoding args config created s₁ source) (hg : Grown s₁ s₂) :
    Provides s args s₂ :=
  provides_of_ensureSource h.configured h.provided hg

/-- What is there once a page with bytes has been written. -/
theorem ReadsSource.produced {args : BuildArgs} {config : BuildConfig} {created : Bool} {s₁ s₂ : Store}
    {source : String} {body : Page.Body} {bytes : Bytes} (h : ReadsSource s encoding args config created s₁ source)
    (hb : Page.bodyOf config source = .ok body) (hp : Text.encode .utf8 (pageOf config args body) = .ok bytes)
    (hw : s₁.writeText (.ofText config.output) (pageOf config args body) .utf8 = (.ok (), s₂)) :
    ∃ i o, Produced s args s₂ config (!created) source body bytes i o := by
  obtain ⟨hc, he, -, hr⟩ := h
  obtain ⟨o, bytes', hp', ho⟩ := File.Store.exists_written_of_writeText hw
  cases hp.symm.trans hp'
  rcases ensureSource_cases he with ⟨fault, hf, -⟩ | ⟨hf, hx, rfl⟩ | ⟨hf, hx, i, hi⟩
  · cases hf
  · cases hf
    obtain ⟨-, i, -, hl, -⟩ := File.Store.exists_locate_of_readText hr
    exact ⟨i, o, hc, hx, ho.extends.locate hl, ho.locate, hr, hb, hp, ho.file, by simp,
      fun k hk _ => ho.kept k hk, by simp⟩
  · cases hf
    have hs : source = demoSource := by
      rw [readText_demoSource hi] at hr
      exact (Except.ok.inj hr).symm
    refine ⟨i, o, hc, hx, ho.extends.locate hi.locate, ho.locate, hs, hb, hp, ho.file, ?_, ?_, ?_⟩
    · intro _ hio
      exact (ho.kept i hio).file.2 hi.file
    · intro k hk hki
      have hne : k ≠ i := fun hki' => Bool.false_ne_true (hki hki')
      exact (hi.kept k hne).trans (ho.kept k hk)
    · intro _ hs hp
      exact hs.get?_eq_none hp hi.noFault hx hi.working hi.locate

theorem Builds.abandoned {args : BuildArgs} {stop : Stop} {σ : Session}
    (h : Builds s encoding args (.error stop, σ)) : Abandoned s encoding args σ.store := by
  cases h with
  | unconfigured => exact .inl (.inl (Grown.refl s))
  | unprovided _ he =>
      rcases ensureSource_cases he with ⟨fault, -, hg⟩ | ⟨hf, -⟩ | ⟨hf, -⟩
      · exact .inl (.inl hg)
      · cases hf
      · cases hf
  | unannounced hc he => exact .inl (provides_of_ensureSource hc he (Grown.refl _))
  | unread hc he => exact .inl (provides_of_ensureSource hc he (Grown.refl _))
  | unparsed hs => exact .inl (hs.provides (Grown.refl _))
  | unchecked hs => exact .inl (hs.provides (Grown.refl _))
  | unwritten hs hb hk hw =>
      rcases File.Store.of_writeText_eq_error hw with hg | ⟨fault, o, hp, -, ho⟩
      · exact .inl (hs.provides hg)
      · have hk : args.check = false := by
          rw [← Bool.not_eq_true]
          intro ht
          obtain ⟨bytes, hp'⟩ := hk ht
          cases hp.symm.trans hp'
        exact .inr (.inl ⟨hk, _, _, _, fault, o, .page hs hb, hp, hs.provides (Grown.refl _), ho⟩)
  | unreported hs hb hp hw ht =>
      obtain ⟨i, o, h⟩ := hs.produced hb hp hw
      exact .inr (.inr ⟨_, _, _, _, _, i, o, _, h, ht⟩)

theorem Builds.completed {args : BuildArgs} {σ : Session} (h : Builds s encoding args (.ok (), σ)) :
    ∃ config found source body bytes i o, Completed s args σ config found source body bytes i o := by
  cases h with
  | @built config created s₁ source body bytes s₂ hs hb hp hw ht =>
      obtain ⟨i, o, h⟩ := hs.produced hb hp hw
      exact ⟨config, !created, source, body, bytes, i, o, h, by rw [Bool.not_not]⟩

/-! ## Runs -/

theorem Parses.store_eq {stdin : Bytes} {args : ParseArgs} {result : Except Stop Unit} {σ : Session}
    (h : Parses s encoding stdin args (result, σ)) : σ.store = s := by
  cases h <;> rfl

/-- What a run touches: the files of a build that ends well are those it reports, a build that ends early
leaves what it found, unless it empties the file of a page without bytes or cannot say that it is done, and nothing
else changes any file. -/
def Touches (s : Store) (encoding : Option Charset) (asked : Except Exit Request) (out : Outcome) : Prop :=
  match asked with
  | .ok (.build args) =>
    if out.ending = .code 0 then
      ∃ config found source body bytes i o, Completed s args out.session config found source body bytes i o
    else Abandoned s encoding args out.session.store
  | _ => out.session.store = s

theorem touches_run (encoding : Option Charset) (words : List Points) (stdin : Bytes) (s : Store) :
    Touches s encoding (readLine words) (run encoding words stdin s) := by
  cases hr : readLine words with
  | error exit => simp only [Touches, run, hr]
  | ok request =>
      cases request with
      | tokens =>
          simp only [Touches, run, hr]
          exact (store_finish _ _).trans (congrArg (·.2.store) (run_tokens s encoding))
      | parse args =>
          obtain ⟨⟨result, σ⟩, hp⟩ := exists_parses s encoding stdin args
          rw [run_of_parse hr hp]
          exact (store_finish result σ).trans hp.store_eq
      | build args =>
          obtain ⟨⟨stop | _, σ⟩, hb⟩ := exists_builds s encoding args
          · rw [run_of_build hr stdin hb, Touches, if_neg hb.ending_ne, store_finish]
            exact hb.abandoned
          · rw [run_of_build hr stdin hb, Touches,
              if_pos (show (finish (.ok (), σ)).ending = .code 0 from rfl)]
            exact hb.completed

/-- A source, and a directory where the page is to go. -/
def blockedStore : Store where
  entries := [([nameBytes "keep.tal"], .file (utf8Bytes "^\x7bMine\x7d".toList)), ([nameBytes "out"], .directory)]

/-- A build that ends early may have put the demo source in place of a file that was there: the path of
its input leads out of a directory that is made first, and then to that file. -/
theorem run_overwrites_input :
    (run none ["build", "--in", "missing/../keep.tal", "--out", "out"] [] blockedStore).ending ≠ .code 0 ∧
      blockedStore.get? [nameBytes "keep.tal"] = some (.file (utf8Bytes "^\x7bMine\x7d".toList)) ∧
      (run none ["build", "--in", "missing/../keep.tal", "--out", "out"] []
        blockedStore).session.store.get? [nameBytes "keep.tal"] = some (.file demoBytes) ∧
      utf8Bytes "^\x7bMine\x7d".toList ≠ demoBytes := by
  let args : BuildArgs :=
    { overrides := { input := some "missing/../keep.tal", output := some "out" } }
  let after : Store :=
    { entries := [([nameBytes "keep.tal"], .file demoBytes), ([nameBytes "missing"], .directory),
        ([nameBytes "out"], .directory)] }
  have hr : readLine ["build", "--in", "missing/../keep.tal", "--out", "out"] = .ok (.build args) := by
    decide +kernel
  have hc : buildConfig blockedStore args =
      .ok { input := "missing/../keep.tal", output := "out" } := rfl
  have he : ensureSource blockedStore (.ofText "missing/../keep.tal") = (.ok true, after) := by
    decide +kernel
  have hs : after.readText (.ofText "missing/../keep.tal") .utf8 = .ok demoSource := by
    decide +kernel
  -- Whether the demo source has a page makes no difference: the page could not be written.
  have hb : ∃ stop σ, Builds blockedStore none args (.error stop, σ) ∧ σ.store = after := by
    have hread : ReadsSource blockedStore none args _ true after demoSource := ⟨hc, he, rfl, hs⟩
    cases hp : Page.bodyOf { input := "missing/../keep.tal", output := "out" } demoSource with
    | error report => exact ⟨_, _, .unparsed hread hp, rfl⟩
    | ok body =>
        have hw : ∀ page, after.writeText (.ofText "out") page .utf8 =
            (.error (.refused .isDirectory (.ofText "out")), after) := by
          intro page
          rw [File.Store.writeText]
          cases Text.encode .utf8 page <;> rfl
        exact ⟨_, _, .unwritten hread hp nofun (hw _), rfl⟩
  obtain ⟨stop, σ, hb, hσ⟩ := hb
  rw [run_of_build hr [] hb, store_finish, hσ]
  exact ⟨hb.ending_ne, rfl, rfl, by decide +kernel⟩

end TalPage.Command
