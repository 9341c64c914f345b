import TalPage.Proofs.Command.Agreement
import TalPage.Proofs.Command.Effect
import TalPage.Proofs.Command.Words
import TalPage.Proofs.File.Faults

/-!
# How runs end

A build without a settings file comes to its end or tells that it has failed, and the reading of a source
does so or reports a fault on one line. Some faults are not told: a build ends with a fault when more
directories are missing on the way to its source or to its page than can be made, when one of their paths has
no bytes, and when the page has none; a reading when the path of its source has none; and either when standard
output does not take what is printed.
-/

namespace TalPage.Command

open File (Path Store Location nameBytes)
open File.Store (Grown Retains Escapes)
open Options (HoldsOfEnds)
open Text (Bytes Charset CodePoint EncodeFault Points)

variable {s s' : Store} {encoding : Option Charset} {p : Path} {args : BuildArgs} {reading : ParseArgs}
  {stdin : Bytes} {r : Except Stop Unit × Session} {fault : File.Fault}

/-! ## Words without null characters -/

/-- No null character stands in the word. -/
def NullFree (word : Points) : Prop :=
  .char '\x00' ∉ word

instance : DecidablePred NullFree :=
  fun word => inferInstanceAs (Decidable (.char '\x00' ∉ word))

theorem holdsOfEnds_nullFree : HoldsOfEnds NullFree :=
  fun _ _ hw hs hc => hw (hs.mem hc)

theorem nullFree_overridden {new : Option Points} {old : Points}
    (hn : ∀ text, new = some text → NullFree text) (ho : NullFree old) : NullFree (overridden new old) := by
  unfold overridden
  split
  · split
    · exact ho
    · exact hn _ rfl
  · exact ho

theorem hasNull_defaulted (h : args.Of NullFree) :
    (Path.ofText args.defaulted.input).hasNull = false ∧
      (Path.ofText args.defaulted.output).hasNull = false :=
  ⟨Path.hasNull_ofText (nullFree_overridden h.input (by decide +kernel)),
    Path.hasNull_ofText (nullFree_overridden h.output (by decide +kernel))⟩

/-! ## Lines -/

/-- The text stands on one line. -/
def OneLine (text : String) : Prop :=
  '\n' ∉ text.toList

instance : DecidablePred OneLine :=
  fun text => inferInstanceAs (Decidable ('\n' ∉ text.toList))

theorem OneLine.append {a b : String} (ha : OneLine a) (hb : OneLine b) : OneLine (a ++ b) := by
  rw [OneLine, String.toList_append, List.mem_append, not_or]
  exact ⟨ha, hb⟩

theorem oneLine_repr (n : Nat) : OneLine (Nat.repr n) := by
  rw [OneLine, Nat.repr, String.toList_ofList]
  exact fun hc => absurd (Nat.isDigit_of_mem_toDigits (by decide) (by decide) hc) (by decide)

theorem oneLine_toString (n : Int) : OneLine (toString n) := by
  cases n with
  | ofNat n => exact oneLine_repr n
  | negSucc n => exact OneLine.append (a := "-") (by decide) (oneLine_repr (n + 1))

theorem oneLine_message (cause : Markup.Cause) : OneLine cause.message := by
  cases cause with
  | tooDeep limit => exact ((by decide +kernel : OneLine _).append (oneLine_toString limit)).append (by decide)
  | _ => decide +kernel

theorem oneLine_name (kind : Markup.Kind) : OneLine kind.name := by
  cases kind <;> decide +kernel

/-- What is told of a fault stands on one line. -/
theorem oneLine_report (fault : Markup.Fault) (source : List Char) :
    OneLine ((fault.report source).kind.name ++ ": " ++ (fault.report source).text) := by
  have ht : OneLine (fault.report source).text :=
    (((oneLine_message fault.cause).append (by decide +kernel)).append (oneLine_toString _)).append (by decide)
  exact ((oneLine_name _).append (by decide)).append ht

/-! ## Ends -/

/-- The run fails with a text that says what has failed. -/
def FailsAs (what : String) (r : Except Stop Unit × Session) : Prop :=
  ∃ text : String, r.1 = .error (.failure (what ++ " failed: " ++ text))

/-- The run ends with code 1 and prints nothing, and tells one line of a kind of fault. -/
def ReportsLine (r : Except Stop Unit × Session) (kind : Markup.Kind) (text : String) : Prop :=
  r.1 = .error (.exit 1) ∧ r.2.stdout = [] ∧ r.2.stderr = (kind.name : Points) ++ ": " ++ text ++ "\n" ∧
    OneLine (kind.name ++ ": " ++ text)

/-- A build without a settings file comes to a fault that it does not tell: at its source, where nothing stands;
at the line that says that the source has been made; at the check of its page, which has no bytes; at the writing
of its page; or at the line that says what it has built. -/
inductive ComesTo (s : Store) (encoding : Option Charset) (args : BuildArgs) : File.Fault → Prop where
  | source {fault : File.Fault} (he : s.exists? (.ofText args.defaulted.input) = .ok false)
      (h : s.Escapes (.ofText args.defaulted.input) demoSource fault) : ComesTo s encoding args fault
  | announcement {s₁ f} (he : ensureSource s (.ofText args.defaulted.input) = (.ok true, s₁))
      (h : printFault? encoding (createdLine true (.ofText args.defaulted.input)) = some f) :
      ComesTo s encoding args (.unencodable f)
  | check {s₁ output page f} (hp : ComesToPage s encoding args s₁ output page) (hk : args.check = true)
      (h : Text.encode .utf8 page = .error f) : ComesTo s encoding args (.unencodable f)
  | page {s₁ output page} {fault : File.Fault} (hp : ComesToPage s encoding args s₁ output page)
      (hk : args.check = true → ∃ bytes, Text.encode .utf8 page = .ok bytes)
      (h : s₁.Escapes output page fault) : ComesTo s encoding args fault
  | report {output bytes f} (hp : ComesToReport s encoding args output bytes)
      (h : printFault? encoding (successLine output bytes) = some f) : ComesTo s encoding args (.unencodable f)

/-- How a build without a settings file ends: well; with a text that says that it has failed; or with a fault,
exactly when it comes to one that it does not tell. If there is too much missing then, it is on the way to its
source or to its page in the files it finds. -/
structure BuildEnds (s : Store) (encoding : Option Charset) (args : BuildArgs) (r : Except Stop Unit × Session) :
    Prop where
  ends : r.1 = .ok () ∨ FailsAs "Build" r ∨ ∃ fault, r.1 = .error (.file fault)
  untold : ∀ fault, r.1 = .error (.file fault) ↔ ComesTo s encoding args fault
  tooFar : r.1 = .error (.file .tooManyMissing) →
    s.TooFar (.ofText args.defaulted.input) ∨ s.TooFar (.ofText args.defaulted.output)

/-- A source has a page of HTML that standard output does not take. -/
def Unprinted (s : Store) (encoding : Option Charset) (stdin : Bytes) (args : ParseArgs) (fault : File.Fault) :
    Prop :=
  ∃ source html f, sourceOf s stdin args.source = .ok source ∧ Markup.parse args.rules source = .ok html ∧
    printFault? encoding ((html : Points) ++ "\n") = some f ∧ fault = .unencodable f

/-- How the reading of a source ends: well; with a text that says that it has failed, exactly when there is
no source; with a report, exactly when the source has that fault; or with a fault, exactly when the path of the
source has no bytes or standard output does not take the HTML. -/
structure ParseEnds (s : Store) (encoding : Option Charset) (stdin : Bytes) (args : ParseArgs)
    (r : Except Stop Unit × Session) : Prop where
  ends : r.1 = .ok () ∨ FailsAs "Parse" r ∨ (∃ kind text, ReportsLine r kind text) ∨
    ∃ fault, r.1 = .error (.file fault)
  unread : FailsAs "Parse" r ↔ ∃ fault : File.Fault, fault.Common ∧ sourceOf s stdin args.source = .error fault
  reported : ∀ kind text, ReportsLine r kind text ↔
    ∃ source fault, sourceOf s stdin args.source = .ok source ∧
      Markup.parse args.rules source = .error fault ∧
      (fault.report source.toList).kind = kind ∧ (fault.report source.toList).text = text
  untold : ∀ fault, r.1 = .error (.file fault) ↔
    (args.source ≠ "-" ∧ ∃ f, (Path.ofText args.source).encodeFault? = some f ∧ fault = .unencodable f) ∨
      Unprinted s encoding stdin args fault

/-- How a request ends that is made without settings. -/
def Request.Ends (s : Store) (encoding : Option Charset) (stdin : Bytes) :
    Request → Except Stop Unit × Session → Prop
  | .build args, r => BuildEnds s encoding args r
  | .parse args, r => ParseEnds s encoding stdin args r
  | .tokens, r => r.1 = .ok ()

theorem failed_of_common (h : fault.Common) (what : String) :
    failed what fault = .failure (what ++ " failed: " ++ fault.message) := by
  cases fault <;> first | rfl | exact h.elim

theorem failed_of_not_common (h : ¬ fault.Common) (what : String) : failed what fault = .file fault := by
  cases fault <;> first | rfl | exact absurd trivial h

/-! ## Builds -/

theorem fault_of_ensureSource (hn : p.hasNull = false) (h : ensureSource s p = (.error fault, s')) :
    fault.Common ∨ s.exists? p = .ok false ∧ s.Escapes p demoSource fault := by
  unfold ensureSource at h
  split at h
  · next he =>
      cases h
      exact .inl (File.Store.common_of_exists? he)
  · cases h
  · next he =>
      rcases hw : s.writeText p demoSource .utf8 with ⟨fault' | _, s₁⟩
      · rw [hw] at h
        cases h
        exact (File.Store.escapes_of_writeText hn hw).imp_right fun h => ⟨he, h⟩
      · rw [hw] at h
        cases h

theorem exists_ensureSource_of_escapes (hn : p.hasNull = false) (he : s.exists? p = .ok false)
    (h : s.Escapes p demoSource fault) : ∃ s', ensureSource s p = (.error fault, s') := by
  obtain ⟨s', hw⟩ := h.exists_writeText hn
  refine ⟨s', ?_⟩
  rw [ensureSource, he]
  simp only [hw]
  rfl

/-- Where a source is found or made, its path has bytes. -/
theorem noFault_of_ensureSource {created : Bool} (h : ensureSource s p = (.ok created, s')) : p.fault? = none := by
  rcases ensureSource_cases h with ⟨_, hf, -⟩ | ⟨-, he, -⟩ | ⟨-, -, l, hw⟩
  · cases hf
  · cases hp : p.fault? with
    | none => rfl
    | some fault =>
        rw [File.Store.exists?, hp] at he
        cases he
  · exact hw.noFault

theorem retains_of_ensureSource {created : Bool} (h : ensureSource s p = (.ok created, s')) :
    Retains s s' := by
  rcases ensureSource_cases h with ⟨_, hf, -⟩ | ⟨-, -, rfl⟩ | ⟨-, -, l, hw⟩
  · cases hf
  · exact (Grown.refl _).retains
  · exact hw.retains

theorem buildConfig_of_none (h : args.config = none) : buildConfig s args = .ok args.defaulted := by
  rw [buildConfig, h]
  rfl

theorem ComesTo.not_common (h : ComesTo s encoding args fault) : ¬ fault.Common := by
  cases h with
  | source _ h => exact h.not_common
  | page _ _ h => exact h.not_common
  | announcement | check | report => exact id

section Unconfigured

variable (hc : args.config = none)

include hc

/-- A file that is too far once there is a source was too far before. -/
theorem ComesTo.tooFar (h : ComesTo s encoding args .tooManyMissing) :
    s.TooFar (.ofText args.defaulted.input) ∨ s.TooFar (.ofText args.defaulted.output) := by
  cases h with
  | source _ h =>
      cases h with
      | tooFar _ hf => exact .inl hf
  | page hp _ h =>
      cases hp with
      | page hs =>
          cases (buildConfig_of_none hc).symm.trans hs.configured
          cases h with
          | tooFar _ hf => exact .inr ((retains_of_ensureSource hs.provided).tooFar hf)

variable (hn : args.Of NullFree)

include hn

theorem ComesTo.exists_builds (h : ComesTo s encoding args fault) :
    ∃ σ, Builds s encoding args (.error (.file fault), σ) := by
  obtain ⟨hi, ho⟩ := hasNull_defaulted hn
  rw [← failed_of_not_common h.not_common "Build"]
  cases h with
  | source he h =>
      obtain ⟨s', he⟩ := exists_ensureSource_of_escapes hi he h
      exact ⟨_, .unprovided (buildConfig_of_none hc) he⟩
  | announcement he h => exact ⟨_, .unannounced (buildConfig_of_none hc) he h⟩
  | check hp hk h =>
      cases hp with
      | page hs hb => exact ⟨_, .unchecked hs hb hk h⟩
  | page hp hk h =>
      cases hp with
      | page hs hb =>
          cases (buildConfig_of_none hc).symm.trans hs.configured
          obtain ⟨s', hw⟩ := h.exists_writeText ho
          exact ⟨_, .unwritten hs hb hk hw⟩
  | report hp h =>
      cases hp with
      | report hp he hw =>
          cases hp with
          | page hs hb => exact ⟨_, .unreported hs hb he hw h⟩

/-- A build that stops at a fault says so, or has come to one that it does not tell. -/
theorem Builds.ends_cases (h : Builds s encoding args r) :
    r.1 = .ok () ∨ FailsAs "Build" r ∨ ∃ fault, r.1 = .error (.file fault) ∧ ComesTo s encoding args fault := by
  obtain ⟨hi, ho⟩ := hasNull_defaulted hn
  have hd := buildConfig_of_none (s := s) hc
  have fails {fault : File.Fault} (h : fault.Common) {σ : Session} :
      FailsAs "Build" (.error (failed "Build" fault), σ) :=
    ⟨fault.message, by rw [failed_of_common h]⟩
  have escapes {fault : File.Fault} (h : ComesTo s encoding args fault) {σ : Session} :
      ∃ fault', ((.error (failed "Build" fault), σ) : Except Stop Unit × Session).1 = .error (.file fault') ∧
        ComesTo s encoding args fault' :=
    ⟨fault, by rw [failed_of_not_common h.not_common], h⟩
  cases h with
  | unconfigured hc' => cases hd.symm.trans hc'
  | unprovided hc' he =>
      cases hd.symm.trans hc'
      rcases fault_of_ensureSource hi he with hf | ⟨hx, hf⟩
      · exact .inr (.inl (fails hf))
      · exact .inr (.inr (escapes (.source hx hf)))
  | @unannounced _ created _ _ hc' he ha =>
      cases hd.symm.trans hc'
      cases created with
      | false => cases printFault?_nil.symm.trans ha
      | true => exact .inr (.inr ⟨_, rfl, .announcement he ha⟩)
  | unread hc' he _ hr =>
      exact .inr (.inl (fails (File.Store.common_of_readText (noFault_of_ensureSource he) hr)))
  | @unparsed _ _ _ _ report _ _ =>
      exact .inr (.inl ⟨report.text, by rw [buildFailed, Text.points_append]; rfl⟩)
  | unchecked hs hb hk hp => exact .inr (.inr ⟨_, rfl, .check (.page hs hb) hk hp⟩)
  | unwritten hs hb hk hw =>
      cases hd.symm.trans hs.configured
      rcases File.Store.escapes_of_writeText ho hw with hf | hf
      · exact .inr (.inl (fails hf))
      · exact .inr (.inr (escapes (.page (.page hs hb) hk hf)))
  | unreported hs hb hp hw ht => exact .inr (.inr ⟨_, rfl, .report (.report (.page hs hb) hp hw) ht⟩)
  | built => exact .inl rfl

theorem Builds.ends (h : Builds s encoding args r) : BuildEnds s encoding args r := by
  have hcases := h.ends_cases hc hn
  have huntold (fault : File.Fault) (hr : r.1 = .error (.file fault)) : ComesTo s encoding args fault := by
    rcases hcases with he | ⟨text, he⟩ | ⟨fault', he, hf⟩
    · cases hr.symm.trans he
    · cases hr.symm.trans he
    · cases hr.symm.trans he
      exact hf
  refine ⟨hcases.imp_right (.imp_right (.imp fun _ => And.left)),
    fun fault => ⟨huntold fault, fun hf => ?_⟩, fun hr => (huntold _ hr).tooFar hc⟩
  obtain ⟨σ, hb⟩ := hf.exists_builds hc hn
  rw [h.run_eq.symm.trans hb.run_eq]

end Unconfigured

/-! ## Readings -/

/-- No text comes from a source whose path has no bytes, and from no other source comes a fault that is not told. -/
theorem sourceOf_not_common_iff {source : Points} (hn : NullFree source) :
    sourceOf s stdin source = .error fault ∧ ¬ fault.Common ↔
      source ≠ "-" ∧ ∃ f, (Path.ofText source).encodeFault? = some f ∧ fault = .unencodable f := by
  have hp := Path.fault?_of_hasNull (Path.hasNull_ofText hn)
  unfold sourceOf
  split
  · next hs =>
      constructor
      · rintro ⟨hr, hf⟩
        cases hd : Text.decode .utf8 stdin <;> rw [hd] at hr <;> cases hr
        exact absurd trivial hf
      · rintro ⟨hs', -⟩
        exact absurd hs hs'
  · next hs =>
      cases he : (Path.ofText source).encodeFault? with
      | none =>
          constructor
          · rintro ⟨hr, hf⟩
            exact absurd (File.Store.common_of_readText (by rw [hp, he]; rfl) hr) hf
          · rintro ⟨-, _, ⟨⟩, -⟩
      | some f =>
          rw [File.Store.readText, hp, he]
          constructor
          · rintro ⟨⟨⟩, -⟩
            exact ⟨hs, f, rfl, rfl⟩
          · rintro ⟨-, _, ⟨⟩, rfl⟩
            exact ⟨rfl, id⟩

theorem Parses.ends_cases (h : Parses s encoding stdin reading r) :
    r.1 = .ok () ∨ FailsAs "Parse" r ∨ (∃ kind text, ReportsLine r kind text) ∨
      ∃ fault, r.1 = .error (.file fault) := by
  cases h with
  | @unread fault hr =>
      by_cases hf : fault.Common
      · exact .inr (.inl ⟨fault.message, by rw [failed_of_common hf]⟩)
      · exact .inr (.inr (.inr ⟨fault, by rw [failed_of_not_common hf]⟩))
  | refused => exact .inr (.inr (.inl ⟨_, _, rfl, rfl, rfl, oneLine_report _ _⟩))
  | unprinted => exact .inr (.inr (.inr ⟨_, rfl⟩))
  | parsed => exact .inl rfl

theorem Parses.failsAs_iff (h : Parses s encoding stdin reading r) :
    FailsAs "Parse" r ↔ ∃ fault : File.Fault, fault.Common ∧ sourceOf s stdin reading.source = .error fault := by
  cases h with
  | @unread fault hr =>
      constructor
      · rintro ⟨text, he⟩
        by_cases hf : fault.Common
        · exact ⟨fault, hf, hr⟩
        · rw [failed_of_not_common hf] at he
          cases he
      · rintro ⟨_, hf, hr'⟩
        cases hr.symm.trans hr'
        exact ⟨fault.message, by rw [failed_of_common hf]⟩
  | refused hr | unprinted hr | parsed hr =>
      constructor
      · rintro ⟨_, ⟨⟩⟩
      · rintro ⟨_, -, hr'⟩
        cases hr.symm.trans hr'

theorem Parses.reportsLine_iff (h : Parses s encoding stdin reading r) {kind : Markup.Kind} {text : String} :
    ReportsLine r kind text ↔ ∃ source fault, sourceOf s stdin reading.source = .ok source ∧
      Markup.parse reading.rules source = .error fault ∧
      (fault.report source.toList).kind = kind ∧ (fault.report source.toList).text = text := by
  cases h with
  | @unread fault hr =>
      constructor
      · rintro ⟨he, -⟩
        cases fault <;> cases he
      · rintro ⟨_, _, hr', -⟩
        cases hr.symm.trans hr'
  | @refused source fault hr hp =>
      constructor
      · rintro ⟨-, -, ht, -⟩
        exact ⟨source, fault, hr, hp, report_inj ht⟩
      · rintro ⟨_, _, hr', hp', rfl, rfl⟩
        cases hr.symm.trans hr'
        cases hp.symm.trans hp'
        exact ⟨rfl, rfl, rfl, oneLine_report _ _⟩
  | unprinted hr hp | parsed hr hp =>
      constructor
      · rintro ⟨⟨⟩, -⟩
      · rintro ⟨_, _, hr', hp', -⟩
        cases hr.symm.trans hr'
        cases hp.symm.trans hp'

theorem Parses.untold_iff (h : Parses s encoding stdin reading r) :
    r.1 = .error (.file fault) ↔
      (sourceOf s stdin reading.source = .error fault ∧ ¬ fault.Common) ∨
        Unprinted s encoding stdin reading fault := by
  cases h with
  | @unread fault' hr =>
      constructor
      · intro he
        by_cases hf : fault'.Common
        · rw [failed_of_common hf] at he
          cases he
        · rw [failed_of_not_common hf] at he
          cases he
          exact .inl ⟨hr, hf⟩
      · rintro (⟨hr', hf⟩ | ⟨_, _, _, hr', -⟩)
        · cases hr.symm.trans hr'
          rw [failed_of_not_common hf]
        · cases hr.symm.trans hr'
  | refused hr hp =>
      constructor
      · rintro ⟨⟩
      · rintro (⟨hr', -⟩ | ⟨_, _, _, hr', hp', -⟩)
        · cases hr.symm.trans hr'
        · cases hr.symm.trans hr'
          cases hp.symm.trans hp'
  | unprinted hr hp ht =>
      constructor
      · rintro ⟨⟩
        exact .inr ⟨_, _, _, hr, hp, ht, rfl⟩
      · rintro (⟨hr', -⟩ | ⟨_, _, _, hr', hp', ht', rfl⟩)
        · cases hr.symm.trans hr'
        · cases hr.symm.trans hr'
          cases hp.symm.trans hp'
          cases ht.symm.trans ht'
          rfl
  | parsed hr hp ht =>
      constructor
      · rintro ⟨⟩
      · rintro (⟨hr', -⟩ | ⟨_, _, _, hr', hp', ht', -⟩)
        · cases hr.symm.trans hr'
        · cases hr.symm.trans hr'
          cases hp.symm.trans hp'
          cases ht.symm.trans ht'

theorem Parses.ends (h : Parses s encoding stdin reading r) (hn : NullFree reading.source) :
    ParseEnds s encoding stdin reading r where
  ends := h.ends_cases
  unread := h.failsAs_iff
  reported _ _ := h.reportsLine_iff
  untold _ := h.untold_iff.trans (or_congr_left (sourceOf_not_common_iff hn))

/-! ## Requests -/

/-- Faults of sources and pages do not escape a run without settings whose words are free of null characters:
it ends well, with a text that says what has failed, or with a report on one line. The only exceptions are a
build that comes to a file with more directories missing on its way than can be made, a path without bytes, a page
without bytes, and a line that standard output does not take. -/
theorem runRequest_ends {words : List Points} {request : Request} (hw : ∀ w ∈ words, NullFree w)
    (hr : readLine words = .ok request) (hc : settingsPaths request = []) (encoding : Option Charset)
    (stdin : Bytes) (s : Store) :
    request.Ends s encoding stdin ((runRequest stdin request).run.run { store := s, encoding := encoding }) := by
  have hn := of_readLine holdsOfEnds_nullFree (by decide) hw hr
  cases request with
  | build args =>
      obtain ⟨r, hb⟩ := exists_builds s encoding args
      have hc : args.config = none := by simpa [settingsPaths] using hc
      change BuildEnds s encoding args ((build args).run.run { store := s, encoding := encoding })
      rw [hb.run_eq]
      exact hb.ends hc hn
  | parse args =>
      obtain ⟨r, hp⟩ := exists_parses s encoding stdin args
      change ParseEnds s encoding stdin args ((parse stdin args).run.run { store := s, encoding := encoding })
      rw [hp.run_eq]
      exact hp.ends hn
  | tokens => exact congrArg Prod.fst (run_tokens s encoding)

/-- A source that is a file. -/
def sourceStore : Store where
  entries := [([nameBytes "in.tal"], .file (Text.utf8Bytes "^\x7bHi\x7d".toList))]

/-- A build ends so whose page would stand inside a file, and a reading fails of a source that is no text. -/
theorem runRequest_ends_noText :
    BuildEnds sourceStore none { overrides := { input := some "in.tal", output := some "in.tal/page.html" } }
        ((build { overrides := { input := some "in.tal", output := some "in.tal/page.html" } }).run.run
          { store := sourceStore, encoding := none }) ∧
      FailsAs "Parse" ((parse [0xff] { source := "-" }).run.run { store := sourceStore, encoding := none }) := by
  have hb : readLine ["build", "--in", "in.tal", "--out=in.tal/page.html"] =
      .ok (.build { overrides := { input := some "in.tal", output := some "in.tal/page.html" } }) := by
    decide +kernel
  have hp : readLine ["parse", "-"] = .ok (.parse { source := "-" }) := by
    decide +kernel
  have he := runRequest_ends (by decide +kernel) hp rfl none [0xff] sourceStore
  have hs : sourceOf sourceStore [0xff] "-" = .error (.undecodable ⟨.utf8, .invalidStart, 0, 1, 0xff⟩) := by
    decide +kernel
  exact ⟨runRequest_ends (by decide +kernel) hb rfl none [] sourceStore, he.unread.2 ⟨.undecodable _, trivial, hs⟩⟩

/-! ## Sources that are too far -/

theorem defaulted_input {input : Points} (h : input ≠ []) :
    (BuildArgs.defaulted { overrides := { input := some input } }).input = input :=
  if_neg h

/-- The names of a path through `n + 1` directories. -/
def farNames (n : Nat) : List Points :=
  Text.points "d" :: (List.replicate n (Text.points "d") ++ [Text.points "page.tal"])

theorem of_mem_farNames {n : Nat} {name : Points} (h : name ∈ farNames n) : name = "d" ∨ name = "page.tal" := by
  rw [farNames, List.mem_cons, List.mem_append, List.mem_singleton] at h
  rcases h with h | h | h
  · exact .inl h
  · exact .inl (List.eq_of_mem_replicate h)
  · exact .inr h

theorem ofText_farNames (n : Nat) :
    Path.ofText (Path.text { names := farNames n }) = { names := farNames n } := by
  refine Path.ofText_text (List.cons_ne_nil _ _) fun name hm => ?_
  rcases of_mem_farNames hm with rfl | rfl <;> decide +kernel

theorem nullFree_farNames (n : Nat) : NullFree (Path.text { names := farNames n }) := by
  refine fun hc => Path.forall_mem_text (P := (· ≠ .char '\x00')) (by decide) (by decide) ?_ _ hc rfl
  intro name hm c hc
  rcases of_mem_farNames hm with rfl | rfl <;> revert c <;> decide +kernel

theorem hasNull_farNames (n : Nat) : Path.hasNull { names := farNames n } = false := by
  refine Path.hasNull_eq_false_iff.2 fun name hm => ?_
  rcases of_mem_farNames hm with rfl | rfl <;> decide +kernel

/-- The way to such a path, and the path itself, have bytes. -/
theorem encodeFault?_of_subset_farNames {n : Nat} {names : List Points} (h : names ⊆ farNames n) :
    Path.encodeFault? { names := names } = none := by
  refine Path.encodeFault?_eq_none (Path.forall_mem_text (by decide) (by decide) fun name hm => ?_)
  rcases of_mem_farNames (h hm) with rfl | rfl <;> decide +kernel

theorem head?_text_farNames (n : Nat) : (Path.text { names := farNames n }).head? = some (.char 'd') := by
  obtain ⟨next, rest, hr⟩ : ∃ next rest,
      List.replicate n (Text.points "d") ++ [Text.points "page.tal"] = next :: rest :=
    List.exists_cons_of_ne_nil (by simp)
  rw [Path.text, if_neg (by simp [farNames]), List.nil_append, farNames, hr, List.intercalate_cons_cons]
  rfl

section Far

variable {n : Nat} (hp : 2 * n + 11 < File.Store.pathLimit)

include hp

theorem bytesOf_farNames : File.Store.bytesOf (farNames n) < File.Store.pathLimit := by
  have hd : (nameBytes "d").length = 1 := by decide
  have ht : File.Store.bytesOf ["page.tal"] = 9 := by decide
  rw [farNames, File.Store.bytesOf, File.Store.bytesOf_append, File.Store.bytesOf_replicate, hd, ht]
  omega

theorem exists?_farNames : ({} : Store).exists? { names := farNames n } = .ok false := by
  have hl : ({} : Store).locate { names := farNames n } = .error .notFound :=
    File.Store.locate_of_vacant rfl (by decide) (by decide) rfl (by simp) (bytesOf_farNames hp)
  have hk : ({} : Store).look { names := farNames n } = .error .notFound := by
    rw [File.Store.look, hl]
    rfl
  have hf : Path.fault? { names := farNames n } = none := by
    rw [Path.fault?_of_hasNull (hasNull_farNames n), encodeFault?_of_subset_farNames (List.Subset.refl _)]
    rfl
  rw [File.Store.exists?, hf, hk]
  rfl

theorem tooFar_farNames (hm : Store.missingLimit {} < n) : ({} : Store).TooFar { names := farNames n } := by
  have hd : (Path.parent { names := farNames n }).names =
      Text.points "d" :: List.replicate n (Text.points "d") := by
    rw [Path.parent, farNames, List.dropLast_cons_of_ne_nil (by simp), List.dropLast_concat]
  have hb := bytesOf_farNames hp
  rw [farNames, ← List.cons_append, File.Store.bytesOf_append] at hb
  have hs : ({} : Store).missing [] (Text.points "d" :: List.replicate n (Text.points "d")).reverse =
      (List.replicate n (Text.points "d")).length :=
    File.Store.missing_of_vacant rfl (by decide) (by decide) rfl (Nat.lt_of_le_of_lt (Nat.le_add_right _ _) hb)
  rw [File.Store.TooFar, hd]
  change _ < ({} : Store).missing [] (Text.points "d" :: List.replicate n (Text.points "d")).reverse
  rwa [hs, List.length_replicate]

/-- Nothing is made for a source behind too many directories that are not there. -/
theorem escapes_farNames (hm : Store.missingLimit {} < n) (text : Points) :
    ({} : Store).Escapes { names := farNames n } text .tooManyMissing :=
  .tooFar (encodeFault?_of_subset_farNames (List.dropLast_subset _)) (tooFar_farNames hp hm)

end Far

/-- A source behind 1200 directories that are not there. -/
def farSource : Points :=
  Path.text { names := farNames 1199 }

/-- A build that is asked for a source too far away ends with a fault that it does not tell. -/
theorem run_farSource :
    readLine ["build", "--in", farSource] = .ok (.build { overrides := { input := some farSource } }) ∧
      (∀ w ∈ [Text.points "build", "--in", farSource], NullFree w) ∧
      (run none ["build", "--in", farSource] [] {}).ending = .file .tooManyMissing := by
  have hh : farSource.head? = some (.char 'd') := head?_text_farNames 1199
  have hr : readLine ["build", "--in", farSource] =
      .ok (.build { overrides := { input := some farSource } }) :=
    readLine_input (by rw [hh]; decide)
  have hw : ∀ w ∈ [Text.points "build", "--in", farSource], NullFree w := by
    simp only [List.forall_mem_cons, List.not_mem_nil, false_implies, implies_true, and_true]
    exact ⟨by decide, by decide, nullFree_farNames 1199⟩
  refine ⟨hr, hw, ?_⟩
  have hne : farSource ≠ [] := by
    intro he
    rw [he] at hh
    cases hh
  have hi : Path.ofText (BuildArgs.defaulted { overrides := { input := some farSource } }).input =
      { names := farNames 1199 } := by
    rw [defaulted_input hne, farSource, ofText_farNames]
  obtain ⟨s', he⟩ := exists_ensureSource_of_escapes (hasNull_farNames 1199) (exists?_farNames (by decide))
    (escapes_farNames (by decide) (by decide) demoSource)
  rw [← hi] at he
  rw [run_of_build hr [] (.unprovided (buildConfig_of_none rfl) he)]
  rfl

end TalPage.Command
