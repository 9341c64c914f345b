import TalPage.Command.Run
import TalPage.Proofs.File.Writing

/-!
# How commands go

A build loads its settings, sees to it that there is a source, reads it, makes the page, checks it if it is asked
to, writes it, and says so. It ends at the first of these that fails, and keeps what it has done until then. A
reading of a source only prints.
-/

namespace TalPage.Command

open File (Path Store)
open Text (Bytes Charset EncodeFault Points)

variable {α β : Type} {encoding : Option Charset}

/-! ## Running steps -/

theorem run_bind (x : Run α) (f : α → Run β) (σ : Session) :
    (x >>= f).run.run σ =
      match x.run.run σ with
      | (.ok a, σ') => (f a).run.run σ'
      | (.error stop, σ') => (.error stop, σ') := by
  rw [ExceptT.run_bind, StateT.run_bind]
  generalize x.run.run σ = r
  rcases r with ⟨_ | _, _⟩ <;> rfl

theorem run_pure (a : α) (σ : Session) : (pure a : Run α).run.run σ = (.ok a, σ) := rfl

theorem run_throw (stop : Stop) (σ : Session) : (throw stop : Run α).run.run σ = (.error stop, σ) := rfl

theorem run_get (σ : Session) : (get : Run Session).run.run σ = (.ok σ, σ) := rfl

theorem run_set (σ σ' : Session) : (set σ' : Run Unit).run.run σ = (.ok (), σ') := rfl

theorem run_print (text : Points) (σ : Session) :
    (print text).run.run σ =
      match printFault? σ.encoding text with
      | none => (.ok (), { σ with stdout := σ.stdout ++ text })
      | some fault => (.error (.file (.unencodable fault)), σ) := by
  rw [print, run_bind, run_get]
  dsimp only
  cases printFault? σ.encoding text <;> rfl

theorem run_printLine (text : Points) (σ : Session) :
    (printLine text).run.run σ =
      match printFault? σ.encoding (text ++ "\n") with
      | none => (.ok (), { σ with stdout := σ.stdout ++ (text ++ "\n") })
      | some fault => (.error (.file (.unencodable fault)), σ) :=
  run_print _ σ

theorem run_tell (text : Points) (σ : Session) :
    (tell text).run.run σ = (.ok (), { σ with stderr := σ.stderr ++ text ++ "\n" }) := rfl

theorem run_ofFile (what : String) (result : Except File.Fault α) (σ : Session) :
    (ofFile what result).run.run σ = (result.mapError (failed what), σ) := by
  cases result <;> rfl

theorem run_writeText (what : String) (path : Path) (text : Points) (σ : Session) :
    (writeText what path text).run.run σ =
      ((σ.store.writeText path text .utf8).1.mapError (failed what),
        { σ with store := (σ.store.writeText path text .utf8).2 }) := by
  rw [writeText, run_bind, run_get]
  rcases h : σ.store.writeText path text .utf8 with ⟨_ | _, _⟩ <;>
    simp only [h, run_bind, run_set] <;> rfl

/-! ## What an output takes -/

/-- Standard output takes a text if all its code points have bytes in its encoding. -/
theorem printFault?_eq_none_iff {text : Points} :
    printFault? encoding text = none ↔ ∀ charset, encoding = some charset → ∀ p ∈ text, charset.fits p = true := by
  cases encoding with
  | none => exact ⟨fun _ => nofun, fun _ => rfl⟩
  | some charset =>
      have he : printFault? (some charset) text = none ↔ ∃ bytes, Text.encode charset text = .ok bytes := by
        rw [printFault?]
        cases Text.encode charset text <;> simp
      rw [he]
      constructor
      · rintro ⟨bytes, hb⟩ _ ⟨⟩
        obtain ⟨cs, hcs, hf, -⟩ := Text.encode_eq_ok_iff.1 hb
        exact Charset.forall_fits_iff.2 ⟨cs, hcs, hf⟩
      · intro hf
        obtain ⟨cs, hcs, hf⟩ := Charset.forall_fits_iff.1 (hf charset rfl)
        exact ⟨_, Text.encode_eq_ok_iff.2 ⟨cs, hcs, hf, rfl⟩⟩

theorem printFault?_nil : printFault? encoding [] = none :=
  printFault?_eq_none_iff.2 fun _ _ => List.forall_mem_nil _

/-- Only ASCII stands in the text. -/
def Ascii (text : Points) : Prop :=
  ∀ p ∈ text, Charset.ascii.fits p = true

instance : DecidablePred Ascii :=
  fun text => inferInstanceAs (Decidable (∀ p ∈ text, Charset.ascii.fits p = true))

/-- A text of ASCII has bytes in every encoding. -/
theorem printFault?_ascii {text : Points} (h : Ascii text) : printFault? encoding text = none := by
  refine printFault?_eq_none_iff.2 fun charset _ p hp => ?_
  have hl : Charset.ascii.limit ≤ charset.limit := by
    cases charset <;> decide
  cases p with
  | char c => exact decide_eq_true (Nat.lt_of_lt_of_le (of_decide_eq_true (h _ hp)) hl)
  | surrogate n => cases h _ hp

/-! ## The course of a build -/

theorem ensureSource_of_readText {s : Store} {p : Path} {text : String}
    (h : s.readText p .utf8 = .ok text) : ensureSource s p = (.ok false, s) := by
  rw [ensureSource, File.Store.exists?_of_readText h]

/-- What is printed for a source that has been made. -/
def createdLine (created : Bool) (input : Path) : Points :=
  if created then "Created demo " ++ input.name ++ "\n" else []

/-- What is told with a body. -/
def warningLine (body : Page.Body) : Points :=
  match body.warning with
  | some warning => (warning : Points) ++ "\n"
  | none => []

/-- The line that a check adds to what a build prints. -/
def checkLine (check : Bool) : Points :=
  if check then "Determinism check passed." ++ "\n" else []

/-- The line that a successful build ends with. -/
def successLine (output : Path) (bytes : Bytes) : Points :=
  "Build success! Generated " ++ output.text ++ " (" ++ toString bytes.length ++ " bytes)" ++ "\n"

theorem printFault?_checkLine (check : Bool) : printFault? encoding (checkLine check) = none := by
  cases check
  · exact printFault?_nil
  · exact printFault?_ascii (by decide +kernel)

theorem run_provideSource (input : Path) (σ : Session) :
    (provideSource input).run.run σ =
      match ensureSource σ.store input with
      | (.error fault, s) => (.error (failed "Build" fault), { σ with store := s })
      | (.ok created, s) =>
        match printFault? σ.encoding (createdLine created input) with
        | none => (.ok (), { σ with store := s, stdout := σ.stdout ++ createdLine created input })
        | some fault => (.error (.file (.unencodable fault)), { σ with store := s }) := by
  rcases he : ensureSource σ.store input with ⟨fault | created, s⟩
  · simp only [provideSource, run_bind, run_get, he, run_set, run_ofFile, Except.mapError]
  · cases created with
    | false =>
        simp only [provideSource, run_bind, run_get, he, run_set, run_ofFile, Except.mapError, createdLine,
          Bool.false_eq_true, ↓reduceIte, printFault?_nil, run_pure, List.append_nil]
    | true =>
        simp only [provideSource, run_bind, run_get, he, run_set, run_ofFile, Except.mapError, createdLine,
          ↓reduceIte, run_printLine]

section Pages

variable {config : BuildConfig} {source : String} {page : Points} (label : Option Points)

theorem run_makePage_of_body {body : Page.Body} (hb : Page.bodyOf config source = .ok body) (quiet : Bool)
    (σ : Session) :
    (makePage config label source quiet).run.run σ =
      (.ok (Page.render config.page body.html label),
        { σ with stderr := σ.stderr ++ if quiet then [] else warningLine body }) := by
  cases hm : body.warning <;> cases quiet <;>
    simp only [makePage, hb, hm, run_bind, run_pure, run_tell, warningLine, Bool.not_false, Bool.not_true,
      Bool.false_eq_true, ↓reduceIte, List.append_nil, List.append_assoc]

theorem run_makePage_of_report {report : Markup.Report} (hb : Page.bodyOf config source = .error report)
    (quiet : Bool) (σ : Session) :
    (makePage config label source quiet).run.run σ = (.error (.failure (buildFailed report)), σ) := by
  simp only [makePage, hb, run_throw]

theorem run_encoded (page : Points) (σ : Session) :
    (encoded page).run.run σ = ((Text.encode .utf8 page).mapError fun fault => .file (.unencodable fault), σ) := by
  unfold encoded
  cases Text.encode .utf8 page <;> rfl

/-- A page that has been made is made again, and nothing is told of it any more. It is checked by its bytes. -/
theorem run_checkPage {body : Page.Body} (hb : Page.bodyOf config source = .ok body)
    (hp : Page.render config.page body.html label = page) (σ : Session) :
    (checkPage config label source page).run.run σ =
      (((Text.encode .utf8 page).mapError fun fault => .file (.unencodable fault)).map fun _ => (), σ) := by
  subst hp
  simp only [checkPage, run_bind, run_makePage_of_body label hb, ↓reduceIte, List.append_nil, run_encoded]
  cases Text.encode .utf8 (Page.render config.page body.html label) <;>
    simp only [Except.mapError, ne_eq, not_true_eq_false, ↓reduceIte, run_pure, Except.map]

end Pages

/-- What is said of a page with bytes. -/
theorem run_reportBuild (args : BuildArgs) (output : Path) {page : Points} {bytes : Bytes}
    (hp : Text.encode .utf8 page = .ok bytes) (σ : Session) :
    (reportBuild args output page).run.run σ =
      match printFault? σ.encoding (successLine output bytes) with
      | none => (.ok (), { σ with stdout := σ.stdout ++ (checkLine args.check ++ successLine output bytes) })
      | some fault => (.error (.file (.unencodable fault)), { σ with stdout := σ.stdout ++ checkLine args.check }) := by
  have hc : printFault? σ.encoding (checkLine true) = none := printFault?_checkLine true
  rw [checkLine, if_pos rfl] at hc
  cases hk : args.check <;>
    simp only [reportBuild, hk, run_bind, run_printLine, hc, run_encoded, hp, Except.mapError, checkLine, successLine,
      Bool.false_eq_true, ↓reduceIte, List.nil_append, List.append_nil, List.append_assoc]

/-- The page of a build with a body. -/
def pageOf (config : BuildConfig) (args : BuildArgs) (body : Page.Body) : Points :=
  Page.render config.page body.html args.label

/-- A build has read a source, with what it has printed before and the store it was read from. -/
structure ReadsSource (s : Store) (encoding : Option Charset) (args : BuildArgs) (config : BuildConfig)
    (created : Bool) (s₁ : Store) (source : String) : Prop where
  configured : buildConfig s args = .ok config
  provided : ensureSource s (.ofText config.input) = (.ok created, s₁)
  announced : printFault? encoding (createdLine created (.ofText config.input)) = none
  read : s₁.readText (.ofText config.input) .utf8 = .ok source

/-- How a build goes on a store, one rule for each place where it can end. -/
inductive Builds (s : Store) (encoding : Option Charset) (args : BuildArgs) : Except Stop Unit × Session → Prop where
  | unconfigured {fault} (hc : buildConfig s args = .error fault) :
      Builds s encoding args (.error (unloadable fault), { store := s, encoding := encoding })
  | unprovided {config fault s₁} (hc : buildConfig s args = .ok config)
      (he : ensureSource s (.ofText config.input) = (.error fault, s₁)) :
      Builds s encoding args (.error (failed "Build" fault), { store := s₁, encoding := encoding })
  | unannounced {config created s₁ fault} (hc : buildConfig s args = .ok config)
      (he : ensureSource s (.ofText config.input) = (.ok created, s₁))
      (ha : printFault? encoding (createdLine created (.ofText config.input)) = some fault) :
      Builds s encoding args (.error (.file (.unencodable fault)), { store := s₁, encoding := encoding })
  | unread {config created s₁ fault} (hc : buildConfig s args = .ok config)
      (he : ensureSource s (.ofText config.input) = (.ok created, s₁))
      (ha : printFault? encoding (createdLine created (.ofText config.input)) = none)
      (hr : s₁.readText (.ofText config.input) .utf8 = .error fault) :
      Builds s encoding args (.error (failed "Build" fault),
        { store := s₁, encoding := encoding, stdout := createdLine created (.ofText config.input) })
  | unparsed {config created s₁ source report} (hs : ReadsSource s encoding args config created s₁ source)
      (hb : Page.bodyOf config source = .error report) :
      Builds s encoding args (.error (.failure (buildFailed report)),
        { store := s₁, encoding := encoding, stdout := createdLine created (.ofText config.input) })
  | unchecked {config created s₁ source body fault} (hs : ReadsSource s encoding args config created s₁ source)
      (hb : Page.bodyOf config source = .ok body) (hk : args.check = true)
      (hp : Text.encode .utf8 (pageOf config args body) = .error fault) :
      Builds s encoding args (.error (.file (.unencodable fault)),
        { store := s₁, encoding := encoding, stdout := createdLine created (.ofText config.input)
          stderr := warningLine body })
  | unwritten {config created s₁ source body fault s₂} (hs : ReadsSource s encoding args config created s₁ source)
      (hb : Page.bodyOf config source = .ok body)
      (hk : args.check = true → ∃ bytes, Text.encode .utf8 (pageOf config args body) = .ok bytes)
      (hw : s₁.writeText (.ofText config.output) (pageOf config args body) .utf8 = (.error fault, s₂)) :
      Builds s encoding args (.error (failed "Build" fault),
        { store := s₂, encoding := encoding, stdout := createdLine created (.ofText config.input)
          stderr := warningLine body })
  | unreported {config created s₁ source body bytes s₂ fault}
      (hs : ReadsSource s encoding args config created s₁ source) (hb : Page.bodyOf config source = .ok body)
      (hp : Text.encode .utf8 (pageOf config args body) = .ok bytes)
      (hw : s₁.writeText (.ofText config.output) (pageOf config args body) .utf8 = (.ok (), s₂))
      (ht : printFault? encoding (successLine (.ofText config.output) bytes) = some fault) :
      Builds s encoding args (.error (.file (.unencodable fault)),
        { store := s₂, encoding := encoding
          stdout := createdLine created (.ofText config.input) ++ checkLine args.check
          stderr := warningLine body })
  | built {config created s₁ source body bytes s₂} (hs : ReadsSource s encoding args config created s₁ source)
      (hb : Page.bodyOf config source = .ok body)
      (hp : Text.encode .utf8 (pageOf config args body) = .ok bytes)
      (hw : s₁.writeText (.ofText config.output) (pageOf config args body) .utf8 = (.ok (), s₂))
      (ht : printFault? encoding (successLine (.ofText config.output) bytes) = none) :
      Builds s encoding args (.ok (),
        { store := s₂, encoding := encoding
          stdout := createdLine created (.ofText config.input) ++
            (checkLine args.check ++ successLine (.ofText config.output) bytes)
          stderr := warningLine body })

variable {s : Store} {args : BuildArgs} {r : Except Stop Unit × Session}

theorem Builds.run_eq (h : Builds s encoding args r) :
    (build args).run.run { store := s, encoding := encoding } = r := by
  cases h with
  | unconfigured hc =>
      simp only [build, run_bind, run_get, hc, run_throw]
  | unprovided hc he =>
      simp only [build, run_bind, run_get, hc, run_pure, run_provideSource, he]
  | unannounced hc he ha =>
      simp only [build, run_bind, run_get, hc, run_pure, run_provideSource, he, ha]
  | unread hc he ha hr =>
      simp only [build, run_bind, run_get, hc, run_pure, run_provideSource, he, ha, run_ofFile, hr, Except.mapError,
        List.nil_append]
  | unparsed hs hb =>
      obtain ⟨hc, he, ha, hr⟩ := hs
      simp only [build, run_bind, run_get, hc, run_pure, run_provideSource, he, ha, run_ofFile, hr, Except.mapError,
        run_makePage_of_report args.label hb, List.nil_append]
  | unchecked hs hb hk hp =>
      obtain ⟨hc, he, ha, hr⟩ := hs
      rw [pageOf] at hp
      simp only [build, run_bind, run_get, hc, run_pure, run_provideSource, he, ha, run_ofFile, hr, Except.mapError,
        run_makePage_of_body args.label hb, run_checkPage args.label hb rfl, hk, hp, Except.map, ↓reduceIte,
        Bool.false_eq_true, List.nil_append]
  | unwritten hs hb hk hw =>
      obtain ⟨hc, he, ha, hr⟩ := hs
      rw [pageOf] at hk hw
      cases ht : args.check with
      | true =>
          obtain ⟨bytes, hp⟩ := hk ht
          simp only [build, run_bind, run_get, hc, run_pure, run_provideSource, he, ha, run_ofFile, hr,
            Except.mapError, run_makePage_of_body args.label hb, run_checkPage args.label hb rfl, ht, hp, Except.map,
            run_writeText, hw, ↓reduceIte, Bool.false_eq_true, List.nil_append]
      | false =>
          simp only [build, run_bind, run_get, hc, run_pure, run_provideSource, he, ha, run_ofFile, hr,
            Except.mapError, run_makePage_of_body args.label hb, ht, run_writeText, hw, ↓reduceIte,
            Bool.false_eq_true, List.nil_append]
  | unreported hs hb hp hw ht | built hs hb hp hw ht =>
      obtain ⟨hc, he, ha, hr⟩ := hs
      rw [pageOf] at hp hw
      cases hk : args.check <;>
        simp only [build, run_bind, run_get, hc, run_pure, run_provideSource, he, ha, run_ofFile, hr, Except.mapError,
          run_makePage_of_body args.label hb, run_checkPage args.label hb rfl, hk, hp, Except.map, run_writeText, hw,
          run_reportBuild args _ hp, ht, ↓reduceIte, Bool.false_eq_true, List.nil_append]

/-- A build with a body comes to one of its last ends. -/
theorem ReadsSource.exists_builds {config : BuildConfig} {created : Bool} {s₁ : Store} {source : String}
    {body : Page.Body} (hs : ReadsSource s encoding args config created s₁ source)
    (hb : Page.bodyOf config source = .ok body) : ∃ r, Builds s encoding args r := by
  rcases hw : s₁.writeText (.ofText config.output) (pageOf config args body) .utf8 with ⟨fault | _, s₂⟩
  · cases hp : Text.encode .utf8 (pageOf config args body) with
    | ok bytes => exact ⟨_, .unwritten hs hb (fun _ => ⟨bytes, hp⟩) hw⟩
    | error f =>
        by_cases hk : args.check = true
        · exact ⟨_, .unchecked hs hb hk hp⟩
        · exact ⟨_, .unwritten hs hb (fun h => absurd h hk) hw⟩
  · obtain ⟨-, bytes, hp, -⟩ := File.Store.exists_written_of_writeText hw
    cases ht : printFault? encoding (successLine (.ofText config.output) bytes) with
    | none => exact ⟨_, .built hs hb hp hw ht⟩
    | some fault => exact ⟨_, .unreported hs hb hp hw ht⟩

theorem exists_builds (s : Store) (encoding : Option Charset) (args : BuildArgs) :
    ∃ r, Builds s encoding args r := by
  cases hc : buildConfig s args with
  | error fault => exact ⟨_, .unconfigured hc⟩
  | ok config =>
      rcases he : ensureSource s (.ofText config.input) with ⟨fault | created, s₁⟩
      · exact ⟨_, .unprovided hc he⟩
      cases ha : printFault? encoding (createdLine created (.ofText config.input)) with
      | some fault => exact ⟨_, .unannounced hc he ha⟩
      | none =>
          cases hr : s₁.readText (.ofText config.input) .utf8 with
          | error fault => exact ⟨_, .unread hc he ha hr⟩
          | ok source =>
              have hs : ReadsSource s encoding args config created s₁ source := ⟨hc, he, ha, hr⟩
              cases hb : Page.bodyOf config source with
              | error report => exact ⟨_, .unparsed hs hb⟩
              | ok body => exact hs.exists_builds hb

theorem builds_iff : Builds s encoding args r ↔ (build args).run.run { store := s, encoding := encoding } = r := by
  refine ⟨Builds.run_eq, ?_⟩
  rintro rfl
  obtain ⟨r, h⟩ := exists_builds s encoding args
  rwa [h.run_eq]

/-- A build has a page to write to a path, with a store that its source was read from. -/
inductive ComesToPage (s : Store) (encoding : Option Charset) (args : BuildArgs) : Store → Path → Points → Prop where
  | page {config created s₁ source body} (hs : ReadsSource s encoding args config created s₁ source)
      (hb : Page.bodyOf config source = .ok body) :
      ComesToPage s encoding args s₁ (.ofText config.output) (pageOf config args body)

/-- A build has written the bytes of its page to a path, and is to say so. -/
inductive ComesToReport (s : Store) (encoding : Option Charset) (args : BuildArgs) : Path → Bytes → Prop where
  | report {s₁ output page bytes s₂} (h : ComesToPage s encoding args s₁ output page)
      (hp : Text.encode .utf8 page = .ok bytes) (hw : s₁.writeText output page .utf8 = (.ok (), s₂)) :
      ComesToReport s encoding args output bytes

/-! ## The course of a reading -/

/-- The text that a source stands for: standard input for a dash, and else a file. -/
def sourceOf (s : Store) (stdin : Bytes) (source : Points) : Except File.Fault String :=
  if source = "-" then
    ((Text.decode .utf8 stdin).mapError .undecodable).map fun cs => String.ofList (Text.unifyNewlines cs)
  else s.readText (.ofText source) .utf8

theorem run_sourceText (stdin : Bytes) (source : Points) (σ : Session) :
    (sourceText stdin source).run.run σ =
      ((sourceOf σ.store stdin source).mapError (failed "Parse"), σ) := by
  unfold sourceText sourceOf
  split
  · cases Text.decode .utf8 stdin <;> rfl
  · simp only [run_bind, run_get, run_ofFile]

/-- The rules that a reading is asked for. -/
def ParseArgs.rules (args : ParseArgs) : Markup.Rules :=
  { maxDepth := args.maxDepth, strict := args.strict }

/-- What is told of a source that cannot be parsed. -/
def reportLine (report : Markup.Report) : Points :=
  report.kind.name ++ ": " ++ report.text ++ "\n"

/-- How the reading of a source goes, one rule for each way it can end. -/
inductive Parses (s : Store) (encoding : Option Charset) (stdin : Bytes) (args : ParseArgs) :
    Except Stop Unit × Session → Prop where
  | unread {fault} (hr : sourceOf s stdin args.source = .error fault) :
      Parses s encoding stdin args (.error (failed "Parse" fault), { store := s, encoding := encoding })
  | refused {source fault} (hr : sourceOf s stdin args.source = .ok source)
      (hp : Markup.parse args.rules source = .error fault) :
      Parses s encoding stdin args (.error (.exit 1),
        { store := s, encoding := encoding, stderr := reportLine (fault.report source.toList) })
  | unprinted {source html fault} (hr : sourceOf s stdin args.source = .ok source)
      (hp : Markup.parse args.rules source = .ok html)
      (ht : printFault? encoding ((html : Points) ++ "\n") = some fault) :
      Parses s encoding stdin args (.error (.file (.unencodable fault)), { store := s, encoding := encoding })
  | parsed {source html} (hr : sourceOf s stdin args.source = .ok source)
      (hp : Markup.parse args.rules source = .ok html)
      (ht : printFault? encoding ((html : Points) ++ "\n") = none) :
      Parses s encoding stdin args (.ok (),
        { store := s, encoding := encoding, stdout := (html : Points) ++ "\n" })

variable {stdin : Bytes} {reading : ParseArgs}

theorem Parses.run_eq (h : Parses s encoding stdin reading r) :
    (parse stdin reading).run.run { store := s, encoding := encoding } = r := by
  cases h with
  | unread hr => simp only [parse, run_bind, run_sourceText, hr, Except.mapError]
  | refused hr hp =>
      rw [ParseArgs.rules] at hp
      simp only [parse, run_bind, run_sourceText, hr, Except.mapError, hp, run_tell, run_throw, reportLine,
        List.nil_append]
  | unprinted hr hp ht | parsed hr hp ht =>
      rw [ParseArgs.rules] at hp
      simp only [parse, run_bind, run_sourceText, hr, Except.mapError, hp, run_printLine, ht, List.nil_append]

theorem exists_parses (s : Store) (encoding : Option Charset) (stdin : Bytes) (args : ParseArgs) :
    ∃ r, Parses s encoding stdin args r := by
  cases hr : sourceOf s stdin args.source with
  | error fault => exact ⟨_, .unread hr⟩
  | ok source =>
      cases hp : Markup.parse args.rules source with
      | error fault => exact ⟨_, .refused hr hp⟩
      | ok html =>
          cases ht : printFault? encoding ((html : Points) ++ "\n") with
          | none => exact ⟨_, .parsed hr hp ht⟩
          | some fault => exact ⟨_, .unprinted hr hp ht⟩

theorem parses_iff :
    Parses s encoding stdin reading r ↔ (parse stdin reading).run.run { store := s, encoding := encoding } = r := by
  refine ⟨Parses.run_eq, ?_⟩
  rintro rfl
  obtain ⟨r, h⟩ := exists_parses s encoding stdin reading
  rwa [h.run_eq]

/-! ## Runs -/

theorem run_of_build {words : List Points} (h : readLine words = .ok (.build args)) (stdin : Bytes)
    (hb : Builds s encoding args r) : run encoding words stdin s = finish r := by
  rw [run, h]
  exact congrArg finish hb.run_eq

theorem run_of_parse {words : List Points} (h : readLine words = .ok (.parse reading))
    (hp : Parses s encoding stdin reading r) : run encoding words stdin s = finish r := by
  rw [run, h]
  exact congrArg finish hp.run_eq

theorem store_finish (result : Except Stop Unit) (σ : Session) :
    (finish (result, σ)).session.store = σ.store := by
  rcases result with stop | _
  · cases stop <;> rfl
  · rfl

theorem Builds.ending_ne {stop : Stop} {σ : Session} (h : Builds s encoding args (.error stop, σ)) :
    (finish (.error stop, σ)).ending ≠ .code 0 := by
  have hf : ∀ fault, (finish (.error (failed "Build" fault), σ)).ending ≠ .code 0 := by
    intro fault
    cases fault <;> simp [failed, finish]
  cases h with
  | @unconfigured fault => cases fault <;> simp [unloadable, finish]
  | unprovided | unread | unwritten => exact hf _
  | unannounced | unparsed | unchecked | unreported => simp [finish]

end TalPage.Command
