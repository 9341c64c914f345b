import TalPage.Proofs.Command.Course
import TalPage.Proofs.Page.Holes

/-!
# Checked builds

A build that is asked to check its page makes the page twice. The second making changes nothing and tells
nothing, and it always gives the same page: the check only adds a line to what a successful build prints. There
are two exceptions. The check stops before a page without bytes is written; and a build that cannot say what it
has built has printed the line of the check by then.
-/

namespace TalPage.Command

open File (Path Store nameBytes)
open Text (Bytes Charset Points utf8Bytes)

/-! ## The two builds -/

/-- The build without the check. -/
def BuildArgs.plain (args : BuildArgs) : BuildArgs :=
  { args with check := false }

/-- The build with the check. -/
def BuildArgs.checked (args : BuildArgs) : BuildArgs :=
  { args with check := true }

variable {s : Store} {encoding : Option Charset} {args : BuildArgs} {config : BuildConfig} {created : Bool}
  {s₁ : Store} {source : String} {output : Path} {page : Points}

/-- A source is read alike under arguments with the same settings. -/
theorem ReadsSource.congr {args' : BuildArgs} (h : ReadsSource s encoding args config created s₁ source)
    (hc : buildConfig s args' = buildConfig s args) : ReadsSource s encoding args' config created s₁ source :=
  ⟨hc.trans h.configured, h.provided, h.announced, h.read⟩

/-! ## What is told -/

/-- The line that warns of a missing root. -/
def missingRootLine (position : Int) : Points :=
  "Warning: " ++ Markup.Cause.noRoot.message ++ " (at offset " ++ toString position ++ ")" ++ "\n"

/-- Nothing is told of a page but, once, that its source has no root. -/
theorem warningLine_of_bodyOf {body : Page.Body} (h : Page.bodyOf config source = .ok body) :
    warningLine body = [] ∨ ∃ position, warningLine body = missingRootLine position := by
  unfold Page.bodyOf at h
  split at h
  · cases h
    exact .inl rfl
  · rename_i fault hp
    dsimp only at h
    split at h
    · rename_i hc
      cases h
      refine .inr ⟨(fault.report source.toList).position, ?_⟩
      simp only [warningLine, missingRootLine, Markup.Fault.report, Markup.Report.text, hc.1,
        Text.points_append, List.append_assoc]
    · cases h

/-! ## What a check adds -/

/-- What a check adds to a build that went as in `plain`. -/
structure CheckAdds (s : Store) (args : BuildArgs) (plain checked : Except Stop Unit × Session) : Prop where
  ending : checked.1 = plain.1
  store : checked.2.store = plain.2.store
  stderr : checked.2.stderr = plain.2.stderr
  warnedOnce : plain.2.stderr = [] ∨ ∃ position, plain.2.stderr = missingRootLine position
  stopped : ∀ stop, plain.1 = .error stop → checked.2.stdout = plain.2.stdout
  completed : plain.1 = .ok () → ∃ config created bytes,
    buildConfig s args = .ok config ∧
    plain.2.stdout = createdLine created (.ofText config.input) ++
      successLine (.ofText config.output) bytes ∧
    checked.2.stdout = createdLine created (.ofText config.input) ++
      (checkLine true ++ successLine (.ofText config.output) bytes)

/-- How a check stops a build at a page without bytes: before the page is written, while the build that went as
in `plain` goes on to write it and fails there. -/
structure CheckStops (s₁ : Store) (output : Path) (page : Points) (fault : Text.EncodeFault)
    (plain checked : Except Stop Unit × Session) : Prop where
  ending : checked.1 = .error (.file (.unencodable fault))
  store : checked.2.store = s₁
  written : ∃ fault', s₁.writeText output page .utf8 = (.error fault', plain.2.store) ∧
    plain.1 = .error (failed "Build" fault')
  stdout : checked.2.stdout = plain.2.stdout
  stderr : checked.2.stderr = plain.2.stderr

/-- What a check adds to a build that went as in `plain` and could not say what it has built. -/
structure CheckTells (fault : Text.EncodeFault) (plain checked : Except Stop Unit × Session) : Prop where
  stopped : plain.1 = .error (.file (.unencodable fault))
  ending : checked.1 = plain.1
  store : checked.2.store = plain.2.store
  stderr : checked.2.stderr = plain.2.stderr
  stdout : checked.2.stdout = plain.2.stdout ++ checkLine true

/-- A build that stops before its page is written is the same with the check. -/
theorem CheckAdds.of_error {stop : Stop} {σ : Session}
    (hw : σ.stderr = [] ∨ ∃ position, σ.stderr = missingRootLine position) :
    CheckAdds s args (.error stop, σ) (.error stop, σ) where
  ending := rfl
  store := rfl
  stderr := rfl
  warnedOnce := hw
  stopped _ _ := rfl
  completed h := nomatch h

/-- The build with the check goes the way of the build without it, step by step, if its page has bytes and it can
say what it has built. -/
theorem Builds.checked {r : Except Stop Unit × Session} (h : Builds s encoding args.plain r)
    (hn : ∀ s₁ output page fault, ComesToPage s encoding args s₁ output page →
      Text.encode .utf8 page ≠ .error fault)
    (ht : ∀ output bytes, ComesToReport s encoding args output bytes →
      printFault? encoding (successLine output bytes) = none) :
    ∃ r', Builds s encoding args.checked r' ∧ CheckAdds s args r r' := by
  cases h with
  | unconfigured hc => exact ⟨_, .unconfigured hc, .of_error (.inl rfl)⟩
  | unprovided hc he => exact ⟨_, .unprovided hc he, .of_error (.inl rfl)⟩
  | unannounced hc he ha => exact ⟨_, .unannounced hc he ha, .of_error (.inl rfl)⟩
  | unread hc he ha hr => exact ⟨_, .unread hc he ha hr, .of_error (.inl rfl)⟩
  | unparsed hs hb =>
      have hs : ReadsSource s encoding args _ _ _ _ := hs.congr rfl
      exact ⟨_, .unparsed (hs.congr rfl) hb, .of_error (.inl rfl)⟩
  | unchecked hs hb hk => cases hk
  | @unwritten config _ _ _ body _ _ hs hb hk hw =>
      have hs : ReadsSource s encoding args _ _ _ _ := hs.congr rfl
      obtain ⟨bytes, hp⟩ : ∃ bytes, Text.encode .utf8 (pageOf config args body) = .ok bytes := by
        cases hp : Text.encode .utf8 (pageOf config args body) with
        | ok bytes => exact ⟨bytes, rfl⟩
        | error fault => exact absurd hp (hn _ _ _ _ (.page hs hb))
      exact ⟨_, .unwritten (hs.congr rfl) hb (fun _ => ⟨bytes, hp⟩) hw,
        .of_error (warningLine_of_bodyOf hb)⟩
  | unreported hs hb hp hw hf =>
      have hs : ReadsSource s encoding args _ _ _ _ := hs.congr rfl
      cases hf.symm.trans (ht _ _ (.report (.page hs hb) hp hw))
  | built hs hb hp hw hf =>
      have hs : ReadsSource s encoding args _ _ _ _ := hs.congr rfl
      refine ⟨_, .built (hs.congr rfl) hb hp hw hf, rfl, rfl, rfl, warningLine_of_bodyOf hb,
        fun _ => nofun, fun _ => ?_⟩
      exact ⟨_, _, _, hs.configured, rfl, rfl⟩

/-- Of a page without bytes the two builds go different ways. -/
theorem ComesToPage.exists_builds {fault : Text.EncodeFault} (h : ComesToPage s encoding args s₁ output page)
    (hp : Text.encode .utf8 page = .error fault) :
    ∃ r r', Builds s encoding args.plain r ∧ Builds s encoding args.checked r' ∧
      CheckStops s₁ output page fault r r' := by
  cases h with
  | @page config created _ source body hs hb =>
      rcases hw : s₁.writeText (.ofText config.output) (pageOf config args body) .utf8 with ⟨fault' | _, s₂⟩
      · exact ⟨_, _, .unwritten (hs.congr rfl) hb nofun hw,
          .unchecked (hs.congr rfl) hb rfl hp, rfl, rfl, ⟨fault', hw, rfl⟩, rfl, rfl⟩
      · obtain ⟨-, bytes, hp', -⟩ := File.Store.exists_written_of_writeText hw
        cases hp.symm.trans hp'

/-- Where the page has been written and this cannot be said, the line of the check has been printed. -/
theorem ComesToReport.exists_builds {bytes : Bytes} {fault : Text.EncodeFault}
    (h : ComesToReport s encoding args output bytes)
    (ht : printFault? encoding (successLine output bytes) = some fault) :
    ∃ r r', Builds s encoding args.plain r ∧ Builds s encoding args.checked r' ∧ CheckTells fault r r' := by
  cases h with
  | report h hp hw =>
      cases h with
      | @page config created _ source body hs hb =>
          refine ⟨_, _, .unreported (hs.congr rfl) hb hp hw ht,
            .unreported (hs.congr rfl) hb hp hw ht, rfl, rfl, rfl, rfl, ?_⟩
          exact congrArg (· ++ checkLine true) (List.append_nil _).symm

/-- A check is observation only unless the page has no bytes or the build cannot say what it has built: with it
and without it a build ends the same way, leaves the same files and tells the same, and what it prints differs by
the line of the check alone. At a page without bytes the check stops a build that would go on to write the page,
and a build that cannot say what it has built has printed the line of the check. -/
theorem build_check (s : Store) (encoding : Option Charset) (args : BuildArgs) :
    ((∀ s₁ output page fault, ComesToPage s encoding args s₁ output page →
        Text.encode .utf8 page ≠ .error fault) →
      (∀ output bytes, ComesToReport s encoding args output bytes →
        printFault? encoding (successLine output bytes) = none) →
      CheckAdds s args ((build args.plain).run.run { store := s, encoding := encoding })
        ((build args.checked).run.run { store := s, encoding := encoding })) ∧
    (∀ s₁ output page fault, ComesToPage s encoding args s₁ output page →
      Text.encode .utf8 page = .error fault →
      CheckStops s₁ output page fault ((build args.plain).run.run { store := s, encoding := encoding })
        ((build args.checked).run.run { store := s, encoding := encoding })) ∧
    ∀ output bytes fault, ComesToReport s encoding args output bytes →
      printFault? encoding (successLine output bytes) = some fault →
      CheckTells fault ((build args.plain).run.run { store := s, encoding := encoding })
        ((build args.checked).run.run { store := s, encoding := encoding }) := by
  refine ⟨fun hn ht => ?_, fun s₁ output page fault h hp => ?_, fun output bytes fault h ht => ?_⟩
  · obtain ⟨r, hr⟩ := exists_builds s encoding args.plain
    obtain ⟨r', hr', ha⟩ := hr.checked hn ht
    rw [hr.run_eq, hr'.run_eq]
    exact ha
  · obtain ⟨r, r', hr, hr', hs⟩ := h.exists_builds hp
    rw [hr.run_eq, hr'.run_eq]
    exact hs
  · obtain ⟨r, r', hr, hr', hs⟩ := h.exists_builds ht
    rw [hr.run_eq, hr'.run_eq]
    exact hs

/-- A source, and a page of an earlier build. -/
def builtStore : Store where
  entries := [([nameBytes "code.tal"], .file (utf8Bytes "^\x7bx\x7d".toList)),
    ([nameBytes "index.html"], .file (utf8Bytes "old".toList))]

theorem readsSource_builtStore (hc : buildConfig builtStore args = .ok {}) :
    ReadsSource builtStore none args {} false builtStore "^\x7bx\x7d" :=
  ⟨hc, by decide +kernel, rfl, by decide +kernel⟩

theorem bodyOf_builtStore : Page.bodyOf {} "^\x7bx\x7d" = .ok { html := "<main>x</main>" } := by
  decide +kernel

/-- A page under the default settings has bytes. -/
theorem exists_encode_default (body : Page.Body) : ∃ bytes, Text.encode .utf8 (pageOf {} {} body) = .ok bytes := by
  have hr : ∃ cs, Page.render {} body.html none = Text.pointsOf cs :=
    Page.exists_render_eq "en".toList "TAL Generated App".toList rfl rfl body.html.toList none
  obtain ⟨cs, hr⟩ := hr
  exact ⟨utf8Bytes cs, by rw [pageOf, hr, Text.encode_utf8]⟩

/-- A build under the default settings succeeds, and a check adds its line to it. -/
theorem build_check_builtStore :
    ((build (BuildArgs.plain {})).run.run { store := builtStore, encoding := none }).1 = .ok () ∧
      CheckAdds builtStore {} ((build (BuildArgs.plain {})).run.run { store := builtStore, encoding := none })
        ((build (BuildArgs.checked {})).run.run { store := builtStore, encoding := none }) := by
  constructor
  · obtain ⟨bytes, hp⟩ := exists_encode_default { html := "<main>x</main>" }
    have hw : builtStore.writeText (.ofText "index.html") (pageOf {} {} { html := "<main>x</main>" }) .utf8 =
        (.ok (), builtStore.put [nameBytes "index.html"] (.file bytes)) := by
      rw [File.Store.writeText, hp]
      rfl
    have hb : Builds builtStore none (BuildArgs.plain {}) _ :=
      .built (readsSource_builtStore rfl) bodyOf_builtStore hp hw rfl
    rw [hb.run_eq]
  · refine (build_check builtStore none {}).1 (fun s₁ output page fault h hp => ?_) fun _ _ _ => rfl
    cases h with
    | page hs hb =>
        cases hs.configured
        obtain ⟨bytes, he⟩ := exists_encode_default _
        cases he.symm.trans hp

/-- A build whose label is a word with a byte that is no text. -/
def labelledArgs : BuildArgs where
  label := some [.surrogate ⟨0x4ff, by decide⟩]

theorem comesToPage_labelledArgs : ∃ page fault,
    ComesToPage builtStore none labelledArgs builtStore (.ofText "index.html") page ∧
      Text.encode .utf8 page = .error fault := by
  have hpage : ComesToPage builtStore none labelledArgs builtStore _ (pageOf {} labelledArgs _) :=
    .page (readsSource_builtStore rfl) bodyOf_builtStore
  have hm : .surrogate ⟨0x4ff, by decide⟩ ∈ pageOf {} labelledArgs { html := "<main>x</main>" } := by
    simp [pageOf, Page.render, Page.labelComment, labelledArgs]
  cases hp : Text.encode .utf8 (pageOf {} labelledArgs { html := "<main>x</main>" }) with
  | error fault => exact ⟨_, fault, hpage, hp⟩
  | ok bytes =>
      obtain ⟨cs, hcs, -⟩ := Text.encode_eq_ok_iff.1 hp
      rw [hcs] at hm
      exact absurd hm (Text.surrogate_notMem_pointsOf cs)

/-- The page of an earlier build is kept by the check and emptied without it. -/
theorem build_check_labelledArgs :
    ((build labelledArgs.checked).run.run { store := builtStore, encoding := none }).2.store.get?
        [nameBytes "index.html"] = some (.file (utf8Bytes "old".toList)) ∧
      ((build labelledArgs.plain).run.run { store := builtStore, encoding := none }).2.store.get?
        [nameBytes "index.html"] = some (.file []) := by
  obtain ⟨page, fault, hpage, hp⟩ := comesToPage_labelledArgs
  obtain ⟨r, r', hr, hr', -, hs, ⟨fault', hw, -⟩, -⟩ := hpage.exists_builds hp
  have hw' : builtStore.writeText (.ofText "index.html") page .utf8 =
      (.error (.unencodable fault), builtStore.put [nameBytes "index.html"] (.file [])) := by
    rw [File.Store.writeText, hp]
    rfl
  have hstore : builtStore.put [nameBytes "index.html"] (.file []) = r.2.store :=
    congrArg Prod.snd (hw'.symm.trans hw)
  rw [hr.run_eq, hr'.run_eq, hs, ← hstore]
  exact ⟨by decide +kernel, File.Store.get?_put_self (List.cons_ne_nil _ _)⟩

end TalPage.Command
