import TalPage.Command.Line
import TalPage.Proofs.Options.Reading

/-!
# The words of a request

A command line is read twice: the grammar around the commands takes a command with all the words after it,
and then the command takes those. What the request is made with are words of the line or ends of words.
-/

namespace TalPage.Command

open Options
open Text (Points)

variable {words : List Points} {request : Request} {W : Points → Prop}

/-! ## Reading twice -/

theorem readAs_eq_ok_iff {σ : Type} {g : Grammar σ} {start : σ} {result : σ × List Points} :
    readAs g start words = .ok result ↔ g.read start words = .ok result := by
  unfold readAs
  constructor
  · intro h
    cases hr : g.read start words <;> rw [hr] at h <;> cases h
    rfl
  · intro h
    rw [h]
    rfl

theorem exists_command_of_readLine (h : readLine words = .ok request) :
    ∃ name rest extras more, topGrammar.read [] words = .ok (name :: rest, extras) ∧
      readCommand name rest = .ok (request, more) := by
  obtain ⟨⟨command, extras⟩, ht, h⟩ := bind_eq_ok_iff.1 h
  cases command with
  | nil =>
      dsimp only at h
      split at h <;> cases h
  | cons name rest =>
      obtain ⟨⟨request', more⟩, hc, h⟩ := bind_eq_ok_iff.1 h
      dsimp only at h
      split at h <;> cases h
      exact ⟨name, rest, extras, more, readAs_eq_ok_iff.1 ht, hc⟩

theorem read_of_readCommand {name : Points} {more : List Points}
    (h : readCommand name words = .ok (request, more)) :
    match request with
    | .build args => buildGrammar.read {} words = .ok (args, more)
    | .parse args => parseGrammar.read {} words = .ok (args, more)
    | .tokens => tokensGrammar.read () words = .ok ((), more) := by
  unfold readCommand at h
  split at h
  · obtain ⟨⟨_, _⟩, hr, h⟩ := bind_eq_ok_iff.1 h
    cases h
    exact readAs_eq_ok_iff.1 hr
  · obtain ⟨⟨_, _⟩, hr, h⟩ := bind_eq_ok_iff.1 h
    cases h
    exact readAs_eq_ok_iff.1 hr
  · obtain ⟨⟨_, _⟩, hr, h⟩ := bind_eq_ok_iff.1 h
    cases h
    exact readAs_eq_ok_iff.1 hr
  · cases h

/-! ## What a request is made with -/

theorem keeps_textOption {σ : Type} {P : σ → Prop} {name : String} {set : Points → σ → σ}
    (h : ∀ word a, P a → P (set word a)) : (textOption name set).Keeps P := by
  rintro word _ ⟨⟩ a ha
  exact h word a ha

theorem keepsOf_textOption {σ : Type} {P : σ → Prop} {name : String} {set : Points → σ → σ}
    (h : ∀ word a, W word → P a → P (set word a)) : (textOption name set).KeepsOf W P := by
  rintro word _ hw ⟨⟩ a ha
  exact h word a hw ha

/-- For the texts that a build is asked for `W` holds. -/
structure BuildArgs.Of (W : Points → Prop) (args : BuildArgs) : Prop where
  config : ∀ text, args.config = some text → W text
  input : ∀ text, args.overrides.input = some text → W text
  output : ∀ text, args.overrides.output = some text → W text
  title : ∀ text, args.overrides.title = some text → W text
  label : ∀ text, args.label = some text → W text

theorem BuildArgs.of_empty (W : Points → Prop) : ({} : BuildArgs).Of W where
  config := by rintro _ ⟨⟩
  input := by rintro _ ⟨⟩
  output := by rintro _ ⟨⟩
  title := by rintro _ ⟨⟩
  label := by rintro _ ⟨⟩

/-- For the texts that a request is made with `W` holds. -/
def Request.Of (W : Points → Prop) : Request → Prop
  | .build args => args.Of W
  | .parse args => W args.source
  | .tokens => True

theorem keepsOf_topGrammar (hW : HoldsOfEnds W) : topGrammar.KeepsOf W fun ws => ∀ w ∈ ws, W w where
  ends := hW
  options := by
    simp only [topGrammar, List.forall_mem_cons]
    exact ⟨trivial, trivial, List.forall_mem_nil _⟩
  one := by rintro _ _ ⟨⟩
  rest := by
    rintro _ ⟨⟩ ws _ hw -
    exact hw

theorem keepsOf_buildGrammar (hW : HoldsOfEnds W) : buildGrammar.KeepsOf W fun a => a.Of W where
  ends := hW
  options := by
    have given {word : Points} (hw : W word) : ∀ text, some word = some text → W text := by
      rintro _ ⟨⟩
      exact hw
    simp only [buildGrammar, List.forall_mem_cons]
    refine ⟨trivial, keepsOf_textOption fun _ _ hw h => { h with config := given hw },
      keepsOf_textOption fun _ _ hw h => { h with input := given hw },
      keepsOf_textOption fun _ _ hw h => { h with output := given hw },
      keepsOf_textOption fun _ _ hw h => { h with title := given hw }, fun _ h => { h with }, ?_, ?_,
      keepsOf_textOption fun _ _ hw h => { h with label := given hw }, fun _ h => { h with },
      List.forall_mem_nil _⟩
    · intro word set _ hs a h
      dsimp only at hs
      cases hd : readDepth word <;> rw [hd] at hs <;> cases hs
      exact { h with }
    · intro word set _ hs a h
      dsimp only at hs
      cases hm : readMissingRoot word <;> rw [hm] at hs <;> cases hs
      exact { h with }
  one := by rintro _ _ ⟨⟩
  rest := by rintro _ ⟨⟩

theorem keepsOf_parseGrammar (hW : HoldsOfEnds W) : parseGrammar.KeepsOf W fun a => W a.source where
  ends := hW
  options := by
    simp only [parseGrammar, List.forall_mem_cons]
    refine ⟨trivial, fun _ h => h, ?_, List.forall_mem_nil _⟩
    intro word set _ hs a h
    dsimp only at hs
    cases hd : readDepth word <;> rw [hd] at hs <;> cases hs
    exact h
  one := by
    rintro _ _ ⟨⟩ word _ hw -
    exact hw
  rest := by rintro _ ⟨⟩

/-- What holds of all words of a line, and of all their ends, holds of all texts of the request. -/
theorem of_readLine (hW : HoldsOfEnds W) (he : W []) (hw : ∀ w ∈ words, W w)
    (h : readLine words = .ok request) : request.Of W := by
  obtain ⟨name, rest, extras, more, ht, hc⟩ := exists_command_of_readLine h
  have hr := (keepsOf_topGrammar hW).read hw (List.forall_mem_nil W) ht
  have hr : ∀ w ∈ rest, W w := (List.forall_mem_cons.1 hr).2
  have hc := read_of_readCommand hc
  cases request with
  | build args => exact (keepsOf_buildGrammar hW).read hr (BuildArgs.of_empty W) hc
  | parse args => exact (keepsOf_parseGrammar hW).read hr he hc
  | tokens => trivial

/-! ## A build of a source -/

/-- A word without a dash in front is no option. -/
theorem role_of_plain {σ : Type} (options : List (Opt σ)) {word : Points}
    (h : word.head? ≠ some (.char '-')) : role options word = .ok .operand := by
  have hs : startsWith word "-" = false := by
    rw [startsWith, show Text.points "-" = [.char '-'] from rfl]
    cases word with
    | nil => rfl
    | cons p word =>
        have hp : (Text.CodePoint.char '-' == p) = false := beq_eq_false_iff_ne.2 fun he => h (he ▸ rfl)
        rw [List.isPrefixOf_cons_cons, hp, Bool.false_and]
  rw [role, hs]
  rfl

/-- The option that names the source of a build. -/
def inputOption : Opt BuildArgs :=
  textOption "--in" fun word => overriding fun o => { o with input := some word }

theorem readLine_input {input : Points} (h : input.head? ≠ some (.char '-')) :
    readLine ["build", "--in", input] = .ok (.build { overrides := { input := some input } }) := by
  have ht : topGrammar.read [] ["build", "--in", input] = .ok (["build", "--in", input], []) := by
    have hb : role topGrammar.options "build" = .ok .operand := by rfl
    have hi : role topGrammar.options "--in" = .ok (.option none) := by rfl
    have hc : classify topGrammar.options ["build", "--in", input] =
        .ok [("build", .operand), ("--in", .option none), (input, .operand)] := by
      simp only [classify, hb, hi, role_of_plain topGrammar.options h, bind, Except.bind, pure, Except.pure]
    rw [Grammar.read, hc]
    change (take topGrammar _ _ >>= _) = _
    rw [take]
    rfl
  have hr : buildGrammar.read {} ["--in", input] =
      .ok ({ overrides := { input := some input } }, []) := by
    have hi : role buildGrammar.options "--in" = .ok (.option (some ⟨inputOption, "--in", none⟩)) := by rfl
    have hc : classify buildGrammar.options ["--in", input] =
        .ok [("--in", .option (some ⟨inputOption, "--in", none⟩)), (input, .operand)] := by
      simp only [classify, hi, role_of_plain buildGrammar.options h, bind, Except.bind, pure, Except.pure]
    rw [Grammar.read, hc]
    change (take buildGrammar _ _ >>= _) = _
    rw [take]
    change ((take buildGrammar _ []) >>= _) = _
    rw [take]
    rfl
  have hb : readCommand "build" ["--in", input] =
      .ok (.build { overrides := { input := some input } }, []) := by
    rw [readCommand, readAs_eq_ok_iff.2 hr]
    rfl
  rw [readLine, readAs_eq_ok_iff.2 ht]
  change (readCommand "build" ["--in", input] >>= _) = _
  rw [hb]
  rfl

end TalPage.Command
