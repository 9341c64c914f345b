import TalPage.Page.Body
import TalPage.Proofs.Command.Words
import TalPage.Proofs.Config.Overlay
import TalPage.Proofs.Config.WellFormed

/-!
# The settings of a build

Whatever settings have passed their check and whatever a command line overrides in them, a build runs under
settings that are within their bounds.
-/

namespace TalPage.Command

open Options
open Text (Points)

variable {words : List Points} {args : BuildArgs}

/-! ## What a command line gives -/

theorem bounds_of_readDepth {word : Points} {n : Nat} (h : readDepth word = .ok n) :
    1 ≤ n ∧ n ≤ depthLimit := by
  unfold readDepth at h
  split at h
  · cases h
  · split at h
    · cases h
      omega
    · cases h

theorem keeps_admissible : buildGrammar.Keeps fun a => a.overrides.Admissible where
  options := by
    simp only [buildGrammar, List.forall_mem_cons]
    refine ⟨trivial, keeps_textOption fun _ _ h => h, keeps_textOption fun _ _ h => h,
      keeps_textOption fun _ _ h => h, keeps_textOption fun _ _ h => h, fun _ h => h, ?_, ?_,
      keeps_textOption fun _ _ h => h, fun _ h => h, List.forall_mem_nil _⟩
    · intro word set hs a _ n hn
      dsimp only at hs
      cases hd : readDepth word <;> rw [hd] at hs <;> cases hs
      cases hn
      exact bounds_of_readDepth hd
    · intro word set hs a h
      dsimp only at hs
      cases hm : readMissingRoot word <;> rw [hm] at hs <;> cases hs
      exact h
  one := by rintro _ _ ⟨⟩
  rest := by rintro _ ⟨⟩

theorem exists_read_of_readLine (h : readLine words = .ok (.build args)) :
    ∃ rest extras, buildGrammar.read {} rest = .ok (args, extras) := by
  obtain ⟨name, rest, extras, more, -, hc⟩ := exists_command_of_readLine h
  exact ⟨rest, more, read_of_readCommand hc⟩

/-- A nesting limit that a command line gives is one that can be configured. -/
theorem admissible_of_readLine (h : readLine words = .ok (.build args)) : args.overrides.Admissible := by
  obtain ⟨rest, extras, hr⟩ := exists_read_of_readLine h
  have hs : ({} : BuildArgs).overrides.Admissible := by
    rintro _ ⟨⟩
  exact keeps_admissible.read hs hr

/-! ## Settings under overrides -/

/-- A build under checked settings keeps their bounds, whatever its command line overrides; and its settings
come to themselves again when they are written out, in any layout and under either name of each field. -/
theorem override_wellFormed {σ : Type} [Shaped σ] {v : σ} {c : BuildConfig}
    (hc : BuildConfig.check v = .valid c) (hr : readLine words = .ok (.build args)) :
    (c.override args.overrides).WellFormed ∧
      (c.override args.overrides).onMissingRoot.word ∈ ["diagnostic", "abort"] ∧
      (∀ s ms, Revised Relaid ((c.override args.overrides).members s) ms →
        BuildConfig.check (Json.object ms) = .valid (c.override args.overrides)) ∧
      1 ≤ (Page.rules (c.override args.overrides)).maxDepth ∧
      (Page.rules (c.override args.overrides)).maxDepth ≤ 256 := by
  have hw := (BuildConfig.wellFormed_of_check hc).override (admissible_of_readLine hr)
  generalize c.override args.overrides = c' at hw ⊢
  refine ⟨hw, ?_, fun s ms h => ?_, Int.ofNat_le.2 hw.depth.1, Int.ofNat_le.2 hw.depth.2⟩
  · cases c'.onMissingRoot <;> decide
  · rw [← h.check_eq (BuildConfig.spelledOnce_members s c')]
    exact BuildConfig.check_members hw s

/-- Settings that give a limit and a truth value as texts, and routes without sections. -/
def sparseSettings : Json :=
  .object [("maxDepth", .string "7"), ("strict", .string "yes"),
    ("page", .object [("routes", .object [("b", .string "x"), ("a", .string "y")])])]

theorem check_sparseSettings : BuildConfig.check sparseSettings = .valid
    { strict := true, maxDepth := some 7,
      page := { routes := [("b", "x"), ("a", "y")], sections := ["x", "y"] } } :=
  rfl

/-- A limit and a title from the command line stand beside the sections that follow from the routes, and all of
it is read again from an object with its members in another order. -/
theorem override_wellFormed_sparseSettings :
    ({ strict := true, maxDepth := some 9,
        page := { title := "T", routes := [("b", "x"), ("a", "y")], sections := ["x", "y"] } } :
      BuildConfig).WellFormed ∧
    BuildConfig.check (Json.object
      [("page", .object [("title", .string "T"), ("lang", .string "en"),
          ("routes", .object [("b", .string "x"), ("a", .string "y")]),
          ("sections", .array [.string "x", .string "y"]), ("home_section", .string "home"),
          ("section_display", .string "flex")]),
        ("on_missing_root", .string "diagnostic"), ("max_depth", .int 9), ("strict", .bool true),
        ("output", .string "index.html"), ("input", .string "code.tal")]) =
      .valid { strict := true, maxDepth := some 9,
               page := { title := "T", routes := [("b", "x"), ("a", "y")], sections := ["x", "y"] } } := by
  have hr : readLine ["build", "--max-depth", "9", "--title", "T"] =
      .ok (.build { overrides := { title := some "T", maxDepth := some 9 } }) := by
    decide +kernel
  obtain ⟨hw, -, hm, -⟩ := override_wellFormed check_sparseSettings hr
  exact ⟨hw, hm .names _ (.build (.perm (List.reverse_perm _).symm))⟩

/-- To override checked settings comes to the same as to check the settings with what the command line gives
put into them, under either name of each field; and whatever it does not give is as before. -/
theorem override_eq_check_overlay {σ : Type} [Shaped σ] {v : σ} {c : BuildConfig}
    (hc : BuildConfig.check v = .valid c) (hr : readLine words = .ok (.build args)) (s : Spelling) :
    BuildConfig.check (args.overrides.overlay s v) = .valid (c.override args.overrides) ∧
      args.overrides.Keeps c (c.override args.overrides) :=
  ⟨BuildConfig.check_overlay hc (admissible_of_readLine hr) s, BuildConfig.keeps_override c _⟩

/-- An empty text overrides nothing, a limit takes the place of one under the other name, and a title is put
beside the routes of the page; the object in which all this stands comes to the same. -/
theorem override_eq_check_overlay_sparseSettings :
    BuildConfig.check (({ input := some "", title := some "T", maxDepth := some 9 } : Overrides).overlay
        .names sparseSettings) =
      .valid { strict := true, maxDepth := some 9,
               page := { title := "T", routes := [("b", "x"), ("a", "y")], sections := ["x", "y"] } } ∧
    BuildConfig.check (Json.object
      [("strict", .string "yes"),
        ("page", .object [("routes", .object [("b", .string "x"), ("a", .string "y")]), ("title", .string "T")]),
        ("max_depth", .int 9)]) =
      .valid { strict := true, maxDepth := some 9,
               page := { title := "T", routes := [("b", "x"), ("a", "y")], sections := ["x", "y"] } } := by
  have hr : readLine ["build", "--max-depth", "9", "--title", "T", "--in", ""] =
      .ok (.build { overrides := { input := some "", title := some "T", maxDepth := some 9 } }) := by
    decide +kernel
  exact ⟨(override_eq_check_overlay check_sparseSettings hr .names).1, rfl⟩

end TalPage.Command
