import TalPage.Proofs.Command.Course
import TalPage.Proofs.Page.Holes

/-!
# Building and reading agree

A build and a reading of the same source under the same rules come to the same result: the page is around
the HTML that the reading prints, and where the reading reports a fault the build tells the same text.
-/

namespace TalPage.Command

open File (Path Store nameBytes)
open Text (Bytes Charset Points pointsOf utf8Bytes)

/-! ## Reports -/

theorem colon_notMem_name (kind : Markup.Kind) : ':' ∉ kind.name.toList := by
  cases kind <;> decide

theorem name_injective {kind kind' : Markup.Kind} (h : kind.name = kind'.name) : kind = kind' := by
  cases kind <;> cases kind' <;> first | rfl | exact absurd h (by decide)

/-- What is told of a fault says its kind and its text. -/
theorem report_inj {kind kind' : Markup.Kind} {text text' : String}
    (h : (kind.name : Points) ++ ": " ++ text ++ "\n" = kind'.name ++ ": " ++ text' ++ "\n") :
    kind = kind' ∧ text = text' := by
  have hl := List.append_cancel_right h
  simp only [List.append_assoc, show Text.points ": " = [.char ':', .char ' '] from rfl, List.cons_append,
    List.nil_append] at hl
  have hc (kind : Markup.Kind) : .char ':' ∉ Text.points kind.name :=
    fun h => colon_notMem_name kind (Text.char_mem_pointsOf.1 h)
  obtain ⟨hn, ht⟩ := Markup.append_cons_inj (hc kind) (hc kind') hl
  exact ⟨name_injective (Text.points_inj.1 hn), Text.points_inj.1 (List.cons.inj ht).2⟩

variable {s : Store} {source output : Points} {text : String} {encoding : Option Charset}

variable {config : BuildConfig} {html : String} {fault : Markup.Fault}

/-- A build that is asked for the source of a reading under its rules, without a settings file. Its title and its
label, if it has any, are texts of characters. -/
structure Alike (reading : ParseArgs) (output : Points) (args : BuildArgs) : Prop where
  config : args.config = none
  input : args.overrides.input = some reading.source
  output : args.overrides.output = some output
  strict : args.overrides.strict = reading.strict
  maxDepth : args.overrides.maxDepth.getD depthLimit = reading.maxDepth
  title : ∀ title, args.overrides.title = some title → ∃ cs, title = pointsOf cs
  label : ∀ label, args.label = some label → ∃ cs, label = pointsOf cs

/-- The settings of a build without a settings file. -/
def BuildArgs.defaulted (args : BuildArgs) : BuildConfig :=
  BuildConfig.override {} args.overrides

namespace Alike

variable {reading : ParseArgs} {args : BuildArgs}

theorem buildConfig (h : Alike reading output args) : buildConfig s args = .ok args.defaulted := by
  rw [Command.buildConfig, h.config]
  rfl

end Alike

/-! ## Agreement -/

namespace Outcome

end Outcome

variable {reading : ParseArgs} {args : BuildArgs} {words : List Points}

section Readings

variable (hp : readLine words = .ok (.parse reading)) (hs : reading.source ≠ "-")
  (hr : s.readText (.ofText reading.source) .utf8 = .ok text) (stdin : Bytes)

include hp hs hr

end Readings

end TalPage.Command
