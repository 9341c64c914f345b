import TalPage.Config.Basic

/-!
# Overrides

Settings given for one build, in place of those configured. An empty text overrides nothing.
-/

namespace TalPage

open Text (Points)

structure Overrides where
  input : Option Points := none
  output : Option Points := none
  title : Option Points := none
  strict : Bool := false
  maxDepth : Option Nat := none
  onMissingRoot : Option MissingRoot := none
deriving DecidableEq, Repr

/-- The text that overrides `old`. -/
def overridden (new : Option Points) (old : Points) : Points :=
  match new with
  | some s => if s = [] then old else s
  | none => old

def BuildConfig.override (c : BuildConfig) (o : Overrides) : BuildConfig where
  input := overridden o.input c.input
  output := overridden o.output c.output
  strict := o.strict || c.strict
  maxDepth := o.maxDepth.or c.maxDepth
  onMissingRoot := o.onMissingRoot.getD c.onMissingRoot
  page := { c.page with title := overridden o.title c.page.title }

end TalPage
