import TalPage.Proofs.Setting.Field

/-!
# Settings of the same shape

A check sees of a setting only its shape. Settings that are carried over to another type with their shapes
come to the same, and the issues with them are the same, about the settings that were carried over.
-/

namespace TalPage

variable {σ τ α β : Type}

/-- The parts of a shape, carried over. -/
def Shape.carry (f : σ → τ) : Shape σ → Shape τ
  | .scalar s => .scalar s
  | .list items => .list (items.map f)
  | .map entries => .map (entries.map (Prod.map f f))
  | .set items => .set (items.map f)
  | .tuple items => .tuple (items.map f)

/-- An issue with the setting that another one is carried over to. -/
def Issue.carry (f : σ → τ) (i : Issue σ) : Issue τ :=
  { location := i.location, complaint := i.complaint, input := f i.input }

/-- An outcome with its issues carried over. -/
def Checked.carry (f : σ → τ) : Checked σ α → Checked τ α
  | .valid a => .valid a
  | .invalid issues => .invalid (issues.map (Issue.carry f))

/-- Settings keep their shapes when they are carried over. -/
def KeepsShape [Shaped σ] [Shaped τ] (f : σ → τ) : Prop :=
  ∀ v, shape (f v) = (shape v).carry f

/-- Settings come to the same when they are carried over. -/
def Check.Carries (f : σ → τ) (c : Check σ α) (c' : Check τ α) : Prop :=
  ∀ v, c' (f v) = (c v).carry f

variable {f : σ → τ}

namespace Checked

theorem carry_map (f : σ → τ) (g : α → β) (c : Checked σ α) : (c.map g).carry f = (c.carry f).map g := by
  cases c <;> rfl

theorem carry_and (f : σ → τ) (c : Checked σ α) (d : Checked σ β) :
    (c.and d).carry f = (c.carry f).and (d.carry f) := by
  cases c <;> cases d <;> simp [Checked.and, carry]

theorem carry_inside (f : σ → τ) (step : Step) (c : Checked σ α) :
    (c.inside step).carry f = (c.carry f).inside step := by
  cases c with
  | valid a => rfl
  | invalid issues => simp [inside, carry, Issue.carry]

theorem carry_all (f : σ → τ) (cs : List (Checked σ α)) : (all cs).carry f = all (cs.map (carry f)) := by
  induction cs with
  | nil => rfl
  | cons c cs ih => rw [all, carry_map, carry_and, ih, List.map_cons, all]

end Checked

namespace Check

/-! ## Scalars -/

theorem parsed_carry (complaint : Complaint) (v : σ) (a : Option α) :
    parsed complaint (f v) a = (parsed complaint v a).carry f := by
  cases a <;> rfl

theorem withString_carry (v : σ) (s : Text.Points) {c : String → Checked σ α} {c' : String → Checked τ α}
    (h : ∀ s, c' s = (c s).carry f) : withString (f v) s c' = (withString v s c).carry f := by
  unfold withString
  cases Text.string? s with
  | some s => exact h s
  | none => rfl

theorem ofResult_carry (v : σ) (a : Except Complaint α) :
    ofResult (f v) a = (ofResult v a).carry f := by
  cases a <;> rfl

variable [Shaped σ] [Shaped τ]

theorem carries_text (h : KeepsShape f) : Carries f text text := by
  intro v
  simp only [text, h v]
  cases shape v with
  | scalar s =>
      cases s with
      | bytes bs => dsimp only [Shape.carry]; split <;> rfl
      | _ => rfl
  | _ => rfl

theorem carries_bool (h : KeepsShape f) : Carries f bool bool := by
  intro v
  simp only [bool, h v]
  cases shape v with
  | scalar s =>
      cases s with
      | text s => exact withString_carry v s fun _ => parsed_carry _ v _
      | bytes bs => exact parsed_carry _ v _
      | int n =>
          dsimp only [Shape.carry]
          split
          · exact parsed_carry _ v _
          · rfl
      | float x =>
          dsimp only [Shape.carry]
          split
          · split
            · exact parsed_carry _ v _
            · rfl
          · rfl
      | _ => rfl
  | _ => rfl

theorem carries_int (h : KeepsShape f) : Carries f int int := by
  intro v
  simp only [int, h v]
  cases shape v with
  | scalar s =>
      cases s with
      | text s => exact withString_carry v s fun _ => ofResult_carry v _
      | bytes bs =>
          dsimp only [Shape.carry]
          split
          · exact ofResult_carry v _
          · rfl
      | float x =>
          dsimp only [Shape.carry]
          split
          · rfl
          · split
            · rfl
            · split <;> rfl
      | _ => rfl
  | _ => rfl

theorem carries_bounded (h : KeepsShape f) (least greatest : Nat) :
    Carries f (bounded least greatest) (bounded least greatest) := by
  intro v
  simp only [bounded, carries_int h v]
  cases int v with
  | invalid issues => rfl
  | valid n =>
      dsimp only [Checked.carry]
      split
      · rfl
      · split <;> rfl

theorem carries_choice (h : KeepsShape f) (options : List (String × α)) :
    Carries f (choice options) (choice options) := by
  intro v
  simp only [choice, h v]
  cases shape v with
  | scalar s =>
      cases s with
      | text s => exact withString_carry v s fun _ => parsed_carry _ v _
      | _ => rfl
  | _ => rfl

/-! ## Collections -/

variable {c : Check σ α} {c' : Check τ α}

theorem carries_optional (h : KeepsShape f) (hc : Carries f c c') :
    Carries f (optional c) (optional c') := by
  intro v
  have hm : (c' (f v)).map some = ((c v).map some).carry f := by
    rw [hc v, Checked.carry_map]
  simp only [optional, h v]
  cases shape v with
  | scalar s =>
      cases s with
      | null => rfl
      | _ => exact hm
  | _ => exact hm

theorem carries_list (h : KeepsShape f) (hc : Carries f c c') : Carries f (list c) (list c') := by
  have ha : ∀ items : List σ,
      Checked.all ((items.map f).zipIdx.map fun p => (c' p.1).inside (.index p.2)) =
        (Checked.all (items.zipIdx.map fun p => (c p.1).inside (.index p.2))).carry f := by
    intro items
    rw [Checked.carry_all, List.zipIdx_map, List.map_map, List.map_map]
    refine congrArg Checked.all (List.map_congr_left fun p _ => ?_)
    exact (congrArg _ (hc p.1)).trans (Checked.carry_inside f _ _).symm
  intro v
  simp only [list, h v]
  cases shape v with
  | list items => exact ha items
  | set items => exact ha items
  | tuple items => exact ha items
  | _ => rfl

theorem stepOfKey_carry (h : KeepsShape f) (key : σ) : Step.ofKey (f key) = Step.ofKey key := by
  simp only [Step.ofKey, h key]
  cases shape key <;> rfl

theorem textEntry_carry (h : KeepsShape f) (key value : σ) :
    textEntry (f key) (f value) = (textEntry key value).carry f := by
  simp only [textEntry, stepOfKey_carry h, carries_text h key, carries_text h value, Checked.carry_and,
    Checked.carry_inside]

theorem carries_textMap (h : KeepsShape f) : Carries f textMap textMap := by
  intro v
  simp only [textMap, h v]
  cases shape v with
  | map entries =>
      dsimp only [Shape.carry]
      rw [Checked.carry_map, Checked.carry_all, List.map_map, List.map_map]
      exact congrArg _ (congrArg _ (List.map_congr_left fun e _ => textEntry_carry h e.1 e.2))
  | _ => rfl

/-! ## Records -/

theorem isText_carry (h : KeepsShape f) (key : Text.Points) (v : σ) :
    (shape (f v)).isText key = (shape v).isText key := by
  rw [h v]
  cases shape v with
  | scalar s => cases s <;> rfl
  | _ => rfl

theorem valueUnder?_carry (h : KeepsShape f) (key : Text.Points) (entries : List (σ × σ)) :
    valueUnder? key (entries.map (Prod.map f f)) = (valueUnder? key entries).map f := by
  have hk : (fun entry : τ × τ => (shape entry.1).isText key) ∘ Prod.map f f =
      fun entry : σ × σ => (shape entry.1).isText key := by
    funext entry
    exact isText_carry h key entry.1
  rw [valueUnder?, List.find?_map, hk, Option.map_map, valueUnder?, Option.map_map]
  rfl

end Check

/-- A field comes to the same when the entries of its record are carried over. -/
theorem Field.check_carry [Shaped σ] [Shaped τ] (h : KeepsShape f) {c : Check σ α} {c' : Check τ α}
    (hc : Check.Carries f c c') (g : Field) (entries : List (σ × σ)) (d : α) :
    g.check (entries.map (Prod.map f f)) c' d = (g.check entries c d).carry f := by
  unfold Field.check Check.field
  rw [Check.valueUnder?_carry h, Check.valueUnder?_carry h]
  cases valueUnder? g.otherName entries with
  | some v => exact (congrArg _ (hc v)).trans (Checked.carry_inside f _ _).symm
  | none =>
      cases valueUnder? g.name entries with
      | some v => exact (congrArg _ (hc v)).trans (Checked.carry_inside f _ _).symm
      | none => rfl

end TalPage
