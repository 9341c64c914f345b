import TalPage.Proofs.Config.Fields
import TalPage.Proofs.Setting.Members

/-!
# The layout of settings

An object is checked field by field: it fails exactly if one of its fields does alone, and the issues stand
in the order of the fields. As long as no field is spelled twice, neither the order of the keys nor keys
that name no field change what an object comes to, and the choice between the two names of a field changes
no settings.
-/

namespace TalPage

open Text (Points)

/-- An object fails exactly if one of its fields does alone, and has the issues that its fields have alone,
in their order. -/
structure FieldByField {α : Type} (check : Check Json α) (table : List Field)
    (ms : List (Points × Json)) : Prop where
  not_accepted_iff : ¬ (check (.object ms)).Accepted ↔
    ∃ f ∈ table, ¬ (check (.object (f.among ms))).Accepted
  issues_eq : (check (.object ms)).issues = table.flatMap fun f => (check (.object (f.among ms))).issues

/-- At most one value stands under the names of each field. -/
def SpelledOnce (table : List Field) (ms : List (Points × Json)) : Prop :=
  ∀ f ∈ table, (f.values ms).length ≤ 1

/-- Neither the settings of a build nor those of the page in them spell a field twice. -/
structure SettingsSpelledOnce (ms : List (Points × Json)) : Prop where
  build : SpelledOnce BuildConfig.fields ms
  page : ∀ ps, .object ps ∈ BuildConfig.pageField.values ms → SpelledOnce PageConfig.fields ps

/-! ## Changes of the layout -/

/-- Another order of the members, or one more member that names no field. -/
inductive Relaid (table : List Field) : List (Points × Json) → List (Points × Json) → Prop
  | perm {ms ms'} (h : ms.Perm ms') : Relaid table ms ms'
  | extra {key value ms} (h : ∀ f ∈ table, f.spells key = false) : Relaid table ms ((key, value) :: ms)

/-- One member under another name of its field. -/
inductive Respelled (table : List Field) : List (Points × Json) → List (Points × Json) → Prop
  | name {f key key' value} (before after) (hf : f ∈ table) (h : f.spells key = true)
      (h' : f.spells key' = true) :
      Respelled table (before ++ (key, value) :: after) (before ++ (key', value) :: after)

/-- Changes of one kind, each made to the settings of a build or to those of the page in them, or taken
back. -/
inductive Revised (R : List Field → List (Points × Json) → List (Points × Json) → Prop) :
    List (Points × Json) → List (Points × Json) → Prop
  | build {ms ms'} (h : R BuildConfig.fields ms ms') : Revised R ms ms'
  | page {ps ps'} (before after) (h : R PageConfig.fields ps ps') :
      Revised R (before ++ (Text.points "page", .object ps) :: after) (before ++ (Text.points "page", .object ps') :: after)
  | symm {ms ms'} (h : Revised R ms ms') : Revised R ms' ms
  | trans {ms ms' ms''} (h : Revised R ms ms') (h' : Revised R ms' ms'') : Revised R ms ms''

/-- The change leaves the values of every field as they are, up to their order. -/
def KeepsValues (R : List Field → List (Points × Json) → List (Points × Json) → Prop) : Prop :=
  ∀ table, (∀ f ∈ table, ∀ g ∈ table, f ≠ g → f.Apart g) → ∀ ms ms', R table ms ms' →
    ∀ f ∈ table, (f.values ms).Perm (f.values ms')

/-! ## Fields that are checked by themselves -/

section Entries

variable {σ : Type} [Shaped σ]

theorem PageConfig.accepted_ofEntries (entries : List (σ × σ)) :
    (ofEntries entries).Accepted ↔ ∀ f ∈ fields, (ofEntries (f.select entries)).Accepted := by
  simp (disch := decide) only [fields, List.forall_mem_cons, List.not_mem_nil, ofEntries_eq,
    Checked.accepted_map, Checked.accepted_and, Field.check_select, Field.check_select_of_apart,
    Checked.accepted_valid, true_and, and_true, false_implies, implies_true]

theorem PageConfig.issues_ofEntries (entries : List (σ × σ)) :
    (ofEntries entries).issues = fields.flatMap fun f => (ofEntries (f.select entries)).issues := by
  simp (disch := decide) only [fields, List.flatMap_cons, List.flatMap_nil, ofEntries_eq,
    Checked.issues_map, Checked.issues_and, Field.check_select, Field.check_select_of_apart,
    Checked.issues_valid, List.append_nil, List.nil_append]

theorem BuildConfig.accepted_ofEntries (entries : List (σ × σ)) :
    (ofEntries entries).Accepted ↔ ∀ f ∈ fields, (ofEntries (f.select entries)).Accepted := by
  simp (disch := decide) only [fields, List.forall_mem_cons, List.not_mem_nil, ofEntries_eq,
    Checked.accepted_map, Checked.accepted_and, Field.check_select, Field.check_select_of_apart,
    Checked.accepted_valid, true_and, and_true, false_implies, implies_true]

theorem BuildConfig.issues_ofEntries (entries : List (σ × σ)) :
    (ofEntries entries).issues = fields.flatMap fun f => (ofEntries (f.select entries)).issues := by
  simp (disch := decide) only [fields, List.flatMap_cons, List.flatMap_nil, ofEntries_eq,
    Checked.issues_map, Checked.issues_and, Field.check_select, Field.check_select_of_apart,
    Checked.issues_valid, List.append_nil, List.nil_append]

end Entries

variable {table : List Field} {f g : Field} {ms ms' ps ps' before after : List (Points × Json)}
  {key : Points} {v v' : Json}

theorem PageConfig.check_object (ms : List (Points × Json)) :
    PageConfig.check (Json.object ms) = ofEntries (Json.entries ms) :=
  rfl

theorem BuildConfig.check_object (ms : List (Points × Json)) :
    BuildConfig.check (Json.object ms) = ofEntries (Json.entries ms) :=
  rfl

/-- What is checked field by field as a record is so as an object. -/
theorem FieldByField.of_entries {α : Type} {check : Check Json α}
    {ofEntries : List (Json × Json) → Checked Json α}
    (hc : ∀ ms, check (.object ms) = ofEntries (Json.entries ms))
    (ha : ∀ entries, (ofEntries entries).Accepted ↔ ∀ f ∈ table, (ofEntries (f.select entries)).Accepted)
    (hi : ∀ entries, (ofEntries entries).issues = table.flatMap fun f => (ofEntries (f.select entries)).issues)
    (ms : List (Points × Json)) : FieldByField check table ms where
  not_accepted_iff := by
    simp only [hc, ← Field.select_entries]
    rw [ha]
    simp only [Classical.not_forall, exists_prop]
  issues_eq := by
    simp only [hc, ← Field.select_entries]
    exact hi _

theorem PageConfig.fieldByField (ms : List (Points × Json)) : FieldByField PageConfig.check fields ms :=
  .of_entries check_object accepted_ofEntries issues_ofEntries ms

theorem BuildConfig.fieldByField (ms : List (Points × Json)) :
    FieldByField BuildConfig.check fields ms :=
  .of_entries check_object accepted_ofEntries issues_ofEntries ms

/-! ## Changes that keep the values of all fields -/

theorem Relaid.among_perm (h : Relaid table ms ms') (hf : f ∈ table) : (f.among ms).Perm (f.among ms') := by
  cases h with
  | perm h => exact h.filter _
  | extra h => rw [Field.among_cons_of_not (h f hf)]

theorem keepsValues_relaid : KeepsValues Relaid :=
  fun _ _ _ _ h _ hf => (h.among_perm hf).map _

theorem keepsValues_respelled : KeepsValues Respelled := by
  rintro table ht _ _ (@⟨g, key, key', v, before, after, hg, hk, hk'⟩) f hf
  have he : f.spells key = f.spells key' := by
    by_cases h : f = g
    · rw [h, hk, hk']
    · rw [(ht f hf g hg h).spells_eq_false hk, (ht f hf g hg h).spells_eq_false hk']
  rw [Field.values_append_cons, Field.values_append_cons, he]

theorem SpelledOnce.of_perm (h : ∀ f ∈ table, (f.values ms).Perm (f.values ms'))
    (ho : SpelledOnce table ms) : SpelledOnce table ms' :=
  fun f hf => (h f hf).length_eq ▸ ho f hf

theorem SettingsSpelledOnce.of_perm (h : ∀ f ∈ BuildConfig.fields, (f.values ms).Perm (f.values ms'))
    (ho : SettingsSpelledOnce ms) : SettingsSpelledOnce ms' where
  build := ho.build.of_perm h
  page ps hm := ho.page ps ((h _ (by decide)).mem_iff.2 hm)

theorem SettingsSpelledOnce.of_page (h : ∀ f ∈ PageConfig.fields, (f.values ps).Perm (f.values ps'))
    (ho : SettingsSpelledOnce (before ++ (Text.points "page", .object ps) :: after)) :
    SettingsSpelledOnce (before ++ (Text.points "page", .object ps') :: after) where
  build f hf := by
    have hl := ho.build f hf
    rw [Field.values_append_cons] at hl ⊢
    cases hk : f.spells (Text.points "page") <;> simpa [hk] using hl
  page qs hm := by
    have hp := ho.page
    simp only [Field.values_append_cons, show BuildConfig.pageField.spells (Text.points "page") = true from rfl, if_true,
      List.mem_append, List.mem_singleton] at hm hp
    rcases hm with hm | hm | hm
    · exact hp qs (.inl hm)
    · cases hm
      exact (hp ps (.inr (.inl rfl))).of_perm h
    · exact hp qs (.inr (.inr hm))

/-- Changes that keep the values of all fields lead from settings that spell no field twice to such. -/
theorem Revised.spelledOnce_iff {R} (hR : KeepsValues R) (h : Revised R ms ms') :
    SettingsSpelledOnce ms ↔ SettingsSpelledOnce ms' := by
  induction h with
  | build h =>
      have hv := hR _ BuildConfig.fields_apart _ _ h
      exact ⟨.of_perm hv, .of_perm fun f hf => (hv f hf).symm⟩
  | page before after h =>
      have hv := hR _ PageConfig.fields_apart _ _ h
      exact ⟨.of_page hv, .of_page fun f hf => (hv f hf).symm⟩
  | symm _ ih => exact ih.symm
  | trans _ _ ih ih' => exact ih.trans ih'

/-! ## Outcomes -/

theorem eq_of_perm_of_length_le_one {α : Type} {l l' : List α} (h : l.Perm l') (hl : l.length ≤ 1) :
    l = l' := by
  match l, hl with
  | [], _ => exact (List.nil_perm.1 h).symm
  | [a], _ => exact (List.singleton_perm.1 h)

theorem Relaid.select_eq (h : Relaid table ms ms') (ho : SpelledOnce table ms) (hf : f ∈ table) :
    f.select (Json.entries ms) = f.select (Json.entries ms') := by
  have hl := ho f hf
  rw [Field.values, List.length_map] at hl
  rw [Field.select_entries, Field.select_entries, eq_of_perm_of_length_le_one (h.among_perm hf) hl]

theorem Field.select_page (hf : f ∈ BuildConfig.fields) (hn : f ≠ BuildConfig.pageField) :
    f.select (Json.entries (before ++ (Text.points "page", v) :: after)) =
      f.select (Json.entries (before ++ (Text.points "page", v') :: after)) := by
  have hk : f.spells (Text.points "page") = false :=
    (BuildConfig.fields_apart f hf _ (by decide) hn).spells_eq_false rfl
  rw [select_entries, select_entries, among_append, among_append, among_cons_of_not hk,
    among_cons_of_not hk]

/-- The page of settings that spell it once is checked as it stands. -/
theorem Field.check_page {α : Type} {c : Check Json α} {d : α}
    (hl : (BuildConfig.pageField.values (before ++ (Text.points "page", v) :: after)).length ≤ 1) :
    BuildConfig.pageField.check (Json.entries (before ++ (Text.points "page", v) :: after)) c d =
      (c v).inside (.key "page") := by
  have ha : BuildConfig.pageField.among (before ++ (Text.points "page", v) :: after) =
      BuildConfig.pageField.among before ++ (Text.points "page", v) :: BuildConfig.pageField.among after := by
    rw [among_append, among_cons_of_spells rfl]
  rw [values, List.length_map, ha, List.length_append, List.length_cons] at hl
  have hb := List.eq_nil_of_length_eq_zero (l := BuildConfig.pageField.among before) (by omega)
  have hf := List.eq_nil_of_length_eq_zero (l := BuildConfig.pageField.among after) (by omega)
  exact check_of_among_eq_singleton (by rw [ha, hb, hf, List.nil_append])

theorem SettingsSpelledOnce.inner (ho : SettingsSpelledOnce (before ++ (Text.points "page", .object ps) :: after)) :
    SpelledOnce PageConfig.fields ps := by
  refine ho.page ps ?_
  rw [Field.values_append_cons]
  exact List.mem_append_right _ (List.mem_append_left _ List.mem_cons_self)

/-- The layout of settings does not change what they come to: neither the settings nor the issues. -/
theorem Revised.check_eq (h : Revised Relaid ms ms') (ho : SettingsSpelledOnce ms) :
    BuildConfig.check (Json.object ms) = BuildConfig.check (.object ms') := by
  have ho' := (h.spelledOnce_iff keepsValues_relaid).1 ho
  induction h with
  | build h =>
      rw [BuildConfig.check_object, BuildConfig.check_object]
      exact BuildConfig.ofEntries_congr (fun f hf _ => h.select_eq ho.build hf)
        (Field.check_congr (h.select_eq ho.build (by decide)))
  | page before after h =>
      rw [BuildConfig.check_object, BuildConfig.check_object]
      refine BuildConfig.ofEntries_congr (fun f hf hn => Field.select_page hf hn) ?_
      rw [Field.check_page (ho.build _ (by decide)), Field.check_page (ho'.build _ (by decide)),
        PageConfig.check_object, PageConfig.check_object,
        PageConfig.ofEntries_congr fun f hf => h.select_eq ho.inner hf]
  | symm _ ih => exact (ih ho' ho).symm
  | trans h _ ih ih' =>
      have hm := (h.spelledOnce_iff keepsValues_relaid).1 ho
      exact (ih ho hm).trans (ih' hm ho')

theorem PageConfig.given_of_values {p : PageConfig} (hv : ∀ f ∈ fields, f.values ps = f.values ps')
    (ho : SpelledOnce fields ps) (hg : Given (Json.entries ps) p) : Given (Json.entries ps') p :=
  hg.of_agrees fun f hf => Field.agrees_of_values (hv f hf) (ho f hf)

theorem BuildConfig.given_of_values {c : BuildConfig} (hv : ∀ f ∈ fields, f.values ms = f.values ms')
    (ho : SpelledOnce fields ms) (hg : Given (Json.entries ms) c) : Given (Json.entries ms') c :=
  hg.of_agrees (fun f hf _ => Field.agrees_of_values (hv f hf) (ho f hf))
    fun _ hp => Field.agrees_of_values (hv _ (by decide)) (ho _ (by decide)) hp

theorem Respelled.symm (h : Respelled table ms ms') : Respelled table ms' ms := by
  cases h with
  | name before after hf h h' => exact .name before after hf h' h

theorem Respelled.values_eq (ht : ∀ f ∈ table, ∀ g ∈ table, f ≠ g → f.Apart g)
    (h : Respelled table ms ms') (ho : SpelledOnce table ms) :
    ∀ f ∈ table, f.values ms = f.values ms' :=
  fun f hf => eq_of_perm_of_length_le_one (keepsValues_respelled _ ht _ _ h f hf) (ho f hf)

theorem Respelled.given {c : BuildConfig} (h : Respelled BuildConfig.fields ms ms')
    (ho : SettingsSpelledOnce ms) (hc : BuildConfig.check (Json.object ms) = .valid c) :
    BuildConfig.check (Json.object ms') = .valid c := by
  rw [BuildConfig.check_object, BuildConfig.ofEntries_eq_valid_iff] at hc ⊢
  exact BuildConfig.given_of_values (h.values_eq BuildConfig.fields_apart ho.build) ho.build hc

theorem Respelled.given_page {c : BuildConfig} (h : Respelled PageConfig.fields ps ps')
    (ho : SettingsSpelledOnce (before ++ (Text.points "page", .object ps) :: after))
    (hc : BuildConfig.check (Json.object (before ++ (Text.points "page", .object ps) :: after)) = .valid c) :
    BuildConfig.check (Json.object (before ++ (Text.points "page", .object ps') :: after)) = .valid c := by
  have ho' := ((Revised.page before after h).spelledOnce_iff keepsValues_respelled).1 ho
  rw [BuildConfig.check_object, BuildConfig.ofEntries_eq_valid_iff] at hc ⊢
  refine hc.of_agrees (fun f hf hn α c d a hv => ?_) fun p hp => ?_
  · rwa [← Field.check_congr (Field.select_page hf hn)]
  · rw [Field.check_page (ho.build _ (by decide)), Checked.inside_eq_valid_iff, PageConfig.check_object,
      PageConfig.ofEntries_eq_valid_iff] at hp
    rw [Field.check_page (ho'.build _ (by decide)), Checked.inside_eq_valid_iff, PageConfig.check_object,
      PageConfig.ofEntries_eq_valid_iff]
    exact PageConfig.given_of_values (h.values_eq PageConfig.fields_apart ho.inner) ho.inner hp

/-- A field under its other name comes to the same settings. -/
theorem Revised.check_eq_valid_iff (h : Revised Respelled ms ms') (ho : SettingsSpelledOnce ms)
    {c : BuildConfig} : BuildConfig.check (Json.object ms) = .valid c ↔
      BuildConfig.check (Json.object ms') = .valid c := by
  have ho' := (h.spelledOnce_iff keepsValues_respelled).1 ho
  induction h with
  | build h => exact ⟨h.given ho, h.symm.given ho'⟩
  | page before after h => exact ⟨h.given_page ho, h.symm.given_page ho'⟩
  | symm _ ih => exact (ih ho' ho).symm
  | trans h _ ih ih' =>
      have hm := (h.spelledOnce_iff keepsValues_respelled).1 ho
      exact (ih ho hm).trans (ih' hm ho')

/-! ## Settings in any layout -/

theorem BuildConfig.issues_check_page (v : Json) :
    (BuildConfig.check (Json.object [(Text.points "page", v)])).issues =
      (PageConfig.check v).issues.map (Issue.under (.key "page")) := by
  have hp : pageField.among [(Text.points "page", v)] = [(Text.points "page", v)] := Field.among_cons_of_spells rfl
  have hn : ∀ f ∈ fields, f ≠ pageField → ∀ {α : Type} (c : Check Json α) (d : α),
      f.check (Json.entries [(Text.points "page", v)]) c d = .valid d := fun f hf h _ c d =>
    Field.check_of_among_eq_nil
      (Field.among_cons_of_not ((fields_apart f hf _ (by decide) h).spells_eq_false rfl))
  simp (disch := decide) only [check_object, ofEntries_eq, Checked.issues_map, Checked.issues_and, hn,
    Field.check_of_among_eq_singleton hp, Checked.issues_valid, Checked.issues_inside, List.nil_append]

/-- Settings that spell no field twice are checked field by field, those of the page under its name, and what
they come to does not depend on their layout. -/
theorem check_layout {ms : List (Points × Json)} (ho : SettingsSpelledOnce ms) :
    FieldByField BuildConfig.check BuildConfig.fields ms ∧
      (∀ ps, FieldByField PageConfig.check PageConfig.fields ps ∧
        (BuildConfig.check (Json.object [(Text.points "page", .object ps)])).issues =
          (PageConfig.check (Json.object ps)).issues.map (Issue.under (.key "page"))) ∧
      (∀ ms', Revised Relaid ms ms' →
        BuildConfig.check (Json.object ms') = BuildConfig.check (Json.object ms)) ∧
      ∀ ms', Revised Respelled ms ms' → ∀ c,
        BuildConfig.check (Json.object ms') = .valid c ↔ BuildConfig.check (Json.object ms) = .valid c :=
  ⟨BuildConfig.fieldByField ms,
    fun ps => ⟨PageConfig.fieldByField ps, BuildConfig.issues_check_page _⟩,
    fun _ h => (h.check_eq ho).symm, fun _ h _ => (h.check_eq_valid_iff ho).symm⟩

/-- Settings with a key that names no field and with four faults, two of them in the page. -/
def faultySettings : List (Points × Json) :=
  [(Text.points "page", .object [("sectionDisplay", .int 1), ("title", .null)]), ("max_depth", .int 300),
    ("input", .bool true), ("author", .null)]

theorem faultySettings_spelledOnce : SettingsSpelledOnce faultySettings where
  build := by
    unfold SpelledOnce
    decide +kernel
  page ps hm := by
    have he : Json.object ps = .object [("sectionDisplay", .int 1), ("title", .null)] :=
      List.mem_singleton.1 hm
    cases he
    unfold SpelledOnce
    decide +kernel

/-- The issues stand in the order of the fields, in whatever order the keys stand, and no other name for a
field mends them. -/
theorem check_layout_faultySettings :
    SettingsSpelledOnce faultySettings ∧
      (BuildConfig.check (Json.object faultySettings)).issues.map Issue.location =
        [[.key "input"], [.key "max_depth"], [.key "page", .key "title"],
          [.key "page", .key "sectionDisplay"]] ∧
      BuildConfig.check (Json.object [("input", .bool true), ("max_depth", .int 300),
          (Text.points "page", .object [("title", .null), ("sectionDisplay", .int 1)])]) =
        BuildConfig.check (Json.object faultySettings) ∧
      ∀ c, BuildConfig.check (Json.object [(Text.points "page", .object [("section_display", .int 1), ("title", .null)]),
          ("max_depth", .int 300), ("input", .bool true), ("author", .null)]) = .valid c ↔
        BuildConfig.check (Json.object faultySettings) = .valid c := by
  obtain ⟨-, -, hrelaid, hrespelled⟩ := check_layout faultySettings_spelledOnce
  refine ⟨faultySettings_spelledOnce, by decide +kernel, hrelaid _ ?_, hrespelled _ ?_⟩
  · have hr : Revised Relaid faultySettings faultySettings.reverse :=
      .build (.perm (List.reverse_perm _).symm)
    have he : Revised Relaid faultySettings.reverse faultySettings.reverse.tail :=
      .symm (.build (.extra (by decide)))
    exact (hr.trans he).trans (.page [("input", .bool true), ("max_depth", .int 300)] [] (.perm (.swap ..)))
  · exact .page [] _ (.name [] _ (f := PageConfig.sectionDisplayField) (by decide) rfl rfl)

end TalPage
