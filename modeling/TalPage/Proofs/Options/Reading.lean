import TalPage.Options.Reader

/-!
# What a reading keeps

A property of the state that every option and every operand of a grammar keeps holds of all that is read by
it: the reader changes the state only through them. What they are given are words or ends of words, so they
need keep it only for what holds of every word and of its ends.
-/

namespace TalPage.Options

open Text (Points)

variable {σ : Type} {g : Grammar σ} {W : Points → Prop} {P : σ → Prop} {options : List (Opt σ)}
  {o : Opt σ} {f : Found σ} {word : Points} {words : List (Points × Role σ)} {p q : Progress σ}

/-- Whatever an option does to a state with the property leaves the property. -/
def Opt.Keeps (P : σ → Prop) (o : Opt σ) : Prop :=
  match o.effect with
  | .flag set => ∀ a, P a → P (set a)
  | .value read => ∀ word set, read word = .ok set → ∀ a, P a → P (set a)
  | _ => True

/-- The options and operands of a grammar keep the property. -/
structure Grammar.Keeps (g : Grammar σ) (P : σ → Prop) : Prop where
  options : ∀ o ∈ g.options, o.Keeps P
  one : ∀ name set, g.operands = .one name set → ∀ word a, P a → P (set word a)
  rest : ∀ set, g.operands = .rest set → ∀ words a, P a → P (set words a)

/-! ## Values from the words -/

/-- What holds of a word holds of every end of it. -/
def HoldsOfEnds (W : Points → Prop) : Prop :=
  ∀ w v, W w → v <:+ w → W v

/-- Whatever an option does with a value for which `W` holds to a state with the property leaves the
property. -/
def Opt.KeepsOf (W : Points → Prop) (P : σ → Prop) (o : Opt σ) : Prop :=
  match o.effect with
  | .flag set => ∀ a, P a → P (set a)
  | .value read => ∀ word set, W word → read word = .ok set → ∀ a, P a → P (set a)
  | _ => True

/-- The options and operands of a grammar keep the property when they are given values for which `W`
holds. -/
structure Grammar.KeepsOf (g : Grammar σ) (W : Points → Prop) (P : σ → Prop) : Prop where
  ends : HoldsOfEnds W
  options : ∀ o ∈ g.options, o.KeepsOf W P
  one : ∀ name set, g.operands = .one name set → ∀ word a, W word → P a → P (set word a)
  rest : ∀ set, g.operands = .rest set → ∀ words a, (∀ w ∈ words, W w) → P a → P (set words a)

theorem Opt.Keeps.keepsOf (h : o.Keeps P) : o.KeepsOf W P := by
  unfold Opt.Keeps at h
  unfold Opt.KeepsOf
  split
  · next set he =>
      rw [he] at h
      exact h
  · next read he =>
      rw [he] at h
      exact fun word set _ => h word set
  · trivial

theorem Grammar.Keeps.keepsOf (h : g.Keeps P) : g.KeepsOf (fun _ => True) P where
  ends := fun _ _ _ _ => trivial
  options := fun o ho => (h.options o ho).keepsOf
  one := fun name set ho word a _ => h.one name set ho word a
  rest := fun set ho words a _ => h.rest set ho words a

/-- The option is one of these, and for a value joined to it `W` holds. -/
def Found.Of (W : Points → Prop) (options : List (Opt σ)) (f : Found σ) : Prop :=
  f.opt ∈ options ∧ ∀ value, f.joined = some value → W value

/-- For all words `W` holds, and all options among them are options of the grammar. -/
def Known (W : Points → Prop) (options : List (Opt σ)) (words : List (Points × Role σ)) : Prop :=
  ∀ w ∈ words, W w.1 ∧ ∀ f, w.2 = .option (some f) → f.Of W options

/-! ## Options that are found -/

theorem mem_of_mem_named {name : Points} (h : (name, o) ∈ named options) : o ∈ options := by
  obtain ⟨o', ho, hm⟩ := List.mem_flatMap.1 h
  obtain ⟨_, -, he⟩ := List.mem_map.1 hm
  cases he
  exact ho

theorem mem_of_lookup_named {name : Points} (h : (named options).lookup name = some o) : o ∈ options := by
  obtain ⟨l, l', he, -⟩ := List.lookup_eq_some_iff.1 h
  have hm : (name, o) ∈ named options := he ▸ List.mem_append_right _ List.mem_cons_self
  exact mem_of_mem_named hm

theorem HoldsOfEnds.splitEquals (hW : HoldsOfEnds W) (hw : W word) {start value : Points}
    (h : splitEquals word = (start, some value)) : W value := by
  unfold Options.splitEquals at h
  split at h
  · cases h
  · next rest hd =>
      cases h
      exact hW word _ hw ((List.suffix_cons _ _).trans (hd ▸ List.dropWhile_suffix _))

theorem of_mem_candidates (hW : HoldsOfEnds W) (hw : W word) (h : f ∈ candidates options word) :
    f.Of W options := by
  unfold candidates at h
  split at h
  · rcases hs : splitEquals word with ⟨start, joined⟩
    rw [hs] at h
    obtain ⟨⟨name, o⟩, hm, he⟩ := List.mem_filterMap.1 h
    dsimp only at he
    split at he
    · cases he
      refine ⟨mem_of_mem_named hm, ?_⟩
      rintro value ⟨⟩
      exact hW.splitEquals hw hs
    · cases he
  · obtain ⟨⟨name, o⟩, hm, he⟩ := List.mem_filterMap.1 h
    dsimp only at he
    split at he
    · cases he
      refine ⟨mem_of_mem_named hm, ?_⟩
      rintro value ⟨⟩
      exact hW word _ hw (List.drop_suffix 2 _)
    · split at he
      · cases he
        exact ⟨mem_of_mem_named hm, fun _ hj => nomatch hj⟩
      · cases he

theorem of_role (hW : HoldsOfEnds W) (hw : W word) (h : role options word = .ok (.option (some f))) :
    f.Of W options := by
  unfold role at h
  split at h
  · cases h
  split at h
  · cases h
  split at h
  · next o ho =>
      cases h
      exact ⟨mem_of_lookup_named ho, fun _ hj => nomatch hj⟩
  split at h
  · cases h
  rcases hs : splitEquals word with ⟨start, joined⟩
  rw [hs] at h
  dsimp only at h
  split at h
  · next found hf =>
      cases h
      obtain ⟨value, rfl, hf⟩ := Option.bind_eq_some_iff.1 hf
      obtain ⟨o, ho, he⟩ := Option.map_eq_some_iff.1 hf
      cases he
      refine ⟨mem_of_lookup_named ho, ?_⟩
      rintro value' ⟨⟩
      exact hW.splitEquals hw hs
  split at h
  · next found hc =>
      cases h
      exact of_mem_candidates hW hw (by rw [hc]; exact List.mem_singleton_self f)
  · split at h <;> cases h
  · cases h

theorem bind_eq_ok_iff {ε α β : Type} {x : Except ε α} {k : α → Except ε β} {b : β} :
    x >>= k = .ok b ↔ ∃ a, x = .ok a ∧ k a = .ok b := by
  cases x <;> simp [bind, Except.bind]

theorem known_operands {ws : List Points} (h : ∀ w ∈ ws, W w) :
    Known W options (ws.map fun w => (w, .operand)) := by
  intro w hw
  obtain ⟨w, hm, rfl⟩ := List.mem_map.1 hw
  exact ⟨h w hm, fun _ hf => nomatch hf⟩

theorem known_cons {r : Role σ} (hw : W word) (hr : ∀ f, r = .option (some f) → f.Of W options)
    (h : Known W options words) : Known W options ((word, r) :: words) :=
  List.forall_mem_cons.2 ⟨⟨hw, hr⟩, h⟩

theorem known_classify (hW : HoldsOfEnds W) {ws : List Points} (hws : ∀ w ∈ ws, W w)
    (h : classify options ws = .ok words) : Known W options words := by
  induction ws generalizing words with
  | nil =>
      cases h
      exact fun _ hm => nomatch hm
  | cons w ws ih =>
      obtain ⟨hw, hws⟩ := List.forall_mem_cons.1 hws
      obtain ⟨r, hr, h⟩ := bind_eq_ok_iff.1 h
      split at h
      · cases h
        exact known_cons hw (fun _ he => nomatch he) (known_operands hws)
      · obtain ⟨rest, hc, h⟩ := bind_eq_ok_iff.1 h
        cases h
        exact known_cons hw (fun f he => of_role hW hw (he ▸ hr)) (ih hws hc)

theorem Known.mono {words' : List (Points × Role σ)} (h : Known W options words) (hs : words' ⊆ words) :
    Known W options words' :=
  fun w hw => h w (hs hw)

theorem Known.holds (h : Known W options words) : ∀ w ∈ words.map (·.1), W w := by
  intro w hw
  obtain ⟨⟨w, r⟩, hm, rfl⟩ := List.mem_map.1 hw
  exact (h _ hm).1

theorem Known.nextOperand? (h : Known W options words) {rest : List (Points × Role σ)}
    (hn : nextOperand? words = some (word, rest)) : W word := by
  unfold Options.nextOperand? at hn
  split at hn
  · cases hn
    exact (h _ List.mem_cons_self).1
  · cases hn

theorem subset_of_nextOperand? {rest : List (Points × Role σ)} (h : nextOperand? words = some (word, rest)) :
    rest ⊆ words := by
  unfold nextOperand? at h
  split at h
  · cases h
    exact List.subset_cons_self _ _
  · cases h

theorem skipSeparators_subset (words : List (Points × Role σ)) : skipSeparators words ⊆ words := by
  fun_induction skipSeparators words with
  | case1 _ words ih => exact fun w hw => List.mem_cons_of_mem _ (ih hw)
  | case2 => exact fun _ hw => hw

theorem mem_of_unjoin {cs : Points} {before : List (Opt σ)} {last : Opt σ} {value : Option Points}
    (ho : o ∈ options) (h : unjoin options o cs = .ok (before, last, value)) :
    (∀ o' ∈ before, o' ∈ options) ∧ last ∈ options ∧
      ∀ v, value = some v → v <:+ cs := by
  induction cs generalizing o before with
  | nil =>
      cases h
      exact ⟨fun _ hm => (nomatch hm), ho, fun _ hv => nomatch hv⟩
  | cons c cs ih =>
      rw [unjoin] at h
      split at h
      · cases h
        refine ⟨fun _ hm => (nomatch hm), ho, ?_⟩
        rintro v ⟨⟩
        exact List.suffix_rfl
      split at h
      · cases h
      · next next hn =>
          obtain ⟨⟨before', last', value'⟩, hu, h⟩ := bind_eq_ok_iff.1 h
          cases h
          obtain ⟨hb, hl, hv⟩ := ih (mem_of_lookup_named hn) hu
          exact ⟨List.forall_mem_cons.2 ⟨ho, hb⟩, hl, fun v he => (hv v he).trans (List.suffix_cons c cs)⟩

theorem Found.Of.parts (hW : HoldsOfEnds W) {before : List (Opt σ)} {last : Opt σ}
    {joined : Option Points} (hf : f.Of W options) (h : f.parts options = .ok (before, last, joined)) :
    (∀ o ∈ before, o ∈ options) ∧ last ∈ options ∧ ∀ v, joined = some v → W v := by
  obtain ⟨ho, hv⟩ := hf
  unfold Found.parts at h
  split at h
  · cases h
    exact ⟨fun _ hm => (nomatch hm), ho, fun _ hj => nomatch hj⟩
  next value hj =>
  split at h
  · cases h
    refine ⟨fun _ hm => (nomatch hm), ho, ?_⟩
    rintro v ⟨⟩
    exact hv value hj
  split at h
  · cases h
  · obtain ⟨hb, hl, hu⟩ := mem_of_unjoin ho h
    exact ⟨hb, hl, fun v he => hW value v (hv value hj) (hu v he)⟩

/-! ## States -/

theorem Opt.KeepsOf.act (h : o.KeepsOf W P) (hp : P p.state) (ha : o.act p = .ok q) : P q.state := by
  unfold Opt.KeepsOf at h
  unfold Opt.act at ha
  split at ha
  · cases ha
  · cases ha
  · next set he =>
      cases ha
      rw [he] at h
      exact h _ hp
  · cases ha

theorem Opt.KeepsOf.give {value : Points} (h : o.KeepsOf W P) (hw : W value) (hp : P p.state)
    (hg : o.give value p = .ok q) : P q.state := by
  unfold Opt.KeepsOf at h
  unfold Opt.give at hg
  split at hg
  · next read he =>
      rw [he] at h
      split at hg
      · next set hs =>
          cases hg
          exact h _ _ hw hs _ hp
      · cases hg
  · cases hg

theorem keeps_foldlM {before : List (Opt σ)} (h : ∀ o ∈ before, o.KeepsOf W P) (hp : P p.state)
    (hf : before.foldlM (fun p o => o.act p) p = .ok q) : P q.state := by
  induction before generalizing p with
  | nil =>
      cases hf
      exact hp
  | cons o before ih =>
      rw [List.foldlM_cons] at hf
      obtain ⟨p', ha, hf⟩ := bind_eq_ok_iff.1 hf
      obtain ⟨ho, hb⟩ := List.forall_mem_cons.1 h
      exact ih hb (ho.act hp ha) hf

theorem keeps_of_parts {before : List (Opt σ)} {last : Opt σ} {joined : Option Points}
    (h : g.KeepsOf W P) (hf : f.Of W g.options) (hs : f.parts g.options = .ok (before, last, joined))
    (hp : P p.state) (hb : before.foldlM (fun p o => o.act p) p = .ok q) :
    P q.state ∧ last.KeepsOf W P ∧ ∀ v, joined = some v → W v := by
  obtain ⟨hm, hl, hv⟩ := hf.parts h.ends hs
  exact ⟨keeps_foldlM (fun o ho => h.options o (hm o ho)) hp hb, h.options last hl, hv⟩

theorem take_keeps (h : g.KeepsOf W P) (hk : Known W g.options words) (hp : P p.state)
    (ht : take g p words = .ok q) : P q.state := by
  fun_induction take g p words with
  | case1 =>
      cases ht
      exact hp
  | case2 p word words ih => exact ih (hk.mono (List.subset_cons_self _ _)) hp ht
  | case3 => cases ht
  | case4 => cases ht
  | case5 p word found words before last p' hb value hs ih =>
      obtain ⟨hp', hl, hv⟩ := keeps_of_parts h ((hk _ List.mem_cons_self).2 _ rfl) hs hp hb
      obtain ⟨p'', hg, ht⟩ := bind_eq_ok_iff.1 ht
      exact ih p'' (hk.mono (List.subset_cons_self _ _)) (hl.give (hv _ rfl) hp' hg) ht
  | case6 p word found words before last p' hb htake value rest hn _ hs ih =>
      obtain ⟨hp', hl, -⟩ := keeps_of_parts h ((hk _ List.mem_cons_self).2 _ rfl) hs hp hb
      obtain ⟨p'', hg, ht⟩ := bind_eq_ok_iff.1 ht
      have hw : W value := (hk.mono (List.subset_cons_self _ _)).nextOperand? hn
      exact ih p'' (hk.mono (List.subset_cons_of_subset _ (subset_of_nextOperand? hn)))
        (hl.give hw hp' hg) ht
  | case7 => cases ht
  | case8 p word found words before last p' hb htake hs ih =>
      obtain ⟨hp', hl, -⟩ := keeps_of_parts h ((hk _ List.mem_cons_self).2 _ rfl) hs hp hb
      obtain ⟨p'', ha, ht⟩ := bind_eq_ok_iff.1 ht
      exact ih p'' (hk.mono (List.subset_cons_self _ _)) (hl.act hp' ha) ht
  | case9 p word words value rest hn _ _ hpend name set ho ih =>
      have hw : W value := (hk.mono (List.subset_cons_self _ _)).nextOperand? hn
      refine ih (hk.mono (List.subset_cons_of_subset _ ?_)) (h.one name set ho value _ hw hp) ht
      exact List.Subset.trans (skipSeparators_subset rest) (subset_of_nextOperand? hn)
  | case10 p word words value rest hn _ _ hpend set ho =>
      cases ht
      exact h.rest set ho _ _ hk.holds hp
  | case11 p word words value rest hn _ _ hpend ho ih =>
      exact ih (hk.mono (List.subset_cons_self _ _)) hp ht
  | case12 p word words value rest hn _ _ hpend ih =>
      exact ih (hk.mono (List.subset_cons_self _ _)) hp ht
  | case13 p word words hn ih => exact ih (hk.mono (List.subset_cons_self _ _)) hp ht
  | case14 p word words _ hpend name set ho ih =>
      exact ih (hk.mono (List.subset_cons_of_subset _ (skipSeparators_subset words)))
        (h.one name set ho word _ (hk _ List.mem_cons_self).1 hp) ht
  | case15 p word words _ hpend set ho =>
      cases ht
      exact h.rest set ho _ _ hk.holds hp
  | case16 p word words _ hpend ho ih => exact ih (hk.mono (List.subset_cons_self _ _)) hp ht
  | case17 p word words _ hpend ih => exact ih (hk.mono (List.subset_cons_self _ _)) hp ht

/-- What a grammar keeps for values like the words holds of all that is read from the words. -/
theorem Grammar.KeepsOf.read {start a : σ} {ws extras : List Points} (h : g.KeepsOf W P)
    (hws : ∀ w ∈ ws, W w) (hs : P start) (hr : g.read start ws = .ok (a, extras)) : P a := by
  obtain ⟨words, hw, hr⟩ := bind_eq_ok_iff.1 hr
  obtain ⟨p, ht, hr⟩ := bind_eq_ok_iff.1 hr
  have hc : classify g.options ws = .ok words := by
    cases he : classify g.options ws <;> rw [he] at hw <;> cases hw
    rfl
  have hp := take_keeps h (known_classify h.ends hws hc) hs ht
  split at hr
  · split at hr <;> cases hr
    exact hp
  · cases hr
    exact hp

/-- What a grammar keeps holds of all that is read by it. -/
theorem Grammar.Keeps.read {start a : σ} {ws extras : List Points} (h : g.Keeps P) (hs : P start)
    (hr : g.read start ws = .ok (a, extras)) : P a :=
  h.keepsOf.read (fun _ _ => trivial) hs hr

end TalPage.Options
