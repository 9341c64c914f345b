import Mathlib.Data.List.Nodup
import Mathlib.Data.List.TakeDrop
import TalPage.Proofs.Json.Escape

/-!
# Values that are read back

How a reader gets through the text of a value: it reads that value, and stops where the text ends. The
texts of the parts of a value may have blanks between them, so that this holds of every way to lay out a
value.
-/

namespace TalPage.Json

open Text (CodePoint Points pointsOf)

variable {v : Json} {key : Points} {text texts b b' rest : Points} {fuel : Nat}

/-! ## What stands around values -/

/-- What may follow a value: nothing that a number could go on with. -/
def Delimited (s : Points) : Prop :=
  ∀ c, s.head? = some (.char c) → c.isDigit = false ∧ c ≠ '.' ∧ c ≠ 'e' ∧ c ≠ 'E'

def Blank (s : Points) : Prop :=
  ∀ p ∈ s, p.isChar isJsonBlank = true

/-- A text that begins like a value: neither with a blank nor like the end of an array. -/
def Starts (s : Points) : Prop :=
  ∃ c t, s = .char c :: t ∧ isJsonBlank c = false ∧ c ≠ ']'

theorem delimited_nil : Delimited [] := by
  simp [Delimited]

theorem delimited_cons {c : Char} (h : c.isDigit = false ∧ c ≠ '.' ∧ c ≠ 'e' ∧ c ≠ 'E') :
    Delimited (.char c :: rest) := by
  rintro d ⟨⟩
  exact h

theorem blank_nil : Blank [] := by
  simp [Blank]

theorem blank_space : Blank [.char ' '] := by
  simp [Blank, CodePoint.isChar, isJsonBlank]

theorem Blank.delimited (hb : Blank b) (h : Delimited rest) : Delimited (b ++ rest) := by
  cases b with
  | nil => exact h
  | cons p b =>
      have hp := hb p List.mem_cons_self
      cases p with
      | char c =>
          simp only [CodePoint.isChar, isJsonBlank, Bool.or_eq_true, decide_eq_true_eq] at hp
          rcases hp with ((rfl | rfl) | rfl) | rfl <;> exact delimited_cons (by decide)
      | surrogate n => cases hp

theorem Blank.skip (hb : Blank b) {c : Char} (hc : isJsonBlank c = false) :
    skipBlanks (b ++ .char c :: rest) = .char c :: rest := by
  rw [skipBlanks, List.dropWhile_append_of_pos hb,
    List.dropWhile_cons_of_neg (by simp [CodePoint.isChar, hc])]

theorem Blank.skip_starts (hb : Blank b) (h : Starts text) :
    skipBlanks (b ++ (text ++ rest)) = text ++ rest := by
  obtain ⟨c, t, rfl, hc, -⟩ := h
  exact hb.skip hc

theorem Starts.append (h : Starts text) : Starts (text ++ rest) := by
  obtain ⟨c, t, rfl, hc, hn⟩ := h
  exact ⟨c, t ++ rest, rfl, hc, hn⟩

/-! ## Single values -/

/-- A text is read as a value, whatever may follow it. -/
structure Reads (v : Json) (text : Points) : Prop where
  starts : Starts text
  reads : ∀ fuel rest, text.length ≤ fuel → Delimited rest →
    readValue fuel (text ++ rest) = some (v, rest)

/-- Fuel for a text that begins like a value is enough for one step. -/
theorem reads_of_succ (hs : Starts text)
    (h : ∀ fuel rest, text.length ≤ fuel + 1 → Delimited rest →
      readValue (fuel + 1) (text ++ rest) = some (v, rest)) : Reads v text := by
  refine ⟨hs, fun fuel rest hf hr => ?_⟩
  obtain ⟨c, t, rfl, -, -⟩ := hs
  cases fuel with
  | zero => cases hf
  | succ fuel => exact h fuel rest hf hr

/-- A text is read as a string with its quotes. -/
def Quotes (s text : Points) : Prop :=
  ∃ body, text = .char '"' :: body ∧
    ∀ fuel rest, body.length ≤ fuel → readString fuel (body ++ rest) = some (s, rest)

theorem quotes_flatMap {f : CodePoint → Points} (hf : ∀ p, Escapes p (f p)) {s : Points}
    (hs : s.IsChain (KeepsApart f)) : Quotes s (.char '"' :: s.flatMap f ++ [.char '"']) := by
  refine ⟨s.flatMap f ++ [.char '"'], rfl, fun fuel rest h => ?_⟩
  have hl := length_le_length_flatMap hf s
  rw [List.length_append, List.length_singleton] at h
  rw [List.append_assoc]
  exact readString_flatMap hf hs (by omega)

theorem Quotes.reads {s : Points} (h : Quotes s text) : Reads (.string s) text := by
  obtain ⟨body, rfl, hr⟩ := h
  refine reads_of_succ ⟨'"', body, rfl, rfl, by decide⟩ fun fuel rest hf _ => ?_
  rw [List.cons_append, readValue, hr _ _ (by simpa using hf)]
  simp

theorem reads_null : Reads .null "null" :=
  reads_of_succ ⟨'n', pointsOf ['u', 'l', 'l'], rfl, rfl, by decide⟩ fun _ _ _ _ => rfl

theorem reads_true : Reads (.bool true) "true" :=
  reads_of_succ ⟨'t', pointsOf ['r', 'u', 'e'], rfl, rfl, by decide⟩ fun _ _ _ _ => rfl

theorem reads_false : Reads (.bool false) "false" :=
  reads_of_succ ⟨'f', pointsOf ['a', 'l', 's', 'e'], rfl, rfl, by decide⟩ fun _ _ _ _ => rfl

/-! ## Whole numbers -/

theorem head?_toDigits {n : Nat} (h : n ≠ 0) : (Nat.toDigits 10 n).head? ≠ some '0' := by
  induction n using Nat.strongRecOn with
  | _ n ih =>
      by_cases hn : n < 10
      · have hd : ∀ m < 10, m ≠ 0 → m.digitChar ≠ '0' := by decide
        simpa [Nat.toDigits_of_lt_base hn] using hd n hn h
      · rw [Nat.toDigits_of_base_le (by decide) (Nat.le_of_not_lt hn),
          List.head?_append_of_ne_nil _ Nat.toDigits_ne_nil]
        exact ih (n / 10) (by omega) (by omega)

theorem spanDigits_pointsOf {digits : List Char} (hd : ∀ c ∈ digits, c.isDigit = true) (h : Delimited rest) :
    spanDigits (pointsOf digits ++ rest) = (digits, rest) := by
  induction digits with
  | nil =>
      match rest, h with
      | [], _ => rfl
      | .surrogate _ :: _, _ => rfl
      | .char c :: rest, h =>
          have hc := (h c rfl).1
          simp [spanDigits, hc]
  | cons c digits ih =>
      rw [Text.pointsOf_cons, List.cons_append, spanDigits, if_pos (hd c List.mem_cons_self),
        ih fun c hc => hd c (List.mem_cons_of_mem _ hc)]

theorem spanDigits_toDigits (n : Nat) (h : Delimited rest) :
    spanDigits (pointsOf (Nat.toDigits 10 n) ++ rest) = (Nat.toDigits 10 n, rest) :=
  spanDigits_pointsOf (fun _ hc => Nat.isDigit_of_mem_toDigits (by decide) (by decide) hc) h

theorem readFraction_of_delimited (h : Delimited rest) : readFraction rest = some (none, rest) := by
  unfold readFraction
  split
  · next hr => exact absurd rfl (h '.' rfl).2.1
  · rfl

theorem readExponent_of_delimited (h : Delimited rest) : readExponent rest = some (none, rest) := by
  refine if_neg ?_
  rintro (he | he)
  · exact (h _ he).2.2.1 rfl
  · exact (h _ he).2.2.2 rfl

theorem readMagnitude_toDigits (negative : Bool) (n : Nat) (h : Delimited rest) :
    readMagnitude negative (pointsOf (Nat.toDigits 10 n) ++ rest) =
      some (.int (if negative then -n else n), rest) := by
  have hz : ¬ (Nat.toDigits 10 n = [] ∨
      (Nat.toDigits 10 n).head? = some '0' ∧ 1 < (Nat.toDigits 10 n).length) := by
    -- Only zero has a zero at its front, and it has no other digit.
    rintro (he | ⟨hh, hl⟩)
    · exact Nat.toDigits_ne_nil he
    · by_cases hn : n = 0
      · subst hn
        simp at hl
      · exact head?_toDigits hn hh
  simp only [readMagnitude, spanDigits_toDigits n h, if_neg hz, readFraction_of_delimited h,
    readExponent_of_delimited h, Nat.ofDigitChars_ten_toDigits, Option.bind_eq_bind, Option.bind_some]
  rfl

theorem digit_ne {c : Char} (hc : c.isDigit = true) :
    isJsonBlank c = false ∧ c ≠ ']' ∧ c ≠ '"' ∧ c ≠ '[' ∧ c ≠ '\x7b' ∧ c ≠ '-' := by
  have hb : isJsonBlank c ≠ true := by
    intro hb
    simp only [isJsonBlank, Bool.or_eq_true, decide_eq_true_eq] at hb
    rcases hb with ((rfl | rfl) | rfl) | rfl <;> exact absurd hc (by decide)
  refine ⟨by simpa using hb, ?_, ?_, ?_, ?_, ?_⟩ <;> rintro rfl <;> exact absurd hc (by decide)

theorem readValue_digit {c : Char} (hc : c.isDigit = true) :
    readValue (fuel + 1) (.char c :: rest) = readMagnitude false (.char c :: rest) := by
  obtain ⟨-, -, h₁, h₂, h₃, h₄⟩ := digit_ne hc
  rw [readValue]
  · exact if_pos hc
  all_goals assumption

theorem reads_int (n : Int) : Reads (.int n) (pointsOf (intText n)) := by
  obtain ⟨c, t, hd⟩ := List.exists_cons_of_ne_nil (Nat.toDigits_ne_nil (b := 10) (n := n.natAbs))
  have hc : c.isDigit = true :=
    Nat.isDigit_of_mem_toDigits (b := 10) (n := n.natAbs) (by decide) (by decide) (by simp [hd])
  have hs := digit_ne hc
  by_cases hn : n < 0
  · rw [intText, if_pos hn]
    refine reads_of_succ ⟨'-', _, rfl, rfl, by decide⟩ fun fuel rest _ hr => ?_
    have hm := readMagnitude_toDigits true n.natAbs hr
    have hi : -(n.natAbs : Int) = n := by omega
    rw [Text.pointsOf_cons, List.cons_append, readValue, hm, if_pos rfl, hi, Option.some_or]
  · rw [intText, if_neg hn]
    refine reads_of_succ ⟨c, pointsOf t, by rw [hd, Text.pointsOf_cons], hs.1, hs.2.1⟩ fun fuel rest _ hr => ?_
    have hm := readMagnitude_toDigits false n.natAbs hr
    have hi : (n.natAbs : Int) = n := by omega
    rw [hd, Text.pointsOf_cons, List.cons_append] at hm ⊢
    rw [readValue_digit hc, hm, if_neg (by decide), hi]

/-! ## Arrays -/

/-- A text is read as elements up to the closing bracket. -/
structure ReadsElements (vs : List Json) (text : Points) : Prop where
  starts : Starts text
  reads : ∀ fuel done rest, text.length ≤ fuel →
    readElements fuel done (text ++ rest) = some (.array (done ++ vs), rest)

theorem readsElements_last (h : Reads v text) (hb : Blank b) :
    ReadsElements [v] (text ++ (b ++ [.char ']'])) := by
  refine ⟨h.starts.append, fun fuel done rest hf => ?_⟩
  rw [List.length_append, List.length_append, List.length_singleton] at hf
  obtain ⟨fuel, rfl⟩ : ∃ n, fuel = n + 1 := ⟨fuel - 1, by omega⟩
  have hr := h.reads fuel (b ++ .char ']' :: rest) (by omega) (hb.delimited (delimited_cons (by decide)))
  simp only [List.append_assoc, List.singleton_append, readElements, hr, Option.bind_eq_bind,
    Option.bind_some, hb.skip (show isJsonBlank ']' = false from rfl)]

theorem readsElements_cons {vs : List Json} (h : Reads v text) (hb : Blank b)
    (hs : ReadsElements vs texts) : ReadsElements (v :: vs) (text ++ (.char ',' :: (b ++ texts))) := by
  refine ⟨h.starts.append, fun fuel done rest hf => ?_⟩
  rw [List.length_append, List.length_cons, List.length_append] at hf
  obtain ⟨fuel, rfl⟩ : ∃ n, fuel = n + 1 := ⟨fuel - 1, by omega⟩
  -- The comma ends the first element, and the blanks after it are skipped before the next one.
  have hr := h.reads fuel (.char ',' :: (b ++ (texts ++ rest))) (by omega) (delimited_cons (by decide))
  have hc : skipBlanks (.char ',' :: (b ++ (texts ++ rest))) = .char ',' :: (b ++ (texts ++ rest)) := rfl
  simp only [List.append_assoc, List.cons_append, readElements, hr, Option.bind_eq_bind,
    Option.bind_some, hc, hb.skip_starts hs.starts]
  rw [hs.reads fuel (done ++ [v]) rest (by omega), List.append_assoc, List.singleton_append]

theorem reads_emptyArray : Reads (.array []) [.char '[', .char ']'] :=
  reads_of_succ ⟨'[', [.char ']'], rfl, rfl, by decide⟩ fun _ _ _ _ => rfl

theorem ReadsElements.reads_array {vs : List Json} (hb : Blank b) (h : ReadsElements vs text) :
    Reads (.array vs) (.char '[' :: (b ++ text)) := by
  refine reads_of_succ ⟨'[', b ++ text, rfl, rfl, by decide⟩ fun fuel rest hf _ => ?_
  rw [List.length_cons, List.length_append] at hf
  have hr := h.reads fuel [] rest (by omega)
  have hs : skipBlanks (b ++ (text ++ rest)) = text ++ rest := hb.skip_starts h.starts
  obtain ⟨c, t, rfl, -, hc⟩ := h.starts
  rw [List.cons_append, List.append_assoc, readValue, hs]
  simpa [hc] using hr

/-! ## Objects -/

/-- A text is read as members up to the closing brace, if no key has been read before. -/
structure ReadsMembers (ms : List (Points × Json)) (text : Points) : Prop where
  starts : ∃ t, text = .char '"' :: t
  reads : ∀ fuel done rest, text.length ≤ fuel → ((done ++ ms).map Prod.fst).Nodup →
    readMembers fuel done (text ++ rest) = some (.object (done ++ ms), rest)

theorem insertMember_of_notMem {ms : List (Points × Json)} (h : key ∉ ms.map Prod.fst) :
    insertMember ms key v = ms ++ [(key, v)] := by
  refine if_neg ?_
  simpa using h

theorem insertMember_of_nodup {done ms : List (Points × Json)}
    (h : ((done ++ (key, v) :: ms).map Prod.fst).Nodup) :
    insertMember done key v = done ++ [(key, v)] := by
  apply insertMember_of_notMem
  rw [List.map_append, List.map_cons, List.nodup_middle] at h
  exact fun hk => (List.nodup_cons.1 h).1 (List.mem_append_left _ hk)

theorem readsMembers_last {keyText : Points} (hk : Quotes key keyText) (hb' : Blank b')
    (h : Reads v text) (hb : Blank b) :
    ReadsMembers [(key, v)] (keyText ++ (.char ':' :: (b' ++ (text ++ (b ++ [.char '\x7d']))))) := by
  obtain ⟨body, rfl, hq⟩ := hk
  refine ⟨⟨_, rfl⟩, fun fuel done rest hf hn => ?_⟩
  simp only [List.length_append, List.length_cons, List.length_nil] at hf
  obtain ⟨fuel, rfl⟩ : ∃ n, fuel = n + 1 := ⟨fuel - 1, by omega⟩
  have hv := h.reads fuel (b ++ .char '\x7d' :: rest) (by omega) (hb.delimited (delimited_cons (by decide)))
  have hc : skipBlanks (.char ':' :: (b' ++ (text ++ (b ++ .char '\x7d' :: rest)))) =
      .char ':' :: (b' ++ (text ++ (b ++ .char '\x7d' :: rest))) := rfl
  simp only [List.append_assoc, List.cons_append, List.nil_append, readMembers,
    hq fuel _ (show body.length ≤ fuel by omega), hc, hb'.skip_starts h.starts, hv,
    Option.bind_eq_bind, Option.bind_some, insertMember_of_nodup hn,
    hb.skip (show isJsonBlank '\x7d' = false from rfl)]

theorem readsMembers_cons {keyText : Points} {ms : List (Points × Json)} (hk : Quotes key keyText)
    (hb' : Blank b') (h : Reads v text) (hb : Blank b) (hs : ReadsMembers ms texts) :
    ReadsMembers ((key, v) :: ms) (keyText ++ (.char ':' :: (b' ++ (text ++ (.char ',' :: (b ++ texts)))))) := by
  obtain ⟨body, rfl, hq⟩ := hk
  refine ⟨⟨_, rfl⟩, fun fuel done rest hf hn => ?_⟩
  simp only [List.length_append, List.length_cons] at hf
  obtain ⟨fuel, rfl⟩ : ∃ n, fuel = n + 1 := ⟨fuel - 1, by omega⟩
  have hv := h.reads fuel (.char ',' :: (b ++ (texts ++ rest))) (by omega) (delimited_cons (by decide))
  have hc : skipBlanks (.char ':' :: (b' ++ (text ++ (.char ',' :: (b ++ (texts ++ rest)))))) =
      .char ':' :: (b' ++ (text ++ (.char ',' :: (b ++ (texts ++ rest))))) := rfl
  have hc' : skipBlanks (.char ',' :: (b ++ (texts ++ rest))) = .char ',' :: (b ++ (texts ++ rest)) := rfl
  have ht : Starts texts := by
    obtain ⟨t, rfl⟩ := hs.starts
    exact ⟨'"', t, rfl, rfl, by decide⟩
  simp only [List.append_assoc, List.cons_append, readMembers,
    hq fuel _ (show body.length ≤ fuel by omega), hc, hb'.skip_starts h.starts, hv,
    Option.bind_eq_bind, Option.bind_some, insertMember_of_nodup hn, hc',
    hb.skip_starts ht]
  rw [hs.reads fuel (done ++ [(key, v)]) rest (by omega) (by simpa using hn), List.append_assoc,
    List.singleton_append]

theorem reads_emptyObject : Reads (.object []) [.char '\x7b', .char '\x7d'] :=
  reads_of_succ ⟨'\x7b', [.char '\x7d'], rfl, rfl, by decide⟩ fun _ _ _ _ => rfl

theorem ReadsMembers.reads_object {ms : List (Points × Json)} (hb : Blank b) (h : ReadsMembers ms text)
    (hn : (ms.map Prod.fst).Nodup) : Reads (.object ms) (.char '\x7b' :: (b ++ text)) := by
  refine reads_of_succ ⟨'\x7b', b ++ text, rfl, rfl, by decide⟩ fun fuel rest hf _ => ?_
  rw [List.length_cons, List.length_append] at hf
  have hr := h.reads fuel [] rest (by omega) hn
  obtain ⟨t, rfl⟩ := h.starts
  have hs : skipBlanks (b ++ (.char '"' :: t ++ rest)) = .char '"' :: t ++ rest := hb.skip rfl
  rw [List.cons_append, List.append_assoc, readValue, hs]
  exact hr

/-! ## Texts of values -/

theorem Reads.ofText? (h : Reads v text) (hb : Blank b) :
    ofText? (text ++ b) = some v := by
  have hs : skipBlanks (text ++ b) = text ++ b := Blank.skip_starts (b := []) (by simp [Blank]) h.starts
  have hb' : skipBlanks b = [] := List.dropWhile_eq_nil_iff.2 hb
  have hr := h.reads ((text ++ b).length + 1) b (by simp; omega)
    (by simpa using hb.delimited delimited_nil)
  rw [Json.ofText?, hs, hr]
  simp [hb']

/-- Texts that are read fix what they are read as, and where they end. -/
theorem Reads.append_inj {v' : Json} {text' rest' : Points} (h : Reads v text) (h' : Reads v' text')
    (hr : Delimited rest) (hr' : Delimited rest') (he : text ++ rest = text' ++ rest') :
    v = v' ∧ rest = rest' := by
  -- One fuel is enough for both, so both are what reading the common text gives.
  have ht := h.reads (text.length + text'.length) rest (by omega) hr
  rw [he, h'.reads _ rest' (by omega) hr'] at ht
  simpa [eq_comm] using ht

end TalPage.Json
