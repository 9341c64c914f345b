import TalPage.Proofs.Json.Limits
import TalPage.Proofs.Json.Reading

/-!
# Stable text

A value that can be written has a stable text, which is read back as that value with its members in order. Two
such values have one text exactly if they differ in nothing but the order of members.
-/

namespace TalPage.Json

open Text (CodePoint Points pointsOf)

variable {W : Points → Prop} {v w : Json} {s : Points}

/-! ## Reading back -/

theorem escapes_stablePoint (p : CodePoint) : Escapes p (stablePoint p) := by
  cases p with
  | surrogate n => exact escapes_self nofun nofun (by simp only [CodePoint.toNat]; omega)
  | char c =>
      rw [stablePoint, stableChar]
      cases h : shortEscape? c with
      | some short => exact escapes_short h
      | none =>
          by_cases hc : c.toNat < 0x20
          · have he : unitEscape c.toNat = '\\' :: 'u' :: Text.hexDigits 4 c.toNat := if_pos (by omega)
            simp only [if_pos hc, ← he]
            exact escapes_unit (.char c)
          · simp only [if_neg hc]
            exact escapes_char h (Nat.le_of_not_lt hc)

/-- No text inside a string is an escape of a second half of a surrogate pair. -/
theorem readLowUnit?_stablePoint (p : CodePoint) : readLowUnit? (stablePoint p ++ s) = none := by
  cases p with
  | surrogate n => exact readLowUnit?_self nofun
  | char c =>
      rw [stablePoint, stableChar]
      cases h : shortEscape? c with
      | some short => exact readLowUnit?_short h
      | none =>
          by_cases hc : c.toNat < 0x20
          · simp only [if_pos hc]
            exact (readLowUnit?_hexDigits (by omega)).trans (if_neg (by omega))
          · simp only [if_neg hc]
            exact readLowUnit?_self (by simpa using (ne_of_shortEscape?_eq_none h).2)

theorem quotes_stableString (s : Points) : Quotes s (stableString s) :=
  quotes_flatMap escapes_stablePoint (List.isChain_iff_getElem.2 fun _ _ _ _ => readLowUnit?_stablePoint _)

theorem blank_lineBreak (level : Nat) : Blank (lineBreak level) := by
  intro p hp
  rcases List.mem_cons.1 hp with rfl | hp
  · rfl
  · rw [(List.mem_replicate.1 hp).2]
    rfl

mutual
theorem reads_laidOut (level : Nat) : (v : Json) → v.Regular W → Reads v (laidOut level v)
  | .null, _ => reads_null
  | .bool true, _ => reads_true
  | .bool false, _ => reads_false
  | .int n, _ => reads_int n
  | .string s, _ => (quotes_stableString s).reads
  | .array [], _ => reads_emptyArray
  | .array (v :: vs), h => by
      have he := readsElements_laidOut (level + 1) (reads_laidOut (level + 1) v h.1)
        (blank_lineBreak level) vs h.2
      simpa [laidOut] using he.reads_array (blank_lineBreak (level + 1))
  | .object [], _ => reads_emptyObject
  | .object ((key, v) :: ms), h => by
      have hm := readsMembers_laidOut (level + 1) (quotes_stableString key) (reads_laidOut (level + 1) v h.2.2.1)
        (blank_lineBreak level) ms h.2.2.2
      simpa [laidOut] using hm.reads_object (blank_lineBreak (level + 1)) h.1

theorem readsElements_laidOut (level : Nat) {v : Json} {text b : Points} (hv : Reads v text)
    (hb : Blank b) :
    (vs : List Json) → RegularElements W vs →
      ReadsElements (v :: vs) (text ++ (laidOutElements level vs ++ (b ++ [.char ']'])))
  | [], _ => readsElements_last hv hb
  | w :: vs, h => by
      have hs := readsElements_cons hv (blank_lineBreak level)
        (readsElements_laidOut level (reads_laidOut level w h.1) hb vs h.2)
      simpa [laidOutElements] using hs

theorem readsMembers_laidOut (level : Nat) {key keyText text b : Points} {v : Json}
    (hk : Quotes key keyText) (hv : Reads v text) (hb : Blank b) :
    (ms : List (Points × Json)) → RegularMembers W ms →
      ReadsMembers ((key, v) :: ms)
        (keyText ++ (.char ':' :: .char ' ' :: (text ++ (laidOutMembers level ms ++ (b ++ [.char '\x7d'])))))
  | [], _ => readsMembers_last hk blank_space hv hb
  | (key', w) :: ms, h => by
      have hs := readsMembers_cons hk blank_space hv (blank_lineBreak level)
        (readsMembers_laidOut level (quotes_stableString key') (reads_laidOut level w h.2.1) hb ms h.2.2)
      simpa [laidOutMembers] using hs
end

theorem ofText?_laidOut (h : v.Regular W) : ofText? (laidOut 0 v ++ [.char '\n']) = some v :=
  (reads_laidOut 0 v h).ofText? (by simp [Blank, CodePoint.isChar, isJsonBlank])

/-! ## The end of the text -/

theorem getLast?_intText (n : Int) : (pointsOf (intText n)).getLast? ≠ some (.char '\n') := by
  intro h
  have hn : '\n' ∉ Nat.toDigits 10 n.natAbs := fun hc =>
    absurd (Nat.isDigit_of_mem_toDigits (by decide) (by decide) hc) (by decide)
  have hm := Text.char_mem_pointsOf.1 (List.mem_of_getLast? h)
  unfold intText at hm
  split at hm
  · exact hn ((List.mem_cons.1 hm).resolve_left (by decide))
  · exact hn hm

/-- The last character of a value is not the end of a line. -/
theorem getLast?_laidOut (level : Nat) (h : v.Regular W) :
    (laidOut level v).getLast? ≠ some (.char '\n') := by
  cases v with
  | null => exact fun h => nomatch h
  | bool b => cases b <;> exact fun h => nomatch h
  | int n => exact getLast?_intText n
  | float x => exact h.elim
  | string s => simp [laidOut, stableString, List.getLast?_cons]
  | array vs => cases vs <;> simp [laidOut, List.getLast?_cons]
  | object ms => cases ms <;> simp [laidOut, List.getLast?_cons]

/-! ## One text for one mapping -/

/-- The text of a value that can be written is that of the same value with all members in the order of their
keys, and is read as that; it has one line feed at its end. Values with the same text are those that differ in
nothing but the order of members. A value that cannot be written has no text, for a reason that holds of it. -/
theorem stableText_canonical (room : Nat) (hv : v.Regular fun _ => True) (hw : w.Regular fun _ => True) :
    (v.Writable room → ∃ text v', v.stableText room = .ok text ∧ Same v v' ∧ v'.Ordered ∧
      ofText? text = some v' ∧ text = laidOut 0 v' ++ [.char '\n'] ∧
      (laidOut 0 v').getLast? ≠ some (.char '\n') ∧ (w.stableText room = .ok text ↔ Same v w)) ∧
    (¬ v.Writable room → ∃ fault, v.stableText room = .error fault ∧ fault.Holds room v) := by
  refine ⟨fun h => ?_, exists_stableText_eq_error⟩
  have hs := regular_sorted v hv
  have ht := h.stableText_eq
  refine ⟨_, v.sorted, ht, same_sorted v, ordered_sorted v hv, ofText?_laidOut hs, rfl, getLast?_laidOut 0 hs,
    fun he => ?_, fun he => ?_⟩
  · -- The text of the other value is read as both.
    have hr := ofText?_laidOut (regular_sorted w hw)
    rw [laidOut_of_stableText he, ofText?_laidOut hs] at hr
    exact (sorted_eq_iff hv).1 (Option.some.inj hr)
  · rw [← ht, stableText, stableText, (sorted_eq_iff hv).2 he]

/-- Objects with members in another order than that of their keys. -/
def shuffledObject : Json :=
  .object [("b", .array [.int (-7), .null, .object []]), ("é", .string "\"x\n"),
    ("a", .object [("z", .bool true), ("A", .int 10000000000000000000000)])]

def arrangedObject : Json :=
  .object [("a", .object [("A", .int 10000000000000000000000), ("z", .bool true)]),
    ("b", .array [.int (-7), .null, .object []]), ("é", .string "\"x\n")]

theorem same_arrangedObject : Same shuffledObject arrangedObject := by
  have ha : SameMembers [("z", .bool true), ("A", .int 10000000000000000000000)]
      [("A", .int 10000000000000000000000), ("z", .bool true)] :=
    .cons (l := [_]) .refl (.cons (l := []) .refl .nil)
  exact .object (.cons (l := [_]) .refl (.cons (l := [_]) .refl (.cons (l := []) (.object ha) .nil)))

theorem stableText_canonical_shuffledObject :
    shuffledObject.Regular (fun _ => True) ∧ arrangedObject.Regular (fun _ => True) ∧
      shuffledObject.Writable 2 ∧ ¬ shuffledObject.Writable 1 ∧
      ∃ text, shuffledObject.stableText 2 = .ok text ∧ arrangedObject.stableText 2 = .ok text := by
  have hs : shuffledObject.Regular fun _ => True := by
    simp [shuffledObject, Regular, RegularElements, RegularMembers]
  have ha : arrangedObject.Regular fun _ => True := by
    simp [arrangedObject, Regular, RegularElements, RegularMembers]
  have hw : shuffledObject.Writable 2 := writable_iff.2 (by decide +kernel)
  have hn : ¬ shuffledObject.Writable 1 := mt writable_iff.1 (by decide +kernel)
  obtain ⟨text, -, ht, -, -, -, -, -, he⟩ := (stableText_canonical 2 hs ha).1 hw
  exact ⟨hs, ha, hw, hn, text, ht, he.2 same_arrangedObject⟩

/-- Arrays inside each other. -/
def nested : Nat → Json
  | 0 => .array []
  | n + 1 => .array [nested n]

/-- The least whole number with more digits than a limit. -/
def longNumber (limit : Nat) : Nat :=
  Nat.pow 10 limit

theorem lt_length_longNumber {limit : Nat} (h : 0 < limit) :
    limit < (Nat.toDigits 10 (longNumber limit)).length := by
  rw [longNumber, ← Nat.not_le, Nat.length_toDigits_le_iff (by decide) h]
  exact Nat.lt_irrefl _

theorem not_writable_of_lt {n : Nat} (room : Nat) (h : Numeric.digitLimit < (Nat.toDigits 10 n).length) :
    ¬ (Json.int n).Writable room :=
  fun hw => hw .tooManyDigits ⟨0, n, .self _, by rwa [Int.natAbs_natCast]⟩

theorem not_writable_nested (room : Nat) : ¬ (nested (room + 1)).Writable room := by
  have hi : ∀ n, Inside n (nested 0) (nested n) := by
    intro n
    induction n with
    | zero => exact .self _
    | succ n ih => exact ih.element List.mem_cons_self
  exact fun h => h .tooDeep ⟨room + 1, nested 0, hi _, Nat.lt_succ_self room⟩

theorem regular_nested (n : Nat) : (nested n).Regular W := by
  induction n with
  | zero => trivial
  | succ n ih => exact ⟨ih, trivial⟩

/-- The least whole number with too many digits has no text, and neither have arrays inside each other beyond
the calls that can be opened. -/
theorem stableText_beyond_limits :
    ((Json.int (longNumber Numeric.digitLimit)).Regular (fun _ => True) ∧
        ∀ text, (Json.int (longNumber Numeric.digitLimit)).stableText 1000 ≠ .ok text) ∧
      (nested 1001).Regular (fun _ => True) ∧ ∀ text, (nested 1001).stableText 1000 ≠ .ok text := by
  have hn : ∀ {room : Nat} {v : Json}, ¬ v.Writable room → ∀ text, v.stableText room ≠ .ok text := by
    intro room v h text ht
    obtain ⟨fault, hf, -⟩ := exists_stableText_eq_error h
    cases hf.symm.trans ht
  exact ⟨⟨trivial, hn (not_writable_of_lt 1000 (lt_length_longNumber (by decide)))⟩, regular_nested 1001,
    hn (not_writable_nested 1000)⟩

end TalPage.Json
