import TalPage.Proofs.Json.Order
import TalPage.Proofs.Json.Reading

/-!
# Values in a script

The text of a value for a script is read back as that value with its members in order, and no character
of it means anything to the HTML around the script.
-/

namespace TalPage.Json

open Text (CodePoint Points pointsOf)

variable {W : Points → Prop} {v : Json} {p q : CodePoint} {text : List Char}

/-! ## Reading back -/

/-- No first half of a surrogate pair stands directly before a second half. -/
def Unpaired (s : Points) : Prop :=
  s.IsChain fun p q => ¬ (p.isHighSurrogate = true ∧ q.isLowSurrogate = true)

instance (s : Points) : Decidable (Unpaired s) :=
  inferInstanceAs (Decidable (List.IsChain _ s))

theorem unpaired_points (s : String) : Unpaired s :=
  (List.pairwise_map.2 (List.pairwise_of_forall fun _ _ h => nomatch h.1)).isChain

theorem escapes_scriptPoint (p : CodePoint) : Escapes p (pointsOf (scriptPoint p)) := by
  cases p with
  | surrogate n => exact escapes_unit _
  | char c =>
      rw [scriptPoint, scriptChar]
      cases h : shortEscape? c with
      | some short => exact escapes_short h
      | none =>
          dsimp only
          split
          · exact escapes_unit (.char c)
          · next hc => exact escapes_char h (Nat.le_of_not_lt fun hc' => hc (.inl hc'))

theorem keepsApart_scriptPoint (h : ¬ (p.isHighSurrogate = true ∧ q.isLowSurrogate = true)) :
    KeepsApart (fun p => pointsOf (scriptPoint p)) p q := by
  intro hp s
  have hq : ¬ (0xDC00 ≤ q.toNat ∧ q.toNat ≤ 0xDFFF) := fun hq => h ⟨hp, CodePoint.isLowSurrogate_iff.2 hq⟩
  cases q with
  | surrogate n => exact readLowUnit?_unitEscape (CodePoint.toNat_lt _) hq
  | char c =>
      dsimp only
      rw [scriptPoint, scriptChar]
      cases h : shortEscape? c with
      | some short => exact readLowUnit?_short h
      | none =>
          dsimp only
          split
          · exact readLowUnit?_unitEscape (CodePoint.toNat_lt (.char c)) hq
          · exact readLowUnit?_self (by simpa using (ne_of_shortEscape?_eq_none h).2)

theorem quotes_scriptString {s : Points} (h : Unpaired s) : Quotes s (pointsOf (scriptString s)) := by
  have hq := quotes_flatMap escapes_scriptPoint (h.imp fun _ _ => keepsApart_scriptPoint)
  simpa [scriptString, Text.pointsOf_flatMap] using hq

mutual
theorem reads_inLine : (v : Json) → v.Regular Unpaired → Reads v (pointsOf (inLine v))
  | .null, _ => reads_null
  | .bool true, _ => reads_true
  | .bool false, _ => reads_false
  | .int n, _ => reads_int n
  | .string _, h => (quotes_scriptString h).reads
  | .array [], _ => reads_emptyArray
  | .array (v :: vs), h => by
      have he := readsElements_inLine (reads_inLine v h.1) vs h.2
      simpa [inLine] using he.reads_array blank_nil
  | .object [], _ => reads_emptyObject
  | .object ((_, v) :: ms), h => by
      have hm := readsMembers_inLine (quotes_scriptString h.2.1) (reads_inLine v h.2.2.1) ms h.2.2.2
      simpa [inLine] using hm.reads_object blank_nil h.1

theorem readsElements_inLine {v : Json} {text : Points} (hv : Reads v text) :
    (vs : List Json) → RegularElements Unpaired vs →
      ReadsElements (v :: vs) (text ++ (pointsOf (inLineElements vs) ++ [.char ']']))
  | [], _ => readsElements_last hv blank_nil
  | w :: vs, h => by
      have hs := readsElements_cons hv blank_space (readsElements_inLine (reads_inLine w h.1) vs h.2)
      simpa [inLineElements] using hs

theorem readsMembers_inLine {key keyText text : Points} {v : Json} (hk : Quotes key keyText)
    (hv : Reads v text) :
    (ms : List (Points × Json)) → RegularMembers Unpaired ms →
      ReadsMembers ((key, v) :: ms)
        (keyText ++ (.char ':' :: .char ' ' :: (text ++ (pointsOf (inLineMembers ms) ++ [.char '\x7d']))))
  | [], _ => readsMembers_last hk blank_space hv blank_nil
  | (_, w) :: ms, h => by
      have hs := readsMembers_cons hk blank_space hv blank_space
        (readsMembers_inLine (quotes_scriptString h.1) (reads_inLine w h.2.1) ms h.2.2)
      simpa [inLineMembers] using hs
end

theorem reads_scriptText (h : v.sorted.Regular Unpaired) : Reads v.sorted v.scriptText := by
  rw [scriptText, Text.points, String.toList_ofList]
  exact reads_inLine v.sorted h

/-- The text of a value for a script is read as that value with its members in order. -/
theorem ofText?_scriptText (h : v.sorted.Regular Unpaired) : ofText? v.scriptText = some v.sorted := by
  have ht := (reads_scriptText h).ofText? blank_nil
  rwa [List.append_nil] at ht

/-! ## Safe characters -/

/-- Printable ASCII without the characters that mean something to the HTML around a script. -/
def ScriptSafe (s : List Char) : Prop :=
  ∀ c ∈ s, 0x20 ≤ c.toNat ∧ c.toNat ≤ 0x7E ∧ isMarkup c = false

instance (s : List Char) : Decidable (ScriptSafe s) :=
  List.decidableBAll _ s

theorem ScriptSafe.append {s t : List Char} (hs : ScriptSafe s) (ht : ScriptSafe t) :
    ScriptSafe (s ++ t) := by
  intro c hc
  exact (List.mem_append.1 hc).elim (hs c) (ht c)

theorem scriptSafe_hexDigits {n : Nat} (h : n < 0x10000) : ScriptSafe (Text.hexDigits 4 n) := by
  have hd : ∀ d < 16, ScriptSafe [d.digitChar] := by
    decide
  rw [hexDigits_four h]
  exact ((hd _ (by omega)).append (hd _ (by omega))).append ((hd _ (by omega)).append (hd _ (by omega)))

theorem scriptSafe_unitEscape {n : Nat} (h : n < 0x110000) : ScriptSafe (unitEscape n) := by
  have hu : ScriptSafe ['\\', 'u'] := by
    decide
  by_cases hn : n < 0x10000
  · rw [unitEscape, if_pos hn]
    exact hu.append (scriptSafe_hexDigits hn)
  · obtain ⟨high, low, he, hhigh, hlow⟩ := exists_unitEscape (Nat.le_of_not_lt hn)
    rw [he]
    exact (hu.append (scriptSafe_hexDigits (by omega))).append
      (hu.append (scriptSafe_hexDigits (by omega)))

theorem scriptSafe_short {c e : Char} (h : shortEscape? c = some e) : ScriptSafe ['\\', e] := by
  have he : e = '"' ∨ e = '\\' ∨ e = 'n' ∨ e = 'r' ∨ e = 't' ∨ e = 'b' ∨ e = 'f' := by
    unfold shortEscape? at h
    grind
  rcases he with rfl | rfl | rfl | rfl | rfl | rfl | rfl <;> decide

theorem scriptSafe_scriptChar (c : Char) : ScriptSafe (scriptChar c) := by
  unfold scriptChar
  cases h : shortEscape? c with
  | some short => exact scriptSafe_short h
  | none =>
      by_cases hc : c.toNat < 0x20 ∨ 0x7E < c.toNat ∨ isMarkup c
      · simp only [if_pos hc]
        exact scriptSafe_unitEscape (Text.toNat_lt c)
      · simp only [if_neg hc]
        simp only [not_or, Nat.not_lt, Bool.not_eq_true] at hc
        simpa [ScriptSafe] using hc

theorem scriptSafe_scriptPoint (p : CodePoint) : ScriptSafe (scriptPoint p) := by
  cases p with
  | char c => exact scriptSafe_scriptChar c
  | surrogate n => exact scriptSafe_unitEscape (CodePoint.toNat_lt _)

theorem scriptSafe_scriptString (s : Points) : ScriptSafe (scriptString s) := by
  have hq : ScriptSafe ['"'] := by
    decide
  refine (hq.append fun c hc => ?_).append hq
  obtain ⟨p, -, hc⟩ := List.mem_flatMap.1 hc
  exact scriptSafe_scriptPoint p c hc

theorem scriptSafe_intText (n : Int) : ScriptSafe (intText n) := by
  have hd : ScriptSafe (Nat.toDigits 10 n.natAbs) := by
    intro c hc
    have hc := Nat.isDigit_of_mem_toDigits (by decide) (by decide) hc
    refine ⟨?_, ?_, Bool.eq_false_iff.2 fun hm => ?_⟩
    · exact Nat.le_trans (by decide) (Char.isDigit_iff_toNat.1 hc).1
    · exact Nat.le_trans (Char.isDigit_iff_toNat.1 hc).2 (by decide)
    · simp only [isMarkup, List.mem_cons, List.not_mem_nil, or_false, decide_eq_true_eq] at hm
      rcases hm with rfl | rfl | rfl | rfl <;> exact absurd hc (by decide)
  unfold intText
  split
  · exact ScriptSafe.append (s := ['-']) (by decide) hd
  · exact hd

mutual
theorem scriptSafe_inLine : (v : Json) → v.Regular W → ScriptSafe (inLine v)
  | .null, _ => by decide
  | .bool true, _ => by decide
  | .bool false, _ => by decide
  | .int n, _ => scriptSafe_intText n
  | .string s, _ => scriptSafe_scriptString s
  | .array [], _ => by decide
  | .array (v :: vs), h =>
      ((ScriptSafe.append (s := ['[']) (by decide) (scriptSafe_inLine v h.1)).append
        (scriptSafe_inLineElements vs h.2)).append (by decide)
  | .object [], _ => by decide
  | .object ((key, v) :: ms), h =>
      ((((ScriptSafe.append (s := ['\x7b']) (by decide) (scriptSafe_scriptString key)).append
        (by decide)).append (scriptSafe_inLine v h.2.2.1)).append
          (scriptSafe_inLineMembers ms h.2.2.2)).append (by decide)

theorem scriptSafe_inLineElements : (vs : List Json) → RegularElements W vs →
    ScriptSafe (inLineElements vs)
  | [], _ => by decide
  | v :: vs, h =>
      (ScriptSafe.append (s := [',', ' ']) (by decide) (scriptSafe_inLine v h.1)).append
        (scriptSafe_inLineElements vs h.2)

theorem scriptSafe_inLineMembers : (ms : List (Points × Json)) → RegularMembers W ms →
    ScriptSafe (inLineMembers ms)
  | [], _ => by decide
  | (key, v) :: ms, h =>
      (((ScriptSafe.append (s := [',', ' ']) (by decide) (scriptSafe_scriptString key)).append
        (by decide)).append (scriptSafe_inLine v h.2.1)).append (scriptSafe_inLineMembers ms h.2.2)
end

theorem scriptSafe_scriptText (h : v.Regular W) : ScriptSafe v.scriptText.toList := by
  rw [scriptText, String.toList_ofList]
  exact scriptSafe_inLine v.sorted (regular_sorted v h)

end TalPage.Json
