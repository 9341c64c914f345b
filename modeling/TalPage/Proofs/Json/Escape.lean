import Mathlib.Data.List.Chain
import TalPage.Json.Reader
import TalPage.Json.Script
import TalPage.Proofs.Text.Encoding

/-!
# Escapes that are read back

Every way to write a code point inside a string is read back as that code point, whatever stands after it:
only an escape of the first half of a surrogate pair must not have one of a second half after it.
-/

namespace TalPage.Json

open Text (CodePoint Points hexDigits pointsOf)

variable {c e : Char} {p q : CodePoint} {s rest : Points} {fuel n : Nat}

/-! ## Units -/

theorem hexDigits_one (h : n < 16) : hexDigits 1 n = [n.digitChar] := by
  simp [hexDigits, Nat.toDigits_of_lt_base h]

theorem hexDigits_succ (width n : Nat) :
    hexDigits (width + 2) n = hexDigits (width + 1) (n / 16) ++ [(n % 16).digitChar] := by
  by_cases h : n < 16
  · -- The digits of the rest are those of zero, which is one of the zeros in front.
    have hd : n / 16 = 0 := by omega
    simp [hexDigits, Nat.toDigits_of_lt_base h, hd, Nat.toDigits_zero, Nat.mod_eq_of_lt h,
      List.replicate_succ']
  · have hd := Nat.toDigits_of_base_le (by decide) (Nat.le_of_not_lt h)
    simp [hexDigits, hd]

theorem hexDigits_four (h : n < 0x10000) :
    hexDigits 4 n = [(n / 4096).digitChar, (n / 256 % 16).digitChar, (n / 16 % 16).digitChar,
      (n % 16).digitChar] := by
  rw [hexDigits_succ, hexDigits_succ, hexDigits_succ, hexDigits_one (by omega)]
  simp [Nat.div_div_eq_div_mul]

theorem hexValue?_digitChar : ∀ n < 16, hexValue? n.digitChar = some n := by
  decide

theorem readUnit_hexDigits (h : n < 0x10000) :
    readUnit (pointsOf (hexDigits 4 n) ++ s) = some (n, s) := by
  have h₁ := hexValue?_digitChar (n / 4096) (by omega)
  have h₂ := hexValue?_digitChar (n / 256 % 16) (by omega)
  have h₃ := hexValue?_digitChar (n / 16 % 16) (by omega)
  have h₄ := hexValue?_digitChar (n % 16) (by omega)
  have hn : ((n / 4096 * 16 + n / 256 % 16) * 16 + n / 16 % 16) * 16 + n % 16 = n := by omega
  simp [hexDigits_four h, readUnit, h₁, h₂, h₃, h₄, hn]

/-- A unit that is no first half of a pair stands for itself, and so does one with no second half after it. -/
theorem readUnitEscape_one (h : n < 0x10000)
    (hs : 0xD800 ≤ n → n ≤ 0xDBFF → readLowUnit? s = none) :
    readUnitEscape (pointsOf (hexDigits 4 n) ++ s) = some (.ofNat n, s) := by
  simp only [readUnitEscape, readUnit_hexDigits h, Option.bind_eq_bind, Option.bind_some]
  split
  · next hn => rw [hs hn.1 hn.2]
  · rfl

theorem readLowUnit?_hexDigits (h : n < 0x10000) :
    readLowUnit? (.char '\\' :: .char 'u' :: (pointsOf (hexDigits 4 n) ++ s)) =
      if 0xDC00 ≤ n ∧ n ≤ 0xDFFF then some (n, s) else none := by
  simp [readLowUnit?, readUnit_hexDigits h, Option.filter]

theorem readUnitEscape_pair {high low : Nat} (hh : 0xD800 ≤ high) (hh' : high ≤ 0xDBFF)
    (hl : 0xDC00 ≤ low) (hl' : low ≤ 0xDFFF) :
    readUnitEscape (pointsOf (hexDigits 4 high) ++
        .char '\\' :: .char 'u' :: (pointsOf (hexDigits 4 low) ++ s)) =
      some (.ofNat (0x10000 + (high - 0xD800) * 0x400 + (low - 0xDC00)), s) := by
  simp only [readUnitEscape, readUnit_hexDigits (show high < 0x10000 by omega), Option.bind_eq_bind,
    Option.bind_some, if_pos (And.intro hh hh'), readLowUnit?_hexDigits (show low < 0x10000 by omega),
    if_pos (And.intro hl hl')]

/-- A code point beyond four digits is written as the two halves of its surrogate pair. -/
theorem exists_unitEscape (h : 0x10000 ≤ n) :
    ∃ high low, unitEscape n = '\\' :: 'u' :: hexDigits 4 high ++ '\\' :: 'u' :: hexDigits 4 low ∧
      high = 0xD800 + (n - 0x10000) / 0x400 ∧ low = 0xDC00 + (n - 0x10000) % 0x400 :=
  ⟨_, _, if_neg (Nat.not_lt.2 h), rfl, rfl⟩

/-- Nothing but the escape of a second half is read as one. -/
theorem readLowUnit?_unitEscape (hn : n < 0x110000) (hl : ¬ (0xDC00 ≤ n ∧ n ≤ 0xDFFF)) :
    readLowUnit? (pointsOf (unitEscape n) ++ s) = none := by
  by_cases h : n < 0x10000
  · rw [unitEscape, if_pos h]
    exact (readLowUnit?_hexDigits h).trans (if_neg hl)
  · -- The first half stands in front.
    obtain ⟨high, low, he, hhigh, -⟩ := exists_unitEscape (Nat.le_of_not_lt h)
    rw [he, Text.pointsOf_append, List.append_assoc]
    exact (readLowUnit?_hexDigits (by omega)).trans (if_neg (by omega))

/-! ## Code points -/

/-- Puts a code point in front of what has been read of a string. -/
def consPoint (p : CodePoint) : Points × Points → Points × Points :=
  fun (ps, s) => (p :: ps, s)

theorem readString_quote : readString (fuel + 1) (.char '"' :: s) = some ([], s) :=
  if_pos rfl

theorem readString_plain (hq : p ≠ .char '"') (hb : p ≠ .char '\\') (hc : 0x20 ≤ p.toNat) :
    readString (fuel + 1) (p :: s) = (readString fuel s).map (consPoint p) := by
  rw [readString, if_neg hq, if_neg hb, if_neg (Nat.not_lt.2 hc)]
  cases readString fuel s <;> rfl

theorem readString_escape (h : readEscape s = some (p, rest)) :
    readString (fuel + 1) (.char '\\' :: s) = (readString fuel rest).map (consPoint p) := by
  rw [readString, if_neg (by decide), if_pos rfl, h]
  simp only [Option.bind_eq_bind, Option.bind_some]
  cases readString fuel rest <;> rfl

/-- A text inside a string is read as a code point, but a first half only if no escape of a second half comes
next. -/
structure Escapes (p : CodePoint) (text : Points) : Prop where
  ne_nil : text ≠ []
  reads : ∀ fuel s, (p.isHighSurrogate = true → readLowUnit? s = none) →
    readString (fuel + 1) (text ++ s) = (readString fuel s).map (consPoint p)

theorem escapes_self (hq : p ≠ .char '"') (hb : p ≠ .char '\\') (hc : 0x20 ≤ p.toNat) : Escapes p [p] where
  ne_nil := by simp
  reads _ _ _ := readString_plain hq hb hc

theorem readShortEscape?_of_shortEscape? (h : shortEscape? c = some e) :
    e ≠ 'u' ∧ readShortEscape? e = some c := by
  unfold shortEscape? at h
  split at h
  · next hc =>
      cases h
      rcases hc with rfl | rfl <;> decide
  iterate 3
    split at h
    · next hc =>
        cases h
        subst hc
        decide
  iterate 2
    split at h
    · next hc =>
        cases h
        rw [← Char.ofNat_toNat c, hc]
        decide
  cases h

theorem readEscape_short (hu : e ≠ 'u') (he : readShortEscape? e = some c) :
    readEscape (.char e :: s) = some (.char c, s) := by
  simp [readEscape, he]

theorem escapes_short (h : shortEscape? c = some e) : Escapes (.char c) (pointsOf ['\\', e]) where
  ne_nil := by simp
  reads _ _ _ := by
    obtain ⟨hu, he⟩ := readShortEscape?_of_shortEscape? h
    exact readString_escape (readEscape_short hu he)

theorem escapes_unit (p : CodePoint) : Escapes p (pointsOf (unitEscape p.toNat)) := by
  by_cases h : p.toNat < 0x10000
  · rw [unitEscape, if_pos h]
    refine ⟨by simp, fun fuel s hs => readString_escape ?_⟩
    have hr := readUnitEscape_one (s := s) h fun hh hh' => hs (CodePoint.isHighSurrogate_iff.2 ⟨hh, hh'⟩)
    rw [CodePoint.ofNat_toNat] at hr
    exact hr
  · -- No code point is so great that the first half would not be a high surrogate.
    have hp := p.toNat_lt
    obtain ⟨high, low, he, hhigh, hlow⟩ := exists_unitEscape (Nat.le_of_not_lt h)
    have hn : 0x10000 + (high - 0xD800) * 0x400 + (low - 0xDC00) = p.toNat := by omega
    refine ⟨by simp [he], fun fuel s _ => ?_⟩
    simp only [he, Text.pointsOf_append, Text.pointsOf_cons, List.cons_append, List.append_assoc]
    apply readString_escape
    rw [readEscape, readUnitEscape_pair (by omega) (by omega) (by omega) (by omega), hn, CodePoint.ofNat_toNat]

theorem ne_of_shortEscape?_eq_none (h : shortEscape? c = none) : c ≠ '"' ∧ c ≠ '\\' := by
  constructor <;> rintro rfl <;> exact absurd h (by decide)

theorem escapes_char (h : shortEscape? c = none) (hc : 0x20 ≤ c.toNat) :
    Escapes (.char c) (pointsOf [c]) := by
  obtain ⟨hq, hb⟩ := ne_of_shortEscape?_eq_none h
  exact escapes_self (by simpa using hq) (by simpa using hb) hc

/-! ## Strings -/

theorem readLowUnit?_self (h : p ≠ .char '\\') : readLowUnit? (p :: s) = none := by
  unfold readLowUnit?
  split
  · next hs => exact absurd (List.cons.inj hs).1 h
  · rfl

theorem readLowUnit?_short (h : shortEscape? c = some e) :
    readLowUnit? (pointsOf ['\\', e] ++ s) = none := by
  have hu := (readShortEscape?_of_shortEscape? h).1
  unfold readLowUnit?
  split
  · next hs => simp [hu] at hs
  · rfl

/-- What stands for `q` is no escape of a second half, or `p` is no first half. -/
def KeepsApart (f : CodePoint → Points) (p q : CodePoint) : Prop :=
  p.isHighSurrogate = true → ∀ s, readLowUnit? (f q ++ s) = none

/-- A text of escapes is read up to the closing quote. -/
theorem readString_flatMap {f : CodePoint → Points} (hf : ∀ p, Escapes p (f p)) {ps : Points}
    (ha : ps.IsChain (KeepsApart f)) (h : ps.length < fuel) :
    readString fuel (ps.flatMap f ++ .char '"' :: rest) = some (ps, rest) := by
  induction ps generalizing fuel with
  | nil =>
      obtain ⟨fuel, rfl⟩ : ∃ n, fuel = n + 1 := ⟨fuel - 1, by simp at h; omega⟩
      exact readString_quote
  | cons p ps ih =>
      obtain ⟨fuel, rfl⟩ : ∃ n, fuel = n + 1 := ⟨fuel - 1, by omega⟩
      have hs : p.isHighSurrogate = true → readLowUnit? (ps.flatMap f ++ .char '"' :: rest) = none := by
        intro hp
        cases ps with
        | nil => rfl
        | cons q ps =>
            rw [List.flatMap_cons, List.append_assoc]
            exact (List.isChain_cons_cons.1 ha).1 hp _
      rw [List.flatMap_cons, List.append_assoc, (hf p).reads _ _ hs, ih ha.tail (by simpa using h)]
      rfl

theorem length_le_length_flatMap {f : CodePoint → Points} (hf : ∀ p, Escapes p (f p)) (ps : Points) :
    ps.length ≤ (ps.flatMap f).length := by
  induction ps with
  | nil => rfl
  | cons p ps ih =>
      have hp := List.length_pos_iff.2 (hf p).ne_nil
      rw [List.flatMap_cons, List.length_append, List.length_cons]
      omega

end TalPage.Json
