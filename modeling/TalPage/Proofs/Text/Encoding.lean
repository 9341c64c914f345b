import Mathlib.Data.List.TakeWhile
import TalPage.Text.Encoding

/-!
# Encodings

A text of characters has bytes in an encoding if all of them do, and decoding these gives the text. In UTF-8 every
such text has bytes; a text with a surrogate has none in any encoding.
-/

namespace TalPage.Text

variable {start : Nat} {rest : Bytes}

/-! ## One character -/

/-- A byte that continues a character. -/
def tailByte (n : Nat) : UInt8 :=
  UInt8.ofNat (0x80 + n % 64)

@[simp] theorem toNat_tailByte (n : Nat) : (tailByte n).toNat = 0x80 + n % 64 := by
  simp only [tailByte, UInt8.toNat_ofNat']
  omega

theorem utf8Char_one {c : Char} (h : c.toNat < 0x80) : utf8Char c = [UInt8.ofNat c.toNat] := by
  simp [utf8Char, h]

theorem utf8Char_two {c : Char} (h : 0x80 ≤ c.toNat) (h' : c.toNat < 0x800) :
    utf8Char c = [UInt8.ofNat (0xC0 + c.toNat / 64), tailByte c.toNat] := by
  simp [utf8Char, tailByte, Nat.not_lt.2 h, h']

theorem utf8Char_three {c : Char} (h : 0x800 ≤ c.toNat) (h' : c.toNat < 0x10000) :
    utf8Char c =
      [UInt8.ofNat (0xE0 + c.toNat / 4096), tailByte (c.toNat / 64), tailByte c.toNat] := by
  have h₁ : ¬ c.toNat < 0x80 := by omega
  simp [utf8Char, tailByte, h₁, Nat.not_lt.2 h, h']

theorem utf8Char_four {c : Char} (h : 0x10000 ≤ c.toNat) :
    utf8Char c = [UInt8.ofNat (0xF0 + c.toNat / 262144), tailByte (c.toNat / 4096),
      tailByte (c.toNat / 64), tailByte c.toNat] := by
  have h₁ : ¬ c.toNat < 0x80 := by omega
  have h₂ : ¬ c.toNat < 0x800 := by omega
  simp [utf8Char, tailByte, h₁, h₂, Nat.not_lt.2 h]

/-! ## Decoding one character -/

theorem takeTails_zero {low high : Nat} (bytes : Bytes) : takeTails low high 0 bytes = [] := by
  cases bytes <;> rfl

theorem takeTails_cons {low high count : Nat} {b : UInt8} (hl : low ≤ b.toNat) (hh : b.toNat ≤ high) :
    takeTails low high (count + 1) (b :: rest) = b :: takeTails 0x80 0xBF count rest := by
  rw [takeTails, if_pos ⟨hl, hh⟩]

theorem takeTails_tailByte {count : Nat} (n : Nat) :
    takeTails 0x80 0xBF (count + 1) (tailByte n :: rest) =
      tailByte n :: takeTails 0x80 0xBF count rest := by
  apply takeTails_cons <;> rw [toNat_tailByte] <;> omega

theorem toNat_lt (c : Char) : c.toNat < 0x110000 := by
  have hv : c.toNat.isValidChar := c.valid
  simp only [Nat.isValidChar] at hv
  omega

theorem not_surrogate (c : Char) : c.toNat < 0xD800 ∨ 0xE000 ≤ c.toNat := by
  have hv : c.toNat.isValidChar := c.valid
  simp only [Nat.isValidChar] at hv
  omega

theorem CodePoint.ofNat_toNat (p : CodePoint) : ofNat p.toNat = p := by
  cases p with
  | char c =>
      have hs : ¬ (0xD800 ≤ c.toNat ∧ c.toNat - 0xD800 < 0x800) := by
        have hc := not_surrogate c
        omega
      rw [toNat, ofNat, dif_neg hs, Char.ofNat_toNat]
  | surrogate n =>
      have hs : 0xD800 ≤ 0xD800 + n.val ∧ 0xD800 + n.val - 0xD800 < 0x800 := by omega
      simp [toNat, ofNat, hs]

theorem CodePoint.toNat_lt (p : CodePoint) : p.toNat < 0x110000 := by
  cases p with
  | char c => exact Text.toNat_lt c
  | surrogate n =>
      have hn := n.isLt
      simp only [toNat]
      omega

theorem CodePoint.isHighSurrogate_iff {p : CodePoint} :
    p.isHighSurrogate = true ↔ 0xD800 ≤ p.toNat ∧ p.toNat ≤ 0xDBFF := by
  cases p with
  | char c =>
      have hc := not_surrogate c
      simp only [isHighSurrogate, toNat, Bool.false_eq_true, false_iff]
      omega
  | surrogate n =>
      simp only [isHighSurrogate, toNat, decide_eq_true_eq]
      omega

theorem CodePoint.isLowSurrogate_iff {p : CodePoint} :
    p.isLowSurrogate = true ↔ 0xDC00 ≤ p.toNat ∧ p.toNat ≤ 0xDFFF := by
  cases p with
  | char c =>
      have hc := not_surrogate c
      simp only [isLowSurrogate, toNat, Bool.false_eq_true, false_iff]
      omega
  | surrogate n =>
      have hn := n.isLt
      simp only [isLowSurrogate, toNat, decide_eq_true_eq]
      omega

/-- The lead of two further bytes bounds the first of them so that it fits a character of three. -/
theorem lead_three {n : Nat} (h : 0x800 ≤ n) (h' : n < 0x10000) (hs : n < 0xD800 ∨ 0xE000 ≤ n) :
    ∃ low high, Lead.ofByte? (UInt8.ofNat (0xE0 + n / 4096)) = some ⟨n / 4096, 2, low, high⟩ ∧
      low ≤ 0x80 + n / 64 % 64 ∧ 0x80 + n / 64 % 64 ≤ high := by
  have hb : (UInt8.ofNat (0xE0 + n / 4096)).toNat = 0xE0 + n / 4096 := by
    simp only [UInt8.toNat_ofNat']
    omega
  simp only [Lead.ofByte?, hb]
  rw [if_neg (by omega), if_neg (by omega), if_neg (by omega)]
  by_cases h0 : n / 4096 = 0
  · exact ⟨0xA0, 0xBF, by simp [h0], by omega, by omega⟩
  rw [if_neg (by omega)]
  by_cases hd : n / 4096 = 0xD
  · exact ⟨0x80, 0x9F, by simp [hd], by omega, by omega⟩
  rw [if_neg (by omega), if_pos (by omega), Nat.add_sub_cancel_left]
  exact ⟨0x80, 0xBF, rfl, by omega, by omega⟩

theorem lead_four {n : Nat} (h : 0x10000 ≤ n) (h' : n < 0x110000) :
    ∃ low high, Lead.ofByte? (UInt8.ofNat (0xF0 + n / 262144)) = some ⟨n / 262144, 3, low, high⟩ ∧
      low ≤ 0x80 + n / 4096 % 64 ∧ 0x80 + n / 4096 % 64 ≤ high := by
  have hb : (UInt8.ofNat (0xF0 + n / 262144)).toNat = 0xF0 + n / 262144 := by
    simp only [UInt8.toNat_ofNat']
    omega
  simp only [Lead.ofByte?, hb]
  rw [if_neg (by omega), if_neg (by omega), if_neg (by omega), if_neg (by omega), if_neg (by omega),
    if_neg (by omega)]
  by_cases h0 : n / 262144 = 0
  · exact ⟨0x90, 0xBF, by simp [h0], by omega, by omega⟩
  rw [if_neg (by omega)]
  by_cases h4 : n / 262144 = 4
  · exact ⟨0x80, 0x8F, by simp [h4], by omega, by omega⟩
  rw [if_pos (by omega), Nat.add_sub_cancel_left]
  exact ⟨0x80, 0xBF, rfl, by omega, by omega⟩

/-- The first byte of a character leads to the others, and they give its code point. -/
theorem exists_lead (c : Char) :
    ∃ b lead tails, utf8Char c = b :: tails ∧ Lead.ofByte? b = some lead ∧
      tails.length = lead.tails ∧
      (∀ rest, takeTails lead.low lead.high lead.tails (tails ++ rest) = tails) ∧
      tails.foldl (fun n t => n * 64 + (t.toNat - 0x80)) lead.value = c.toNat := by
  have hc := toNat_lt c
  by_cases h₁ : c.toNat < 0x80
  · have hb : (UInt8.ofNat c.toNat).toNat = c.toNat := by
      simp only [UInt8.toNat_ofNat']
      omega
    refine ⟨_, ⟨c.toNat, 0, 0x80, 0xBF⟩, _, utf8Char_one h₁, ?_, rfl, takeTails_zero, rfl⟩
    simp only [Lead.ofByte?, hb, if_pos h₁]
  by_cases h₂ : c.toNat < 0x800
  · have hb : (UInt8.ofNat (0xC0 + c.toNat / 64)).toNat = 0xC0 + c.toNat / 64 := by
      simp only [UInt8.toNat_ofNat']
      omega
    refine ⟨_, ⟨c.toNat / 64, 1, 0x80, 0xBF⟩, _, utf8Char_two (by omega) h₂, ?_, rfl, ?_, ?_⟩
    · simp only [Lead.ofByte?, hb]
      rw [if_neg (by omega), if_neg (by omega), if_pos (by omega), Nat.add_sub_cancel_left]
    · intro rest
      rw [List.cons_append, takeTails_tailByte, takeTails_zero]
    · simp only [List.foldl_cons, List.foldl_nil, toNat_tailByte]
      omega
  by_cases h₃ : c.toNat < 0x10000
  · obtain ⟨low, high, hl, hlow, hhigh⟩ := lead_three (by omega) h₃ (not_surrogate c)
    refine ⟨_, _, _, utf8Char_three (by omega) h₃, hl, rfl, ?_, ?_⟩
    · intro rest
      rw [List.cons_append, takeTails_cons (by simpa using hlow) (by simpa using hhigh),
        List.cons_append, takeTails_tailByte, takeTails_zero]
    · simp only [List.foldl_cons, List.foldl_nil, toNat_tailByte]
      omega
  · obtain ⟨low, high, hl, hlow, hhigh⟩ := lead_four (n := c.toNat) (by omega) hc
    refine ⟨_, _, _, utf8Char_four (by omega), hl, rfl, ?_, ?_⟩
    · intro rest
      rw [List.cons_append, takeTails_cons (by simpa using hlow) (by simpa using hhigh),
        List.cons_append, takeTails_tailByte, List.cons_append, takeTails_tailByte, takeTails_zero]
    · simp only [List.foldl_cons, List.foldl_nil, toNat_tailByte]
      omega

theorem utf8Text_utf8Char (c : Char) :
    utf8Text start (utf8Char c ++ rest) =
      (utf8Text (start + (utf8Char c).length) rest).map (c :: ·) := by
  obtain ⟨b, lead, tails, hc, hl, hn, ht, hv⟩ := exists_lead c
  rw [hc, List.cons_append, utf8Text, hl]
  simp only [ht, hn, hv, ↓reduceIte, Char.ofNat_toNat, List.length_cons]
  rw [← hn, List.drop_left, Nat.add_assoc]

/-! ## Texts -/

theorem utf8Text_utf8Bytes (cs : List Char) : utf8Text start (utf8Bytes cs) = .ok cs := by
  induction cs generalizing start with
  | nil =>
      rw [utf8Bytes, List.flatMap_nil, utf8Text]
  | cons c cs ih =>
      rw [utf8Bytes, List.flatMap_cons, utf8Text_utf8Char]
      exact congrArg (Except.map (c :: ·)) ih

theorem decode_utf8Bytes (cs : List Char) : decode .utf8 (utf8Bytes cs) = .ok cs :=
  utf8Text_utf8Bytes cs

/-- Every character has its bytes in a charset. -/
def Charset.Fits (charset : Charset) (cs : List Char) : Prop :=
  ∀ c ∈ cs, c.toNat < charset.limit

/-- The bytes of characters that all have bytes in a charset. -/
def Charset.bytes (charset : Charset) (cs : List Char) : Bytes :=
  match charset with
  | .utf8 => utf8Bytes cs
  | _ => cs.map fun c => UInt8.ofNat c.toNat

theorem Charset.flatMap_bytesOf (charset : Charset) (cs : List Char) :
    (pointsOf cs).flatMap charset.bytesOf = charset.bytes cs := by
  rw [pointsOf, List.flatMap_map]
  cases charset
  · rfl
  all_goals exact (List.map_eq_flatMap ..).symm

/-- The code points that all have bytes in a charset are those of characters that have bytes in it. -/
theorem Charset.forall_fits_iff {charset : Charset} {ps : Points} :
    (∀ p ∈ ps, charset.fits p = true) ↔ ∃ cs, ps = pointsOf cs ∧ charset.Fits cs := by
  induction ps with
  | nil => exact ⟨fun _ => ⟨[], rfl, fun _ hc => nomatch hc⟩, fun _ _ hp => nomatch hp⟩
  | cons p ps ih =>
      rw [List.forall_mem_cons, ih]
      constructor
      · rintro ⟨hp, cs, rfl, hs⟩
        cases p with
        | char c => exact ⟨c :: cs, rfl, List.forall_mem_cons.2 ⟨of_decide_eq_true hp, hs⟩⟩
        | surrogate n => cases hp
      · rintro ⟨_ | ⟨c, cs⟩, he, hf⟩
        · cases he
        · cases he
          obtain ⟨hc, hs⟩ := List.forall_mem_cons.1 hf
          exact ⟨decide_eq_true hc, cs, rfl, hs⟩

theorem encode_eq_ok_iff {charset : Charset} {ps : Points} {bytes : Bytes} :
    encode charset ps = .ok bytes ↔ ∃ cs, ps = pointsOf cs ∧ charset.Fits cs ∧ bytes = charset.bytes cs := by
  have hd : (ps.dropWhile charset.fits = []) ↔ ∃ cs, ps = pointsOf cs ∧ charset.Fits cs := by
    rw [← Charset.forall_fits_iff, List.dropWhile_eq_nil_iff]
  unfold encode
  split
  · next p rest hp =>
      rw [hp] at hd
      constructor
      · intro h
        cases h
      · rintro ⟨cs, hcs, hf, -⟩
        cases hd.2 ⟨cs, hcs, hf⟩
  · next hn =>
      obtain ⟨cs, rfl, hf⟩ := hd.1 hn
      rw [Except.ok.injEq, Charset.flatMap_bytesOf]
      constructor
      · rintro rfl
        exact ⟨cs, rfl, hf, rfl⟩
      · rintro ⟨ds, he, -, rfl⟩
        rw [pointsOf_inj.1 he]

/-- Every text of characters has bytes in UTF-8. -/
theorem encode_utf8 (cs : List Char) : encode .utf8 (pointsOf cs) = .ok (utf8Bytes cs) :=
  encode_eq_ok_iff.2 ⟨cs, rfl, fun c _ => toNat_lt c, rfl⟩

/-! ## Charsets of single bytes -/

theorem toNat_ofNat_toNat {c : Char} (h : c.toNat < 0x100) : (UInt8.ofNat c.toNat).toNat = c.toNat := by
  rw [UInt8.toNat_ofNat']
  omega

theorem map_ofNat_bytes {cs : List Char} (h : ∀ c ∈ cs, c.toNat < 0x100) :
    (cs.map fun c => UInt8.ofNat c.toNat).map (fun b => Char.ofNat b.toNat) = cs := by
  induction cs with
  | nil => rfl
  | cons c cs ih =>
      obtain ⟨hc, hs⟩ := List.forall_mem_cons.1 h
      rw [List.map_cons, List.map_cons, ih hs, toNat_ofNat_toNat hc, Char.ofNat_toNat]

/-- The bytes of a text stand for that text in the charset that they are in. -/
theorem decode_of_encode {charset : Charset} {ps : Points} {bytes : Bytes}
    (h : encode charset ps = .ok bytes) : ∃ cs, ps = pointsOf cs ∧ decode charset bytes = .ok cs := by
  obtain ⟨cs, rfl, hf, rfl⟩ := encode_eq_ok_iff.1 h
  refine ⟨cs, rfl, ?_⟩
  cases charset with
  | utf8 => exact decode_utf8Bytes cs
  | latin1 => exact congrArg Except.ok (map_ofNat_bytes hf)
  | ascii =>
      have hl : ∀ c ∈ cs, c.toNat < 0x100 := fun c hc => Nat.lt_trans (hf c hc) (by decide)
      have hn : (cs.map fun c => UInt8.ofNat c.toNat).findIdx? (0x80 ≤ ·.toNat) = none := by
        rw [List.findIdx?_eq_none_iff]
        intro b hb
        obtain ⟨c, hc, rfl⟩ := List.mem_map.1 hb
        rw [toNat_ofNat_toNat (hl c hc)]
        exact decide_eq_false (Nat.not_le.2 (hf c hc))
      simp only [decode, Charset.bytes, hn, map_ofNat_bytes hl]

end TalPage.Text
