import TalPage.Proofs.Command.Course
import TalPage.Proofs.Json.Limits

/-!
# The table of the symbols

Only ASCII stands in the table, so every standard output takes it.
-/

namespace TalPage.Command

open File (Store)
open Text (Charset CodePoint Points)

theorem Ascii.append {a b : Points} (ha : Ascii a) (hb : Ascii b) : Ascii (a ++ b) :=
  List.forall_mem_append.2 ⟨ha, hb⟩

/-! ## Texts of ASCII in JSON -/

theorem ascii_stablePoint {p : CodePoint} (h : Charset.ascii.fits p = true) : Ascii (Json.stablePoint p) := by
  have hall : ∀ n : Fin 128, Ascii (Json.stablePoint (.char (Char.ofNat n))) := by
    decide +kernel
  cases p with
  | char c =>
      have hc := hall ⟨c.toNat, of_decide_eq_true h⟩
      rwa [Char.ofNat_toNat] at hc
  | surrogate n => cases h

theorem ascii_stableString {s : Points} (h : Ascii s) : Ascii (Json.stableString s) := by
  have hs : Ascii (s.flatMap Json.stablePoint) := by
    intro p hp
    obtain ⟨q, hq, hp⟩ := List.mem_flatMap.1 hp
    exact ascii_stablePoint (h q hq) p hp
  simp only [Json.stableString, Ascii, List.forall_mem_append, List.forall_mem_cons]
  exact ⟨⟨by decide, hs⟩, by decide⟩

theorem ascii_lineBreak (level : Nat) : Ascii (Json.lineBreak level) := by
  intro p hp
  rcases List.mem_cons.1 hp with rfl | hp
  · decide
  · rw [List.eq_of_mem_replicate hp]
    decide

section Members

variable {level : Nat} {members : List (Points × Json)}

theorem ascii_laidOutMembers (h : ∀ m ∈ members, Ascii m.1 ∧ Ascii (m.2.laidOut level)) :
    Ascii (Json.laidOutMembers level members) := by
  induction members with
  | nil => exact List.forall_mem_nil _
  | cons m members ih =>
      obtain ⟨⟨hk, hv⟩, h⟩ := List.forall_mem_cons.1 h
      simp only [Json.laidOutMembers, Ascii, List.forall_mem_append, List.forall_mem_cons]
      exact ⟨⟨⟨⟨⟨by decide, ascii_lineBreak level⟩, ascii_stableString hk⟩, by decide⟩, hv⟩, ih h⟩

theorem ascii_laidOut_object (h : ∀ m ∈ members, Ascii m.1 ∧ Ascii (m.2.laidOut (level + 1))) :
    Ascii ((Json.object members).laidOut level) := by
  cases members with
  | nil =>
      rw [Json.laidOut]
      decide
  | cons m members =>
      obtain ⟨⟨hk, hv⟩, h⟩ := List.forall_mem_cons.1 h
      simp only [Json.laidOut, Ascii, List.forall_mem_append, List.forall_mem_cons]
      exact ⟨⟨⟨⟨⟨⟨⟨by decide, ascii_lineBreak (level + 1)⟩, ascii_stableString hk⟩, by decide⟩, hv⟩,
        ascii_laidOutMembers h⟩, ascii_lineBreak level⟩, by decide⟩

end Members

/-! ## The table -/

theorem ascii_ofList {l : List Char} (h : Ascii (Text.pointsOf l)) : Ascii (Text.points (String.ofList l)) := by
  rwa [Text.points, String.toList_ofList]

-- The table is checked on the characters of its literals, as decoding the texts takes the kernel too long.
theorem ascii_of_mem_styles : ∀ p ∈ Markup.styles, Ascii p.1 ∧ Ascii p.2 := by
  simp only [Markup.styles, List.forall_mem_cons, List.not_mem_nil, false_implies, implies_true, and_true,
    Text.points_append]
  and_intros
  all_goals repeat' with_reducible apply Ascii.append
  all_goals exact ascii_ofList (by decide +kernel)

theorem ascii_of_mem_tags : ∀ p ∈ Markup.tags, Ascii p.1.toString ∧ Ascii p.2 := by
  decide +kernel

theorem ascii_of_mem_symbols : ∀ p ∈ Markup.symbols, Ascii p.1 ∧ Ascii p.2 := by
  intro p hp
  rcases List.mem_append.1 hp with hp | hp
  · obtain ⟨q, hq, rfl⟩ := List.mem_map.1 hp
    exact ascii_of_mem_tags q hq
  · obtain ⟨q, hq, rfl⟩ := List.mem_map.1 hp
    obtain ⟨hk, hv⟩ := ascii_of_mem_styles q hq
    rw [Text.points_append]
    exact ⟨Ascii.append (by decide) hk, hv⟩

theorem ascii_laidOut_symbolTable : Ascii (symbolTable.sorted.laidOut 0) := by
  rw [symbolTable, Json.sorted]
  refine ascii_laidOut_object fun m hm => ?_
  obtain ⟨key, value⟩ := m
  obtain ⟨u, hu, rfl⟩ := Json.mem_sortByKey_sortedMembers.1 hm
  obtain ⟨symbol, hsymbol, he⟩ := List.mem_map.1 hu
  cases he
  simp only [Json.sorted, Json.laidOut]
  exact (ascii_of_mem_symbols symbol hsymbol).imp_right ascii_stableString

/-- The symbols are listed on every standard output, and nothing else is done. -/
theorem run_tokens (s : Store) (encoding : Option Charset) :
    tokens.run.run { store := s, encoding := encoding } =
      (.ok (), { store := s, encoding := encoding, stdout := symbolTable.sorted.laidOut 0 ++ [.char '\n'] }) := by
  have hw : symbolTable.Writable callLimit := Json.writable_iff.2 (by decide +kernel)
  rw [tokens, hw.stableText_eq, run_print, printFault?_ascii (ascii_laidOut_symbolTable.append (by decide))]
  rfl

end TalPage.Command
