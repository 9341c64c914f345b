import TalPage.Proofs.File.Writing

/-!
# Round trips

What has been written is read back, with a line feed for every line end, as long as nothing else is written in
its place; and what is read can be written and read again.
-/

namespace TalPage.Text

variable {charset : Charset} {cs : List Char} {c : Char}

/-! ## Line ends -/

/-- A line feed for every carriage return that has one after it. -/
def joinReturns : List Char → List Char
  | '\r' :: '\n' :: cs => '\n' :: joinReturns cs
  | c :: cs => c :: joinReturns cs
  | [] => []

/-- The text with a line feed for each carriage return and line feed, and then for each carriage return that is
left. -/
def withLineFeeds (text : String) : String :=
  String.ofList ((joinReturns text.toList).map fun c => if c = '\r' then '\n' else c)

theorem unifyNewlines_eq (cs : List Char) :
    unifyNewlines cs = (joinReturns cs).map fun c => if c = '\r' then '\n' else c := by
  fun_induction unifyNewlines cs with
  | case1 => rfl
  | case2 cs ih => simp [joinReturns, ih]
  | case3 cs hn ih =>
      have hj : joinReturns ('\r' :: cs) = '\r' :: joinReturns cs := joinReturns.eq_2 _ _ fun cs' _ => hn cs'
      rw [hj, List.map_cons, if_pos rfl, ih]
  | case4 c cs hn hc ih =>
      rw [joinReturns.eq_2 c cs hn, List.map_cons, if_neg hc, ih]

theorem withLineFeeds_eq (text : String) : withLineFeeds text = String.ofList (unifyNewlines text.toList) := by
  rw [withLineFeeds, unifyNewlines_eq]

theorem toList_withLineFeeds (text : String) : (withLineFeeds text).toList = unifyNewlines text.toList := by
  rw [withLineFeeds_eq, String.toList_ofList]

theorem unifyNewlines_withLineFeeds (text : String) :
    unifyNewlines (withLineFeeds text).toList = (withLineFeeds text).toList := by
  rw [toList_withLineFeeds]
  exact unifyNewlines_eq_self (not_mem_unifyNewlines _)

theorem mem_of_mem_unifyNewlines (h : c ∈ unifyNewlines cs) : c ∈ cs ∨ c = '\n' := by
  fun_induction unifyNewlines cs with
  | case1 => cases h
  | case2 => grind
  | case3 => grind
  | case4 => grind

/-- A text with unified line ends has bytes wherever the text has. -/
theorem Charset.Fits.withLineFeeds {text : String} (h : charset.Fits text.toList) :
    charset.Fits (withLineFeeds text).toList := by
  intro c hc
  rw [toList_withLineFeeds] at hc
  rcases mem_of_mem_unifyNewlines hc with hc | rfl
  · exact h c hc
  · cases charset <;> decide

end TalPage.Text

namespace TalPage.File.Store

open Text (Points withLineFeeds)

variable {s s' s'' : Store} {l : Location} {p : Path} {text : Points} {charset : Text.Charset}
  {bytes : Text.Bytes}

/-! ## Writing elsewhere -/

/-- Texts have been written one after the other, none of them at a location. -/
inductive WritesApart (l : Location) : Store → Store → Prop where
  | none {s : Store} : WritesApart l s s
  | more {s s' s'' : Store} {p : Path} {text : Points} {charset : Text.Charset} (h : WritesApart l s s')
      (hw : s'.writeText p text charset = (.ok (), s'')) (hl : s''.locate p ≠ .ok l) : WritesApart l s s''

theorem keptAt_of_writeText (hw : s.writeText p text charset = (.ok (), s')) (hl : s'.locate p ≠ .ok l) :
    Extends s s' ∧ KeptAt s s' l := by
  obtain ⟨k, bytes, -, hk⟩ := exists_written_of_writeText hw
  refine ⟨hk.extends, hk.kept l ?_⟩
  rintro rfl
  exact hl hk.locate

theorem WritesApart.keptAt (h : WritesApart l s s') : Extends s s' ∧ KeptAt s s' l := by
  induction h with
  | none => exact ⟨(Grown.refl _).extends, .inl rfl⟩
  | more _ hw hl ih =>
      obtain ⟨hx, hk⟩ := keptAt_of_writeText hw hl
      exact ⟨ih.1.trans hx, ih.2.trans hk⟩

/-! ## Reading back -/

/-- The files of two stores are the same but for the one at a location. -/
def SameFilesBut (l : Location) (s s' : Store) : Prop :=
  ∀ k bytes, k ≠ l → (s'.get? k = some (.file bytes) ↔ s.get? k = some (.file bytes))

theorem Written.sameFilesBut (h : Written s s' p l bytes) : SameFilesBut l s s' :=
  fun k _ hk => (h.kept k hk).file

/-- A text that has been written is one of characters. It is read back with its line ends unified, whatever is
written to other files in between; and what is read can be written in its place and is read again. -/
theorem readText_of_writes (hw : s.writeText p text charset = (.ok (), s')) :
    ∃ l t, text = Text.points t ∧ s'.locate p = .ok l ∧ SameFilesBut l s s' ∧
      ('\r' ∉ t.toList → withLineFeeds t = t) ∧
      ∀ s'', WritesApart l s' s'' → s''.readText p charset = .ok (withLineFeeds t) ∧
        ∃ s₃, s''.writeText p (withLineFeeds t) charset = (.ok (), s₃) ∧ SameFilesBut l s'' s₃ ∧
          s₃.readText p charset = .ok (withLineFeeds t) := by
  obtain ⟨l, bytes, he, hl⟩ := exists_written_of_writeText hw
  obtain ⟨cs, rfl, hcs, -⟩ := Text.encode_eq_ok_iff.1 he
  obtain ⟨ds, hds, hd⟩ := Text.decode_of_encode he
  rw [← Text.pointsOf_inj.1 hds] at hd
  refine ⟨l, String.ofList cs, by rw [Text.points, String.toList_ofList], hl.locate, hl.sameFilesBut,
    fun hr => ?_, fun s'' ha => ?_⟩
  · rw [Text.withLineFeeds_eq, Text.unifyNewlines_eq_self hr, String.ofList_toList]
  · obtain ⟨hx, hk⟩ := ha.keptAt
    have hnd : s''.get? l ≠ some .directory := by
      rw [hk.file.2 hl.file]
      simp
    have hf : charset.Fits (withLineFeeds (String.ofList cs)).toList :=
      Text.Charset.Fits.withLineFeeds (by rwa [String.toList_ofList])
    have hb := Text.encode_eq_ok_iff.2 ⟨_, rfl, hf, rfl⟩
    have hw' := writeText_of_extends hw hx hl.locate hnd hb
    obtain ⟨k, bytes', hb', hl'⟩ := exists_written_of_writeText hw'
    have hkl : k = l :=
      Except.ok.inj (hl'.locate.symm.trans ((extends_put hnd).locate (hx.locate hl.locate)))
    subst hkl
    refine ⟨?_, _, hw', hl'.sameFilesBut, ?_⟩
    · rw [Text.withLineFeeds_eq, String.toList_ofList]
      refine readText_of_keptAt (hl.readText hd) hx fun k' hk' => ?_
      rw [hl.locate] at hk'
      exact Except.ok.inj hk' ▸ hk
    · obtain ⟨ds, hds, hd'⟩ := Text.decode_of_encode hb'
      have hr := hl'.readText hd'
      rwa [← Text.pointsOf_inj.1 hds, Text.unifyNewlines_withLineFeeds, String.ofList_toList] at hr

/-- A text with each kind of line end, in Latin-1 in a new directory, is read back after a write beside it. -/
theorem readText_of_writes_mixedLines :
    ∃ s' s'', writeText {} (.ofText "out/x.txt") "é\r\nb\rc\n" .latin1 = (.ok (), s') ∧
      s'.writeText (.ofText "out/y.txt") "é" .utf8 = (.ok (), s'') ∧
      s''.readText (.ofText "out/x.txt") .latin1 = .ok "é\nb\nc\n" := by
  let s' : Store :=
    { entries := [([nameBytes "out", nameBytes "x.txt"], .file [0xE9, 13, 10, 98, 13, 99, 10]),
        ([nameBytes "out"], .directory)] }
  let s'' : Store := s'.put [nameBytes "out", nameBytes "y.txt"] (.file [0xC3, 0xA9])
  have hw : writeText {} (.ofText "out/x.txt") "é\r\nb\rc\n" .latin1 = (.ok (), s') := by
    decide +kernel
  have hw' : s'.writeText (.ofText "out/y.txt") "é" .utf8 = (.ok (), s'') := by
    decide +kernel
  obtain ⟨l, t, ht, hl, -, -, hr⟩ := readText_of_writes hw
  obtain rfl := Text.points_inj.1 ht
  have hl' : s'.locate (.ofText "out/x.txt") = .ok [nameBytes "out", nameBytes "x.txt"] := by
    decide +kernel
  cases hl'.symm.trans hl
  have ha : WritesApart [nameBytes "out", nameBytes "x.txt"] s' s'' := .more .none hw' (by decide +kernel)
  have hf : withLineFeeds "é\r\nb\rc\n" = "é\nb\nc\n" := by
    decide +kernel
  exact ⟨s', s'', hw, hw', hf ▸ (hr s'' ha).1⟩

end TalPage.File.Store
