import TalPage.Json.Stable
import TalPage.Proofs.Json.Order

/-!
# Values that have a text

A value is written unless a whole number in it has too many digits, or something in it stands too deep. Whether
it is does not depend on the order of members.
-/

namespace TalPage.Json

open Text (Points)

/-- One value stands inside another, within so many arrays and objects of it. -/
inductive Inside : Nat → Json → Json → Prop
  | self (v : Json) : Inside 0 v v
  | element {k w v vs} (h : Inside k w v) (hv : v ∈ vs) : Inside (k + 1) w (.array vs)
  | member {k w v key ms} (h : Inside k w v) (hm : (key, v) ∈ ms) : Inside (k + 1) w (.object ms)

/-- What a fault says of a value: a whole number in it has more digits than are written, or something in it
stands within more arrays and objects than there is room for. -/
def DumpFault.Holds (room : Nat) (v : Json) : DumpFault → Prop
  | .tooManyDigits => ∃ k n, Inside k (.int n) v ∧ Numeric.digitLimit < (Nat.toDigits 10 n.natAbs).length
  | .tooDeep => ∃ k w, Inside k w v ∧ room < k

/-- Nothing keeps the value from being written. -/
def Writable (room : Nat) (v : Json) : Prop :=
  ∀ fault : DumpFault, ¬ fault.Holds room v

variable {room k : Nat} {v w : Json} {vs : List Json} {ms : List (Points × Json)} {fault : DumpFault}

/-! ## Faults -/

theorem isWritable_iff {n : Int} :
    Numeric.isWritable n = true ↔ ¬ Numeric.digitLimit < (Nat.toDigits 10 n.natAbs).length := by
  have hl : 0 < Numeric.digitLimit := by
    decide
  unfold Numeric.isWritable
  -- As a variable, the limit does not make anyone work out the power.
  generalize Numeric.digitLimit = limit at hl
  rw [Nat.not_lt, Nat.length_toDigits_le_iff (by decide) hl]
  exact decide_eq_true_iff

theorem DumpFault.Holds.element (h : fault.Holds room v) (hv : v ∈ vs) :
    fault.Holds (room + 1) (.array vs) := by
  cases fault with
  | tooManyDigits =>
      obtain ⟨k, n, hn, hl⟩ := h
      exact ⟨k + 1, n, hn.element hv, hl⟩
  | tooDeep =>
      obtain ⟨k, w, hw, hk⟩ := h
      exact ⟨k + 1, w, hw.element hv, Nat.succ_lt_succ hk⟩

theorem DumpFault.Holds.member {key : Points} (h : fault.Holds room v) (hm : (key, v) ∈ ms) :
    fault.Holds (room + 1) (.object ms) := by
  cases fault with
  | tooManyDigits =>
      obtain ⟨k, n, hn, hl⟩ := h
      exact ⟨k + 1, n, hn.member hm, hl⟩
  | tooDeep =>
      obtain ⟨k, w, hw, hk⟩ := h
      exact ⟨k + 1, w, hw.member hm, Nat.succ_lt_succ hk⟩

theorem holds_of_fault?_int {n : Int} (h : (Json.int n).fault? room = some fault) :
    fault.Holds room (.int n) := by
  rw [fault?] at h
  split at h
  · cases h
  · next hn =>
      cases h
      exact ⟨0, n, .self _, Decidable.not_not.1 (mt isWritable_iff.2 hn)⟩

mutual
theorem holds_of_fault? (room : Nat) : (v : Json) → v.fault? room = some fault → fault.Holds room v
  | .null => nofun
  | .bool _ => nofun
  | .float _ => nofun
  | .string _ => nofun
  | .int _ => holds_of_fault?_int
  | .array [] => nofun
  | .array (v :: vs) => by
      intro h
      cases room with
      | zero =>
          cases h
          exact ⟨1, v, (Inside.self v).element List.mem_cons_self, Nat.zero_lt_one⟩
      | succ room =>
          obtain ⟨w, hw, hf⟩ := exists_of_elementsFault? room (v :: vs) h
          exact hf.element hw
  | .object [] => nofun
  | .object ((key, v) :: ms) => by
      intro h
      cases room with
      | zero =>
          cases h
          exact ⟨1, v, (Inside.self v).member List.mem_cons_self, Nat.zero_lt_one⟩
      | succ room =>
          obtain ⟨m, hm, hf⟩ := exists_of_membersFault? room ((key, v) :: ms) h
          exact hf.member hm

theorem exists_of_elementsFault? (room : Nat) :
    (vs : List Json) → elementsFault? room vs = some fault → ∃ v ∈ vs, fault.Holds room v
  | [], h => nomatch h
  | v :: vs, h => by
      rcases Option.or_eq_some_iff.1 h with h | ⟨-, h⟩
      · exact ⟨v, List.mem_cons_self, holds_of_fault? room v h⟩
      · obtain ⟨w, hw, hf⟩ := exists_of_elementsFault? room vs h
        exact ⟨w, List.mem_cons_of_mem _ hw, hf⟩

theorem exists_of_membersFault? (room : Nat) :
    (ms : List (Points × Json)) → membersFault? room ms = some fault → ∃ m ∈ ms, fault.Holds room m.2
  | [], h => nomatch h
  | (key, v) :: ms, h => by
      rcases Option.or_eq_some_iff.1 h with h | ⟨-, h⟩
      · exact ⟨(key, v), List.mem_cons_self, holds_of_fault? room v h⟩
      · obtain ⟨m, hm, hf⟩ := exists_of_membersFault? room ms h
        exact ⟨m, List.mem_cons_of_mem _ hm, hf⟩
end

theorem elementsFault?_eq_none (h : elementsFault? room vs = none) (hv : v ∈ vs) : v.fault? room = none := by
  induction vs with
  | nil => cases hv
  | cons u vs ih =>
      obtain ⟨hu, hs⟩ := Option.or_eq_none_iff.1 h
      rcases List.mem_cons.1 hv with rfl | hv
      · exact hu
      · exact ih hs hv

theorem membersFault?_eq_none {key : Points} (h : membersFault? room ms = none) (hm : (key, v) ∈ ms) :
    v.fault? room = none := by
  induction ms with
  | nil => cases hm
  | cons m ms ih =>
      obtain ⟨hu, hs⟩ := Option.or_eq_none_iff.1 h
      rcases List.mem_cons.1 hm with rfl | hm
      · exact hu
      · exact ih hs hm

/-- Where nothing is wrong, there is room for all that stands inside, and nothing is wrong with it. -/
theorem Inside.fault?_eq_none (h : Inside k w v) (hv : v.fault? room = none) :
    k ≤ room ∧ w.fault? (room - k) = none := by
  induction h generalizing room with
  | self v => exact ⟨Nat.zero_le _, hv⟩
  | @element k w v vs h hm ih =>
      cases vs with
      | nil => cases hm
      | cons u vs =>
          cases room with
          | zero => cases hv
          | succ room =>
              have hall : elementsFault? room (u :: vs) = none := hv
              obtain ⟨hk, hw⟩ := ih (elementsFault?_eq_none hall hm)
              exact ⟨Nat.succ_le_succ hk, by rwa [Nat.add_sub_add_right]⟩
  | @member k w v key ms h hm ih =>
      cases ms with
      | nil => cases hm
      | cons m ms =>
          cases room with
          | zero => cases hv
          | succ room =>
              have hall : membersFault? room (m :: ms) = none := hv
              obtain ⟨hk, hw⟩ := ih (membersFault?_eq_none hall hm)
              exact ⟨Nat.succ_le_succ hk, by rwa [Nat.add_sub_add_right]⟩

theorem writable_iff : v.Writable room ↔ v.fault? room = none := by
  constructor
  · intro hw
    cases h : v.fault? room with
    | none => rfl
    | some fault => exact absurd (holds_of_fault? room v h) (hw fault)
  · rintro h (_ | _) hf
    · obtain ⟨k, n, hi, hn⟩ := hf
      have hw := (hi.fault?_eq_none h).2
      rw [fault?, if_neg fun hc => isWritable_iff.1 hc hn] at hw
      cases hw
    · obtain ⟨k, w, hi, hk⟩ := hf
      exact Nat.not_le.2 hk (hi.fault?_eq_none h).1

/-! ## Members in order -/

theorem sortedElements_eq_map (vs : List Json) : sortedElements vs = vs.map sorted := by
  induction vs with
  | nil => rfl
  | cons v vs ih => rw [sortedElements, ih, List.map_cons]

theorem mem_sortByKey_sortedMembers {key : Points} :
    (key, v) ∈ sortByKey (sortedMembers ms) ↔ ∃ u, (key, u) ∈ ms ∧ v = u.sorted := by
  rw [(perm_sortByKey _).mem_iff]
  induction ms with
  | nil => simp [sortedMembers]
  | cons m ms ih =>
      obtain ⟨key', u⟩ := m
      simp only [sortedMembers, List.mem_cons, Prod.mk.injEq, ih, or_and_right, exists_or, and_assoc,
        exists_and_left, exists_eq_left]

theorem Inside.sorted (h : Inside k w v) : Inside k w.sorted v.sorted := by
  induction h with
  | self v => exact .self _
  | element h hv ih => exact ih.element (by rw [sortedElements_eq_map]; exact List.mem_map_of_mem hv)
  | member h hm ih => exact ih.member (mem_sortByKey_sortedMembers.2 ⟨_, hm, rfl⟩)

theorem Inside.exists_of_sorted (h : Inside k w v.sorted) : ∃ u, Inside k u v ∧ w = u.sorted := by
  generalize hs : v.sorted = s at h
  induction h generalizing v with
  | self s => exact ⟨v, .self v, hs.symm⟩
  | element h hm ih =>
      cases v <;> simp only [Json.sorted, reduceCtorEq, array.injEq] at hs
      rw [← hs, sortedElements_eq_map] at hm
      obtain ⟨u, hu, rfl⟩ := List.mem_map.1 hm
      obtain ⟨x, hx, he⟩ := ih rfl
      exact ⟨x, hx.element hu, he⟩
  | member h hm ih =>
      cases v <;> simp only [Json.sorted, reduceCtorEq, object.injEq] at hs
      rw [← hs] at hm
      obtain ⟨u, hu, rfl⟩ := mem_sortByKey_sortedMembers.1 hm
      obtain ⟨x, hx, he⟩ := ih rfl
      exact ⟨x, hx.member hu, he⟩

/-- The order of members does not change what is wrong with a value. -/
theorem DumpFault.holds_sorted_iff : fault.Holds room v.sorted ↔ fault.Holds room v := by
  cases fault with
  | tooManyDigits =>
      constructor
      · rintro ⟨k, n, hi, hn⟩
        obtain ⟨u, hu, he⟩ := hi.exists_of_sorted
        cases u <;> simp only [Json.sorted, reduceCtorEq, int.injEq] at he
        exact ⟨k, n, he ▸ hu, hn⟩
      · rintro ⟨k, n, hi, hn⟩
        exact ⟨k, n, hi.sorted, hn⟩
  | tooDeep =>
      constructor
      · rintro ⟨k, w, hi, hk⟩
        obtain ⟨u, hu, -⟩ := hi.exists_of_sorted
        exact ⟨k, u, hu, hk⟩
      · rintro ⟨k, w, hi, hk⟩
        exact ⟨k, w.sorted, hi.sorted, hk⟩

/-! ## Texts -/

/-- A value without a text has a fault. -/
theorem holds_of_stableText (h : v.stableText room = .error fault) : fault.Holds room v := by
  unfold stableText at h
  split at h
  · next hf =>
      cases h
      exact DumpFault.holds_sorted_iff.1 (holds_of_fault? room _ hf)
  · cases h

/-- A value without a fault has a text. -/
theorem Writable.stableText_eq (h : v.Writable room) :
    v.stableText room = .ok (laidOut 0 v.sorted ++ [.char '\n']) := by
  have hs : v.sorted.Writable room := fun fault hf => h fault (DumpFault.holds_sorted_iff.1 hf)
  rw [stableText, writable_iff.1 hs]

theorem laidOut_of_stableText {text : Points} (h : v.stableText room = .ok text) :
    laidOut 0 v.sorted ++ [.char '\n'] = text := by
  unfold stableText at h
  split at h
  · cases h
  · exact Except.ok.inj h

theorem exists_stableText_eq_error (h : ¬ v.Writable room) :
    ∃ fault, v.stableText room = .error fault ∧ fault.Holds room v := by
  cases ht : v.stableText room with
  | error fault => exact ⟨fault, rfl, holds_of_stableText ht⟩
  | ok text =>
      refine absurd (fun fault hf => ?_) h
      unfold stableText at ht
      split at ht
      · cases ht
      · next hn => exact writable_iff.2 hn fault (DumpFault.holds_sorted_iff.2 hf)

end TalPage.Json
