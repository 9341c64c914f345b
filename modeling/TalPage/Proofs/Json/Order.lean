import TalPage.Proofs.Json.Members

/-!
# The order of members

What the form of a value with its members in order keeps, and what it forgets: the order, and nothing else.
-/

namespace TalPage.Json

open Text (Points)

variable {W : Points → Prop} {v w : Json} {vs ws : List Json} {ms ns ns' : List (Points × Json)} {key : Points}

/-! ## Regular values -/

mutual
/-- No float stands in a value, no object in it has a key twice, and all its texts, keys among them, are such. -/
def Regular (W : Points → Prop) : Json → Prop
  | .null => True
  | .bool _ => True
  | .int _ => True
  | .float _ => False
  | .string s => W s
  | .array elements => RegularElements W elements
  | .object members => (members.map Prod.fst).Nodup ∧ RegularMembers W members

def RegularElements (W : Points → Prop) : List Json → Prop
  | [] => True
  | value :: elements => value.Regular W ∧ RegularElements W elements

def RegularMembers (W : Points → Prop) : List (Points × Json) → Prop
  | [] => True
  | (key, value) :: members => W key ∧ value.Regular W ∧ RegularMembers W members
end

theorem regularElements_iff : RegularElements W vs ↔ ∀ v ∈ vs, v.Regular W := by
  induction vs with
  | nil => simp [RegularElements]
  | cons v vs ih => simp [RegularElements, ih]

theorem regularMembers_iff : RegularMembers W ms ↔ ∀ m ∈ ms, W m.1 ∧ m.2.Regular W := by
  induction ms with
  | nil => simp [RegularMembers]
  | cons m ms ih => simp [RegularMembers, ih, and_assoc]

/-! ## Members in order -/

theorem map_fst_sortedMembers (ms : List (Points × Json)) :
    (sortedMembers ms).map Prod.fst = ms.map Prod.fst := by
  induction ms with
  | nil => rfl
  | cons m ms ih => rw [sortedMembers, List.map_cons, List.map_cons, ih]

mutual
theorem regular_sorted : (v : Json) → v.Regular W → v.sorted.Regular W
  | .null, h => h
  | .bool _, h => h
  | .int _, h => h
  | .string _, h => h
  | .array elements, h => regularElements_sorted elements h
  | .object members, h => by
      have hp := perm_sortByKey (sortedMembers members)
      refine ⟨?_, ?_⟩
      · rw [(hp.map Prod.fst).nodup_iff, map_fst_sortedMembers]
        exact h.1
      · rw [regularMembers_iff]
        intro m hm
        exact regularMembers_iff.1 (regularMembers_sorted members h.2) m (hp.mem_iff.1 hm)

theorem regularElements_sorted : (vs : List Json) → RegularElements W vs → RegularElements W (sortedElements vs)
  | [], h => h
  | v :: vs, h => ⟨regular_sorted v h.1, regularElements_sorted vs h.2⟩

theorem regularMembers_sorted :
    (ms : List (Points × Json)) → RegularMembers W ms → RegularMembers W (sortedMembers ms)
  | [], h => h
  | (_, v) :: ms, h => ⟨h.1, regular_sorted v h.2.1, regularMembers_sorted ms h.2.2⟩
end

mutual
/-- The keys of every object in a value stand in the order of their code points, and none stands twice. -/
def Ordered : Json → Prop
  | .null => True
  | .bool _ => True
  | .int _ => True
  | .float _ => True
  | .string _ => True
  | .array elements => OrderedElements elements
  | .object members => (members.map Prod.fst).Pairwise KeyLt ∧ OrderedMembers members

def OrderedElements : List Json → Prop
  | [] => True
  | value :: elements => value.Ordered ∧ OrderedElements elements

def OrderedMembers : List (Points × Json) → Prop
  | [] => True
  | (_, value) :: members => value.Ordered ∧ OrderedMembers members
end

theorem orderedMembers_iff : OrderedMembers ms ↔ ∀ m ∈ ms, m.2.Ordered := by
  induction ms with
  | nil => simp [OrderedMembers]
  | cons m ms ih => simp [OrderedMembers, ih]

mutual
theorem ordered_sorted : (v : Json) → v.Regular W → v.sorted.Ordered
  | .null, _ => trivial
  | .bool _, _ => trivial
  | .int _, _ => trivial
  | .string _, _ => trivial
  | .array elements, h => orderedElements_sorted elements h
  | .object members, h => by
      refine ⟨pairwise_keys_sortByKey ?_, ?_⟩
      · rw [map_fst_sortedMembers]
        exact h.1
      · rw [orderedMembers_iff]
        intro m hm
        have hm := (perm_sortByKey (sortedMembers members)).mem_iff.1 hm
        exact orderedMembers_iff.1 (orderedMembers_sorted members h.2) m hm

theorem orderedElements_sorted : (vs : List Json) → RegularElements W vs → OrderedElements (sortedElements vs)
  | [], _ => trivial
  | v :: vs, h => ⟨ordered_sorted v h.1, orderedElements_sorted vs h.2⟩

theorem orderedMembers_sorted :
    (ms : List (Points × Json)) → RegularMembers W ms → OrderedMembers (sortedMembers ms)
  | [], _ => trivial
  | (_, v) :: ms, h => ⟨ordered_sorted v h.2.1, orderedMembers_sorted ms h.2.2⟩
end

/-! ## Values up to the order of members -/

mutual
/-- The values differ in nothing but the order of members in the objects in them. -/
inductive Same : Json → Json → Prop where
  | refl {v : Json} : Same v v
  | array {vs ws : List Json} (h : SameElements vs ws) : Same (.array vs) (.array ws)
  | object {ms ns : List (Points × Json)} (h : SameMembers ms ns) : Same (.object ms) (.object ns)

inductive SameElements : List Json → List Json → Prop where
  | nil : SameElements [] []
  | cons {v w : Json} {vs ws : List Json} (h : Same v w) (hs : SameElements vs ws) :
      SameElements (v :: vs) (w :: ws)

/-- Every member stands somewhere among the others, with the same value. -/
inductive SameMembers : List (Points × Json) → List (Points × Json) → Prop where
  | nil : SameMembers [] []
  | cons {key : Points} {v w : Json} {ms l r : List (Points × Json)} (h : Same v w)
      (hs : SameMembers ms (l ++ r)) : SameMembers ((key, v) :: ms) (l ++ (key, w) :: r)
end

theorem SameMembers.perm (h : SameMembers ms ns) (hp : ns.Perm ns') : SameMembers ms ns' := by
  induction ms generalizing ns ns' with
  | nil =>
      cases h
      rw [List.nil_perm.1 hp]
      exact .nil
  | cons m ms ih =>
      cases h with
      | @cons key v w _ l r h hs =>
          obtain ⟨l', r', rfl⟩ := List.append_of_mem (hp.mem_iff.1 (List.mem_append_right l List.mem_cons_self))
          have hp := (List.perm_middle.symm.trans (hp.trans List.perm_middle)).cons_inv
          exact .cons h (ih hs hp)

mutual
theorem same_sorted : (v : Json) → Same v v.sorted
  | .null => .refl
  | .bool _ => .refl
  | .int _ => .refl
  | .float _ => .refl
  | .string _ => .refl
  | .array elements => .array (sameElements_sorted elements)
  | .object members => .object ((sameMembers_sorted members).perm (perm_sortByKey _).symm)

theorem sameElements_sorted : (vs : List Json) → SameElements vs (sortedElements vs)
  | [] => .nil
  | v :: vs => .cons (same_sorted v) (sameElements_sorted vs)

theorem sameMembers_sorted : (ms : List (Points × Json)) → SameMembers ms (sortedMembers ms)
  | [] => .nil
  | (_, v) :: ms => .cons (l := []) (same_sorted v) (sameMembers_sorted ms)
end

theorem sortedMembers_append (ms ns : List (Points × Json)) :
    sortedMembers (ms ++ ns) = sortedMembers ms ++ sortedMembers ns := by
  induction ms with
  | nil => rfl
  | cons m ms ih => rw [List.cons_append, sortedMembers, sortedMembers, ih, List.cons_append]

mutual
theorem Same.sorted_eq : {v w : Json} → Same v w → v.Regular W → v.sorted = w.sorted
  | _, _, .refl, _ => rfl
  | .array _, .array _, .array hs, h => congrArg Json.array (hs.sorted_eq h)
  | .object ms, .object ns, .object hs, h => by
      have hn : ((sortedMembers ms).map Prod.fst).Nodup := map_fst_sortedMembers ms ▸ h.1
      exact congrArg Json.object ((sortByKey_eq_iff hn).2 (hs.sorted_perm h.2))

theorem SameElements.sorted_eq : {vs ws : List Json} → SameElements vs ws → RegularElements W vs →
    sortedElements vs = sortedElements ws
  | _, _, .nil, _ => rfl
  | _, _, .cons h hs, hr => congrArg₂ List.cons (h.sorted_eq hr.1) (hs.sorted_eq hr.2)

theorem SameMembers.sorted_perm : {ms ns : List (Points × Json)} → SameMembers ms ns →
    RegularMembers W ms → (sortedMembers ms).Perm (sortedMembers ns)
  | _, _, .nil, _ => .nil
  | _, _, .cons (l := l) (r := r) h hs, hr => by
      have hp := hs.sorted_perm hr.2.2
      rw [sortedMembers_append] at hp ⊢
      rw [sortedMembers, sortedMembers, h.sorted_eq hr.2.1]
      exact (hp.cons _).trans List.perm_middle.symm
end

theorem exists_of_mem_sortedMembers (h : (key, v) ∈ sortedMembers ns) :
    ∃ l w r, ns = l ++ (key, w) :: r ∧ v = w.sorted := by
  induction ns with
  | nil => cases h
  | cons n ns ih =>
      obtain ⟨key', w⟩ := n
      rcases List.mem_cons.1 h with h | h
      · cases h
        exact ⟨[], w, ns, rfl, rfl⟩
      · obtain ⟨l, w', r, rfl, hw⟩ := ih h
        exact ⟨(key', w) :: l, w', r, rfl, hw⟩

mutual
theorem same_of_sorted_eq : (v w : Json) → v.sorted = w.sorted → Same v w
  | .null, w, h => by
      cases w <;> simp only [sorted, reduceCtorEq] at h
      exact .refl
  | .bool b, w, h => by
      cases w <;> simp only [sorted, reduceCtorEq, bool.injEq] at h
      exact h ▸ .refl
  | .int n, w, h => by
      cases w <;> simp only [sorted, reduceCtorEq, int.injEq] at h
      exact h ▸ .refl
  | .float x, w, h => by
      cases w <;> simp only [sorted, reduceCtorEq, float.injEq] at h
      exact h ▸ .refl
  | .string s, w, h => by
      cases w <;> simp only [sorted, reduceCtorEq, string.injEq] at h
      exact h ▸ .refl
  | .array vs, w, h => by
      cases w <;> simp only [sorted, reduceCtorEq, array.injEq] at h
      exact .array (sameElements_of_sorted_eq vs _ h)
  | .object ms, w, h => by
      cases w <;> simp only [sorted, reduceCtorEq, object.injEq] at h
      exact .object (sameMembers_of_perm ms _ ((perm_sortByKey _).symm.trans (h ▸ perm_sortByKey _)))

theorem sameElements_of_sorted_eq :
    (vs ws : List Json) → sortedElements vs = sortedElements ws → SameElements vs ws
  | [], [], _ => .nil
  | v :: vs, w :: ws, h => by
      obtain ⟨hv, hs⟩ := List.cons.inj h
      exact .cons (same_of_sorted_eq v w hv) (sameElements_of_sorted_eq vs ws hs)

theorem sameMembers_of_perm :
    (ms ns : List (Points × Json)) → (sortedMembers ms).Perm (sortedMembers ns) → SameMembers ms ns
  | [], [], _ => .nil
  | [], _ :: _, h => nomatch h.nil_eq
  | (key, v) :: ms, ns, h => by
      obtain ⟨l, w, r, rfl, hw⟩ := exists_of_mem_sortedMembers (h.mem_iff.1 List.mem_cons_self)
      rw [sortedMembers_append, sortedMembers, sortedMembers, hw] at h
      have hp := (h.trans List.perm_middle).cons_inv
      rw [← sortedMembers_append] at hp
      exact .cons (same_of_sorted_eq v w hw) (sameMembers_of_perm ms (l ++ r) hp)
end

/-- The form with sorted members is that of all values that differ in nothing but the order of members. -/
theorem sorted_eq_iff (hv : v.Regular W) : v.sorted = w.sorted ↔ Same v w :=
  ⟨same_of_sorted_eq v w, fun h => h.sorted_eq hv⟩

end TalPage.Json
