import TalPage.Markup.Cursor
import TalPage.Proofs.Markup.Written

/-!
# Reading by descent

The grammar as a descent: a list of children hands each of its items to a reader of nodes, and a node
hands its list to the reader of the next level. The list skips the blanks of a table by itself. It need
not: a reader of nodes passes over a blank as over any other character that starts no node, and that
at any depth, since only a node is refused. So the descent comes to what the loop over the open elements
comes to, whatever blanks are in the table.
-/

namespace TalPage.Markup

/-! ## Readers -/

/-- A reader of the items of a list, each a node or a character that starts none. It takes at least one
character from a text that has one. -/
structure ItemReader where
  read : List Char → Except Fault (Option String × List Char)
  length_le : ∀ {c s html rest}, read (c :: s) = .ok (html, rest) → rest.length ≤ s.length

/-- Reads the items of an open element until its list closes. A blank of the table is skipped, and every
other character but the closing bracket goes to the reader of items. -/
def readList (blank : Char → Bool) (strict : Bool) (item : ItemReader) (o : Open) :
    List Char → Outcome
  | [] => if strict then .error ⟨.openChildren, o.place, []⟩ else .ok (o.element, [])
  | c :: s =>
    if c = ']' then .ok (o.element, s)
    else if blank c then readList blank strict item o s
    else
      match h : item.read (c :: s) with
      | .error fault => .error fault
      | .ok (html, rest) =>
        have := item.length_le h
        readList blank strict item (o.addAll html.toList) rest
termination_by s => s.length
decreasing_by all_goals (simp only [List.length_cons]; omega)

/-- Reads one node at `depth`, and its list with the reader of items, which there is within the limit
only. A character that starts no node is passed over before the depth is looked at. -/
def readNodeWith (blank : Char → Bool) (rules : Rules) (depth : Int)
    (items : depth ≤ rules.maxDepth → ItemReader) :
    List Char → Except Fault (Option String × List Char)
  | [] => .ok (none, [])
  | c :: s =>
    if !startsNode c then .ok (none, s)
    else if hd : rules.maxDepth < depth then .error ⟨.tooDeep rules.maxDepth, c :: s, c :: s⟩
    else
      match readHead rules (c :: s) with
      | (_, .error fault) => .error fault
      | (head, .ok rest) =>
        match afterBracket? rest with
        | none => .ok (some head.html, rest)
        | some rest' =>
          (readList blank rules.strict (items (Int.not_lt.1 hd)) ⟨head, rest⟩ rest').map
            fun (e, rest) => (some e.html, rest)

variable {blank : Char → Bool} {rules : Rules} {strict : Bool} {depth : Int} {item : ItemReader}

theorem length_readList_le {o : Open} {s rest : List Char} {e : Element}
    (h : readList blank strict item o s = .ok (e, rest)) : rest.length ≤ s.length := by
  fun_induction readList blank strict item o s with
  | case1 => cases h
  | case2 => cases h; simp
  | case3 o s => cases h; simp
  | case4 o c s hc hb ih => exact Nat.le_succ_of_le (ih h)
  | case5 => cases h
  | case6 o c s hc hb html rest' hr hle ih => exact Nat.le_succ_of_le (Nat.le_trans (ih h) hle)

theorem length_readNodeWith_le {items : depth ≤ rules.maxDepth → ItemReader} {c : Char}
    {s rest : List Char} {html : Option String}
    (h : readNodeWith blank rules depth items (c :: s) = .ok (html, rest)) :
    rest.length ≤ s.length := by
  simp only [readNodeWith] at h
  split at h
  · cases h
    exact Nat.le_refl _
  rename_i hn
  split at h
  · cases h
  split at h
  · cases h
  rename_i head after hh
  split at h
  · rename_i hb
    cases h
    exact Nat.le_of_lt_succ (length_readHead_lt (by simpa using hn) (congrArg Prod.snd hh) hb)
  · rename_i inside hb
    have hi : inside.length < (c :: s).length := length_of_afterBracket? (congrArg Prod.snd hh) hb
    generalize hl : readList _ _ _ _ _ = out at h
    cases out with
    | error fault => cases h
    | ok result =>
        cases h
        exact (length_readList_le hl).trans (Nat.le_of_lt_succ hi)

def nodeReader (blank : Char → Bool) (rules : Rules) (depth : Int)
    (items : depth ≤ rules.maxDepth → ItemReader) : ItemReader where
  read := readNodeWith blank rules depth items
  length_le := length_readNodeWith_le

/-- The reader of nodes at `depth` whose lists read their items one level deeper, down to the limit. -/
def descent (blank : Char → Bool) (rules : Rules) (depth : Int) : ItemReader :=
  nodeReader blank rules depth fun _ => descent blank rules (depth + 1)
termination_by (rules.maxDepth + 1 - depth).toNat
decreasing_by omega

/-- Reads one item with a reader, from a cursor. -/
def Cursor.readItem (item : ItemReader) (c : Cursor) : Except Report (Option String) × Cursor :=
  match item.read c.rest with
  | .ok (html, rest) => (.ok html, c.withRest rest)
  | .error fault => (.error (fault.report c.source), c.withRest fault.rest)

/-- The HTML of the root element of `source`, read by descent. -/
def parseByDescent (blank : Char → Bool) (rules : Rules) (source : String) : Except Fault String :=
  match findRoot source.toList with
  | [] => .error ⟨.noRoot, [], []⟩
  | c :: root => ((descent blank rules 1).read (c :: root)).map fun (html, _) => html.getD ""

/-! ## Lists inside an element -/

variable {st st' : State} {out out' : Outcome} {parent : Open}

/-- The state with one more open element around all the others. -/
def State.under (parent : Open) (st : State) : State :=
  { st with outer := st.outer ++ [parent] }

theorem Fits.under {outer : List Open} {levels : Nat} (hf : Fits rules (depth + 1) outer levels)
    (hd : rules.maxDepth < depth + openLimit) (parent : Open) :
    Fits rules depth (outer ++ [parent]) levels := by
  obtain ⟨hl, -⟩ := hf
  constructor <;> simp only [List.length_append, List.length_singleton] <;> omega

theorem Step.under (h : Step rules (depth + 1) st st') (hd : rules.maxDepth < depth + openLimit)
    (parent : Open) : Step rules depth (st.under parent) (st'.under parent) := by
  cases h with
  | skip hb hn => exact .skip hb hn
  | close => exact .close
  | leaf hn hf hl hc hb => exact .leaf hn (hf.under hd parent) hl hc hb
  | branch hn hf hl => exact .branch hn (hf.under hd parent) hl

/-- What comes of a reading inside an open element: its fault is the fault of the whole, and after
its result the list of the element goes on, with `next` as the element then is. -/
inductive GoesOn {α : Type} (rules : Rules) (depth : Int) (next : α → Open) :
    Except Fault (α × List Char) → Outcome → Prop where
  | fault (fault) : GoesOn rules depth next (.error fault) (.error fault)
  | after {a rest out} (hr : Reads rules depth ⟨next a, [], rest⟩ out) :
      GoesOn rules depth next (.ok (a, rest)) out

theorem Reads.close_all (hs : rules.strict = false) {top : Open} {outer : List Open}
    (hr : Reads rules depth ⟨parent.add (closeAll top outer), [], []⟩ out) :
    Reads rules depth ⟨top, outer ++ [parent], []⟩ out := by
  induction outer generalizing top with
  | nil => exact Reads.close_at_end hs hr
  | cons o outer ih => exact Reads.close_at_end hs (ih hr)

theorem Stops.under (h : Stops rules (depth + 1) st out) (hd : rules.maxDepth < depth + openLimit)
    (ho : GoesOn rules depth parent.add out out') : Reads rules depth (st.under parent) out' := by
  cases h with
  | closed =>
      cases ho with
      | after hr => exact .step .close hr
  | truncated hs =>
      cases ho with
      | after hr => exact Reads.close_all hs hr
  | openChildren hs =>
      cases ho
      exact .stop (.openChildren hs)
  | tooDeep hn hl =>
      cases ho
      refine .stop (.tooDeep hn ?_)
      simp only [List.length_append, List.length_singleton]
      omega
  | exhausted hn hl he => omega
  | openContent hn hf hl hs hc =>
      cases ho
      exact .stop (.openContent hn (hf.under hd parent) hl hs hc)

/-- A list is read inside an open element in the steps it takes by itself. -/
theorem Reads.under (hr : Reads rules (depth + 1) st out) (hd : rules.maxDepth < depth + openLimit)
    (ho : GoesOn rules depth parent.add out out') : Reads rules depth (st.under parent) out' := by
  induction hr with
  | stop h => exact h.under hd ho
  | step h _ ih => exact .step (h.under hd parent) (ih ho)

/-! ## The descent and the loop -/

/-- The characters of the table start no node. -/
def StartsNone (blank : Char → Bool) : Prop :=
  ∀ c, blank c = true → startsNode c = false

theorem startsNone_isBlank : StartsNone Text.isBlank :=
  fun _ => startsNode_eq_false_of_isBlank

/-- A list reads an item as it is read one level deeper, and goes on with what the item adds. -/
theorem NodeReads.reads_item {o : Open} {c : Char} {s : List Char}
    {result : Except Fault (Option String × List Char)}
    (h : NodeReads rules (depth + 1) (c :: s) result) (hd : rules.maxDepth < depth + openLimit)
    (hc : c ≠ ']') (ho : GoesOn rules depth (fun html => o.addAll html.toList) result out) :
    Reads rules depth ⟨o, [], c :: s⟩ out := by
  have hfits (hl : depth + 1 ≤ rules.maxDepth) : Fits rules depth [] 1 := by
    constructor <;> simp only [List.length_nil] <;> omega
  cases h with
  | skip hn =>
      cases ho with
      | after hr => exact .step (.skip hc hn) (by simpa using hr)
  | tooDeep hn hl =>
      cases ho
      exact .stop (.tooDeep hn (by simpa using hl))
  | openContent hn hl hh hs ho' =>
      cases ho
      exact .stop (.openContent hn (hfits hl) hh hs ho')
  | leaf hn hl hh hcl hb =>
      cases ho with
      | after hr => exact .step (.leaf hn (hfits hl) hh hcl hb) hr
  | @branch _ _ _ out' _ hn hl hh hr =>
      -- The list of the item is read above the open element, in the steps it takes by itself.
      refine .step (.branch hn (hfits hl) hh) (hr.under hd ?_)
      cases out' with
      | error fault =>
          cases ho
          exact .fault fault
      | ok result =>
          cases ho with
          | after hr' => exact .after hr'

theorem reads_readList (hb : StartsNone blank) (hd : rules.maxDepth < depth + openLimit)
    (hi : ∀ s, NodeReads rules (depth + 1) s (item.read s)) (o : Open) (s : List Char) :
    Reads rules depth ⟨o, [], s⟩ (readList blank rules.strict item o s) := by
  fun_induction readList blank rules.strict item o s with
  | case1 o hs => exact .stop (.openChildren hs)
  | case2 o hs => exact .stop (.truncated (by simpa using hs))
  | case3 o s => exact .stop .closed
  | case4 o c s hc hbc ih => exact .step (.skip hc (hb c hbc)) ih
  | case5 o c s hc hbc fault hr =>
      have h := hi (c :: s)
      rw [hr] at h
      exact h.reads_item hd hc (.fault fault)
  | case6 o c s hc hbc html rest hr hle ih =>
      have h := hi (c :: s)
      rw [hr] at h
      exact h.reads_item hd hc (.after ih)

theorem nodeReads_nodeReader {items : depth ≤ rules.maxDepth → ItemReader}
    (hb : StartsNone blank) (hd : rules.maxDepth < depth + openLimit)
    (hi : ∀ hl s, NodeReads rules (depth + 1) s ((items hl).read s)) (s : List Char) :
    NodeReads rules depth s ((nodeReader blank rules depth items).read s) := by
  cases s with
  | nil => exact .atEnd
  | cons c s =>
      simp only [nodeReader, readNodeWith]
      cases hn : startsNode c with
      | false => exact .skip hn
      | true =>
          by_cases hl : rules.maxDepth < depth
          · simp only [hl, Bool.not_true, Bool.false_eq_true, ↓reduceIte, ↓reduceDIte]
            exact .tooDeep hn hl
          have hl' := Int.not_lt.1 hl
          simp only [hl, Bool.not_true, Bool.false_eq_true, ↓reduceIte, ↓reduceDIte]
          obtain ⟨h, rest, hh, hr⟩ := exists_leads_cases rules (c :: s)
          rcases hr with ⟨rest, rfl⟩ | ⟨hc, hr⟩ | ⟨hs, text, hc⟩
          · have hr := reads_readList hb hd (hi hl') ⟨h.element, '[' :: rest⟩ rest
            rw [hh.readHead_of_closed fun _ => hh.closed]
            exact .branch hn hl' hh hr
          · rw [hh.readHead_of_closed hc]
            simp only [afterBracket?, hr, ↓reduceIte]
            exact .leaf hn hl' hh hc hr
          · rw [hh.readHead_of_open hs hc]
            exact .openContent hn hl' hh hs hc

theorem nodeReads_descent (hb : StartsNone blank) {depth : Int}
    (hd : rules.maxDepth < depth + openLimit) (s : List Char) :
    NodeReads rules depth s ((descent blank rules depth).read s) := by
  rw [descent]
  refine nodeReads_nodeReader hb hd ?_ s
  intro hl s
  exact nodeReads_descent hb (by omega) s
termination_by (rules.maxDepth + 1 - depth).toNat
decreasing_by omega

theorem read_descent (hb : StartsNone blank) (hd : rules.maxDepth < depth + openLimit)
    (s : List Char) : (descent blank rules depth).read s = readNode rules depth s :=
  (nodeReads_descent hb hd s).readNode_eq.symm

theorem readItem_descent (hb : StartsNone blank) (hd : rules.maxDepth < depth + openLimit)
    (c : Cursor) : c.readItem (descent blank rules depth) = c.readNode rules depth := by
  rw [Cursor.readItem, read_descent hb hd]
  rfl

theorem parseByDescent_eq (hb : StartsNone blank) (hd : rules.maxDepth ≤ openLimit)
    (source : String) : parseByDescent blank rules source = parse rules source := by
  have hd' : rules.maxDepth < 1 + openLimit := by omega
  rw [parseByDescent, parse, readRoot]
  cases findRoot source.toList with
  | nil => rfl
  | cons c root => simp only [read_descent hb hd']

/-- The blanks that a list of children skips by itself have no part in any reading. Skipped or handed
to the reader of nodes, at whatever depth, they are passed over: with no blanks, with those of running
text or with any characters that start no node, the descent gives the HTML or the report of the loop and
leaves the cursor where it does, and every document is read alike. -/
theorem descent_blanks {rules : Rules} (hm : rules.maxDepth ≤ 256) {depth : Int} (h1 : 1 ≤ depth)
    (c : Cursor) :
    c.readItem (descent (fun _ => false) rules depth) = c.readNode rules depth ∧
    c.readItem (descent Text.isBlank rules depth) = c.readNode rules depth ∧
    ∀ blank, StartsNone blank →
      c.readItem (descent blank rules depth) = c.readNode rules depth ∧
      ∀ source, parseByDescent blank rules source = parse rules source := by
  have hd : rules.maxDepth < depth + openLimit := by unfold openLimit; omega
  have hl : rules.maxDepth ≤ openLimit := by unfold openLimit; omega
  refine ⟨readItem_descent ?_ hd c, readItem_descent startsNone_isBlank hd c, ?_⟩
  · intro char h
    cases h
  · intro blank hb
    exact ⟨readItem_descent hb hd c, parseByDescent_eq hb hl⟩

/-- The cursor at a root with a space and a node in its list. -/
def spacedCursor : Cursor :=
  ⟨['^', '[', '\u2003', 't'], 0⟩

theorem readNode_spacedCursor :
    spacedCursor.readNode ⟨1, true⟩ 1 =
      (.error ⟨.nestingTooDeep, (Cause.tooDeep 1).message, 3⟩, ⟨spacedCursor.source, 3⟩) := by
  have hr : tagName? '^' = some "main" := by decide
  have ht : tagName? 't' = some "p" := by decide
  have hs : tagName? '\u2003' = none := by decide
  simp [spacedCursor, Cursor.readNode, Cursor.rest, Cursor.withRest, readNode, readChildren,
    readItems_cons, readHead, readTag, readModifiers, afterBracket?, startsNode, Modifier.ofMarker?,
    Fault.report, Cause.kind, hr, ht, hs]

/-- Below the limit a space is passed over, and only the node after it is refused. -/
theorem descent_blanks_spacedCursor :
    spacedCursor.readItem (descent (fun _ => false) ⟨1, true⟩ 1) =
      (.error ⟨.nestingTooDeep, (Cause.tooDeep 1).message, 3⟩, ⟨spacedCursor.source, 3⟩) :=
  (@descent_blanks ⟨1, true⟩ (by decide) 1 (by decide) spacedCursor).1.trans readNode_spacedCursor

end TalPage.Markup
