import FairyClaw.Foundation.Edits

/-! # All matches of a pattern

A pattern reads the front of some items. A scan finds its matches from the front to the back, each
as far left as possible and none overlapping another, with what stands between them
(`Foundation.scan_eq_of_scanned`). Codes that begin with a marker are the matches in a text of
codes and gaps without the marker (`Foundation.scanned_parts`), and a body that does not hold the
mark at its end is read up to that mark (`Foundation.splitAtMark_append`).
-/

namespace Foundation

variable {Item Value : Type}

/-- What a pattern makes of the front of some items: a value, and the number of items it takes. -/
abbrev Pattern (Item Value : Type) := List Item → Option (Value × Nat)

/-- The scan within some items: `skip` items of the last match are still to be passed over, and
`gap` holds the items since then, reversed. -/
def scanFrom (read : Pattern Item Value) :
    Nat → List Item → List Item → List (List Item × Value) × List Item
  | _, gap, [] => ([], gap.reverse)
  | skip + 1, gap, _ :: rest => scanFrom read skip gap rest
  | 0, gap, item :: rest =>
      match read (item :: rest) with
      | some (value, size) =>
          let (found, last) := scanFrom read (size - 1) [] rest
          ((gap.reverse, value) :: found, last)
      | none => scanFrom read 0 (item :: gap) rest

/-- The matches of a pattern, each with the items before it, and the items after the last match. -/
def scan (read : Pattern Item Value) (items : List Item) : List (List Item × Value) × List Item :=
  scanFrom read 0 [] items

/-- The pattern matches nowhere among the first items. -/
def Silent (read : Pattern Item Value) (gap rest : List Item) : Prop :=
  ∀ place < gap.length, read ((gap ++ rest).drop place) = none

/-- Matches from the front, each the first one after the one before. -/
inductive Scanned (read : Pattern Item Value) :
    List Item → List (List Item × Value) → List Item → Prop
  | last {gap : List Item} : Silent read gap [] → Scanned read gap [] gap
  | found {gap code rest last : List Item} {value : Value} {found : List (List Item × Value)} :
      Silent read gap (code ++ rest) → code ≠ [] →
      read (code ++ rest) = some (value, code.length) → Scanned read rest found last →
      Scanned read (gap ++ (code ++ rest)) ((gap, value) :: found) last

variable {read : Pattern Item Value}

/-- What is silent stays so when its first item is passed. -/
theorem Silent.tail {first : Item} {gap rest : List Item}
    (silent : Silent read (first :: gap) rest) : Silent read gap rest :=
  fun place inside => silent (place + 1) (Nat.succ_lt_succ inside)

/-- Items that are skipped leave no trace. -/
theorem scanFrom_skip (gap rest : List Item) : ∀ passed : List Item,
    scanFrom read passed.length gap (passed ++ rest) = scanFrom read 0 gap rest
  | [] => rfl
  | _ :: passed => scanFrom_skip gap rest passed

/-- A silent part becomes the gap before the next match. -/
theorem scanFrom_gap {rest : List Item} : ∀ {gap before : List Item}, Silent read gap rest →
    scanFrom read 0 before (gap ++ rest) = scanFrom read 0 (gap.reverse ++ before) rest
  | [], _, _ => rfl
  | item :: gap, before, silent => by
      have unread : read (item :: (gap ++ rest)) = none := silent 0 (Nat.zero_lt_succ _)
      rw [List.cons_append, scanFrom, unread]
      simp only
      rw [scanFrom_gap silent.tail, List.reverse_cons, List.append_assoc, List.singleton_append]

/-- A match ends the gap, and the scan begins anew after it. -/
theorem scanFrom_code {code rest gap : List Item} {value : Value} (filled : code ≠ [])
    (reads : read (code ++ rest) = some (value, code.length)) :
    scanFrom read 0 gap (code ++ rest) =
      ((gap.reverse, value) :: (scan read rest).1, (scan read rest).2) := by
  obtain ⟨first, code, rfl⟩ := List.exists_cons_of_ne_nil filled
  rw [List.cons_append] at reads ⊢
  rw [scanFrom, reads]
  simp only [List.length_cons, Nat.add_sub_cancel]
  rw [scanFrom_skip, scan]

/-- **Scanning.** The scan gives the matches from the front. -/
theorem scan_eq_of_scanned {items last : List Item} {found : List (List Item × Value)}
    (scanned : Scanned read items found last) : scan read items = (found, last) := by
  induction scanned with
  | last silent =>
      have whole := @scanFrom_gap _ _ read [] _ [] silent
      rw [List.append_nil, List.append_nil] at whole
      rw [scan, whole, scanFrom, List.reverse_reverse]
  | found silent filled reads _ ih =>
      rw [scan, scanFrom_gap silent, List.append_nil, scanFrom_code filled reads, ih,
        List.reverse_reverse]

/-! ## Markers -/

section Marker

variable {first : Item} {more gap rest : List Item}

/-- A marker whose first item does not come again does not begin in a gap without it, when the gap
ends there or the first item of the marker follows. -/
theorem not_prefix_of_free (single : first ∉ more) (free : ¬first :: more <:+: gap)
    (next : rest = [] ∨ ∃ others, rest = first :: others) :
    ∀ place < gap.length, ¬first :: more <+: (gap ++ rest).drop place := by
  intro place inside stands
  rw [List.drop_append_of_le_length (Nat.le_of_lt inside)] at stands
  have ending : gap.drop place <:+: gap := (List.drop_suffix place gap).isInfix
  rcases List.prefix_or_prefix_of_prefix stands (List.prefix_append _ rest) with within | beyond
  · exact free (within.isInfix.trans ending)
  obtain ⟨after, split⟩ := beyond
  cases after with
  | nil => exact free (by rwa [← split, List.append_nil])
  | cons item after =>
      -- the marker begins in the gap and goes on in what follows, so its first item comes again
      rw [← split, List.prefix_append_right_inj] at stands
      obtain ⟨others, rfl⟩ : ∃ others, rest = first :: others :=
        next.resolve_left fun empty => by
          rw [empty] at stands
          exact List.cons_ne_nil _ _ (List.prefix_nil.mp stands)
      obtain ⟨rfl, _⟩ := List.cons_prefix_cons.mp stands
      have begun : gap.drop place ≠ [] := by
        rw [Ne, List.drop_eq_nil_iff]
        omega
      obtain ⟨head, tail, opened⟩ := List.exists_cons_of_ne_nil begun
      rw [opened, List.cons_append, List.cons.injEq] at split
      exact single (split.2 ▸ List.mem_append_right tail List.mem_cons_self)

/-- A pattern that begins with the marker is silent in such a gap. -/
theorem silent_of_free (opens : ∀ items, read items ≠ none → first :: more <+: items)
    (single : first ∉ more) (free : ¬first :: more <:+: gap)
    (next : rest = [] ∨ ∃ others, rest = first :: others) : Silent read gap rest :=
  fun place inside => by_contra fun some =>
    not_prefix_of_free single free next place inside (opens _ some)

/-- **Written codes.** Codes that begin with the marker and are read whatever follows them are the
matches in a text of codes, each after a gap without the marker. -/
theorem scanned_parts {Part : Type} {gapOf codeOf : Part → List Item} {valueOf : Part → Value}
    {last : List Item} (opens : ∀ items, read items ≠ none → first :: more <+: items)
    (single : first ∉ more) (free : ∀ part, ¬first :: more <:+: gapOf part)
    (ends : ¬first :: more <:+: last) (begins : ∀ part, ∃ others, codeOf part = first :: others)
    (reads : ∀ part rest, read (codeOf part ++ rest) = some (valueOf part, (codeOf part).length))
    (parts : List Part) :
    Scanned read (parts.flatMap (fun part => gapOf part ++ codeOf part) ++ last)
      (parts.map fun part => (gapOf part, valueOf part)) last := by
  induction parts with
  | nil => exact .last (silent_of_free opens single ends (.inl rfl))
  | cons part parts ih =>
      obtain ⟨others, begun⟩ := begins part
      rw [List.flatMap_cons, List.append_assoc, List.append_assoc]
      apply Scanned.found
      · apply silent_of_free opens single (free part)
        right
        rw [begun]
        exact ⟨_, rfl⟩
      · rw [begun]
        exact List.cons_ne_nil _ _
      · exact reads part _
      · exact ih

variable [DecidableEq Item]

/-- The items before a mark, and those after it, if there is one: `(.*?)mark`. -/
def splitAtMark (mark items : List Item) : Option (List Item × List Item) :=
  (findFrom items mark 0).map fun place => (items.take place, items.drop (place + mark.length))

/-- **Bodies.** What does not hold the mark is read up to the mark. -/
theorem splitAtMark_append {body : List Item} (after : List Item) (single : first ∉ more)
    (free : ¬first :: more <:+: body) :
    splitAtMark (first :: more) (body ++ (first :: more ++ after)) = some (body, after) := by
  have absent := not_prefix_of_free single free (.inr ⟨more ++ after, List.cons_append⟩)
  have found := @findFrom_append _ _ [] body _ after (List.cons_ne_nil first more) absent
  rw [List.nil_append, List.length_nil, Nat.zero_add] at found
  rw [splitAtMark, found, Option.map_some, List.take_left, ← List.drop_drop, List.drop_left,
    List.drop_left]

end Marker

end Foundation
