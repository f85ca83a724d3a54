import FairyClaw.Foundation.Python

/-! # Trimmed lists and lines

Trimming drops a kind of items at both ends of a list. A text is split into lines at every line
break, and the lines that a text was written from are read back when they hold no break themselves
(`Foundation.splitLines_flatMap`).
-/

namespace Foundation

section Trim

variable {Item : Type*} (drops : Item → Bool)

/-- Drop the items at both ends. -/
def trim (items : List Item) : List Item := (items.dropWhile drops).rdropWhile drops

variable {drops} {items : List Item}

/-- Trimming only takes items away. -/
theorem trim_sublist : (trim drops items).Sublist items :=
  (List.rdropWhile_prefix drops (items.dropWhile drops)).sublist.trans
    (List.dropWhile_sublist drops)

/-- Dropping from the back reaches the first item only when nothing else is left. -/
theorem rdropWhile_cons (item : Item) (items : List Item) :
    (item :: items).rdropWhile drops =
      if items.rdropWhile drops = [] ∧ drops item = true then []
      else item :: items.rdropWhile drops := by
  simp only [List.rdropWhile, List.reverse_cons, List.dropWhile_append, List.isEmpty_iff,
    List.reverse_eq_nil_iff]
  by_cases blank : items.reverse.dropWhile drops = []
  · cases dropped : drops item <;>
      simp only [blank, dropped, List.dropWhile_cons, List.dropWhile_nil, ↓reduceIte, and_self,
        and_false, Bool.false_eq_true, List.reverse_nil, List.reverse_singleton]
  · simp only [blank, ↓reduceIte, false_and, List.reverse_append, List.reverse_singleton,
      List.singleton_append]

/-- What follows an item that stays is trimmed at its end only. -/
theorem rdropWhile_append_cons {item : Item} (stays : drops item = false) (back : List Item) :
    ∀ front : List Item,
      (front ++ item :: back).rdropWhile drops = front ++ item :: back.rdropWhile drops
  | [] => by
      rw [List.nil_append, rdropWhile_cons, if_neg fun both => ?_, List.nil_append]
      exact Bool.false_ne_true (stays.symm.trans both.2)
  | first :: front => by
      rw [List.cons_append, rdropWhile_cons, rdropWhile_append_cons stays back front,
        if_neg fun both => ?_, List.cons_append]
      exact List.append_ne_nil_of_right_ne_nil front (List.cons_ne_nil _ _) both.1

/-- Both ends are trimmed independently. -/
theorem dropWhile_rdropWhile : ∀ items : List Item,
    (items.rdropWhile drops).dropWhile drops = (items.dropWhile drops).rdropWhile drops
  | [] => rfl
  | item :: items => by
      have rest := dropWhile_rdropWhile items
      rw [rdropWhile_cons]
      cases dropped : drops item with
      | false =>
          have stays : ¬drops item = true := by rw [dropped]; exact Bool.false_ne_true
          rw [if_neg fun both => Bool.false_ne_true both.2, List.dropWhile_cons_of_neg stays,
            List.dropWhile_cons_of_neg stays, rdropWhile_cons, dropped,
            if_neg fun both => Bool.false_ne_true both.2]
      | true =>
          rw [List.dropWhile_cons_of_pos dropped, ← rest]
          by_cases blank : items.rdropWhile drops = []
          · rw [if_pos ⟨blank, rfl⟩, blank]
          · rw [if_neg fun both => blank both.1, List.dropWhile_cons_of_pos dropped]

/-- Trimming after dropping from the back is trimming. -/
theorem trim_rdropWhile : trim drops (items.rdropWhile drops) = trim drops items := by
  rw [trim, dropWhile_rdropWhile, List.rdropWhile_idempotent, trim]

/-- Trimming twice is trimming once. -/
theorem trim_trim : trim drops (trim drops items) = trim drops items := by
  change trim drops ((items.dropWhile drops).rdropWhile drops) = _
  rw [trim_rdropWhile, trim, List.dropWhile_idempotent, trim]

/-- Trimmed items begin with one that stays. -/
theorem dropWhile_eq_self_of_trim (trimmed : trim drops items = items) :
    items.dropWhile drops = items := by
  rw [← trimmed, trim, ← dropWhile_rdropWhile, List.dropWhile_idempotent]

/-- What trimming does not shorten it leaves. -/
theorem trim_eq_self_of_length (same : items.length ≤ (trim drops items).length) :
    trim drops items = items := trim_sublist.eq_of_length_le same

end Trim

/-! ## Lines -/

section Lines

variable {Item : Type*} (breaks : Item → Bool)

/-- Split at the breaks; `current` is the line read so far, reversed. -/
def splitLinesFrom (current : List Item) : List Item → List (List Item)
  | [] => if current.isEmpty then [] else [current.reverse]
  | item :: rest =>
      if breaks item then current.reverse :: splitLinesFrom [] rest
      else splitLinesFrom (item :: current) rest

/-- Split at the breaks. A break at the end begins no further line. -/
def splitLines (items : List Item) : List (List Item) := splitLinesFrom breaks [] items

variable {breaks}

/-- The first line ends at the first break. -/
theorem splitLinesFrom_append {line : List Item} {stop : Item} (rest : List Item)
    (stops : breaks stop = true) : ∀ {current : List Item},
    (∀ item ∈ line, breaks item = false) →
      splitLinesFrom breaks current (line ++ stop :: rest) =
        (current.reverse ++ line) :: splitLinesFrom breaks [] rest := by
  induction line with
  | nil =>
      intro current _
      rw [List.nil_append, splitLinesFrom, if_pos stops, List.append_nil]
  | cons item line ih =>
      intro current unbroken
      have solid := unbroken item List.mem_cons_self
      rw [List.cons_append, splitLinesFrom, if_neg (by rw [solid]; exact Bool.false_ne_true),
        ih fun other member => unbroken other (List.mem_cons_of_mem _ member), List.reverse_cons,
        List.append_assoc, List.singleton_append]

/-- Lines without breaks are read back. -/
theorem splitLines_flatMap {stop : Item} (stops : breaks stop = true) :
    ∀ {lines : List (List Item)}, (∀ line ∈ lines, ∀ item ∈ line, breaks item = false) →
      splitLines breaks (lines.flatMap (· ++ [stop])) = lines
  | [], _ => rfl
  | line :: lines, unbroken => by
      rw [splitLines, List.flatMap_cons, List.append_assoc, List.singleton_append,
        splitLinesFrom_append _ stops (unbroken line List.mem_cons_self), List.reverse_nil,
        List.nil_append]
      exact congrArg _ (splitLines_flatMap stops fun other member =>
        unbroken other (List.mem_cons_of_mem _ member))

/-- A line has no break in it. -/
theorem unbroken_of_mem_splitLinesFrom {line : List Item} : ∀ {items current : List Item},
    (∀ item ∈ current, breaks item = false) → line ∈ splitLinesFrom breaks current items →
      ∀ item ∈ line, breaks item = false
  | [], current, unbroken, member => by
      rw [splitLinesFrom] at member
      split at member
      · cases member
      · rw [List.mem_singleton.mp member]
        exact fun item listed => unbroken item (List.mem_reverse.mp listed)
  | first :: rest, current, unbroken, member => by
      rw [splitLinesFrom] at member
      split at member
      · rcases List.mem_cons.mp member with rfl | later
        · exact fun item listed => unbroken item (List.mem_reverse.mp listed)
        · exact unbroken_of_mem_splitLinesFrom (List.forall_mem_nil _) later
      · rename_i solid
        refine unbroken_of_mem_splitLinesFrom (List.forall_mem_cons.mpr ⟨?_, unbroken⟩) member
        exact Bool.eq_false_iff.mpr solid

/-- A line holds no break. -/
theorem unbroken_of_mem_splitLines {line items : List Item} (member : line ∈ splitLines breaks items) :
    ∀ item ∈ line, breaks item = false :=
  unbroken_of_mem_splitLinesFrom (List.forall_mem_nil _) member

end Lines

/-- Joined lines with a break at the end are the lines with a break after each. -/
theorem toList_intercalate_append {stop : String} : ∀ lines : List String,
    (stop.intercalate lines ++ if lines.isEmpty then "" else stop).toList =
      (lines.map String.toList).flatMap (· ++ stop.toList)
  | [] => by rfl
  | [line] => by
      rw [String.intercalate_singleton, String.toList_append, List.map_singleton,
        List.flatMap_singleton]
      rfl
  | first :: second :: rest => by
      have later := @toList_intercalate_append stop (second :: rest)
      rw [String.toList_append] at later
      rw [String.intercalate_cons_cons, String.toList_append, String.toList_append,
        String.toList_append, List.append_assoc, List.map_cons, List.flatMap_cons, ← later]
      rfl

end Foundation
