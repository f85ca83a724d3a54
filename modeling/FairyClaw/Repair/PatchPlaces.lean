import FairyClaw.Repair.UnifiedPatch

/-! # Patches at their places

A unified diff replaces the lines of each hunk at the place that the hunk's header gives.
`FairyClaw.applyPatch` does the same when it reads the lines of the diff as they are written, the
old lines of a hunk do not stand at an earlier place after the hunk before, and a hunk that only
adds lines begins with them (`FairyClaw.applyPatch_of_inPlace`).
-/

namespace FairyClaw

open Foundation

/-! ## Unified diffs -/

/-- The text of some lines. -/
def textOf (lines : List Line) : List Char := lines.flatMap withNewline

/-- A line of a hunk; an empty line of the context may be written without its space (`blank`). -/
inductive DiffLine where
  | keep (text : Line)
  | blank
  | remove (text : Line)
  | add (text : Line)
  deriving DecidableEq, Repr

namespace DiffLine

/-- How a line is written. -/
def written : DiffLine → Line
  | keep text => ' ' :: text
  | blank => []
  | remove text => '-' :: text
  | add text => '+' :: text

/-- The line of the old text that it shows. -/
def old? : DiffLine → Option Line
  | keep text | remove text => some text
  | blank => some []
  | add _ => none

/-- The line of the new text that it shows. -/
def new? : DiffLine → Option Line
  | keep text | add text => some text
  | blank => some []
  | remove _ => none

end DiffLine

/-- A hunk, with the numbers of old and new lines before it. -/
structure DiffHunk where
  start : Nat
  newStart : Nat
  header : Line
  lines : List DiffLine
  deriving DecidableEq, Repr

namespace DiffHunk

variable (hunk : DiffHunk)

/-- The edit at the place that the header gives. -/
def edit : Edit Line where
  start := hunk.start
  old := hunk.lines.filterMap DiffLine.old?
  new := hunk.lines.filterMap DiffLine.new?

/-- A range of lines in a header; the line before stands for an empty range, and a count of one may
be left out. -/
inductive RangeText (start : Nat) : Nat → Line → Prop
  | empty : RangeText start 0 ((toString start).toList ++ [',', '0'])
  | one : RangeText start 1 (toString (start + 1)).toList
  | counted {count : Nat} : 0 < count →
      RangeText start count ((toString (start + 1)).toList ++ ',' :: (toString count).toList)

/-- The header gives the places and the lengths of the hunk. -/
def HasHeader : Prop :=
  ∃ oldRange newRange title : Line, RangeText hunk.start hunk.edit.old.length oldRange ∧
    RangeText hunk.newStart hunk.edit.new.length newRange ∧
    hunk.header = "@@ -".toList ++ oldRange ++ " +".toList ++ newRange ++ " @@".toList ++ title

/-- The lines of the hunk as written. -/
def written : List Line := hunk.header :: hunk.lines.map DiffLine.written

/-- The hunk has a line to remove. -/
def removes : Bool := hunk.lines.any fun
  | .remove _ => true
  | _ => false

/-- The hunk has a line to add. -/
def adds : Bool := hunk.lines.any fun
  | .add _ => true
  | _ => false

end DiffHunk

/-- A unified diff of one file, with the lines before its hunks. -/
structure UnifiedDiff where
  preamble : List Line
  hunks : List DiffHunk
  deriving DecidableEq, Repr

/-- The numbers of the new lines follow from those of the old ones. -/
inductive Numbered : Nat → Nat → List DiffHunk → Prop
  | done (place newPlace : Nat) : Numbered place newPlace []
  | hunk {place newPlace : Nat} {hunk : DiffHunk} {rest : List DiffHunk} (gap : Nat) :
      hunk.start = place + gap → hunk.newStart = newPlace + gap →
      Numbered (hunk.start + hunk.edit.old.length) (hunk.newStart + hunk.edit.new.length) rest →
      Numbered place newPlace (hunk :: rest)

namespace UnifiedDiff

variable (diff : UnifiedDiff)

/-- The lines of a diff. -/
def written : List Line := diff.preamble ++ diff.hunks.flatMap DiffHunk.written

/-- A valid diff that removes some line and turns old lines into new ones. -/
structure Turns (old new : List Line) : Prop where
  closed : ∀ line ∈ diff.written, '\n' ∉ line
  preamble : ∀ line ∈ diff.preamble, isHeader line = false
  headers : ∀ hunk ∈ diff.hunks, hunk.HasHeader
  numbers : Numbered 0 0 diff.hunks
  removal : ∃ hunk ∈ diff.hunks, hunk.removes = true
  edits : Applies 0 (diff.hunks.map DiffHunk.edit) old new

end UnifiedDiff

/-! ## The condition -/

/-- The lines of a text as the search compares them. -/
def compared (lines : List Line) : List Line :=
  (splitlinesKeep (textOf lines)).map rstripNewline

/-- A block of lines does not stand before its place, in the lines from `resume` on. -/
def FirstAt (old : List Line) (resume start : Nat) (block : List Line) : Prop :=
  ∀ place < (compared ((old.drop resume).take (start - resume))).length,
    ¬block <+: (compared (old.drop resume)).drop place

namespace DiffHunk

variable (hunk : DiffHunk)

/-- The old line from which the next hunk is searched. -/
def resumes (resume : Nat) : Nat :=
  if hunk.removes then hunk.start + hunk.edit.old.length
  else if hunk.adds then hunk.start
  else resume

/-- The search finds the place of the hunk. -/
def Placed (old : List Line) (resume : Nat) : Prop :=
  if hunk.removes then FirstAt old resume hunk.start hunk.edit.old
  else if hunk.adds then ∃ added context : List Line,
    hunk.lines = added.map .add ++ context.map .keep ∧
      if context = [] then hunk.start = resume else FirstAt old resume hunk.start context
  else True

/-- The lines of the hunk have no breaks but their newlines, and empty lines of the context are
written with their space. -/
def Legible : Prop :=
  (∀ line ∈ hunk.written, ∀ char ∈ line, isLineBreak char = false) ∧ .blank ∉ hunk.lines

end DiffHunk

/-- All hunks are placed, each searched from the end of the one before. -/
def InPlace (old : List Line) : Nat → List DiffHunk → Prop
  | _, [] => True
  | resume, hunk :: rest => hunk.Placed old resume ∧ InPlace old (hunk.resumes resume) rest

/-- The diff is read as it is written. -/
structure UnifiedDiff.Legible (diff : UnifiedDiff) : Prop where
  preamble : ∀ line ∈ splitlines (textOf diff.preamble), isHeader line = false
  hunks : ∀ hunk ∈ diff.hunks, hunk.Legible

/-! ## Reading the lines of a text -/

/-- A newline ends the line read so far. -/
theorem splitPieces_newline (current rest : Line) :
    splitPieces current ('\n' :: rest) = (current, ['\n']) :: splitPieces [] rest := by
  rw [splitPieces_cons current fun later same => absurd same (by decide), if_pos (by decide)]

/-- A newline after a text joins a carriage return only when that is the whole text. -/
theorem single_append_newline {char : Char} {text : List Char}
    (single : ∀ later, char = '\r' → text = '\n' :: later → False) :
    (char = '\r' ∧ text = []) ∨
      ∀ rest later, char = '\r' → text ++ '\n' :: rest ≠ '\n' :: later := by
  cases text with
  | nil =>
      by_cases carriage : char = '\r'
      · exact .inl ⟨carriage, rfl⟩
      · exact .inr fun rest later same => absurd same carriage
  | cons first text =>
      refine .inr fun rest later carriage same => single text carriage ?_
      exact congrArg (· :: text) (List.cons.inj same).1

/-- A newline ends a line whatever comes after it. -/
theorem splitPieces_append_newline (current text rest : List Char) :
    splitPieces current (text ++ '\n' :: rest) =
      splitPieces current (text ++ ['\n']) ++ splitPieces [] rest := by
  induction current, text using splitPieces.induct with
  | case1 => rw [List.nil_append, List.nil_append, splitPieces_newline, splitPieces_newline]; rfl
  | case2 => rw [List.nil_append, List.nil_append, splitPieces_newline, splitPieces_newline]; rfl
  | case3 current text ih =>
      rw [List.cons_append, List.cons_append, List.cons_append, List.cons_append,
        splitPieces_crlf, splitPieces_crlf, ih, List.cons_append]
  | case4 current char text single stop ih =>
      rcases single_append_newline single with ⟨rfl, rfl⟩ | single
      · rfl
      · rw [List.cons_append, List.cons_append, splitPieces_cons current (single rest),
          splitPieces_cons current (single []), if_pos stop, if_pos stop, ih, List.cons_append]
  | case5 current char text single solid ih =>
      rcases single_append_newline single with ⟨rfl, rfl⟩ | single
      · rfl
      · rw [List.cons_append, List.cons_append, splitPieces_cons current (single rest),
          splitPieces_cons current (single []), if_neg solid, if_neg solid, ih]

/-- A text of lines is split line by line. -/
theorem splitPieces_textOf : ∀ lines : List Line,
    splitPieces [] (textOf lines) = lines.flatMap fun line => splitPieces [] (withNewline line)
  | [] => rfl
  | line :: rest => by
      rw [List.flatMap_cons, ← splitPieces_textOf rest, textOf, List.flatMap_cons, withNewline,
        List.append_assoc, List.singleton_append, splitPieces_append_newline]
      rfl

/-- A line without breaks ends at its newline. -/
theorem splitPieces_unbroken {line : Line} (unbroken : ∀ char ∈ line, isLineBreak char = false)
    (rest : List Char) : ∀ current : Line,
      splitPieces current (line ++ '\n' :: rest) =
        (current ++ line, ['\n']) :: splitPieces [] rest := by
  induction line with
  | nil =>
      intro current
      rw [List.nil_append, splitPieces_newline, List.append_nil]
  | cons char line ih =>
      intro current
      obtain ⟨solid, unbroken⟩ := List.forall_mem_cons.mp unbroken
      have single : ∀ later, char = '\r' → line ++ '\n' :: rest ≠ '\n' :: later := by
        rintro later rfl
        exact absurd solid (by decide)
      rw [List.cons_append, splitPieces_cons current single, if_neg (by simp [solid]), ih unbroken,
        List.append_assoc, List.singleton_append]

/-- A line without breaks is one piece. -/
theorem splitPieces_withNewline {line : Line}
    (unbroken : ∀ char ∈ line, isLineBreak char = false) :
    splitPieces [] (withNewline line) = [(line, ['\n'])] :=
  splitPieces_unbroken unbroken [] []

/-- The pieces of a text make up the text. -/
theorem flatten_splitPieces (current text : List Char) :
    ((splitPieces current text).map fun piece => piece.1 ++ piece.2).flatten = current ++ text := by
  induction current, text using splitPieces.induct with
  | case1 => rfl
  | case2 current filled => simp [splitPieces, filled]
  | case3 current text ih =>
      rw [splitPieces_crlf, List.map_cons, List.flatten_cons, ih]
      simp
  | case4 current char text single stop ih =>
      rw [splitPieces_cons current (fun later same rest => single later same rest), if_pos stop,
        List.map_cons, List.flatten_cons, ih]
      simp
  | case5 current char text single solid ih =>
      rw [splitPieces_cons current (fun later same rest => single later same rest),
        if_neg solid, ih, List.append_assoc, List.singleton_append]

/-- The lines with their breaks are the text. -/
theorem flatten_splitlinesKeep (text : List Char) : (splitlinesKeep text).flatten = text :=
  flatten_splitPieces [] text

/-- The lines of a text, part by part, with their breaks. -/
theorem splitlinesKeep_append (front back : List Line) :
    splitlinesKeep (textOf (front ++ back)) =
      splitlinesKeep (textOf front) ++ splitlinesKeep (textOf back) := by
  simp only [splitlinesKeep, splitPieces_textOf, List.flatMap_append, List.map_append]

/-- The lines of a text, part by part. -/
theorem splitlines_append (front back : List Line) :
    splitlines (textOf (front ++ back)) =
      splitlines (textOf front) ++ splitlines (textOf back) := by
  simp only [splitlines, splitPieces_textOf, List.flatMap_append, List.map_append]

/-- What is compared of lines, part by part. -/
theorem compared_append (front back : List Line) :
    compared (front ++ back) = compared front ++ compared back := by
  simp only [compared, splitlinesKeep_append, List.map_append]

section Unbroken

variable {lines : List Line} (unbroken : ∀ line ∈ lines, ∀ char ∈ line, isLineBreak char = false)
include unbroken

/-- Lines without breaks are one piece each. -/
theorem splitPieces_unbroken_lines :
    splitPieces [] (textOf lines) = lines.map fun line => (line, ['\n']) := by
  rw [splitPieces_textOf]
  induction lines with
  | nil => rfl
  | cons line lines ih =>
      obtain ⟨first, unbroken⟩ := List.forall_mem_cons.mp unbroken
      rw [List.flatMap_cons, splitPieces_withNewline first, ih unbroken]
      rfl

/-- Lines without breaks are the lines of their text. -/
theorem splitlines_unbroken : splitlines (textOf lines) = lines := by
  rw [splitlines, splitPieces_unbroken_lines unbroken, List.map_map]
  exact List.map_id _

/-- Lines without breaks are the lines of their text, each with its newline. -/
theorem splitlinesKeep_unbroken : splitlinesKeep (textOf lines) = lines.map withNewline := by
  rw [splitlinesKeep, splitPieces_unbroken_lines unbroken, List.map_map]
  rfl

/-- Lines without breaks have no newline to strip. -/
theorem map_rstripNewline : lines.map rstripNewline = lines := by
  refine (List.map_congr_left fun line member => ?_).trans (List.map_id lines)
  refine List.rdropWhile_eq_self_iff.mpr fun filled ends => ?_
  have solid := unbroken line member _ (List.getLast_mem filled)
  rw [decide_eq_true_eq.mp ends] at solid
  exact absurd solid (by decide)

/-- Lines without breaks are compared as they are. -/
theorem compared_unbroken : compared lines = lines := by
  rw [compared, splitlinesKeep_unbroken unbroken, List.map_map]
  refine Eq.trans ?_ (map_rstripNewline unbroken)
  refine List.map_congr_left fun line _ => ?_
  exact List.rdropWhile_concat_pos _ _ _ (by decide)

end Unbroken

/-! ## Reading a diff -/

/-- A written line of a hunk is no header. -/
theorem isHeader_written (line : DiffLine) : isHeader line.written = false := by
  cases line <;> rfl

/-- The header of a hunk is one. -/
theorem DiffHunk.HasHeader.isHeader {hunk : DiffHunk} (valid : hunk.HasHeader) :
    isHeader hunk.header = true := by
  obtain ⟨oldRange, newRange, title, _, _, same⟩ := valid
  rw [same, FairyClaw.isHeader, List.append_assoc, List.append_assoc, List.append_assoc,
    List.append_assoc]
  rfl

/-- Lines before the first header are in no hunk. -/
theorem splitHunks_preamble {lines : List Line} (plain : ∀ line ∈ lines, isHeader line = false)
    (rest : List Line) : splitHunks [] (lines ++ rest) = splitHunks [] rest := by
  induction lines with
  | nil => rfl
  | cons line lines ih =>
      obtain ⟨first, plain⟩ := List.forall_mem_cons.mp plain
      rw [List.cons_append, splitHunks, if_neg (by simp [first]), if_pos rfl, ih plain]

/-- Lines behind a header are in its hunk. -/
theorem splitHunks_body {lines : List Line} (plain : ∀ line ∈ lines, isHeader line = false)
    (rest : List Line) : ∀ {current : List Line}, current ≠ [] →
      splitHunks current (lines ++ rest) = splitHunks (current ++ lines) rest := by
  induction lines with
  | nil =>
      intro current _
      rw [List.nil_append, List.append_nil]
  | cons line lines ih =>
      intro current filled
      obtain ⟨first, plain⟩ := List.forall_mem_cons.mp plain
      rw [List.cons_append, splitHunks, if_neg (by simp [first]), if_neg filled,
        ih plain (by simp), List.append_assoc, List.singleton_append]

/-- The hunks of a diff are split as they are written. -/
theorem splitHunks_written : ∀ {hunks : List DiffHunk},
    (∀ hunk ∈ hunks, isHeader hunk.header = true) → ∀ current : List Line,
      splitHunks current (hunks.flatMap DiffHunk.written) =
        (if current = [] then [] else [current]) ++ hunks.map DiffHunk.written
  | [], _, current => by
      rw [List.flatMap_nil, splitHunks, List.map_nil, List.append_nil]
  | hunk :: hunks, headers, current => by
      obtain ⟨header, headers⟩ := List.forall_mem_cons.mp headers
      have plain : ∀ line ∈ hunk.lines.map DiffLine.written, isHeader line = false := by
        intro line member
        obtain ⟨line, _, rfl⟩ := List.mem_map.mp member
        exact isHeader_written line
      have body : splitHunks [hunk.header]
          (hunk.lines.map DiffLine.written ++ hunks.flatMap DiffHunk.written) =
            hunk.written :: hunks.map DiffHunk.written := by
        rw [splitHunks_body plain _ (List.cons_ne_nil _ _), splitHunks_written headers,
          if_neg (List.append_ne_nil_of_left_ne_nil (List.cons_ne_nil _ _) _)]
        rfl
      rw [List.flatMap_cons, DiffHunk.written, List.cons_append, splitHunks, if_pos header, body]
      by_cases blank : current = []
      · rw [if_pos blank, if_pos blank]
        rfl
      · rw [if_neg blank, if_neg blank]
        rfl

/-- The code reads a legible diff hunk by hunk. -/
theorem splitHunks_of_legible {diff : UnifiedDiff} (legible : diff.Legible)
    (headers : ∀ hunk ∈ diff.hunks, hunk.HasHeader) :
    splitHunks [] (splitlines (textOf diff.written)) = diff.hunks.map DiffHunk.written := by
  have unbroken : ∀ line ∈ diff.hunks.flatMap DiffHunk.written,
      ∀ char ∈ line, isLineBreak char = false := by
    intro line member
    obtain ⟨hunk, listed, inside⟩ := List.mem_flatMap.mp member
    exact (legible.hunks hunk listed).1 line inside
  rw [UnifiedDiff.written, splitlines_append, splitlines_unbroken unbroken,
    splitHunks_preamble legible.preamble,
    splitHunks_written fun hunk member => (headers hunk member).isHeader]
  rfl

namespace DiffHunk

variable {hunk : DiffHunk}

/-- A written line is read as what it keeps, removes or adds. -/
theorem readLine_written {line : DiffLine} (shown : line ≠ .blank) :
    readLine line.written = (line.old?.toList, line.new?.toList) := by
  cases line with
  | blank => exact absurd rfl shown
  | keep text => rfl
  | remove text => rfl
  | add text => rfl

/-- The old and new lines are read as the diff shows them. -/
theorem expectedOld_written (shown : .blank ∉ hunk.lines) :
    expectedOld (hunk.lines.map DiffLine.written) = hunk.edit.old ∧
      replacementNew (hunk.lines.map DiffLine.written) = hunk.edit.new := by
  have read {line : DiffLine} (member : line ∈ hunk.lines) :=
    readLine_written fun blank => shown (blank ▸ member)
  rw [expectedOld, replacementNew, edit, List.flatMap_map, List.flatMap_map,
    List.filterMap_eq_flatMap_toList, List.filterMap_eq_flatMap_toList]
  constructor
  · exact List.flatMap_congr fun line member => congrArg Prod.fst (read member)
  · exact List.flatMap_congr fun line member => congrArg Prod.snd (read member)

/-- The written hunk shows whether it removes a line. -/
theorem any_isRemoval_written : (hunk.lines.map DiffLine.written).any isRemoval = hunk.removes := by
  rw [List.any_map, removes]
  congr 1
  funext line
  cases line <;> rfl

/-- The written hunk shows whether it adds a line. -/
theorem any_isAddition_written : (hunk.lines.map DiffLine.written).any isAddition = hunk.adds := by
  rw [List.any_map, adds]
  congr 1
  funext line
  cases line <;> rfl

end DiffHunk

/-! ## Applying a hunk -/

/-- Stripping newlines twice strips no more. -/
theorem rstripNewline_rstripNewline (line : Line) :
    rstripNewline (rstripNewline line) = rstripNewline line :=
  List.rdropWhile_idempotent _ _

/-- A block of lines is found at its place when it does not stand before it. -/
theorem findSequence_append {front gap block rest : List Line} (filled : block ≠ [])
    (unbroken : ∀ line ∈ block, ∀ char ∈ line, isLineBreak char = false)
    (first : ∀ place < (compared gap).length,
      ¬block <+: (compared (gap ++ (block ++ rest))).drop place) :
    findSequence (front ++ splitlinesKeep (textOf (gap ++ (block ++ rest)))) block front.length =
      some (front.length + (splitlinesKeep (textOf gap)).length) := by
  have same : compared (gap ++ (block ++ rest)) = compared gap ++ (block ++ compared rest) := by
    rw [compared_append, compared_append, compared_unbroken unbroken]
  have found := @findFrom_append _ _ (front.map rstripNewline) (compared gap) block (compared rest)
    filled (fun place before => by rw [← same]; exact first place before)
  rw [List.length_map] at found
  rw [findSequence, if_neg filled, map_rstripNewline unbroken, List.map_append]
  rw [show (splitlinesKeep (textOf (gap ++ (block ++ rest)))).map rstripNewline =
    compared (gap ++ (block ++ rest)) from rfl, same, found, compared, List.length_map]

/-- The anchor is found where the sequence is. -/
theorem findAnchor_eq {lines context : List Line} (filled : context ≠ [])
    (unbroken : ∀ line ∈ context, ∀ char ∈ line, isLineBreak char = false) (start : Nat) :
    findAnchor lines context start = findSequence lines context start := by
  have twice : (lines.map rstripNewline).map rstripNewline = lines.map rstripNewline := by
    rw [List.map_map]
    exact List.map_congr_left fun line _ => rstripNewline_rstripNewline line
  rw [findAnchor, if_neg filled, map_rstripNewline unbroken, findSequence, findSequence,
    if_neg filled, if_neg filled, twice]

/-- The state of the loop with some lines done and some pending. -/
def pendingState (front pending : List Line) : PatchState where
  lines := front ++ splitlinesKeep (textOf pending)
  cursor := front.length

variable {hunk : DiffHunk} {front gap rest : List Line}

/-- The old lines of a legible hunk have no breaks. -/
theorem DiffHunk.old_unbroken (legible : hunk.Legible) :
    ∀ line ∈ hunk.edit.old, ∀ char ∈ line, isLineBreak char = false := by
  intro text member char inside
  obtain ⟨line, listed, shown⟩ := List.mem_filterMap.mp member
  have unbroken := legible.1 line.written
    (List.mem_cons_of_mem _ (List.mem_map_of_mem listed))
  cases line with
  | blank => exact absurd listed legible.2
  | keep kept =>
      cases shown
      exact unbroken char (List.mem_cons_of_mem _ inside)
  | remove removed =>
      cases shown
      exact unbroken char (List.mem_cons_of_mem _ inside)
  | add _ => cases shown

/-- A hunk that removes a line has an old one. -/
theorem DiffHunk.old_ne_nil (removes : hunk.removes = true) : hunk.edit.old ≠ [] := by
  obtain ⟨line, listed, removal⟩ := List.any_eq_true.mp removes
  cases line with
  | remove text => exact List.ne_nil_of_mem (List.mem_filterMap.mpr ⟨_, listed, rfl⟩)
  | keep _ => cases removal
  | blank => cases removal
  | add _ => cases removal

/-- A hunk that removes lines is replaced at its place. -/
theorem applyHunk_of_removes (legible : hunk.Legible) (removes : hunk.removes = true)
    (first : ∀ place < (compared gap).length,
      ¬hunk.edit.old <+: (compared (gap ++ (hunk.edit.old ++ rest))).drop place) :
    applyHunk (pendingState front (gap ++ (hunk.edit.old ++ rest))) hunk.written =
      .ok (pendingState (front ++ (splitlinesKeep (textOf gap) ++ hunk.edit.new.map withNewline))
        rest) := by
  have unbroken := hunk.old_unbroken legible
  have found := @findSequence_append front gap hunk.edit.old rest (hunk.old_ne_nil removes)
    unbroken first
  obtain ⟨expected, replacement⟩ := hunk.expectedOld_written legible.2
  rw [applyHunk, DiffHunk.written, List.drop_one, List.tail_cons]
  simp only [DiffHunk.any_isRemoval_written, DiffHunk.any_isAddition_written, removes, expected,
    replacement, Bool.not_true, Bool.false_and, Bool.false_eq_true, ↓reduceIte]
  rw [pendingState, found]
  have pieces : front ++ splitlinesKeep (textOf (gap ++ (hunk.edit.old ++ rest))) =
      (front ++ splitlinesKeep (textOf gap)) ++
        (hunk.edit.old.map withNewline ++ splitlinesKeep (textOf rest)) := by
    rw [splitlinesKeep_append, splitlinesKeep_append, splitlinesKeep_unbroken unbroken,
      List.append_assoc]
  refine congrArg Except.ok (PatchState.mk.injEq .. ▸ ⟨?_, ?_⟩)
  · rw [pieces, List.take_left' (List.length_append), ← List.append_assoc _ _ (splitlinesKeep _),
      List.drop_left' (by simp [Nat.add_assoc]), List.append_assoc front]
  · simp [Nat.add_assoc]

section Insertion

variable {added context : List Line} (shape : hunk.lines = added.map .add ++ context.map .keep)
include shape

/-- The edit of a hunk that adds lines before its context. -/
theorem DiffHunk.edit_of_shape : hunk.edit =
    { start := hunk.start, old := context, new := added ++ context } := by
  have old : hunk.lines.filterMap DiffLine.old? = context := by
    have hidden : added.filterMap (DiffLine.old? ∘ DiffLine.add) = [] :=
      List.filterMap_eq_nil_iff.mpr fun _ _ => rfl
    rw [shape, List.filterMap_append, List.filterMap_map, List.filterMap_map, hidden]
    exact List.filterMap_some
  have new : hunk.lines.filterMap DiffLine.new? = added ++ context := by
    rw [shape, List.filterMap_append, List.filterMap_map, List.filterMap_map]
    exact congrArg₂ (· ++ ·) List.filterMap_some List.filterMap_some
  rw [DiffHunk.edit, old, new]

/-- The added lines of a hunk, as the code collects them. -/
theorem DiffHunk.added_of_shape :
    ((hunk.lines.map DiffLine.written).filter isAddition).map
      (fun line => withNewline (line.drop 1)) = added.map withNewline := by
  have kept : added.filter (isAddition ∘ DiffLine.written ∘ DiffLine.add) = added :=
    List.filter_eq_self.mpr fun _ _ => rfl
  have dropped : context.filter (isAddition ∘ DiffLine.written ∘ DiffLine.keep) = [] :=
    List.filter_eq_nil_iff.mpr fun _ _ => Bool.false_ne_true
  rw [shape, List.map_append, List.filter_append, List.map_map, List.map_map, List.filter_map,
    List.filter_map, kept, dropped, List.map_nil, List.append_nil, List.map_map]
  rfl

/-- A hunk that adds lines before its context puts them at its place. -/
theorem applyHunk_of_adds (legible : hunk.Legible) (keeps : hunk.removes = false)
    (adds : hunk.adds = true)
    (placed : if context = [] then gap = [] else ∀ place < (compared gap).length,
      ¬context <+: (compared (gap ++ (context ++ rest))).drop place) :
    applyHunk (pendingState front (gap ++ (context ++ rest))) hunk.written =
      .ok (pendingState (front ++ (splitlinesKeep (textOf gap) ++ added.map withNewline))
        (context ++ rest)) := by
  have edit := hunk.edit_of_shape shape
  have expected : expectedOld (hunk.lines.map DiffLine.written) = context := by
    rw [(hunk.expectedOld_written legible.2).1, edit]
  have anchor : findAnchor (front ++ splitlinesKeep (textOf (gap ++ (context ++ rest)))) context
      front.length = some (front.length + (splitlinesKeep (textOf gap)).length) := by
    by_cases blank : context = []
    · rw [if_pos blank] at placed
      rw [findAnchor, if_pos blank, placed, List.length_append,
        Nat.min_eq_left (Nat.le_add_right _ _)]
      rfl
    · rw [if_neg blank] at placed
      have unbroken := hunk.old_unbroken legible
      rw [edit] at unbroken
      rw [findAnchor_eq blank unbroken, findSequence_append blank unbroken placed]
  rw [applyHunk, DiffHunk.written, List.drop_one, List.tail_cons]
  simp only [DiffHunk.any_isRemoval_written, DiffHunk.any_isAddition_written, keeps, adds, expected,
    hunk.added_of_shape shape, Bool.not_true, Bool.and_false, Bool.false_eq_true, ↓reduceIte]
  rw [pendingState, anchor, Option.getD_some, splitlinesKeep_append, ← List.append_assoc front]
  refine congrArg Except.ok (PatchState.mk.injEq .. ▸ ⟨?_, ?_⟩)
  · rw [List.take_left' (List.length_append), List.drop_left' (List.length_append),
      List.append_assoc front]
  · simp [Nat.add_assoc]

end Insertion

/-- A hunk without changes is passed over. -/
theorem applyHunk_of_keeps (keeps : hunk.removes = false) (adds : hunk.adds = false)
    (state : PatchState) : applyHunk state hunk.written = .ok state := by
  rw [applyHunk, DiffHunk.written, List.drop_one, List.tail_cons]
  simp only [DiffHunk.any_isRemoval_written, DiffHunk.any_isAddition_written, keeps, adds,
    Bool.not_false, Bool.and_self, ↓reduceIte]

/-- A hunk that neither removes nor adds changes nothing. -/
theorem DiffHunk.new_of_keeps (keeps : hunk.removes = false) (adds : hunk.adds = false) :
    hunk.edit.new = hunk.edit.old := by
  refine List.filterMap_congr fun line member => ?_
  have kept := List.any_eq_false.mp keeps line member
  have same := List.any_eq_false.mp adds line member
  cases line with
  | keep text => rfl
  | blank => rfl
  | remove text => exact absurd rfl kept
  | add text => exact absurd rfl same

/-! ## Applying a diff -/

/-- The text of lines, part by part. -/
theorem textOf_append (front back : List Line) :
    textOf (front ++ back) = textOf front ++ textOf back :=
  List.flatMap_append

/-- The lines before a block are those between the place of the search and the block. -/
theorem firstAt_iff {old block : List Line} {resume start : Nat}
    (split : old.drop resume = gap ++ rest) (place : start = resume + gap.length) :
    FirstAt old resume start block ↔
      ∀ place < (compared gap).length, ¬block <+: (compared (gap ++ rest)).drop place := by
  rw [FirstAt, split, place, Nat.add_sub_cancel_left, List.take_left]

/-- The text behind an edit. -/
theorem flatten_front {new : List Line} :
    (front ++ (splitlinesKeep (textOf gap) ++ new.map withNewline)).flatten =
      front.flatten ++ textOf (gap ++ new) := by
  rw [List.flatten_append, List.flatten_append, flatten_splitlinesKeep, ← List.flatMap_def,
    textOf_append]
  rfl

/-- A hunk that is placed is applied at its place: with the lines before it and its old lines in
front of the rest, the search for the next hunk resumes behind what the hunk has changed. -/
theorem applyHunk_of_placed {old : List Line} {resume : Nat} (legible : hunk.Legible)
    (placed : hunk.Placed old resume) (split : old.drop resume = gap ++ (hunk.edit.old ++ rest))
    (place : hunk.start = resume + gap.length) :
    ∃ done after : List Line,
      applyHunk (pendingState front (gap ++ (hunk.edit.old ++ rest))) hunk.written =
        .ok (pendingState done (after ++ rest)) ∧
      old.drop (hunk.resumes resume) = after ++ rest ∧
      hunk.start + hunk.edit.old.length = hunk.resumes resume + after.length ∧
      done.flatten ++ textOf after = front.flatten ++ textOf (gap ++ hunk.edit.new) := by
  have here : old.drop hunk.start = hunk.edit.old ++ rest := by
    rw [place, ← List.drop_drop, split, List.drop_left]
  cases removes : hunk.removes with
  | true =>
      rw [DiffHunk.Placed, if_pos removes, firstAt_iff split place] at placed
      rw [DiffHunk.resumes, if_pos removes]
      refine ⟨_, [], applyHunk_of_removes legible removes placed, ?_, rfl, ?_⟩
      · rw [← List.drop_drop, here, List.drop_left]
        rfl
      · rw [flatten_front]
        exact List.append_nil _
  | false =>
      have keeps := Bool.eq_false_iff.mp removes
      cases adds : hunk.adds with
      | true =>
          rw [DiffHunk.Placed, if_neg keeps, if_pos adds] at placed
          rw [DiffHunk.resumes, if_neg keeps, if_pos adds]
          obtain ⟨added, context, shape, placed⟩ := placed
          have edit := hunk.edit_of_shape shape
          rw [edit] at split here ⊢
          have found : if context = [] then gap = [] else ∀ place < (compared gap).length,
              ¬context <+: (compared (gap ++ (context ++ rest))).drop place := by
            split at placed
            · rename_i blank
              rw [if_pos blank]
              exact List.length_eq_zero_iff.mp (by omega)
            · rename_i filled
              rw [if_neg filled]
              exact (firstAt_iff split place).mp placed
          refine ⟨_, context, applyHunk_of_adds shape legible removes adds found, here, rfl, ?_⟩
          rw [flatten_front]
          simp only [textOf_append, List.append_assoc]
      | false =>
          rw [DiffHunk.resumes, if_neg keeps, if_neg (Bool.eq_false_iff.mp adds)]
          refine ⟨front, gap ++ hunk.edit.old, ?_, ?_, ?_, ?_⟩
          · rw [applyHunk_of_keeps removes adds, List.append_assoc]
          · rw [split, List.append_assoc]
          · rw [place, List.length_append, Nat.add_assoc]
          · rw [DiffHunk.new_of_keeps removes adds]

/-- Hunks that are placed turn the pending lines into the new ones. -/
theorem foldlM_applyHunk {old : List Line} {hunks : List DiffHunk}
    (legible : ∀ hunk ∈ hunks, hunk.Legible) : ∀ {resume place : Nat}
      {front gap pending results : List Line}, InPlace old resume hunks →
      Applies place (hunks.map DiffHunk.edit) pending results →
      old.drop resume = gap ++ pending → place = resume + gap.length →
      ∃ state, (hunks.map DiffHunk.written).foldlM applyHunk
        (pendingState front (gap ++ pending)) = .ok state ∧
          state.lines.flatten = front.flatten ++ textOf (gap ++ results) := by
  induction hunks with
  | nil =>
      intro resume place front gap pending results _ applies _ _
      cases applies
      refine ⟨_, rfl, ?_⟩
      rw [pendingState, List.flatten_append, flatten_splitlinesKeep]
  | cons hunk hunks ih =>
      intro resume place front gap pending results placed applies split reached
      obtain ⟨readable, legible⟩ := List.forall_mem_cons.mp legible
      rw [List.map_cons] at applies
      cases applies with
      | @edit _ _ _ before items results start edits =>
          change hunk.start = place + before.length at start
          rw [← List.append_assoc] at split ⊢
          have place : hunk.start = resume + (gap ++ before).length := by
            rw [start, reached, List.length_append, Nat.add_assoc]
          obtain ⟨done, after, applied, next, reached, text⟩ :=
            @applyHunk_of_placed hunk front _ _ _ _ readable placed.1 split place
          obtain ⟨state, finished, result⟩ := @ih legible _ _ done _ _ _ placed.2 edits next reached
          rw [List.map_cons, List.foldlM_cons, applied]
          refine ⟨state, finished, ?_⟩
          rw [result, textOf_append, ← List.append_assoc, text]
          simp only [textOf_append, List.append_assoc]

/-- A valid diff that the code reads as written and whose hunks it finds at their places is applied
correctly. -/
theorem applyPatch_of_inPlace {diff : UnifiedDiff} {old new : List Line}
    (turns : diff.Turns old new) (legible : diff.Legible) (inPlace : InPlace old 0 diff.hunks) :
    applyPatch (textOf old) (textOf diff.written) = .ok (textOf new) := by
  obtain ⟨hunk, listed, _⟩ := turns.removal
  obtain ⟨state, done, text⟩ := @foldlM_applyHunk old diff.hunks legible.hunks 0 0 [] [] old new
    inPlace turns.edits rfl rfl
  rw [applyPatch, splitHunks_of_legible legible turns.headers,
    if_neg (List.ne_nil_of_mem (List.mem_map_of_mem listed))]
  change Except.map _ (List.foldlM applyHunk (pendingState [] ([] ++ old)) _) = _
  rw [done]
  exact congrArg Except.ok text

/-- The first of two equal lines is replaced. -/
theorem applyPatch_first_line :
    applyPatch "x\ny\nx\n".toList "--- a\n+++ b\n@@ -1,2 +1,2 @@\n-x\n+z\n y\n".toList =
      .ok "z\ny\nx\n".toList := by
  let hunk : DiffHunk :=
    { start := 0, newStart := 0, header := "@@ -1,2 +1,2 @@".toList,
      lines := [.remove ['x'], .add ['z'], .keep ['y']] }
  have turns : UnifiedDiff.Turns ⟨["--- a".toList, "+++ b".toList], [hunk]⟩
      [['x'], ['y'], ['x']] [['z'], ['y'], ['x']] := by
    refine ⟨by decide, by decide, ?_, ?_, ⟨hunk, List.mem_singleton_self _, rfl⟩, ?_⟩
    · exact List.forall_mem_singleton.mpr
        ⟨_, _, [], .counted (by decide), .counted (by decide), by decide +kernel⟩
    · exact .hunk 0 rfl rfl (.done _ _)
    · exact @Applies.edit _ 0 hunk.edit [] [] [['x']] [['x']] rfl (.done _ _)
  refine applyPatch_of_inPlace turns ⟨by decide, ?_⟩ ⟨?_, trivial⟩
  · have solid : (hunk.written.all fun line => line.all fun char => !isLineBreak char) = true := by
      decide +kernel
    refine List.forall_mem_singleton.mpr ⟨fun line listed char inside => ?_, by decide⟩
    exact (Bool.not_eq_true' _).mp
      (List.all_eq_true.mp (List.all_eq_true.mp solid line listed) char inside)
  · rw [DiffHunk.Placed, if_pos (by decide)]
    exact fun place before => absurd before (Nat.not_lt_zero place)

/-- A repeated line is replaced at its first place, a line is added before its context, and a blank
line of the context is lost. -/
theorem patches_misapplied :
    (∃ diff : UnifiedDiff, diff.Turns [['x'], ['y'], ['x']] [['x'], ['y'], ['z']] ∧
      applyPatch "x\ny\nx\n".toList (textOf diff.written) = .ok "z\ny\nx\n".toList) ∧
    (∃ diff : UnifiedDiff, diff.Turns [['x'], ['y'], ['w']] [['x'], ['a'], ['y']] ∧
      applyPatch "x\ny\nw\n".toList (textOf diff.written) = .ok "a\nx\ny\n".toList) ∧
    ∃ diff : UnifiedDiff, diff.Turns [['x'], [], ['y']] [['x'], [], ['z']] ∧
      applyPatch "x\n\ny\n".toList (textOf diff.written) =
        .error "removal lines do not match target file" := by
  refine ⟨⟨⟨[], [⟨2, 2, "@@ -3 +3 @@".toList, [.remove ['x'], .add ['z']]⟩]⟩,
      ?_, by decide +kernel⟩,
    ⟨⟨[], [⟨0, 0, "@@ -1 +1,2 @@".toList, [.keep ['x'], .add ['a']]⟩,
      ⟨2, 3, "@@ -3 +3,0 @@".toList, [.remove ['w']]⟩]⟩, ?_, by decide +kernel⟩,
    ⟨[], [⟨0, 0, "@@ -1,3 +1,3 @@".toList, [.keep ['x'], .blank, .remove ['y'], .add ['z']]⟩]⟩,
      ?_, by decide +kernel⟩
  · refine ⟨by decide, by decide, ?_, ?_, ⟨_, List.mem_singleton_self _, rfl⟩, ?_⟩
    · exact List.forall_mem_singleton.mpr ⟨_, _, [], .one, .one, by decide +kernel⟩
    · exact .hunk 2 rfl rfl (.done _ _)
    · exact @Applies.edit _ 0 _ [] [['x'], ['y']] [] [] rfl (.done _ _)
  · refine ⟨by decide, by decide, ?_, ?_,
      ⟨_, List.mem_cons_of_mem _ (List.mem_singleton_self _), rfl⟩, ?_⟩
    · refine List.forall_mem_cons.mpr ⟨?_, List.forall_mem_singleton.mpr ?_⟩
      · exact ⟨_, _, [], .one, .counted (by decide), by decide +kernel⟩
      · exact ⟨_, _, [], .one, .empty, by decide +kernel⟩
    · exact .hunk 0 rfl rfl (.hunk 1 rfl rfl (.done _ _))
    · exact @Applies.edit _ 0 _ _ [] _ _ rfl
        (@Applies.edit _ 1 _ [] [['y']] [] [] rfl (.done _ _))
  · refine ⟨by decide, by decide, ?_, ?_, ⟨_, List.mem_singleton_self _, rfl⟩, ?_⟩
    · exact List.forall_mem_singleton.mpr
        ⟨_, _, [], .counted (by decide), .counted (by decide), by decide +kernel⟩
    · exact .hunk 0 rfl rfl (.done _ _)
    · exact @Applies.edit _ 0 _ [] [] [] [] rfl (.done _ _)

end FairyClaw
