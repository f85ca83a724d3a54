import FairyClaw.Config.EnvFile
import FairyClaw.Foundation.LineEnds

/-! # Editing the environment file in place

Keys are updated in the lines that assign them, and missing keys are appended. The editor and the
reader see the same keys (`FairyClaw.lineUpdate_of_parsed`), and the edited lines are the lines of
the edited file (`FairyClaw.lines_editForm`).
-/

namespace FairyClaw

open Foundation

/-- The key that a line assigns, as the editor reads it. -/
def assignedKey (line : List Char) : Option String :=
  let stripped := trim isSpace line
  if stripped = [] ∨ stripped.head? = some '#' ∨ '=' ∉ stripped then none
  else some (String.ofList (trim isSpace (stripped.takeWhile (· ≠ '='))))

/-- The update of the key that a line assigns. -/
def lineUpdate (updates : EnvMap) (line : List Char) : Option (String × String) :=
  (assignedKey line).bind updates.get

/-- A line up to its equals sign, with a new value behind it. -/
def assignment (line : List Char) (value : String) : List Char :=
  line.takeWhile (· ≠ '=') ++ '=' :: value.toList

/-- A line of the file after the updates. -/
def editLine (updates : EnvMap) (line : List Char) : List Char :=
  match lineUpdate updates line with
  | none => line
  | some (_, value) =>
      let nl := assignment line value
      if nl.getLast? = some '\n' ∨ nl.getLast? = some '\r' then nl else nl ++ ['\n']

/-- The lines, with a newline at the end of the last one. -/
def closeLast (lines : List (List Char)) : List (List Char) :=
  match lines.getLast? with
  | none => lines
  | some last => if last.getLast? = some '\n' then lines else lines.dropLast ++ [last ++ ['\n']]

/-- The updates of keys that no line assigns. -/
def missingUpdates (updates : EnvMap) (lines : List (List Char)) : List (String × String) :=
  updates.rows.filter fun (key, _) => key ∉ lines.filterMap assignedKey

/-- The characters of the file, as it is read. -/
def envText (file : Option String) : List Char := universalNewlines (file.getD "").toList

/-- `merge_env_keys_preserve_lines`: the file afterwards. -/
def mergeEnvKeysPreserveLines (file : Option String) (updates : EnvMap) : Option String :=
  if updates.rows = [] then file
  else
    let lines := splitKeepEnds isLineBreak (envText file)
    let newLines := lines.map (editLine updates)
    let missing := missingUpdates updates lines
    let newLines :=
      if missing = [] then newLines
      else closeLast newLines ++ missing.map fun entry => entryLine entry ++ ['\n']
    some (String.ofList newLines.flatten)

/-! ## One line -/

/-- A line break is white space. -/
theorem isSpace_of_isLineBreak {char : Char} (stop : isLineBreak char = true) :
    isSpace char = true := by
  simp only [isLineBreak, isSpace, Bool.or_eq_true, Bool.and_eq_true, decide_eq_true_eq,
    beq_iff_eq] at stop ⊢
  omega

/-- Trimming takes the line break away. -/
theorem trim_append_stop {stop : Char} (space : isSpace stop = true) (line : List Char) :
    trim isSpace (line ++ [stop]) = trim isSpace line := by
  rw [← @trim_rdropWhile _ isSpace (line ++ [stop]), List.rdropWhile_concat_pos _ _ _ space,
    trim_rdropWhile]

/-- The key in front of an equals sign, unless a comment begins there. -/
def keyOf (front : List Char) : Option String :=
  if (front.dropWhile isSpace).head? = some '#' then none
  else some (String.ofList (trim isSpace front))

/-- A line begins with a comment exactly when the part in front of its equals sign does. -/
theorem comment_iff (front tail : List Char) :
    (front.dropWhile isSpace ++ '=' :: tail).head? = some '#' ↔
      (front.dropWhile isSpace).head? = some '#' := by
  cases front.dropWhile isSpace <;> simp

/-- Trimming an assignment trims what stands before and after its sign. -/
theorem trim_assignment (front tail : List Char) :
    trim isSpace (front ++ '=' :: tail) =
      front.dropWhile isSpace ++ '=' :: tail.rdropWhile isSpace := by
  have solid : isSpace '=' = false := by decide
  have kept : (front ++ '=' :: tail).dropWhile isSpace =
      front.dropWhile isSpace ++ '=' :: tail := by
    rw [List.dropWhile_append]
    split
    · rename_i blank
      rw [List.isEmpty_iff.mp blank, List.nil_append, List.dropWhile_cons_of_neg]
      rw [solid]
      exact Bool.false_ne_true
    · rfl
  rw [trim, kept, rdropWhile_append_cons solid]

section Front

variable {front : List Char} (separate : '=' ∉ front) (tail : List Char)
include separate

/-- There is no sign in the front part. -/
theorem front_ne : ∀ char ∈ front, decide (char ≠ '=') = true := fun _ member =>
  decide_eq_true (ne_of_mem_of_not_mem member separate)

/-- The front part reaches up to the sign. -/
theorem takeWhile_front : (front ++ '=' :: tail).takeWhile (· ≠ '=') = front := by
  rw [List.takeWhile_append_of_pos (front_ne separate), List.takeWhile_cons_of_neg (by decide),
    List.append_nil]

/-- The sign follows the front part. -/
theorem dropWhile_front : (front ++ '=' :: tail).dropWhile (· ≠ '=') = '=' :: tail := by
  rw [List.dropWhile_append_of_pos (front_ne separate), List.dropWhile_cons_of_neg (by decide)]

/-- The key does not depend on what follows the first equals sign. -/
theorem assignedKey_front : assignedKey (front ++ '=' :: tail) = keyOf front := by
  have inner : '=' ∉ front.dropWhile isSpace := fun member =>
    separate ((List.dropWhile_sublist _).mem member)
  unfold assignedKey keyOf
  simp only [trim_assignment, takeWhile_front inner, comment_iff, List.mem_append, List.mem_cons,
    true_or, or_true, not_true_eq_false, or_false, List.append_eq_nil_iff, reduceCtorEq,
    and_false, false_or]
  rw [trim, List.dropWhile_idempotent, ← trim]

/-- An assignment parses to the key of its front part and its unquoted value. -/
theorem parseEnvLine_front :
    parseEnvLine (front ++ '=' :: tail) = (keyOf front).bind fun key =>
      if key = "" then none else some (key, String.ofList (unquote (trim isSpace tail))) := by
  have inner : '=' ∉ front.dropWhile isSpace := fun member =>
    separate ((List.dropWhile_sublist _).mem member)
  have key : trim isSpace (front.dropWhile isSpace) = trim isSpace front := by
    rw [trim, List.dropWhile_idempotent, trim]
  unfold parseEnvLine keyOf
  simp only [trim_assignment, takeWhile_front inner, dropWhile_front inner, comment_iff,
    List.mem_append,
    List.mem_cons, true_or, or_true, not_true_eq_false, or_false, List.append_eq_nil_iff,
    reduceCtorEq, and_false, false_or, List.drop_one, List.tail_cons, trim_rdropWhile, key]
  split
  · rfl
  · simp only [Option.bind_some, String.ofList_eq_empty_iff]

end Front

/-! ## Edited lines -/

section Edit

variable {updates : EnvMap} {line : List Char} {entry : String × String}

/-- A line without its break after the updates. -/
def editBody (updates : EnvMap) (line : List Char) : List Char :=
  match lineUpdate updates line with
  | none => line
  | some (_, value) => assignment line value

/-- A line that is not updated stays. -/
theorem editBody_of_none (missed : lineUpdate updates line = none) :
    editBody updates line = line := by
  rw [editBody, missed]

/-- An updated line is split at its first equals sign, and keeps what stands in front of it. -/
theorem exists_front (updated : lineUpdate updates line = some entry) :
    ∃ front tail, '=' ∉ front ∧ line = front ++ '=' :: tail ∧
      (keyOf front).bind updates.get = some entry ∧
      editBody updates line = front ++ '=' :: entry.2.toList := by
  obtain ⟨key, assigned, -⟩ := Option.bind_eq_some_iff.mp updated
  have inside : '=' ∈ line := by
    by_contra absent
    rw [assignedKey] at assigned
    simp only [if_pos (Or.inr (Or.inr fun member => absent (trim_sublist.mem member)))] at assigned
    cases assigned
  obtain ⟨front, tail, rfl, separate⟩ := List.eq_append_cons_of_mem inside
  refine ⟨front, tail, separate, rfl, ?_, ?_⟩
  · rwa [lineUpdate, assignedKey_front separate] at updated
  · rw [editBody, updated]
    show assignment (front ++ '=' :: tail) entry.2 = _
    rw [assignment, takeWhile_front separate]

/-- Editing keeps the key of a line. -/
theorem lineUpdate_editBody (updates : EnvMap) (line : List Char) :
    lineUpdate updates (editBody updates line) = lineUpdate updates line := by
  cases updated : lineUpdate updates line with
  | none => rw [editBody_of_none updated, updated]
  | some entry =>
      obtain ⟨front, tail, separate, -, found, edited⟩ := exists_front updated
      rw [edited, lineUpdate, assignedKey_front separate, found]

/-- The line break of a line does not matter for its update. -/
theorem lineUpdate_append_stop {stop : Char} (space : isSpace stop = true) :
    lineUpdate updates (line ++ [stop]) = lineUpdate updates line := by
  unfold lineUpdate assignedKey
  rw [trim_append_stop space]

/-- The empty line is not updated. -/
theorem lineUpdate_nil : lineUpdate updates [] = none := rfl

/-- The update of a line is one of the updates. -/
theorem lineUpdate_named (updated : lineUpdate updates line = some entry) :
    entry ∈ updates.rows := by
  obtain ⟨key, -, found⟩ := Option.bind_eq_some_iff.mp updated
  exact (Table.get_eq_some.mp found).1

/-- The line of an appended entry assigns its key. -/
theorem lineUpdate_entryLine (member : entry ∈ updates.rows) (plain : PlainKey entry.1) :
    lineUpdate updates (entryLine entry) = some entry := by
  have trimmed := strip_eq_self_iff.mp plain.trimmed
  rw [lineUpdate, entryLine, assignedKey_front plain.separate, keyOf,
    dropWhile_eq_self_of_trim trimmed, if_neg plain.entry, trimmed, String.ofList_toList]
  exact Table.mem_rows.mp member

/-- A plain value is read back from the line that it was written to. -/
theorem parseEnvLine_editBody (updated : lineUpdate updates line = some entry)
    (key : PlainKey entry.1) (value : PlainValue entry.2) :
    parseEnvLine (editBody updates line) = some entry := by
  obtain ⟨front, tail, separate, -, found, edited⟩ := exists_front updated
  obtain ⟨name, assigned, stored⟩ := Option.bind_eq_some_iff.mp found
  obtain rfl := (Table.get_eq_some.mp stored).2
  rw [edited, parseEnvLine_front separate, assigned, Option.bind_some, if_neg key.nonempty,
    unquote_trim_iff.mpr ⟨strip_eq_self_iff.mp value.trimmed, value.unquoted⟩,
    String.ofList_toList]

/-- The update of a line is that of the entry it gives. -/
theorem lineUpdate_of_parsed (parsed : parseEnvLine line = some entry) :
    lineUpdate updates line = updates.get entry.1 := by
  unfold parseEnvLine at parsed
  unfold lineUpdate assignedKey
  simp only at parsed ⊢
  split at parsed
  · cases parsed
  · rename_i content
    rw [if_neg content, Option.bind_some]
    split at parsed
    · cases parsed
    · cases parsed
      rfl

/-- An edited line has no break in it. -/
theorem unbroken_editBody (unbroken : ∀ char ∈ line, isLineBreak char = false)
    (values : ∀ entry ∈ updates.rows, Unbroken entry.2) :
    ∀ char ∈ editBody updates line, isLineBreak char = false := by
  cases updated : lineUpdate updates line with
  | none => rwa [editBody_of_none updated]
  | some entry =>
      obtain ⟨front, tail, -, rfl, -, edited⟩ := exists_front updated
      rw [edited]
      intro char member
      rcases List.mem_append.mp member with inFront | later
      · exact unbroken char (List.mem_append_left _ inFront)
      · rcases List.mem_cons.mp later with rfl | inValue
        · rfl
        · exact values entry (lineUpdate_named updated) char inValue

/-- An updated line gets a newline behind its value. -/
theorem editLine_of_some {front tail : List Char} (separate : '=' ∉ front)
    (updated : lineUpdate updates (front ++ '=' :: tail) = some entry) (value : Unbroken entry.2) :
    editLine updates (front ++ '=' :: tail) = front ++ '=' :: entry.2.toList ++ ['\n'] := by
  have last {char : Char} (stop : isLineBreak char = true) :
      (front ++ '=' :: entry.2.toList).getLast? ≠ some char := by
    rw [List.getLast?_append_of_ne_nil _ (List.cons_ne_nil _ _)]
    intro ends
    rcases List.mem_cons.mp (List.mem_of_getLast? ends) with rfl | inValue
    · exact absurd stop (by decide)
    · exact Bool.false_ne_true ((value char inValue).symm.trans stop)
  rw [editLine, updated]
  simp only [assignment, takeWhile_front separate]
  rw [if_neg (not_or.mpr ⟨last rfl, last rfl⟩)]

/-- A line and its break after the updates. -/
theorem editLine_closed {stop : Char} (values : ∀ entry ∈ updates.rows, Unbroken entry.2)
    (stops : isLineBreak stop = true) :
    editLine updates (line ++ [stop]) =
      editBody updates line ++ [if (lineUpdate updates line).isSome then '\n' else stop] := by
  have same : lineUpdate updates (line ++ [stop]) = lineUpdate updates line :=
    lineUpdate_append_stop (isSpace_of_isLineBreak stops)
  cases updated : lineUpdate updates line with
  | none =>
      rw [editLine, same, updated, editBody_of_none updated]
      rfl
  | some entry =>
      obtain ⟨front, tail, separate, rfl, -, edited⟩ := exists_front updated
      rw [updated, List.append_assoc, List.cons_append] at same
      rw [edited, List.append_assoc, List.cons_append,
        editLine_of_some separate same (values entry (lineUpdate_named updated))]
      rfl

/-- The last line is edited like the others, and closed when it is updated. -/
theorem editLine_open (values : ∀ entry ∈ updates.rows, Unbroken entry.2) :
    editLine updates line =
      editBody updates line ++ if (lineUpdate updates line).isSome then ['\n'] else [] := by
  cases updated : lineUpdate updates line with
  | none =>
      rw [editLine, updated, editBody_of_none updated]
      exact (List.append_nil line).symm
  | some entry =>
      obtain ⟨front, tail, separate, rfl, -, edited⟩ := exists_front updated
      rw [edited, editLine_of_some separate updated (values entry (lineUpdate_named updated))]
      rfl

end Edit

/-! ## The edited file -/

section File

variable {updates : EnvMap} (values : ∀ entry ∈ updates.rows, Unbroken entry.2)

/-- A closed line after the updates. -/
def editClosed (updates : EnvMap) (line : List Char × Char) : List Char × Char :=
  (editBody updates line.1, if (lineUpdate updates line.1).isSome then '\n' else line.2)

/-- An updated line after the last break is closed. -/
def editedLast (updates : EnvMap) (rest : List Char) : List (List Char × Char) :=
  if (lineUpdate updates rest).isSome then [(editBody updates rest, '\n')] else []

/-- Any other line after the last break stays open. -/
def editedRest (updates : EnvMap) (rest : List Char) : List Char :=
  if (lineUpdate updates rest).isSome then [] else rest

/-- The lines after the updates. -/
def editForm (form : LineForm isLineBreak) : LineForm isLineBreak where
  closed := form.closed.map (editClosed updates) ++ editedLast updates form.rest
  rest := editedRest updates form.rest
  unbroken := by
    intro line member
    rcases List.mem_append.mp member with edited | last
    · obtain ⟨line, listed, rfl⟩ := List.mem_map.mp edited
      exact unbroken_editBody (form.unbroken line listed) values
    · rw [editedLast] at last
      split at last
      · rw [List.mem_singleton.mp last]
        exact unbroken_editBody form.open_ values
      · cases last
  stops := by
    intro line member
    rcases List.mem_append.mp member with edited | last
    · obtain ⟨line, listed, rfl⟩ := List.mem_map.mp edited
      rw [editClosed]
      split
      · rfl
      · exact form.stops line listed
    · rw [editedLast] at last
      split at last
      · rw [List.mem_singleton.mp last]
        rfl
      · cases last
  open_ := by
    rw [editedRest]
    split
    · exact List.forall_mem_nil _
    · exact form.open_

/-- A line that is updated is not empty. -/
theorem ne_nil_of_updated {line : List Char} {entry : String × String}
    (updated : lineUpdate updates line = some entry) : line ≠ [] := by
  rintro rfl
  cases updated

/-- The lines of the edited file are the edited lines. -/
theorem lines_editForm (form : LineForm isLineBreak) :
    (editForm values form).lines = form.lines.map (editLine updates) := by
  have closed : (form.closed.map (editClosed updates)).map (fun line => line.1 ++ [line.2]) =
      (form.closed.map fun line => line.1 ++ [line.2]).map (editLine updates) := by
    rw [List.map_map, List.map_map]
    refine List.map_congr_left fun line listed => ?_
    exact (editLine_closed values (form.stops line listed)).symm
  have last : (editedLast updates form.rest).map (fun line => line.1 ++ [line.2]) ++
      openLine (editedRest updates form.rest) = (openLine form.rest).map (editLine updates) := by
    cases updated : lineUpdate updates form.rest with
    | none =>
        have fixed : editLine updates form.rest = form.rest := by rw [editLine, updated]
        rw [editedLast, editedRest, updated, map_openLine_of_fixed fixed]
        rfl
    | some entry =>
        rw [map_openLine _ (ne_nil_of_updated updated), editLine_open values, editedLast,
          editedRest, updated]
        rfl
  rw [LineForm.lines, LineForm.lines, List.map_append, ← closed, ← last, ← List.append_assoc,
    ← List.map_append]
  rfl

/-- The lines of the edited text are the edited lines. -/
theorem bodies_editForm (form : LineForm isLineBreak) :
    (editForm values form).bodies = form.bodies.map (editBody updates) := by
  have last : (editedLast updates form.rest).map Prod.fst ++
      openLine (editedRest updates form.rest) = (openLine form.rest).map (editBody updates) := by
    cases updated : lineUpdate updates form.rest with
    | none =>
        rw [editedLast, editedRest, updated, map_openLine_of_fixed (editBody_of_none updated)]
        rfl
    | some entry =>
        rw [map_openLine _ (ne_nil_of_updated updated), editedLast, editedRest, updated]
        rfl
  have closed : (form.closed.map (editClosed updates)).map Prod.fst =
      (form.closed.map Prod.fst).map (editBody updates) := by
    rw [List.map_map, List.map_map]
    rfl
  rw [LineForm.bodies, LineForm.bodies, List.map_append, ← closed, ← last, ← List.append_assoc,
    ← List.map_append]
  rfl

/-- The newline that is missing at the end of a text. -/
def missingEnd (text : List Char) : List Char :=
  if text = [] ∨ text.getLast? = some '\n' then [] else ['\n']

/-- Closing the last line adds the break that it lacks. -/
theorem flatten_closeLast {lines : List (List Char)} (filled : ∀ line ∈ lines, line ≠ []) :
    (closeLast lines).flatten = lines.flatten ++ missingEnd lines.flatten := by
  rcases lines.eq_nil_or_concat' with rfl | ⟨front, last, rfl⟩
  · rfl
  · have some := filled last (List.mem_append_right _ (List.mem_singleton_self _))
    rw [closeLast, List.getLast?_concat]
    simp only [List.flatten_append, List.flatten_singleton, missingEnd, List.append_eq_nil_iff,
      some, and_false, false_or, List.getLast?_append_of_ne_nil _ some, List.dropLast_concat]
    split
    · rw [List.append_nil, List.flatten_append, List.flatten_singleton]
    · rw [List.flatten_append, List.flatten_singleton, List.append_assoc]

/-- The line that is closed before keys are appended. -/
def closedEnd (form : LineForm isLineBreak) : List (List Char × Char) :=
  if form.text = [] ∨ form.text.getLast? = some '\n' then [] else [(form.rest, '\n')]

/-- The appended lines. -/
def appended (missing : List (String × String)) : List (List Char × Char) :=
  missing.map fun entry => (entryLine entry, '\n')

/-- A file to which missing keys are appended. -/
def appendForm (form : LineForm isLineBreak) (missing : List (String × String))
    (plain : ∀ entry ∈ missing, PlainKey entry.1 ∧ PlainValue entry.2) : LineForm isLineBreak where
  closed := form.closed ++ closedEnd form ++ appended missing
  rest := []
  unbroken := by
    intro line member
    rcases List.mem_append.mp member with member | added
    · rcases List.mem_append.mp member with kept | last
      · exact form.unbroken line kept
      · rw [closedEnd] at last
        split at last
        · cases last
        · rw [List.mem_singleton.mp last]
          exact form.open_
    · obtain ⟨entry, listed, rfl⟩ := List.mem_map.mp added
      exact unbroken_entryLine (plain entry listed).1 (plain entry listed).2.unbroken
  stops := by
    intro line member
    rcases List.mem_append.mp member with member | added
    · rcases List.mem_append.mp member with kept | last
      · exact form.stops line kept
      · rw [closedEnd] at last
        split at last
        · cases last
        · rw [List.mem_singleton.mp last]
          rfl
    · obtain ⟨entry, listed, rfl⟩ := List.mem_map.mp added
      rfl
  open_ := List.forall_mem_nil _

/-- Missing keys are appended after the last line, each on its own. -/
theorem text_appendForm (form : LineForm isLineBreak) (missing : List (String × String))
    (plain : ∀ entry ∈ missing, PlainKey entry.1 ∧ PlainValue entry.2) :
    (appendForm form missing plain).text = form.text ++ missingEnd form.text ++
      missing.flatMap fun entry => entryLine entry ++ ['\n'] := by
  have closed : (closedEnd form).flatMap (fun line => line.1 ++ [line.2]) =
      form.rest ++ missingEnd form.text := by
    rw [closedEnd, missingEnd]
    split
    · rename_i ended
      have complete : form.rest = [] := by
        rcases ended with blank | ends
        · exact (List.append_eq_nil_iff.mp blank).2
        · exact LineForm.rest_eq_nil ends rfl
      rw [complete]
      rfl
    · exact List.flatMap_singleton _ _
  have added : (appended missing).flatMap (fun line => line.1 ++ [line.2]) =
      missing.flatMap fun entry => entryLine entry ++ ['\n'] := by
    rw [appended, List.flatMap_map]
  show (form.closed ++ closedEnd form ++ appended missing).flatMap _ ++ [] = _
  rw [List.append_nil, List.flatMap_append, List.flatMap_append, closed, added,
    ← List.append_assoc, LineForm.text]

/-- The lines with the missing keys are those of the text, then the new ones. -/
theorem bodies_appendForm (form : LineForm isLineBreak) (missing : List (String × String))
    (plain : ∀ entry ∈ missing, PlainKey entry.1 ∧ PlainValue entry.2) :
    (appendForm form missing plain).bodies =
      form.closed.map Prod.fst ++ (closedEnd form).map Prod.fst ++ missing.map entryLine := by
  show (form.closed ++ closedEnd form ++ appended missing).map _ ++ [] = _
  rw [List.append_nil, List.map_append, List.map_append, appended, List.map_map]
  rfl

/-- A blank line is closed when the text ends with a break that is not a newline. -/
def BlankEnd (form : LineForm isLineBreak) : Prop :=
  form.rest = [] ∧ form.text ≠ [] ∧ form.text.getLast? ≠ some '\n'

instance (form : LineForm isLineBreak) : Decidable (BlankEnd form) :=
  inferInstanceAs (Decidable (_ ∧ _))

/-- Closing the last line adds an empty one when the text ends with another break. -/
theorem closed_end_bodies (form : LineForm isLineBreak) :
    form.closed.map Prod.fst ++ (closedEnd form).map Prod.fst =
      form.bodies ++ if BlankEnd form then [[]] else [] := by
  rw [LineForm.bodies, List.append_assoc, closedEnd]
  refine congrArg (form.closed.map Prod.fst ++ ·) ?_
  by_cases ended : form.text = [] ∨ form.text.getLast? = some '\n'
  · have complete : form.rest = [] := by
      rcases ended with blank | ends
      · exact (List.append_eq_nil_iff.mp blank).2
      · exact LineForm.rest_eq_nil ends rfl
    have whole : ¬BlankEnd form := fun blank => ended.elim blank.2.1 blank.2.2
    rw [if_pos ended, if_neg whole, complete]
    rfl
  · rw [if_neg ended]
    by_cases complete : form.rest = []
    · rw [if_pos ⟨complete, not_or.mp ended⟩, complete]
      rfl
    · rw [if_neg fun blank => complete blank.1, openLine, if_neg (by rwa [List.isEmpty_iff])]
      rfl

end File

end FairyClaw
