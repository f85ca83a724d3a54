import FairyClaw.Config.EnvEdit

/-! # The environment file after in-place updates

The edited lines and the appended ones are read back as the previous mapping with the updates, and
the same updates again change nothing. The other lines stay, unless missing keys are appended behind
a last line that ends with a break other than a newline: then a blank line comes in between
(`FairyClaw.env_edit_iff`).
-/

namespace FairyClaw

open Foundation

/-! ## The merged file -/

section Merge

variable {updates : EnvMap}
  (plain : ∀ entry ∈ updates.rows, PlainKey entry.1 ∧ PlainValue entry.2)

/-- A missing update is one of the updates. -/
theorem mem_of_missing {lines : List (List Char)} {entry : String × String}
    (missing : entry ∈ missingUpdates updates lines) : entry ∈ updates.rows :=
  (List.mem_filter.mp missing).1

/-- The file afterwards. -/
def mergedForm (form : LineForm isLineBreak) : LineForm isLineBreak :=
  let edited := editForm (fun entry member => (plain entry member).2.unbroken) form
  if missingUpdates updates form.lines = [] then edited
  else
    appendForm edited (missingUpdates updates form.lines)
      fun entry missing => plain entry (mem_of_missing missing)

/-- The characters that are written are those of the merged lines. -/
theorem mergeEnvKeysPreserveLines_eq {file : Option String} {form : LineForm isLineBreak}
    (read : envText file = form.text) (filled : updates.rows ≠ []) :
    mergeEnvKeysPreserveLines file updates = some (String.ofList (mergedForm plain form).text) := by
  have values : ∀ entry ∈ updates.rows, Unbroken entry.2 := fun entry member =>
    (plain entry member).2.unbroken
  rw [mergeEnvKeysPreserveLines, if_neg filled, read, splitKeepEnds_join]
  refine congrArg (fun chars => some (String.ofList chars)) ?_
  simp only [mergedForm]
  split
  · rw [← lines_editForm values, LineForm.flatten_lines]
  · rw [List.flatten_append, ← lines_editForm values,
      flatten_closeLast fun line => LineForm.ne_nil_of_mem_lines, LineForm.flatten_lines,
      text_appendForm, ← List.flatMap_def]

/-- The lines afterwards: the edited ones, a blank line in one case, and the missing updates. -/
theorem bodies_mergedForm (form : LineForm isLineBreak) :
    (mergedForm plain form).bodies =
      form.bodies.map (editBody updates) ++
        (if missingUpdates updates form.lines ≠ [] ∧
          BlankEnd (editForm (fun entry member => (plain entry member).2.unbroken) form)
          then [[]] else []) ++
        (missingUpdates updates form.lines).map entryLine := by
  rw [mergedForm]
  split
  · rename_i none
    rw [none, if_neg fun both => both.1 rfl, List.map_nil, List.append_nil, List.append_nil,
      bodies_editForm]
  · rename_i some
    rw [bodies_appendForm, closed_end_bodies, bodies_editForm]
    simp only [ne_eq, some, not_false_eq_true, true_and]

/-- No carriage return is left after the translation. -/
theorem return_not_mem_universalNewlines (chars : List Char) :
    '\r' ∉ universalNewlines chars := by
  induction chars using universalNewlines.induct with
  | case1 rest ih =>
      rw [universalNewlines]
      exact List.not_mem_cons_of_ne_of_not_mem (by decide) ih
  | case2 rest other ih =>
      rw [universalNewlines]
      · exact List.not_mem_cons_of_ne_of_not_mem (by decide) ih
      · exact other
  | case3 char rest first second ih =>
      rw [universalNewlines]
      · exact List.not_mem_cons_of_ne_of_not_mem (fun same => second same.symm) ih
      · exact first
      · exact second
  | case4 => exact List.not_mem_nil

/-- A newline is no carriage return. -/
theorem newline_ne_return : '\n' ≠ '\r' := by decide

/-- No line of the file ends with a carriage return. -/
def Translated (form : LineForm isLineBreak) : Prop := ∀ line ∈ form.closed, line.2 ≠ '\r'

/-- A carriage return of the text ends one of its lines. -/
theorem return_mem_text_iff {form : LineForm isLineBreak} :
    '\r' ∈ form.text ↔ ∃ line ∈ form.closed, line.2 = '\r' := by
  have stops : isLineBreak '\r' = true := by decide
  constructor
  · intro member
    rcases List.mem_append.mp member with closed | rest
    · obtain ⟨line, listed, inside⟩ := List.mem_flatMap.mp closed
      rcases List.mem_append.mp inside with body | stop
      · exact absurd stops (Bool.eq_false_iff.mp (form.unbroken line listed _ body))
      · exact ⟨line, listed, (List.mem_singleton.mp stop).symm⟩
    · exact absurd stops (Bool.eq_false_iff.mp (form.open_ _ rest))
  · rintro ⟨line, listed, same⟩
    refine List.mem_append_left _ (List.mem_flatMap.mpr ⟨line, listed, ?_⟩)
    exact List.mem_append_right _ (List.mem_singleton.mpr same.symm)

/-- A text is translated when it has no carriage return. -/
theorem translated_iff {form : LineForm isLineBreak} : Translated form ↔ '\r' ∉ form.text := by
  rw [return_mem_text_iff]
  exact ⟨fun translated ⟨line, listed, same⟩ => translated line listed same,
    fun absent line listed same => absent ⟨line, listed, same⟩⟩

/-- A written text is read as it is. -/
theorem envText_text {form : LineForm isLineBreak} (translated : Translated form) :
    envText (some (String.ofList form.text)) = form.text := by
  show universalNewlines (String.ofList form.text).toList = form.text
  rw [String.toList_ofList]
  exact universalNewlines_eq_self fun char member same =>
    translated_iff.mp translated (same ▸ member)

/-- The text of a file has a form that is translated. -/
theorem exists_form (file : Option String) :
    ∃ form : LineForm isLineBreak, envText file = form.text ∧ Translated form := by
  obtain ⟨form, same⟩ := @LineForm.exists_text_eq _ isLineBreak (envText file)
  refine ⟨form, same.symm, translated_iff.mpr ?_⟩
  rw [same]
  exact return_not_mem_universalNewlines _

/-- The merged text is translated. -/
theorem translated_mergedForm {form : LineForm isLineBreak} (translated : Translated form) :
    Translated (mergedForm plain form) := by
  have edited (values : ∀ entry ∈ updates.rows, Unbroken entry.2) :
      Translated (editForm values form) := by
    intro line member
    rcases List.mem_append.mp member with edited | last
    · obtain ⟨line, listed, rfl⟩ := List.mem_map.mp edited
      rw [editClosed]
      split
      · exact newline_ne_return
      · exact translated line listed
    · rw [editedLast] at last
      split at last
      · rw [List.mem_singleton.mp last]
        exact newline_ne_return
      · cases last
  rw [mergedForm]
  split
  · exact edited _
  · intro line member
    rcases List.mem_append.mp member with member | added
    · rcases List.mem_append.mp member with kept | last
      · exact edited _ line kept
      · rw [closedEnd] at last
        split at last
        · cases last
        · rw [List.mem_singleton.mp last]
          exact newline_ne_return
    · obtain ⟨entry, listed, rfl⟩ := List.mem_map.mp added
      exact newline_ne_return

/-! ## What the merge keeps -/

/-- The lines of the file that assign no updated key. -/
def keptLines (updates : EnvMap) (file : Option String) : List (List Char) :=
  (splitLines isLineBreak (envText file)).filter fun line => lineUpdate updates line = none

/-- A file is read line by line, later keys over earlier ones. -/
theorem readEnvFile_eq (file : Option String) :
    readEnvFile file =
      ((splitLines isLineBreak (envText file)).filterMap parseEnvLine).foldl Table.put {} := by
  cases file with
  | none => rfl
  | some text => rfl

/-- The lines that are not updated stay, in their order. -/
theorem filter_editBody (lines : List (List Char)) :
    (lines.map (editBody updates)).filter (fun line => lineUpdate updates line = none) =
      lines.filter fun line => lineUpdate updates line = none := by
  rw [List.filter_map]
  have same : (fun line => decide (lineUpdate updates line = none)) ∘ editBody updates =
      fun line => decide (lineUpdate updates line = none) := by
    funext line
    rw [Function.comp_apply, lineUpdate_editBody]
  rw [same]
  refine (List.map_congr_left fun line kept => ?_).trans (List.map_id _)
  exact editBody_of_none (of_decide_eq_true (List.mem_filter.mp kept).2)

/-- The lines that assign no updated key, and the blank line that may come behind them. -/
theorem filter_bodies_mergedForm (form : LineForm isLineBreak) :
    (mergedForm plain form).bodies.filter (fun line => lineUpdate updates line = none) =
      (form.bodies.filter fun line => lineUpdate updates line = none) ++
        if missingUpdates updates form.lines ≠ [] ∧
          BlankEnd (editForm (fun entry member => (plain entry member).2.unbroken) form)
          then [[]] else [] := by
  have added : ((missingUpdates updates form.lines).map entryLine).filter
      (fun line => lineUpdate updates line = none) = [] := by
    refine List.filter_eq_nil_iff.mpr fun line member => ?_
    obtain ⟨entry, missing, rfl⟩ := List.mem_map.mp member
    have listed := mem_of_missing missing
    rw [lineUpdate_entryLine listed (plain entry listed).1]
    simp
  rw [bodies_mergedForm, List.filter_append, List.filter_append, added, List.append_nil,
    filter_editBody]
  split
  · rfl
  · rfl

/-- The keys that the lines assign are those of their bodies. -/
theorem assignedKeys_lines (form : LineForm isLineBreak) :
    form.lines.filterMap assignedKey = form.bodies.filterMap assignedKey := by
  rw [LineForm.lines, LineForm.bodies, List.filterMap_append, List.filterMap_append,
    List.filterMap_map, List.filterMap_map]
  refine congrArg₂ _ (List.filterMap_congr fun line listed => ?_) rfl
  show assignedKey (line.1 ++ [line.2]) = assignedKey line.1
  unfold assignedKey
  rw [trim_append_stop (isSpace_of_isLineBreak (form.stops line listed))]

/-- An update is missing when it is that of no line. -/
theorem mem_missing_iff {form : LineForm isLineBreak} {entry : String × String} :
    entry ∈ missingUpdates updates form.lines ↔
      entry ∈ updates.rows ∧ ∀ line ∈ form.bodies, lineUpdate updates line ≠ some entry := by
  rw [missingUpdates, assignedKeys_lines, List.mem_filter, decide_eq_true_eq, List.mem_filterMap]
  refine and_congr_right fun listed => ?_
  rw [not_exists]
  refine forall_congr' fun line => ?_
  rw [not_and]
  refine imp_congr_right fun _ => not_congr ⟨fun assigned => ?_, fun updated => ?_⟩
  · rw [lineUpdate, assigned, Option.bind_some, Table.mem_rows.mp listed]
  · obtain ⟨key, assigned, stored⟩ := Option.bind_eq_some_iff.mp updated
    rw [assigned, (Table.get_eq_some.mp stored).2]

/-! ## Reading the merged file -/

/-- What is read under a name: the last entry of the lines. -/
theorem get_readEnvFile {file : Option String} {form : LineForm isLineBreak}
    (read : envText file = form.text) (name : String) :
    (readEnvFile file).get name =
      (form.bodies.filterMap fun line => (parseEnvLine line).filter (·.1 = name)).getLast? := by
  rw [readEnvFile_eq, read, splitLines_join, Table.get_foldl_put, ← List.head?_filter,
    List.filter_reverse, List.head?_reverse, List.filter_filterMap]
  exact Option.or_none

/-- Editing a line changes no entry of a name without an update. -/
theorem filter_parse_editBody {name : String} (other : updates.get name = none)
    (line : List Char) :
    (parseEnvLine (editBody updates line)).filter (·.1 = name) =
      (parseEnvLine line).filter (·.1 = name) := by
  cases updated : lineUpdate updates line with
  | none => rw [editBody_of_none updated]
  | some entry =>
      have unnamed {line : List Char} (updated : lineUpdate updates line = some entry) :
          (parseEnvLine line).filter (·.1 = name) = none := by
        refine Option.filter_eq_none_iff.mpr fun read parsed named => ?_
        rw [lineUpdate_of_parsed parsed, of_decide_eq_true named, other] at updated
        cases updated
      rw [unnamed updated, unnamed ((lineUpdate_editBody updates line).trans updated)]

/-- A line of the merged text is an edited line, an empty one, or that of an update. -/
theorem mem_bodies_mergedForm {form : LineForm isLineBreak} {line : List Char}
    (listed : line ∈ (mergedForm plain form).bodies) :
    (∃ old ∈ form.bodies, line = editBody updates old) ∨ line = [] ∨
      ∃ entry ∈ updates.rows, line = entryLine entry := by
  rw [bodies_mergedForm] at listed
  rcases List.mem_append.mp listed with front | added
  · rcases List.mem_append.mp front with edited | blank
    · obtain ⟨old, member, rfl⟩ := List.mem_map.mp edited
      exact Or.inl ⟨old, member, rfl⟩
    · split at blank
      · exact Or.inr (Or.inl (List.mem_singleton.mp blank))
      · cases blank
  · obtain ⟨entry, missing, rfl⟩ := List.mem_map.mp added
    exact Or.inr (Or.inr ⟨entry, mem_of_missing missing, rfl⟩)

/-- Each update is on a line of the merged file. -/
theorem exists_updated (form : LineForm isLineBreak) {entry : String × String}
    (updated : entry ∈ updates.rows) :
    ∃ line ∈ (mergedForm plain form).bodies, lineUpdate updates line = some entry := by
  rw [bodies_mergedForm]
  by_cases missing : entry ∈ missingUpdates updates form.lines
  · refine ⟨entryLine entry, List.mem_append_right _ (List.mem_map_of_mem missing), ?_⟩
    exact lineUpdate_entryLine updated (plain entry updated).1
  · rw [mem_missing_iff, not_and] at missing
    push Not at missing
    obtain ⟨line, listed, found⟩ := missing updated
    refine ⟨editBody updates line, ?_, (lineUpdate_editBody updates line).trans found⟩
    exact List.mem_append_left _ (List.mem_append_left _ (List.mem_map_of_mem listed))

/-- A line of the merged file with an update gives this update. -/
theorem parse_mergedForm {form : LineForm isLineBreak} {line : List Char}
    {entry : String × String} (listed : line ∈ (mergedForm plain form).bodies)
    (updated : lineUpdate updates line = some entry) : parseEnvLine line = some entry := by
  obtain ⟨key, value⟩ := plain entry (lineUpdate_named updated)
  rcases mem_bodies_mergedForm plain listed with ⟨old, -, rfl⟩ | rfl | ⟨other, member, rfl⟩
  · rw [lineUpdate_editBody] at updated
    exact parseEnvLine_editBody updated key value
  · cases updated
  · rw [lineUpdate_entryLine member (plain other member).1] at updated
    cases updated
    rw [parseEnvLine_entryLine key, (readEntry_eq_self_iff value.unbroken).mpr value]

/-- The merged file gives the update of a name that has one. -/
theorem get_merged_of_update {form : LineForm isLineBreak} {file : Option String}
    (read : envText file = (mergedForm plain form).text) {entry : String × String}
    (updated : entry ∈ updates.rows) :
    (readEnvFile file).get entry.1 = some entry := by
  rw [get_readEnvFile read]
  obtain ⟨line, listed, found⟩ := exists_updated plain form updated
  have inside : entry ∈ (mergedForm plain form).bodies.filterMap fun line =>
      (parseEnvLine line).filter (·.1 = entry.1) := by
    refine List.mem_filterMap.mpr ⟨line, listed, ?_⟩
    rw [parse_mergedForm plain listed found]
    exact Option.filter_some_pos (decide_eq_true rfl)
  obtain ⟨last, ends⟩ := Option.ne_none_iff_exists'.mp fun none =>
    List.ne_nil_of_mem inside (List.getLast?_eq_none_iff.mp none)
  obtain ⟨line, listed, given⟩ := List.mem_filterMap.mp (List.mem_of_getLast? ends)
  obtain ⟨parsed, named⟩ := Option.filter_eq_some_iff.mp given
  have same : lineUpdate updates line = some entry := by
    rw [lineUpdate_of_parsed parsed, of_decide_eq_true named]
    exact Table.mem_rows.mp updated
  rw [ends, ← parsed, parse_mergedForm plain listed same]

/-- The merged file gives what the file gave under a name without an update. -/
theorem get_merged_of_none {form : LineForm isLineBreak} {before after : Option String}
    (old : envText before = form.text) (new : envText after = (mergedForm plain form).text)
    {name : String} (other : updates.get name = none) :
    (readEnvFile after).get name = (readEnvFile before).get name := by
  have added : ((missingUpdates updates form.lines).map entryLine).filterMap
      (fun line => (parseEnvLine line).filter (·.1 = name)) = [] := by
    refine List.filterMap_eq_nil_iff.mpr fun line member => ?_
    obtain ⟨entry, missing, rfl⟩ := List.mem_map.mp member
    have listed := mem_of_missing missing
    refine Option.filter_eq_none_iff.mpr fun read parsed named => ?_
    have found := @lineUpdate_of_parsed updates _ _ parsed
    rw [of_decide_eq_true named, other, lineUpdate_entryLine listed (plain entry listed).1] at found
    cases found
  rw [get_readEnvFile old, get_readEnvFile new, bodies_mergedForm, List.filterMap_append,
    List.filterMap_append, List.filterMap_map, added, List.append_nil]
  have edited : (fun line => (parseEnvLine line).filter (·.1 = name)) ∘ editBody updates =
      fun line => (parseEnvLine line).filter (·.1 = name) :=
    funext (filter_parse_editBody other)
  rw [edited]
  split
  · exact congrArg List.getLast? (List.append_nil _)
  · exact congrArg List.getLast? (List.append_nil _)

/-! ## Merging again -/

/-- A line that is not updated stays, with its break. -/
theorem editLine_of_none {line : List Char} (missed : lineUpdate updates line = none) :
    editLine updates line = line := by
  rw [editLine, missed]

/-- An edited line stays. -/
theorem editLine_editLine (values : ∀ entry ∈ updates.rows, Unbroken entry.2) (line : List Char) :
    editLine updates (editLine updates line) = editLine updates line := by
  cases updated : lineUpdate updates line with
  | none => rw [editLine_of_none updated, editLine_of_none updated]
  | some entry =>
      obtain ⟨front, tail, separate, rfl, found, -⟩ := exists_front updated
      have value := values entry (lineUpdate_named updated)
      have again :
          lineUpdate updates (front ++ '=' :: (entry.2.toList ++ ['\n'])) = some entry := by
        rw [lineUpdate, assignedKey_front separate, found]
      rw [editLine_of_some separate updated value, List.append_assoc, List.cons_append,
        editLine_of_some separate again value, List.append_assoc, List.cons_append]

/-- The edited rest is not updated again, since it has been closed. -/
theorem lineUpdate_editedRest (rest : List Char) :
    lineUpdate updates (editedRest updates rest) = none := by
  rw [editedRest]
  split
  · exact lineUpdate_nil
  · rename_i missed
    rwa [Option.not_isSome_iff_eq_none] at missed

include plain in
/-- A line of the merged file stays when the same updates are made again. -/
theorem editLine_mergedForm {form : LineForm isLineBreak} {line : List Char}
    (listed : line ∈ (mergedForm plain form).lines) : editLine updates line = line := by
  have values : ∀ entry ∈ updates.rows, Unbroken entry.2 := fun entry member =>
    (plain entry member).2.unbroken
  have edited {line : List Char} (listed : line ∈ (editForm values form).lines) :
      editLine updates line = line := by
    rw [lines_editForm] at listed
    obtain ⟨old, -, rfl⟩ := List.mem_map.mp listed
    exact editLine_editLine values old
  rw [mergedForm] at listed
  split at listed
  · exact edited listed
  · rw [LineForm.lines] at listed
    rcases List.mem_append.mp listed with closed | open_
    · obtain ⟨pair, member, rfl⟩ := List.mem_map.mp closed
      rcases List.mem_append.mp member with member | added
      · rcases List.mem_append.mp member with kept | last
        · exact edited (List.mem_append_left _ (List.mem_map_of_mem kept))
        · rw [closedEnd] at last
          split at last
          · cases last
          · rw [List.mem_singleton.mp last]
            refine editLine_of_none ?_
            rw [lineUpdate_append_stop (show isSpace '\n' = true by decide)]
            exact lineUpdate_editedRest form.rest
      · obtain ⟨entry, missing, rfl⟩ := List.mem_map.mp added
        have member := mem_of_missing missing
        have found : lineUpdate updates (entryLine entry ++ ['\n']) = some entry := by
          rw [lineUpdate_append_stop (by decide),
            lineUpdate_entryLine member (plain entry member).1]
        rw [entryLine, List.append_assoc, List.cons_append] at found
        show editLine updates (entryLine entry ++ ['\n']) = entryLine entry ++ ['\n']
        rw [entryLine, List.append_assoc, List.cons_append,
          editLine_of_some (plain entry member).1.separate found (values entry member),
          List.append_assoc, List.cons_append]
    · cases open_

include plain in
/-- Merging the same updates again changes nothing. -/
theorem merge_merge {form : LineForm isLineBreak} {file : Option String}
    (read : envText file = form.text) (translated : Translated form) :
    mergeEnvKeysPreserveLines (mergeEnvKeysPreserveLines file updates) updates =
      mergeEnvKeysPreserveLines file updates := by
  by_cases filled : updates.rows = []
  · simp only [mergeEnvKeysPreserveLines, if_pos filled]
  · have settled : missingUpdates updates (mergedForm plain form).lines = [] := by
      refine List.eq_nil_iff_forall_not_mem.mpr fun entry missing => ?_
      obtain ⟨updated, none⟩ := mem_missing_iff.mp missing
      obtain ⟨line, listed, found⟩ := exists_updated plain form updated
      exact none line listed found
    have same : (mergedForm plain (mergedForm plain form)).text = (mergedForm plain form).text := by
      rw [mergedForm, if_pos settled, ← LineForm.flatten_lines, lines_editForm,
        ← LineForm.flatten_lines]
      refine congrArg List.flatten ((List.map_congr_left fun line listed => ?_).trans
        (List.map_id _))
      exact editLine_mergedForm plain listed
    rw [mergeEnvKeysPreserveLines_eq plain read filled, mergeEnvKeysPreserveLines_eq plain
      (envText_text (translated_mergedForm plain translated)) filled, same]

/-! ## The blank line -/

/-- The last line stays, and ends with a break other than a newline. -/
def OtherEnd (updates : EnvMap) (lines : List (List Char)) : Prop :=
  ∃ last ∈ lines.getLast?, lineUpdate updates last = none ∧
    ∃ stop ∈ last.getLast?, isLineBreak stop = true ∧ stop ≠ '\n'

/-- When the edited text ends with a break other than a newline. -/
theorem blankEnd_editForm_iff (values : ∀ entry ∈ updates.rows, Unbroken entry.2)
    (form : LineForm isLineBreak) :
    BlankEnd (editForm values form) ↔ OtherEnd updates form.lines := by
  by_cases complete : form.rest = []
  · have still : (editForm values form).rest = [] := by
      show editedRest updates form.rest = []
      rw [complete]
      rfl
    have changed : (editForm values form).closed = form.closed.map (editClosed updates) := by
      show _ ++ editedLast updates form.rest = _
      rw [complete]
      exact List.append_nil _
    rcases form.closed.eq_nil_or_concat' with empty | ⟨front, last, closed⟩
    · refine iff_of_false (fun blank => blank.2.1 ?_) ?_
      · rw [LineForm.text, changed, still, empty]
        rfl
      · rintro ⟨last, ends, -⟩
        rw [LineForm.lines, complete, empty] at ends
        cases ends
    · have stops : isLineBreak last.2 = true :=
        form.stops last (closed ▸ List.mem_append_right _ (List.mem_singleton_self last))
      rw [closed, List.map_append, List.map_singleton] at changed
      have ends := LineForm.getLast?_text_of_closed still changed
      have filled : (editForm values form).text ≠ [] := fun empty => by
        rw [empty] at ends
        cases ends
      rw [BlankEnd, OtherEnd, LineForm.getLast?_lines_of_closed complete closed, ends]
      simp only [still, ne_eq, filled, not_false_eq_true, true_and, Option.some_inj, editClosed,
        Option.mem_def, exists_eq_left', List.getLast?_concat, stops,
        lineUpdate_append_stop (isSpace_of_isLineBreak stops)]
      cases updated : lineUpdate updates last.1 with
      | none => simp
      | some entry => simp
  · have open_ : ¬OtherEnd updates form.lines := by
      rintro ⟨last, ends, -, stop, stops, breaks, -⟩
      rw [LineForm.getLast?_lines complete] at ends
      cases ends
      exact absurd breaks (Bool.eq_false_iff.mp (form.open_ stop (List.mem_of_getLast? stops)))
    refine iff_of_false (fun blank => ?_) open_
    cases updated : lineUpdate updates form.rest with
    | none =>
        have rest : editedRest updates form.rest = [] := blank.1
        rw [editedRest, updated] at rest
        exact complete rest
    | some entry =>
        have still : (editForm values form).rest = [] := by
          show editedRest updates form.rest = []
          rw [editedRest, updated]
          rfl
        have changed : (editForm values form).closed =
            form.closed.map (editClosed updates) ++ [(editBody updates form.rest, '\n')] := by
          show _ ++ editedLast updates form.rest = _
          rw [editedLast, updated]
          rfl
        exact blank.2.2 (LineForm.getLast?_text_of_closed still changed)

end Merge

/-- Keys are missing in a file whose last line stays, and ends with a break other than a newline. -/
def BlankAppended (file : Option String) (updates : EnvMap) : Prop :=
  let lines := splitKeepEnds isLineBreak (envText file)
  missingUpdates updates lines ≠ [] ∧ OtherEnd updates lines

/-- **Editing in place.** For plain updates, the file afterwards gives the previous mapping with the
updates, the lines that assign no updated key stay, and the same updates again change nothing,
exactly when no keys are missing or the last line is updated or does not end with a break other than
a newline; only the middle part can fail. -/
theorem env_edit_iff (file : Option String) (updates : EnvMap)
    (plain : ∀ entry ∈ updates.rows, PlainKey entry.1 ∧ PlainValue entry.2) :
    let after := mergeEnvKeysPreserveLines file updates
    ((∀ name, (readEnvFile after).get name =
        (updates.get name).or ((readEnvFile file).get name)) ∧
      keptLines updates after = keptLines updates file ∧
      mergeEnvKeysPreserveLines after updates = after) ↔
    ¬BlankAppended file updates := by
  intro after
  obtain ⟨form, read, translated⟩ := exists_form file
  have kept {file : Option String} {form : LineForm isLineBreak} (read : envText file = form.text) :
      keptLines updates file = form.bodies.filter fun line => lineUpdate updates line = none := by
    rw [keptLines, read, splitLines_join]
  by_cases filled : updates.rows = []
  · have same : after = file := if_pos filled
    have unnamed (name : String) : updates.get name = none :=
      Table.get_eq_none.mpr fun entry member => absurd (filled ▸ member) List.not_mem_nil
    refine iff_of_true ⟨fun name => ?_, ?_, ?_⟩ fun blank => blank.1 ?_
    · rw [same, unnamed, Option.none_or]
    · rw [same]
    · rw [same]
      exact same
    · rw [missingUpdates, filled]
      rfl
  · have written : after = some (String.ofList (mergedForm plain form).text) :=
      mergeEnvKeysPreserveLines_eq plain read filled
    have readAfter : envText after = (mergedForm plain form).text := by
      rw [written]
      exact envText_text (translated_mergedForm plain translated)
    have condition : BlankAppended file updates ↔ missingUpdates updates form.lines ≠ [] ∧
        BlankEnd (editForm (fun entry member => (plain entry member).2.unbroken) form) := by
      rw [BlankAppended, read, splitKeepEnds_join, blankEnd_editForm_iff]
    have frame :
        keptLines updates after = keptLines updates file ↔ ¬BlankAppended file updates := by
      rw [kept readAfter, kept read, filter_bodies_mergedForm, condition]
      split
      · rename_i blank
        refine iff_of_false (fun same => ?_) (fun none => none blank)
        have longer := congrArg List.length same
        rw [List.length_append, List.length_singleton] at longer
        omega
      · rename_i whole
        exact iff_of_true (List.append_nil _) whole
    rw [← frame]
    refine ⟨fun all => all.2.1, fun same =>
      ⟨fun name => ?_, same, merge_merge plain read translated⟩⟩
    cases stored : updates.get name with
    | none => exact (get_merged_of_none plain read readAfter stored).trans Option.none_or.symm
    | some entry =>
        obtain ⟨updated, rfl⟩ := Table.get_eq_some.mp stored
        exact get_merged_of_update plain readAfter updated

/-- One key for a host. -/
def hostUpdate : EnvMap := ⟨[("HOST", "0.0.0.0")], by decide⟩

/-- The host is added after the port, and the comment stays. -/
theorem env_edit_comment :
    (∀ name, (readEnvFile (mergeEnvKeysPreserveLines (some "# ports\n\nPORT=8000") hostUpdate)).get
        name = (hostUpdate.get name).or ((readEnvFile (some "# ports\n\nPORT=8000")).get name)) ∧
      keptLines hostUpdate (mergeEnvKeysPreserveLines (some "# ports\n\nPORT=8000") hostUpdate) =
        keptLines hostUpdate (some "# ports\n\nPORT=8000") ∧
      mergeEnvKeysPreserveLines
          (mergeEnvKeysPreserveLines (some "# ports\n\nPORT=8000") hostUpdate) hostUpdate =
        mergeEnvKeysPreserveLines (some "# ports\n\nPORT=8000") hostUpdate := by
  refine (env_edit_iff (some "# ports\n\nPORT=8000") hostUpdate (by decide)).mpr ?_
  rintro ⟨-, last, ends, -, stop, stops, breaks, -⟩
  have lastLine : (splitKeepEnds isLineBreak (envText (some "# ports\n\nPORT=8000"))).getLast? =
      some "PORT=8000".toList := by decide +kernel
  rw [lastLine] at ends
  obtain rfl := Option.some_inj.mp ends
  have lastChar : "PORT=8000".toList.getLast? = some '0' := by decide +kernel
  rw [lastChar] at stops
  cases stops
  exact absurd breaks (by decide)

/-- A file whose last line ends with a form feed gets a blank line in front of an appended key. -/
theorem form_feed_blank_line :
    (∀ entry ∈ hostUpdate.rows, PlainKey entry.1 ∧ PlainValue entry.2) ∧
      keptLines hostUpdate (some "PORT=8000\x0c") = ["PORT=8000".toList] ∧
      keptLines hostUpdate (mergeEnvKeysPreserveLines (some "PORT=8000\x0c") hostUpdate) =
        ["PORT=8000".toList, []] := by
  refine ⟨by decide, by decide +kernel, by decide +kernel⟩

end FairyClaw
