import FairyClaw.Foundation.Lines
import FairyClaw.Foundation.Table
import Mathlib.Data.List.Sort

/-! # The environment file

The configuration is a file of lines `KEY=VALUE`. Values are written as they are, while the reader
splits lines, trims, and removes a pair of quotes, so a mapping is read back as it was written
exactly when its keys and values are plain (`FairyClaw.readEnvFile_write_iff`).
-/

namespace FairyClaw

open Foundation

/-- A dictionary of texts. -/
abbrev EnvMap := Table (Prod.fst : String × String → String)

/-- The characters at which `str.splitlines` splits. -/
def isLineBreak (char : Char) : Bool :=
  let code := char.toNat
  (0x0a ≤ code && code ≤ 0x0d) || (0x1c ≤ code && code ≤ 0x1e) || code == 0x85 ||
    code == 0x2028 || code == 0x2029

/-- The line ends of a file that is read as text. -/
def universalNewlines : List Char → List Char
  | '\r' :: '\n' :: rest => '\n' :: universalNewlines rest
  | '\r' :: rest => '\n' :: universalNewlines rest
  | char :: rest => char :: universalNewlines rest
  | [] => []

/-- A text that begins and ends with the same kind of quote. -/
def Quoted (value : List Char) : Prop :=
  2 ≤ value.length ∧ value.head? = value.getLast? ∧
    (value.head? = some '"' ∨ value.head? = some '\x27')

instance (value : List Char) : Decidable (Quoted value) := inferInstanceAs (Decidable (_ ∧ _))

/-- Remove one pair of quotes. -/
def unquote (value : List Char) : List Char :=
  if Quoted value then value.tail.dropLast else value

/-- One line of the file; blank lines, comments and lines without a key are skipped. -/
def parseEnvLine (line : List Char) : Option (String × String) :=
  let text := trim isSpace line
  if text = [] ∨ text.head? = some '#' ∨ '=' ∉ text then none
  else
    let key := trim isSpace (text.takeWhile (· ≠ '='))
    let value := trim isSpace ((text.dropWhile (· ≠ '=')).drop 1)
    if key = [] then none else some (String.ofList key, String.ofList (unquote value))

/-- `read_env_file`; a missing file is empty. -/
def readEnvFile : Option String → EnvMap
  | none => {}
  | some text =>
      ((splitLines isLineBreak (universalNewlines text.toList)).filterMap parseEnvLine).foldl
        Table.put {}

/-- `write_env_file_atomic` -/
def writeEnvFileAtomic (mapping : EnvMap) : String :=
  let lines := (mapping.rows.insertionSort fun first second => first.1 ≤ second.1).map
    fun (key, value) => key ++ "=" ++ value
  "\n".intercalate lines ++ if lines.isEmpty then "" else "\n"

/-- The whitelisted updates. -/
def whitelisted (updates : EnvMap) (whitelist : List String) : List (String × String) :=
  updates.rows.filter (·.1 ∈ whitelist)

/-- `merge_whitelisted_env` -/
def mergeWhitelistedEnv (file : Option String) (updates : EnvMap) (whitelist : List String) :
    Option String :=
  let filtered := whitelisted updates whitelist
  if filtered.isEmpty then file
  else some (writeEnvFileAtomic (filtered.foldl Table.put (readEnvFile file)))

/-! ## Lines -/

/-- A text on one line. -/
def Unbroken (text : String) : Prop := ∀ char ∈ text.toList, isLineBreak char = false

instance (text : String) : Decidable (Unbroken text) :=
  List.decidableBAll (fun char => isLineBreak char = false) text.toList

/-- A key that a line holds as it is. -/
structure PlainKey (key : String) : Prop where
  nonempty : key ≠ ""
  trimmed : strip key = key
  unbroken : Unbroken key
  separate : '=' ∉ key.toList
  entry : key.toList.head? ≠ some '#'

/-- A value that a line holds as it is. -/
structure PlainValue (value : String) : Prop where
  trimmed : strip value = value
  unbroken : Unbroken value
  unquoted : ¬Quoted value.toList

instance (key : String) : Decidable (PlainKey key) :=
  decidable_of_iff (key ≠ "" ∧ strip key = key ∧ Unbroken key ∧ '=' ∉ key.toList ∧
      key.toList.head? ≠ some '#')
    ⟨fun ⟨nonempty, trimmed, unbroken, separate, entry⟩ =>
        ⟨nonempty, trimmed, unbroken, separate, entry⟩,
      fun plain => ⟨plain.nonempty, plain.trimmed, plain.unbroken, plain.separate, plain.entry⟩⟩

instance (value : String) : Decidable (PlainValue value) :=
  decidable_of_iff (strip value = value ∧ Unbroken value ∧ ¬Quoted value.toList)
    ⟨fun ⟨trimmed, unbroken, unquoted⟩ => ⟨trimmed, unbroken, unquoted⟩,
      fun plain => ⟨plain.trimmed, plain.unbroken, plain.unquoted⟩⟩

/-- Stripping trims white space. -/
theorem toList_strip (text : String) : (strip text).toList = trim isSpace text.toList :=
  String.toList_ofList

/-- A text is stripped when there is no white space to trim. -/
theorem strip_eq_self_iff {text : String} :
    strip text = text ↔ trim isSpace text.toList = text.toList := by
  rw [← toList_strip, String.toList_inj]

/-- Unquoting only takes characters away. -/
theorem unquote_sublist {value : List Char} : (unquote value).Sublist value := by
  unfold unquote
  split
  · exact (List.dropLast_sublist _).trans (List.tail_sublist _)
  · exact .refl value

/-- What a reader makes of a value is the value exactly when it is trimmed and unquoted. -/
theorem unquote_trim_iff {value : List Char} :
    unquote (trim isSpace value) = value ↔ trim isSpace value = value ∧ ¬Quoted value := by
  constructor
  · intro same
    have shorter : (unquote (trim isSpace value)).length ≤ (trim isSpace value).length :=
      unquote_sublist.length_le
    rw [same] at shorter
    have trimmed := trim_eq_self_of_length shorter
    refine ⟨trimmed, fun quoted => ?_⟩
    rw [trimmed, unquote, if_pos quoted] at same
    have lost := congrArg List.length same
    rw [List.length_dropLast, List.length_tail] at lost
    have long := quoted.1
    omega
  · rintro ⟨trimmed, unquoted⟩
    rw [trimmed, unquote, if_neg unquoted]

/-- The line of an entry. -/
def entryLine (entry : String × String) : List Char := entry.1.toList ++ '=' :: entry.2.toList

/-- The line of an entry has no break in it. -/
theorem unbroken_entryLine {entry : String × String} (key : PlainKey entry.1)
    (value : Unbroken entry.2) : ∀ char ∈ entryLine entry, isLineBreak char = false := by
  intro char inLine
  rcases List.mem_append.mp inLine with inKey | later
  · exact key.unbroken char inKey
  · rcases List.mem_cons.mp later with rfl | inValue
    · rfl
    · exact value char inValue

/-- What a reader makes of an entry on one line. -/
def readEntry (entry : String × String) : String × String :=
  (entry.1, String.ofList (unquote (trim isSpace entry.2.toList)))

/-- An entry reads back under its key. -/
theorem readEntry_fst (entry : String × String) : (readEntry entry).1 = entry.1 := by
  rw [readEntry]

/-- Entries read back under their keys. -/
theorem fst_comp_readEntry : Prod.fst ∘ readEntry = Prod.fst := funext readEntry_fst

/-- A line written for a plain key is read back under the key. -/
theorem parseEnvLine_entryLine {entry : String × String} (plain : PlainKey entry.1) :
    parseEnvLine (entryLine entry) = some (readEntry entry) := by
  obtain ⟨key, value⟩ := entry
  have trimmed := strip_eq_self_iff.mp plain.trimmed
  have filled : key.toList ≠ [] := fun blank => plain.nonempty (String.toList_eq_nil_iff.mp blank)
  have solid : isSpace '=' = false := by decide
  have text : trim isSpace (key.toList ++ '=' :: value.toList) =
      key.toList ++ '=' :: value.toList.rdropWhile isSpace := by
    rw [trim, List.dropWhile_append, dropWhile_eq_self_of_trim trimmed, if_neg ?_,
      rdropWhile_append_cons solid]
    rwa [List.isEmpty_iff]
  have before : (key.toList ++ '=' :: value.toList.rdropWhile isSpace).takeWhile (· ≠ '=') =
      key.toList := by
    rw [List.takeWhile_append_of_pos]
    · simp only [ne_eq, not_true_eq_false, decide_false, Bool.false_eq_true, not_false_eq_true,
        List.takeWhile_cons_of_neg, List.append_nil]
    · exact fun char member => decide_eq_true fun same => plain.separate (same ▸ member)
  have after : (key.toList ++ '=' :: value.toList.rdropWhile isSpace).dropWhile (· ≠ '=') =
      '=' :: value.toList.rdropWhile isSpace := by
    rw [List.dropWhile_append_of_pos]
    · simp only [ne_eq, not_true_eq_false, decide_false, Bool.false_eq_true, not_false_eq_true,
        List.dropWhile_cons_of_neg]
    · exact fun char member => decide_eq_true fun same => plain.separate (same ▸ member)
  unfold parseEnvLine entryLine readEntry
  simp only [text, before, after, trimmed, List.drop_one, List.tail_cons, trim_rdropWhile,
    String.ofList_toList]
  rw [if_neg ?_, if_neg filled]
  rintro (blank | comment | missing)
  · exact filled (List.append_eq_nil_iff.mp blank).1
  · rw [List.head?_append_of_ne_nil _ filled] at comment
    exact plain.entry comment
  · exact missing (List.mem_append_right _ List.mem_cons_self)

/-- What a line gives has a plain key, and a value on one line. -/
theorem parseEnvLine_spec {line : List Char} {entry : String × String}
    (unbroken : ∀ char ∈ line, isLineBreak char = false) (parsed : parseEnvLine line = some entry) :
    PlainKey entry.1 ∧ Unbroken entry.2 := by
  unfold parseEnvLine at parsed
  simp only at parsed
  split at parsed
  · cases parsed
  · rename_i content
    split at parsed
    · cases parsed
    · rename_i filled
      cases parsed
      obtain ⟨_, content⟩ := not_or.mp content
      obtain ⟨comment, _⟩ := not_or.mp content
      have inLine {char : Char} (member : char ∈ trim isSpace line) : isLineBreak char = false :=
        unbroken char (trim_sublist.mem member)
      have front := List.takeWhile_prefix (l := trim isSpace line) (p := fun char => char ≠ '=')
      constructor
      · refine ⟨fun blank => filled (String.ofList_eq_empty_iff.mp blank), ?_, fun char member => ?_,
          fun member => ?_, fun first => comment ?_⟩
        · rw [strip_eq_self_iff, String.toList_ofList, trim_trim]
        · rw [String.toList_ofList] at member
          exact inLine (front.mem (trim_sublist.mem member))
        · rw [String.toList_ofList] at member
          have other := List.mem_takeWhile_imp (trim_sublist.mem member)
          rw [decide_eq_true_eq] at other
          exact other rfl
        · rw [String.toList_ofList] at first
          have whole : trim isSpace ((trim isSpace line).takeWhile (· ≠ '=')) <+:
              trim isSpace line := by
            have kept := dropWhile_of_prefix front (dropWhile_eq_self_of_trim trim_trim)
            rw [trim, kept]
            exact (List.rdropWhile_prefix isSpace _).trans front
          obtain ⟨rest, same⟩ := whole
          rw [← same, List.head?_append_of_ne_nil _ filled, first]
      · intro char member
        rw [String.toList_ofList] at member
        have inValue := trim_sublist.mem (unquote_sublist.mem member)
        exact inLine ((List.dropWhile_sublist _).mem (List.mem_of_mem_drop inValue))

/-- What a reader gives has plain keys, and values on one line. -/
theorem readEnvFile_spec {file : Option String} {name : String} {entry : String × String}
    (stored : (readEnvFile file).get name = some entry) : PlainKey entry.1 ∧ Unbroken entry.2 := by
  cases file with
  | none => exact nomatch (Table.get_eq_some.mp stored).1
  | some text =>
      rw [readEnvFile, Table.get_foldl_put] at stored
      rcases Option.or_eq_some_iff.mp stored with found | ⟨_, found⟩
      · have listed := List.mem_reverse.mp (List.mem_of_find?_eq_some found)
        obtain ⟨line, member, parsed⟩ := List.mem_filterMap.mp listed
        exact parseEnvLine_spec (unbroken_of_mem_splitLines member) parsed
      · exact nomatch (Table.get_eq_some.mp found).1

/-! ## What is written -/

/-- Without a carriage return there is nothing to translate. -/
theorem universalNewlines_eq_self : ∀ {chars : List Char},
    (∀ char ∈ chars, char ≠ '\r') → universalNewlines chars = chars
  | [], _ => rfl
  | char :: rest, plain => by
      obtain ⟨other, plain⟩ := List.forall_mem_cons.mp plain
      unfold universalNewlines
      split
      · rename_i same
        cases same
        exact absurd rfl other
      · rename_i same
        cases same
        exact absurd rfl other
      · rename_i same
        cases same
        rw [universalNewlines_eq_self plain]
      · rename_i none
        cases none

/-- The entries in the order of their lines. -/
def sortedRows (mapping : EnvMap) : List (String × String) :=
  mapping.rows.insertionSort fun first second => first.1 ≤ second.1

/-- The sorted rows are the rows. -/
theorem mem_sortedRows {mapping : EnvMap} {entry : String × String} :
    entry ∈ sortedRows mapping ↔ entry ∈ mapping.rows := List.mem_insertionSort _

/-- The sorted rows have each key once. -/
theorem nodup_sortedRows (mapping : EnvMap) : ((sortedRows mapping).map Prod.fst).Nodup :=
  ((List.perm_insertionSort _ mapping.rows).map Prod.fst).nodup_iff.mpr mapping.unique

/-- A file has the lines of its sorted rows. -/
theorem toList_write (mapping : EnvMap) :
    (writeEnvFileAtomic mapping).toList =
      ((sortedRows mapping).map entryLine).flatMap (· ++ ['\n']) := by
  rw [writeEnvFileAtomic, toList_intercalate_append, List.map_map]
  refine congrArg (List.flatMap _ ·) (List.map_congr_left fun entry _ => ?_)
  simp only [Function.comp_apply, String.toList_append, entryLine, List.append_assoc]
  rfl

/-- A written file reads back row by row. -/
theorem readEnvFile_write {mapping : EnvMap}
    (plain : ∀ entry ∈ mapping.rows, PlainKey entry.1 ∧ Unbroken entry.2) :
    readEnvFile (some (writeEnvFileAtomic mapping)) =
      ((sortedRows mapping).map readEntry).foldl Table.put {} := by
  have unbroken {line : List Char} (member : line ∈ (sortedRows mapping).map entryLine) :
      ∀ char ∈ line, isLineBreak char = false := by
    obtain ⟨entry, listed, rfl⟩ := List.mem_map.mp member
    obtain ⟨key, value⟩ := plain entry (mem_sortedRows.mp listed)
    exact unbroken_entryLine key value
  have translated : universalNewlines (writeEnvFileAtomic mapping).toList =
      ((sortedRows mapping).map entryLine).flatMap (· ++ ['\n']) := by
    rw [toList_write]
    refine universalNewlines_eq_self fun char member => ?_
    rintro rfl
    obtain ⟨line, listed, inLine⟩ := List.mem_flatMap.mp member
    rcases List.mem_append.mp inLine with inLine | stop
    · exact absurd (unbroken listed _ inLine) (by decide)
    · exact absurd (List.mem_singleton.mp stop) (by decide)
  have lines : splitLines isLineBreak (universalNewlines (writeEnvFileAtomic mapping).toList) =
      (sortedRows mapping).map entryLine := by
    rw [translated]
    exact splitLines_flatMap (by decide) fun line => unbroken
  rw [readEnvFile, lines, List.filterMap_map]
  refine congrArg (List.foldl Table.put _ ·) ?_
  rw [← List.filterMap_eq_map]
  refine List.filterMap_congr fun entry member => ?_
  rw [Function.comp_apply, Function.comp_apply,
    parseEnvLine_entryLine (plain entry (mem_sortedRows.mp member)).1]

/-- Entries on one line are read back one by one. -/
theorem get_readEnvFile_write {mapping : EnvMap}
    (plain : ∀ entry ∈ mapping.rows, PlainKey entry.1 ∧ Unbroken entry.2) (name : String) :
    (readEnvFile (some (writeEnvFileAtomic mapping))).get name =
      (mapping.get name).map readEntry := by
  have unique : (((sortedRows mapping).map readEntry).map Prod.fst).Nodup := by
    rw [List.map_map, fst_comp_readEntry]
    exact nodup_sortedRows mapping
  have written := Table.get_foldl_put_rows name {} ⟨(sortedRows mapping).map readEntry, unique⟩
  rw [readEnvFile_write plain, written.trans (Option.or_none)]
  ext entry
  rw [Table.get_eq_some, Option.map_eq_some_iff, List.mem_map]
  constructor
  · rintro ⟨⟨original, member, rfl⟩, named⟩
    rw [readEntry_fst] at named
    exact ⟨original, Table.get_eq_some.mpr ⟨mem_sortedRows.mp member, named⟩, rfl⟩
  · rintro ⟨original, stored, rfl⟩
    obtain ⟨member, named⟩ := Table.get_eq_some.mp stored
    exact ⟨⟨original, mem_sortedRows.mpr member, rfl⟩, (readEntry_fst original).trans named⟩

/-- An entry reads back as it was when its value is plain. -/
theorem readEntry_eq_self_iff {entry : String × String} (unbroken : Unbroken entry.2) :
    readEntry entry = entry ↔ PlainValue entry.2 := by
  obtain ⟨key, value⟩ := entry
  rw [readEntry, Prod.mk.injEq, and_iff_right rfl, ← String.toList_inj, String.toList_ofList,
    unquote_trim_iff, ← strip_eq_self_iff]
  exact ⟨fun ⟨trimmed, unquoted⟩ => ⟨trimmed, unbroken, unquoted⟩,
    fun plain => ⟨plain.trimmed, plain.unquoted⟩⟩

/-- **Reading back.** A written mapping is read back as it was exactly when all its keys and values
are plain. -/
theorem readEnvFile_write_iff (mapping : EnvMap) :
    (∀ name, (readEnvFile (some (writeEnvFileAtomic mapping))).get name = mapping.get name) ↔
      ∀ entry ∈ mapping.rows, PlainKey entry.1 ∧ PlainValue entry.2 := by
  constructor
  · intro same
    have plain (entry : String × String) (member : entry ∈ mapping.rows) :
        PlainKey entry.1 ∧ Unbroken entry.2 :=
      readEnvFile_spec ((same entry.1).trans (Table.mem_rows.mp member))
    intro entry member
    refine ⟨(plain entry member).1, (readEntry_eq_self_iff (plain entry member).2).mp ?_⟩
    have read := get_readEnvFile_write plain entry.1
    rw [same, Table.mem_rows.mp member, Option.map_some, Option.some_inj] at read
    exact read.symm
  · intro plain name
    rw [get_readEnvFile_write fun entry member =>
      ⟨(plain entry member).1, (plain entry member).2.unbroken⟩]
    cases stored : mapping.get name with
    | none => rfl
    | some entry =>
        have value := (plain entry (Table.get_eq_some.mp stored).1).2
        rw [Option.map_some, (readEntry_eq_self_iff value.unbroken).mpr value]

end FairyClaw
