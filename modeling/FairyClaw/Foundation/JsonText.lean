import FairyClaw.Foundation.Python
import Mathlib.Data.List.TakeWhile

/-! # JSON documents as text

The text that `json.dumps` gives a value with `ensure_ascii` off. Dictionaries of texts are read
back from it (`Foundation.Json.loadsTexts_dumps`).
-/

namespace Foundation

/-- `str.rstrip` -/
def rstrip (text : String) : String :=
  String.ofList ((text.toList.reverse.dropWhile isSpace).reverse)

/-- Nothing is left of a text when it is all white space. -/
theorem strip_eq_empty_iff {text : String} :
    strip text = "" ↔ ∀ char ∈ text.toList, isSpace char = true := by
  rw [strip, String.ofList_eq_empty_iff, List.reverse_eq_nil_iff, List.dropWhile_eq_nil_iff]
  constructor
  · intro spaces
    have none_left : text.toList.dropWhile isSpace = [] := by
      by_contra some_left
      have first := List.head_dropWhile_not isSpace some_left
      rw [spaces _ (List.mem_reverse.mpr (List.head_mem some_left))] at first
      cases first
    exact List.dropWhile_eq_nil_iff.mp none_left
  · intro spaces char member
    exact spaces char ((List.dropWhile_sublist _).mem (List.mem_reverse.mp member))

namespace Json

/-- The four hexadecimal digits of a control character. -/
def hex4 (code : Nat) : List Char :=
  let digits := Nat.toDigits 16 code
  List.replicate (4 - digits.length) '0' ++ digits

/-- A character inside a JSON string. -/
def escape (char : Char) : List Char :=
  match char with
  | '"' => ['\\', '"']
  | '\\' => ['\\', '\\']
  | '\n' => ['\\', 'n']
  | '\r' => ['\\', 'r']
  | '\t' => ['\\', 't']
  | '\x0c' => ['\\', 'f']
  | '\x08' => ['\\', 'b']
  | char => if char.toNat < 0x20 then '\\' :: 'u' :: hex4 char.toNat else [char]

/-- A text between quotation marks, with its escapes. -/
def quote (text : String) : List Char := '"' :: text.toList.flatMap escape ++ ['"']

mutual

/-- The characters of `json.dumps`. -/
def dumpsChars : Json → List Char
  | .null => "null".toList
  | .bool true => "true".toList
  | .bool false => "false".toList
  | .int value => (toString value).toList
  | .float printed => printed.toList
  | .str value => quote value
  | .arr items => '[' :: dumpsItems items ++ [']']
  | .obj fields => '\x7b' :: dumpsFields fields ++ ['\x7d']

/-- The items of an array, with commas between them. -/
def dumpsItems : List Json → List Char
  | [] => []
  | [item] => dumpsChars item
  | item :: rest => dumpsChars item ++ ", ".toList ++ dumpsItems rest

/-- The fields of an object, with commas between them. -/
def dumpsFields : List (String × Json) → List Char
  | [] => []
  | [(key, value)] => quote key ++ ": ".toList ++ dumpsChars value
  | (key, value) :: rest =>
      quote key ++ ": ".toList ++ dumpsChars value ++ ", ".toList ++ dumpsFields rest

end

/-- `json.dumps` with `ensure_ascii` off. -/
def dumps (value : Json) : String := String.ofList value.dumpsChars

mutual

/-- The value with the keys of its dictionaries in order, as `sort_keys` prints it. -/
def sortKeys : Json → Json
  | .arr items => .arr (sortItems items)
  | .obj fields =>
      .obj ((sortFields fields).mergeSort fun first second => !decide (second.1 < first.1))
  | value => value

/-- The items with their keys in order. -/
def sortItems : List Json → List Json
  | [] => []
  | item :: rest => sortKeys item :: sortItems rest

/-- The fields with their keys in order, before the object itself is sorted. -/
def sortFields : List (String × Json) → List (String × Json)
  | [] => []
  | (key, value) :: rest => (key, sortKeys value) :: sortFields rest

end

/-- A dictionary's text is not blank. -/
theorem strip_dumps_obj (fields : JsonObject) : strip (dumps (.obj fields)) ≠ "" := by
  intro blank
  have spaces := strip_eq_empty_iff.mp blank '\x7b' (by simp [dumps, dumpsChars])
  exact absurd spaces (by decide)

/-- The value of four hexadecimal digits. -/
def hexValue (digits : List Char) : Option Nat :=
  digits.foldlM (fun value char =>
    if char.isDigit then some (16 * value + (char.toNat - '0'.toNat))
    else if 'a' ≤ char ∧ char ≤ 'f' then some (16 * value + (char.toNat - 'a'.toNat + 10))
    else if 'A' ≤ char ∧ char ≤ 'F' then some (16 * value + (char.toNat - 'A'.toNat + 10))
    else none) 0

/-- The character that an escape of two characters stands for. -/
def unescape : Char → Option Char
  | '"' => some '"'
  | '\\' => some '\\'
  | '/' => some '/'
  | 'n' => some '\n'
  | 'r' => some '\r'
  | 't' => some '\t'
  | 'f' => some '\x0c'
  | 'b' => some '\x08'
  | _ => none

/-- A JSON string behind its opening quote, and the text behind its closing one. -/
def readString : List Char → Option (List Char × List Char)
  | [] => none
  | '"' :: rest => some ([], rest)
  | '\\' :: 'u' :: a :: b :: c :: d :: rest => do
      let code ← hexValue [a, b, c, d]
      let (text, rest) ← readString rest
      return (Char.ofNat code :: text, rest)
  | '\\' :: char :: rest => do
      let char ← unescape char
      let (text, rest) ← readString rest
      return (char :: text, rest)
  | char :: rest =>
      if char.toNat < 0x20 then none
      else (readString rest).map fun read => (char :: read.1, read.2)

/-- The escape of a control character reads back as its code. -/
theorem hex4_control : ∀ code < 0x20, ∃ a b c d, hex4 code = [a, b, c, d] ∧
    hexValue [a, b, c, d] = some code := by
  intro code control
  have digits : ∀ code < 0x20, (hex4 code).length = 4 ∧ hexValue (hex4 code) = some code := by
    decide
  obtain ⟨four, value⟩ := digits code control
  match hex4 code, four, value with
  | [a, b, c, d], _, value => exact ⟨a, b, c, d, rfl, value⟩

/-- A character is read back from its escape. -/
theorem readString_escape (char : Char) (rest : List Char) :
    readString (escape char ++ rest) =
      (readString rest).map fun read => (char :: read.1, read.2) := by
  unfold escape
  split
  case h_8 quote backslash newline carriage tab feed backspace =>
    split
    · rename_i control
      obtain ⟨a, b, c, d, digits, value⟩ := hex4_control _ control
      rw [digits]
      simp only [List.cons_append, List.nil_append, readString, value, Option.bind_eq_bind,
        Option.bind_some, Char.ofNat_toNat]
      cases readString rest <;> rfl
    · rename_i printable
      rw [List.singleton_append, readString]
      · rw [if_neg printable]
      · exact quote
      · rintro a b c d rest rfl
        exact (backslash rfl).elim
      · rintro other rest rfl
        exact (backslash rfl).elim
  all_goals
    simp [readString, unescape]
    cases readString rest <;> rfl

/-- A quoted text reads back, and reading stops after it. -/
theorem readString_escapes (text rest : List Char) :
    readString (text.flatMap escape ++ '"' :: rest) = some (text, rest) := by
  induction text with
  | nil => rfl
  | cons char text ih =>
      rw [List.flatMap_cons, List.append_assoc, readString_escape, ih]
      rfl

/-- The dictionary of some texts. -/
def texts (fields : List (String × String)) : Json :=
  .obj (fields.map fun field => (field.1, .str field.2))

/-- The fields of a dictionary of texts, as `dumps` separates them, up to its closing brace. -/
def readFields : Nat → List Char → Option (List (String × String))
  | fuel + 1, '"' :: rest =>
      match readString rest with
      | some (key, ':' :: ' ' :: '"' :: rest) =>
          match readString rest with
          | some (value, ['\x7d']) => some [(String.ofList key, String.ofList value)]
          | some (value, ',' :: ' ' :: rest) =>
              (readFields fuel rest).map ((String.ofList key, String.ofList value) :: ·)
          | _ => none
      | _ => none
  | _, _ => none

/-- Fields with texts read back from their JSON. -/
theorem readFields_dumpsFields (field : String × String) (fields : List (String × String))
    {fuel : Nat} (enough : fields.length < fuel) :
    readFields fuel (dumpsFields ((field :: fields).map fun field => (field.1, .str field.2)) ++
      ['\x7d']) = some (field :: fields) := by
  induction fields generalizing field fuel with
  | nil => 
      obtain ⟨fuel, rfl⟩ := Nat.exists_eq_add_one.mpr (Nat.zero_lt_of_lt enough)
      simp [dumpsFields, dumpsChars, quote, readFields, readString_escapes]
  | cons next fields ih =>
      obtain ⟨fuel, rfl⟩ := Nat.exists_eq_add_one.mpr (Nat.zero_lt_of_lt enough)
      have rest := ih next (Nat.lt_of_succ_lt_succ enough)
      simp only [List.map_cons] at rest
      simp [dumpsFields, dumpsChars, quote, readFields, readString_escapes, rest]

/-- The JSON of fields is at least as long as their list. -/
theorem length_dumpsFields (fields : List (String × Json)) :
    fields.length ≤ (dumpsFields fields).length := by
  induction fields with
  | nil => exact Nat.zero_le _
  | cons field fields ih =>
      cases fields with
      | nil => simp [dumpsFields, quote]
      | cons next fields =>
          rw [dumpsFields]
          · simp only [List.length_append, List.length_cons, quote] at ih ⊢
            omega
          · nofun

/-- `json.loads` on the dictionaries of texts that `dumps` writes. -/
def loadsTexts (text : String) : Option (List (String × String)) :=
  match text.toList with
  | '\x7b' :: rest => if rest = ['\x7d'] then some [] else readFields rest.length rest
  | _ => none

/-- **Dictionaries of texts are read back.** -/
theorem loadsTexts_dumps (fields : List (String × String)) :
    loadsTexts (dumps (texts fields)) = some fields := by
  cases fields with
  | nil => rfl
  | cons field fields =>
      have written : (dumps (texts (field :: fields))).toList = '\x7b' :: (dumpsFields
          ((field :: fields).map fun field => (field.1, .str field.2)) ++ ['\x7d']) := by
        rw [dumps, String.toList_ofList]
        rfl
      have counted := length_dumpsFields
        ((field :: fields).map fun field => (field.1, Json.str field.2))
      rw [List.length_map, List.length_cons] at counted
      unfold loadsTexts
      rw [written]
      simp only
      rw [if_neg]
      · refine readFields_dumpsFields field fields ?_
        rw [List.length_append]
        omega
      · intro closed
        have lengths := congrArg List.length closed
        rw [List.length_append, List.length_singleton] at lengths
        omega

end Json

end Foundation
