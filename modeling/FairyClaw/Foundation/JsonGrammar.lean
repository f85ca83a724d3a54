import FairyClaw.Foundation.Python

/-! # Texts that are JSON

A text is read as JSON from left to right, with the brackets that are open on a stack
(`Foundation.JsonReader`). Like `json.loads`, the reader takes `NaN` and the infinities for numbers.
A line break never stands in a string or in a number, so a text where one is followed by a full stop
is not JSON (`Foundation.isJson_of_infix`).
-/

namespace Foundation

/-- The values that are words. -/
inductive JsonWord
  | true
  | false
  | null
  | nan
  | infinity
  deriving DecidableEq, Repr

/-- How a word is spelled. -/
def JsonWord.letters : JsonWord → List Char
  | true => "true".toList
  | false => "false".toList
  | null => "null".toList
  | nan => "NaN".toList
  | infinity => "Infinity".toList

/-- What the reader is in the middle of. -/
inductive JsonMode
  | value
  | firstItem
  | firstKey
  | key
  | colon
  | after
  | text (isKey : Bool)
  | escape (isKey : Bool)
  | hex (isKey : Bool) (left : Nat)
  | minus
  | zero
  | digits
  | point
  | fraction
  | exponentMark
  | exponentSign
  | exponent
  | word (word : JsonWord) (read : Nat)
  deriving DecidableEq, Repr

/-- A mode with the open brackets, where an object is marked. -/
structure JsonReader where
  mode : JsonMode := .value
  opened : List Bool := []
  deriving DecidableEq, Repr

namespace JsonReader

/-- The four characters that may stand between tokens. -/
def isJsonSpace (char : Char) : Bool := char ∈ [' ', '\t', '\n', '\r']

/-- The ten digits. -/
def isDigit (char : Char) : Bool := '0' ≤ char ∧ char ≤ '9'

/-- The digits of an escape. -/
def isHexDigit (char : Char) : Bool :=
  isDigit char ∨ ('a' ≤ char ∧ char ≤ 'f') ∨ ('A' ≤ char ∧ char ≤ 'F')

variable (opened : List Bool) (char : Char)

/-- A character where a value begins. -/
def beginValue : Option JsonReader :=
  match char with
  | '"' => some ⟨.text false, opened⟩
  | '\x7b' => some ⟨.firstKey, true :: opened⟩
  | '[' => some ⟨.firstItem, false :: opened⟩
  | '-' => some ⟨.minus, opened⟩
  | '0' => some ⟨.zero, opened⟩
  | 't' => some ⟨.word .true 1, opened⟩
  | 'f' => some ⟨.word .false 1, opened⟩
  | 'n' => some ⟨.word .null 1, opened⟩
  | 'N' => some ⟨.word .nan 1, opened⟩
  | 'I' => some ⟨.word .infinity 1, opened⟩
  | _ => if isDigit char then some ⟨.digits, opened⟩ else none

/-- A character after a value. -/
def afterValue : Option JsonReader :=
  if isJsonSpace char then some ⟨.after, opened⟩
  else
    match char, opened with
    | ',', true :: _ => some ⟨.key, opened⟩
    | ',', false :: _ => some ⟨.value, opened⟩
    | '\x7d', true :: outer => some ⟨.after, outer⟩
    | ']', false :: outer => some ⟨.after, outer⟩
    | _, _ => none

/-- A character after the whole part of a number. -/
def afterWhole : Option JsonReader :=
  if char = '.' then some ⟨.point, opened⟩
  else if char = 'e' ∨ char = 'E' then some ⟨.exponentMark, opened⟩
  else afterValue opened char

/-- A character in a string. -/
def inText (isKey : Bool) : Option JsonReader :=
  if char = '"' then some ⟨if isKey then .colon else .after, opened⟩
  else if char = '\\' then some ⟨.escape isKey, opened⟩
  else if char.toNat < 0x20 then none
  else some ⟨.text isKey, opened⟩

/-- A character after a backslash. -/
def inEscape (isKey : Bool) : Option JsonReader :=
  if char = 'u' then some ⟨.hex isKey 3, opened⟩
  else if char ∈ ['"', '\\', '/', 'b', 'f', 'n', 'r', 't'] then some ⟨.text isKey, opened⟩
  else none

/-- The next character. -/
def step : JsonReader → Char → Option JsonReader
  | ⟨mode, opened⟩, char =>
      match mode with
      | .value => if isJsonSpace char then some ⟨.value, opened⟩ else beginValue opened char
      | .firstItem =>
          if isJsonSpace char then some ⟨.firstItem, opened⟩
          else if char = ']' then some ⟨.after, opened.tail⟩
          else beginValue opened char
      | .firstKey =>
          if isJsonSpace char then some ⟨.firstKey, opened⟩
          else if char = '\x7d' then some ⟨.after, opened.tail⟩
          else if char = '"' then some ⟨.text true, opened⟩
          else none
      | .key =>
          if isJsonSpace char then some ⟨.key, opened⟩
          else if char = '"' then some ⟨.text true, opened⟩
          else none
      | .colon =>
          if isJsonSpace char then some ⟨.colon, opened⟩
          else if char = ':' then some ⟨.value, opened⟩
          else none
      | .after => afterValue opened char
      | .text isKey => inText opened char isKey
      | .escape isKey => inEscape opened char isKey
      | .hex isKey left =>
          if isHexDigit char then
            some ⟨match left with | 0 => .text isKey | left + 1 => .hex isKey left, opened⟩
          else none
      | .minus =>
          if char = '0' then some ⟨.zero, opened⟩
          else if isDigit char then some ⟨.digits, opened⟩
          else if char = 'I' then some ⟨.word .infinity 1, opened⟩
          else none
      | .zero => afterWhole opened char
      | .digits => if isDigit char then some ⟨.digits, opened⟩ else afterWhole opened char
      | .point => if isDigit char then some ⟨.fraction, opened⟩ else none
      | .fraction =>
          if isDigit char then some ⟨.fraction, opened⟩
          else if char = 'e' ∨ char = 'E' then some ⟨.exponentMark, opened⟩
          else afterValue opened char
      | .exponentMark =>
          if isDigit char then some ⟨.exponent, opened⟩
          else if char = '+' ∨ char = '-' then some ⟨.exponentSign, opened⟩
          else none
      | .exponentSign => if isDigit char then some ⟨.exponent, opened⟩ else none
      | .exponent =>
          if isDigit char then some ⟨.exponent, opened⟩ else afterValue opened char
      | .word word read =>
          if word.letters[read]? = some char then
            some ⟨if read + 1 = word.letters.length then .after else .word word (read + 1), opened⟩
          else none

/-- The reader after a text. -/
def read (reader : JsonReader) : List Char → Option JsonReader
  | [] => some reader
  | char :: rest => (reader.step char).bind (read · rest)

/-- A value has been read, and no bracket is open. -/
def finished (reader : JsonReader) : Bool :=
  reader.opened = [] && reader.mode ∈ [.after, .zero, .digits, .fraction, .exponent]

end JsonReader

/-- `json.loads` accepts the text. -/
def isJson (text : String) : Bool :=
  (JsonReader.read {} text.toList).any JsonReader.finished

example : isJson "\x7b\"path\": \"a.py\", \"lines\": [1, -2.5e3, true, null]\x7d" = true := by
  decide +kernel

example : isJson "\x7b\"path\": \"a.py\", \"lines\": [1, -2.5e3, true, null" = false := by
  decide +kernel

/-! ## Line breaks -/

namespace JsonReader

/-- A reader goes on from where it stands. -/
theorem read_append (reader : JsonReader) (front back : List Char) :
    reader.read (front ++ back) = (reader.read front).bind (read · back) := by
  induction front generalizing reader with
  | nil => rfl
  | cons char front ih =>
      rw [List.cons_append, read, read, Option.bind_assoc]
      exact congrArg _ (funext ih)

/-- No full stop follows a line break. -/
theorem stop_after_newline (reader : JsonReader) :
    (reader.step '\n').bind (step · '.') = none := by
  obtain ⟨mode, opened⟩ := reader
  cases mode with
  | word word read =>
      have unbroken : word.letters[read]? ≠ some '\n' := fun found => by
        have member := List.mem_of_getElem? found
        revert member
        cases word <;> decide
      simp [step, unbroken]
  | hex isKey left => simp [step, isHexDigit, isDigit]
  | _ => rfl

end JsonReader

/-- No text with a line break before a full stop is JSON. -/
theorem isJson_of_infix {text : String} (broken : ['\n', '.'] <:+: text.toList) :
    isJson text = false := by
  obtain ⟨front, back, parts⟩ := broken
  unfold isJson
  rw [← parts, List.append_assoc, JsonReader.read_append]
  cases JsonReader.read {} front with
  | none => rfl
  | some reader =>
      have stopped := reader.stop_after_newline
      have ends : reader.read (['\n', '.'] ++ back) = none := by
        simp only [List.cons_append, List.nil_append, JsonReader.read]
        rw [← Option.bind_assoc, stopped]
        rfl
      rw [Option.bind_some, ends]
      rfl

end Foundation
