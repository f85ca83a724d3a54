import Mathlib.Data.List.Forall2
import Mathlib.Data.Set.Basic
import FairyClaw.Foundation.Checks
import FairyClaw.Timer.Cron

/-! # Items of a cron field

A field of a cron expression is a list of items `*`, `n`, `a-b`, `*/s`, `n/s` and `a-b/s`, and an
item denotes a set of values. The validation and the matching read the field separately, with a
test for digits that is laxer than the conversion to a number: a text such as `²` passes
`str.isdigit` and `int` raises on it. They agree on every expression on which no such conversion is
reached (`FairyClaw.cron_reading_iff`).
-/

namespace FairyClaw

open Foundation

/-! ## What an item denotes -/

namespace CronField

/-- A number within the bounds of a field. -/
def Holds (field : CronField) (number : Nat) : Prop := field.lo ≤ number ∧ number ≤ field.hi

instance (field : CronField) (number : Nat) : Decidable (field.Holds number) :=
  inferInstanceAs (Decidable (_ ∧ _))

/-- The values of a field. -/
def values (field : CronField) : Set Int := {value | field.lo ≤ value ∧ value ≤ field.hi}

/-- A number in the bounds of a field is one of its values. -/
theorem mem_values_of_holds {field : CronField} {number : Nat} (holds : field.Holds number) :
    (number : Int) ∈ field.values :=
  ⟨Int.ofNat_le.mpr holds.1, Int.ofNat_le.mpr holds.2⟩

end CronField

/-- What an item starts with: `*`, `n` or `a-b`. -/
inductive CronBase where
  | any
  | value (number : Nat)
  | range (first last : Nat)
  deriving DecidableEq, Repr

/-- An item of a field, with the step after a slash. -/
structure CronItem where
  base : CronBase
  step : Option Nat
  deriving DecidableEq, Repr

/-- The values that are some steps above a start. -/
def steps (start step : Nat) : Set Int := {value | ∃ count : Nat, value = start + count * step}

/-- The values of a field that an item denotes. -/
def CronItem.values (field : CronField) : CronItem → Set Int
  | ⟨.any, none⟩ => field.values
  | ⟨.value number, none⟩ => {(number : Int)}
  | ⟨.range first last, none⟩ => {value | first ≤ value ∧ value ≤ last}
  | ⟨.any, some step⟩ => field.values ∩ steps field.lo step
  | ⟨.value number, some step⟩ => field.values ∩ steps number step
  | ⟨.range first last, some step⟩ => {value | value ≤ last} ∩ steps first step

/-- The texts of what an item starts with. -/
inductive CronBase.Spells (field : CronField) : CronBase → String → Prop
  | any : Spells field .any "*"
  | value {text : String} {number : Nat} : readInt text = some number → field.Holds number →
      Spells field (.value number) text
  | range {left right : String} {first last : Nat} : readInt left = some first →
      readInt right = some last → field.Holds first → field.Holds last → first ≤ last →
      Spells field (.range first last) (left ++ "-" ++ right)

/-- The texts of an item. -/
inductive CronItem.Spells (field : CronField) : CronItem → String → Prop
  | plain {base : CronBase} {text : String} : base.Spells field text →
      Spells field ⟨base, none⟩ text
  | stepped {base : CronBase} {text stepText : String} {step : Nat} : base.Spells field text →
      readInt stepText = some step → 0 < step →
      Spells field ⟨base, some step⟩ (text ++ "/" ++ stepText)

/-- The chunks of a field. -/
def cronChunks (token : String) : List String := (splitAll ',' token).map strip

/-- The items that a field lists. -/
def Lists (field : CronField) (token : String) (items : List CronItem) : Prop :=
  List.Forall₂ (CronItem.Spells field) items (cronChunks token)

/-- The values that the items denote. -/
def itemValues (field : CronField) (items : List CronItem) : Set Int :=
  {value | ∃ item ∈ items, value ∈ item.values field}

/-! ## Numbers that cannot be read -/

/-- A text that passes `str.isdigit` and on which `int` raises. -/
def Unreadable (text : String) : Prop := isDigitText text = true ∧ readInt text = none

/-- The first number of a value or a range that cannot be read comes before the reading stops. -/
inductive UnreadableBase (field : CronField) : String → Prop
  | value {text : String} : Unreadable text → UnreadableBase field text
  | left {left right : String} : Unreadable left → UnreadableBase field (left ++ "-" ++ right)
  | right {left right : String} {first : Nat} : readInt left = some first → field.Holds first →
      Unreadable right → UnreadableBase field (left ++ "-" ++ right)

/-- The reading of a chunk reaches a number that cannot be read. -/
inductive UnreadableChunk (field : CronField) : String → Prop
  | plain {text : String} : '/' ∉ text.toList → UnreadableBase field text →
      UnreadableChunk field text
  | step {text stepText : String} : '/' ∉ text.toList → Unreadable stepText →
      UnreadableChunk field (text ++ "/" ++ stepText)
  | base {text stepText : String} {step : Nat} : '/' ∉ text.toList →
      readInt stepText = some step → 0 < step → UnreadableBase field text →
      UnreadableChunk field (text ++ "/" ++ stepText)

/-- The chunks of an expression, with their fields. -/
def exprChunks (expr : String) : List (String × CronField) :=
  ((cronParts expr).zip cronFields).flatMap fun part =>
    (cronChunks part.1).map fun chunk => (chunk, part.2)

/-- An expression of five fields in which a number that cannot be read comes after chunks that all
spell items. -/
def UnreadableExpr (expr : String) : Prop :=
  (cronParts expr).length = 5 ∧ ∃ earlier chunk later, exprChunks expr = earlier ++ chunk :: later ∧
    (∀ before ∈ earlier, ∃ item, CronItem.Spells before.2 item before.1) ∧
    UnreadableChunk chunk.2 chunk.1

/-- The validation and the matching of an expression agree. -/
structure ReadsAlike (expr : String) : Prop where
  returns : (parseCron5 expr).isSome = true
  agree : parseCron5 expr = some none → ∀ part ∈ (cronParts expr).zip cronFields,
    (∃ items, Lists part.2 part.1 items) ∧ ∀ items, Lists part.2 part.1 items →
      (∃ value ∈ part.2.values, value ∈ itemValues part.2 items) ∧
      ∀ value : Int, ∃ found, matchesField value part.1 part.2.lo part.2.hi = some found ∧
        (value ∈ part.2.values → (found = true ↔ value ∈ itemValues part.2 items))

/-! ## Splitting and numbers -/

/-- The dash as a character. -/
theorem toList_dash : "-".toList = ['-'] := rfl

/-- The slash as a character. -/
theorem toList_slash : "/".toList = ['/'] := rfl

/-- The characters of two texts with a separator between. -/
theorem toList_joined {stop : String} {sep : Char} (single : stop.toList = [sep])
    (left right : String) :
    (left ++ stop ++ right).toList = left.toList ++ sep :: right.toList := by
  rw [String.toList_append, String.toList_append, single, List.append_assoc, List.singleton_append]

/-- The separator is among the characters. -/
theorem mem_joined {stop : String} {sep : Char} (single : stop.toList = [sep])
    (left right : String) : sep ∈ (left ++ stop ++ right).toList := by
  rw [toList_joined single]
  exact List.mem_append_right _ List.mem_cons_self

/-- Splitting undoes the joining. -/
theorem splitOnce_joined {stop : String} {sep : Char} (single : stop.toList = [sep])
    {left right : String} (free : sep ∉ left.toList) :
    splitOnce sep (left ++ stop ++ right) = (left, right) := by
  have passes : ∀ char ∈ left.toList, decide (char ≠ sep) = true := by
    intro char member
    exact decide_eq_true fun same => free (same ▸ member)
  rw [splitOnce, toList_joined single, List.takeWhile_append_of_pos passes,
    List.dropWhile_append_of_pos passes,
    List.takeWhile_cons_of_neg (by simp), List.dropWhile_cons_of_neg (by simp), List.append_nil,
    List.drop_one, List.tail_cons, String.ofList_toList, String.ofList_toList]

/-- Two texts are joined in one way only. -/
theorem joined_inj {stop : String} {sep : Char} (single : stop.toList = [sep])
    {left right first second : String} (free : sep ∉ left.toList) (other : sep ∉ first.toList)
    (same : left ++ stop ++ right = first ++ stop ++ second) : left = first ∧ right = second := by
  have both := congrArg (splitOnce sep) same
  rw [splitOnce_joined single free, splitOnce_joined single other] at both
  exact Prod.mk.inj both

/-- A text with a separator is joined at the first one. -/
theorem exists_joined {stop : String} {sep : Char} (single : stop.toList = [sep]) {text : String}
    (listed : sep ∈ text.toList) :
    ∃ left right, sep ∉ left.toList ∧ text = left ++ stop ++ right := by
  obtain ⟨front, back, split, free⟩ := List.eq_append_cons_of_mem listed
  refine ⟨String.ofList front, String.ofList back, by rwa [String.toList_ofList], ?_⟩
  rw [← String.toList_inj, toList_joined single, String.toList_ofList, String.toList_ofList, split]

/-- A text of digits has no other characters. -/
theorem not_mem_of_isDigitText {text : String} (digits : isDigitText text = true) {char : Char}
    (other : (isDecimal char || isOtherDigit char) = false) : char ∉ text.toList := by
  intro member
  rw [isDigitText, Bool.and_eq_true, List.all_eq_true] at digits
  exact absurd (digits.2 char member) (by simp [other])

/-- A number that can be read has digits only. -/
theorem isDigitText_of_readInt {text : String} {number : Nat} (read : readInt text = some number) :
    isDigitText text = true := by
  unfold readInt at read
  split at read
  · rename_i decimal
    rw [isDigitText, Bool.and_eq_true, decide_eq_true_eq, List.all_eq_true]
    exact ⟨decimal.1, fun char member => by rw [List.all_eq_true.mp decimal.2 char member]; rfl⟩
  · cases read

/-- The characters that separate the parts of an item are no digits. -/
theorem marks_not_digits :
    ∀ char ∈ ['-', '/', '*', ','], (isDecimal char || isOtherDigit char) = false := by
  have checked : (['-', '/', '*', ','].all fun char => !(isDecimal char || isOtherDigit char)) =
      true := by
    decide +kernel
  intro char member
  exact (Bool.not_eq_true' _).mp (List.all_eq_true.mp checked char member)

/-- The range check raises exactly on a number that cannot be read. -/
theorem isIntInRange_eq_none_iff {text : String} {lo hi : Nat} :
    isIntInRange text lo hi = none ↔ Unreadable text := by
  unfold isIntInRange Unreadable
  split
  · rename_i digits
    rw [Option.map_eq_none_iff]
    exact (and_iff_right digits).symm
  · rename_i other
    exact iff_of_false nofun fun unreadable => other unreadable.1

/-- The range check accepts exactly the numbers of the field. -/
theorem isIntInRange_eq_true_iff {text : String} {field : CronField} :
    isIntInRange text field.lo field.hi = some true ↔
      ∃ number, readInt text = some number ∧ field.Holds number := by
  unfold isIntInRange
  split
  · rw [Option.map_eq_some_iff]
    simp only [Bool.and_eq_true, decide_eq_true_eq, CronField.Holds]
  · rename_i other
    exact iff_of_false nofun fun ⟨number, read, _⟩ => other (isDigitText_of_readInt read)

/-! ## The start of an item -/

/-- The test of `_validate_field` for a value or a range. -/
def checkBase (text : String) (lo hi : Nat) : Option Bool :=
  if text.toList.contains '-' then (parseRange text lo hi).map Option.isSome
  else isIntInRange text lo hi

/-- A range is parsed from its two ends. -/
theorem parseRange_joined {left right : String} (free : '-' ∉ left.toList) (field : CronField) :
    parseRange (left ++ "-" ++ right) field.lo field.hi =
      (isIntInRange left field.lo field.hi).bind fun inside =>
        if inside then (isIntInRange right field.lo field.hi).bind fun inside =>
          if inside then (readInt left).bind fun first => (readInt right).map fun last =>
            if last < first then none else some (first, last)
          else some none
        else some none := by
  rw [parseRange, splitOnce_joined toList_dash free]
  dsimp only
  cases isIntInRange left field.lo field.hi with
  | none => rfl
  | some inside =>
      cases inside with
      | false => rfl
      | true =>
          cases isIntInRange right field.lo field.hi with
          | none => rfl
          | some inside =>
              cases inside with
              | false => rfl
              | true => cases readInt left <;> cases readInt right <;> rfl

variable {field : CronField}

/-- Parsing a range raises exactly on an end that is reached and cannot be read. -/
theorem parseRange_eq_none_iff {left right : String} (free : '-' ∉ left.toList) :
    parseRange (left ++ "-" ++ right) field.lo field.hi = none ↔
      Unreadable left ∨
        (∃ first, readInt left = some first ∧ field.Holds first) ∧ Unreadable right := by
  rw [parseRange_joined free, ← isIntInRange_eq_none_iff, ← isIntInRange_eq_none_iff,
    ← isIntInRange_eq_true_iff]
  cases lower : isIntInRange left field.lo field.hi with
  | none => simp
  | some inside =>
      cases inside with
      | false => simp
      | true =>
          obtain ⟨first, readFirst, _⟩ := isIntInRange_eq_true_iff.mp lower
          cases upper : isIntInRange right field.lo field.hi with
          | none => simp
          | some inside =>
              cases inside with
              | false => simp
              | true =>
                  obtain ⟨last, readLast, _⟩ := isIntInRange_eq_true_iff.mp upper
                  simp [readFirst, readLast]

/-- A range is accepted exactly with ends of the field, in order. -/
theorem parseRange_eq_some_iff {left right : String} (free : '-' ∉ left.toList)
    {first last : Nat} :
    parseRange (left ++ "-" ++ right) field.lo field.hi = some (some (first, last)) ↔
      readInt left = some first ∧ readInt right = some last ∧ field.Holds first ∧
        field.Holds last ∧ first ≤ last := by
  rw [parseRange_joined free]
  constructor
  · intro parsed
    obtain ⟨inside, lower, parsed⟩ := Option.bind_eq_some_iff.mp parsed
    cases inside with
    | false => cases parsed
    | true =>
        obtain ⟨inside, upper, parsed⟩ := Option.bind_eq_some_iff.mp parsed
        cases inside with
        | false => cases parsed
        | true =>
            obtain ⟨low, readFirst, inFirst⟩ := isIntInRange_eq_true_iff.mp lower
            obtain ⟨high, readLast, inLast⟩ := isIntInRange_eq_true_iff.mp upper
            simp only [↓reduceIte, readFirst, readLast, Option.bind_some, Option.map_some,
              Option.some_inj] at parsed
            split at parsed
            · cases parsed
            · rename_i ordered
              cases parsed
              exact ⟨readFirst, readLast, inFirst, inLast, Nat.le_of_not_lt ordered⟩
  · rintro ⟨readFirst, readLast, inFirst, inLast, ordered⟩
    rw [isIntInRange_eq_true_iff.mpr ⟨first, readFirst, inFirst⟩,
      isIntInRange_eq_true_iff.mpr ⟨last, readLast, inLast⟩, readFirst, readLast]
    simp [Nat.not_lt.mpr ordered]

/-- The test of a value or a range raises exactly on a number that cannot be read. -/
theorem checkBase_eq_none_iff {text : String} :
    checkBase text field.lo field.hi = none ↔ UnreadableBase field text := by
  unfold checkBase
  by_cases dash : '-' ∈ text.toList
  · rw [if_pos (List.contains_iff_mem.mpr dash), Option.map_eq_none_iff]
    obtain ⟨left, right, free, rfl⟩ := exists_joined toList_dash dash
    rw [parseRange_eq_none_iff free]
    constructor
    · rintro (unreadable | ⟨⟨first, read, holds⟩, unreadable⟩)
      · exact .left unreadable
      · exact .right read holds unreadable
    · intro unreadable
      generalize same : left ++ "-" ++ right = text at unreadable
      cases unreadable with
      | value unreadable =>
          refine absurd ?_ (not_mem_of_isDigitText unreadable.1 (marks_not_digits '-' (by decide)))
          rw [← same]
          exact mem_joined toList_dash left right
      | left unreadable =>
          have other := not_mem_of_isDigitText unreadable.1 (marks_not_digits '-' (by decide))
          obtain ⟨rfl, rfl⟩ := joined_inj toList_dash free other same
          exact .inl unreadable
      | right read holds unreadable =>
          have other := not_mem_of_isDigitText (isDigitText_of_readInt read)
            (marks_not_digits '-' (by decide))
          obtain ⟨rfl, rfl⟩ := joined_inj toList_dash free other same
          exact .inr ⟨⟨_, read, holds⟩, unreadable⟩
  · rw [if_neg (by rwa [List.contains_iff_mem]), isIntInRange_eq_none_iff]
    refine ⟨.value, fun unreadable => ?_⟩
    cases unreadable with
    | value unreadable => exact unreadable
    | left _ => exact absurd (by simp) dash
    | right _ _ _ => exact absurd (by simp) dash

/-- A text with another character is no `*`. -/
theorem ne_star_of_mem {text : String} {sep : Char} (listed : sep ∈ text.toList)
    (other : sep ≠ '*') : text ≠ "*" := by
  rintro rfl
  exact other (List.mem_singleton.mp listed)

/-- A number is no `*`. -/
theorem ne_star_of_readInt {text : String} {number : Nat} (read : readInt text = some number) :
    text ≠ "*" := by
  rintro rfl
  exact absurd (isDigitText_of_readInt read) (by decide +kernel)

/-- A number has no dash. -/
theorem not_mem_dash_of_readInt {text : String} {number : Nat}
    (read : readInt text = some number) : '-' ∉ text.toList :=
  not_mem_of_isDigitText (isDigitText_of_readInt read) (marks_not_digits '-' (by decide))

/-- A spelled value or range passes the test. -/
theorem checkBase_of_spells {base : CronBase} {text : String} (spells : base.Spells field text)
    (numbers : base ≠ .any) : checkBase text field.lo field.hi = some true := by
  cases spells with
  | any => exact absurd rfl numbers
  | value read holds =>
      rw [checkBase, if_neg (by simpa using not_mem_dash_of_readInt read)]
      exact isIntInRange_eq_true_iff.mpr ⟨_, read, holds⟩
  | range readFirst readLast inFirst inLast ordered =>
      have free := not_mem_dash_of_readInt readFirst
      rw [checkBase, if_pos (by simp [toList_joined toList_dash]),
        (parseRange_eq_some_iff free).mpr ⟨readFirst, readLast, inFirst, inLast, ordered⟩]
      rfl

/-- What passes the test spells a value or a range. -/
theorem spells_of_checkBase {text : String}
    (accepted : checkBase text field.lo field.hi = some true) :
    ∃ base : CronBase, base.Spells field text ∧ base ≠ .any := by
  unfold checkBase at accepted
  by_cases dash : '-' ∈ text.toList
  · rw [if_pos (List.contains_iff_mem.mpr dash), Option.map_eq_some_iff] at accepted
    obtain ⟨range, parsed, isRange⟩ := accepted
    obtain ⟨⟨first, last⟩, rfl⟩ := Option.isSome_iff_exists.mp isRange
    obtain ⟨left, right, free, rfl⟩ := exists_joined toList_dash dash
    obtain ⟨readFirst, readLast, inFirst, inLast, ordered⟩ :=
      (parseRange_eq_some_iff free).mp parsed
    exact ⟨.range first last, .range readFirst readLast inFirst inLast ordered, nofun⟩
  · rw [if_neg (by rwa [List.contains_iff_mem])] at accepted
    obtain ⟨number, read, holds⟩ := isIntInRange_eq_true_iff.mp accepted
    exact ⟨.value number, .value read holds, nofun⟩

/-! ## The validation of a chunk -/

/-- The verdict on a value or a range that is no `*`. -/
def baseVerdict (text : String) (field : CronField) : Option (Option String) :=
  (checkBase text field.lo field.hi).map fun
    | true => none
    | false => some (if text.toList.contains '-' then field.name ++ " range is invalid: " ++ text
        else field.name ++ " value out of range: " ++ text)

/-- The verdict as `_validate_field` computes it. -/
theorem baseVerdict_eq (text : String) (field : CronField) : baseVerdict text field =
    if text.toList.contains '-' then (parseRange text field.lo field.hi).bind fun range =>
      some (if range.isSome then none else some (field.name ++ " range is invalid: " ++ text))
    else (isIntInRange text field.lo field.hi).bind fun inside =>
      some (if inside then none else some (field.name ++ " value out of range: " ++ text)) := by
  unfold baseVerdict checkBase
  split
  · cases parseRange text field.lo field.hi with
    | none => rfl
    | some range => cases range <;> rfl
  · cases isIntInRange text field.lo field.hi with
    | none => rfl
    | some inside => cases inside <;> rfl

/-- A chunk without a step is checked as a value or a range. -/
theorem validateChunk_plain {chunk : String} (listed : chunk ≠ "") (numbers : chunk ≠ "*")
    (free : '/' ∉ chunk.toList) :
    validateChunk chunk field.lo field.hi field.name = baseVerdict chunk field := by
  rw [validateChunk, if_neg listed, if_neg numbers, if_neg (by rwa [List.contains_iff_mem]),
    baseVerdict_eq]
  rfl

/-- A chunk with a step is checked by its step, then by its start. -/
theorem validateChunk_stepped {text stepText : String} (free : '/' ∉ text.toList) :
    validateChunk (text ++ "/" ++ stepText) field.lo field.hi field.name =
      if isDigitText stepText then (readInt stepText).bind fun step =>
        if step = 0 then some (some (field.name ++ " step must be a positive integer."))
        else if text = "*" then some none
        else baseVerdict text field
      else some (some (field.name ++ " step must be a positive integer.")) := by
  have slash := mem_joined toList_slash text stepText
  have listed : text ++ "/" ++ stepText ≠ "" := by
    intro blank
    rw [blank] at slash
    cases slash
  have starless := ne_star_of_mem slash (by decide)
  rw [validateChunk, if_neg listed, if_neg starless, if_pos (List.contains_iff_mem.mpr slash),
    splitOnce_joined toList_slash free, baseVerdict_eq]
  dsimp only
  cases isDigitText stepText <;> rfl

/-- The verdict raises exactly on a number that cannot be read. -/
theorem baseVerdict_eq_none_iff {text : String} :
    baseVerdict text field = none ↔ UnreadableBase field text := by
  rw [baseVerdict, Option.map_eq_none_iff, checkBase_eq_none_iff]

/-- The verdict accepts exactly what spells a value or a range. -/
theorem baseVerdict_accepts_iff {text : String} (numbers : text ≠ "*") :
    baseVerdict text field = some none ↔ ∃ base : CronBase, base.Spells field text := by
  constructor
  · intro accepted
    obtain ⟨inside, checked, verdict⟩ := Option.map_eq_some_iff.mp accepted
    cases inside with
    | false => cases verdict
    | true =>
        obtain ⟨base, spells, _⟩ := spells_of_checkBase checked
        exact ⟨base, spells⟩
  · rintro ⟨base, spells⟩
    have other : base ≠ .any := by
      rintro rfl
      cases spells
      exact numbers rfl
    rw [baseVerdict, checkBase_of_spells spells other]
    rfl

/-- The empty text and `*` hold no number that cannot be read. -/
theorem not_unreadableBase {text : String} (plain : text = "" ∨ text = "*") :
    ¬UnreadableBase field text := by
  rw [← checkBase_eq_none_iff]
  rcases plain with rfl | rfl
  · rw [checkBase, if_neg (by decide), isIntInRange, if_neg (by decide)]
    nofun
  · rw [checkBase, if_neg (by decide), isIntInRange, if_neg (by decide +kernel)]
    nofun

/-- A value or a range has no slash. -/
theorem slash_free_of_base {base : CronBase} {text : String} (spells : base.Spells field text) :
    '/' ∉ text.toList := by
  have digits {text : String} {number : Nat} (read : readInt text = some number) :
      '/' ∉ text.toList :=
    not_mem_of_isDigitText (isDigitText_of_readInt read) (marks_not_digits '/' (by decide))
  cases spells with
  | any => decide
  | value read _ => exact digits read
  | range readFirst readLast _ _ _ =>
      rw [toList_joined toList_dash]
      simp [digits readFirst, digits readLast]

/-- A value or a range is not empty. -/
theorem ne_blank_of_spells {base : CronBase} {text : String} (spells : base.Spells field text) :
    text ≠ "" := by
  cases spells with
  | any => decide
  | value read _ =>
      rintro rfl
      exact absurd (isDigitText_of_readInt read) (by decide)
  | range _ _ _ _ _ =>
      intro blank
      have empty := congrArg String.toList blank
      rw [toList_joined toList_dash] at empty
      simp at empty

/-- The validation of a chunk raises exactly when it reaches a number that cannot be read. -/
theorem validateChunk_eq_none_iff {chunk : String} :
    validateChunk chunk field.lo field.hi field.name = none ↔ UnreadableChunk field chunk := by
  by_cases slash : '/' ∈ chunk.toList
  · obtain ⟨text, stepText, free, rfl⟩ := exists_joined toList_slash slash
    rw [validateChunk_stepped free]
    constructor
    · intro raised
      split at raised
      · rename_i digits
        cases read : readInt stepText with
        | none => exact .step free ⟨digits, read⟩
        | some step =>
            rw [read, Option.bind_some] at raised
            split at raised
            · cases raised
            · rename_i positive
              split at raised
              · cases raised
              · exact .base free read (Nat.pos_of_ne_zero positive)
                  (baseVerdict_eq_none_iff.mp raised)
      · cases raised
    · intro unreadable
      generalize same : text ++ "/" ++ stepText = chunk at unreadable
      cases unreadable with
      | plain other _ => exact absurd (same ▸ slash) other
      | step other unreadable =>
          obtain ⟨rfl, rfl⟩ := joined_inj toList_slash free other same
          rw [if_pos unreadable.1, unreadable.2, Option.bind_none]
      | base other read positive unreadable =>
          obtain ⟨rfl, rfl⟩ := joined_inj toList_slash free other same
          have numbers : text ≠ "*" := fun star => not_unreadableBase (.inr star) unreadable
          rw [if_pos (isDigitText_of_readInt read), read, Option.bind_some,
            if_neg (Nat.pos_iff_ne_zero.mp positive), if_neg numbers]
          exact baseVerdict_eq_none_iff.mpr unreadable
  · have base : UnreadableChunk field chunk ↔ UnreadableBase field chunk := by
      refine ⟨fun unreadable => ?_, .plain slash⟩
      cases unreadable with
      | plain _ unreadable => exact unreadable
      | step _ _ => exact absurd (by simp [toList_slash]) slash
      | base _ _ _ _ => exact absurd (by simp [toList_slash]) slash
    rw [base]
    by_cases blank : chunk = ""
    · rw [validateChunk, if_pos blank]
      exact iff_of_false nofun (not_unreadableBase (.inl blank))
    · by_cases star : chunk = "*"
      · rw [validateChunk, if_neg blank, if_pos star]
        exact iff_of_false nofun (not_unreadableBase (.inr star))
      · rw [validateChunk_plain blank star slash, baseVerdict_eq_none_iff]

/-- The validation accepts exactly the chunks that spell an item. -/
theorem validateChunk_accepts_iff {chunk : String} :
    validateChunk chunk field.lo field.hi field.name = some none ↔
      ∃ item : CronItem, item.Spells field chunk := by
  by_cases slash : '/' ∈ chunk.toList
  · obtain ⟨text, stepText, free, rfl⟩ := exists_joined toList_slash slash
    rw [validateChunk_stepped free]
    constructor
    · intro accepted
      split at accepted
      · obtain ⟨step, read, accepted⟩ := Option.bind_eq_some_iff.mp accepted
        split at accepted
        · cases accepted
        · rename_i positive
          split at accepted
          · rename_i star
            subst star
            exact ⟨⟨.any, some step⟩, .stepped .any read (Nat.pos_of_ne_zero positive)⟩
          · rename_i numbers
            obtain ⟨base, spells⟩ := (baseVerdict_accepts_iff numbers).mp accepted
            exact ⟨_, .stepped spells read (Nat.pos_of_ne_zero positive)⟩
      · cases accepted
    · rintro ⟨item, spells⟩
      generalize same : text ++ "/" ++ stepText = chunk at spells
      cases spells with
      | plain spells => exact absurd (same ▸ slash) (slash_free_of_base spells)
      | stepped spells read positive =>
          obtain ⟨rfl, rfl⟩ := joined_inj toList_slash free (slash_free_of_base spells) same
          rw [if_pos (isDigitText_of_readInt read), read, Option.bind_some,
            if_neg (Nat.pos_iff_ne_zero.mp positive)]
          split
          · rfl
          · rename_i numbers
            exact (baseVerdict_accepts_iff numbers).mpr ⟨_, spells⟩
  · have base : (∃ item : CronItem, item.Spells field chunk) ↔
        ∃ base : CronBase, base.Spells field chunk := by
      constructor
      · rintro ⟨item, spells⟩
        cases spells with
        | plain spells => exact ⟨_, spells⟩
        | stepped _ _ _ => exact absurd (by simp [toList_slash]) slash
      · exact fun ⟨base, spells⟩ => ⟨_, .plain spells⟩
    rw [base]
    by_cases blank : chunk = ""
    · rw [validateChunk, if_pos blank]
      refine iff_of_false nofun ?_
      rintro ⟨base, spells⟩
      exact ne_blank_of_spells spells blank
    · by_cases star : chunk = "*"
      · rw [validateChunk, if_neg blank, if_pos star]
        exact iff_of_true rfl ⟨.any, by rw [star]; exact .any⟩
      · rw [validateChunk_plain blank star slash, baseVerdict_accepts_iff star]

/-! ## The matching of a chunk -/

/-- Whether a value is some steps above a start. -/
theorem onStep_eq {value : Int} {start step : Nat} (positive : 0 < step) :
    onStep value start step = some (decide ((value - start) % (step : Int) = 0)) := by
  rw [onStep, if_neg (Nat.pos_iff_ne_zero.mp positive)]

/-- The steps above a start, as a remainder. -/
theorem mem_steps_iff {value : Int} {start step : Nat} (above : (start : Int) ≤ value) :
    value ∈ steps start step ↔ (value - start) % (step : Int) = 0 := by
  rw [← Int.dvd_iff_emod_eq_zero]
  constructor
  · rintro ⟨count, rfl⟩
    exact ⟨count, by rw [Int.mul_comm]; omega⟩
  · rintro ⟨count, split⟩
    rcases Nat.eq_zero_or_pos step with rfl | positive
    · exact ⟨0, by simpa [Int.sub_eq_zero] using split⟩
    · have whole : 0 ≤ count := by
        by_contra negative
        have below : (step : Int) * count < 0 :=
          Int.mul_neg_of_pos_of_neg (Int.natCast_pos.mpr positive) (Int.not_le.mp negative)
        omega
      refine ⟨count.toNat, ?_⟩
      rw [Int.toNat_of_nonneg whole, Int.mul_comm, ← split]
      omega

/-- A number of the field passes the range check. -/
theorem inRange_of_read {text : String} {number : Nat} (read : readInt text = some number)
    (holds : field.Holds number) : isIntInRange text field.lo field.hi = some true :=
  isIntInRange_eq_true_iff.mpr ⟨number, read, holds⟩

/-- A chunk without a step matches the values that it spells. -/
theorem matchesChunk_plain {base : CronBase} {text : String} (spells : base.Spells field text)
    (value : Int) : ∃ found, matchesChunk value text field.lo field.hi = some found ∧
      (value ∈ field.values → (found = true ↔ value ∈ CronItem.values field ⟨base, none⟩)) := by
  have free := slash_free_of_base spells
  cases spells with
  | any => exact ⟨true, rfl, fun inside => iff_of_true rfl inside⟩
  | value read holds =>
      rename_i number
      have other := ne_star_of_readInt read
      refine ⟨decide ((number : Int) = value), ?_, fun _ => ?_⟩
      · rw [matchesChunk, if_neg other, if_neg (by rwa [List.contains_iff_mem]),
          if_neg (by simpa using not_mem_dash_of_readInt read), inRange_of_read read holds, read]
        rfl
      · rw [decide_eq_true_eq, eq_comm]
        rfl
  | range readFirst readLast inFirst inLast ordered =>
      rename_i left right first last
      have other := ne_star_of_mem (mem_joined toList_dash left right) (by decide)
      have free' := not_mem_dash_of_readInt readFirst
      refine ⟨decide (first ≤ value ∧ value ≤ last), ?_, fun _ => decide_eq_true_iff⟩
      rw [matchesChunk, if_neg other, if_neg (by rwa [List.contains_iff_mem]),
        if_pos (by simp [toList_joined toList_dash]),
        (parseRange_eq_some_iff free').mpr ⟨readFirst, readLast, inFirst, inLast, ordered⟩]
      rfl

/-- A chunk with a step is matched by its start, then by its step. -/
theorem matchesChunk_stepped {text stepText : String} {step : Nat} (value : Int)
    (free : '/' ∉ text.toList) (read : readInt stepText = some step) :
    matchesChunk value (text ++ "/" ++ stepText) field.lo field.hi =
      if text = "*" then onStep value field.lo step
      else if text.toList.contains '-' then (parseRange text field.lo field.hi).bind fun
        | none => some false
        | some (first, last) =>
            if first ≤ value ∧ value ≤ last then onStep value first step else some false
      else (isIntInRange text field.lo field.hi).bind fun inside =>
        if inside then (readInt text).bind fun start =>
          if start ≤ value then onStep value start step else some false
        else some false := by
  have slash := mem_joined toList_slash text stepText
  have other := ne_star_of_mem slash (by decide)
  rw [matchesChunk, if_neg other, if_pos (List.contains_iff_mem.mpr slash),
    splitOnce_joined toList_slash free]
  dsimp only
  rw [read]
  rfl

/-- A chunk that spells an item is matched by the values of the item. -/
theorem matchesChunk_of_spells {item : CronItem} {chunk : String}
    (spells : item.Spells field chunk) (value : Int) :
    ∃ found, matchesChunk value chunk field.lo field.hi = some found ∧
      (value ∈ field.values → (found = true ↔ value ∈ item.values field)) := by
  cases spells with
  | plain spells => exact matchesChunk_plain spells value
  | stepped spells read positive =>
      rename_i base text stepText step
      rw [matchesChunk_stepped value (slash_free_of_base spells) read]
      cases spells with
      | any =>
          rw [if_pos rfl, onStep_eq positive]
          refine ⟨_, rfl, fun inside => ?_⟩
          rw [decide_eq_true_eq, ← mem_steps_iff inside.1]
          exact (and_iff_right inside).symm
      | value readStart holds =>
          rename_i number
          have other := ne_star_of_readInt readStart
          rw [if_neg other, if_neg (by simpa using not_mem_dash_of_readInt readStart),
            inRange_of_read readStart holds, readStart, Option.bind_some, if_pos rfl,
            Option.bind_some]
          by_cases above : (number : Int) ≤ value
          · rw [if_pos above, onStep_eq positive]
            refine ⟨_, rfl, fun inside => ?_⟩
            rw [decide_eq_true_eq, ← mem_steps_iff above]
            exact (and_iff_right inside).symm
          · rw [if_neg above]
            refine ⟨false, rfl, fun _ => iff_of_false nofun ?_⟩
            rintro ⟨_, count, rfl⟩
            have product := Nat.zero_le (count * step)
            omega
      | range readFirst readLast inFirst inLast ordered =>
          rename_i left right first last
          have other := ne_star_of_mem (mem_joined toList_dash left right) (by decide)
          rw [if_neg other, if_pos (by simp [toList_joined toList_dash]),
            (parseRange_eq_some_iff (not_mem_dash_of_readInt readFirst)).mpr
              ⟨readFirst, readLast, inFirst, inLast, ordered⟩, Option.bind_some]
          dsimp only
          by_cases inside : (first : Int) ≤ value ∧ value ≤ last
          · rw [if_pos inside, onStep_eq positive]
            refine ⟨_, rfl, fun _ => ?_⟩
            rw [decide_eq_true_eq, ← mem_steps_iff inside.1]
            exact (and_iff_right inside.2).symm
          · rw [if_neg inside]
            refine ⟨false, rfl, fun _ => iff_of_false nofun ?_⟩
            rintro ⟨below, count, rfl⟩
            have product := Nat.zero_le (count * step)
            exact inside ⟨by omega, below⟩

/-- An item has a value of its field. -/
theorem exists_mem_values {item : CronItem} {chunk : String} (spells : item.Spells field chunk)
    (proper : field.lo ≤ field.hi) : ∃ value ∈ field.values, value ∈ item.values field := by
  have start (number step : Nat) : (number : Int) ∈ steps number step := ⟨0, by simp⟩
  have low : (field.lo : Int) ∈ field.values :=
    CronField.mem_values_of_holds ⟨Nat.le_refl _, proper⟩
  cases spells with
  | plain spells =>
      cases spells with
      | any => exact ⟨field.lo, low, low⟩
      | value _ holds => exact ⟨_, CronField.mem_values_of_holds holds, rfl⟩
      | range _ _ inFirst _ ordered =>
          exact ⟨_, CronField.mem_values_of_holds inFirst, Int.le_refl _, Int.ofNat_le.mpr ordered⟩
  | stepped spells _ _ =>
      cases spells with
      | any => exact ⟨field.lo, low, low, start _ _⟩
      | value _ holds =>
          have inside := CronField.mem_values_of_holds holds
          exact ⟨_, inside, inside, start _ _⟩
      | range _ _ inFirst _ ordered =>
          exact ⟨_, CronField.mem_values_of_holds inFirst, Int.ofNat_le.mpr ordered, start _ _⟩

/-! ## Fields -/

/-- The chunks match the values of the items that they spell. -/
theorem matchesChunks_of_spells (value : Int) {items : List CronItem} {chunks : List String}
    (spelled : List.Forall₂ (fun item chunk => item.Spells field (strip chunk)) items chunks) :
    ∃ found, matchesChunks value field.lo field.hi chunks = some found ∧
      (value ∈ field.values → (found = true ↔ value ∈ itemValues field items)) := by
  induction spelled with
  | nil =>
      refine ⟨false, rfl, fun _ => iff_of_false Bool.false_ne_true ?_⟩
      rintro ⟨_, ⟨⟩, _⟩
  | cons spells _ ih =>
      obtain ⟨found, matched, exactHere⟩ := matchesChunk_of_spells spells value
      obtain ⟨later, remaining, exactLater⟩ := ih
      rw [matchesChunks, matched, Option.bind_eq_bind, Option.bind_some]
      have split {item : CronItem} {items : List CronItem} :
          value ∈ itemValues field (item :: items) ↔
            value ∈ item.values field ∨ value ∈ itemValues field items := by
        simp [itemValues]
      cases found with
      | true =>
          refine ⟨true, rfl, fun inside => iff_of_true rfl ?_⟩
          exact split.mpr (.inl ((exactHere inside).mp rfl))
      | false =>
          refine ⟨later, remaining, fun inside => ?_⟩
          rw [split, ← exactLater inside, ← exactHere inside]
          simp

/-- A field that lists items is matched by their values. -/
theorem matchesField_of_lists {token : String} {items : List CronItem}
    (lists : Lists field token items) (value : Int) :
    ∃ found, matchesField value token field.lo field.hi = some found ∧
      (value ∈ field.values → (found = true ↔ value ∈ itemValues field items)) :=
  matchesChunks_of_spells value (List.forall₂_map_right_iff.mp lists)

/-- The items of a field have a value. -/
theorem Lists.exists_mem {token : String} {items : List CronItem} (lists : Lists field token items)
    (proper : field.lo ≤ field.hi) : ∃ value ∈ field.values, value ∈ itemValues field items := by
  have listed : cronChunks token ≠ [] := by
    rw [cronChunks, splitAll, Ne, List.map_eq_nil_iff, List.map_eq_nil_iff]
    exact List.splitOn_ne_nil _ _
  unfold Lists at lists
  generalize cronChunks token = chunks at lists listed
  cases lists with
  | nil => exact absurd rfl listed
  | cons spells _ =>
      obtain ⟨value, inside, member⟩ := exists_mem_values spells proper
      exact ⟨value, inside, _, List.mem_cons_self, member⟩

/-- A field whose chunks all spell items lists them. -/
theorem exists_lists {token : String}
    (spelled : ∀ chunk ∈ cronChunks token, ∃ item : CronItem, item.Spells field chunk) :
    ∃ items, Lists field token items := by
  unfold Lists
  generalize cronChunks token = chunks at spelled ⊢
  induction chunks with
  | nil => exact ⟨[], .nil⟩
  | cons chunk rest ih =>
      obtain ⟨item, spells⟩ := spelled chunk List.mem_cons_self
      obtain ⟨items, lists⟩ := ih fun later member => spelled later (List.mem_cons_of_mem _ member)
      exact ⟨item :: items, .cons spells lists⟩

/-! ## Expressions -/

/-- A piece has none of the characters that it was split at. -/
theorem mem_splitOnP_free {drops : Char → Bool} : ∀ {chars piece : List Char},
    piece ∈ chars.splitOnP drops → ∀ char ∈ piece, drops char = false
  | [], piece, member => by
      rw [List.splitOnP_nil, List.mem_singleton] at member
      subst member
      nofun
  | first :: rest, piece, member => by
      rw [List.splitOnP_cons_eq_if_modifyHead] at member
      split at member
      · rcases List.mem_cons.mp member with rfl | later
        · nofun
        · exact mem_splitOnP_free later
      · rename_i stays
        have later {piece : List Char} (member : piece ∈ rest.splitOnP drops) :=
          mem_splitOnP_free member
        cases split : rest.splitOnP drops with
        | nil => exact absurd split (List.splitOnP_ne_nil drops rest)
        | cons head tail =>
            rw [split, List.modifyHead_cons] at member
            rw [split] at later
            rcases List.mem_cons.mp member with rfl | other
            · exact List.forall_mem_cons.mpr
                ⟨Bool.eq_false_iff.mpr stays, later List.mem_cons_self⟩
            · exact later (List.mem_cons_of_mem _ other)

/-- Nothing is dropped from characters without spaces. -/
theorem dropWhile_of_free {chars : List Char} (free : ∀ char ∈ chars, isSpace char = false) :
    chars.dropWhile isSpace = chars := by
  cases chars with
  | nil => rfl
  | cons first rest => rw [List.dropWhile_cons_of_neg (by simp [free first List.mem_cons_self])]

/-- Nothing is stripped from a text without spaces. -/
theorem strip_of_free {chars : List Char} (free : ∀ char ∈ chars, isSpace char = false) :
    strip (String.ofList chars) = String.ofList chars := by
  have back : ∀ char ∈ chars.reverse, isSpace char = false :=
    fun char member => free char (List.mem_reverse.mp member)
  rw [strip, String.toList_ofList, dropWhile_of_free free, dropWhile_of_free back,
    List.reverse_reverse]

/-- A field of an expression is a text without spaces around it. -/
theorem mem_cronParts {expr token : String} (member : token ∈ cronParts expr) :
    strip token = token ∧ token ≠ "" := by
  obtain ⟨part, listed, rfl⟩ := List.mem_map.mp member
  refine ⟨strip_strip part, ?_⟩
  obtain ⟨piece, kept, rfl⟩ := List.mem_map.mp listed
  obtain ⟨whole, solid⟩ := List.mem_filter.mp kept
  rw [strip_of_free (mem_splitOnP_free whole)]
  intro blank
  have empty := congrArg String.toList blank
  rw [String.toList_ofList, String.toList_empty] at empty
  exact of_decide_eq_true solid empty

/-- The loop of `_validate_field` stops at the first verdict. -/
theorem validateChunks_eq (field : CronField) : ∀ chunks : List String,
    validateChunks field.lo field.hi field.name chunks =
      checkAll (fun chunk => validateChunk (strip chunk) field.lo field.hi field.name) chunks
  | [] => rfl
  | chunk :: rest => by
      rw [validateChunks, checkAll, validateChunks_eq field rest]
      cases validateChunk (strip chunk) field.lo field.hi field.name with
      | none => rfl
      | some verdict => cases verdict <;> rfl

/-- A field is checked chunk by chunk. -/
theorem validateField_eq {token : String} (part : strip token = token ∧ token ≠ "")
    (field : CronField) : validateField token field.lo field.hi field.name =
      checkAll (fun chunk => validateChunk chunk field.lo field.hi field.name)
        (cronChunks token) := by
  rw [validateField, part.1, if_neg part.2, validateChunks_eq, cronChunks, checkAll_map]

/-- An expression is checked field by field. -/
theorem validateFields_eq : ∀ fields : List (String × CronField), validateFields fields =
    checkAll (fun part => validateField part.1 part.2.lo part.2.hi part.2.name) fields
  | [] => rfl
  | part :: rest => by
      rw [validateFields, checkAll, validateFields_eq rest]
      cases validateField part.1 part.2.lo part.2.hi part.2.name with
      | none => rfl
      | some verdict => cases verdict <;> rfl

/-- An expression of five fields is checked chunk by chunk. -/
theorem parseCron5_eq {expr : String} (complete : (cronParts expr).length = 5) :
    parseCron5 expr = checkAll (fun chunk : String × CronField =>
      validateChunk chunk.1 chunk.2.lo chunk.2.hi chunk.2.name) (exprChunks expr) := by
  rw [parseCron5, if_neg (not_not.mpr complete), validateFields_eq, exprChunks, ← checkAll_flatMap]
  refine checkAll_congr fun part member => ?_
  rw [validateField_eq (mem_cronParts (List.of_mem_zip member).1), checkAll_map]

/-- The validation raises exactly when a number that cannot be read comes after items. -/
theorem parseCron5_eq_none_iff {expr : String} :
    parseCron5 expr = none ↔ UnreadableExpr expr := by
  by_cases complete : (cronParts expr).length = 5
  · rw [parseCron5_eq complete, checkAll_eq_none_iff, UnreadableExpr, and_iff_right complete]
    simp only [validateChunk_eq_none_iff, validateChunk_accepts_iff]
  · rw [parseCron5, if_pos complete]
    exact iff_of_false nofun fun unreadable => complete unreadable.1

/-- An accepted expression has five fields. -/
theorem length_of_accepted {expr : String} (accepted : parseCron5 expr = some none) :
    (cronParts expr).length = 5 := by
  rw [parseCron5] at accepted
  split at accepted
  · cases accepted
  · rename_i complete
    exact not_not.mp complete

/-- The fields of an accepted expression list items. -/
theorem exists_lists_of_accepted {expr : String} (accepted : parseCron5 expr = some none)
    {part : String × CronField} (member : part ∈ (cronParts expr).zip cronFields) :
    ∃ items, Lists part.2 part.1 items := by
  rw [parseCron5_eq (length_of_accepted accepted), checkAll_accepts_iff] at accepted
  refine exists_lists fun chunk listed => ?_
  exact validateChunk_accepts_iff.mp (accepted (chunk, part.2)
    (List.mem_flatMap.mpr ⟨part, member, List.mem_map.mpr ⟨chunk, listed, rfl⟩⟩))

/-- Every field has a value. -/
theorem lo_le_hi_of_mem : ∀ field ∈ cronFields, field.lo ≤ field.hi := by decide

/-- The validation and the matching of an expression agree unless the validation reaches a number
that cannot be read. -/
theorem cron_reading_iff (expr : String) : ReadsAlike expr ↔ ¬UnreadableExpr expr := by
  rw [← parseCron5_eq_none_iff, ← Ne, Option.ne_none_iff_isSome]
  refine ⟨ReadsAlike.returns, fun returns => ⟨returns, fun accepted part member => ?_⟩⟩
  refine ⟨exists_lists_of_accepted accepted member, fun items lists => ⟨?_, ?_⟩⟩
  · exact lists.exists_mem (lo_le_hi_of_mem part.2 (List.of_mem_zip member).2)
  · exact matchesField_of_lists lists

/-- A superscript digit in the first field makes the validation raise. -/
theorem superscript_raises : ¬ReadsAlike "² * * * *" := fun alike =>
  absurd alike.returns (by decide +kernel)

end FairyClaw
