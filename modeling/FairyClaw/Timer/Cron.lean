import FairyClaw.Foundation.Decimal
import FairyClaw.Foundation.Python

/-! # Cron expressions

A cron expression has five fields, each a list of values, ranges and steps. `parseCron5` checks the
fields when a job is created, and `nextFireAtForCron` scans the minutes after a moment for the first
one that every field matches. Moments are microseconds since the epoch, and `none` is an exception:
`int` refuses some texts that `str.isdigit` accepts. An accepted expression never makes the scan
raise (`FairyClaw.nextFireAtForCron_isSome`), and the moment found is a later one
(`FairyClaw.lt_of_nextFireAtForCron`).
-/

namespace FairyClaw

open Foundation

/-- The characters that `str.isdigit` accepts besides the decimal digits. -/
def isOtherDigit (char : Char) : Bool :=
  [(0xb2, 0xb3), (0xb9, 0xb9), (0x1369, 0x1371), (0x19da, 0x19da), (0x2070, 0x2070),
    (0x2074, 0x2079), (0x2080, 0x2089), (0x2460, 0x2468), (0x2474, 0x247c), (0x2488, 0x2490),
    (0x24ea, 0x24ea), (0x24f5, 0x24fd), (0x24ff, 0x24ff), (0x2776, 0x277e), (0x2780, 0x2788),
    (0x278a, 0x2792), (0x10a40, 0x10a43), (0x10e60, 0x10e68), (0x11052, 0x1105a),
    (0x1f100, 0x1f10a)].any fun range => range.1 ≤ char.toNat && char.toNat ≤ range.2

/-- `str.isdigit` -/
def isDigitText (text : String) : Bool :=
  text ≠ "" && text.toList.all fun char => isDecimal char || isOtherDigit char

/-- `int` on a text that `str.isdigit` accepts. -/
def readInt (text : String) : Option Nat :=
  if text ≠ "" ∧ text.toList.all isDecimal then parseInt text.toList else none

/-- `text.split(sep)` -/
def splitAll (sep : Char) (text : String) : List String :=
  (text.toList.splitOn sep).map String.ofList

/-- `text.split(sep, 1)` of a text that contains `sep`. -/
def splitOnce (sep : Char) (text : String) : String × String :=
  (String.ofList (text.toList.takeWhile (· ≠ sep)),
    String.ofList ((text.toList.dropWhile (· ≠ sep)).drop 1))

/-- `text.split()` -/
def splitSpaces (text : String) : List String :=
  ((text.toList.splitOnP isSpace).filter (· ≠ [])).map String.ofList

/-- `_is_int_in_range` -/
def isIntInRange (value : String) (lo hi : Nat) : Option Bool :=
  if isDigitText value then (readInt value).map fun number => lo ≤ number && number ≤ hi
  else some false

/-- `_parse_range`, `some none` when the range is refused. -/
def parseRange (value : String) (lo hi : Nat) : Option (Option (Nat × Nat)) := do
  let (left, right) := splitOnce '-' value
  if ← isIntInRange left lo hi then
    if ← isIntInRange right lo hi then
      let first ← readInt left
      let last ← readInt right
      return if last < first then none else some (first, last)
    else return none
  else return none

/-- One chunk in the loop of `_validate_field`, with its error text. -/
def validateChunk (chunk : String) (lo hi : Nat) (field : String) : Option (Option String) :=
  if chunk = "" then some (some (field ++ " field has empty chunk."))
  else if chunk = "*" then some none
  else if chunk.toList.contains '/' then
    let (base, stepText) := splitOnce '/' chunk
    if !isDigitText stepText then some (some (field ++ " step must be a positive integer."))
    else do
      if (← readInt stepText) = 0 then return some (field ++ " step must be a positive integer.")
      else if base = "*" then return none
      else if base.toList.contains '-' then
        return if (← parseRange base lo hi).isSome then none
          else some (field ++ " range is invalid: " ++ base)
      else
        return if ← isIntInRange base lo hi then none
          else some (field ++ " value out of range: " ++ base)
  else if chunk.toList.contains '-' then do
    return if (← parseRange chunk lo hi).isSome then none
      else some (field ++ " range is invalid: " ++ chunk)
  else do
    return if ← isIntInRange chunk lo hi then none
      else some (field ++ " value out of range: " ++ chunk)

/-- The loop of `_validate_field`. -/
def validateChunks (lo hi : Nat) (field : String) : List String → Option (Option String)
  | [] => some none
  | chunk :: rest => do
      match ← validateChunk (strip chunk) lo hi field with
      | some error => return some error
      | none => validateChunks lo hi field rest

/-- `_validate_field` -/
def validateField (token : String) (lo hi : Nat) (field : String) : Option (Option String) :=
  let normalized := strip token
  if normalized = "" then some (some (field ++ " field is empty."))
  else validateChunks lo hi field (splitAll ',' normalized)

/-- The bounds and the name of a field. -/
structure CronField where
  lo : Nat
  hi : Nat
  name : String
  deriving DecidableEq, Repr

/-- The five fields, with their bounds and names. -/
def cronFields : List CronField :=
  [{ lo := 0, hi := 59, name := "minute" }, { lo := 0, hi := 23, name := "hour" },
    { lo := 1, hi := 31, name := "day" }, { lo := 1, hi := 12, name := "month" },
    { lo := 0, hi := 6, name := "weekday" }]

/-- The fields of an expression. -/
def cronParts (expr : String) : List String := (splitSpaces (strip expr)).map strip

/-- The checks of `parse_cron_5`, one field after the other. -/
def validateFields : List (String × CronField) → Option (Option String)
  | [] => some none
  | (token, field) :: rest => do
      match ← validateField token field.lo field.hi field.name with
      | some error => return some error
      | none => validateFields rest

/-- `parse_cron_5`, with the error text of a refused expression. -/
def parseCron5 (expr : String) : Option (Option String) :=
  let parts := cronParts expr
  if parts.length ≠ 5 then
    some (some "cron_expr must contain exactly 5 fields: minute hour day month weekday.")
  else validateFields (parts.zip cronFields)

/-- Whether a value is some steps above a start. -/
def onStep (value : Int) (start step : Nat) : Option Bool :=
  if step = 0 then none else some ((value - start) % (step : Int) = 0)

/-- One chunk in the loop of `_matches_field`. -/
def matchesChunk (value : Int) (chunk : String) (lo hi : Nat) : Option Bool :=
  if chunk = "*" then some true
  else if chunk.toList.contains '/' then do
    let (base, stepText) := splitOnce '/' chunk
    let step ← readInt stepText
    if base = "*" then onStep value lo step
    else if base.toList.contains '-' then
      match ← parseRange base lo hi with
      | none => return false
      | some (first, last) =>
          if first ≤ value ∧ value ≤ last then onStep value first step else return false
    else if ← isIntInRange base lo hi then
      let start ← readInt base
      if start ≤ value then onStep value start step else return false
    else return false
  else if chunk.toList.contains '-' then do
    match ← parseRange chunk lo hi with
    | none => return false
    | some (first, last) => return first ≤ value ∧ value ≤ last
  else do
    if ← isIntInRange chunk lo hi then return ((← readInt chunk) : Int) = value else return false

/-- The loop of `_matches_field`. -/
def matchesChunks (value : Int) (lo hi : Nat) : List String → Option Bool
  | [] => some false
  | chunk :: rest => do
      if ← matchesChunk value (strip chunk) lo hi then return true
      else matchesChunks value lo hi rest

/-- `_matches_field` -/
def matchesField (value : Int) (token : String) (lo hi : Nat) : Option Bool :=
  matchesChunks value lo hi (splitAll ',' token)

/-- A minute of local time in microseconds. -/
def minuteMicros : Int := 60000000

/-- Month and day of a day counted from the epoch, in the proleptic Gregorian calendar. -/
def monthDay (days : Int) : Int × Int :=
  let dayOfEra := (days + 719468) % 146097
  let yearOfEra := (dayOfEra - dayOfEra / 1460 + dayOfEra / 36524 - dayOfEra / 146096) / 365
  let dayOfYear := dayOfEra - (365 * yearOfEra + yearOfEra / 4 - yearOfEra / 100)
  let shifted := (5 * dayOfYear + 2) / 153
  (if shifted < 10 then shifted + 3 else shifted - 9, dayOfYear - (153 * shifted + 2) / 5 + 1)

/-- Minute, hour, day, month and weekday of a moment of local time, Monday being zero. -/
def calendarFields (moment : Int) : List Int :=
  let minutes := moment / minuteMicros
  let days := minutes / 1440
  [minutes % 60, minutes / 60 % 24, (monthDay days).2, (monthDay days).1, (days + 3) % 7]

/-- Every field of the expression matches. -/
def matchesFields : List (Int × String × CronField) → Option Bool
  | [] => some true
  | (value, token, field) :: rest => do
      if ← matchesField value token field.lo field.hi then matchesFields rest else return false

/-- The scan of `next_fire_at_for_cron` over the coming minutes of local time. -/
def scanMinutes (parts : List String) : Nat → Int → Option (Option Int)
  | 0, _ => some none
  | count + 1, cursor => do
      if ← matchesFields ((calendarFields cursor).zip (parts.zip cronFields)) then
        return some cursor
      else scanMinutes parts count (cursor + minuteMicros)

/-- The minutes that are scanned, a leap year of them. -/
def maxMinutesScan : Nat := 60 * 24 * 366

/-- `next_fire_at_for_cron`, at an offset of the system timezone. Moments go on without an end, where
`datetime` stops with the year 9999. -/
def nextFireAtForCron (expr : String) (now offset : Int) : Option (Option Int) :=
  let parts := cronParts expr
  if parts.length ≠ 5 then some none
  else do
    let cursor := (now + offset) / minuteMicros * minuteMicros + minuteMicros
    let found ← scanMinutes parts maxMinutesScan cursor
    return found.map (· - offset)

/-- A number in its range can be read. -/
theorem isSome_readInt_of_inRange {value : String} {lo hi : Nat}
    (accepted : isIntInRange value lo hi = some true) : (readInt value).isSome = true := by
  unfold isIntInRange at accepted
  split at accepted
  · obtain ⟨number, read, _⟩ := Option.map_eq_some_iff.mp accepted
    rw [read]
    rfl
  · cases accepted

/-- A positive step raises no exception. -/
theorem isSome_onStep (value : Int) (start : Nat) {step : Nat} (positive : step ≠ 0) :
    (onStep value start step).isSome = true := by
  rw [onStep, if_neg positive]
  rfl

/-- A value with a step that the validation accepts is matched without an exception. -/
theorem isSome_matchesChunk_step {chunk field : String} {lo hi : Nat} (value : Int)
    (stepped : chunk.toList.contains '/' = true)
    (accepted : validateChunk chunk lo hi field = some none) :
    (matchesChunk value chunk lo hi).isSome = true := by
  unfold validateChunk at accepted
  unfold matchesChunk
  simp only [stepped, ↓reduceIte] at accepted ⊢
  split at accepted
  · cases accepted
  · split
    · rfl
    · rename_i plain
      rw [if_neg plain] at accepted
      split at accepted
      · cases accepted
      · obtain ⟨step, read, accepted⟩ := Option.bind_eq_some_iff.mp accepted
        rw [read, Option.bind_eq_bind, Option.bind_some]
        split at accepted
        · cases accepted
        · rename_i positive
          have steps (start : Nat) := isSome_onStep value start positive
          split
          · exact steps lo
          · rename_i other
            rw [if_neg other] at accepted
            split at accepted
            · rename_i ranged
              rw [if_pos ranged]
              obtain ⟨range, parsed, _⟩ := Option.bind_eq_some_iff.mp accepted
              rw [parsed, Option.bind_eq_bind, Option.bind_some]
              cases range with
              | none => rfl
              | some bounds =>
                  simp only
                  split
                  · exact steps bounds.1
                  · rfl
            · rename_i single
              rw [if_neg single]
              obtain ⟨inRange, checked, result⟩ := Option.bind_eq_some_iff.mp accepted
              rw [checked, Option.bind_eq_bind, Option.bind_some]
              cases inRange with
              | false => rfl
              | true =>
                  obtain ⟨start, read⟩ := Option.isSome_iff_exists.mp
                    (isSome_readInt_of_inRange checked)
                  simp only [↓reduceIte, read, Option.bind_some]
                  split
                  · exact steps start
                  · rfl

/-- A chunk that the validation accepts is matched without an exception. -/
theorem isSome_matchesChunk {chunk field : String} {lo hi : Nat} (value : Int)
    (accepted : validateChunk chunk lo hi field = some none) :
    (matchesChunk value chunk lo hi).isSome = true := by
  by_cases stepped : chunk.toList.contains '/' = true
  · exact isSome_matchesChunk_step value stepped accepted
  · unfold validateChunk at accepted
    unfold matchesChunk
    simp only [stepped, Bool.false_eq_true, ↓reduceIte] at accepted ⊢
    split at accepted
    · cases accepted
    · split
      · rfl
      · rename_i plain
        rw [if_neg plain] at accepted
        split at accepted
        · rename_i ranged
          rw [if_pos ranged]
          obtain ⟨range, parsed, _⟩ := Option.bind_eq_some_iff.mp accepted
          rw [parsed, Option.bind_eq_bind, Option.bind_some]
          cases range <;> rfl
        · rename_i single
          rw [if_neg single]
          obtain ⟨inRange, checked, _⟩ := Option.bind_eq_some_iff.mp accepted
          rw [checked, Option.bind_eq_bind, Option.bind_some]
          cases inRange with
          | false => rfl
          | true =>
              obtain ⟨number, read⟩ := Option.isSome_iff_exists.mp
                (isSome_readInt_of_inRange checked)
              simp only [↓reduceIte, read]
              rfl

/-- Accepted chunks raise no exception when they are matched. -/
theorem isSome_matchesChunks {lo hi : Nat} {field : String} (value : Int) :
    ∀ {chunks : List String}, validateChunks lo hi field chunks = some none →
      (matchesChunks value lo hi chunks).isSome = true
  | [], _ => rfl
  | chunk :: rest, accepted => by
      obtain ⟨verdict, checked, remaining⟩ := Option.bind_eq_some_iff.mp accepted
      cases verdict with
      | some error => cases remaining
      | none =>
          obtain ⟨found, matched⟩ := Option.isSome_iff_exists.mp (isSome_matchesChunk value checked)
          rw [matchesChunks, matched, Option.bind_eq_bind, Option.bind_some]
          cases found with
          | true => rfl
          | false => exact isSome_matchesChunks value remaining

/-- An accepted field raises no exception when it is matched. -/
theorem isSome_matchesField {token field : String} {lo hi : Nat} (value : Int)
    (trimmed : strip token = token) (accepted : validateField token lo hi field = some none) :
    (matchesField value token lo hi).isSome = true := by
  unfold validateField at accepted
  rw [trimmed] at accepted
  simp only at accepted
  split at accepted
  · cases accepted
  · exact isSome_matchesChunks value accepted

/-- Accepted fields raise no exception when they are matched. -/
theorem isSome_matchesFields :
    ∀ {values : List Int} {fields : List (String × CronField)},
      (∀ entry ∈ fields, strip entry.1 = entry.1) → validateFields fields = some none →
      (matchesFields (values.zip fields)).isSome = true
  | [], _, _, _ => rfl
  | _ :: _, [], _, _ => rfl
  | value :: values, (token, field) :: fields, trimmed, accepted => by
      obtain ⟨verdict, checked, remaining⟩ := Option.bind_eq_some_iff.mp accepted
      cases verdict with
      | some error => cases remaining
      | none =>
          obtain ⟨found, matched⟩ := Option.isSome_iff_exists.mp
            (isSome_matchesField value (trimmed _ List.mem_cons_self) checked)
          rw [List.zip_cons_cons, matchesFields, matched, Option.bind_eq_bind, Option.bind_some]
          cases found with
          | false => rfl
          | true =>
              exact isSome_matchesFields
                (fun entry member => trimmed entry (List.mem_cons_of_mem _ member)) remaining

/-- The scan of accepted fields raises no exception. -/
theorem isSome_scanMinutes {parts : List String} (trimmed : ∀ token ∈ parts, strip token = token)
    (accepted : validateFields (parts.zip cronFields) = some none) :
    ∀ (count : Nat) (cursor : Int), (scanMinutes parts count cursor).isSome = true
  | 0, _ => rfl
  | count + 1, cursor => by
      obtain ⟨found, matched⟩ := Option.isSome_iff_exists.mp
        (isSome_matchesFields (fun entry member => trimmed _ (List.of_mem_zip member).1) accepted)
      rw [scanMinutes, matched, Option.bind_eq_bind, Option.bind_some]
      cases found with
      | true => rfl
      | false => exact isSome_scanMinutes trimmed accepted count _

/-- The scan for an accepted expression raises no exception. -/
theorem nextFireAtForCron_isSome {expr : String} (accepted : parseCron5 expr = some none)
    (now offset : Int) : (nextFireAtForCron expr now offset).isSome = true := by
  unfold parseCron5 at accepted
  unfold nextFireAtForCron
  simp only at accepted ⊢
  split
  · rfl
  · rename_i complete
    rw [if_neg complete] at accepted
    have trimmed : ∀ token ∈ cronParts expr, strip token = token := by
      intro token member
      obtain ⟨part, _, rfl⟩ := List.mem_map.mp member
      exact strip_strip part
    obtain ⟨found, scanned⟩ := Option.isSome_iff_exists.mp
      (isSome_scanMinutes trimmed accepted maxMinutesScan
        ((now + offset) / minuteMicros * minuteMicros + minuteMicros))
    rw [scanned]
    rfl

/-- The scan finds no earlier minute than its first. -/
theorem le_of_scanMinutes {parts : List String} :
    ∀ {count : Nat} {cursor found : Int}, scanMinutes parts count cursor = some (some found) →
      cursor ≤ found
  | 0, _, _, scanned => by cases scanned
  | count + 1, cursor, found, scanned => by
      obtain ⟨matched, _, result⟩ := Option.bind_eq_some_iff.mp scanned
      cases matched with
      | true =>
          cases result
          exact Int.le_refl _
      | false =>
          have later := le_of_scanMinutes result
          unfold minuteMicros at later
          omega

/-- The moment found by the scan is a later one. -/
theorem lt_of_nextFireAtForCron {expr : String} {now offset found : Int}
    (scheduled : nextFireAtForCron expr now offset = some (some found)) : now < found := by
  unfold nextFireAtForCron at scheduled
  simp only at scheduled
  split at scheduled
  · cases scheduled
  · obtain ⟨cursor, scanned, result⟩ := Option.bind_eq_some_iff.mp scheduled
    obtain ⟨moment, rfl, rfl⟩ := Option.map_eq_some_iff.mp (Option.some.inj result)
    have later := le_of_scanMinutes scanned
    unfold minuteMicros at later
    omega

end FairyClaw
