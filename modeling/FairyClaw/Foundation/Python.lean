import Mathlib.Data.List.DropRight
import Mathlib.Data.List.Infix

/-! # Strings and JSON values with Python's conventions

String trimming and lowering, and the values a JSON document decodes to, with
the dictionary lookup and the truth value that Python gives them. Lowering maps
the ASCII letters; a floating-point number is kept as its printed form, since
only its truth value and its text are ever used.
-/

namespace Foundation

/-- The characters `str.strip` removes. -/
def isSpace (char : Char) : Bool :=
  let code := char.toNat
  (0x09 ≤ code && code ≤ 0x0d) || (0x1c ≤ code && code ≤ 0x20) || code == 0x85 || code == 0xa0 ||
    code == 0x1680 || (0x2000 ≤ code && code ≤ 0x200a) || code == 0x2028 || code == 0x2029 ||
    code == 0x202f || code == 0x205f || code == 0x3000

/-- `str.strip` -/
def strip (text : String) : String :=
  String.ofList (((text.toList.dropWhile isSpace).reverse.dropWhile isSpace).reverse)

/-- If nothing is dropped from a list, nothing is dropped from its prefixes. -/
theorem dropWhile_of_prefix {Item : Type} {drops : Item → Bool} {start items : List Item}
    (isPrefix : start <+: items) (kept : items.dropWhile drops = items) :
    start.dropWhile drops = start := by
  cases start with
  | nil => rfl
  | cons first start =>
      obtain ⟨rest, rfl⟩ := isPrefix
      refine List.dropWhile_cons_of_neg fun dropped => ?_
      rw [List.cons_append, List.dropWhile_cons_of_pos dropped] at kept
      have shorter := (List.dropWhile_sublist (l := start ++ rest) drops).length_le
      rw [kept, List.length_cons] at shorter
      omega

/-- Stripping a stripped text changes nothing. -/
theorem strip_strip (text : String) : strip (strip text) = strip text := by
  have front : (text.toList.dropWhile isSpace).dropWhile isSpace =
      text.toList.dropWhile isSpace := List.dropWhile_idempotent _ _
  have isPrefix : ((text.toList.dropWhile isSpace).reverse.dropWhile isSpace).reverse <+:
      text.toList.dropWhile isSpace := by
    rw [← List.reverse_suffix, List.reverse_reverse]
    exact List.dropWhile_suffix _
  unfold strip
  rw [String.toList_ofList, dropWhile_of_prefix isPrefix front, List.reverse_reverse,
    List.dropWhile_idempotent]

/-- `str.lower` -/
def lower (text : String) : String := String.ofList (text.toList.map Char.toLower)

/-- No letter is white space. -/
theorem isSpace_letter {char : Char} (above : 65 ≤ char.toNat) (below : char.toNat ≤ 122) :
    isSpace char = false := by
  simp only [isSpace, Bool.or_eq_false_iff, Bool.and_eq_false_iff, decide_eq_false_iff_not,
    beq_eq_false_iff_ne]
  omega

/-- Lowering keeps spaces and letters apart. -/
theorem isSpace_toLower (char : Char) : isSpace char.toLower = isSpace char := by
  unfold Char.toLower
  split
  · rename_i upper
    have bounds : 65 ≤ char.toNat ∧ char.toNat ≤ 90 := upper
    have lowered : (char.val + 32).toNat = char.toNat + 32 := by
      rw [UInt32.toNat_add, Nat.mod_eq_of_lt]
      · rfl
      · change char.toNat + 32 < _
        omega
    rw [isSpace_letter bounds.1 (by omega), isSpace_letter]
    · change 65 ≤ (char.val + 32).toNat
      omega
    · change (char.val + 32).toNat ≤ 122
      omega
  · rfl

/-- Stripping and lowering may change places. -/
theorem strip_lower (text : String) : strip (lower text) = lower (strip text) := by
  have spaces : isSpace ∘ Char.toLower = isSpace := funext isSpace_toLower
  simp only [strip, lower, String.toList_ofList, List.dropWhile_map, spaces, ← List.map_reverse]

/-- `str.startswith` -/
def startsWith (text start : String) : Bool := start.toList.isPrefixOf text.toList

/-- Substring test, `needle in text`. -/
def contains (text needle : String) : Bool :=
  text.toList.tails.any fun rest => needle.toList.isPrefixOf rest

/-- A text contains another when its characters stand there in a row. -/
theorem contains_iff {text needle : String} :
    contains text needle = true ↔ needle.toList <:+: text.toList := by
  rw [contains, List.any_eq_true, List.infix_iff_prefix_suffix]
  simp only [List.mem_tails, List.isPrefixOf_iff_prefix]
  exact exists_congr fun rest => and_comm

/-- Dropping items does not reach into a part whose first item stays. -/
theorem infix_dropWhile {Item : Type} {drops : Item → Bool} {first : Item} {rest items : List Item}
    (inside : first :: rest <:+: items) (stays : drops first = false) :
    first :: rest <:+: items.dropWhile drops := by
  obtain ⟨before, after, rfl⟩ := inside
  rw [List.append_assoc, List.dropWhile_append]
  split
  · rw [List.cons_append, List.dropWhile_cons_of_neg (by rw [stays]; exact Bool.false_ne_true)]
    exact List.infix_append [] (first :: rest) after
  · rw [← List.append_assoc]
    exact List.infix_append _ _ _

/-- A needle without space at its ends is not stripped. -/
theorem contains_strip {text needle : String} {first last : Char} {rest front : List Char}
    (starts : needle.toList = first :: rest) (ends : needle.toList = front ++ [last])
    (solid : isSpace first = false ∧ isSpace last = false) (found : contains text needle = true) :
    contains (strip text) needle = true := by
  rw [contains_iff] at found ⊢
  rw [starts] at found
  have inside := infix_dropWhile found solid.1
  rw [← starts, ends, ← List.reverse_infix, List.reverse_append] at inside
  rw [strip, String.toList_ofList, ends, ← List.reverse_infix, List.reverse_reverse,
    List.reverse_append]
  exact infix_dropWhile inside solid.2

/-- What a chunk contains, the joined chunks contain. -/
theorem contains_intercalate {separator needle chunk : String} : ∀ {chunks : List String},
    chunk ∈ chunks → contains chunk needle = true →
      contains (String.intercalate separator chunks) needle = true
  | [single], member, found => by
      rw [String.intercalate_singleton, ← List.mem_singleton.mp member]
      exact found
  | first :: second :: rest, member, found => by
      rw [String.intercalate_cons_cons, contains_iff, String.toList_append, String.toList_append]
      rcases List.mem_cons.mp member with rfl | later
      · refine (contains_iff.mp found).trans ?_
        rw [List.append_assoc]
        exact (List.prefix_append _ _).isInfix
      · have inRest : contains (String.intercalate separator (second :: rest)) needle = true :=
          contains_intercalate later found
        refine (contains_iff.mp inRest).trans ?_
        exact (List.suffix_append _ _).isInfix

/-- The first text unless it is empty, `first or second`. -/
def orElse (first second : String) : String := if first = "" then second else first

/-- The values of a JSON document. -/
inductive Json
  | null
  | bool (value : Bool)
  | int (value : Int)
  | float (printed : String)
  | str (value : String)
  | arr (items : List Json)
  | obj (fields : List (String × Json))
  deriving Repr, Inhabited

/-- A dictionary of JSON values with distinct keys. -/
abbrev JsonObject := List (String × Json)

namespace JsonObject

/-- `dict.get` -/
def get (object : JsonObject) (key : String) : Option Json := object.lookup key

/-- Assignment to a key: an existing entry keeps its position. -/
def set (object : JsonObject) (key : String) (value : Json) : JsonObject :=
  match object with
  | [] => [(key, value)]
  | (name, old) :: rest =>
      if name = key then (key, value) :: rest else (name, old) :: JsonObject.set rest key value

/-- `dict.pop` of a key that may be missing. -/
def pop (object : JsonObject) (key : String) : JsonObject :=
  object.filter fun entry => entry.1 ≠ key

/-- `dict.update` -/
def update (object patch : JsonObject) : JsonObject :=
  patch.foldl (fun current entry => JsonObject.set current entry.1 entry.2) object

/-- A key that was set has the value it was given. -/
theorem get_set_self (object : JsonObject) (key : String) (value : Json) :
    (object.set key value).get key = some value := by
  induction object with
  | nil => simp [set, get]
  | cons entry rest ih =>
      obtain ⟨name, old⟩ := entry
      by_cases same : name = key
      · simp [set, get, same]
      · have missing : (key == name) = false := by simpa using Ne.symm same
        simp only [set, same, ↓reduceIte, get, List.lookup_cons, missing]
        exact ih

/-- Setting a key leaves the others. -/
theorem get_set_other (object : JsonObject) {key other : String} (value : Json)
    (different : other ≠ key) : (object.set key value).get other = object.get other := by
  induction object with
  | nil =>
      have missing : (other == key) = false := by simpa using different
      simp [set, get, List.lookup_cons, missing]
  | cons entry rest ih =>
      obtain ⟨name, old⟩ := entry
      by_cases same : name = key
      · subst same
        have missing : (other == name) = false := by simpa using different
        simp [set, get, List.lookup_cons, missing]
      · simp only [set, same, ↓reduceIte, get, List.lookup_cons]
        split
        · rfl
        · exact ih

/-- Popping a key leaves the others. -/
theorem get_pop_other (object : JsonObject) {key other : String} (different : other ≠ key) :
    (object.pop key).get other = object.get other := by
  induction object with
  | nil => rfl
  | cons entry rest ih =>
      obtain ⟨name, value⟩ := entry
      rw [pop] at ih ⊢
      by_cases same : name = key
      · subst same
        have missing : (other == name) = false := by simpa using different
        rw [List.filter_cons_of_neg (by simp), ih]
        simp only [get, List.lookup_cons, missing]
      · rw [List.filter_cons_of_pos (by simpa using same)]
        simp only [get, List.lookup_cons] at ih ⊢
        rw [ih]

/-- A dictionary has one entry for a key. -/
def DistinctKeys (object : JsonObject) : Prop := (object.map Prod.fst).Nodup

/-- Setting a key adds no other key. -/
theorem mem_keys_set {object : JsonObject} {key other : String} {value : Json} :
    other ∈ (object.set key value).map Prod.fst ↔ other ∈ object.map Prod.fst ∨ other = key := by
  induction object with
  | nil => simp [set]
  | cons entry rest ih =>
      obtain ⟨name, old⟩ := entry
      by_cases same : name = key
      · subst same
        simp only [set, ↓reduceIte, List.map_cons, List.mem_cons]
        constructor
        · exact Or.inl
        · rintro (listed | rfl)
          · exact listed
          · exact Or.inl rfl
      · simp only [set, same, ↓reduceIte, List.map_cons, List.mem_cons, ih, or_assoc]

/-- Setting a key keeps the keys distinct. -/
theorem DistinctKeys.set {object : JsonObject} (distinct : object.DistinctKeys) (key : String)
    (value : Json) : (object.set key value).DistinctKeys := by
  unfold DistinctKeys at distinct ⊢
  induction object with
  | nil => exact List.nodup_cons.mpr ⟨List.not_mem_nil, List.nodup_nil⟩
  | cons entry rest ih =>
      obtain ⟨name, old⟩ := entry
      rw [List.map_cons, List.nodup_cons] at distinct
      by_cases same : name = key
      · subst same
        simp only [JsonObject.set, ↓reduceIte, List.map_cons]
        exact List.nodup_cons.mpr distinct
      · simp only [JsonObject.set, same, ↓reduceIte, List.map_cons]
        refine List.nodup_cons.mpr ⟨fun listed => ?_, ih distinct.2⟩
        rcases mem_keys_set.mp listed with old | new
        · exact distinct.1 old
        · exact same new

/-- An update keeps the keys distinct. -/
theorem DistinctKeys.update {object : JsonObject} (distinct : object.DistinctKeys)
    (patch : JsonObject) : (object.update patch).DistinctKeys := by
  unfold JsonObject.update
  induction patch generalizing object with
  | nil => exact distinct
  | cons entry rest ih => exact ih (distinct.set _ _)

/-- What an update leaves under a key. -/
theorem get_update {patch : JsonObject} (distinct : patch.DistinctKeys) (object : JsonObject)
    (key : String) : (object.update patch).get key = (patch.get key).or (object.get key) := by
  unfold update
  unfold DistinctKeys at distinct
  induction patch generalizing object with
  | nil => rfl
  | cons entry rest ih =>
      obtain ⟨name, value⟩ := entry
      rw [List.map_cons, List.nodup_cons] at distinct
      rw [List.foldl_cons, ih distinct.2]
      by_cases own : key = name
      · subst own
        have missing : get rest key = none := by
          rw [get, List.lookup_eq_none_iff]
          intro other member
          simpa using fun same : key = other.1 =>
            distinct.1 (List.mem_map.mpr ⟨other, member, same.symm⟩)
        have first : get ((key, value) :: rest) key = some value := by
          rw [get, List.lookup_cons, beq_self_eq_true]
        rw [missing, get_set_self, first]
        rfl
      · have different : (key == name) = false := by simpa using own
        have passed : get ((name, value) :: rest) key = get rest key := by
          rw [get, List.lookup_cons, different]
          rfl
        rw [get_set_other _ _ own, passed]

end JsonObject

namespace Json

/-- Python's truth value. -/
def truthy : Json → Bool
  | .null => false
  | .bool value => value
  | .int value => value ≠ 0
  | .float printed => printed ≠ "0.0" && printed ≠ "-0.0"
  | .str value => value ≠ ""
  | .arr items => !items.isEmpty
  | .obj fields => !fields.isEmpty

/-- The value when it is a Boolean, as `isinstance(value, bool)` tests. -/
def asBool : Json → Option Bool
  | .bool value => some value
  | _ => none

/-- The value when it is a string. -/
def asStr : Json → Option String
  | .str value => some value
  | _ => none

/-- The value when it is a list. -/
def asArr : Json → Option (List Json)
  | .arr items => some items
  | _ => none

/-- The value when it is a dictionary. -/
def asObj : Json → Option JsonObject
  | .obj fields => some fields
  | _ => none

/-- `list`: the characters of a string, the keys of a dictionary; numbers, Booleans
and null are not iterable. -/
def toList : Json → Option (List Json)
  | .arr items => some items
  | .str value => some (value.toList.map fun char => .str char.toString)
  | .obj fields => some (fields.map fun entry => .str entry.1)
  | _ => none

end Json

end Foundation
