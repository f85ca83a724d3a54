import Mathlib.Data.List.Basic

/-! # Texts with surrogates

Python's `str` is a sequence of code points, and JSON escapes can put a lone surrogate into one. Such
a text has no encoding (`Foundation.PyText.encode`); the texts that have one are those of characters
(`Foundation.PyText.encode_eq_some_iff`).
-/

namespace Foundation

/-- A text of code points, surrogates among them. -/
abbrev PyText := List (Fin 0x110000)

namespace PyText

/-- The code point of a character. -/
def ofChar (character : Char) : Fin 0x110000 :=
  ⟨character.toNat, by
    have valid : character.toNat.isValidChar := character.valid
    unfold Nat.isValidChar at valid
    omega⟩

/-- The code points of a text without surrogates. -/
def ofString (text : String) : PyText := text.toList.map ofChar

/-- No code point of the text is a surrogate. -/
def Encodable (text : PyText) : Prop := ∀ point ∈ text, point.val.isValidChar

instance (text : PyText) : Decidable text.Encodable :=
  inferInstanceAs (Decidable (∀ point ∈ text, point.val.isValidChar))

/-- `str.encode("utf-8")`, given by the text that is encoded; it raises on a surrogate. -/
def encode (text : PyText) : Option String :=
  if text.Encodable then some (String.ofList (text.map fun point => Char.ofNat point.val)) else none

/-- A text that may be missing is encoded when it is there. -/
def encodeOptional : Option PyText → Option (Option String)
  | none => some none
  | some text => text.encode.map some

/-- The code point of a character is none of a surrogate. -/
theorem isValidChar_ofChar (character : Char) : (ofChar character).val.isValidChar := character.valid

/-- A text of characters has an encoding. -/
theorem encodable_ofString (text : String) : (ofString text).Encodable := by
  intro point member
  obtain ⟨character, _, rfl⟩ := List.mem_map.mp member
  exact isValidChar_ofChar character

/-- A text has an encoding exactly when it has no surrogate. -/
theorem isSome_encode_iff {text : PyText} : text.encode.isSome = true ↔ text.Encodable := by
  unfold encode
  split
  · exact iff_of_true rfl ‹_›
  · exact iff_of_false Bool.false_ne_true ‹_›

/-- Encoding a text of characters gives it back. -/
@[simp]
theorem encode_ofString (text : String) : (ofString text).encode = some text := by
  rw [encode, if_pos (encodable_ofString text), ofString, List.map_map]
  have same : (fun point : Fin 0x110000 => Char.ofNat point.val) ∘ ofChar = id := by
    funext character
    exact Char.ofNat_toNat character
  rw [same, List.map_id, String.ofList_toList]

/-- A code point that is no surrogate is that of its character. -/
theorem ofChar_ofNat {point : Fin 0x110000} (valid : point.val.isValidChar) :
    ofChar (Char.ofNat point.val) = point := by
  apply Fin.ext
  rw [ofChar, Char.ofNat, dif_pos valid]
  rfl

/-- Only texts of characters have an encoding. -/
theorem encode_eq_some_iff {text : PyText} {encoded : String} :
    text.encode = some encoded ↔ text = ofString encoded := by
  constructor
  · intro given
    have valid : text.Encodable := isSome_encode_iff.mp (by rw [given]; rfl)
    rw [encode, if_pos valid, Option.some.injEq] at given
    rw [← given, ofString, String.toList_ofList, List.map_map]
    calc text = text.map id := (List.map_id text).symm
      _ = text.map (ofChar ∘ fun point => Char.ofNat point.val) :=
          List.map_congr_left fun point member => (ofChar_ofNat (valid point member)).symm
  · rintro rfl
    exact encode_ofString encoded

/-- Texts of characters are the same when their code points are. -/
theorem ofString_injective : Function.Injective ofString := by
  intro first second same
  have encoded := encode_ofString second
  rw [← same, encode_ofString, Option.some.injEq] at encoded
  exact encoded

/-- A text of characters is compared by its characters. -/
@[simp]
theorem ofString_inj {first second : String} : ofString first = ofString second ↔ first = second :=
  ofString_injective.eq_iff

/-- A text that may be missing has an encoding unless it is there and has a surrogate. -/
theorem isSome_encodeOptional_iff {text : Option PyText} :
    (encodeOptional text).isSome = true ↔ ∀ given ∈ text, given.Encodable := by
  cases text with
  | none => exact iff_of_true rfl nofun
  | some given =>
      rw [encodeOptional, Option.isSome_map, isSome_encode_iff]
      simp only [Option.mem_def, Option.some.injEq, forall_eq']

/-- Appended texts have an encoding when each of them has one. -/
theorem encode_append {first second : PyText} :
    (first ++ second).encode = first.encode.bind fun front =>
      second.encode.map fun back => front ++ back := by
  unfold encode
  have both : Encodable (first ++ second) ↔ first.Encodable ∧ second.Encodable := by
    simp only [Encodable, List.mem_append, or_imp, forall_and]
  by_cases front : first.Encodable
  · by_cases back : second.Encodable
    · rw [if_pos (both.mpr ⟨front, back⟩), if_pos front, if_pos back, List.map_append,
        String.ofList_append]
      rfl
    · rw [if_neg fun all => back (both.mp all).2, if_pos front, if_neg back]
      rfl
  · rw [if_neg fun all => front (both.mp all).1, if_neg front]
    rfl

end PyText

end Foundation
