import Mathlib.Data.List.Basic

/-! # Base64

`base64.b64encode`, and `base64.b64decode` without validation: characters outside the alphabet are
skipped, a padding that fills its group ends the text, and a text that ends inside a group is an
error. Decoding inverts encoding (`Foundation.Base64.decode_encode`).
-/

namespace Foundation.Base64

/-- Consecutive characters. -/
def charRun (first : Char) (count : Nat) : List Char :=
  (List.range count).map fun index => Char.ofNat (first.toNat + index)

/-- The sixty-four digits, in the order of their values. -/
def alphabet : List Char := charRun 'A' 26 ++ charRun 'a' 26 ++ charRun '0' 10 ++ ['+', '/']

/-- The character of six bits. -/
def digit (bits : Nat) : Char := alphabet.getD bits '='

/-- The six bits of a character of the alphabet. -/
def bitsOf (char : Char) : Option Nat := alphabet.idxOf? char

/-- Three bytes become four digits, and what is left at the end is filled up with pads. -/
def encodeBytes : List UInt8 → List Char
  | [] => []
  | [first] => [digit (first.toNat / 4), digit (first.toNat % 4 * 16), '=', '=']
  | [first, second] =>
      [digit (first.toNat / 4), digit (first.toNat % 4 * 16 + second.toNat / 16),
        digit (second.toNat % 16 * 4), '=']
  | first :: second :: third :: rest =>
      digit (first.toNat / 4) :: digit (first.toNat % 4 * 16 + second.toNat / 16) ::
        digit (second.toNat % 16 * 4 + third.toNat / 64) :: digit (third.toNat % 64) ::
          encodeBytes rest

/-- `base64.b64encode` -/
def encode (bytes : List UInt8) : String := String.ofList (encodeBytes bytes)

/-- Decode from a position in a group of four characters, with the bits left over there and the
padding seen. -/
def decodeFrom (position left pads : Nat) : List Char → Option (List UInt8)
  | [] => if position = 0 then some [] else none
  | char :: rest =>
      if char = '=' then
        if 2 ≤ position then
          if 4 ≤ position + (pads + 1) then some [] else decodeFrom position left (pads + 1) rest
        else decodeFrom position left pads rest
      else
        match bitsOf char with
        | none => decodeFrom position left pads rest
        | some bits =>
            match position with
            | 0 => decodeFrom 1 bits 0 rest
            | 1 => (decodeFrom 2 (bits % 16) 0 rest).map (UInt8.ofNat (left * 4 + bits / 16) :: ·)
            | 2 => (decodeFrom 3 (bits % 4) 0 rest).map (UInt8.ofNat (left * 16 + bits / 4) :: ·)
            | _ => (decodeFrom 0 0 0 rest).map (UInt8.ofNat (left * 64 + bits) :: ·)

/-- `base64.b64decode`; `none` is an exception. -/
def decode (text : String) : Option (List UInt8) := decodeFrom 0 0 0 text.toList

/-- A digit reads back as its value, and is no pad. -/
theorem bitsOf_digit {bits : Nat} (small : bits < 64) :
    bitsOf (digit bits) = some bits ∧ digit bits ≠ '=' := by
  have all : ∀ bits : Fin 64, bitsOf (digit bits) = some bits.val ∧ digit bits ≠ '=' := by
    decide +kernel
  exact all ⟨bits, small⟩

section Digits

variable {bits left pads : Nat} {rest : List Char}

/-- The first digit of a group is kept for the next. -/
theorem decodeFrom_first (small : bits < 64) :
    decodeFrom 0 left pads (digit bits :: rest) = decodeFrom 1 bits 0 rest := by
  obtain ⟨known, unpadded⟩ := bitsOf_digit small
  simp only [decodeFrom, unpadded, ↓reduceIte, known]

/-- The second digit completes the first byte of a group. -/
theorem decodeFrom_second (small : bits < 64) :
    decodeFrom 1 left pads (digit bits :: rest) =
      (decodeFrom 2 (bits % 16) 0 rest).map (UInt8.ofNat (left * 4 + bits / 16) :: ·) := by
  obtain ⟨known, unpadded⟩ := bitsOf_digit small
  simp only [decodeFrom, unpadded, ↓reduceIte, known]

/-- The third digit completes the second byte. -/
theorem decodeFrom_third (small : bits < 64) :
    decodeFrom 2 left pads (digit bits :: rest) =
      (decodeFrom 3 (bits % 4) 0 rest).map (UInt8.ofNat (left * 16 + bits / 4) :: ·) := by
  obtain ⟨known, unpadded⟩ := bitsOf_digit small
  simp only [decodeFrom, unpadded, ↓reduceIte, known]

/-- The fourth digit completes the third byte, and the group. -/
theorem decodeFrom_fourth (small : bits < 64) :
    decodeFrom 3 left pads (digit bits :: rest) =
      (decodeFrom 0 0 0 rest).map (UInt8.ofNat (left * 64 + bits) :: ·) := by
  obtain ⟨known, unpadded⟩ := bitsOf_digit small
  simp only [decodeFrom, unpadded, ↓reduceIte, known]

end Digits

/-- The upper and lower bits of a byte make it up. -/
theorem byte_split (byte : UInt8) (upper lower : Nat) (joined : upper + lower = byte.toNat) :
    UInt8.ofNat (upper + lower) = byte := by
  rw [joined, UInt8.ofNat_toNat]

/-- Decoding at the start of a group reads the encoded bytes back. -/
theorem decodeFrom_encodeBytes (bytes : List UInt8) :
    decodeFrom 0 0 0 (encodeBytes bytes) = some bytes := by
  fun_induction encodeBytes bytes with
  | case1 => rfl
  | case2 first =>
      have bound := first.toNat_lt
      rw [decodeFrom_first (by omega), decodeFrom_second (by omega), byte_split first _ _ (by omega)]
      rfl
  | case3 first second =>
      have bound := first.toNat_lt
      have bound' := second.toNat_lt
      rw [decodeFrom_first (by omega), decodeFrom_second (by omega), decodeFrom_third (by omega),
        byte_split first _ _ (by omega), byte_split second _ _ (by omega)]
      rfl
  | case4 first second third rest ih =>
      have bound := first.toNat_lt
      have bound' := second.toNat_lt
      have bound'' := third.toNat_lt
      rw [decodeFrom_first (by omega), decodeFrom_second (by omega), decodeFrom_third (by omega),
        decodeFrom_fourth (by omega), byte_split first _ _ (by omega),
        byte_split second _ _ (by omega), byte_split third _ _ (by omega), ih]
      rfl

/-- **Round trip.** Decoding inverts encoding. -/
theorem decode_encode (bytes : List UInt8) : decode (encode bytes) = some bytes := by
  rw [decode, encode, String.toList_ofList, decodeFrom_encodeBytes]

example : decode "aGk=" = some [104, 105] := by decide

example : decode "A" = none := by decide

end Foundation.Base64
