import Mathlib.Data.List.Basic
import Mathlib.Data.List.TakeWhile

/-! # Decimal numbers as text

Reading and printing natural numbers with Python's conventions: any Unicode decimal
digit is read by its value, and a conversion of more than `maxStrDigits` digits
raises. Printed numbers are read back (`Foundation.parseInt_of_printNat`).
-/

namespace Foundation

/-- The zeros of the Unicode decimal digits; the nine characters after a zero are the
other digits of its script. -/
def digitZeros : List Nat :=
  [0x30, 0x660, 0x6f0, 0x7c0, 0x966, 0x9e6, 0xa66, 0xae6, 0xb66, 0xbe6, 0xc66, 0xce6, 0xd66,
    0xde6, 0xe50, 0xed0, 0xf20, 0x1040, 0x1090, 0x17e0, 0x1810, 0x1946, 0x19d0, 0x1a80, 0x1a90,
    0x1b50, 0x1bb0, 0x1c40, 0x1c50, 0xa620, 0xa8d0, 0xa900, 0xa9d0, 0xa9f0, 0xaa50, 0xabf0,
    0xff10, 0x104a0, 0x10d30, 0x11066, 0x110f0, 0x11136, 0x111d0, 0x112f0, 0x11450, 0x114d0,
    0x11650, 0x116c0, 0x11730, 0x118e0, 0x11950, 0x11c50, 0x11d50, 0x11da0, 0x16a60, 0x16ac0,
    0x16b50, 0x1d7ce, 0x1d7d8, 0x1d7e2, 0x1d7ec, 0x1d7f6, 0x1e140, 0x1e2f0, 0x1e950, 0x1fbf0]

/-- The zero of the script a decimal digit belongs to. -/
def digitZero? (char : Char) : Option Nat :=
  digitZeros.find? fun first => first ≤ char.toNat && char.toNat ≤ first + 9

/-- `\d` of a regular expression. -/
def isDecimal (char : Char) : Bool := (digitZero? char).isSome

/-- The value of a decimal digit of any script. -/
def decimalValue (char : Char) : Nat := char.toNat - (digitZero? char).getD 0

/-- The longest text that `int` and `str` convert. -/
def maxStrDigits : Nat := 4300

/-- `int` on a text of decimal digits. -/
def parseInt (digits : List Char) : Option Nat :=
  if maxStrDigits < digits.length then none
  else some (digits.foldl (fun value digit => 10 * value + decimalValue digit) 0)

/-- `str` on a natural number. -/
def printNat (number : Nat) : Option (List Char) :=
  let digits := Nat.toDigits 10 number
  if maxStrDigits < digits.length then none else some digits

/-- The zero of an ASCII digit is the ASCII zero. -/
theorem digitZero?_of_isDigit {char : Char} (digit : char.isDigit = true) :
    digitZero? char = some 0x30 := by
  have range : 48 ≤ char.toNat ∧ char.toNat ≤ 57 := by
    simp only [Char.isDigit, Bool.and_eq_true, decide_eq_true_eq, UInt32.le_iff_toNat_le] at digit
    exact digit
  refine List.find?_cons_of_pos ?_
  simp only [Bool.and_eq_true, decide_eq_true_eq]
  omega

/-- An ASCII digit is a decimal digit. -/
theorem isDecimal_of_isDigit {char : Char} (digit : char.isDigit = true) :
    isDecimal char = true := by
  simp [isDecimal, digitZero?_of_isDigit digit]

/-- An ASCII digit has its usual value. -/
theorem decimalValue_of_isDigit {char : Char} (digit : char.isDigit = true) :
    decimalValue char = char.toNat - '0'.toNat := by
  rw [decimalValue, digitZero?_of_isDigit digit]
  rfl

variable {number : Nat} {digits : List Char}

/-- What is printed are the decimal digits of the number, not too many. -/
theorem printNat_spec (printed : printNat number = some digits) :
    digits = Nat.toDigits 10 number ∧ digits.length ≤ maxStrDigits := by
  unfold printNat at printed
  dsimp only at printed
  split at printed
  · cases printed
  · next short =>
      cases printed
      exact ⟨rfl, Nat.le_of_not_lt short⟩

/-- A printed number consists of decimal digits. -/
theorem isDecimal_of_printNat (printed : printNat number = some digits) :
    ∀ digit ∈ digits, isDecimal digit = true := by
  intro digit member
  rw [(printNat_spec printed).1] at member
  exact isDecimal_of_isDigit (Nat.isDigit_of_mem_toDigits (by decide) (by decide) member)

/-- A printed number has a digit. -/
theorem printNat_ne_nil (printed : printNat number = some digits) : digits ≠ [] := by
  rw [(printNat_spec printed).1]
  exact Nat.toDigits_ne_nil

/-- A printed number is read back. -/
theorem parseInt_of_printNat (printed : printNat number = some digits) :
    parseInt digits = some number := by
  obtain ⟨rfl, short⟩ := printNat_spec printed
  have value : (Nat.toDigits 10 number).foldl
      (fun value digit => 10 * value + decimalValue digit) 0 = number := by
    calc
      _ = (Nat.toDigits 10 number).foldl
          (fun value digit => 10 * value + (digit.toNat - '0'.toNat)) 0 := by
        refine List.foldl_ext _ _ _ fun value digit member => ?_
        rw [decimalValue_of_isDigit
          (Nat.isDigit_of_mem_toDigits (by decide) (by decide) member)]
      _ = Nat.ofDigitChars 10 (Nat.toDigits 10 number) 0 := Nat.ofDigitChars_eq_foldl.symm
      _ = number := Nat.ofDigitChars_ten_toDigits
  rw [parseInt, if_neg (Nat.not_lt.mpr short), value]

example : parseInt ['1', '\u0662', '3'] = some 123 := by decide

end Foundation
