import Mathlib.Data.String.Basic

/-!
# Sizes of texts

The size of a text in UTF-8 is the sum of the sizes of its characters, each between one and four
bytes.  The lemmas compare it with the number of characters.
-/

namespace Foundation

theorem utf8ByteSize_eq (text : String) : text.utf8ByteSize = String.utf8Len text.toList := by
  rw [← String.utf8ByteSize_ofList, String.ofList_toList]

theorem utf8Len_eq_length {characters : List Char} (small : ∀ character ∈ characters, character.utf8Size = 1) :
    String.utf8Len characters = characters.length := by
  induction characters with
  | nil => rfl
  | cons character characters ih =>
    rw [List.forall_mem_cons] at small
    rw [String.utf8Len_cons, small.1, ih small.2, List.length_cons]

theorem length_le_utf8ByteSize (text : String) : text.length ≤ text.utf8ByteSize := by
  rw [utf8ByteSize_eq, ← String.length_toList]
  induction text.toList with
  | nil => simp
  | cons character characters ih =>
    have positive := character.utf8Size_pos
    rw [String.utf8Len_cons, List.length_cons]
    omega

theorem utf8ByteSize_le_length (text : String) : text.utf8ByteSize ≤ 4 * text.length := by
  rw [utf8ByteSize_eq, ← String.length_toList]
  induction text.toList with
  | nil => simp
  | cons character characters ih =>
    have small := character.utf8Size_le_four
    rw [String.utf8Len_cons, List.length_cons]
    omega

/-! ## Decimal digits -/

variable {character : Char}

theorem digit_code (digit : character.isDigit = true) : 48 ≤ character.toNat ∧ character.toNat ≤ 57 := by
  simpa [Char.isDigit, UInt32.le_iff_toNat_le] using digit

theorem utf8Size_of_isDigit (digit : character.isDigit = true) : character.utf8Size = 1 := by
  have code := digit_code digit
  rw [Char.utf8Size_eq_one_iff]
  show character.toNat ≤ 127
  omega

theorem isDigit_of_mem_toString {number : ℕ} (mem : character ∈ (toString number).toList) :
    character.isDigit = true := by
  rw [Nat.toString_eq_repr, Nat.toList_repr] at mem
  exact Nat.isDigit_of_mem_toDigits (by decide) (by decide) mem

theorem utf8ByteSize_toString (number : ℕ) : (toString number).utf8ByteSize = (toString number).length := by
  rw [utf8ByteSize_eq, utf8Len_eq_length fun _ mem => utf8Size_of_isDigit (isDigit_of_mem_toString mem),
    String.length_toList]

theorem length_toString_le {number digits : ℕ} (some : 0 < digits) (small : number < 10 ^ digits) :
    (toString number).length ≤ digits := by
  rw [Nat.toString_eq_repr, Nat.length_repr_le_iff some]
  exact small

end Foundation
