import Mathlib.Algebra.GroupWithZero.Nat
import Mathlib.Data.List.Basic

/-!
# Bytes as sextets

Three bytes are four sextets, and one or two bytes behind them two or three sextets whose unused bits are zero.
Reading sextets as bytes drops these bits, so that it undoes the writing, and writing undoes the reading up to the
last sextet.  A text of base64 spells each sextet as a symbol and pads the last group of four.
-/

namespace Foundation

def sextets : List ℕ → List ℕ
  | x :: y :: z :: rest => x / 4 :: (x % 4 * 16 + y / 16) :: (y % 16 * 4 + z / 64) :: z % 64 :: sextets rest
  | [x, y] => [x / 4, x % 4 * 16 + y / 16, y % 16 * 4]
  | [x] => [x / 4, x % 4 * 16]
  | [] => []

def octets : List ℕ → List ℕ
  | a :: b :: c :: d :: rest => (a * 4 + b / 16) :: (b % 16 * 16 + c / 4) :: (c % 4 * 64 + d) :: octets rest
  | [a, b, c] => [a * 4 + b / 16, b % 16 * 16 + c / 4]
  | [a, b] => [a * 4 + b / 16]
  | _ => []

/-- Sextets that stand for bytes: a single sextet is too short for one. -/
structure Sextets (values : List ℕ) : Prop where
  small : ∀ value ∈ values, value < 64
  whole : values.length % 4 ≠ 1

theorem length_sextets : ∀ bytes : List ℕ, (sextets bytes).length = (4 * bytes.length + 2) / 3
  | [] => rfl
  | [_] => by simp [sextets]
  | [_, _] => by simp [sextets]
  | x :: y :: z :: rest => by
    have later := length_sextets rest
    simp only [sextets, List.length_cons, later]
    omega

theorem sextets_ne_nil {bytes : List ℕ} (some : bytes ≠ []) : sextets bytes ≠ [] := by
  have positive := List.length_pos_iff.mpr some
  have size := length_sextets bytes
  intro empty
  rw [empty, List.length_nil] at size
  omega

theorem sextets_valid : ∀ {bytes : List ℕ}, (∀ byte ∈ bytes, byte < 256) → Sextets (sextets bytes)
  | [], _ => ⟨by simp [sextets], by simp [sextets]⟩
  | [x], small => by
    simp only [List.forall_mem_cons, List.not_mem_nil, false_implies, implies_true, and_true] at small
    exact ⟨by simp [sextets]; omega, by simp [sextets]⟩
  | [x, y], small => by
    simp only [List.forall_mem_cons, List.not_mem_nil, false_implies, implies_true, and_true] at small
    exact ⟨by simp [sextets]; omega, by simp [sextets]⟩
  | x :: y :: z :: rest, small => by
    simp only [List.forall_mem_cons] at small
    obtain ⟨first, second, third, later⟩ := small
    have following := sextets_valid later
    refine ⟨?_, ?_⟩
    · simp only [sextets, List.forall_mem_cons]
      exact ⟨by omega, by omega, by omega, by omega, following.small⟩
    · have whole := following.whole
      simp only [sextets, List.length_cons]
      omega

theorem octets_sextets : ∀ {bytes : List ℕ}, (∀ byte ∈ bytes, byte < 256) → octets (sextets bytes) = bytes
  | [], _ => rfl
  | [x], small => by
    simp [sextets, octets] at small ⊢
    omega
  | [x, y], small => by
    simp [sextets, octets] at small ⊢
    omega
  | x :: y :: z :: rest, small => by
    simp only [List.forall_mem_cons] at small
    obtain ⟨first, second, third, later⟩ := small
    rw [sextets, octets, octets_sextets later]
    simp only [List.cons.injEq, and_true]
    omega

theorem sextets_octets : ∀ {values : List ℕ}, Sextets values → values ≠ [] →
    ∃ last, sextets (octets values) = values.dropLast ++ [last]
  | [], _, filled => absurd rfl filled
  | [_], valid, _ => absurd rfl valid.whole
  | [a, b], valid, _ => by
    have second := valid.small b (by simp)
    refine ⟨(a * 4 + b / 16) % 4 * 16, ?_⟩
    simp [octets, sextets]
    omega
  | [a, b, c], valid, _ => by
    have second := valid.small b (by simp)
    have third := valid.small c (by simp)
    refine ⟨(b % 16 * 16 + c / 4) % 16 * 4, ?_⟩
    simp [octets, sextets]
    omega
  | a :: b :: c :: d :: rest, valid, _ => by
    obtain ⟨small, whole⟩ := valid
    simp only [List.forall_mem_cons] at small
    obtain ⟨first, second, third, fourth, later⟩ := small
    have group : sextets (octets (a :: b :: c :: d :: rest)) = a :: b :: c :: d :: sextets (octets rest) := by
      simp only [octets, sextets, List.cons.injEq, and_true]
      omega
    rw [group]
    by_cases last : rest = []
    · exact ⟨d, by simp [last, octets, sextets]⟩
    · obtain ⟨final, same⟩ := sextets_octets ⟨later, by simp only [List.length_cons] at whole; omega⟩ last
      exact ⟨final, by simp [same, List.dropLast_cons_of_ne_nil, last]⟩

theorem octets_lt : ∀ {values : List ℕ}, (∀ value ∈ values, value < 64) → ∀ byte ∈ octets values, byte < 256
  | [], _ => by simp [octets]
  | [_], _ => by simp [octets]
  | [a, b], small => by
    simp [octets] at small ⊢
    omega
  | [a, b, c], small => by
    simp [octets] at small ⊢
    omega
  | a :: b :: c :: d :: rest, small => by
    simp only [List.forall_mem_cons] at small
    obtain ⟨first, second, third, fourth, later⟩ := small
    simp only [octets, List.forall_mem_cons]
    exact ⟨by omega, by omega, by omega, octets_lt later⟩

def ascii (character : Char) : UInt8 := character.toNat.toUInt8

/-- The 64 symbols of base64 in the order of their values. -/
def base64Alphabet : List UInt8 :=
  "ABCDEFGHIJKLMNOPQRSTUVWXYZabcdefghijklmnopqrstuvwxyz0123456789+/".toList.map ascii

def base64Symbol (value : ℕ) : UInt8 := base64Alphabet.getD value 0

/-- The text for some sextets, padded to whole groups. -/
def spelled (values : List ℕ) : List UInt8 :=
  values.map base64Symbol ++ List.replicate ((4 - values.length % 4) % 4) (ascii '=')

@[simp] theorem spelled_nil : spelled [] = [] := rfl

@[simp] theorem spelled_pair (a b : ℕ) : spelled [a, b] = [base64Symbol a, base64Symbol b, ascii '=', ascii '='] := rfl

@[simp] theorem spelled_triple (a b c : ℕ) :
    spelled [a, b, c] = [base64Symbol a, base64Symbol b, base64Symbol c, ascii '='] := rfl

@[simp] theorem spelled_group (a b c d : ℕ) (rest : List ℕ) : spelled (a :: b :: c :: d :: rest) =
      base64Symbol a :: base64Symbol b :: base64Symbol c :: base64Symbol d :: spelled rest := by
  have same : (rest.length + 1 + 1 + 1 + 1) % 4 = rest.length % 4 := by omega
  simp [spelled, same]

theorem length_spelled (values : List ℕ) : (spelled values).length = (values.length + 3) / 4 * 4 := by
  rw [spelled, List.length_append, List.length_map, List.length_replicate]
  omega

theorem spelled_ne_nil {values : List ℕ} (filled : values ≠ []) : spelled values ≠ [] := by
  simp [spelled, filled]

theorem shiftLeft_or (high : ℕ) {low width : ℕ} (small : low < 2 ^ width) :
    high <<< width ||| low = high * 2 ^ width + low := by
  rw [Nat.shiftLeft_eq, Nat.mul_comm, Nat.two_pow_add_eq_or_of_lt small]

section

variable {a b c d : ℕ}

theorem first_octet (first : a < 64) (second : b < 64) :
    UInt8.ofNat a <<< 2 ||| UInt8.ofNat b >>> 4 = UInt8.ofNat (a * 4 + b / 16) := by
  have whole : a % 2 ^ 8 * 2 ^ 2 % 2 ^ 8 = a * 2 ^ 2 := by omega
  have part : b % 2 ^ 8 / 2 ^ 4 = b / 16 := by omega
  apply UInt8.toNat_inj.mp
  rw [UInt8.toNat_or, UInt8.toNat_shiftLeft, UInt8.toNat_shiftRight]
  simp only [UInt8.toNat_ofNat', UInt8.reduceToNat, Nat.reduceMod, Nat.shiftRight_eq_div_pow, Nat.shiftLeft_eq, whole,
    part]
  rw [← Nat.shiftLeft_eq, shiftLeft_or a (by omega)]
  omega

theorem second_octet (third : c < 64) :
    UInt8.ofNat b <<< 4 ||| UInt8.ofNat c >>> 2 = UInt8.ofNat (b % 16 * 16 + c / 4) := by
  have whole : b % 2 ^ 8 * 2 ^ 4 % 2 ^ 8 = b % 16 * 2 ^ 4 := by omega
  have part : c % 2 ^ 8 / 2 ^ 2 = c / 4 := by omega
  apply UInt8.toNat_inj.mp
  rw [UInt8.toNat_or, UInt8.toNat_shiftLeft, UInt8.toNat_shiftRight]
  simp only [UInt8.toNat_ofNat', UInt8.reduceToNat, Nat.reduceMod, Nat.shiftRight_eq_div_pow, Nat.shiftLeft_eq, whole,
    part]
  rw [← Nat.shiftLeft_eq, shiftLeft_or (b % 16) (by omega)]
  omega

theorem third_octet (fourth : d < 64) :
    UInt8.ofNat c <<< 6 ||| UInt8.ofNat d = UInt8.ofNat (c % 4 * 64 + d) := by
  have whole : c % 2 ^ 8 * 2 ^ 6 % 2 ^ 8 = c % 4 * 2 ^ 6 := by omega
  have part : d % 2 ^ 8 = d := by omega
  apply UInt8.toNat_inj.mp
  rw [UInt8.toNat_or, UInt8.toNat_shiftLeft]
  simp only [UInt8.toNat_ofNat', UInt8.reduceToNat, Nat.reduceMod, Nat.shiftLeft_eq, whole, part]
  rw [← Nat.shiftLeft_eq, shiftLeft_or (c % 4) (by omega)]
  omega

theorem masked_low : (UInt8.ofNat b &&& 0x0f) = UInt8.ofNat (b % 16) ∧ (UInt8.ofNat b &&& 0x03) = UInt8.ofNat (b % 4) := by
  constructor
  · apply UInt8.toNat_inj.mp
    refine (Nat.and_two_pow_sub_one_eq_mod _ 4).trans ?_
    simp
    omega
  · apply UInt8.toNat_inj.mp
    refine (Nat.and_two_pow_sub_one_eq_mod _ 2).trans ?_
    simp
    omega

end

end Foundation
