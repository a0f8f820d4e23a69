import Vifu.Foundation.Fallible
import Vifu.Foundation.Sextets

/-!
# Vectors of floats in base64

A provider may return an embedding as the base64 text of its floats.  The runtime counts the floats of such a text
before it passes the response on.  Its decoder and the one of the benchmark have one loop, which differs in the
symbols that are read and in whether the unused bits of the last symbol have to be zero.
-/

namespace Vifu.Runtime

open Foundation

/-- The bits of `f32::from_le_bytes`. -/
def float32Bits (first second third fourth : UInt8) : ℕ :=
  first.toNat + second.toNat * 2 ^ 8 + third.toNat * 2 ^ 16 + fourth.toNat * 2 ^ 24

/-- `f32::is_finite`: the exponent is not the largest one. -/
def isFiniteFloat32 (bits : ℕ) : Bool := decide (bits / 2 ^ 23 % 256 ≠ 255)

/-- Whether all whole groups of four bytes are finite floats. -/
def allFinite : List UInt8 → Bool
  | first :: second :: third :: fourth :: rest =>
    isFiniteFloat32 (float32Bits first second third fourth) && allFinite rest
  | _ => true

/-- The loop of `decode_base64_float32_dimensions`.  The text has whole groups, so that the last one has no rest. -/
def decodeFloatChunks (base64Value : UInt8 → Except String UInt8) (canonical : Bool) :
    List UInt8 → Except String (List UInt8)
  | first :: second :: third :: fourth :: rest => do
    let padding := ([fourth, third, second, first].takeWhile (· == ascii '=')).length
    ensure (padding ≤ 2 ∧ (rest = [] ∨ padding = 0) ∧ ascii '=' ∉ [first, second, third, fourth].take (4 - padding))
      "has invalid base64 padding"
    let a ← base64Value first
    let b ← base64Value second
    let c ← (if 2 ≤ padding then .ok 0 else base64Value third)
    let d ← (if 1 ≤ padding then .ok 0 else base64Value fourth)
    ensure (canonical = true → ¬(padding = 2 ∧ b &&& 0x0f ≠ 0 ∨ padding = 1 ∧ c &&& 0x03 ≠ 0))
      "has non-canonical base64 padding"
    let later ← decodeFloatChunks base64Value canonical rest
    return (a <<< 2 ||| b >>> 4) :: (if padding < 2 then [b <<< 4 ||| c >>> 2] else []) ++
      (if padding = 0 then [c <<< 6 ||| d] else []) ++ later
  | _ => .ok []

/-- What both decoders do with a text of whole groups. -/
def decodeFloats (base64Value : UInt8 → Except String UInt8) (canonical : Bool) (bytes : List UInt8) :
    Except String ℕ := do
  let decoded ← decodeFloatChunks base64Value canonical bytes
  ensure (decoded ≠ [] ∧ decoded.length % 4 = 0) "does not contain whole float32 values"
  ensure (allFinite decoded = true) "contains a non-finite float32 value"
  return decoded.length / 4

/-- `base64_value`, which also reads the two symbols of the URL-safe alphabet. -/
def base64Value (byte : UInt8) : Except String UInt8 :=
  if ascii 'A' ≤ byte ∧ byte ≤ ascii 'Z' then .ok (byte - ascii 'A')
  else if ascii 'a' ≤ byte ∧ byte ≤ ascii 'z' then .ok (byte - ascii 'a' + 26)
  else if ascii '0' ≤ byte ∧ byte ≤ ascii '9' then .ok (byte - ascii '0' + 52)
  else if byte = ascii '+' ∨ byte = ascii '-' then .ok 62
  else if byte = ascii '/' ∨ byte = ascii '_' then .ok 63
  else .error "has invalid base64 characters"

def missingPadding (length : ℕ) : List UInt8 :=
  match length % 4 with
  | 2 => [ascii '=', ascii '=']
  | 3 => [ascii '=']
  | _ => []

def decodeBase64Float32Dimensions (encoded : List UInt8) : Except String ℕ := do
  ensure (encoded ≠ [] ∧ encoded.length % 4 ≠ 1) "has invalid base64 float32 data"
  decodeFloats base64Value true (encoded ++ missingPadding encoded.length)

/-! ## Texts that the runtime reads -/

section

variable {value : UInt8 → Except String UInt8} (reads : ∀ digit < 64, value (base64Symbol digit) = .ok (UInt8.ofNat digit))
variable (noPadding : ∀ digit < 64, base64Symbol digit ≠ ascii '=')

include reads noPadding

section

variable {canonical : Bool} {a b : ℕ} (first : a < 64) (second : b < 64)
include first second

theorem decodeFloatChunks_group {c d : ℕ} (third : c < 64)
    (fourth : d < 64) {rest later : List UInt8} (following : decodeFloatChunks value canonical rest = .ok later) :
    decodeFloatChunks value canonical (base64Symbol a :: base64Symbol b :: base64Symbol c :: base64Symbol d :: rest) =
      .ok (UInt8.ofNat (a * 4 + b / 16) :: UInt8.ofNat (b % 16 * 16 + c / 4) :: UInt8.ofNat (c % 4 * 64 + d) ::
        later) := by
  simp [decodeFloatChunks, reads, first, second, third, fourth, following, ensure, noPadding, Ne.symm, ok_bind,
    first_octet, second_octet, third_octet]

theorem decodeFloatChunks_pair (low : b % 16 = 0) :
    decodeFloatChunks value canonical [base64Symbol a, base64Symbol b, ascii '=', ascii '='] =
      .ok [UInt8.ofNat (a * 4 + b / 16)] := by
  simp [decodeFloatChunks, reads, first, second, ensure, noPadding, Ne.symm, ok_bind, first_octet, masked_low,
    low]

theorem decodeFloatChunks_triple {c : ℕ} (third : c < 64) (low : c % 4 = 0) :
    decodeFloatChunks value canonical [base64Symbol a, base64Symbol b, base64Symbol c, ascii '='] =
      .ok [UInt8.ofNat (a * 4 + b / 16), UInt8.ofNat (b % 16 * 16 + c / 4)] := by
  simp [decodeFloatChunks, reads, first, second, third, ensure, noPadding, Ne.symm, ok_bind, first_octet,
    second_octet, masked_low, low]

end

theorem decodeFloatChunks_spelled (canonical : Bool) : ∀ {bytes : List ℕ}, (∀ byte ∈ bytes, byte < 256) →
    decodeFloatChunks value canonical (spelled (sextets bytes)) = .ok (bytes.map UInt8.ofNat)
  | [], _ => rfl
  | [x], small => by
    simp only [List.forall_mem_cons] at small
    rw [sextets, spelled_pair, decodeFloatChunks_pair reads noPadding (by omega) (by omega) (by omega)]
    simp only [List.map_cons, List.map_nil, Except.ok.injEq, List.cons.injEq, and_true]
    congr 1
    omega
  | [x, y], small => by
    simp only [List.forall_mem_cons] at small
    rw [sextets, spelled_triple, decodeFloatChunks_triple reads noPadding (by omega) (by omega) (by omega) (by omega)]
    have bytes : x / 4 * 4 + (x % 4 * 16 + y / 16) / 16 = x ∧ (x % 4 * 16 + y / 16) % 16 * 16 + y % 16 * 4 / 4 = y := by
      omega
    rw [bytes.1, bytes.2]
    rfl
  | x :: y :: z :: rest, small => by
    simp only [List.forall_mem_cons] at small
    obtain ⟨first, second, third, later⟩ := small
    rw [sextets, spelled_group, decodeFloatChunks_group reads noPadding (by omega) (by omega) (by omega) (by omega)
      (decodeFloatChunks_spelled canonical later)]
    have bytes : x / 4 * 4 + (x % 4 * 16 + y / 16) / 16 = x ∧
        (x % 4 * 16 + y / 16) % 16 * 16 + (y % 16 * 4 + z / 64) / 4 = y ∧ (y % 16 * 4 + z / 64) % 4 * 64 + z % 64 = z := by
      omega
    rw [bytes.1, bytes.2.1, bytes.2.2]
    rfl

theorem decodeFloats_spelled (canonical : Bool) {bytes : List ℕ} (small : ∀ byte ∈ bytes, byte < 256)
    (filled : bytes ≠ []) (whole : bytes.length % 4 = 0) (finite : allFinite (bytes.map UInt8.ofNat) = true) :
    decodeFloats value canonical (spelled (sextets bytes)) = .ok (bytes.length / 4) := by
  simp [decodeFloats, decodeFloatChunks_spelled reads noPadding canonical small, ensure, filled, whole, finite, ok_bind]

end

theorem base64Value_symbol : ∀ digit < 64, base64Value (base64Symbol digit) = .ok (UInt8.ofNat digit) := by decide +kernel

theorem base64Symbol_ne_padding (digit : ℕ) (small : digit < 64) : base64Symbol digit ≠ ascii '=' := by
  intro same
  have read := base64Value_symbol digit small
  rw [same] at read
  exact absurd read (by simp [base64Value, ascii])

theorem decodeBase64Float32Dimensions_spelled {bytes : List ℕ} (small : ∀ byte ∈ bytes, byte < 256)
    (filled : bytes ≠ []) (whole : bytes.length % 4 = 0) (finite : allFinite (bytes.map UInt8.ofNat) = true) :
    decodeBase64Float32Dimensions (spelled (sextets bytes)) = .ok (bytes.length / 4) := by
  have size := length_spelled (sextets bytes)
  have groups : (spelled (sextets bytes)).length % 4 = 0 := by omega
  have padded : missingPadding (spelled (sextets bytes)).length = [] := by simp [missingPadding, groups]
  have nonempty := spelled_ne_nil (sextets_ne_nil filled)
  rw [decodeBase64Float32Dimensions, padded, List.append_nil,
    decodeFloats_spelled base64Value_symbol base64Symbol_ne_padding true small filled whole finite]
  simp [ensure, nonempty, groups, ok_bind]

end Vifu.Runtime
