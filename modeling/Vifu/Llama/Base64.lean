import Vifu.Runtime.Data
import Vifu.Runtime.FloatVectors

/-!
# The base64 routines of the local model

The provider writes embeddings as base64 and reads the images of chat messages.  Both routines work on groups by
hand.  They are compared with the sextets of the bytes, and with the decoder of the runtime, which reads what is
written here.
-/

namespace Vifu.Llama

open Foundation
open Vifu.Runtime (RuntimeError saturatingAdd u64Max float32Bits isFiniteFloat32 allFinite base64Symbol_ne_padding
  decodeBase64Float32Dimensions decodeBase64Float32Dimensions_spelled)

def providerError (message : String) : RuntimeError := .provider "llama" message

/-- One group of the loop, with up to three bytes. -/
def encodeChunk (chunk : List UInt8) : List UInt8 :=
  let first := chunk.getD 0 0
  let second := chunk.getD 1 0
  let third := chunk.getD 2 0
  let buffer := first.toNat <<< 16 ||| second.toNat <<< 8 ||| third.toNat
  [base64Symbol (buffer >>> 18 &&& 0x3f), base64Symbol (buffer >>> 12 &&& 0x3f),
    if 1 < chunk.length then base64Symbol (buffer >>> 6 &&& 0x3f) else ascii '=',
    if 2 < chunk.length then base64Symbol (buffer &&& 0x3f) else ascii '=']

def encodeStandardBase64 : List UInt8 → List UInt8
  | first :: second :: third :: rest => encodeChunk [first, second, third] ++ encodeStandardBase64 rest
  | [] => []
  | chunk => encodeChunk chunk

/-- `f32::to_le_bytes` on the bits of a float. -/
def toLeBytes (bits : UInt32) : List UInt8 :=
  [bits.toUInt8, (bits >>> 8).toUInt8, (bits >>> 16).toUInt8, (bits >>> 24).toUInt8]

def encodeEmbeddingBase64 (embedding : List UInt32) : List UInt8 :=
  encodeStandardBase64 (embedding.flatMap toLeBytes)

def invalidBase64 : RuntimeError := providerError "chat image base64 data is invalid"

def base64Value (byte : UInt8) : Except RuntimeError UInt8 :=
  if ascii 'A' ≤ byte ∧ byte ≤ ascii 'Z' then .ok (byte - ascii 'A')
  else if ascii 'a' ≤ byte ∧ byte ≤ ascii 'z' then .ok (byte - ascii 'a' + 26)
  else if ascii '0' ≤ byte ∧ byte ≤ ascii '9' then .ok (byte - ascii '0' + 52)
  else if byte = ascii '+' then .ok 62
  else if byte = ascii '/' then .ok 63
  else .error invalidBase64

/-- The loop over the groups of four.  A padded group is the last one. -/
def decodeChunks : List UInt8 → Except RuntimeError (List UInt8)
  | first :: second :: third :: fourth :: rest => do
    let a ← base64Value first
    let b ← base64Value second
    if third = ascii '=' then do
      ensure (rest = [] ∧ fourth = ascii '=') invalidBase64
      return [a <<< 2 ||| b >>> 4]
    else do
      let c ← base64Value third
      if fourth = ascii '=' then do
        ensure (rest = []) invalidBase64
        return [a <<< 2 ||| b >>> 4, (b &&& 0x0f) <<< 4 ||| c >>> 2]
      else do
        let d ← base64Value fourth
        let later ← decodeChunks rest
        return (a <<< 2 ||| b >>> 4) :: ((b &&& 0x0f) <<< 4 ||| c >>> 2) :: ((c &&& 0x03) <<< 6 ||| d) :: later
  | _ => .ok []

/-- The length of a text beyond which it is refused unread.  The product wraps in 64 bits. -/
def maxEncodedBytes (maxBytes : ℕ) : ℕ := saturatingAdd (saturatingAdd maxBytes 2 / 3 * 4 % 2 ^ 64) 4

def decodeStandardBase64 (encoded : List UInt8) (maxBytes : ℕ) : Except RuntimeError (List UInt8) := do
  ensure (encoded ≠ [] ∧ encoded.length % 4 = 0) invalidBase64
  ensure (encoded.length ≤ maxEncodedBytes maxBytes) (providerError "chat image data exceeds maxMediaBytes")
  let decoded ← decodeChunks encoded
  ensure (decoded.length ≤ maxBytes) (providerError "chat image data exceeds maxMediaBytes")
  return decoded

/-! ## The texts that are written -/

theorem group_bits {x y z : ℕ} (second : y < 256) (third : z < 256) :
    x <<< 16 ||| y <<< 8 ||| z = x * 2 ^ 16 + (y * 2 ^ 8 + z) := by
  rw [Nat.or_assoc, shiftLeft_or y third, shiftLeft_or x (by omega)]

theorem and_mask (number : ℕ) : number &&& 0x3f = number % 64 := Nat.and_two_pow_sub_one_eq_mod number 6

theorem group_digits {x y z : ℕ} (first : x < 256) (second : y < 256) (third : z < 256) :
    (x * 2 ^ 16 + (y * 2 ^ 8 + z)) / 2 ^ 18 % 64 = x / 4 ∧
      (x * 2 ^ 16 + (y * 2 ^ 8 + z)) / 2 ^ 12 % 64 = x % 4 * 16 + y / 16 ∧
      (x * 2 ^ 16 + (y * 2 ^ 8 + z)) / 2 ^ 6 % 64 = y % 16 * 4 + z / 64 ∧
      (x * 2 ^ 16 + (y * 2 ^ 8 + z)) % 64 = z % 64 := by
  omega

theorem encodeChunk_triple (x y z : UInt8) :
    encodeChunk [x, y, z] = [base64Symbol (x.toNat / 4), base64Symbol (x.toNat % 4 * 16 + y.toNat / 16),
      base64Symbol (y.toNat % 16 * 4 + z.toNat / 64), base64Symbol (z.toNat % 64)] := by
  simp only [encodeChunk, List.getD_cons_zero, List.getD_cons_succ, group_bits y.toNat_lt z.toNat_lt, and_mask,
    Nat.shiftRight_eq_div_pow, group_digits x.toNat_lt y.toNat_lt z.toNat_lt]
  simp

theorem encodeChunk_pair (x y : UInt8) :
    encodeChunk [x, y] = [base64Symbol (x.toNat / 4), base64Symbol (x.toNat % 4 * 16 + y.toNat / 16),
      base64Symbol (y.toNat % 16 * 4), ascii '='] := by
  have third : (0 : UInt8).toNat < 256 := UInt8.toNat_lt 0
  have same : (0 : UInt8).toNat / 64 = 0 := rfl
  simp only [encodeChunk, List.getD_cons_zero, List.getD_cons_succ, List.getD_nil, group_bits y.toNat_lt third, and_mask,
    Nat.shiftRight_eq_div_pow, group_digits x.toNat_lt y.toNat_lt third, same]
  simp

theorem encodeChunk_single (x : UInt8) :
    encodeChunk [x] = [base64Symbol (x.toNat / 4), base64Symbol (x.toNat % 4 * 16), ascii '=', ascii '='] := by
  have other : (0 : UInt8).toNat < 256 := UInt8.toNat_lt 0
  have same : (0 : UInt8).toNat / 16 = 0 := rfl
  simp only [encodeChunk, List.getD_cons_zero, List.getD_cons_succ, List.getD_nil, group_bits other other, and_mask,
    Nat.shiftRight_eq_div_pow, group_digits x.toNat_lt other other, same]
  simp

theorem encodeStandardBase64_eq : ∀ bytes : List UInt8,
    encodeStandardBase64 bytes = spelled (sextets (bytes.map UInt8.toNat))
  | [] => rfl
  | [x] => encodeChunk_single x
  | [x, y] => encodeChunk_pair x y
  | x :: y :: z :: rest => by
    rw [encodeStandardBase64, encodeChunk_triple x y z, encodeStandardBase64_eq rest]
    simp [sextets]

theorem toNat_small (bytes : List UInt8) : ∀ byte ∈ bytes.map UInt8.toNat, byte < 256 := by
  intro byte mem
  obtain ⟨original, _, rfl⟩ := List.mem_map.mp mem
  exact original.toNat_lt

theorem ofNat_toNat (bytes : List UInt8) : (bytes.map UInt8.toNat).map UInt8.ofNat = bytes := by
  simp [Function.comp_def]

theorem toNat_ofNat {values : List ℕ} (small : ∀ value ∈ values, value < 256) :
    (values.map UInt8.ofNat).map UInt8.toNat = values := by
  rw [List.map_map]
  conv_rhs => rw [← List.map_id values]
  refine List.map_congr_left fun value mem => ?_
  have below := small value mem
  simp
  omega

/-! ## The texts that are read -/

theorem base64Value_ok {byte value : UInt8} :
    base64Value byte = .ok value ↔ ∃ digit < 64, byte = base64Symbol digit ∧ value = UInt8.ofNat digit := by
  have written : ∀ digit < 64, base64Value (base64Symbol digit) = .ok (UInt8.ofNat digit) := by decide +kernel
  have table : ∀ code < 256, (base64Value (UInt8.ofNat code)).toOption.all (fun digit =>
      decide (digit.toNat < 64 ∧ UInt8.ofNat code = base64Symbol digit.toNat)) = true := by decide +kernel
  constructor
  · intro read
    have spelling := table byte.toNat byte.toNat_lt
    rw [UInt8.ofNat_toNat, read] at spelling
    simp only [Except.toOption, Option.all_some, decide_eq_true_eq] at spelling
    exact ⟨value.toNat, spelling.1, spelling.2, by simp⟩
  · rintro ⟨digit, small, rfl, rfl⟩
    exact written digit small

theorem base64Value_symbol {digit : ℕ} (small : digit < 64) :
    base64Value (base64Symbol digit) = .ok (UInt8.ofNat digit) :=
  base64Value_ok.mpr ⟨digit, small, rfl, rfl⟩

theorem decodeChunks_spelled : ∀ {values : List ℕ}, Sextets values →
    decodeChunks (spelled values) = .ok ((octets values).map UInt8.ofNat)
  | [], _ => rfl
  | [_], valid => absurd rfl valid.whole
  | [a, b], valid => by
    have first := valid.small a (by simp)
    have second := valid.small b (by simp)
    simp [decodeChunks, base64Value_symbol, first, second, ensure, ok_bind, octets, first_octet]
  | [a, b, c], valid => by
    have first := valid.small a (by simp)
    have second := valid.small b (by simp)
    have third := valid.small c (by simp)
    simp [decodeChunks, base64Value_symbol, base64Symbol_ne_padding, first, second, third, ensure, ok_bind, octets,
      first_octet, second_octet, masked_low]
  | a :: b :: c :: d :: rest, valid => by
    obtain ⟨small, whole⟩ := valid
    simp only [List.forall_mem_cons] at small
    obtain ⟨first, second, third, fourth, later⟩ := small
    have following := decodeChunks_spelled ⟨later, by simp only [List.length_cons] at whole; omega⟩
    simp [decodeChunks, base64Value_symbol, base64Symbol_ne_padding, first, second, third, fourth, following, ok_bind,
      octets, first_octet, second_octet, third_octet, masked_low]

theorem decodeChunks_sound : ∀ {encoded bytes : List UInt8}, decodeChunks encoded = .ok bytes →
    encoded.length % 4 = 0 → ∃ values, Sextets values ∧ encoded = spelled values
  | [], _, _, _ => ⟨[], ⟨by simp, by simp⟩, rfl⟩
  | [_], _, _, whole => by simp at whole
  | [_, _], _, _, whole => by simp at whole
  | [_, _, _], _, _, whole => by simp at whole
  | first :: second :: third :: fourth :: rest, bytes, read, whole => by
    obtain ⟨_, readFirst, read⟩ := bind_ok.mp read
    obtain ⟨_, readSecond, read⟩ := bind_ok.mp read
    obtain ⟨a, smallA, rfl, rfl⟩ := base64Value_ok.mp readFirst
    obtain ⟨b, smallB, rfl, rfl⟩ := base64Value_ok.mp readSecond
    split at read
    next padded =>
      obtain ⟨empty, twice⟩ := ensure_ok.mp (check_bind_ok.mp read).1
      exact ⟨[a, b], ⟨by simp [smallA, smallB], by simp⟩, by rw [empty, padded, twice, spelled_pair]⟩
    next =>
      obtain ⟨_, readThird, read⟩ := bind_ok.mp read
      obtain ⟨c, smallC, rfl, rfl⟩ := base64Value_ok.mp readThird
      split at read
      next padded =>
        have empty := ensure_ok.mp (check_bind_ok.mp read).1
        exact ⟨[a, b, c], ⟨by simp [smallA, smallB, smallC], by simp⟩, by rw [empty, padded, spelled_triple]⟩
      next =>
        obtain ⟨_, readFourth, read⟩ := bind_ok.mp read
        obtain ⟨d, smallD, rfl, rfl⟩ := base64Value_ok.mp readFourth
        obtain ⟨_, readRest, _⟩ := bind_ok.mp read
        obtain ⟨values, valid, rfl⟩ := decodeChunks_sound readRest (by simp only [List.length_cons] at whole; omega)
        refine ⟨a :: b :: c :: d :: values, ⟨?_, ?_⟩, by rw [spelled_group]⟩
        · simp only [List.forall_mem_cons]
          exact ⟨smallA, smallB, smallC, smallD, valid.small⟩
        · have enough := valid.whole
          simp only [List.length_cons]
          omega

/-! ## Inverses -/

/-- What makes the routines inverse under a limit on the bytes. -/
structure Base64Inverse (maxBytes : ℕ) : Prop where
  reads : ∀ bytes : List UInt8, bytes ≠ [] →
    if bytes.length ≤ maxBytes then decodeStandardBase64 (encodeStandardBase64 bytes) maxBytes = .ok bytes
    else ∃ error, decodeStandardBase64 (encodeStandardBase64 bytes) maxBytes = .error error
  writes : ∀ encoded bytes : List UInt8, decodeStandardBase64 encoded maxBytes = .ok bytes →
    ∃ front last again padding, encoded = front ++ last :: padding ∧
      encodeStandardBase64 bytes = front ++ again :: padding ∧ last ≠ ascii '=' ∧ ∀ sign ∈ padding, sign = ascii '='
  counts : ∀ floats : List UInt32, floats ≠ [] → (∀ bits ∈ floats, isFiniteFloat32 bits.toNat = true) →
    decodeBase64Float32Dimensions (encodeEmbeddingBase64 floats) = .ok floats.length

/-- The largest limit whose estimate does not wrap. -/
def maxSafeLimit : ℕ := 3 * 2 ^ 62 - 3

theorem le_maxEncodedBytes {maxBytes length : ℕ} (safe : maxBytes ≤ maxSafeLimit) (fits : length ≤ maxBytes) :
    ((4 * length + 2) / 3 + 3) / 4 * 4 ≤ maxEncodedBytes maxBytes := by
  simp only [maxSafeLimit] at safe
  simp only [maxEncodedBytes, saturatingAdd, u64Max]
  omega

variable {maxBytes : ℕ} {encoded bytes : List UInt8} {floats : List UInt32}

theorem decode_encode (safe : maxBytes ≤ maxSafeLimit) {bytes : List UInt8} (filled : bytes ≠ []) :
    if bytes.length ≤ maxBytes then decodeStandardBase64 (encodeStandardBase64 bytes) maxBytes = .ok bytes
    else ∃ error, decodeStandardBase64 (encodeStandardBase64 bytes) maxBytes = .error error := by
  have read : decodeChunks (encodeStandardBase64 bytes) = .ok bytes := by
    rw [encodeStandardBase64_eq, decodeChunks_spelled (sextets_valid (toNat_small bytes)),
      octets_sextets (toNat_small bytes), ofNat_toNat]
  have length : (encodeStandardBase64 bytes).length = ((4 * bytes.length + 2) / 3 + 3) / 4 * 4 := by
    rw [encodeStandardBase64_eq, length_spelled, length_sextets, List.length_map]
  have nonempty : encodeStandardBase64 bytes ≠ [] := by
    rw [encodeStandardBase64_eq]
    exact spelled_ne_nil (sextets_ne_nil (by simpa using filled))
  split
  next fits =>
    have estimate := le_maxEncodedBytes safe fits
    rw [← length] at estimate
    have whole : (encodeStandardBase64 bytes).length % 4 = 0 := by omega
    simp [decodeStandardBase64, read, ensure, nonempty, whole, estimate, fits, ok_bind]
  next long =>
    cases decoded : decodeStandardBase64 (encodeStandardBase64 bytes) maxBytes with
    | error error => exact ⟨error, rfl⟩
    | ok result =>
      rw [decodeStandardBase64, read] at decoded
      obtain ⟨_, decoded⟩ := check_bind_ok.mp decoded
      obtain ⟨_, decoded⟩ := check_bind_ok.mp decoded
      exact absurd (ensure_ok.mp (check_bind_ok.mp decoded).1) long

theorem decodeStandardBase64_ok (read : decodeStandardBase64 encoded maxBytes = .ok bytes) :
    encoded ≠ [] ∧ encoded.length % 4 = 0 ∧ encoded.length ≤ maxEncodedBytes maxBytes ∧
      decodeChunks encoded = .ok bytes := by
  obtain ⟨checked, read⟩ := check_bind_ok.mp read
  obtain ⟨nonempty, whole⟩ := ensure_ok.mp checked
  obtain ⟨short, read⟩ := check_bind_ok.mp read
  obtain ⟨decoded, isDecoded, read⟩ := bind_ok.mp read
  obtain ⟨_, same⟩ := check_bind_ok.mp read
  exact ⟨nonempty, whole, ensure_ok.mp short, same ▸ isDecoded⟩

theorem spelled_concat (front : List ℕ) (last : ℕ) : spelled (front ++ [last]) = front.map base64Symbol ++
      base64Symbol last :: List.replicate ((4 - (front.length + 1) % 4) % 4) (ascii '=') := by
  simp [spelled]

theorem encode_decode (read : decodeStandardBase64 encoded maxBytes = .ok bytes) :
    ∃ front last again padding, encoded = front ++ last :: padding ∧
      encodeStandardBase64 bytes = front ++ again :: padding ∧ last ≠ ascii '=' ∧ ∀ sign ∈ padding, sign = ascii '=' := by
  obtain ⟨nonempty, whole, _, decoded⟩ := decodeStandardBase64_ok read
  obtain ⟨values, valid, rfl⟩ := decodeChunks_sound decoded whole
  have filled : values ≠ [] := fun empty => nonempty (by rw [empty, spelled_nil])
  rw [decodeChunks_spelled valid, Except.ok.injEq] at decoded
  obtain ⟨again, written⟩ := sextets_octets valid filled
  have rewritten : encodeStandardBase64 bytes = spelled (values.dropLast ++ [again]) := by
    rw [← decoded, encodeStandardBase64_eq, toNat_ofNat (octets_lt valid.small), written]
  have spelling := congrArg spelled (List.dropLast_append_getLast filled)
  rw [spelled_concat] at spelling rewritten
  refine ⟨_, _, _, _, spelling.symm, rewritten, ?_, fun sign mem => List.eq_of_mem_replicate mem⟩
  exact base64Symbol_ne_padding _ (valid.small _ (List.getLast_mem filled))

theorem float32Bits_toLeBytes (bits : UInt32) :
    float32Bits bits.toUInt8 (bits >>> 8).toUInt8 (bits >>> 16).toUInt8 (bits >>> 24).toUInt8 = bits.toNat := by
  have small := bits.toNat_lt
  simp [float32Bits, UInt32.toNat_shiftRight, Nat.shiftRight_eq_div_pow]
  omega

theorem allFinite_toLeBytes (finite : ∀ bits ∈ floats, isFiniteFloat32 bits.toNat = true) :
    allFinite (floats.flatMap toLeBytes) = true := by
  induction floats with
  | nil => rfl
  | cons bits floats ih =>
    rw [List.forall_mem_cons] at finite
    simp [toLeBytes, allFinite, float32Bits_toLeBytes, finite.1, ← ih finite.2]

theorem length_toLeBytes (floats : List UInt32) : (floats.flatMap toLeBytes).length = 4 * floats.length := by
  induction floats with
  | nil => rfl
  | cons bits floats ih =>
    simp [toLeBytes] at ih ⊢
    omega

theorem counts_embedding (filled : floats ≠ []) (finite : ∀ bits ∈ floats, isFiniteFloat32 bits.toNat = true) :
    decodeBase64Float32Dimensions (encodeEmbeddingBase64 floats) = .ok floats.length := by
  have length : ((floats.flatMap toLeBytes).map UInt8.toNat).length = 4 * floats.length := by
    rw [List.length_map, length_toLeBytes]
  have positive := List.length_pos_iff.mpr filled
  rw [encodeEmbeddingBase64, encodeStandardBase64_eq, decodeBase64Float32Dimensions_spelled (toNat_small _)
    (List.ne_nil_of_length_pos (by omega)) (by omega) (by rw [ofNat_toNat]; exact allFinite_toLeBytes finite), length,
    Nat.mul_div_cancel_left _ (by decide)]

theorem refused_of_wraps (wraps : maxSafeLimit < maxBytes) (fits : maxBytes < 2 ^ 64) :
    ∃ bytes : List UInt8, bytes ≠ [] ∧ bytes.length ≤ maxBytes ∧
      decodeStandardBase64 (encodeStandardBase64 bytes) maxBytes ≠ .ok bytes := by
  simp only [maxSafeLimit] at wraps
  -- three bytes more than the estimate allows for after it has wrapped
  obtain ⟨count, isCount⟩ : ∃ count, count = 3 * (min (maxBytes + 2) u64Max / 3 - 2 ^ 62 + 2) := ⟨_, rfl⟩
  have some : count ≠ 0 := by omega
  have few : count ≤ maxBytes := by
    omega
  refine ⟨List.replicate count 0, by simpa using some, by simpa using few, fun read => ?_⟩
  have short := (decodeStandardBase64_ok read).2.2.1
  simp only [encodeStandardBase64_eq, length_spelled, length_sextets, List.length_map, List.length_replicate,
    maxEncodedBytes, saturatingAdd, u64Max] at short isCount
  omega

end Vifu.Llama
