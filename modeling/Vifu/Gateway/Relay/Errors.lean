import Mathlib.Data.List.Infix
import Vifu.Foundation.Text
import Vifu.Gateway.Checks

/-!
# Error texts that leave the gateway

`sanitize_error` and `safe_observer_error` bound an error text by its characters.  The receivers
bound it by its bytes, which makes no difference for replies and one for telemetry.
-/

namespace Vifu.Gateway

open Foundation
open Vifu.Runtime hiding validateIdentifier

/-- A control character other than a line break is shown as a blank. -/
def visibleCharacter (character : Char) : Char :=
  if isControl character && character != '\n' then ' ' else character

def shownError (value : String) : String := .ofList ((value.toList.take 512).map visibleCharacter)

def sanitizeError (value : String) : String :=
  if trim (shownError value) = "" then "unknown error" else shownError value

def safeErrorMarkers : List String :=
  ["authorization", "bearer ", "basic ", "api key", "api_key", "apikey", "access token", "access_token", "secret",
    "token=", "token:", "password", "credential", "cookie", "session=", "session:"]

def sensitiveError (value : String) : Bool :=
  safeErrorMarkers.any fun marker => marker.toList <:+: (toAsciiLowercase value).toList

def safeObserverError (value : String) : String :=
  if sensitiveError value then "Provider failed; sensitive details were redacted" else sanitizeError value

/-! ## Bounds -/

theorem visibleCharacter_ne_nul (character : Char) : visibleCharacter character ≠ '\x00' := by
  rw [visibleCharacter]
  split
  · decide
  · next visible =>
    intro isNul
    rw [isNul] at visible
    revert visible
    decide

theorem shownError_no_nul (value : String) : '\x00' ∉ (shownError value).toList := by
  rw [shownError, String.toList_ofList, List.mem_map]
  rintro ⟨character, -, isNul⟩
  exact visibleCharacter_ne_nul character isNul

theorem shownError_size (value : String) : (shownError value).utf8ByteSize ≤ 2048 := by
  have length : (shownError value).length ≤ 512 := by
    rw [shownError, String.length_ofList, List.length_map, List.length_take]
    omega
  have bytes := utf8ByteSize_le_length (shownError value)
  omega

theorem shownError_ne_empty {value : String} (shown : trim (shownError value) ≠ "") : shownError value ≠ "" := by
  intro isEmpty
  apply shown
  rw [isEmpty]
  rfl

theorem utf8ByteSize_pos {text : String} (nonEmpty : text ≠ "") : 1 ≤ text.utf8ByteSize := by
  rw [Nat.one_le_iff_ne_zero]
  intro isZero
  exact nonEmpty (String.utf8ByteSize_eq_zero_iff.mp isZero)

theorem sanitizeError_text (value : String) : Text 1 2048 (sanitizeError value) := by
  rw [sanitizeError]
  split
  · decide
  · next shown => exact ⟨utf8ByteSize_pos (shownError_ne_empty shown), shownError_size value, shownError_no_nul value⟩

/-- The errors that fit a report: a fixed text takes their place, or they have at most 512 bytes. -/
def ShortError (value : String) : Prop :=
  sensitiveError value = true ∨ trim (shownError value) = "" ∨ (shownError value).utf8ByteSize ≤ 512

instance decidableShortError (value : String) : Decidable (ShortError value) :=
  inferInstanceAs (Decidable (_ ∨ _))

theorem safeObserverError_text {value : String} : Text 1 512 (safeObserverError value) ↔ ShortError value := by
  rw [safeObserverError, ShortError]
  split
  · next sensitive =>
    simp only [sensitive, true_or, iff_true]
    decide
  · next plain =>
    simp only [plain, Bool.false_eq_true, false_or, sanitizeError]
    split
    · next blank =>
      simp only [blank, true_or, iff_true]
      decide
    · next shown =>
      simp only [shown, false_or]
      constructor
      · intro text
        exact text.2.1
      · intro small
        exact ⟨utf8ByteSize_pos (shownError_ne_empty shown), small, shownError_no_nul value⟩

end Vifu.Gateway
