import Vifu.Foundation.Table
import Vifu.Runtime.Identifier
import Vifu.Runtime.Json

/-!
# Checks of gateway messages

The checks on single fields that the messages of the gateway share.  Each refuses with a text that
names the field; the lemmas say which values pass.
-/

namespace Vifu.Gateway

open Foundation
open Vifu.Runtime hiding validateIdentifier

def uuidCharacter (index : ℕ) (character : Char) : Bool :=
  if index ∈ [8, 13, 18, 23] then character == '-'
  else character.isDigit || "abcdef".toList.contains character

/-- A `Uuid` is held as its hyphenated text in lower case, which is how it is printed. -/
structure Uuid where
  text : String
  canonical : text.length = 36 ∧ text.toList.zipIdx.all (fun place => uuidCharacter place.2 place.1) = true
  deriving DecidableEq

/-- `Uuid::parse_str`, which comes from outside the repository and reads other forms as well. -/
structure UuidParser where
  parse : String → Option Uuid

def UuidParser.Lawful (uuids : UuidParser) : Prop := ∀ id : Uuid, uuids.parse id.text = some id

/-! ## Texts -/

/-- The texts that `validate_identifier` accepts. -/
def Identifier (value : String) : Prop :=
  3 ≤ value.utf8ByteSize ∧ value.utf8ByteSize ≤ 128 ∧ value.toList.all isPortable = true

instance decidableIdentifier (value : String) : Decidable (Identifier value) :=
  inferInstanceAs (Decidable (_ ∧ _))

def validateIdentifier (name value : String) : Except String Unit := do
  ensure (3 ≤ value.utf8ByteSize ∧ value.utf8ByteSize ≤ 128) ("invalid " ++ name ++ " length")
  ensure (value.toList.all isPortable = true) ("invalid " ++ name ++ " characters")

/-- The texts that `validate_token` accepts. -/
def Token (least most : ℕ) (value : String) : Prop :=
  (least ≤ value.utf8ByteSize ∧ value.utf8ByteSize ≤ most) ∧ value.toList.all isPortable = true

instance decidableToken (least most : ℕ) (value : String) : Decidable (Token least most value) :=
  inferInstanceAs (Decidable (_ ∧ _))

def validateToken (name value : String) (least most : ℕ) : Except String Unit :=
  ensure (Token least most value) ("invalid " ++ name)

/-- The texts that `validate_code` accepts. -/
def ErrorCode (value : String) : Prop :=
  (value ≠ "" ∧ value.utf8ByteSize ≤ 64) ∧
    value.toList.all (fun character => character.isUpper || character.isDigit || character == '_') = true

instance decidableErrorCode (value : String) : Decidable (ErrorCode value) :=
  inferInstanceAs (Decidable (_ ∧ _))

def validateCode (value : String) : Except String Unit := do
  ensure (value ≠ "" ∧ value.utf8ByteSize ≤ 64) "invalid error code length"
  ensure
    (value.toList.all (fun character => character.isUpper || character.isDigit || character == '_') = true)
    "invalid error code characters"

/-- The texts that `validate_text` accepts. -/
def Text (least most : ℕ) (value : String) : Prop :=
  least ≤ value.utf8ByteSize ∧ value.utf8ByteSize ≤ most ∧ '\x00' ∉ value.toList

instance decidableText (least most : ℕ) (value : String) : Decidable (Text least most value) :=
  inferInstanceAs (Decidable (_ ∧ _))

def validateText (name value : String) (least most : ℕ) : Except String Unit :=
  ensure (Text least most value) ("invalid " ++ name)

def validateChannel (channelId : ℕ) : Except String Unit :=
  ensure (channelId ≠ 0) "channel id must be greater than zero"

/-- Writing a `Value` does not fail, so that only its size is checked. -/
def validateJson (floats : FloatText) (name : String) (value : Value) (most : ℕ) : Except String Unit :=
  ensure (value.encodedSize floats ≤ most) (name ++ " is too large")

variable {result : Unit} {name value : String} {least most : ℕ}

@[simp] theorem validateIdentifier_ok : validateIdentifier name value = .ok result ↔ Identifier value := by
  simp only [validateIdentifier, check_bind_ok, ensure_ok, Identifier, and_assoc]

@[simp] theorem validateToken_ok :
    validateToken name value least most = .ok result ↔ Token least most value := ensure_ok

@[simp] theorem validateCode_ok {value : String} : validateCode value = .ok result ↔ ErrorCode value := by
  simp only [validateCode, check_bind_ok, ensure_ok, ErrorCode]

@[simp] theorem validateText_ok :
    validateText name value least most = .ok result ↔ Text least most value := ensure_ok

@[simp] theorem validateChannel_ok {channelId : ℕ} :
    validateChannel channelId = .ok result ↔ channelId ≠ 0 := ensure_ok

@[simp] theorem validateJson_ok {floats : FloatText} {name : String} {value : Value} {most : ℕ} :
    validateJson floats name value most = .ok result ↔ value.encodedSize floats ≤ most := ensure_ok

end Vifu.Gateway
