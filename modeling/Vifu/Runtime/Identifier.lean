import Vifu.Foundation.Fallible
import Vifu.Runtime.Data

/-!
# Identifiers and texts

The checks on names that requests, definitions, manifests and trace records share.
-/

namespace Vifu.Runtime

open Foundation

/-- The bytes of a portable identifier.  A character outside ASCII has only other bytes. -/
def isPortable (character : Char) : Bool :=
  character.isAlphanum || character == '-' || character == '_' || character == '.' || character == ':'

def isControl (character : Char) : Bool :=
  character.toNat < 0x20 || (0x7f ≤ character.toNat && character.toNat < 0xa0)

def isWhitespace (character : Char) : Bool :=
  let code := character.toNat
  (0x9 ≤ code && code ≤ 0xd) || code == 0x20 || code == 0x85 || code == 0xa0 || code == 0x1680 ||
    (0x2000 ≤ code && code ≤ 0x200a) || code == 0x2028 || code == 0x2029 || code == 0x202f ||
    code == 0x205f || code == 0x3000

def trim (text : String) : String :=
  .ofList ((text.toList.dropWhile isWhitespace).reverse.dropWhile isWhitespace).reverse

def toAsciiLowercase (text : String) : String := .ofList (text.toList.map Char.toLower)

/-- The texts that `validate_identifier` and `validate_portable_identifier` accept. -/
def PortableIdentifier (value : String) : Prop :=
  value ≠ "" ∧ value.utf8ByteSize ≤ 128 ∧ value.toList.all isPortable = true

instance decidablePortableIdentifier (value : String) : Decidable (PortableIdentifier value) :=
  inferInstanceAs (Decidable (_ ∧ _))

def validateIdentifier (kind value : String) : Except RuntimeError Unit :=
  ensure (PortableIdentifier value) (.invalidDefinition (kind ++ " must be a portable identifier"))

/-- The manifest's check of a name, which is the same. -/
def validatePortableIdentifier (kind value : String) : Except RuntimeError Unit :=
  ensure (PortableIdentifier value) (.invalidDefinition (kind ++ " must be a portable identifier"))

/-- The texts that `validate_trace_identifier` accepts. -/
def TraceIdentifier (value : String) : Prop :=
  value ≠ "" ∧ value.utf8ByteSize ≤ 256 ∧ value.toList.all (fun character => !isControl character) = true

instance decidableTraceIdentifier (value : String) : Decidable (TraceIdentifier value) :=
  inferInstanceAs (Decidable (_ ∧ _))

def validateTraceIdentifier (kind value : String) : Except RuntimeError Unit :=
  ensure (TraceIdentifier value) (.invalidDefinition (kind ++ " must be a valid trace identifier"))

variable {kind value : String} {result : Unit}

@[simp] theorem validateIdentifier_ok :
    validateIdentifier kind value = .ok result ↔ PortableIdentifier value := ensure_ok

@[simp] theorem validatePortableIdentifier_ok :
    validatePortableIdentifier kind value = .ok result ↔ PortableIdentifier value := ensure_ok

@[simp] theorem validateTraceIdentifier_ok :
    validateTraceIdentifier kind value = .ok result ↔ TraceIdentifier value := ensure_ok

end Vifu.Runtime
