import Mathlib.Data.List.DropRight
import Vifu.Foundation.Sextets
import Vifu.Server.Api.Access
import Vifu.Server.Api.Errors

/-!
# Deployment credentials

The server exchanges the answer of an access token authority for a credential of its own, which names the acting user
and ends after five minutes.  Issuing and verifying check the credential on different sides: only the verifier has a
limit on its size, and only the verifier removes operations that are listed twice.
-/

namespace Vifu.Server

open Foundation
open Vifu.Runtime (Value FloatText u64Max saturatingAdd trim isControl isWhitespace)

def Operation.asScope : Operation → String
  | .deploymentRead => "deployment:read"
  | .deploymentWrite => "deployment:write"
  | .projectRead => "project:read"
  | .projectWrite => "project:write"

structure DeploymentCredentialPayload where
  version : ℕ
  deploymentId : String
  subject : String
  issuer : String
  operations : List String
  issuedAt : ℕ
  expiresAt : ℕ
  deriving DecidableEq

structure AccessTokenAuthorizationResponse where
  isAuthorized : Bool
  subject : Option String
  issuer : Option String
  allowedOperations : List String

structure IssuedDeploymentCredential where
  credential : List UInt8
  expiresAt : ℕ

def DeploymentCredentialPayload.content (payload : DeploymentCredentialPayload) : Value :=
  .object [("version", .number (.posInt payload.version)), ("deploymentId", .string payload.deploymentId),
    ("subject", .string payload.subject), ("issuer", .string payload.issuer),
    ("operations", .array (payload.operations.map .string)), ("issuedAt", .number (.posInt payload.issuedAt)),
    ("expiresAt", .number (.posInt payload.expiresAt))]

/-- What comes from outside the repository: the JSON reader, unpadded URL-safe base64, and the message authentication
    code under the key of the deployment. -/
structure CredentialServices where
  floats : FloatText
  fromSlice : List UInt8 → Except String DeploymentCredentialPayload
  encode : List UInt8 → List UInt8
  decode : List UInt8 → Option (List UInt8)
  sign : List UInt8 → List UInt8
  verify : List UInt8 → List UInt8 → Bool

structure CredentialServices.Lawful (services : CredentialServices) : Prop where
  decodes : ∀ bytes, services.decode (services.encode bytes) = some bytes
  noDots : ∀ bytes, ascii '.' ∉ services.encode bytes
  lengths : ∀ bytes, (services.encode bytes).length = (4 * bytes.length + 2) / 3
  verifies : ∀ message tag, services.verify message tag = true ↔ tag = services.sign message
  tagLength : ∀ message, (services.sign message).length = 32

/-- The checks of a subject or an issuer, after it is trimmed. -/
def identityValue (value : String) : Option String :=
  if trim value ≠ "" ∧ (trim value).utf8ByteSize ≤ 512 ∧ (trim value).toList.any isControl = false then
    some (trim value)
  else none

def operationOfScope : String → Option Operation
  | "deployment:read" => some .deploymentRead
  | "deployment:write" => some .deploymentWrite
  | "project:read" => some .projectRead
  | "project:write" => some .projectWrite
  | _ => none

def AccessTokenAuthorizationResponse.identity (response : AccessTokenAuthorizationResponse) :
    Except RequestError Identity := do
  ensure (response.isAuthorized = true) (.api .forbidden)
  let subject ← okOr .deploymentAuthorityUnavailable (response.subject.bind identityValue)
  let issuer := (response.issuer.bind identityValue).getD "access-token-authority"
  return .actingUser subject issuer (response.allowedOperations.filterMap operationOfScope)

def deploymentCredentialPrefix : List UInt8 := "vifu_dc1".toList.map ascii
def deploymentCredentialLifetime : ℕ := 5 * 60
def deploymentCredentialClockSkew : ℕ := 60

def credentialPayload (deploymentId subject issuer : String) (operations : List Operation) (issuedAt : ℕ) :
    DeploymentCredentialPayload :=
  ⟨1, deploymentId, subject, issuer, operations.map Operation.asScope, issuedAt,
    issuedAt + deploymentCredentialLifetime⟩

/-- What `serde_json::to_vec` writes for a payload. -/
def payloadText (floats : FloatText) (payload : DeploymentCredentialPayload) : List UInt8 :=
  (payload.content.text floats).toUTF8.data.toList

/-- `now` is the time in seconds since the epoch. -/
def issueCredential (services : CredentialServices) (deploymentId : String) (identity : Identity) (now : ℕ) :
    Except RequestError IssuedDeploymentCredential :=
  match identity with
  | .deploymentAdmin => .error (.api .forbidden)
  | .actingUser subject issuer operations => do
    ensure (now + deploymentCredentialLifetime ≤ u64Max) .internal
    let text := payloadText services.floats (credentialPayload deploymentId subject issuer operations now)
    let signingInput := deploymentCredentialPrefix ++ ascii '.' :: services.encode text
    let signature := services.encode (services.sign signingInput)
    ensure ((now + deploymentCredentialLifetime) * 1000 ≤ u64Max) .internal
    return ⟨signingInput ++ ascii '.' :: signature, (now + deploymentCredentialLifetime) * 1000⟩

/-- `Vec::dedup`, which removes what is equal to the element before it. -/
def dedupOperations : List Operation → List Operation
  | first :: second :: rest =>
    if first = second then dedupOperations (second :: rest) else first :: dedupOperations (second :: rest)
  | short => short

def sortedOperations (operations : List Operation) : List Operation :=
  dedupOperations (operations.mergeSort fun first second => decide (first.asScope ≤ second.asScope))

def verifyPayload (deploymentId : String) (payload : DeploymentCredentialPayload) (now : ℕ) :
    Except RequestError Identity := do
  ensure (¬(payload.version ≠ 1 ∨ payload.deploymentId ≠ deploymentId ∨
      saturatingAdd now deploymentCredentialClockSkew < payload.issuedAt ∨ payload.expiresAt ≤ now ∨
      deploymentCredentialLifetime < payload.expiresAt - payload.issuedAt)) (.api .unauthorized)
  let subject ← okOr (.api .unauthorized) (identityValue payload.subject)
  let issuer ← okOr (.api .unauthorized) (identityValue payload.issuer)
  let operations ← payload.operations.mapM fun scope => okOr (.api .unauthorized) (operationOfScope scope)
  ensure (sortedOperations operations ≠ []) (.api .unauthorized)
  return .actingUser subject issuer (sortedOperations operations)

def verifyCredential (services : CredentialServices) (deploymentId : String) (credential : List UInt8) (now : ℕ) :
    Except RequestError Identity := do
  ensure (credential.length ≤ 8192) (.api .unauthorized)
  match credential.splitOn (ascii '.') with
  | [front, payload, signature] => do
    ensure (front = deploymentCredentialPrefix) (.api .unauthorized)
    let signature ← okOr (.api .unauthorized) (services.decode signature)
    ensure (services.verify (deploymentCredentialPrefix ++ ascii '.' :: payload) signature = true) (.api .unauthorized)
    let text ← okOr (.api .unauthorized) (services.decode payload)
    let payload ← (services.fromSlice text).mapError fun _ => .api .unauthorized
    verifyPayload deploymentId payload now
  | _ => .error (.api .unauthorized)

/-! ## Identities that are issued -/

theorem trim_trim (text : String) : trim (trim text) = trim text := by
  obtain ⟨front, isFront⟩ : ∃ front, text.toList.dropWhile isWhitespace = front := ⟨_, rfl⟩
  obtain ⟨back, isBack⟩ : ∃ back, front.reverse.dropWhile isWhitespace = back := ⟨_, rfl⟩
  have opens : back.reverse.dropWhile isWhitespace = back.reverse := by
    rw [List.dropWhile_eq_self_iff]
    intro filled
    obtain ⟨blanks, parts⟩ : back <:+ front.reverse := isBack ▸ List.dropWhile_suffix _
    -- the first character is also the first one behind the leading blanks
    have isPrefix : back.reverse <+: front :=
      ⟨blanks.reverse, by rw [← List.reverse_append, parts, List.reverse_reverse]⟩
    have first := isPrefix.getElem filled
    have kept : front.dropWhile isWhitespace = front := by rw [← isFront, List.dropWhile_idempotent]
    rw [first]
    exact List.dropWhile_eq_self_iff.mp kept _
  have closes : back.dropWhile isWhitespace = back := by rw [← isBack, List.dropWhile_idempotent]
  have once : trim text = .ofList back.reverse := by rw [trim, isFront, isBack]
  rw [once, trim, String.toList_ofList, opens, List.reverse_reverse, closes]

theorem identityValue_again {value passed : String} (accepted : identityValue value = some passed) :
    identityValue passed = some passed := by
  rw [identityValue] at accepted
  obtain ⟨valid, accepted⟩ := Option.ite_none_right_eq_some.mp accepted
  rw [Option.some.injEq] at accepted
  rw [← accepted, identityValue, trim_trim, if_pos valid]

theorem operationOfScope_asScope (operation : Operation) : operationOfScope operation.asScope = some operation := by
  cases operation <;> rfl

variable {operations : List Operation}

theorem checked_of_identity {response : AccessTokenAuthorizationResponse} {subject issuer : String}
    (built : response.identity = .ok (.actingUser subject issuer operations)) :
    identityValue subject = some subject ∧ identityValue issuer = some issuer ∧
      operations = response.allowedOperations.filterMap operationOfScope := by
  obtain ⟨_, built⟩ := check_bind_ok.mp built
  obtain ⟨passed, found, built⟩ := bind_ok.mp built
  rw [okOr_ok, Option.bind_eq_some_iff] at found
  obtain ⟨_, _, accepted⟩ := found
  obtain ⟨rfl, rfl, rfl⟩ := built
  refine ⟨identityValue_again accepted, ?_, rfl⟩
  cases named : response.issuer.bind identityValue with
  | none => decide
  | some issuer =>
    obtain ⟨_, _, accepted⟩ := Option.bind_eq_some_iff.mp named
    exact identityValue_again accepted

theorem mem_dedupOperations (operation : Operation) : ∀ operations : List Operation,
    operation ∈ dedupOperations operations ↔ operation ∈ operations
  | [] => Iff.rfl
  | [_] => Iff.rfl
  | first :: second :: rest => by
    have later := mem_dedupOperations operation (second :: rest)
    rw [dedupOperations]
    split
    next same => simp [later, same]
    next => simp [later]

theorem mem_sortedOperations {operation : Operation} :
    operation ∈ sortedOperations operations ↔ operation ∈ operations := by
  rw [sortedOperations, mem_dedupOperations, List.mem_mergeSort]

theorem scopes_read (operations : List Operation) : (operations.map Operation.asScope).mapM
      (fun scope => okOr (RequestError.api .unauthorized) (operationOfScope scope)) = .ok operations := by
  induction operations with
  | nil => rfl
  | cons operation operations ih =>
    rw [List.map_cons, List.mapM_cons, ih, operationOfScope_asScope]
    rfl

theorem verifyPayload_eq {deploymentId subject issuer : String} {issuedAt now : ℕ}
    (checkedSubject : identityValue subject = some subject) (checkedIssuer : identityValue issuer = some issuer)
    (known : operations ≠ []) (fits : issuedAt ≤ u64Max) :
    verifyPayload deploymentId (credentialPayload deploymentId subject issuer operations issuedAt) now =
      if issuedAt ≤ now + 60 ∧ now < issuedAt + 300 then .ok (.actingUser subject issuer (sortedOperations operations))
      else .error (.api .unauthorized) := by
  have kept : sortedOperations operations ≠ [] := by
    obtain ⟨operation, mem⟩ := List.exists_mem_of_ne_nil _ known
    exact List.ne_nil_of_mem (mem_sortedOperations.mpr mem)
  have window : ¬(saturatingAdd now deploymentCredentialClockSkew < issuedAt ∨
      issuedAt + deploymentCredentialLifetime ≤ now ∨
      deploymentCredentialLifetime < issuedAt + deploymentCredentialLifetime - issuedAt) ↔
      issuedAt ≤ now + 60 ∧ now < issuedAt + 300 := by
    simp only [saturatingAdd, deploymentCredentialClockSkew, deploymentCredentialLifetime]
    omega
  rw [verifyPayload, credentialPayload]
  simp only [ne_eq, not_true_eq_false, false_or, window, checkedSubject, checkedIssuer, scopes_read]
  split
  next inside => simp [ensure, okOr, inside, kept, ok_bind, pure, Except.pure]
  next outside => simp [ensure, outside, bind, Except.bind]

theorem splitOn_credential {payload signature : List UInt8} (payloadNoDots : ascii '.' ∉ payload)
    (signatureNoDots : ascii '.' ∉ signature) :
    (deploymentCredentialPrefix ++ ascii '.' :: payload ++ ascii '.' :: signature).splitOn (ascii '.') =
      [deploymentCredentialPrefix, payload, signature] := by
  have prefixNoDots : ascii '.' ∉ deploymentCredentialPrefix := by decide
  rw [List.append_assoc, List.cons_append, List.splitOn_append_cons_self, List.splitOn_append_cons_self,
    List.splitOn_eq_singleton prefixNoDots, List.splitOn_eq_singleton payloadNoDots,
    List.splitOn_eq_singleton signatureNoDots]
  rfl

/-! ## Round trips -/

/-- The credential of an acting user is accepted in its window with the same subject, issuer and set of operations, and
    refused outside. -/
def CredentialRoundTrips (services : CredentialServices) (deploymentId subject issuer : String)
    (operations : List Operation) (issuedAt : ℕ) : Prop :=
  ∃ issued, issueCredential services deploymentId (.actingUser subject issuer operations) issuedAt = .ok issued ∧
    ∀ now ≤ u64Max,
      if issuedAt ≤ now + 60 ∧ now < issuedAt + 300 then
        ∃ verified, verifyCredential services deploymentId issued.credential now =
            .ok (.actingUser subject issuer verified) ∧ ∀ operation, operation ∈ verified ↔ operation ∈ operations
      else ∃ error, verifyCredential services deploymentId issued.credential now = .error error

section

variable {services : CredentialServices} {deploymentId subject issuer : String}
  {issuedAt now : ℕ} {payload : DeploymentCredentialPayload}

def credentialText (services : CredentialServices) (payload : DeploymentCredentialPayload) : List UInt8 :=
  deploymentCredentialPrefix ++ ascii '.' :: services.encode (payloadText services.floats payload) ++
    ascii '.' :: services.encode (services.sign
      (deploymentCredentialPrefix ++ ascii '.' :: services.encode (payloadText services.floats payload)))

theorem issueCredential_ok {issued : IssuedDeploymentCredential} :
    issueCredential services deploymentId (.actingUser subject issuer operations) issuedAt = .ok issued ↔
      (issuedAt + 300) * 1000 ≤ u64Max ∧
        issued = ⟨credentialText services (credentialPayload deploymentId subject issuer operations issuedAt),
          (issuedAt + 300) * 1000⟩ := by
  have lifetime : deploymentCredentialLifetime = 300 := rfl
  rw [issueCredential, check_bind_ok, check_bind_ok, ensure_ok, ensure_ok, pure_ok, lifetime]
  constructor
  · rintro ⟨_, fits, rfl⟩
    exact ⟨fits, by rw [credentialText]⟩
  · rintro ⟨fits, rfl⟩
    exact ⟨(Nat.le_mul_of_pos_right _ (by decide)).trans fits, fits, by rw [credentialText]⟩

section

variable (lawful : services.Lawful)
include lawful

theorem length_credentialText (payload : DeploymentCredentialPayload) :
    (credentialText services payload).length ≤ 8192 ↔ (payloadText services.floats payload).length ≤ 6104 := by
  have front : deploymentCredentialPrefix.length = 8 := rfl
  simp only [credentialText, List.length_append, List.length_cons, lawful.lengths, lawful.tagLength, front]
  omega

theorem verifyCredential_eq (read : services.fromSlice (payloadText services.floats payload) = .ok payload)
    (short : (payloadText services.floats payload).length ≤ 6104) :
    verifyCredential services deploymentId (credentialText services payload) now =
      verifyPayload deploymentId payload now := by
  have parts : (credentialText services payload).splitOn (ascii '.') = [deploymentCredentialPrefix, _, _] :=
    splitOn_credential (lawful.noDots (payloadText services.floats payload)) (lawful.noDots _)
  have fits := (length_credentialText lawful payload).mpr short
  rw [verifyCredential, parts]
  simp [ensure, okOr, fits, lawful.decodes, (lawful.verifies _ _).mpr rfl, read, ok_bind, Except.mapError]

theorem verifyCredential_long (long : 6104 < (payloadText services.floats payload).length) :
    verifyCredential services deploymentId (credentialText services payload) now = .error (.api .unauthorized) := by
  have exceeds : ¬(credentialText services payload).length ≤ 8192 :=
    fun fits => absurd ((length_credentialText lawful payload).mp fits) (by omega)
  rw [verifyCredential]
  simp [ensure, exceeds, bind, Except.bind]

theorem roundTrips_iff (checkedSubject : identityValue subject = some subject)
    (checkedIssuer : identityValue issuer = some issuer) (known : operations ≠ []) (isTime : issuedAt ≤ u64Max)
    (read : services.fromSlice (payloadText services.floats
        (credentialPayload deploymentId subject issuer operations issuedAt)) =
      .ok (credentialPayload deploymentId subject issuer operations issuedAt)) :
    CredentialRoundTrips services deploymentId subject issuer operations issuedAt ↔
      (payloadText services.floats (credentialPayload deploymentId subject issuer operations issuedAt)).length ≤ 6104 ∧
        (issuedAt + 300) * 1000 ≤ u64Max := by
  constructor
  · rintro ⟨issued, isIssued, verifies⟩
    obtain ⟨fits, rfl⟩ := issueCredential_ok.mp isIssued
    refine ⟨?_, fits⟩
    by_contra long
    -- the time of issue lies in the window
    have accepted := verifies issuedAt isTime
    rw [if_pos ⟨by omega, by omega⟩, verifyCredential_long lawful (by omega)] at accepted
    obtain ⟨_, verified, _⟩ := accepted
    cases verified
  · rintro ⟨short, fits⟩
    refine ⟨_, issueCredential_ok.mpr ⟨fits, rfl⟩, fun now _ => ?_⟩
    rw [verifyCredential_eq lawful read short, verifyPayload_eq checkedSubject checkedIssuer known isTime]
    split
    next => exact ⟨_, rfl, fun _ => mem_sortedOperations⟩
    next => exact ⟨_, rfl⟩

end

/-- The credential of an identity from an authority makes the round trip exactly when its payload is at most 6104 bytes
    long and its end in milliseconds is a number of 64 bits. -/
theorem credential_round_trips (lawful : services.Lawful) {response : AccessTokenAuthorizationResponse}
    (built : response.identity = .ok (.actingUser subject issuer operations)) (known : operations ≠ [])
    (isTime : issuedAt ≤ u64Max) (read : services.fromSlice (payloadText services.floats
        (credentialPayload deploymentId subject issuer operations issuedAt)) =
      .ok (credentialPayload deploymentId subject issuer operations issuedAt)) :
    CredentialRoundTrips services deploymentId subject issuer operations issuedAt ↔
      (payloadText services.floats (credentialPayload deploymentId subject issuer operations issuedAt)).length ≤ 6104 ∧
        (issuedAt + 300) * 1000 ≤ u64Max := by
  obtain ⟨checkedSubject, checkedIssuer, _⟩ := checked_of_identity built
  exact roundTrips_iff lawful checkedSubject checkedIssuer known isTime read

end

/-! ## Services at work -/

def urlSafeAlphabet : List UInt8 :=
  "ABCDEFGHIJKLMNOPQRSTUVWXYZabcdefghijklmnopqrstuvwxyz0123456789-_".toList.map ascii

def urlSafeEncode (bytes : List UInt8) : List UInt8 :=
  (sextets (bytes.map UInt8.toNat)).map fun digit => urlSafeAlphabet.getD digit 0

/-- Only the text that the encoder writes is read. -/
def urlSafeDecode (text : List UInt8) : Option (List UInt8) :=
  let bytes := (octets (text.map fun symbol => urlSafeAlphabet.idxOf symbol)).map UInt8.ofNat
  if urlSafeEncode bytes = text then some bytes else none

def servicesFor (payload : DeploymentCredentialPayload) : CredentialServices where
  floats _ := "0.5"
  fromSlice text := if text = payloadText (fun _ => "0.5") payload then .ok payload else .error "unknown payload"
  encode := urlSafeEncode
  decode := urlSafeDecode
  sign _ := List.replicate 32 7
  verify _ tag := decide (tag = List.replicate 32 7)

theorem urlSafe_symbols : ∀ digit < 64, urlSafeAlphabet.idxOf (urlSafeAlphabet.getD digit 0) = digit ∧
    urlSafeAlphabet.getD digit 0 ≠ ascii '.' := by
  decide +kernel

theorem urlSafeEncode_symbols {bytes : List UInt8} {digit : ℕ} (mem : digit ∈ sextets (bytes.map UInt8.toNat)) :
    digit < 64 := by
  refine (sextets_valid fun byte isByte => ?_).small digit mem
  obtain ⟨original, _, rfl⟩ := List.mem_map.mp isByte
  exact original.toNat_lt

theorem servicesFor_lawful (payload : DeploymentCredentialPayload) : (servicesFor payload).Lawful where
  decodes bytes := by
    have small : ∀ byte ∈ bytes.map UInt8.toNat, byte < 256 := by
      intro byte mem
      obtain ⟨original, _, rfl⟩ := List.mem_map.mp mem
      exact original.toNat_lt
    have digits : (urlSafeEncode bytes).map (fun symbol => urlSafeAlphabet.idxOf symbol) =
        sextets (bytes.map UInt8.toNat) := by
      rw [urlSafeEncode, List.map_map]
      conv_rhs => rw [← List.map_id (sextets (bytes.map UInt8.toNat))]
      exact List.map_congr_left fun digit mem => (urlSafe_symbols digit (urlSafeEncode_symbols mem)).1
    simp [servicesFor, urlSafeDecode, digits, octets_sextets small, Function.comp_def]
  noDots bytes mem := by
    obtain ⟨digit, isDigit, same⟩ := List.mem_map.mp mem
    exact (urlSafe_symbols digit (urlSafeEncode_symbols isDigit)).2 same
  lengths bytes := by simp [servicesFor, urlSafeEncode, length_sextets]
  verifies message tag := by simp [servicesFor]
  tagLength message := by simp [servicesFor]

theorem servicesFor_reads (payload : DeploymentCredentialPayload) :
    (servicesFor payload).fromSlice (payloadText (servicesFor payload).floats payload) = .ok payload :=
  if_pos rfl

/-- An answer of an authority for a user with one operation, listed several times. -/
def readerResponse (count : ℕ) : AccessTokenAuthorizationResponse :=
  ⟨true, some "ada", none, List.replicate count "project:read"⟩

theorem identity_readerResponse (count : ℕ) : (readerResponse count).identity =
    .ok (.actingUser "ada" "access-token-authority" (List.replicate count .projectRead)) := by
  have subject : identityValue "ada" = some "ada" := by decide
  have operation : operationOfScope "project:read" = some .projectRead := rfl
  have operations : (List.replicate count "project:read").filterMap operationOfScope =
      List.replicate count .projectRead := by
    induction count with
    | zero => rfl
    | succ count ih => simp [List.replicate_succ, operation, ih]
  rw [AccessTokenAuthorizationResponse.identity, readerResponse, operations]
  simp [ensure, okOr, subject, ok_bind, pure, Except.pure]

def readerPayload (count : ℕ) : DeploymentCredentialPayload :=
  credentialPayload "deployment-1" "ada" "access-token-authority" (List.replicate count .projectRead) 1700000000

theorem credential_round_trips_reader :
    CredentialRoundTrips (servicesFor (readerPayload 1)) "deployment-1" "ada" "access-token-authority" [.projectRead]
      1700000000 ↔ (payloadText (servicesFor (readerPayload 1)).floats (readerPayload 1)).length ≤ 6104 ∧
        (1700000000 + 300) * 1000 ≤ u64Max :=
  credential_round_trips (servicesFor_lawful _) (identity_readerResponse 1) (by decide) (by decide)
    (servicesFor_reads _)

theorem length_payloadText (floats : FloatText) (payload : DeploymentCredentialPayload) :
    (payloadText floats payload).length = payload.content.encodedSize floats := by
  simp [payloadText, Value.encodedSize]

theorem readerPayload_size (floats : FloatText) (count : ℕ) :
    15 * count ≤ (readerPayload count).content.encodedSize floats := by
  have name : (Value.string "project:read").encodedSize floats = 14 := by
    simp only [Value.encodedSize, Value.text]
    decide
  have listed : 15 * count ≤ (Value.array (List.replicate count (.string "project:read"))).encodedSize floats := by
    rw [Value.encodedSize_array]
    simp [name]
    omega
  have operations : (readerPayload count).operations.map Value.string =
      List.replicate count (.string "project:read") := by
    simp [readerPayload, credentialPayload, Operation.asScope]
  rw [DeploymentCredentialPayload.content, Value.encodedSize_object, operations]
  simp only [List.map_cons, List.sum_cons, Value.fieldSize]
  omega

/-- An authority that lists an operation 500 times gives a user a credential that is never accepted. -/
theorem repeated_operations_refused : (readerResponse 500).identity =
      .ok (.actingUser "ada" "access-token-authority" (List.replicate 500 .projectRead)) ∧
    ¬CredentialRoundTrips (servicesFor (readerPayload 500)) "deployment-1" "ada" "access-token-authority"
      (List.replicate 500 .projectRead) 1700000000 := by
  refine ⟨identity_readerResponse 500, fun trips => ?_⟩
  have checked : identityValue "ada" = some "ada" ∧
      identityValue "access-token-authority" = some "access-token-authority" := by decide
  have short := ((roundTrips_iff (servicesFor_lawful (readerPayload 500)) checked.1 checked.2
    (mt (List.replicate_eq_nil_iff _).mp (by decide)) (by decide) (servicesFor_reads _)).mp trips).1
  have size := readerPayload_size (servicesFor (readerPayload 500)).floats 500
  rw [← length_payloadText] at size
  exact absurd (size.trans short) (by decide)

end Vifu.Server
