import Vifu.Runtime.JsonPaths
import Vifu.Runtime.Records
import Vifu.Server.Traces.Tables

/-!
# Images in stored chat requests

A chat request is stored without the payloads of its images: what an image part of object form refers to is replaced
by a digest.  An image part may also be a plain text, which is stored as it is unless the redaction recognises it.
-/

namespace Vifu.Server

open Foundation
open Vifu.Gateway
open Vifu.Runtime

/-! ## Chat requests -/

def maxChatImages : ℕ := 16
def maxChatRequestBytes : ℕ := 16 * 1024 * 1024

/-- `part.get("type") == Some("image_url")`. -/
def isImagePart (part : Value) : Bool := (part.get "type").bind Value.asString == some "image_url"

def chatImageParts (request : Value) : List Value :=
  ((request.get "messages").elim [] Value.items).flatMap fun message =>
    ((message.get "content").elim [] Value.items).filter isImagePart

def validateChatMessage (message : Value) : Except ApiError Unit := do
  ensure (((message.get "role").bind Value.asString).any (fun role => trim role ≠ ""))
    (.invalid "each message must include a role")
  ensure ((message.get "content").isSome = true) (.invalid "each message must include content")

def validateChatCompletionRequest (floats : FloatText) (request : Value) : Except ApiError Unit :=
  match request with
  | .object fields =>
    match getField "messages" fields with
    | some (.array messages) => do
      ensure (messages ≠ []) (.invalid "messages must not be empty")
      messages.forM validateChatMessage
      ensure ((chatImageParts request).length ≤ maxChatImages) (.invalid "chat requests support at most 16 images")
      ensure (request.encodedSize floats ≤ maxChatRequestBytes) (.invalid "request body is too large")
    | _ => .error (.invalid "messages must be an array")
  | _ => .error (.invalid "request body must be an object")

/-- The standard base64 decoder, and the digest of some bytes as a text. -/
structure ImageDigests where
  decode : String → Option (List UInt8)
  sha256 : List UInt8 → String

def dataUrlParts (url : String) : Option (String × String) := do
  guard ("data:".toList <+: url.toList)
  let data := url.toList.drop 5
  let metadata := data.takeWhile (· ≠ ',')
  guard (',' ∈ data)
  let mediaType ← (metadata.splitOn ';').head?
  guard ("base64".toList ∈ metadata.splitOn ';')
  return (.ofList mediaType, .ofList (data.drop (metadata.length + 1)))

def chatImageTraceMetadata (digests : ImageDigests) (url : String) : Value :=
  match dataUrlParts url with
  | some (mediaType, encoded) =>
    let decoded := digests.decode encoded
    .object [("decodedBytes", (decoded.map fun bytes => Value.number (.posInt bytes.length)).getD .null),
      ("encodedBytes", .number (.posInt encoded.utf8ByteSize)), ("mediaType", .string mediaType),
      ("sha256", .string (digests.sha256 (decoded.getD encoded.toUTF8.data.toList))), ("source", .string "data")]
  | none =>
    .object [("sha256", .string (digests.sha256 url.toUTF8.data.toList)), ("source", .string "reference")]

def changeImage (change : Value → Value) (part : Value) : Value :=
  if isImagePart part then part.modify "image_url" change else part

def changeImages (change : Value → Value) : Value → Value :=
  Value.modify "messages" (Value.each (Value.modify "content" (Value.each (changeImage change))))

/-- What `chat_trace_request` makes of an image of object form. -/
def traceImage (digests : ImageDigests) : Value → Value
  | .object image =>
    let url := ((getField "url" image).bind Value.asString).getD ""
    .object (setField "trace" (chatImageTraceMetadata digests url)
      (setField "url" (.string "[image content omitted]") image))
  | image => image

def chatTraceRequest (digests : ImageDigests) (request : Value) : Value := changeImages (traceImage digests) request

def storedChatRequest (digests : ImageDigests) (request : Value) : Value :=
  redactTraceValue (chatTraceRequest digests request)

def maskText : Value → Value
  | .string _ => .string ""
  | value => value

/-- An image without its payload, of object or of plain form. -/
def maskImage : Value → Value
  | .object image => .object (modifyField "url" maskText image)
  | image => maskText image

/-- The requests differ only in the payloads of their images. -/
def SameButPayloads (left right : Value) : Prop := changeImages maskImage left = changeImages maskImage right

/-- Digest and lengths are left out of the metadata of an image. -/
def eraseDigest (metadata : Value) : Value :=
  ["decodedBytes", "encodedBytes", "sha256"].foldl (fun metadata key => metadata.modify key fun _ => .null) metadata

/-- The stored requests differ at most in digests and lengths. -/
def SameButDigests (left right : Value) : Prop :=
  changeImages (Value.modify "trace" eraseDigest) left = changeImages (Value.modify "trace" eraseDigest) right

/-- The text is recognised, or cannot be told from a text that is. -/
def Withheld (text : String) : Prop :=
  containsSensitiveTraceText text = true ∨ text = "[REDACTED sensitive value]"

/-- Redaction leaves the same of both texts. -/
def ShownAlike (left right : String) : Prop := left = right ∨ Withheld left ∧ Withheld right

/-- Both URLs are references, or data of media types that redaction leaves alike. -/
def UrlsAlike (left right : String) : Prop :=
  match dataUrlParts left, dataUrlParts right with
  | some leftParts, some rightParts => ShownAlike leftParts.1 rightParts.1
  | none, none => True
  | some _, none | none, some _ => False

/-- The payloads of two images can be told apart at most by digests and lengths. -/
def ImagesAlike : Value → Value → Prop
  | .string left, .string right => ShownAlike left right
  | .object left, .object right =>
    UrlsAlike (((getField "url" left).bind Value.asString).getD "") (((getField "url" right).bind Value.asString).getD "")
  | _, _ => True

/-- A relation between the values under a key. -/
def AtField (key : String) (related : Value → Value → Prop) (left right : Value) : Prop :=
  ∀ leftValue ∈ left.get key, ∀ rightValue ∈ right.get key, related leftValue rightValue

def AtItems (related : Value → Value → Prop) (left right : Value) : Prop := List.Forall₂ related left.items right.items

def AtImages (related : Value → Value → Prop) : Value → Value → Prop :=
  AtField "messages" <| AtItems <| AtField "content" <| AtItems fun left right =>
    isImagePart left = true → AtField "image_url" related left right

/-! ## Redaction along the way to an image -/

theorem redactItems_eq (left : ℕ) (values : List Value) : redactItems left values = values.map (redact left) := by
  induction values with
  | nil => rfl
  | cons value values ih => rw [redactItems, ih, List.map_cons]

theorem getField_redactFields {key : String} (plain : traceSensitiveKey key = false) (left : ℕ)
    (fields : List (String × Value)) : getField key (redactFields left fields) = (getField key fields).map (redact left) := by
  induction fields with
  | nil => rfl
  | cons field fields ih =>
    obtain ⟨name, value⟩ := field
    rw [redactFields, getField_cons, getField_cons, ih]
    by_cases same : name = key
    · subst same
      simp [plain]
    · simp [same]

theorem image_fields_plain :
    (∀ key ∈ ["messages", "content", "image_url", "type", "trace", "decodedBytes", "encodedBytes", "mediaType",
      "sha256", "source"], traceSensitiveKey key = false) ∧
      ∀ text ∈ ["image_url", "data", "reference"], containsSensitiveTraceText text = false := by
  decide +kernel

theorem isImagePart_redact (left : ℕ) (part : Value) : isImagePart (redact (left + 2) part) = isImagePart part := by
  cases part with
  | object fields =>
    have plain := image_fields_plain.1 "type" (by simp)
    simp only [isImagePart, redact, Value.get, getField_redactFields plain]
    cases getField "type" fields with
    | none => rfl
    | some type =>
      cases type with
      | string text =>
        simp only [Option.map_some, Option.bind_some, redact]
        split
        next sensitive =>
          have differs : text ≠ "image_url" := by
            rintro rfl
            rw [image_fields_plain.2 "image_url" (by simp)] at sensitive
            cases sensitive
          simp [Value.asString, differs]
        next => rfl
      | object | array | null | bool | number => rfl
  | string text =>
    rw [redact]
    split <;> rfl
  | array | null | bool | number => rfl

theorem changeImage_image {part : Value} (isImage : isImagePart part = true) (change : Value → Value) :
    changeImage change part = part.modify "image_url" change :=
  if_pos isImage

theorem changeImage_other {part : Value} (isOther : isImagePart part = false) (change : Value → Value) :
    changeImage change part = part :=
  if_neg (by simp [isOther])

theorem isImagePart_changeImage (change : Value → Value) (part : Value) :
    isImagePart (changeImage change part) = isImagePart part := by
  unfold changeImage
  split
  next =>
    cases part with
    | object fields =>
      simp only [isImagePart, Value.modify, Value.get, getField_modifyField_of_ne (show "type" ≠ "image_url" by decide)]
    | string | array | null | bool | number => rfl
  next => rfl

/-- On values that a mask cannot tell apart, a view shows the same just when they are related. -/
def Compares (mask view : Value → Value) (related : Value → Value → Prop) : Prop :=
  ∀ left right, mask left = mask right → (view left = view right ↔ related left right)

variable {mask change erase : Value → Value} {related : Value → Value → Prop} {depth : ℕ} {key : String}
  {left right : String}

theorem view_here (plain : traceSensitiveKey key = false) (value : Value) (fields : List (String × Value)) :
    modifyField key erase (redactFields depth (modifyField key change ((key, value) :: fields))) =
      (key, erase (redact depth (change value))) :: redactFields depth fields := by
  simp [modifyField, redactFields, plain]

theorem view_later {name : String} (differs : name ≠ key) (value : Value) (fields : List (String × Value)) :
    modifyField key erase (redactFields depth (modifyField key change ((name, value) :: fields))) =
      (name, if traceSensitiveKey name then .string "[REDACTED]" else redact depth value) ::
        modifyField key erase (redactFields depth (modifyField key change fields)) := by
  simp [modifyField, redactFields, differs]

section

variable (plain : traceSensitiveKey key = false)
  (compares : Compares mask (fun value => erase (redact depth (change value))) related)
include plain compares

/-- Redacting an object between two changes of a field changes the field, and redacts the others. -/
theorem fields_compared
    {left right : List (String × Value)} (masked : modifyField key mask left = modifyField key mask right) :
    modifyField key erase (redactFields depth (modifyField key change left)) =
        modifyField key erase (redactFields depth (modifyField key change right)) ↔
      ∀ leftValue ∈ getField key left, ∀ rightValue ∈ getField key right, related leftValue rightValue := by
  induction left generalizing right with
  | nil =>
    cases right with
    | nil => simp [getField]
    | cons field fields =>
      rw [modifyField, modifyField] at masked
      split at masked <;> cases masked
  | cons field left ih =>
    obtain ⟨name, value⟩ := field
    cases right with
    | nil =>
      rw [modifyField, modifyField] at masked
      split at masked <;> cases masked
    | cons other right =>
      obtain ⟨otherName, otherValue⟩ := other
      rw [modifyField, modifyField] at masked
      by_cases isKey : name = key
      · have sameKey : otherName = key := by
          by_contra differs
          simp only [isKey, if_true, differs, if_false, List.cons.injEq, Prod.mk.injEq] at masked
          exact differs masked.1.1.symm
        subst isKey sameKey
        simp only [if_true, List.cons.injEq, Prod.mk.injEq, true_and] at masked
        obtain ⟨maskedValue, rfl⟩ := masked
        rw [view_here plain, view_here plain]
        simp only [List.cons.injEq, Prod.mk.injEq, true_and, and_true, getField_cons, if_true, Option.mem_def,
          Option.some.injEq, forall_eq']
        exact compares value otherValue maskedValue
      · have differs : otherName ≠ key := by
          intro sameKey
          simp only [isKey, if_false, sameKey, if_true, List.cons.injEq, Prod.mk.injEq] at masked
          exact masked.1.1
        simp only [isKey, if_false, differs, List.cons.injEq, Prod.mk.injEq] at masked
        obtain ⟨⟨rfl, rfl⟩, rest⟩ := masked
        rw [view_later isKey, view_later isKey]
        simp only [List.cons.injEq, true_and, getField_cons, isKey, if_false]
        exact ih rest

theorem modify_compared : Compares (Value.modify key mask)
      (fun value => (redact (depth + 1) (value.modify key change)).modify key erase) (AtField key related) := by
  intro left right masked
  obtain ⟨fields, others, rfl, rfl, same⟩ | ⟨rfl, absent⟩ := Value.modify_eq masked
  · simp only [Value.modify, redact, Value.object.injEq, fields_compared plain compares same]
    rfl
  · refine iff_of_true rfl fun value isValue => ?_
    rw [absent] at isValue
    cases isValue

end

theorem items_compared {view : Value → Value} (compares : Compares mask view related) {left right : List Value}
    (masked : left.map mask = right.map mask) : left.map view = right.map view ↔ List.Forall₂ related left right := by
  induction left generalizing right with
  | nil =>
    cases right with
    | nil => simp
    | cons => cases masked
  | cons value left ih =>
    cases right with
    | nil => cases masked
    | cons other right =>
      rw [List.map_cons, List.map_cons, List.cons.injEq] at masked
      rw [List.map_cons, List.map_cons, List.cons.injEq, List.forall₂_cons, ih masked.2,
        compares value other masked.1]

theorem each_compared (compares : Compares mask (fun value => erase (redact depth (change value))) related) :
    Compares (Value.each mask) (fun value => (redact (depth + 1) (value.each change)).each erase) (AtItems related) := by
  intro left right masked
  obtain ⟨values, others, rfl, rfl, same⟩ | ⟨rfl, empty⟩ := Value.each_eq masked
  · simp only [Value.each, redact, redactItems_eq, Value.array.injEq, List.map_map]
    exact items_compared compares same
  · refine iff_of_true rfl ?_
    rw [AtItems, empty]
    exact .nil

theorem changeImage_compared
    (compares : Compares mask (fun value => erase (redact (depth + 1) (change value))) related) :
    Compares (changeImage mask) (fun value => changeImage erase (redact (depth + 2) (changeImage change value)))
      (fun left right => isImagePart left = true → AtField "image_url" related left right) := by
  intro left right masked
  have sameKind : isImagePart left = isImagePart right := by
    rw [← isImagePart_changeImage mask left, masked, isImagePart_changeImage]
  have plain := image_fields_plain.1 "image_url" (by simp)
  have shows {part : Value} (isImage : isImagePart part = true) :
      changeImage erase (redact (depth + 2) (changeImage change part)) =
        (redact (depth + 2) (part.modify "image_url" change)).modify "image_url" erase := by
    have stillImage : isImagePart (redact (depth + 2) (changeImage change part)) = true := by
      rw [isImagePart_redact, isImagePart_changeImage, isImage]
    rw [changeImage_image stillImage, changeImage_image isImage]
  cases isImage : isImagePart left with
  | true =>
    have isImageRight : isImagePart right = true := sameKind ▸ isImage
    rw [changeImage_image isImage, changeImage_image isImageRight] at masked
    beta_reduce
    rw [shows isImage, shows isImageRight]
    simpa only [isImage, true_imp_iff] using modify_compared plain compares left right masked
  | false =>
    have isOther : isImagePart right = false := sameKind ▸ isImage
    rw [changeImage_other isImage, changeImage_other isOther] at masked
    subst masked
    refine iff_of_true rfl fun impossible => ?_
    rw [isImage] at impossible
    cases impossible

theorem changeImages_compared
    (compares : Compares mask (fun value => erase (redact (depth + 1) (change value))) related) :
    Compares (changeImages mask)
      (fun request => changeImages erase (redact (depth + 6) (changeImages change request))) (AtImages related) :=
  modify_compared (image_fields_plain.1 "messages" (by simp)) (each_compared
    (modify_compared (image_fields_plain.1 "content" (by simp)) (each_compared (changeImage_compared compares))))

/-! ## One image -/

def shownText (text : String) : String :=
  if containsSensitiveTraceText text then "[REDACTED sensitive value]" else text

theorem redact_string (left : ℕ) (text : String) : redact (left + 1) (.string text) = .string (shownText text) := by
  rw [redact, shownText]
  split <;> rfl

theorem shownText_eq_iff : shownText left = shownText right ↔ ShownAlike left right := by
  unfold ShownAlike Withheld shownText
  by_cases sensitive : containsSensitiveTraceText left = true <;>
    by_cases sensitiveRight : containsSensitiveTraceText right = true <;> grind

/-- Redacted and without its digests, the metadata of an image tells the kind of its URL and its media type. -/
def shownMetadata (url : String) : Value :=
  match dataUrlParts url with
  | some (mediaType, _) =>
    .object [("decodedBytes", .null), ("encodedBytes", .null), ("mediaType", .string (shownText mediaType)),
      ("sha256", .null), ("source", .string "data")]
  | none => .object [("sha256", .null), ("source", .string "reference")]

theorem eraseDigest_metadata (digests : ImageDigests) (left : ℕ) (url : String) :
    eraseDigest (redact (left + 2) (chatImageTraceMetadata digests url)) = shownMetadata url := by
  obtain ⟨keys, sources⟩ := image_fields_plain
  simp only [List.forall_mem_cons, List.not_mem_nil, false_imp_iff, implies_true, and_true] at keys sources
  unfold chatImageTraceMetadata shownMetadata
  cases dataUrlParts url with
  | none =>
    simp only [redact, redactFields, keys, sources, Bool.false_eq_true, if_false, eraseDigest, List.foldl_cons,
      List.foldl_nil, Value.modify]
    simp [modifyField]
  | some parts =>
    simp only [redact, redactFields, keys, sources, Bool.false_eq_true, if_false, eraseDigest, List.foldl_cons,
      List.foldl_nil, Value.modify, shownText]
    simp
    split <;> rfl

theorem shownMetadata_eq_iff : shownMetadata left = shownMetadata right ↔ UrlsAlike left right := by
  unfold shownMetadata UrlsAlike
  cases dataUrlParts left with
  | none =>
    cases dataUrlParts right with
    | none => simp
    | some parts => simp
  | some parts =>
    cases dataUrlParts right with
    | none => simp
    | some others => simpa using shownText_eq_iff

theorem view_setField (plain : traceSensitiveKey key = false) (value : Value) (fields : List (String × Value)) :
    modifyField key erase (redactFields depth (setField key value fields)) =
      setField key (erase (redact depth value)) (redactFields depth fields) := by
  unfold setField
  rw [getField_redactFields plain, Option.isSome_map]
  split
  next present =>
    clear present
    induction fields with
    | nil => rfl
    | cons field fields ih =>
      obtain ⟨name, held⟩ := field
      by_cases same : name = key
      · subst same
        simp [modifyField, redactFields, plain]
      · simp [modifyField, redactFields, same, ih]
  next absent =>
    induction fields with
    | nil => simp [insertField, redactFields, modifyField, plain]
    | cons field fields ih =>
      obtain ⟨name, held⟩ := field
      rw [getField_cons] at absent
      split at absent
      · simp at absent
      next differs =>
        by_cases below : name < key
        · simp [insertField, redactFields, modifyField, below, differs, ih absent]
        · simp [insertField, redactFields, modifyField, below, differs, plain]

theorem image_compared (digests : ImageDigests) :
    Compares maskImage (fun image => (redact (depth + 3) (traceImage digests image)).modify "trace" eraseDigest)
      ImagesAlike := by
  intro left right masked
  cases left with
  | object fields =>
    cases right with
    | object others =>
      have kept : setField "url" (.string "[image content omitted]") fields =
          setField "url" (.string "[image content omitted]") others :=
        setField_of_modifyField (Value.object.inj masked)
      have plain := image_fields_plain.1 "trace" (by simp)
      simp only [traceImage, redact, Value.modify, Value.object.injEq, view_setField plain, eraseDigest_metadata, kept]
      rw [ImagesAlike, ← shownMetadata_eq_iff]
      exact ⟨setField_injective, fun same => by rw [same]⟩
    | string | array | null | bool | number => cases masked
  | string text =>
    cases right with
    | string other =>
      show (redact _ (.string text)).modify _ _ = (redact _ (.string other)).modify _ _ ↔ ShownAlike text other
      rw [redact_string, redact_string]
      simpa [Value.modify] using shownText_eq_iff
    | object | array | null | bool | number => cases masked
  | array | null | bool | number =>
    cases right with
    | object | string => cases masked
    | array | null | bool | number => cases masked <;> exact iff_of_true rfl trivial

/-- The stored requests differ at most in digests and lengths just when the payloads cannot be told apart. -/
theorem stored_images_alike_iff (digests : ImageDigests) (left right : Value) (same : SameButPayloads left right) :
    SameButDigests (storedChatRequest digests left) (storedChatRequest digests right) ↔ AtImages ImagesAlike left right :=
  changeImages_compared (@image_compared 24 digests) left right same

def imageDigests : ImageDigests where
  decode encoded := if encoded = "AQID" then some [1, 2, 3] else if encoded = "BAUG" then some [4, 5, 6] else none
  sha256 bytes :=
    if bytes = [1, 2, 3] then "A5BYxvLAy0ksUzsKTRTvd8wPeKvMztUofYShogEc+4E" else "eHx5jjmlvBkQNVuubQzYejay4Q/QICqD47trAF2oNHI"

def imageRequest (image : Value) : Value :=
  .object [("messages", .array [
      .object [("content", .array [
          .object [("text", .string "What is here?"), ("type", .string "text")],
          .object [("image_url", image), ("type", .string "image_url")]]),
        ("role", .string "user")]]),
    ("model", .string "farm-vision")]

def dataImage (url : String) : Value := .object [("url", .string url)]

theorem stored_images_alike_cat :
    SameButDigests (storedChatRequest imageDigests (imageRequest (dataImage "data:image/png;base64,AQID")))
        (storedChatRequest imageDigests (imageRequest (dataImage "data:image/png;base64,BAUG"))) ↔
      AtImages ImagesAlike (imageRequest (dataImage "data:image/png;base64,AQID"))
        (imageRequest (dataImage "data:image/png;base64,BAUG")) :=
  stored_images_alike_iff imageDigests _ _ (by rw [SameButPayloads]; decide +kernel)

/-- Payloads of plain form are stored as they are. -/
theorem plain_payload_stored : ¬∀ (floats : FloatText) (digests : ImageDigests) (left right : Value),
      validateChatCompletionRequest floats left = .ok () → validateChatCompletionRequest floats right = .ok () →
        SameButPayloads left right →
          SameButDigests (storedChatRequest digests left) (storedChatRequest digests right) := by
  intro alike
  have shown := alike (fun _ => "") imageDigests (imageRequest (.string "AQID")) (imageRequest (.string "BAUG"))
    (by decide +kernel) (by decide +kernel) (by rw [SameButPayloads]; decide +kernel)
  rw [SameButDigests] at shown
  exact absurd shown (by decide +kernel)

end Vifu.Server
