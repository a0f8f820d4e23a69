import Mathlib.Data.List.DropRight
import Mathlib.Data.List.Infix
import Vifu.Runtime.Identifier
import Vifu.Runtime.Json

/-!
# Redaction of trace inputs and outputs

`redact_trace_io_value` cuts a JSON value down to what a trace may show.  It is modelled as the
function from a value to what is left of it and whether anything was replaced or cut, which the
source collects in a flag passed by reference.  `Reached` says which parts of a value the function
gets to; the later modules decide their questions by looking at those parts.
-/

namespace Vifu.Gateway

open Vifu.Runtime

def maxTraceIoSummaryBytes : ℕ := 131072
def maxTraceIoDepth : ℕ := 5
def maxTraceIoItems : ℕ := 128
def maxTraceIoStringChars : ℕ := 98304

def isJsonSpace (character : Char) : Bool :=
  character == ' ' || character == '\n' || character == '\r' || character == '\t'

def opensJson (character : Char) : Bool :=
  character.isDigit || "-\"tfn[\x7b".toList.contains character

def closesJson (character : Char) : Bool :=
  character.isDigit || "\"el]\x7d".toList.contains character

/-- `serde_json::from_str` at `Value`, which comes from outside the repository. -/
structure JsonParser where
  fromStr : String → Option Value

/-- What the JSON grammar and the type of its result say of `from_str`. -/
structure JsonParser.Lawful (parser : JsonParser) : Prop where
  wellFormed : ∀ {text value}, parser.fromStr text = some value → value.WellFormed
  opens : ∀ {text value}, parser.fromStr text = some value →
    (text.toList.dropWhile isJsonSpace).head?.any opensJson = true
  closes : ∀ {text value}, parser.fromStr text = some value →
    (text.toList.rdropWhile isJsonSpace).getLast?.any closesJson = true
  items : ∀ {text value rest}, parser.fromStr text = some value → text.toList = '[' :: rest →
    (rest.dropWhile isJsonSpace).head?.any (fun character => character == ']' || opensJson character) = true

/-! ## Detectors -/

/-- The characters of `trim().to_ascii_lowercase()`. -/
def normalizedText (text : String) : List Char := (toAsciiLowercase (trim text)).toList

/-- The ASCII letters and digits of a key, in lower case. -/
def normalizedKey (key : String) : List Char := (key.toList.filter Char.isAlphanum).map Char.toLower

def sensitiveMarkers : List String :=
  ["authorization:", "authorization=", "bearer ", "basic ", "api_key=", "api-key=", "apikey=",
    "access_token=", "refresh_token=", "token=", "password=", "password:", "secret=", "secret:",
    "credential=", "cookie:", "session="]

def traceSensitiveValueString (value : String) : Bool :=
  sensitiveMarkers.any fun marker => marker.toList <:+: normalizedText value

def sensitiveKeys : List String :=
  ["authorization", "apikey", "accesstoken", "refreshtoken", "token", "secret", "password",
    "credential", "cookie", "session", "sessionid"]

def traceSensitiveKey (key : String) : Bool :=
  sensitiveKeys.any fun candidate =>
    normalizedKey key == candidate.toList || decide (candidate.toList <:+ normalizedKey key)

def traceMediaOrBinaryKey (key : String) : Bool :=
  normalizedKey key == "data".toList ||
    ["image", "audio", "media", "binary", "base64"].any fun marker => marker.toList <:+: normalizedKey key

/-- Every byte of a character outside ASCII is outside the alphabet. -/
def traceLooksLikeBase64 (value : String) : Bool :=
  let compact := trim value
  decide (128 ≤ compact.utf8ByteSize) && compact.utf8ByteSize % 4 == 0 &&
    compact.toList.all fun character =>
      character.isAlphanum || character == '+' || character == '/' || character == '='

/-- `text.trim_start().to_ascii_lowercase().starts_with("data:")`. -/
def startsWithData (text : String) : Bool :=
  "data:".toList <+: (text.toList.dropWhile isWhitespace).map Char.toLower

def canonicalTracePlaceholder (value : String) : Bool :=
  value == "[REDACTED]" || value == "[REDACTED sensitive value]" ||
    value == "<_vifuBinary object omitted>" || value == "<more fields>" ||
    (decide (['<'] <+: value.toList) && decide (" omitted>".toList <:+ value.toList)) ||
    (decide ("<media/binary omitted: ".toList <+: value.toList) && decide (" chars>".toList <:+ value.toList))

def traceToolCallContainer (depth : ℕ) (keyHint : Option String) : Bool :=
  match keyHint with
  | none => false
  | some key =>
    let name := toAsciiLowercase key
    if name = "tool_calls" ∨ name = "toolcalls" then depth == 5
    else if name = "function" then decide (depth ≤ 6)
    else if name = "arguments" ∨ name = "args" then decide (depth ≤ 7)
    else false

def traceToolCallArgumentsKey (key : String) : Bool :=
  toAsciiLowercase key == "arguments" || toAsciiLowercase key == "args"

def traceValueShape : Value → String
  | .null => "null"
  | .bool _ => "boolean"
  | .number _ => "number"
  | .string _ => "string"
  | .array _ => "array"
  | .object _ => "object"

/-! ## Redaction -/

def omitted (depth : ℕ) (keyHint : Option String) (value : Value) : Bool :=
  decide (maxTraceIoDepth ≤ depth) && value.isContainer && !traceToolCallContainer depth keyHint

def isBinary (fields : List (String × Value)) : Bool :=
  (getField "_vifuBinary" fields).any fun marker => marker.asBool == some true || marker != .null

/-- What the arguments of a tool call say, where they are the text of a container. -/
def toolCallArguments (parser : JsonParser) (keyHint : Option String) (text : String) : Option Value :=
  if keyHint.any traceToolCallArgumentsKey then (parser.fromStr text).filter Value.isContainer else none

def isMedia (keyHint : Option String) (text : String) : Bool :=
  keyHint.any traceMediaOrBinaryKey || startsWithData text || traceLooksLikeBase64 text

def cutSuffix (text : String) : String := "… <" ++ toString text.length ++ " chars total>"

def cutText (text : String) : String :=
  .ofList (text.toList.take (maxTraceIoStringChars - (cutSuffix text).length)) ++ cutSuffix text

/-- The part of `redact_trace_io_value` on texts that are not the arguments of a tool call. -/
def redactText (keyHint : Option String) (text : String) : Value × Bool :=
  if canonicalTracePlaceholder text then (.string text, true)
  else if traceSensitiveValueString text then (.string "[REDACTED sensitive value]", true)
  else if isMedia keyHint text then
    (.string ("<media/binary omitted: " ++ toString text.length ++ " chars>"), true)
  else if maxTraceIoStringChars ≤ text.length then
    if text.length = maxTraceIoStringChars then (.string text, true) else (.string (cutText text), true)
  else (.string text, false)

variable {text : String} {decoded : Value} {keyHint : Option String} {value : Value} {parser : JsonParser}

theorem isContainer_of_toolCallArguments (reads : toolCallArguments parser keyHint text = some decoded) :
    decoded.isContainer = true := by
  rw [toolCallArguments] at reads
  split at reads
  · exact (Option.filter_eq_some_iff.mp reads).2
  · simp at reads

theorem fromStr_of_toolCallArguments (reads : toolCallArguments parser keyHint text = some decoded) :
    parser.fromStr text = some decoded := by
  rw [toolCallArguments] at reads
  split at reads
  · exact (Option.filter_eq_some_iff.mp reads).1
  · simp at reads

theorem depth_lt_of_shown {depth : ℕ}
    (container : value.isContainer = true) (shown : ¬omitted depth keyHint value = true) : depth < 8 := by
  simp only [omitted, container, maxTraceIoDepth, traceToolCallContainer] at shown
  grind

/-- What is left of a value at a depth, and whether anything was replaced or cut. -/
def redactTraceIoValue (parser : JsonParser) (depth : ℕ) (keyHint : Option String) (value : Value) :
    Value × Bool :=
  if shown : omitted depth keyHint value then
    (.string ("<" ++ traceValueShape value ++ " omitted>"), true)
  else
    match value with
    | .object fields =>
      if isBinary fields then (.string "<_vifuBinary object omitted>", true)
      else
        let redacted := (fields.take maxTraceIoItems).map fun field =>
          (field.1, if traceSensitiveKey field.1 then (.string "[REDACTED]", true)
            else redactTraceIoValue parser (depth + 1) (some field.1) field.2)
        let output := redacted.map fun field => (field.1, field.2.1)
        -- The loop stops at the first field that is too many, after it has left a mark.
        (.object (if maxTraceIoItems < fields.length then insertField "…" (.string "<more fields>") output
            else output),
          decide (maxTraceIoItems ≤ fields.length) || redacted.any fun field => field.2.2)
    | .array values =>
      let redacted := (values.take maxTraceIoItems).map fun value =>
        redactTraceIoValue parser (depth + 1) keyHint value
      (.array (redacted.map Prod.fst),
        decide (maxTraceIoItems ≤ values.length) || redacted.any Prod.snd)
    | .string text =>
      match _reads : toolCallArguments parser keyHint text with
      | some decoded => redactTraceIoValue parser depth keyHint decoded
      | none => redactText keyHint text
    | .null => (.null, false)
    | .bool value => (.bool value, false)
    | .number value => (.number value, false)
termination_by 2 * (8 - depth) + (if value.isContainer then 0 else 1)
decreasing_by
  · have := depth_lt_of_shown rfl shown
    simp only [Value.isContainer]
    grind
  · have := depth_lt_of_shown rfl shown
    simp only [Value.isContainer]
    grind
  · rw [if_pos (isContainer_of_toolCallArguments _reads)]
    simp [Value.isContainer]

variable {fields : List (String × Value)} {values : List Value}

section

variable {depth : ℕ}

def redactField (parser : JsonParser) (depth : ℕ) (field : String × Value) : Value × Bool :=
  if traceSensitiveKey field.1 then (.string "[REDACTED]", true)
  else redactTraceIoValue parser (depth + 1) (some field.1) field.2

def redactFields (parser : JsonParser) (depth : ℕ) (fields : List (String × Value)) : List (String × Value) :=
  fields.map fun field => (field.1, (redactField parser depth field).1)

/-- The fields of a redacted object, with a mark where some are left out. -/
def outputFields (parser : JsonParser) (depth : ℕ) (fields : List (String × Value)) : List (String × Value) :=
  if maxTraceIoItems < fields.length then
    insertField "…" (.string "<more fields>") (redactFields parser depth (fields.take maxTraceIoItems))
  else redactFields parser depth fields

theorem redact_omitted (isOmitted : omitted depth keyHint value = true) :
    redactTraceIoValue parser depth keyHint value =
      (.string ("<" ++ traceValueShape value ++ " omitted>"), true) := by
  rw [redactTraceIoValue, dif_pos isOmitted]

theorem redact_binary (shown : ¬omitted depth keyHint (.object fields) = true) (binary : isBinary fields = true) :
    redactTraceIoValue parser depth keyHint (.object fields) =
      (.string "<_vifuBinary object omitted>", true) := by
  rw [redactTraceIoValue, dif_neg shown]
  simp [binary]

theorem redact_object (shown : ¬omitted depth keyHint (.object fields) = true) (plain : ¬isBinary fields = true) :
    redactTraceIoValue parser depth keyHint (.object fields) =
      (.object (outputFields parser depth fields),
        decide (maxTraceIoItems ≤ fields.length) ||
          (fields.take maxTraceIoItems).any fun field => (redactField parser depth field).2) := by
  rw [redactTraceIoValue, dif_neg shown]
  by_cases many : maxTraceIoItems < fields.length
  · simp [plain, outputFields, redactFields, redactField, Function.comp_def, many, -List.map_take]
  · simp [plain, outputFields, redactFields, redactField, Function.comp_def, many,
      List.take_of_length_le (not_lt.mp many)]

theorem redact_array (shown : ¬omitted depth keyHint (.array values) = true) :
    redactTraceIoValue parser depth keyHint (.array values) =
      (.array ((values.take maxTraceIoItems).map fun value =>
          (redactTraceIoValue parser (depth + 1) keyHint value).1),
        decide (maxTraceIoItems ≤ values.length) || (values.take maxTraceIoItems).any fun value =>
          (redactTraceIoValue parser (depth + 1) keyHint value).2) := by
  rw [redactTraceIoValue, dif_neg shown]
  simp [Function.comp_def, -List.map_take]

theorem redact_arguments (reads : toolCallArguments parser keyHint text = some decoded) :
    redactTraceIoValue parser depth keyHint (.string text) =
      redactTraceIoValue parser depth keyHint decoded := by
  rw [redactTraceIoValue, dif_neg (by simp [omitted, Value.isContainer])]
  dsimp only
  split
  · simp_all
  · simp_all

theorem redact_text (reads : toolCallArguments parser keyHint text = none) :
    redactTraceIoValue parser depth keyHint (.string text) = redactText keyHint text := by
  rw [redactTraceIoValue, dif_neg (by simp [omitted, Value.isContainer])]
  dsimp only
  split
  · simp_all
  · rfl

@[simp] theorem redact_null : redactTraceIoValue parser depth keyHint .null = (.null, false) := by
  rw [redactTraceIoValue, dif_neg (by simp [omitted, Value.isContainer])]

@[simp] theorem redact_bool {value : Bool} :
    redactTraceIoValue parser depth keyHint (.bool value) = (.bool value, false) := by
  rw [redactTraceIoValue, dif_neg (by simp [omitted, Value.isContainer])]

@[simp] theorem redact_number {value : Number} :
    redactTraceIoValue parser depth keyHint (.number value) = (.number value, false) := by
  rw [redactTraceIoValue, dif_neg (by simp [omitted, Value.isContainer])]

end

/-! ## Parts that redaction gets to -/

/-- The fields of which something is left: the mark takes the place of a field of its name. -/
def keptFields (fields : List (String × Value)) : List (String × Value) :=
  (fields.take maxTraceIoItems).filter fun field =>
    decide (fields.length ≤ maxTraceIoItems) || field.1 != "…"

/-- Redaction of the first value, at its depth and under its key, gets to the second. -/
inductive Reached (parser : JsonParser) :
    ℕ → Option String → Value → ℕ → Option String → Value → Prop where
  | here {depth keyHint value} : Reached parser depth keyHint value depth keyHint value
  | field {depth keyHint fields field partDepth partHint part}
      (shown : ¬omitted depth keyHint (.object fields) = true) (plain : ¬isBinary fields = true)
      (member : field ∈ keptFields fields) (harmless : ¬traceSensitiveKey field.1 = true)
      (inside : Reached parser (depth + 1) (some field.1) field.2 partDepth partHint part) :
      Reached parser depth keyHint (.object fields) partDepth partHint part
  | item {depth keyHint values value partDepth partHint part}
      (shown : ¬omitted depth keyHint (.array values) = true) (member : value ∈ values.take maxTraceIoItems)
      (inside : Reached parser (depth + 1) keyHint value partDepth partHint part) :
      Reached parser depth keyHint (.array values) partDepth partHint part
  | arguments {depth keyHint text decoded partDepth partHint part}
      (reads : toolCallArguments parser keyHint text = some decoded)
      (inside : Reached parser depth keyHint decoded partDepth partHint part) :
      Reached parser depth keyHint (.string text) partDepth partHint part

section

variable {depth : ℕ} {Holds : ℕ → Option String → Value → Prop}

theorem reached_omitted (isOmitted : omitted depth keyHint value = true) :
    (∀ partDepth partHint part, Reached parser depth keyHint value partDepth partHint part →
      Holds partDepth partHint part) ↔ Holds depth keyHint value := by
  constructor
  · intro all
    exact all _ _ _ .here
  · intro holds partDepth partHint part reached
    cases reached with
    | here => exact holds
    | field shown => exact absurd isOmitted shown
    | item shown => exact absurd isOmitted shown
    | arguments => simp [omitted, Value.isContainer] at isOmitted

theorem reached_scalar (closed : value.isContainer = false) (noText : ∀ text, value ≠ .string text) :
    (∀ partDepth partHint part, Reached parser depth keyHint value partDepth partHint part →
      Holds partDepth partHint part) ↔ Holds depth keyHint value := by
  constructor
  · intro all
    exact all _ _ _ .here
  · intro holds partDepth partHint part reached
    cases reached with
    | here => exact holds
    | field => simp [Value.isContainer] at closed
    | item => simp [Value.isContainer] at closed
    | arguments => simp at noText

theorem reached_binary (binary : isBinary fields = true) :
    (∀ partDepth partHint part, Reached parser depth keyHint (.object fields) partDepth partHint part →
      Holds partDepth partHint part) ↔ Holds depth keyHint (.object fields) := by
  constructor
  · intro all
    exact all _ _ _ .here
  · intro holds partDepth partHint part reached
    cases reached with
    | here => exact holds
    | field _ plain => exact absurd binary plain

theorem reached_object (shown : ¬omitted depth keyHint (.object fields) = true) (plain : ¬isBinary fields = true) :
    (∀ partDepth partHint part, Reached parser depth keyHint (.object fields) partDepth partHint part →
      Holds partDepth partHint part) ↔
      Holds depth keyHint (.object fields) ∧ ∀ field ∈ keptFields fields, ¬traceSensitiveKey field.1 = true →
        ∀ partDepth partHint part, Reached parser (depth + 1) (some field.1) field.2 partDepth partHint part →
          Holds partDepth partHint part := by
  constructor
  · intro all
    exact ⟨all _ _ _ .here, fun field mem harmless _ _ _ inside =>
      all _ _ _ (.field shown plain mem harmless inside)⟩
  · intro holds partDepth partHint part reached
    cases reached with
    | here => exact holds.1
    | field _ _ mem harmless inside => exact holds.2 _ mem harmless _ _ _ inside

theorem reached_array (shown : ¬omitted depth keyHint (.array values) = true) :
    (∀ partDepth partHint part, Reached parser depth keyHint (.array values) partDepth partHint part →
      Holds partDepth partHint part) ↔
      Holds depth keyHint (.array values) ∧ ∀ value ∈ values.take maxTraceIoItems,
        ∀ partDepth partHint part, Reached parser (depth + 1) keyHint value partDepth partHint part →
          Holds partDepth partHint part := by
  constructor
  · intro all
    exact ⟨all _ _ _ .here, fun value mem _ _ _ inside => all _ _ _ (.item shown mem inside)⟩
  · intro holds partDepth partHint part reached
    cases reached with
    | here => exact holds.1
    | item _ mem inside => exact holds.2 _ mem _ _ _ inside

theorem reached_arguments (reads : toolCallArguments parser keyHint text = some decoded) :
    (∀ partDepth partHint part, Reached parser depth keyHint (.string text) partDepth partHint part →
      Holds partDepth partHint part) ↔
      Holds depth keyHint (.string text) ∧ ∀ partDepth partHint part,
        Reached parser depth keyHint decoded partDepth partHint part → Holds partDepth partHint part := by
  constructor
  · intro all
    exact ⟨all _ _ _ .here, fun _ _ _ inside => all _ _ _ (.arguments reads inside)⟩
  · intro holds partDepth partHint part reached
    cases reached with
    | here => exact holds.1
    | arguments same inside =>
      rw [reads, Option.some.injEq] at same
      subst same
      exact holds.2 _ _ _ inside

theorem reached_text (reads : toolCallArguments parser keyHint text = none) :
    (∀ partDepth partHint part, Reached parser depth keyHint (.string text) partDepth partHint part →
      Holds partDepth partHint part) ↔ Holds depth keyHint (.string text) := by
  constructor
  · intro all
    exact all _ _ _ .here
  · intro holds partDepth partHint part reached
    cases reached with
    | here => exact holds
    | arguments same => simp [reads] at same

end

end Vifu.Gateway
