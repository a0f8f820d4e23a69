import Mathlib.Algebra.GroupWithZero.Nat
import Mathlib.Data.String.Basic
import Vifu.Runtime.Value

/-!
# JSON objects and their compact text

An object is a list of fields in key order, as `serde_json::Map` keeps them in a `BTreeMap`.  The
compact writer below is the one of `serde_json::to_vec`; only how it prints a float is left open.
-/

namespace Vifu.Runtime

/-- `isize::MAX`, which bounds the bytes of every text. -/
def isizeMax : ℕ := 9223372036854775807

/-- How the writer prints the `f64` with the given bits. -/
abbrev FloatText := UInt64 → String

/-! ## Fields of an object -/

/-- `Map::get`. -/
def getField (key : String) (fields : List (String × Value)) : Option Value := fields.lookup key

/-- `Map::insert`: the value of a key that is there is replaced. -/
def insertField (key : String) (value : Value) : List (String × Value) → List (String × Value)
  | [] => [(key, value)]
  | field :: fields =>
    if field.1 < key then field :: insertField key value fields
    else if field.1 = key then (key, value) :: fields
    else (key, value) :: field :: fields

section

-- derives the equations once, so that the lemmas below find them ready
attribute [local simp] insertField

end

def Sorted (fields : List (String × Value)) : Prop := fields.Pairwise fun field later => field.1 < later.1

variable {fields : List (String × Value)} {value : Value} {key : String} {field : String × Value} {other : String}
  {values : List Value} {held : Value}

theorem insertField_last
    (below : ∀ field ∈ fields, field.1 < key) : insertField key value fields = fields ++ [(key, value)] := by
  induction fields with
  | nil => rfl
  | cons field fields ih =>
    rw [List.forall_mem_cons] at below
    simp [insertField, below.1, ih below.2]

theorem insertField_present (sorted : Sorted fields) (present : ∃ field ∈ fields, field.1 = key) :
    insertField key value fields = fields.map fun field => if field.1 = key then (key, value) else field := by
  induction fields with
  | nil => simp at present
  | cons field fields ih =>
    rw [Sorted, List.pairwise_cons] at sorted
    by_cases same : field.1 = key
    · have others : ∀ later ∈ fields, later.1 ≠ key := fun later mem =>
        same ▸ (sorted.1 later mem).ne'
      have kept : fields.map (fun later => if later.1 = key then (key, value) else later) = fields := by
        conv_rhs => rw [← List.map_id fields]
        apply List.map_congr_left
        intro later mem
        simp [others later mem]
      simp [insertField, same, kept]
    · obtain ⟨found, mem, holds⟩ := present
      rw [List.mem_cons] at mem
      have later : found ∈ fields := mem.resolve_left fun equal => same (equal ▸ holds)
      have below : field.1 < key := holds ▸ sorted.1 found later
      simp [insertField, below, same, ih sorted.2 ⟨found, later, holds⟩]

theorem insertField_absent_length
    (absent : ∀ field ∈ fields, field.1 ≠ key) : (insertField key value fields).length = fields.length + 1 := by
  induction fields with
  | nil => rfl
  | cons field fields ih =>
    rw [List.forall_mem_cons] at absent
    by_cases below : field.1 < key
    · simp [insertField, below, ih absent.2]
    · simp [insertField, below, absent.1]

theorem mem_insertField
    (mem : field ∈ insertField key value fields) : field = (key, value) ∨ field ∈ fields := by
  induction fields with
  | nil => simpa [insertField] using mem
  | cons head fields ih =>
    simp only [insertField] at mem
    split at mem
    · rw [List.mem_cons] at mem
      cases mem with
      | inl isHead => simp [isHead]
      | inr later => cases ih later <;> simp [*]
    · split at mem
      · rw [List.mem_cons] at mem
        cases mem <;> simp [*]
      · simpa using mem

theorem mem_insertField_self : (key, value) ∈ insertField key value fields := by
  induction fields with
  | nil => simp [insertField]
  | cons head fields ih =>
    simp only [insertField]
    split
    · exact List.mem_cons_of_mem _ ih
    · split <;> simp

theorem mem_insertField_of_ne (mem : field ∈ fields) (other : field.1 ≠ key) :
    field ∈ insertField key value fields := by
  induction fields with
  | nil => cases mem
  | cons head fields ih =>
    simp only [insertField]
    rw [List.mem_cons] at mem
    split
    · rw [List.mem_cons]
      exact mem.imp_right ih
    · split
      · next same =>
        apply List.mem_cons_of_mem
        apply mem.resolve_left
        intro isHead
        exact other (isHead ▸ same)
      · exact List.mem_cons_of_mem _ (List.mem_cons.mpr mem)

theorem sorted_insertField (sorted : Sorted fields) : Sorted (insertField key value fields) := by
  induction fields with
  | nil => simp [insertField, Sorted]
  | cons head fields ih =>
    rw [Sorted, List.pairwise_cons] at sorted
    simp only [insertField]
    split
    · next below =>
      rw [Sorted, List.pairwise_cons]
      refine ⟨?_, ih sorted.2⟩
      intro later mem
      cases mem_insertField mem with
      | inl isNew => simpa [isNew] using below
      | inr isOld => exact sorted.1 later isOld
    · next notBelow =>
      split
      · next same => exact List.pairwise_cons.mpr ⟨fun later mem => same ▸ sorted.1 later mem, sorted.2⟩
      · next other =>
        have above : key < head.1 := lt_of_le_of_ne (not_lt.mp notBelow) (Ne.symm other)
        refine List.pairwise_cons.mpr ⟨?_, List.pairwise_cons.mpr sorted⟩
        intro later mem
        rw [List.mem_cons] at mem
        cases mem with
        | inl isHead => simpa [isHead] using above
        | inr isLater => exact above.trans (sorted.1 later isLater)

theorem insertField_insertField {value old : Value} :
    insertField key value (insertField key old fields) = insertField key value fields := by
  induction fields with
  | nil => simp [insertField]
  | cons head fields ih =>
    by_cases below : head.1 < key
    · simp [insertField, below, ih]
    · by_cases same : head.1 = key
      · simp [insertField, same]
      · simp [insertField, below, same]

theorem insertField_comm_of_lt (less : key < other) :
    insertField key value (insertField other held fields) = insertField other held (insertField key value fields) := by
  induction fields with
  | nil => simp [insertField, less, lt_asymm less, ne_of_gt less]
  | cons head fields ih =>
    rcases lt_trichotomy head.1 key with below | same | above
    · simp [insertField, below, lt_trans below less, ih]
    · simp [insertField, same, less]
    · have notKey : head.1 ≠ key := ne_of_gt above
      rcases lt_trichotomy head.1 other with belowOther | sameOther | aboveOther
      · simp [insertField, lt_asymm above, notKey, belowOther, less]
      · simp [insertField, sameOther, less, lt_asymm less, ne_of_gt less]
      · simp [insertField, lt_asymm above, notKey, lt_asymm aboveOther, ne_of_gt aboveOther, less, lt_asymm less,
          ne_of_gt less]

theorem insertField_comm (different : key ≠ other) :
    insertField key value (insertField other held fields) = insertField other held (insertField key value fields) := by
  rcases lt_or_gt_of_ne different with less | greater
  · exact insertField_comm_of_lt less
  · exact (insertField_comm_of_lt greater).symm

theorem getField_insertField : getField key (insertField key value fields) = some value := by
  induction fields with
  | nil => simp [insertField, getField]
  | cons head fields ih =>
    by_cases below : head.1 < key
    · have different : (key == head.1) = false := beq_eq_false_iff_ne.mpr (ne_of_gt below)
      rw [insertField, if_pos below, getField, List.lookup_cons, different]
      exact ih
    · by_cases same : head.1 = key
      · simp [insertField, same, getField]
      · simp [insertField, below, same, getField]

theorem getField_insertField_of_ne
    (different : key ≠ other) : getField key (insertField other value fields) = getField key fields := by
  have misses : (key == other) = false := beq_eq_false_iff_ne.mpr different
  induction fields with
  | nil => simp [insertField, getField, List.lookup_cons, misses]
  | cons field fields ih =>
    obtain ⟨name, held⟩ := field
    rw [getField] at ih
    by_cases below : name < other
    · simp [insertField, below, getField, List.lookup_cons, ih]
    · by_cases same : name = other
      · simp [insertField, same, getField, List.lookup_cons, misses]
      · simp [insertField, below, same, getField, List.lookup_cons, misses]

theorem mem_of_getField (found : getField key fields = some value) : (key, value) ∈ fields := by
  obtain ⟨before, after, rfl, -⟩ := List.lookup_eq_some_iff.mp found
  simp

theorem getField_eq_some (sorted : Sorted fields) : getField key fields = some value ↔ (key, value) ∈ fields := by
  induction fields with
  | nil => simp [getField]
  | cons head fields ih =>
    rw [Sorted, List.pairwise_cons] at sorted
    have rest := ih sorted.2
    rw [getField, List.lookup_cons, List.mem_cons]
    by_cases same : key = head.1
    · have others : (key, value) ∉ fields := fun mem => (sorted.1 _ mem).ne same.symm
      simp [same, Prod.ext_iff, eq_comm] at others ⊢
      simp [others]
    · rw [beq_eq_false_iff_ne.mpr same]
      simp only [Prod.ext_iff, same, false_and, false_or]
      exact rest

theorem mem_insertField_iff (sorted : Sorted fields) :
    field ∈ insertField key value fields ↔ field = (key, value) ∨ field ∈ fields ∧ field.1 ≠ key := by
  constructor
  · intro mem
    by_cases same : field.1 = key
    · have found := (getField_eq_some (sorted_insertField sorted)).mpr (same ▸ mem)
      rw [(getField_eq_some (sorted_insertField sorted)).mpr mem_insertField_self, Option.some.injEq] at found
      exact Or.inl (Prod.ext same found.symm)
    · cases mem_insertField mem with
      | inl isNew => exact Or.inl isNew
      | inr isOld => exact Or.inr ⟨isOld, same⟩
  · intro mem
    cases mem with
    | inl isNew => exact isNew ▸ mem_insertField_self
    | inr isOld => exact mem_insertField_of_ne isOld.1 isOld.2

/-! ## Compact texts -/

def hexDigit (digit : ℕ) : Char := "0123456789abcdef".toList.getD digit '0'

/-- `format_escaped_str_contents` at one character. -/
def escapeCharacter (character : Char) : List Char :=
  match character.toNat with
  | 0x22 => ['\\', '"']
  | 0x5c => ['\\', '\\']
  | 0x08 => ['\\', 'b']
  | 0x0c => ['\\', 'f']
  | 0x0a => ['\\', 'n']
  | 0x0d => ['\\', 'r']
  | 0x09 => ['\\', 't']
  | code =>
    if code < 0x20 then ['\\', 'u', '0', '0', hexDigit (code / 16), hexDigit (code % 16)] else [character]

def quoted (text : String) : String := "\"" ++ .ofList (text.toList.flatMap escapeCharacter) ++ "\""

def Number.text (floats : FloatText) : Number → String
  | .posInt value => toString value
  | .negInt value => toString value
  | .float bits => floats bits

namespace Value

mutual

/-- The text that `serde_json::to_vec` writes. -/
def text (floats : FloatText) : Value → String
  | .null => "null"
  | .bool value => if value then "true" else "false"
  | .number value => value.text floats
  | .string value => quoted value
  | .array values => "[" ++ itemsText floats values ++ "]"
  | .object fields => "\x7b" ++ fieldsText floats fields ++ "\x7d"

def itemsText (floats : FloatText) : List Value → String
  | [] => ""
  | [value] => text floats value
  | value :: next :: values => text floats value ++ "," ++ itemsText floats (next :: values)

def fieldsText (floats : FloatText) : List (String × Value) → String
  | [] => ""
  | [(key, value)] => quoted key ++ ":" ++ text floats value
  | (key, value) :: next :: fields =>
    quoted key ++ ":" ++ text floats value ++ "," ++ fieldsText floats (next :: fields)

end

/-- The length of what `serde_json::to_vec` writes. -/
def encodedSize (floats : FloatText) (value : Value) : ℕ := (value.text floats).utf8ByteSize

def fieldSize (floats : FloatText) (field : String × Value) : ℕ :=
  (quoted field.1).utf8ByteSize + field.2.encodedSize floats + 2

theorem fieldsText_size (floats : FloatText) : ∀ fields : List (String × Value),
    (fieldsText floats fields).utf8ByteSize = (fields.map (fieldSize floats)).sum - 1
  | [] => rfl
  | [(key, value)] => by
    have colon : ":".utf8ByteSize = 1 := rfl
    simp only [fieldsText, String.utf8ByteSize_append, colon, List.map_cons, List.map_nil, List.sum_cons,
      List.sum_nil, fieldSize, encodedSize]
    omega
  | (key, value) :: next :: fields => by
    have rest := fieldsText_size floats (next :: fields)
    have separators : ":".utf8ByteSize = 1 ∧ ",".utf8ByteSize = 1 := ⟨rfl, rfl⟩
    simp only [fieldsText, String.utf8ByteSize_append, separators, rest, List.map_cons, List.sum_cons, fieldSize,
      encodedSize]
    omega

theorem itemsText_size (floats : FloatText) : ∀ values : List Value,
    (itemsText floats values).utf8ByteSize = (values.map fun value => value.encodedSize floats + 1).sum - 1
  | [] => rfl
  | [value] => by simp [itemsText, encodedSize]
  | value :: next :: values => by
    have rest := itemsText_size floats (next :: values)
    have comma : ",".utf8ByteSize = 1 := rfl
    simp only [itemsText, String.utf8ByteSize_append, comma, rest, List.map_cons, List.sum_cons, encodedSize]
    omega

theorem encodedSize_object (floats : FloatText) (fields : List (String × Value)) :
    (Value.object fields).encodedSize floats = (fields.map (fieldSize floats)).sum - 1 + 2 := by
  have braces : "\x7b".utf8ByteSize = 1 ∧ "\x7d".utf8ByteSize = 1 := ⟨rfl, rfl⟩
  rw [encodedSize, text, String.utf8ByteSize_append, String.utf8ByteSize_append, fieldsText_size, braces.2]
  omega

theorem encodedSize_array (floats : FloatText) (values : List Value) : (Value.array values).encodedSize floats =
      (values.map fun value => value.encodedSize floats + 1).sum - 1 + 2 := by
  have brackets : "[".utf8ByteSize = 1 ∧ "]".utf8ByteSize = 1 := ⟨rfl, rfl⟩
  rw [encodedSize, text, String.utf8ByteSize_append, String.utf8ByteSize_append, itemsText_size, brackets.1,
    brackets.2]
  omega

/-! ## Values that the program can hold -/

mutual

/-- The fields of every object stand in key order, and no text is larger than memory. -/
def WellFormed : Value → Prop
  | .null | .bool _ | .number _ => True
  | .string value => value.utf8ByteSize ≤ isizeMax
  | .array values => ItemsWellFormed values
  | .object fields => Sorted fields ∧ FieldsWellFormed fields

def ItemsWellFormed : List Value → Prop
  | [] => True
  | value :: values => WellFormed value ∧ ItemsWellFormed values

def FieldsWellFormed : List (String × Value) → Prop
  | [] => True
  | (_, value) :: fields => WellFormed value ∧ FieldsWellFormed fields

end

theorem itemsWellFormed_iff : ItemsWellFormed values ↔ ∀ value ∈ values, value.WellFormed := by
  induction values with
  | nil => simp [ItemsWellFormed]
  | cons value values ih => simp [ItemsWellFormed, ih]

theorem fieldsWellFormed_iff : FieldsWellFormed fields ↔ ∀ field ∈ fields, field.2.WellFormed := by
  induction fields with
  | nil => simp [FieldsWellFormed]
  | cons field fields ih =>
    simp [FieldsWellFormed, ih]

@[simp] theorem wellFormed_string {value : String} :
    (Value.string value).WellFormed ↔ value.utf8ByteSize ≤ isizeMax := by rw [WellFormed]

@[simp] theorem wellFormed_array : (Value.array values).WellFormed ↔ ∀ value ∈ values, value.WellFormed := by
  rw [WellFormed, itemsWellFormed_iff]

@[simp] theorem wellFormed_object :
    (Value.object fields).WellFormed ↔ Sorted fields ∧ ∀ field ∈ fields, field.2.WellFormed := by
  rw [WellFormed, fieldsWellFormed_iff]

/-- `Value::Object(_) | Value::Array(_)`. -/
def isContainer : Value → Bool
  | .object _ | .array _ => true
  | .null | .bool _ | .number _ | .string _ => false

def asBool : Value → Option Bool
  | .bool value => some value
  | .null | .number _ | .string _ | .array _ | .object _ => none

def asStr : Value → Option String
  | .string value => some value
  | .null | .bool _ | .number _ | .array _ | .object _ => none

def asArray : Value → Option (List Value)
  | .array values => some values
  | .null | .bool _ | .number _ | .string _ | .object _ => none

/-- `Value::get` by a key. -/
def get? (key : String) : Value → Option Value
  | .object fields => getField key fields
  | .null | .bool _ | .number _ | .string _ | .array _ => none

end Value

end Vifu.Runtime
