import Vifu.Foundation.Text
import Vifu.Runtime.Json

/-!
# Records as JSON values

What the derived serializers and deserializers of `serde` do with records.  A record is written as
an object whose optional fields are left out when they are empty.  It is read from an object that
has only known fields, none of them twice, or from an array of the fields in their order.
-/

namespace Vifu.Runtime

open Foundation

/-! ## Objects from fields in any order -/

/-- The object that a `BTreeMap` holds after the fields were inserted one after the other. -/
def sortFields (fields : List (String × Value)) : List (String × Value) :=
  fields.foldl (fun sorted field => insertField field.1 field.2 sorted) []

def Distinct {α : Type} (fields : List (String × α)) : Prop := (fields.map Prod.fst).Nodup

variable {fields sorted : List (String × Value)} {field : String × Value} {value : Value} {key : String}

theorem Sorted.distinct (sorted : Sorted fields) : Distinct fields := by
  rw [Distinct, List.Nodup, List.pairwise_map]
  exact sorted.imp fun below => below.ne

theorem getField_of_distinct (distinct : Distinct fields)
    : getField key fields = some value ↔ (key, value) ∈ fields := by
  constructor
  · exact mem_of_getField
  · intro mem
    induction fields with
    | nil => cases mem
    | cons field fields ih =>
      rw [Distinct, List.map_cons, List.nodup_cons] at distinct
      rw [getField, List.lookup_cons]
      rw [List.mem_cons] at mem
      cases mem with
      | inl isHead => simp [← isHead]
      | inr isLater =>
        have other : (key == field.1) = false := by
          rw [beq_eq_false_iff_ne]
          intro same
          exact distinct.1 (List.mem_map.mpr ⟨_, isLater, same⟩)
        rw [other]
        exact ih distinct.2 isLater

theorem sorted_foldl_insertField (isSorted : Sorted sorted) :
    Sorted (fields.foldl (fun sorted field => insertField field.1 field.2 sorted) sorted) := by
  induction fields generalizing sorted with
  | nil => exact isSorted
  | cons field fields ih => exact ih (sorted_insertField isSorted)

theorem sorted_sortFields (fields : List (String × Value)) : Sorted (sortFields fields) :=
  sorted_foldl_insertField List.Pairwise.nil

theorem mem_foldl_insertField (isSorted : Sorted sorted) (distinct : Distinct fields) :
    field ∈ fields.foldl (fun sorted field => insertField field.1 field.2 sorted) sorted ↔
      field ∈ fields ∨ field ∈ sorted ∧ field.1 ∉ fields.map Prod.fst := by
  induction fields generalizing sorted with
  | nil => simp
  | cons head fields ih =>
    rw [Distinct, List.map_cons, List.nodup_cons] at distinct
    rw [List.foldl_cons, ih (sorted_insertField isSorted) distinct.2, mem_insertField_iff isSorted]
    simp only [List.mem_cons, List.map_cons, not_or]
    constructor
    · rintro (isLater | ⟨rfl | ⟨isOld, other⟩, fresh⟩)
      · exact Or.inl (Or.inr isLater)
      · exact Or.inl (Or.inl rfl)
      · exact Or.inr ⟨isOld, other, fresh⟩
    · rintro ((rfl | isLater) | ⟨isOld, other, fresh⟩)
      · exact Or.inr ⟨Or.inl rfl, distinct.1⟩
      · exact Or.inl isLater
      · exact Or.inr ⟨Or.inr ⟨isOld, other⟩, fresh⟩

theorem mem_sortFields (distinct : Distinct fields) : field ∈ sortFields fields ↔ field ∈ fields := by
  rw [sortFields, mem_foldl_insertField List.Pairwise.nil distinct]
  simp

theorem getField_sortFields (distinct : Distinct fields) (key : String) :
    getField key (sortFields fields) = getField key fields := by
  apply Option.ext
  intro value
  rw [getField_eq_some (sorted_sortFields fields), mem_sortFields distinct, getField_of_distinct distinct]

theorem foldl_insertField_sorted {before fields : List (String × Value)} (sorted : Sorted (before ++ fields)) :
    fields.foldl (fun sorted field => insertField field.1 field.2 sorted) before = before ++ fields := by
  induction fields generalizing before with
  | nil => simp
  | cons field fields ih =>
    have last : insertField field.1 field.2 before = before ++ [field] := by
      apply insertField_last
      intro earlier mem
      exact (List.pairwise_append.mp sorted).2.2 earlier mem field List.mem_cons_self
    rw [List.foldl_cons, last, ih (by simpa using sorted)]
    simp

@[simp] theorem sortFields_of_sorted (sorted : Sorted fields) : sortFields fields = fields :=
  foldl_insertField_sorted sorted

theorem Sorted.ext {left right : List (String × Value)} (leftSorted : Sorted left) (rightSorted : Sorted right)
    (same : ∀ key, getField key left = getField key right) : left = right := by
  have members : ∀ field, field ∈ left ↔ field ∈ right := by
    intro field
    rw [← getField_eq_some leftSorted, same, getField_eq_some rightSorted]
  have nodup : ∀ {fields : List (String × Value)}, Sorted fields → fields.Nodup :=
    fun sorted => sorted.imp fun below same => below.ne (congrArg Prod.fst same)
  have perm : left.Perm right := (List.perm_ext_iff_of_nodup (nodup leftSorted) (nodup rightSorted)).mpr members
  exact perm.eq_of_pairwise (fun _ _ _ _ below above => absurd below above.asymm) leftSorted rightSorted

theorem encodedSize_sortFields (floats : FloatText) (distinct : Distinct fields) :
    (Value.object (sortFields fields)).encodedSize floats = (Value.object fields).encodedSize floats := by
  have perm : (sortFields fields).Perm fields := by
    apply (List.perm_ext_iff_of_nodup _ _).mpr fun field => mem_sortFields distinct
    · exact (sorted_sortFields fields).imp fun below same => below.ne (congrArg Prod.fst same)
    · exact (List.pairwise_map.mp distinct).imp fun other same => other (congrArg Prod.fst same)
  rw [Value.encodedSize_object, Value.encodedSize_object, (perm.map _).sum_nat]

/-! ## Values as a map holds them -/

mutual

/-- The value that `Value::deserialize` gives: every object is held in key order, and of fields with
the same key the last one. -/
def Value.normalized : Value → Value
  | .null => .null
  | .bool value => .bool value
  | .number value => .number value
  | .string value => .string value
  | .array values => .array (normalizedItems values)
  | .object fields => .object (sortFields (normalizedFields fields))

def normalizedItems : List Value → List Value
  | [] => []
  | value :: values => value.normalized :: normalizedItems values

def normalizedFields : List (String × Value) → List (String × Value)
  | [] => []
  | (key, value) :: fields => (key, value.normalized) :: normalizedFields fields

end

theorem normalizedFields_eq (fields : List (String × Value)) :
    normalizedFields fields = fields.map fun field => (field.1, field.2.normalized) := by
  induction fields with
  | nil => rfl
  | cons field fields ih => simp [normalizedFields, ih]

variable {change : Value → Value}

theorem getField_map (key : String) :
    getField key (fields.map fun field => (field.1, change field.2)) = (getField key fields).map change := by
  induction fields with
  | nil => rfl
  | cons field fields ih =>
    rw [getField] at ih ⊢
    rw [List.map_cons, List.lookup_cons, getField, List.lookup_cons, ih]
    split <;> rfl

theorem distinct_map : Distinct (fields.map fun field => (field.1, change field.2)) ↔ Distinct fields := by
  rw [Distinct, List.map_map]
  rfl

theorem map_insertField : (insertField key value fields).map (fun field => (field.1, change field.2)) =
      insertField key (change value) (fields.map fun field => (field.1, change field.2)) := by
  induction fields with
  | nil => rfl
  | cons field fields ih =>
    simp only [insertField, List.map_cons]
    split
    · simp [ih]
    · split <;> simp

theorem map_sortFields : (sortFields fields).map (fun field => (field.1, change field.2)) =
      sortFields (fields.map fun field => (field.1, change field.2)) := by
  have general : ∀ sorted : List (String × Value),
      (fields.foldl (fun sorted field => insertField field.1 field.2 sorted) sorted).map
          (fun field => (field.1, change field.2)) =
        (fields.map fun field => (field.1, change field.2)).foldl
          (fun sorted field => insertField field.1 field.2 sorted)
          (sorted.map fun field => (field.1, change field.2)) := by
    induction fields with
    | nil => simp
    | cons field fields ih =>
      intro sorted
      simp only [List.foldl_cons, List.map_cons, ih, map_insertField]
  exact general []

mutual

theorem Value.normalized_of_wellFormed : ∀ {value : Value}, value.WellFormed → value.normalized = value
  | .null, _ | .bool _, _ | .number _, _ | .string _, _ => rfl
  | .array values, wellFormed => by
    rw [Value.normalized, normalizedItems_of_wellFormed wellFormed]
  | .object fields, wellFormed => by
    rw [Value.normalized, normalizedFields_of_wellFormed wellFormed.2, sortFields_of_sorted wellFormed.1]

theorem normalizedItems_of_wellFormed : ∀ {values : List Value},
    Value.ItemsWellFormed values → normalizedItems values = values
  | [], _ => rfl
  | value :: values, wellFormed => by
    rw [normalizedItems, Value.normalized_of_wellFormed wellFormed.1, normalizedItems_of_wellFormed wellFormed.2]

theorem normalizedFields_of_wellFormed : ∀ {fields : List (String × Value)},
    Value.FieldsWellFormed fields → normalizedFields fields = fields
  | [], _ => rfl
  | (key, value) :: fields, wellFormed => by
    rw [normalizedFields, Value.normalized_of_wellFormed wellFormed.1, normalizedFields_of_wellFormed wellFormed.2]

end

mutual

theorem Value.normalized_normalized : ∀ value : Value, value.normalized.normalized = value.normalized
  | .null | .bool _ | .number _ | .string _ => rfl
  | .array values => by
    simp only [Value.normalized, normalizedItems_normalizedItems values]
  | .object fields => by
    simp only [Value.normalized]
    rw [normalizedFields_eq (sortFields _), map_sortFields, ← normalizedFields_eq,
      normalizedFields_normalizedFields fields, sortFields_of_sorted (sorted_sortFields _)]

theorem normalizedItems_normalizedItems : ∀ values : List Value,
    normalizedItems (normalizedItems values) = normalizedItems values
  | [] => rfl
  | value :: values => by
    simp only [normalizedItems, Value.normalized_normalized value, normalizedItems_normalizedItems values]

theorem normalizedFields_normalizedFields : ∀ fields : List (String × Value),
    normalizedFields (normalizedFields fields) = normalizedFields fields
  | [] => rfl
  | (key, value) :: fields => by
    simp only [normalizedFields, Value.normalized_normalized value, normalizedFields_normalizedFields fields]

end

/-! ## Records -/

/-- The fields of a record that are written: an empty option is left out. -/
def presentFields (fields : List (String × Option Value)) : List (String × Value) :=
  fields.filterMap fun field => field.2.map fun value => (field.1, value)

/-- `serde_json::to_value` of a record. -/
def recordValue (fields : List (String × Option Value)) : Value := .object (sortFields (presentFields fields))

/-- The fields that a record is read from.  The fields of an array have the names in their order. -/
def recordEntries (names : List String) : Value → Option (List (String × Value))
  | .object fields =>
    if (fields.map Prod.fst).Nodup ∧ ∀ field ∈ fields, field.1 ∈ names then some fields else none
  | .array values => if values.length ≤ names.length then some (names.zip values) else none
  | .null | .bool _ | .number _ | .string _ => none

theorem presentFields_keys (fields : List (String × Option Value)) :
    ((presentFields fields).map Prod.fst).Sublist (fields.map Prod.fst) := by
  induction fields with
  | nil => simp [presentFields]
  | cons field fields ih =>
    obtain ⟨key, _ | value⟩ := field
    · exact ih.cons key
    · exact ih.cons_cons key

variable {α : Type} {fields : List (String × Option Value)} {read : Value → Option α} {names : List String} {write : α → Value}
  {value : Option α}

theorem getField_presentFields (distinct : Distinct fields) (key : String) :
    getField key (presentFields fields) = (fields.lookup key).join := by
  induction fields with
  | nil => rfl
  | cons field fields ih =>
    rw [Distinct, List.map_cons, List.nodup_cons] at distinct
    have rest := ih distinct.2
    obtain ⟨name, _ | value⟩ := field
    · rw [List.lookup_cons]
      by_cases same : key = name
      · have absent : getField key (presentFields fields) = none := by
          rw [getField, List.lookup_eq_none_iff]
          intro other mem
          rw [bne_iff_ne]
          intro isKey
          apply distinct.1
          apply (presentFields_keys fields).subset
          exact List.mem_map.mpr ⟨other, mem, isKey ▸ same⟩
        simpa [same, presentFields] using absent
      · simpa [beq_eq_false_iff_ne.mpr same, presentFields] using rest
    · rw [List.lookup_cons]
      by_cases same : key = name
      · simp [same, presentFields, getField]
      · simpa [beq_eq_false_iff_ne.mpr same, presentFields, getField, List.lookup_cons] using rest

theorem recordEntries_object (known : fields.map Prod.fst = names) (distinct : names.Nodup) :
    recordEntries names (.object (presentFields fields)) = some (presentFields fields) := by
  have keys := presentFields_keys fields
  rw [known] at keys
  rw [recordEntries, if_pos ⟨distinct.sublist keys, fun field mem => keys.subset (List.mem_map_of_mem mem)⟩]

theorem recordEntries_recordValue (known : fields.map Prod.fst = names) (distinct : names.Nodup) :
    recordEntries names (recordValue fields) = some (sortFields (presentFields fields)) := by
  have keys := presentFields_keys fields
  rw [known] at keys
  have present : Distinct (presentFields fields) := distinct.sublist keys
  rw [recordValue, recordEntries, if_pos]
  refine ⟨(sorted_sortFields _).distinct, ?_⟩
  intro field mem
  exact keys.subset (List.mem_map_of_mem ((mem_sortFields present).mp mem))

theorem getField_recordValue (distinct : (fields.map Prod.fst).Nodup)
    (key : String) : getField key (sortFields (presentFields fields)) = (fields.lookup key).join := by
  have present : Distinct (presentFields fields) := distinct.sublist (presentFields_keys fields)
  rw [getField_sortFields present, getField_presentFields distinct]

/-! ## Fields of a record -/

def readOptional {α : Type} (read : Value → Option α) : Option Value → Option (Option α)
  | none => some none
  | some value => (read value).map some

/-- `Option::<T>::deserialize` of a value that may be missing: null is the empty option. -/
def readNullable {α : Type} (read : Value → Option α) : Option Value → Option (Option α)
  | none | some .null => some none
  | some value => (read value).map some

def requiredField {α : Type} (key : String) (entries : List (String × Value)) (read : Value → Option α) : Option α :=
  (getField key entries).bind read

def optionalField {α : Type} (key : String) (entries : List (String × Value)) (read : Value → Option α) :
    Option (Option α) :=
  readOptional read (getField key entries)

/-- A field of type `Option<T>`, which may be left out. -/
def optionField {α : Type} (key : String) (entries : List (String × Value)) (read : Value → Option α) :
    Option (Option α) :=
  readNullable read (getField key entries)

/-- A unit variant is written as its name; it is also read from an object with the name as its key. -/
def unitVariant (name : String) (value : Value) : Option Unit :=
  if value = .string name ∨ value = .object [(name, .null)] then some () else none

def Value.asString : Value → Option String
  | .string value => some value
  | .null | .bool _ | .number _ | .array _ | .object _ => none

/-- `Value::as_u64`, as reading a `u64` does. -/
def Value.asU64 : Value → Option ℕ
  | .number (.posInt value) => some value
  | .null | .bool _ | .number _ | .string _ | .array _ | .object _ => none

def u64 (value : ℕ) : Value := .number (.posInt value)

@[simp] theorem asString_string (value : String) : (Value.string value).asString = some value := rfl

@[simp] theorem asBool_bool (value : Bool) : (Value.bool value).asBool = some value := rfl

@[simp] theorem asU64_u64 (value : ℕ) : (u64 value).asU64 = some value := rfl

@[simp] theorem unitVariant_string (name : String) : unitVariant name (.string name) = some () := by
  simp [unitVariant]

theorem readOptional_map (reads : ∀ element ∈ value, read (write element) = some element) :
    readOptional read (value.map write) = some value := by
  cases value with
  | none => rfl
  | some element => simp [readOptional, reads element rfl]

theorem readNullable_map
    (nonNull : ∀ element, write element ≠ .null) (reads : ∀ element ∈ value, read (write element) = some element) :
    readNullable read (value.map write) = some value := by
  cases value with
  | none => rfl
  | some element =>
    have isValue := nonNull element
    rw [Option.map_some, readNullable]
    · simp [reads element rfl]
    · exact isValue

end Vifu.Runtime
