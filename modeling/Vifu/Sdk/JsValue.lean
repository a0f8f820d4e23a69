import Vifu.Runtime.Frame

/-!
# Values of a script

The data that the TypeScript packages hand to `JSON.stringify` and get from `JSON.parse`.  Other than a JSON value, a
property of an object may be undefined, and then it is not written.  A number that is an integer is held as one.
-/

namespace Vifu.Sdk

open Foundation Vifu.Runtime

inductive JsValue where
  | undefined
  | null
  | bool (value : Bool)
  | number (value : Number)
  | string (value : String)
  | array (values : List JsValue)
  | object (properties : List (String × JsValue))

namespace JsValue

/-- `value.key`. -/
def property (key : String) : JsValue → JsValue
  | .object properties => (properties.lookup key).getD .undefined
  | .undefined | .null | .bool _ | .number _ | .string _ | .array _ => .undefined

mutual

/-- The JSON value that `JSON.stringify` writes, if it writes any. -/
def toJson : JsValue → Option Value
  | .undefined => none
  | .null => some .null
  | .bool value => some (.bool value)
  | .number value => some (.number value)
  | .string value => some (.string value)
  | .array values => some (.array (itemsToJson values))
  | .object properties => some (.object (propertiesToJson properties))

def itemsToJson : List JsValue → List Value
  | [] => []
  | value :: values => value.toJson.getD .null :: itemsToJson values

def propertiesToJson : List (String × JsValue) → List (String × Value)
  | [] => []
  | (key, value) :: properties =>
    match value.toJson with
    | some json => (key, json) :: propertiesToJson properties
    | none => propertiesToJson properties

end

mutual

def ofJson : Value → JsValue
  | .null => .null
  | .bool value => .bool value
  | .number value => .number value
  | .string value => .string value
  | .array values => .array (itemsOfJson values)
  | .object fields => .object (propertiesOfJson fields)

def itemsOfJson : List Value → List JsValue
  | [] => []
  | value :: values => ofJson value :: itemsOfJson values

def propertiesOfJson : List (String × Value) → List (String × JsValue)
  | [] => []
  | (key, value) :: fields => (key, ofJson value) :: propertiesOfJson fields

end

/-- `JSON.stringify`, which returns no text for an undefined value. -/
def stringify (floats : FloatText) (value : JsValue) : Option String := value.toJson.map (Value.text floats)

/-- `JSON.parse`.  Of properties with the same key the last one counts, and nothing depends on their order. -/
def parse (reader : JsonReader) (source : String) : Option JsValue :=
  (reader.content source).map fun content => ofJson content.normalized

/-- `Object.keys`. -/
def keys : JsValue → List String
  | .object properties => properties.map Prod.fst
  | .undefined | .null | .bool _ | .number _ | .string _ | .array _ => []

mutual

/-- No object has two properties with the same key. -/
def WellFormed : JsValue → Prop
  | .undefined | .null | .bool _ | .number _ | .string _ => True
  | .array values => ItemsWellFormed values
  | .object properties => Distinct properties ∧ PropertiesWellFormed properties

def ItemsWellFormed : List JsValue → Prop
  | [] => True
  | value :: values => value.WellFormed ∧ ItemsWellFormed values

def PropertiesWellFormed : List (String × JsValue) → Prop
  | [] => True
  | (_, value) :: properties => value.WellFormed ∧ PropertiesWellFormed properties

end

variable {properties : List (String × JsValue)}

theorem WellFormed.distinct (wellFormed : (JsValue.object properties).WellFormed) : Distinct properties := by
  exact wellFormed.1

theorem WellFormed.property {value : JsValue} (wellFormed : value.WellFormed) (key : String) :
    (value.property key).WellFormed := by
  cases value with
  | object properties =>
    rw [JsValue.property]
    have inner := wellFormed.2
    clear wellFormed
    induction properties with
    | nil => trivial
    | cons head properties ih =>
      rw [List.lookup_cons]
      split
      · exact inner.1
      · exact ih inner.2
  | undefined | null | bool | number | string | array => trivial

/-! ## From values to JSON -/

theorem propertiesToJson_eq (properties : List (String × JsValue)) : propertiesToJson properties =
      properties.filterMap fun property => property.2.toJson.map fun json => (property.1, json) := by
  induction properties with
  | nil => rfl
  | cons property properties ih =>
    obtain ⟨key, value⟩ := property
    rw [propertiesToJson, List.filterMap_cons]
    cases value.toJson with
    | none => exact ih
    | some json => simp [ih]

theorem propertiesToJson_keys (properties : List (String × JsValue)) :
    ((propertiesToJson properties).map Prod.fst).Sublist (properties.map Prod.fst) := by
  induction properties with
  | nil => simp [propertiesToJson]
  | cons property properties ih =>
    obtain ⟨key, value⟩ := property
    rw [propertiesToJson]
    cases value.toJson with
    | none => exact ih.cons key
    | some json => exact ih.cons_cons key

theorem getField_propertiesToJson (distinct : Distinct properties) (key : String) :
    getField key (propertiesToJson properties) = ((JsValue.object properties).property key).toJson := by
  induction properties with
  | nil => rfl
  | cons property properties ih =>
    obtain ⟨name, value⟩ := property
    rw [Distinct, List.map_cons, List.nodup_cons] at distinct
    have rest := ih distinct.2
    rw [JsValue.property] at rest ⊢
    rw [propertiesToJson, List.lookup_cons]
    by_cases same : key = name
    · have absent : getField key (propertiesToJson properties) = none := by
        rw [getField, List.lookup_eq_none_iff]
        intro field mem
        rw [bne_iff_ne]
        intro isKey
        apply distinct.1
        rw [← same, isKey]
        exact (propertiesToJson_keys properties).subset (List.mem_map_of_mem mem)
      cases isJson : value.toJson with
      | none => simp [same, isJson, same ▸ absent]
      | some json => simp [same, isJson, getField]
    · rw [beq_eq_false_iff_ne.mpr same]
      cases value.toJson with
      | none => exact rest
      | some json =>
        rw [getField, List.lookup_cons, beq_eq_false_iff_ne.mpr same]
        exact rest

mutual

theorem toJson_ofJson : ∀ value : Value, (ofJson value).toJson = some value
  | .null | .bool _ | .number _ | .string _ => rfl
  | .array values => by rw [ofJson, toJson, itemsToJson_itemsOfJson values]
  | .object fields => by rw [ofJson, toJson, propertiesToJson_propertiesOfJson fields]

theorem itemsToJson_itemsOfJson : ∀ values : List Value, itemsToJson (itemsOfJson values) = values
  | [] => rfl
  | value :: values => by
    rw [itemsOfJson, itemsToJson, toJson_ofJson value, itemsToJson_itemsOfJson values, Option.getD_some]

theorem propertiesToJson_propertiesOfJson : ∀ fields : List (String × Value),
    propertiesToJson (propertiesOfJson fields) = fields
  | [] => rfl
  | (key, value) :: fields => by
    simp only [propertiesOfJson, propertiesToJson, toJson_ofJson value, propertiesToJson_propertiesOfJson fields]

end

theorem property_ofJson (key : String) (fields : List (String × Value)) :
    (ofJson (.object fields)).property key = ((getField key fields).map ofJson).getD .undefined := by
  rw [ofJson, property]
  congr 1
  induction fields with
  | nil => rfl
  | cons field fields ih =>
    rw [getField] at ih ⊢
    rw [propertiesOfJson, List.lookup_cons, List.lookup_cons, ih]
    split <;> rfl

theorem propertiesOfJson_keys (fields : List (String × Value)) :
    (propertiesOfJson fields).map Prod.fst = fields.map Prod.fst := by
  induction fields with
  | nil => rfl
  | cons field fields ih => simp [propertiesOfJson, ih]

end JsValue

end Vifu.Sdk
