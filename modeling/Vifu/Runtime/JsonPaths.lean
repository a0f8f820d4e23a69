import Vifu.Runtime.Json

/-!
# Changes inside a JSON value

Changes of the value under one key of an object and of the items of an array, and how they compose.
-/

namespace Vifu.Runtime

/-! ## Fields -/

/-- A change of what `Map::get_mut` finds. -/
def modifyField (key : String) (change : Value → Value) : List (String × Value) → List (String × Value)
  | [] => []
  | field :: fields =>
    if field.1 = key then (key, change field.2) :: fields else field :: modifyField key change fields

/-- `Map::insert`, which replaces a value that is there. -/
def setField (key : String) (value : Value) (fields : List (String × Value)) : List (String × Value) :=
  if (getField key fields).isSome then modifyField key (fun _ => value) fields else insertField key value fields

section

variable {key other : String} {value : Value} {change again : Value → Value} {fields : List (String × Value)}

theorem getField_cons (key : String) (field : String × Value) (fields : List (String × Value)) :
    getField key (field :: fields) = if field.1 = key then some field.2 else getField key fields := by
  obtain ⟨name, held⟩ := field
  rw [getField, List.lookup_cons]
  by_cases same : name = key
  · simp [same]
  · rw [beq_eq_false_iff_ne.mpr (Ne.symm same)]
    simp [same, getField]

theorem getField_modifyField : getField key (modifyField key change fields) = (getField key fields).map change := by
  induction fields with
  | nil => rfl
  | cons field fields ih =>
    rw [modifyField, getField_cons]
    split
    next same => simp [getField_cons]
    next differs => rw [getField_cons, if_neg differs, ih]

theorem getField_modifyField_of_ne (differs : key ≠ other) :
    getField key (modifyField other change fields) = getField key fields := by
  induction fields with
  | nil => rfl
  | cons field fields ih =>
    rw [modifyField]
    split
    next same => simp [getField_cons, same, differs.symm]
    next => simp [getField_cons, ih]

theorem modifyField_absent (absent : getField key fields = none) : modifyField key change fields = fields := by
  induction fields with
  | nil => rfl
  | cons field fields ih =>
    rw [getField_cons] at absent
    split at absent
    · cases absent
    next differs => rw [modifyField, if_neg differs, ih absent]

theorem modifyField_modifyField :
    modifyField key again (modifyField key change fields) = modifyField key (again ∘ change) fields := by
  induction fields with
  | nil => rfl
  | cons field fields ih =>
    rw [modifyField, modifyField]
    split
    next same => simp [modifyField]
    next differs => rw [modifyField, if_neg differs, ih]

theorem getField_setField : getField key (setField key value fields) = some value := by
  unfold setField
  split
  next present =>
    obtain ⟨held, found⟩ := Option.isSome_iff_exists.mp present
    rw [getField_modifyField, found]
    rfl
  next => exact getField_insertField

theorem setField_injective {held : Value} (same : setField key value fields = setField key held fields) : value = held := by
  have found := congrArg (getField key) same
  rw [getField_setField, getField_setField] at found
  exact Option.some.inj found

theorem setField_of_modifyField {others : List (String × Value)}
    (same : modifyField key change fields = modifyField key change others) :
    setField key value fields = setField key value others := by
  have present : (getField key fields).isSome = (getField key others).isSome := by
    have found := congrArg (fun fields => (getField key fields).isSome) same
    simpa only [getField_modifyField, Option.isSome_map] using found
  unfold setField
  rw [← present]
  split
  next => 
    have forgotten := congrArg (modifyField key fun _ => value) same
    rwa [modifyField_modifyField, modifyField_modifyField] at forgotten
  next absent =>
    have absentHere : getField key fields = none := by simpa using absent
    have absentThere : getField key others = none := by
      rw [absentHere] at present
      simpa using present.symm
    rw [modifyField_absent absentHere, modifyField_absent absentThere] at same
    rw [same]

end

def Value.modify (key : String) (change : Value → Value) : Value → Value
  | .object fields => .object (modifyField key change fields)
  | value => value

def Value.each (change : Value → Value) : Value → Value
  | .array values => .array (values.map change)
  | value => value

def Value.get (key : String) : Value → Option Value
  | .object fields => getField key fields
  | _ => none

/-- `Value::as_array`, with no items for another value. -/
def Value.items : Value → List Value
  | .array values => values
  | _ => []

variable {key : String} {change : Value → Value} {left right : Value}

theorem Value.modify_eq (same : left.modify key change = right.modify key change) :
    (∃ fields others, left = .object fields ∧ right = .object others ∧
        modifyField key change fields = modifyField key change others) ∨
      left = right ∧ left.get key = none := by
  cases left with
  | object fields =>
    cases right with
    | object others => exact .inl ⟨fields, others, rfl, rfl, Value.object.inj same⟩
    | string | array | null | bool | number => cases same
  | string | array | null | bool | number =>
    refine .inr ⟨?_, rfl⟩
    cases right with
    | object others => cases same
    | string | array | null | bool | number => exact same

theorem Value.each_eq (same : left.each change = right.each change) :
    (∃ values others, left = .array values ∧ right = .array others ∧ values.map change = others.map change) ∨
      left = right ∧ left.items = [] := by
  cases left with
  | array values =>
    cases right with
    | array others => exact .inl ⟨values, others, rfl, rfl, Value.array.inj same⟩
    | string | object | null | bool | number => cases same
  | string | object | null | bool | number =>
    refine .inr ⟨?_, rfl⟩
    cases right with
    | array others => cases same
    | string | object | null | bool | number => exact same

end Vifu.Runtime
