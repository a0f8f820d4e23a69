import Vifu.Runtime.Records
import Vifu.Runtime.Data

/-!
# Bounds on the sizes of records

How large the compact text of a record can be, from bounds on its fields.  A text grows at most
sixfold when it is written, since a control character is written as six; names of fields have at
most twenty bytes.
-/

namespace Vifu.Runtime

open Foundation

/-! ## Texts -/

theorem utf8Len_append (left right : List Char) :
    String.utf8Len (left ++ right) = String.utf8Len left + String.utf8Len right := by
  induction left with
  | nil => simp
  | cons character left ih =>
    rw [List.cons_append, String.utf8Len_cons, String.utf8Len_cons]
    omega

theorem utf8Size_hexDigit (digit : ℕ) : (hexDigit digit).utf8Size = 1 := by
  by_cases known : digit < 16
  · revert digit
    decide
  · have beyond : "0123456789abcdef".toList.length ≤ digit := by
      have length : "0123456789abcdef".toList.length = 16 := by decide
      omega
    have missing : "0123456789abcdef".toList[digit]? = none := List.getElem?_eq_none beyond
    rw [hexDigit, List.getD_eq_getElem?_getD, missing]
    decide

theorem utf8Len_escapeCharacter (character : Char) :
    String.utf8Len (escapeCharacter character) ≤ 6 * character.utf8Size := by
  have positive := character.utf8Size_pos
  have bytes : ('\\').utf8Size = 1 ∧ ('"').utf8Size = 1 ∧ ('b').utf8Size = 1 ∧ ('f').utf8Size = 1 ∧
      ('n').utf8Size = 1 ∧ ('r').utf8Size = 1 ∧ ('t').utf8Size = 1 ∧ ('u').utf8Size = 1 ∧ ('0').utf8Size = 1 := by
    decide
  rw [escapeCharacter]
  split
  case h_8 =>
    split
    · simp only [String.utf8Len_cons, String.utf8Len_nil, utf8Size_hexDigit, bytes]
      omega
    · simp only [String.utf8Len_cons, String.utf8Len_nil]
      omega
  all_goals
    simp only [String.utf8Len_cons, String.utf8Len_nil, bytes]
    omega

theorem utf8ByteSize_quoted (text : String) : (quoted text).utf8ByteSize ≤ 6 * text.utf8ByteSize + 2 := by
  have quote : "\"".utf8ByteSize = 1 := rfl
  have escaped : ∀ characters : List Char,
      String.utf8Len (characters.flatMap escapeCharacter) ≤ 6 * String.utf8Len characters := by
    intro characters
    induction characters with
    | nil => simp
    | cons character characters ih =>
      have first := utf8Len_escapeCharacter character
      rw [List.flatMap_cons, utf8Len_append, String.utf8Len_cons]
      omega
  have inner := escaped text.toList
  rw [← utf8ByteSize_eq] at inner
  rw [quoted, String.utf8ByteSize_append, String.utf8ByteSize_append, quote, String.utf8ByteSize_ofList]
  omega

theorem le_utf8ByteSize_quoted (text : String) : text.utf8ByteSize + 2 ≤ (quoted text).utf8ByteSize := by
  have quote : "\"".utf8ByteSize = 1 := rfl
  have escaped : ∀ character, character.utf8Size ≤ String.utf8Len (escapeCharacter character) := by
    intro character
    have small : ∀ code < 128, (Char.ofNat code).utf8Size = 1 := by decide
    have ascii (code : ℕ) (isCode : character.toNat = code) (low : code < 128) : character.utf8Size = 1 := by
      rw [← Char.ofNat_toNat character, isCode]
      exact small code low
    rw [escapeCharacter]
    split
    case h_8 =>
      split
      next low =>
        rw [ascii _ rfl (by omega)]
        simp only [String.utf8Len_cons]
        have positive := ('\\').utf8Size_pos
        omega
      next => simp
    all_goals
      next isCode =>
        rw [ascii _ isCode (by decide)]
        simp only [String.utf8Len_cons]
        have positive := ('\\').utf8Size_pos
        omega
  have inner : ∀ characters : List Char,
      String.utf8Len characters ≤ String.utf8Len (characters.flatMap escapeCharacter) := by
    intro characters
    induction characters with
    | nil => simp
    | cons character characters ih =>
      have first := escaped character
      rw [List.flatMap_cons, utf8Len_append, String.utf8Len_cons]
      omega
  have whole := inner text.toList
  rw [← utf8ByteSize_eq] at whole
  rw [quoted, String.utf8ByteSize_append, String.utf8ByteSize_append, quote, String.utf8ByteSize_ofList]
  omega

/-! ## Values -/

/-- The value can be held, and its text has at most so many bytes. -/
structure Fits (floats : FloatText) (most : ℕ) (value : Value) : Prop where
  held : value.WellFormed
  size : value.encodedSize floats ≤ most

/-- The text of a field that may be empty has at most so many bytes. -/
def FieldSize (floats : FloatText) (most : ℕ) (field : Option Value) : Prop :=
  ∀ value ∈ field, value.encodedSize floats ≤ most

def FieldFits (floats : FloatText) (most : ℕ) (field : Option Value) : Prop :=
  ∀ value ∈ field, Fits floats most value

variable {fields : List (String × Option Value)}

section

variable {floats : FloatText} {bounds : List ℕ} {most : ℕ} {value : Value}

theorem Fits.mono {most more : ℕ} (fits : Fits floats most value) (larger : most ≤ more) :
    Fits floats more value :=
  ⟨fits.held, fits.size.trans larger⟩

theorem Fits.string {text : String} (small : text.utf8ByteSize ≤ most) (memory : most ≤ isizeMax) :
    Fits floats (6 * most + 2) (.string text) := by
  refine ⟨Value.wellFormed_string.mpr (small.trans memory), ?_⟩
  have written := utf8ByteSize_quoted text
  rw [Value.encodedSize, Value.text]
  omega

theorem Fits.u64 {value : ℕ} (small : value ≤ u64Max) : Fits floats 20 (u64 value) := by
  refine ⟨by simp [Vifu.Runtime.u64, Value.WellFormed], ?_⟩
  rw [Value.encodedSize, Vifu.Runtime.u64, Value.text, Number.text, utf8ByteSize_toString]
  apply length_toString_le (by decide)
  rw [u64Max] at small
  omega

theorem Fits.bool (value : Bool) : Fits floats 5 (.bool value) := by
  refine ⟨by simp [Value.WellFormed], ?_⟩
  cases value
  · exact Nat.le_refl 5
  · exact Nat.le_succ 4

theorem Fits.array {values : List Value} (each : ∀ value ∈ values, Fits floats most value) :
    Fits floats (values.length * (most + 1) + 2) (.array values) := by
  refine ⟨Value.wellFormed_array.mpr fun value mem => (each value mem).held, ?_⟩
  have total : (values.map fun value => value.encodedSize floats + 1).sum ≤ values.length * (most + 1) := by
    induction values with
    | nil => simp
    | cons value values ih =>
      rw [List.forall_mem_cons] at each
      have first := each.1.size
      have rest := ih each.2
      rw [List.map_cons, List.sum_cons, List.length_cons, Nat.succ_mul]
      omega
  rw [Value.encodedSize_array]
  omega

theorem FieldFits.some (fits : Fits floats most value) : FieldFits floats most (some value) := by
  intro field isField
  cases isField
  exact fits

theorem FieldFits.map {α : Type} {write : α → Value} {element : Option α}
    (fits : ∀ held ∈ element, Fits floats most (write held)) : FieldFits floats most (element.map write) := by
  intro field isField
  rw [Option.mem_def, Option.map_eq_some_iff] at isField
  obtain ⟨held, isHeld, rfl⟩ := isField
  exact fits held isHeld

theorem FieldFits.size {field : Option Value} (fits : FieldFits floats most field) :
    FieldSize floats most field :=
  fun value isValue => (fits value isValue).size

theorem FieldSize.none : FieldSize floats 0 none := nofun

theorem FieldSize.some (small : value.encodedSize floats ≤ most) : FieldSize floats most (some value) := by
  intro field isField
  cases isField
  exact small

/-! ## Records -/

theorem presentFields_size (short : ∀ name ∈ fields.map Prod.fst, name.utf8ByteSize ≤ 20)
    (each : List.Forall₂ (fun field most => FieldSize floats most field.2) fields bounds) :
    ((presentFields fields).map (Value.fieldSize floats)).sum ≤ 124 * fields.length + bounds.sum := by
  induction each with
  | nil => simp [presentFields]
  | @cons field most fields bounds fits _ ih =>
    rw [List.map_cons, List.forall_mem_cons] at short
    have rest := ih short.2
    have key := utf8ByteSize_quoted field.1
    obtain ⟨name, _ | value⟩ := field
    · have skipped : presentFields ((name, none) :: fields) = presentFields fields := rfl
      rw [skipped, List.length_cons, List.sum_cons]
      omega
    · have kept : presentFields ((name, Option.some value) :: fields) = (name, value) :: presentFields fields := rfl
      have small := fits value rfl
      rw [kept, List.map_cons, List.sum_cons, List.length_cons, List.sum_cons, Value.fieldSize]
      dsimp only at short key ⊢
      omega

theorem encodedSize_presentFields (names : List String)
    (known : fields.map Prod.fst = names) (short : ∀ name ∈ names, name.utf8ByteSize ≤ 20)
    (each : List.Forall₂ (fun field most => FieldSize floats most field.2) fields bounds) :
    (Value.object (presentFields fields)).encodedSize floats ≤ 124 * names.length + bounds.sum + 2 := by
  subst known
  have total := presentFields_size short each
  rw [Value.encodedSize_object, List.length_map]
  omega

theorem presentFields_held
    (each : List.Forall₂ (fun field most => FieldFits floats most field.2) fields bounds) :
    ∀ field ∈ presentFields fields, field.2.WellFormed := by
  induction each with
  | nil => simp [presentFields]
  | @cons field most fields bounds fits _ ih =>
    obtain ⟨name, _ | value⟩ := field
    · exact ih
    · have kept : presentFields ((name, Option.some value) :: fields) = (name, value) :: presentFields fields := rfl
      rw [kept, List.forall_mem_cons]
      exact ⟨(fits value rfl).held, ih⟩

theorem Fits.record (names : List String)
    (known : fields.map Prod.fst = names) (distinct : names.Nodup) (short : ∀ name ∈ names, name.utf8ByteSize ≤ 20)
    (each : List.Forall₂ (fun field most => FieldFits floats most field.2) fields bounds) :
    Fits floats (124 * names.length + bounds.sum + 2) (recordValue fields) := by
  have present : Distinct (presentFields fields) := by
    subst known
    exact distinct.sublist (presentFields_keys fields)
  constructor
  · rw [recordValue, Value.wellFormed_object]
    refine ⟨sorted_sortFields _, ?_⟩
    intro field mem
    exact presentFields_held each field ((mem_sortFields present).mp mem)
  · rw [recordValue, encodedSize_sortFields floats present]
    exact encodedSize_presentFields names known short (each.imp fun _ _ => FieldFits.size)

end

end Vifu.Runtime
