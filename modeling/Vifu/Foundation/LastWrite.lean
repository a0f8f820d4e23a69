import Vifu.Foundation.Table

/-!
# Logs of writes

A log of writes to a keyed table decides each key by the last write to it.  Reading a table and replaying over it a
part of the log that it already contains changes nothing, and neither does moving a write forward in the log
as long as it does not become the last word on its key.
-/

namespace Foundation

variable {K V : Type*} [DecidableEq K] {base : Option V} {key : K}

structure Write (K V : Type*) where
  key : K
  value : Option V
  deriving DecidableEq

/-- What a log leaves under a key that holds a value before it. -/
def settle (base : Option V) (writes : List (Write K V)) (key : K) : Option V :=
  writes.foldl (fun value write => if write.key = key then write.value else value) base

@[simp] theorem settle_cons (base : Option V) (write : Write K V) (writes : List (Write K V)) (key : K) :
    settle base (write :: writes) key = settle (if write.key = key then write.value else base) writes key := rfl

theorem settle_append (base : Option V) (writes later : List (Write K V)) (key : K) :
    settle base (writes ++ later) key = settle (settle base writes key) later key :=
  List.foldl_append

theorem settle_of_forall_ne {writes : List (Write K V)}
    (others : ∀ write ∈ writes, write.key ≠ key) : settle base writes key = base := by
  induction writes with
  | nil => rfl
  | cons write writes ih =>
    rw [List.forall_mem_cons] at others
    rw [settle_cons, if_neg others.1, ih others.2]

theorem settle_of_exists {base other : Option V} {writes : List (Write K V)}
    (writesKey : ∃ write ∈ writes, write.key = key) : settle base writes key = settle other writes key := by
  induction writes generalizing base other with
  | nil => simp at writesKey
  | cons write writes ih =>
    rw [settle_cons, settle_cons]
    by_cases isKey : write.key = key
    · rw [if_pos isKey, if_pos isKey]
    · rw [if_neg isKey, if_neg isKey]
      refine ih ?_
      simpa [isKey] using writesKey

theorem settle_of_forall_value {writes : List (Write K V)}
    (same : ∀ write ∈ writes, write.key = key → write.value = base) : settle base writes key = base := by
  induction writes with
  | nil => rfl
  | cons write writes ih =>
    rw [List.forall_mem_cons] at same
    rw [settle_cons]
    by_cases isKey : write.key = key
    · rw [if_pos isKey, same.1 isKey, ih same.2]
    · rw [if_neg isKey, ih same.2]

theorem settle_replay {writes later : List (Write K V)} :
    settle (settle base (writes ++ later) key) later key = settle base (writes ++ later) key := by
  by_cases writesKey : ∃ write ∈ later, write.key = key
  · rw [settle_append, settle_of_exists writesKey]
  · refine settle_of_forall_ne ?_
    intro write mem isKey
    exact writesKey ⟨write, mem, isKey⟩

/-- A write may overtake the writes before it if it is not the last one on its key, or says the same as those. -/
def MayOvertake (before after : List (Write K V)) (write : Write K V) : Prop :=
  (∃ later ∈ after, later.key = write.key) ∨ ∀ earlier ∈ before, earlier.key = write.key → earlier.value = write.value

instance [DecidableEq V] (before after : List (Write K V)) (write : Write K V) :
    Decidable (MayOvertake before after write) :=
  inferInstanceAs (Decidable (_ ∨ _))

theorem settle_overtake {before after : List (Write K V)} {write : Write K V}
    (mayOvertake : MayOvertake before after write) (key : K) :
    settle base (write :: before ++ after) key = settle base (before ++ write :: after) key := by
  rw [List.cons_append, settle_cons, settle_append, settle_append, settle_cons]
  by_cases isKey : write.key = key
  · rw [if_pos isKey, if_pos isKey]
    rcases mayOvertake with later | same
    · exact settle_of_exists (isKey ▸ later)
    · have unchanged : settle write.value before key = write.value := settle_of_forall_value (isKey ▸ same)
      rw [unchanged]
  · rw [if_neg isKey, if_neg isKey]

/-! ## Writing to a table -/

def Write.apply (write : Write K V) (table : AList fun _ : K => V) : AList fun _ : K => V :=
  match write.value with
  | some value => table.insert write.key value
  | none => table.erase write.key

theorem Write.lookup_apply (write : Write K V) (table : AList fun _ : K => V) (key : K) :
    (write.apply table).lookup key = if write.key = key then write.value else table.lookup key := by
  cases isValue : write.value with
  | some value =>
    simp only [Write.apply, isValue, lookup_insert]
    exact if_congr eq_comm rfl rfl
  | none =>
    simp only [Write.apply, isValue, lookup_erase]
    exact if_congr eq_comm rfl rfl

end Foundation
