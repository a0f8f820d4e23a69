import Mathlib.Data.List.AList

/-!
# Counting the entries of a finite map

`tally p table` is the number of entries of an association list whose value satisfies `p`.
The lemmas say how an insertion and an erasure change it, which is what a counter that is
kept next to a map has to follow.
-/

namespace Foundation

variable {K V : Type*} [DecidableEq K]

/-- The number of entries whose value satisfies `p`. -/
def tally (p : V → Bool) (table : AList fun _ : K => V) : ℕ :=
  table.entries.countP fun entry => p entry.2

variable {table : AList fun _ : K => V} {p : V → Bool} {key : K} {value : V}

private theorem entries_split {key : K} {value : V} (stored : table.lookup key = some value) :
    ∃ before after, table.entries = before ++ ⟨key, value⟩ :: after ∧
      (table.erase key).entries = before ++ after := by
  have present : key ∈ table.entries.keys := AList.lookup_isSome.mp (by simp [stored])
  obtain ⟨found, before, after, absent, entries, erased⟩ := List.exists_of_kerase present
  refine ⟨before, after, ?_, erased⟩
  have foundLookup : table.lookup key = some found :=
    AList.mem_lookup_iff.mpr (by rw [entries]; simp)
  rw [stored, Option.some.injEq] at foundLookup
  rw [entries, foundLookup]

theorem tally_erase (stored : table.lookup key = some value) :
    tally p table = tally p (table.erase key) + if p value then 1 else 0 := by
  obtain ⟨before, after, entries, erased⟩ := entries_split stored
  simp only [tally, entries, erased, List.countP_append, List.countP_cons]
  omega

theorem tally_erase_of_notMem (absent : key ∉ table) : tally p (table.erase key) = tally p table := by
  have same : (table.erase key).entries = table.entries := List.kerase_of_notMem_keys absent
  rw [tally, same, tally]

theorem tally_insert :
    tally p (table.insert key value) = tally p (table.erase key) + if p value then 1 else 0 := by
  simp only [tally, AList.entries_insert, List.countP_cons]
  rfl

theorem tally_insert_of_notMem (absent : key ∉ table) :
    tally p (table.insert key value) = tally p table + if p value then 1 else 0 := by
  rw [tally_insert, tally_erase_of_notMem absent]

theorem lookup_insert (table : AList fun _ : K => V) (key other : K) (value : V) :
    (table.insert key value).lookup other = if other = key then some value else table.lookup other := by
  split
  next same =>
    rw [same]
    exact AList.lookup_insert table
  next different => exact AList.lookup_insert_ne different

theorem lookup_erase (table : AList fun _ : K => V) (key other : K) :
    (table.erase key).lookup other = if other = key then none else table.lookup other := by
  split
  next same =>
    rw [same]
    exact AList.lookup_erase _ _
  next different => exact AList.lookup_erase_ne different

/-- The entries that pass, as `HashMap::retain` leaves them. -/
def retain (passes : K → V → Bool) (table : AList fun _ : K => V) : AList fun _ : K => V where
  entries := table.entries.filter fun entry => passes entry.1 entry.2
  nodupKeys := table.nodupKeys.sublist List.filter_sublist

theorem lookup_retain {passes : K → V → Bool} :
    (retain passes table).lookup key = some value ↔ table.lookup key = some value ∧ passes key value = true := by
  have entry (table : AList fun _ : K => V) : table.lookup key = some value ↔ ⟨key, value⟩ ∈ table.entries :=
    AList.mem_lookup_iff
  rw [entry, entry, retain, List.mem_filter]

theorem forall_lookup {Holds : K → V → Prop} : (∀ key value, table.lookup key = some value → Holds key value) ↔
      ∀ entry ∈ table.entries, Holds entry.1 entry.2 := by
  constructor
  · intro holds entry mem
    exact holds entry.1 entry.2 (AList.mem_lookup_iff.mpr mem)
  · intro holds key value stored
    exact holds ⟨key, value⟩ (AList.mem_lookup_iff.mp stored)

instance decidableForallLookup {Holds : K → V → Prop} [∀ key value, Decidable (Holds key value)] (table : AList fun _ : K => V) :
    Decidable (∀ key value, table.lookup key = some value → Holds key value) :=
  decidable_of_iff _ forall_lookup.symm

instance (priority := low) decidableForallSome {α : Type*} {Holds : α → Prop} [DecidablePred Holds] :
    ∀ found : Option α, Decidable (∀ value, found = some value → Holds value)
  | none => .isTrue nofun
  | some value => decidable_of_iff (Holds value) (by simp)

end Foundation
