import Vifu.App.ModelPool
import Vifu.Foundation.Tasks

/-!
# The room in the pool of local models

What an eviction takes out of the slots, and what it leaves there: the bytes of the models that are in memory, of those
that the pool has, and their number.
-/

namespace Vifu.App

open Foundation

/-- The slot of a model that is in memory, in the pool or taken by an eviction. -/
def ModelSlot.isPresent (slot : ModelSlot) : Bool := slot.loaded && slot.home != .out

def presentBytes (slots : List ModelSlot) : ℕ :=
  (slots.map fun slot => if slot.isPresent then slot.estimatedBytes else 0).sum

def ModelSlot.taken (slot : ModelSlot) : ModelSlot := { slot with home := .evicted }

variable {slot : ModelSlot} {index : ℕ}

theorem isResident_iff : slot.isResident = true ↔ slot.loaded = true ∧ slot.home = .pooled := by
  simp [ModelSlot.isResident]

theorem isPresent_iff : slot.isPresent = true ↔ slot.loaded = true ∧ slot.home ≠ .out := by
  simp [ModelSlot.isPresent]

/-! ## Sweeps -/

/-- What a sweep has taken from the slots: some of those that may be taken. -/
structure Swept (May : ℕ → Prop) (slots : List ModelSlot) (sweep : Sweep) : Prop where
  rows : ∀ index, sweep.slots[index]? = slots[index]? ∨
    index ∈ sweep.evicted ∧ May index ∧ ∃ slot, slots[index]? = some slot ∧ slot.isResident = true ∧
      sweep.slots[index]? = some slot.taken
  counted : sweep.slots.countP ModelSlot.isResident + sweep.evicted.length = slots.countP ModelSlot.isResident
  resident : residentBytes sweep.slots ≤ sweep.bytes
  less : residentBytes sweep.slots ≤ residentBytes slots
  present : presentBytes sweep.slots = presentBytes slots

section

variable {May : ℕ → Prop} {slots : List ModelSlot} {sweep : Sweep}

theorem Swept.start : Swept May slots ⟨slots, residentBytes slots, []⟩ where
  rows _ := .inl rfl
  counted := rfl
  resident := le_rfl
  less := le_rfl
  present := rfl

theorem Swept.take (taken : Swept May slots sweep) (may : May index)
    (resident : ∃ slot, slots[index]? = some slot ∧ slot.isResident = true) : Swept May slots (sweep.take index) := by
  unfold Sweep.take
  split
  next slot stored =>
    split
    next pooled =>
      -- a slot that is still in the pool is as it was
      have isResident : slot.isResident = true ∧ slots[index]? = some slot := by
        obtain ⟨original, isOriginal, loaded⟩ := resident
        cases taken.rows index with
        | inl same =>
          rw [same, isOriginal] at stored
          cases stored
          exact ⟨loaded, isOriginal⟩
        | inr evicted =>
          obtain ⟨_, _, other, _, _, isTaken⟩ := evicted
          rw [isTaken] at stored
          cases stored
          cases pooled
      have notResident : slot.taken.isResident = false := by simp [ModelSlot.isResident, ModelSlot.taken]
      have stillPresent : slot.taken.isPresent = slot.isPresent := by
        rw [ModelSlot.isPresent, ModelSlot.isPresent, pooled]
        rfl
      have sums : residentBytes (sweep.slots.set index slot.taken) + slot.estimatedBytes = residentBytes sweep.slots := by
        have sums := sum_map_set stored (fun slot => if slot.isResident then slot.estimatedBytes else 0) slot.taken
        rw [isResident.1, notResident] at sums
        simpa [residentBytes] using sums
      constructor
      · intro place
        by_cases same : place = index
        · subst same
          right
          refine ⟨by simp, may, slot, isResident.2, isResident.1, ?_⟩
          exact List.getElem?_set_self (List.getElem?_eq_some_iff.mp stored).1
        · have other : (sweep.slots.set index slot.taken)[place]? = sweep.slots[place]? :=
            List.getElem?_set_ne (Ne.symm same)
          show (sweep.slots.set index slot.taken)[place]? = _ ∨ _ ∧ _ ∧ ∃ _, _ ∧ _ ∧ (sweep.slots.set index slot.taken)[place]? = _
          rw [other]
          refine (taken.rows place).imp_right fun evicted => ⟨?_, evicted.2⟩
          exact List.mem_append_left _ evicted.1
      · have counts := countP_set stored ModelSlot.isResident slot.taken
        rw [isResident.1, notResident] at counts
        have before := taken.counted
        simp only [List.length_append, List.length_singleton]
        show (sweep.slots.set index slot.taken).countP _ + _ = _
        simp only [if_true, if_false, Bool.false_eq_true] at counts
        omega
      · have before := taken.resident
        show residentBytes (sweep.slots.set index slot.taken) ≤ sweep.bytes - slot.estimatedBytes
        omega
      · have before := taken.less
        show residentBytes (sweep.slots.set index slot.taken) ≤ _
        omega
      · have sums := sum_map_set stored (fun slot => if slot.isPresent then slot.estimatedBytes else 0) slot.taken
        rw [stillPresent] at sums
        have before := taken.present
        unfold presentBytes at before ⊢
        show ((sweep.slots.set index slot.taken).map _).sum = _
        simp only [show slot.taken.estimatedBytes = slot.estimatedBytes from rfl] at sums
        omega
    next => exact taken
  next => exact taken

theorem Swept.sweepWhile {needed : ℕ → Bool} {indexes : List ℕ} (taken : Swept May slots sweep)
    (may : ∀ index ∈ indexes, May index ∧ ∃ slot, slots[index]? = some slot ∧ slot.isResident = true) :
    Swept May slots (App.sweepWhile needed indexes sweep) := by
  induction indexes generalizing sweep with
  | nil => exact taken
  | cons index indexes ih =>
    rw [App.sweepWhile]
    split
    · obtain ⟨first, rest⟩ := List.forall_mem_cons.mp may
      exact ih (taken.take first.1 first.2) rest
    · exact taken

end

/-! ## Drops -/

/-- What is left of slots when some that were taken have been dropped. -/
structure Dropped (slots next : List ModelSlot) : Prop where
  rows : ∀ index : ℕ, next[index]? = slots[index]? ∨
    ∃ slot : ModelSlot, slots[index]? = some slot ∧ slot.home = .evicted ∧ next[index]? = some { slot with home := .out }
  counted : next.countP ModelSlot.isResident = slots.countP ModelSlot.isResident
  resident : residentBytes next = residentBytes slots
  present : presentBytes next ≤ presentBytes slots

section

variable {slots next last : List ModelSlot}

theorem Dropped.refl : Dropped slots slots := ⟨fun _ => .inl rfl, rfl, rfl, le_rfl⟩

theorem Dropped.trans (first : Dropped slots next) (second : Dropped next last) : Dropped slots last where
  rows index := by
    cases second.rows index with
    | inl same =>
      rw [same]
      exact first.rows index
    | inr dropped =>
      obtain ⟨slot, stored, isEvicted, isOut⟩ := dropped
      cases first.rows index with
      | inl same => exact .inr ⟨slot, same ▸ stored, isEvicted, isOut⟩
      | inr earlier =>
        obtain ⟨original, _, _, wasOut⟩ := earlier
        rw [wasOut] at stored
        cases stored
        cases isEvicted
  counted := second.counted.trans first.counted
  resident := second.resident.trans first.resident
  present := second.present.trans first.present

theorem dropSlot_dropped (index : ℕ) : Dropped slots (dropSlot slots index) := by
  unfold dropSlot
  split
  next slot stored =>
    split
    next isEvicted =>
      constructor
      · intro place
        by_cases same : place = index
        · subst same
          exact .inr ⟨slot, stored, isEvicted, List.getElem?_set_self (List.getElem?_eq_some_iff.mp stored).1⟩
        · exact .inl (List.getElem?_set_ne (Ne.symm same))
      · have counts := countP_set stored ModelSlot.isResident { slot with home := .out }
        simpa [ModelSlot.isResident, isEvicted] using counts
      · have sums := sum_map_set stored (fun slot => if slot.isResident then slot.estimatedBytes else 0)
          { slot with home := .out }
        simpa [residentBytes, ModelSlot.isResident, isEvicted] using sums
      · have sums := sum_map_set stored (fun slot => if slot.isPresent then slot.estimatedBytes else 0)
          { slot with home := .out }
        have gone : ({ slot with home := .out } : ModelSlot).isPresent = false := by simp [ModelSlot.isPresent]
        simp only [gone, Bool.false_eq_true, if_false] at sums
        unfold presentBytes
        omega
    next => exact .refl
  next => exact .refl

theorem dropSlots_dropped (evicted : List ℕ) : Dropped slots (dropSlots slots evicted) := by
  unfold dropSlots
  induction evicted generalizing slots with
  | nil => exact .refl
  | cons index evicted ih => exact (dropSlot_dropped index).trans ih

theorem dropSlots_out {evicted : List ℕ} (mem : index ∈ evicted)
    (stored : (dropSlots slots evicted)[index]? = some slot) : slot.home ≠ .evicted := by
  induction evicted generalizing slots with
  | nil => cases mem
  | cons head evicted ih =>
    by_cases later : index ∈ evicted
    · exact ih later stored
    · obtain rfl := (List.mem_cons.mp mem).resolve_right later
      -- the head is dropped first, and a slot that is out stays out
      have dropped : Dropped (dropSlot slots index) (dropSlots (dropSlot slots index) evicted) := dropSlots_dropped evicted
      have first : ∀ slot, (dropSlot slots index)[index]? = some slot → slot.home ≠ .evicted := by
        intro slot stored
        unfold dropSlot at stored
        split at stored
        next original isOriginal =>
          split at stored
          next isEvicted =>
            rw [List.getElem?_set_self (List.getElem?_eq_some_iff.mp isOriginal).1] at stored
            cases stored
            simp
          next notEvicted =>
            rw [isOriginal] at stored
            cases stored
            exact notEvicted
        next missing =>
          rw [missing] at stored
          cases stored
      cases dropped.rows index with
      | inl same => exact first slot (same ▸ stored)
      | inr later =>
        obtain ⟨original, isOriginal, isEvicted, _⟩ := later
        exact absurd isEvicted (first original isOriginal)

end

end Vifu.App
