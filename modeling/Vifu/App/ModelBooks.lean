import Vifu.App.ModelRoom

/-!
# The books of the pool of local models

A load that starts on a slot that the pool still has keeps that slot there until it has failed.  If all loads start so,
then every model in memory is in the pool or about to be dropped, one under each key, and the pool knows how many
there are and what they weigh.
-/

namespace Vifu.App

open Foundation

namespace LoadPhase

def isOpen : LoadPhase → Bool
  | .publishing _ | .published _ | .leaving _ | .gone _ => false
  | .queued | .admitting | .evicting _ | .dropping _ _ | .loading | .failed _ | .settled _ => true

/-- The load has neither succeeded nor given up its slot. -/
def isTrying : LoadPhase → Bool
  | .queued | .admitting | .evicting _ | .dropping _ _ | .loading | .failed _ => true
  | .settled _ | .publishing _ | .published _ | .leaving _ | .gone _ => false

def isFilling : LoadPhase → Bool
  | .evicting _ | .dropping _ _ | .loading | .failed _ => true
  | .queued | .admitting | .settled _ | .publishing _ | .published _ | .leaving _ | .gone _ => false

end LoadPhase

/-- A slot as a load of it has left it so far. -/
structure Fits (work : ℕ) (phase : LoadPhase) (slot : ModelSlot) : Prop where
  owned : phase.isOpen = true → slot.loading = some work
  pooled : phase.isTrying = true → slot.home = .pooled
  empty : phase.isFilling = true → slot.loaded = false

/-- The parties agree on the slots, and the counts are right. -/
structure Sound (budget : MemoryBudget) (state : PoolState) : Prop where
  exclusive : ∀ (i j : ℕ) first second, state.works[i]? = some first → state.works[j]? = some second →
    first.holdsLock = true → second.holdsLock = true → i = j
  fits : ∀ (i s : ℕ) phase, state.works[i]? = some (.load s phase) → ∃ slot, state.slots[s]? = some slot ∧ Fits i phase slot
  kept : ∀ (s : ℕ) slot, state.slots[s]? = some slot → slot.loaded = true → slot.home ≠ .pooled → state.isIdle s = true
  keyed : ∀ (s t : ℕ) first second, state.slots[s]? = some first → state.slots[t]? = some second →
    first.home = .pooled → second.home = .pooled → first.key = second.key → s = t
  single : ∀ (s t : ℕ) first second, state.slots[s]? = some first → state.slots[t]? = some second →
    first.isPresent = true → second.isPresent = true → first.key = second.key → s = t
  counted : state.loadedCount = state.slots.countP ModelSlot.isResident
  room : presentBytes state.slots ≤ budget.bytes
  fitted : ∀ (i s : ℕ) slot, state.works[i]? = some (.load s .loading) → state.slots[s]? = some slot →
    residentBytes state.slots + slot.estimatedBytes ≤ budget.bytes
  remaining : ∀ (i s : ℕ) evicted bytes, state.works[i]? = some (.load s (.dropping evicted bytes)) →
    residentBytes state.slots ≤ bytes

def Tidy (state : PoolState) : Prop :=
  ∀ (s : ℕ) slot, state.slots[s]? = some slot → slot.home = .evicted → ∃ i : ℕ, ∃ work,
    state.works[i]? = some work ∧ s ∈ work.evicted

variable {key : String} {slots : List ModelSlot} {bytes : ℕ}

namespace Sound

variable {budget : MemoryBudget} {state : PoolState} {index : ℕ}

theorem isIdle_iff {slot : ℕ} : state.isIdle slot = true ↔
    (∀ call ∈ state.calls, call.held ≠ some slot) ∧ ∀ work ∈ state.works, work.held ≠ some slot := by
  simp [PoolState.isIdle]

/-! ## Steps that leave the slots alone -/

theorem withCalls (sound : Sound budget state) {calls : List Call}
    (held : ∀ call ∈ calls, ∀ s, call.held = some s → (∃ before ∈ state.calls, before.held = some s) ∨
      ∀ slot, state.slots[s]? = some slot → slot.loaded = true → slot.home = .pooled) :
    Sound budget { state with calls := calls } where
  exclusive := sound.exclusive
  fits := sound.fits
  kept s slot stored loaded notPooled := by
    obtain ⟨noCall, noWork⟩ := isIdle_iff.mp (sound.kept s slot stored loaded notPooled)
    refine isIdle_iff.mpr ⟨?_, noWork⟩
    intro call mem holds
    cases held call mem s holds with
    | inl earlier =>
      obtain ⟨before, isBefore, heldBefore⟩ := earlier
      exact noCall before isBefore heldBefore
    | inr pooled => exact notPooled (pooled slot stored loaded)
  keyed := sound.keyed
  single := sound.single
  counted := sound.counted
  room := sound.room
  fitted := sound.fitted
  remaining := sound.remaining

theorem setCall (sound : Sound budget state) {call next : Call} (stored : state.calls[index]? = some call)
    (held : ∀ s, next.held = some s → call.held = some s ∨
      ∀ slot, state.slots[s]? = some slot → slot.loaded = true → slot.home = .pooled) :
    Sound budget (state.setCall index next) := by
  apply sound.withCalls
  intro other mem s holds
  cases List.mem_or_eq_of_mem_set mem with
  | inl earlier => exact .inl ⟨other, earlier, holds⟩
  | inr same =>
    subst same
    exact (held s holds).imp_left fun before => ⟨call, List.mem_of_getElem? stored, before⟩

theorem touch (sound : Sound budget state) (slot : ℕ) : Sound budget (state.touch slot) :=
  ⟨sound.exclusive, sound.fits, sound.kept, sound.keyed, sound.single, sound.counted, sound.room, sound.fitted,
    sound.remaining⟩

/-- What a task has to know of its next phase. -/
structure Ready (budget : MemoryBudget) (state : PoolState) (index : ℕ) (work next : Work) : Prop where
  locked : next.holdsLock = true → work.holdsLock = true ∨ state.isLocked = false
  fits : ∀ s phase, next = .load s phase → ∃ slot, state.slots[s]? = some slot ∧ Fits index phase slot
  held : ∀ s, next.held = some s → work.held = some s
  fitted : ∀ s slot, next = .load s .loading → state.slots[s]? = some slot →
    residentBytes state.slots + slot.estimatedBytes ≤ budget.bytes
  remaining : ∀ s evicted bytes, next = .load s (.dropping evicted bytes) → residentBytes state.slots ≤ bytes

theorem setWork (sound : Sound budget state) {work next : Work} (stored : state.works[index]? = some work)
    (ready : Ready budget state index work next) : Sound budget (state.setWork index next) where
  exclusive i j first second isFirst isSecond firstLocks secondLocks := by
    have others : ∀ (place : ℕ) other, state.works[place]? = some other → other.holdsLock = true → next.holdsLock = true →
        place = index := by
      intro place other isOther otherLocks nextLocks
      cases ready.locked nextLocks with
      | inl before => exact sound.exclusive place index other work isOther stored otherLocks before
      | inr free =>
        have found := List.any_eq_false.mp free other (List.mem_of_getElem? isOther)
        exact absurd otherLocks found
    rcases getElem?_set_cases isFirst with ⟨atFirst, rfl⟩ | ⟨_, wasFirst⟩ <;>
      rcases getElem?_set_cases isSecond with ⟨atSecond, rfl⟩ | ⟨_, wasSecond⟩
    · exact atFirst.trans atSecond.symm
    · exact atFirst.trans (others j second wasSecond secondLocks firstLocks).symm
    · exact (others i first wasFirst firstLocks secondLocks).trans atSecond.symm
    · exact sound.exclusive i j first second wasFirst wasSecond firstLocks secondLocks
  fits i s phase isLoad := by
    rcases getElem?_set_cases isLoad with ⟨atIndex, same⟩ | ⟨_, wasLoad⟩
    · subst atIndex
      exact ready.fits s phase same.symm
    · exact sound.fits i s phase wasLoad
  kept s slot isSlot loaded notPooled := by
    obtain ⟨noCall, noWork⟩ := isIdle_iff.mp (sound.kept s slot isSlot loaded notPooled)
    refine isIdle_iff.mpr ⟨noCall, forall_mem_set noWork ?_⟩
    intro holds
    exact noWork work (List.mem_of_getElem? stored) (ready.held s holds)
  keyed := sound.keyed
  single := sound.single
  counted := sound.counted
  room := sound.room
  fitted i s slot isLoading isSlot := by
    rcases getElem?_set_cases isLoading with ⟨_, same⟩ | ⟨_, wasLoading⟩
    · exact ready.fitted s slot same.symm isSlot
    · exact sound.fitted i s slot wasLoading isSlot
  remaining i s evicted bytes isDropping := by
    rcases getElem?_set_cases isDropping with ⟨_, same⟩ | ⟨_, wasDropping⟩
    · exact ready.remaining s evicted bytes same.symm
    · exact sound.remaining i s evicted bytes wasDropping

theorem addWork (sound : Sound budget state) {next : Work} (free : next.holdsLock = false)
    (fits : ∀ s phase, next = .load s phase → ∃ slot, state.slots[s]? = some slot ∧ Fits state.works.length phase slot)
    (held : ∀ s slot, next.held = some s → state.slots[s]? = some slot → slot.loaded = true → slot.home = .pooled) :
    Sound budget { state with works := state.works ++ [next] } where
  exclusive i j first second isFirst isSecond firstLocks secondLocks := by
    rcases getElem?_append_cases isFirst with wasFirst | ⟨_, rfl⟩
    · rcases getElem?_append_cases isSecond with wasSecond | ⟨_, rfl⟩
      · exact sound.exclusive i j first second wasFirst wasSecond firstLocks secondLocks
      · rw [free] at secondLocks
        cases secondLocks
    · rw [free] at firstLocks
      cases firstLocks
  fits i s phase isLoad := by
    rcases getElem?_append_cases isLoad with wasLoad | ⟨atEnd, same⟩
    · exact sound.fits i s phase wasLoad
    · subst atEnd
      exact fits s phase same.symm
  kept s slot isSlot loaded notPooled := by
    obtain ⟨noCall, noWork⟩ := isIdle_iff.mp (sound.kept s slot isSlot loaded notPooled)
    refine isIdle_iff.mpr ⟨noCall, ?_⟩
    intro work mem
    cases List.mem_append.mp mem with
    | inl earlier => exact noWork work earlier
    | inr last =>
      rw [List.mem_singleton.mp last]
      intro holds
      exact notPooled (held s slot holds isSlot loaded)
  keyed := sound.keyed
  single := sound.single
  counted := sound.counted
  room := sound.room
  fitted i s slot isLoading isSlot := by
    rcases getElem?_append_cases isLoading with wasLoading | ⟨_, same⟩
    · exact sound.fitted i s slot wasLoading isSlot
    · rw [← same] at free
      cases free
  remaining i s evicted bytes isDropping := by
    rcases getElem?_append_cases isDropping with wasDropping | ⟨_, same⟩
    · exact sound.remaining i s evicted bytes wasDropping
    · rw [← same] at free
      cases free

/-! ## Steps that change a slot -/

theorem setSlot (sound : Sound budget state) {slot next : ModelSlot} (stored : state.slots[index]? = some slot)
    (sameKey : next.key = slot.key) (sameBytes : next.estimatedBytes = slot.estimatedBytes)
    (resident : next.isResident = slot.isResident) (present : next.isPresent = true → slot.isPresent = true)
    (pooled : next.home = .pooled → slot.home = .pooled)
    (kept : next.loaded = true → next.home ≠ .pooled → state.isIdle index = true)
    (fits : ∀ i phase, state.works[i]? = some (.load index phase) → Fits i phase next) :
    Sound budget (state.setSlot index next) := by
  have residentSame : residentBytes (state.slots.set index next) = residentBytes state.slots := by
    have sums := sum_map_set stored (fun slot => if slot.isResident then slot.estimatedBytes else 0) next
    simp only [resident, sameBytes] at sums
    unfold residentBytes
    omega
  have present_le : presentBytes (state.slots.set index next) ≤ presentBytes state.slots := by
    have sums := sum_map_set stored (fun slot => if slot.isPresent then slot.estimatedBytes else 0) next
    unfold presentBytes
    by_cases isPresent : next.isPresent = true
    · simp only [isPresent, present isPresent, sameBytes, if_true] at sums
      omega
    · simp only [isPresent, Bool.false_eq_true, if_false] at sums
      omega
  -- whatever stands at a place now has a key and stood there before, or has replaced what did
  have before : ∀ (t : ℕ) other, (state.slots.set index next)[t]? = some other → ∃ earlier, state.slots[t]? = some earlier ∧
      other.key = earlier.key ∧ other.estimatedBytes = earlier.estimatedBytes ∧
      (other.home = .pooled → earlier.home = .pooled) ∧ (other.isPresent = true → earlier.isPresent = true) := by
    intro t other isOther
    rcases getElem?_set_cases isOther with ⟨rfl, rfl⟩ | ⟨_, wasOther⟩
    · exact ⟨slot, stored, sameKey, sameBytes, pooled, present⟩
    · exact ⟨other, wasOther, rfl, rfl, id, id⟩
  constructor
  · exact sound.exclusive
  · intro i s phase isLoad
    by_cases same : s = index
    · subst same
      exact ⟨next, List.getElem?_set_self (List.getElem?_eq_some_iff.mp stored).1, fits i phase isLoad⟩
    · obtain ⟨other, isOther, fitsOther⟩ := sound.fits i s phase isLoad
      exact ⟨other, (List.getElem?_set_ne (Ne.symm same)).trans isOther, fitsOther⟩
  · intro s other isOther loaded notPooled
    rcases getElem?_set_cases isOther with ⟨rfl, rfl⟩ | ⟨_, wasOther⟩
    · exact kept loaded notPooled
    · exact sound.kept s other wasOther loaded notPooled
  · intro s t first second isFirst isSecond firstPooled secondPooled sameKeys
    obtain ⟨earlierFirst, wasFirst, firstKey, _, firstHome, _⟩ := before s first isFirst
    obtain ⟨earlierSecond, wasSecond, secondKey, _, secondHome, _⟩ := before t second isSecond
    exact sound.keyed s t earlierFirst earlierSecond wasFirst wasSecond (firstHome firstPooled) (secondHome secondPooled)
      (firstKey.symm.trans (sameKeys.trans secondKey))
  · intro s t first second isFirst isSecond firstPresent secondPresent sameKeys
    obtain ⟨earlierFirst, wasFirst, firstKey, _, _, firstThere⟩ := before s first isFirst
    obtain ⟨earlierSecond, wasSecond, secondKey, _, _, secondThere⟩ := before t second isSecond
    exact sound.single s t earlierFirst earlierSecond wasFirst wasSecond (firstThere firstPresent)
      (secondThere secondPresent) (firstKey.symm.trans (sameKeys.trans secondKey))
  · have counts := countP_set stored ModelSlot.isResident next
    rw [resident] at counts
    exact sound.counted.trans (by simp only [PoolState.setSlot]; omega)
  · exact present_le.trans sound.room
  · intro i s other isLoading isOther
    obtain ⟨earlier, wasOther, _, otherBytes, _⟩ := before s other isOther
    rw [otherBytes]
    exact residentSame ▸ sound.fitted i s earlier isLoading wasOther
  · intro i s evicted bytes isDropping
    exact residentSame ▸ sound.remaining i s evicted bytes isDropping

theorem addSlot (sound : Sound budget state) (absent : slotOf state.slots key = none) :
    Sound budget { state with slots := state.slots ++ [newSlot key bytes] } := by
  have notPresent : (newSlot key bytes).isPresent = false := rfl
  have notResident : (newSlot key bytes).isResident = false := rfl
  have residentSame : residentBytes (state.slots ++ [newSlot key bytes]) = residentBytes state.slots := by
    simp [residentBytes, notResident]
  have noneThere : ∀ (s : ℕ) slot, state.slots[s]? = some slot → slot.home = .pooled → slot.key ≠ key := by
    intro s slot stored isPooled sameKey
    have found := List.findIdx?_eq_none_iff.mp absent slot (List.mem_of_getElem? stored)
    simp [isPooled, sameKey] at found
  have stays : ∀ (s : ℕ) slot, state.slots[s]? = some slot → (state.slots ++ [newSlot key bytes])[s]? = some slot := by
    intro s slot stored
    rw [List.getElem?_append_left (List.getElem?_eq_some_iff.mp stored).1]
    exact stored
  constructor
  · exact sound.exclusive
  · intro i s phase isLoad
    obtain ⟨slot, stored, fits⟩ := sound.fits i s phase isLoad
    exact ⟨slot, stays s slot stored, fits⟩
  · intro s slot isSlot loaded notPooled
    rcases getElem?_append_cases isSlot with wasSlot | ⟨_, rfl⟩
    · exact sound.kept s slot wasSlot loaded notPooled
    · cases loaded
  · intro s t first second isFirst isSecond firstPooled secondPooled sameKeys
    rcases getElem?_append_cases isFirst with wasFirst | ⟨atFirst, rfl⟩ <;>
      rcases getElem?_append_cases isSecond with wasSecond | ⟨atSecond, rfl⟩
    · exact sound.keyed s t first second wasFirst wasSecond firstPooled secondPooled sameKeys
    · exact absurd sameKeys (noneThere s first wasFirst firstPooled)
    · exact absurd sameKeys.symm (noneThere t second wasSecond secondPooled)
    · exact atFirst.trans atSecond.symm
  · intro s t first second isFirst isSecond firstPresent secondPresent sameKeys
    rcases getElem?_append_cases isFirst with wasFirst | ⟨_, rfl⟩
    · rcases getElem?_append_cases isSecond with wasSecond | ⟨_, rfl⟩
      · exact sound.single s t first second wasFirst wasSecond firstPresent secondPresent sameKeys
      · cases secondPresent
    · cases firstPresent
  · simpa [notResident] using sound.counted
  · simpa [presentBytes, notPresent] using sound.room
  · intro i s slot isLoading isSlot
    rcases getElem?_append_cases isSlot with wasSlot | ⟨atEnd, rfl⟩
    · exact residentSame ▸ sound.fitted i s slot isLoading wasSlot
    · -- a load has its slot, so it is none of the new one
      obtain ⟨slot, stored, _⟩ := sound.fits i s _ isLoading
      have inside := (List.getElem?_eq_some_iff.mp stored).1
      omega
  · intro i s evicted bytes isDropping
    exact residentSame ▸ sound.remaining i s evicted bytes isDropping

variable {slot : ModelSlot}

theorem fill (sound : Sound budget state) (stored : state.slots[index]? = some slot)
    (empty : slot.loaded = false) (pooled : slot.home = .pooled)
    (quiet : ∀ (i : ℕ) work, state.works[i]? = some work → work.holdsLock = true → ∃ s result, work = .load s (.settled result))
    (alone : ∀ (t : ℕ) other, state.slots[t]? = some other → other.isPresent = true → other.key ≠ slot.key)
    (room : presentBytes state.slots + slot.estimatedBytes ≤ budget.bytes) :
    Sound budget ({ state with loadedCount := state.loadedCount + 1 }.setSlot index { slot with loaded := true }) := by
  have inside := (List.getElem?_eq_some_iff.mp stored).1
  have isResident : ({ slot with loaded := true } : ModelSlot).isResident = true := isResident_iff.mpr ⟨rfl, pooled⟩
  have isPresent : ({ slot with loaded := true } : ModelSlot).isPresent = true := isPresent_iff.mpr ⟨rfl, by simp [pooled]⟩
  have wasNotResident : slot.isResident = false := by simp [ModelSlot.isResident, empty]
  have wasNotPresent : slot.isPresent = false := by simp [ModelSlot.isPresent, empty]
  constructor
  · exact sound.exclusive
  · intro i s phase isLoad
    obtain ⟨other, isOther, fits⟩ := sound.fits i s phase isLoad
    by_cases same : s = index
    · subst same
      rw [stored] at isOther
      cases isOther
      refine ⟨_, List.getElem?_set_self inside, fits.owned, fits.pooled, ?_⟩
      intro filling
      -- a load that fills its slot has the lock
      have locked : (Work.load s phase).holdsLock = true := by
        cases phase <;> first | rfl | cases filling
      obtain ⟨_, result, isSettled⟩ := quiet i _ isLoad locked
      cases isSettled
      cases filling
    · exact ⟨other, (List.getElem?_set_ne (Ne.symm same)).trans isOther, fits⟩
  · intro s other isOther loaded notPooled
    rcases getElem?_set_cases isOther with ⟨_, rfl⟩ | ⟨_, wasOther⟩
    · exact absurd pooled notPooled
    · exact sound.kept s other wasOther loaded notPooled
  · intro s t first second isFirst isSecond firstPooled secondPooled sameKeys
    have before : ∀ (t : ℕ) other, (state.slots.set index { slot with loaded := true })[t]? = some other →
        ∃ earlier, state.slots[t]? = some earlier ∧ other.key = earlier.key ∧ other.home = earlier.home := by
      intro t other isOther
      rcases getElem?_set_cases isOther with ⟨rfl, rfl⟩ | ⟨_, wasOther⟩
      · exact ⟨slot, stored, rfl, rfl⟩
      · exact ⟨other, wasOther, rfl, rfl⟩
    obtain ⟨earlierFirst, wasFirst, firstKey, firstHome⟩ := before s first isFirst
    obtain ⟨earlierSecond, wasSecond, secondKey, secondHome⟩ := before t second isSecond
    exact sound.keyed s t earlierFirst earlierSecond wasFirst wasSecond (firstHome ▸ firstPooled)
      (secondHome ▸ secondPooled) (firstKey.symm.trans (sameKeys.trans secondKey))
  · intro s t first second isFirst isSecond firstPresent secondPresent sameKeys
    rcases getElem?_set_cases isFirst with ⟨atFirst, rfl⟩ | ⟨_, wasFirst⟩ <;>
      rcases getElem?_set_cases isSecond with ⟨atSecond, rfl⟩ | ⟨_, wasSecond⟩
    · exact atFirst.trans atSecond.symm
    · exact absurd sameKeys.symm (alone t second wasSecond secondPresent)
    · exact absurd sameKeys (alone s first wasFirst firstPresent)
    · exact sound.single s t first second wasFirst wasSecond firstPresent secondPresent sameKeys
  · have counts := countP_set stored ModelSlot.isResident { slot with loaded := true }
    have counted := sound.counted
    simp only [isResident, wasNotResident, if_true, Bool.false_eq_true, if_false] at counts
    simp only [PoolState.setSlot]
    omega
  · have sums := sum_map_set stored (fun slot => if slot.isPresent then slot.estimatedBytes else 0) { slot with loaded := true }
    simp only [isPresent, wasNotPresent, if_true, Bool.false_eq_true, if_false] at sums
    simp only [PoolState.setSlot]
    unfold presentBytes at room ⊢
    omega
  · intro i s other isLoading _
    obtain ⟨_, result, isSettled⟩ := quiet i _ isLoading rfl
    cases isSettled
  · intro i s evicted bytes isDropping
    obtain ⟨_, result, isSettled⟩ := quiet i _ isDropping rfl
    cases isSettled

theorem sweep (sound : Sound budget state) {sweep : Sweep}
    (swept : Swept (fun index => state.isIdle index = true) state.slots sweep) : Sound budget (state.swept sweep) := by
  -- whatever stands at a place now stood there before, or is idle and has been taken
  have before : ∀ (t : ℕ) other, sweep.slots[t]? = some other → state.slots[t]? = some other ∨
      ∃ earlier, state.slots[t]? = some earlier ∧ earlier.isResident = true ∧ state.isIdle t = true ∧ other = earlier.taken := by
    intro t other isOther
    cases swept.rows t with
    | inl same => exact .inl (same ▸ isOther)
    | inr evicted =>
      obtain ⟨_, idle, earlier, wasOther, resident, isTaken⟩ := evicted
      rw [isTaken] at isOther
      cases isOther
      exact .inr ⟨earlier, wasOther, resident, idle, rfl⟩
  constructor
  · exact sound.exclusive
  · intro i s phase isLoad
    obtain ⟨slot, stored, fits⟩ := sound.fits i s phase isLoad
    cases swept.rows s with
    | inl same => exact ⟨slot, same.trans stored, fits⟩
    | inr evicted =>
      obtain ⟨_, idle, earlier, _, _, isTaken⟩ := evicted
      refine ⟨_, isTaken, ?_⟩
      -- nobody holds an idle slot, so its loads are over
      have gone := (isIdle_iff.mp idle).2 _ (List.mem_of_getElem? isLoad)
      cases phase with
      | gone result => exact ⟨by simp [LoadPhase.isOpen], by simp [LoadPhase.isTrying], by simp [LoadPhase.isFilling]⟩
      | queued | admitting | evicting | dropping | loading | failed | settled | publishing | published | leaving =>
        exact absurd rfl gone
  · intro s other isOther loaded notPooled
    rcases before s other isOther with wasOther | ⟨_, _, _, idle, _⟩
    · exact sound.kept s other wasOther loaded notPooled
    · exact idle
  · intro s t first second isFirst isSecond firstPooled secondPooled sameKeys
    rcases before s first isFirst with wasFirst | ⟨_, _, _, _, rfl⟩
    · rcases before t second isSecond with wasSecond | ⟨_, _, _, _, rfl⟩
      · exact sound.keyed s t first second wasFirst wasSecond firstPooled secondPooled sameKeys
      · cases secondPooled
    · cases firstPooled
  · intro s t first second isFirst isSecond firstPresent secondPresent sameKeys
    have there : ∀ (t : ℕ) other, sweep.slots[t]? = some other → other.isPresent = true →
        ∃ earlier, state.slots[t]? = some earlier ∧ earlier.isPresent = true ∧ earlier.key = other.key := by
      intro t other isOther present
      rcases before t other isOther with wasOther | ⟨earlier, wasOther, resident, _, rfl⟩
      · exact ⟨other, wasOther, present, rfl⟩
      · obtain ⟨loaded, pooled⟩ := isResident_iff.mp resident
        exact ⟨earlier, wasOther, isPresent_iff.mpr ⟨loaded, by simp [pooled]⟩, rfl⟩
    obtain ⟨earlierFirst, wasFirst, firstThere, firstKey⟩ := there s first isFirst firstPresent
    obtain ⟨earlierSecond, wasSecond, secondThere, secondKey⟩ := there t second isSecond secondPresent
    exact sound.single s t earlierFirst earlierSecond wasFirst wasSecond firstThere secondThere
      (firstKey.trans (sameKeys.trans secondKey.symm))
  · have counted := sound.counted
    have counts := swept.counted
    simp only [PoolState.swept]
    omega
  · exact swept.present ▸ sound.room
  · intro i s other isLoading isOther
    have less := swept.less
    rcases before s other isOther with wasOther | ⟨earlier, wasOther, _, _, rfl⟩
    · have fitted := sound.fitted i s other isLoading wasOther
      simp only [PoolState.swept]
      omega
    · have fitted := sound.fitted i s earlier isLoading wasOther
      simp only [PoolState.swept, ModelSlot.taken]
      omega
  · intro i s evicted bytes isDropping
    exact swept.less.trans (sound.remaining i s evicted bytes isDropping)

theorem drop (sound : Sound budget state) (dropped : Dropped state.slots slots) :
    Sound budget { state with slots := slots } := by
  have before : ∀ (t : ℕ) other, slots[t]? = some other → state.slots[t]? = some other ∨
      ∃ earlier : ModelSlot, state.slots[t]? = some earlier ∧ earlier.home = .evicted ∧ other = { earlier with home := .out } := by
    intro t other isOther
    cases dropped.rows t with
    | inl same => exact .inl (same ▸ isOther)
    | inr gone =>
      obtain ⟨earlier, wasOther, isEvicted, isOut⟩ := gone
      rw [isOut] at isOther
      cases isOther
      exact .inr ⟨earlier, wasOther, isEvicted, rfl⟩
  constructor
  · exact sound.exclusive
  · intro i s phase isLoad
    obtain ⟨slot, stored, fits⟩ := sound.fits i s phase isLoad
    cases dropped.rows s with
    | inl same => exact ⟨slot, same.trans stored, fits⟩
    | inr gone =>
      obtain ⟨earlier, wasOther, isEvicted, isOut⟩ := gone
      rw [stored] at wasOther
      cases wasOther
      refine ⟨_, isOut, fits.owned, ?_, fits.empty⟩
      intro trying
      rw [fits.pooled trying] at isEvicted
      cases isEvicted
  · intro s other isOther loaded notPooled
    rcases before s other isOther with wasOther | ⟨earlier, wasOther, isEvicted, rfl⟩
    · exact sound.kept s other wasOther loaded notPooled
    · exact sound.kept s earlier wasOther loaded (by simp [isEvicted])
  · intro s t first second isFirst isSecond firstPooled secondPooled sameKeys
    rcases before s first isFirst with wasFirst | ⟨_, _, _, rfl⟩
    · rcases before t second isSecond with wasSecond | ⟨_, _, _, rfl⟩
      · exact sound.keyed s t first second wasFirst wasSecond firstPooled secondPooled sameKeys
      · cases secondPooled
    · cases firstPooled
  · intro s t first second isFirst isSecond firstPresent secondPresent sameKeys
    rcases before s first isFirst with wasFirst | ⟨_, _, _, rfl⟩
    · rcases before t second isSecond with wasSecond | ⟨_, _, _, rfl⟩
      · exact sound.single s t first second wasFirst wasSecond firstPresent secondPresent sameKeys
      · simp [ModelSlot.isPresent] at secondPresent
    · simp [ModelSlot.isPresent] at firstPresent
  · exact sound.counted.trans dropped.counted.symm
  · exact dropped.present.trans sound.room
  · intro i s other isLoading isOther
    rw [dropped.resident]
    rcases before s other isOther with wasOther | ⟨earlier, wasOther, _, rfl⟩
    · exact sound.fitted i s other isLoading wasOther
    · exact sound.fitted i s earlier isLoading wasOther
  · intro i s evicted bytes isDropping
    exact dropped.resident ▸ sound.remaining i s evicted bytes isDropping

end Sound

variable {place : ℕ} {budget : MemoryBudget} {result : LoadResult}

section

variable {state : PoolState} {index : ℕ} {work next : Work}

theorem holdsLock_of_evicted {slot : ℕ} (taken : slot ∈ work.evicted) : work.holdsLock = true := by
  cases work with
  | load index phase => cases phase <;> first | rfl | cases taken
  | evictAll phase => cases phase <;> first | rfl | cases taken

theorem Tidy.mem_evicted (tidy : Tidy state) (sound : Sound budget state) (stored : state.works[index]? = some work)
    (locked : work.holdsLock = true) (isSlot : state.slots[place]? = some slot)
    (isEvicted : slot.home = .evicted) : place ∈ work.evicted := by
  obtain ⟨i, other, isOther, taken⟩ := tidy place slot isSlot isEvicted
  obtain rfl := sound.exclusive i index other work isOther stored (holdsLock_of_evicted taken) locked
  rw [stored] at isOther
  cases isOther
  exact taken

theorem Tidy.setWork (tidy : Tidy state) (stored : state.works[index]? = some work)
    (keeps : ∀ (place : ℕ) slot, state.slots[place]? = some slot → slot.home = .evicted → place ∈ work.evicted →
      place ∈ next.evicted) : Tidy (state.setWork index next) := by
  intro place slot isSlot isEvicted
  obtain ⟨i, other, isOther, taken⟩ := tidy place slot isSlot isEvicted
  by_cases same : i = index
  · subst same
    rw [stored] at isOther
    cases isOther
    exact ⟨i, next, List.getElem?_set_self (List.getElem?_eq_some_iff.mp stored).1, keeps place slot isSlot isEvicted taken⟩
  · exact ⟨i, other, (List.getElem?_set_ne (Ne.symm same)).trans isOther, taken⟩

theorem Tidy.withSlots (tidy : Tidy state)
    (before : ∀ (place : ℕ) slot, slots[place]? = some slot → slot.home = .evicted →
      ∃ earlier, state.slots[place]? = some earlier ∧ earlier.home = .evicted) : Tidy { state with slots := slots } := by
  intro place slot isSlot isEvicted
  obtain ⟨earlier, wasSlot, wasEvicted⟩ := before place slot isSlot isEvicted
  exact tidy place earlier wasSlot wasEvicted

end

structure InOrder (budget : MemoryBudget) (state : PoolState) : Prop where
  sound : Sound budget state
  tidy : Tidy state

/-! ## The sections of a call -/

section

variable {state next : PoolState} {call index : ℕ} {slot : ModelSlot}

theorem slotOf_some (found : slotOf slots key = some index) :
    ∃ slot, slots[index]? = some slot ∧ slot.home = .pooled ∧ slot.key = key := by
  obtain ⟨inside, isSlot, _⟩ := List.findIdx?_eq_some_iff_getElem.mp found
  rw [Bool.and_eq_true, beq_iff_eq, beq_iff_eq] at isSlot
  exact ⟨slots[index], List.getElem?_eq_getElem inside, isSlot⟩

section

variable (order : InOrder budget state)
include order

theorem InOrder.setCall {before after : Call} (stored : state.calls[call]? = some before)
    (held : ∀ s, after.held = some s → before.held = some s ∨
      ∀ slot, state.slots[s]? = some slot → slot.loaded = true → slot.home = .pooled) :
    InOrder budget (state.setCall call after) :=
  ⟨order.sound.setCall stored held, order.tidy⟩

theorem InOrder.touch (slot : ℕ) : InOrder budget (state.touch slot) :=
  ⟨order.sound.touch slot, order.tidy⟩

theorem InOrder.findResident (stored : state.calls[call]? = some (.started key)) :
    InOrder budget (state.findResident call key) := by
  have misses : InOrder budget (state.setCall call (.missed key)) := order.setCall stored (by simp [Call.held])
  unfold PoolState.findResident
  split
  next index found =>
    split
    · obtain ⟨slot, isSlot, pooled, _⟩ := slotOf_some found
      refine (order.touch index).setCall stored fun s holds => .inr ?_
      cases holds
      intro other isOther _
      rw [show (state.touch index).slots = state.slots from rfl, isSlot] at isOther
      cases isOther
      exact pooled
    · exact misses
  next => exact misses

theorem InOrder.fetchSlot
    (stored : state.calls[call]? = some (.missed key)) : InOrder budget (state.fetchSlot call key bytes) := by
  unfold PoolState.fetchSlot
  split
  next index found =>
    obtain ⟨slot, isSlot, pooled, _⟩ := slotOf_some found
    refine order.setCall stored fun s holds => .inr ?_
    cases holds
    intro other isOther _
    rw [isSlot] at isOther
    cases isOther
    exact pooled
  next absent =>
    have added : InOrder budget { state with slots := state.slots ++ [newSlot key bytes] } := by
      refine ⟨order.sound.addSlot absent, order.tidy.withSlots ?_⟩
      intro place slot isSlot isEvicted
      rcases getElem?_append_cases isSlot with wasSlot | ⟨_, rfl⟩
      · exact ⟨slot, wasSlot, isEvicted⟩
      · cases isEvicted
    refine added.setCall stored fun s holds => .inr ?_
    cases holds
    intro other isOther loaded
    rcases getElem?_append_cases isOther with wasOther | ⟨_, rfl⟩
    · have inside := (List.getElem?_eq_some_iff.mp wasOther).1
      omega
    · cases loaded

theorem InOrder.checkSlot (stored : state.calls[call]? = some (.fetched index)) :
    InOrder budget (state.checkSlot call index slot) := by
  unfold PoolState.checkSlot
  split
  · exact (order.touch index).setCall stored fun s holds => .inl holds
  · exact order.setCall stored fun s holds => .inl holds

theorem InOrder.startLoad (stored : state.calls[call]? = some (.checking index))
    (isSlot : state.slots[index]? = some slot) (free : slot.loading = none) (pooled : slot.home = .pooled) :
    InOrder budget (state.startLoad call index slot) := by
  have loads : InOrder budget (state.setSlot index { slot with loading := some state.works.length }) := by
    refine ⟨order.sound.setSlot isSlot rfl rfl rfl id id (fun loaded notPooled => absurd pooled notPooled) ?_, ?_⟩
    · intro i phase isLoad
      obtain ⟨other, isOther, fits⟩ := order.sound.fits i index phase isLoad
      rw [isSlot] at isOther
      cases isOther
      refine ⟨?_, fits.pooled, fits.empty⟩
      -- a slot that is idle has no open load
      intro isOpen
      have owned := fits.owned isOpen
      rw [free] at owned
      cases owned
    · apply order.tidy.withSlots
      intro place other isOther isEvicted
      rcases getElem?_set_cases isOther with ⟨_, rfl⟩ | ⟨_, wasOther⟩
      · rw [show slot.home = .pooled from pooled] at isEvicted
        cases isEvicted
      · exact ⟨other, wasOther, isEvicted⟩
  have inside := (List.getElem?_eq_some_iff.mp isSlot).1
  have isNow : (state.setSlot index { slot with loading := some state.works.length }).slots[index]? =
      some { slot with loading := some state.works.length } := List.getElem?_set_self inside
  have added : Sound budget { state.setSlot index { slot with loading := some state.works.length } with
      works := state.works ++ [.load index .queued] } := by
    apply loads.sound.addWork rfl
    · intro s phase same
      cases same
      exact ⟨_, isNow, fun _ => rfl, fun _ => pooled, by simp [LoadPhase.isFilling]⟩
    · intro s other holds isOther _
      cases holds
      rw [isNow] at isOther
      cases isOther
      exact pooled
  have addedTidy : Tidy { state.setSlot index { slot with loading := some state.works.length } with
      works := state.works ++ [.load index .queued] } := by
    intro place other isOther isEvicted
    obtain ⟨i, work, isWork, taken⟩ := loads.tidy place other isOther isEvicted
    have inList := (List.getElem?_eq_some_iff.mp isWork).1
    exact ⟨i, work, (List.getElem?_append_left inList).trans isWork, taken⟩
  have both : InOrder budget { state.setSlot index { slot with loading := some state.works.length } with
      works := state.works ++ [.load index .queued] } := ⟨added, addedTidy⟩
  exact both.setCall stored fun s holds => .inl holds

theorem InOrder.joinLoad (stored : state.calls[call]? = some (.checking index))
    (isSlot : state.slots[index]? = some slot)
    (startsPooled : slot.loaded = false → slot.loading = none → slot.home = .pooled) :
    InOrder budget (state.joinLoad call index slot) := by
  unfold PoolState.joinLoad
  split
  next => exact (order.touch index).setCall stored fun s holds => .inl holds
  next notLoaded =>
    split
    next work _ => exact order.setCall stored fun s holds => .inl holds
    next free => exact order.startLoad stored isSlot free (startsPooled (by simpa using notLoaded) free)

theorem InOrder.finishCall {work : ℕ}
    (stored : state.calls[call]? = some (.waiting index work)) : InOrder budget (state.finishCall call index result) := by
  unfold PoolState.finishCall
  split
  · exact order.setCall stored fun s holds => .inl holds
  · exact order.setCall stored (by simp [Call.held])

end

end

/-! ## The sections of a load -/

section

variable {state : PoolState} {work index : ℕ} {slot : ModelSlot} {phase after : LoadPhase}
  {spared : List String} {evicted : List ℕ}

section

variable (sound : Sound budget state) (stored : state.works[work]? = some (.load index phase))
  (isSlot : state.slots[index]? = some slot)
include sound stored isSlot

theorem fits_of_load : Fits work phase slot := by
  obtain ⟨other, isOther, fits⟩ := sound.fits work index phase stored
  rw [isSlot] at isOther
  cases isOther
  exact fits

theorem Sound.setLoad (fits : Fits work after slot)
    (locked : (Work.load index after).holdsLock = true → (Work.load index phase).holdsLock = true ∨ state.isLocked = false)
    (held : (Work.load index phase).held = some index)
    (fitted : after = .loading → residentBytes state.slots + slot.estimatedBytes ≤ budget.bytes)
    (remaining : ∀ evicted bytes, after = .dropping evicted bytes → residentBytes state.slots ≤ bytes) :
    Sound budget (state.setWork work (.load index after)) := by
  refine sound.setWork stored ⟨locked, ?_, ?_, ?_, ?_⟩
  · intro s other same
    cases same
    exact ⟨slot, isSlot, fits⟩
  · intro s holds
    have sameSlot : s = index := by
      cases after <;> cases holds <;> rfl
    exact sameSlot ▸ held
  · intro s other same isOther
    cases same
    rw [isSlot] at isOther
    cases isOther
    exact fitted rfl
  · intro s evicted bytes same
    cases same
    exact remaining evicted bytes rfl

end

theorem InOrder.setLoad (order : InOrder budget state) (stored : state.works[work]? = some (.load index phase))
    (isSlot : state.slots[index]? = some slot) (fits : Fits work after slot)
    (locked : (Work.load index after).holdsLock = true → (Work.load index phase).holdsLock = true ∨ state.isLocked = false)
    (held : (Work.load index phase).held = some index) (nothing : (Work.load index phase).evicted = [])
    (notLoading : after ≠ .loading) (notDropping : ∀ evicted bytes, after ≠ .dropping evicted bytes) :
    InOrder budget (state.setWork work (.load index after)) := by
  refine ⟨order.sound.setLoad stored isSlot fits locked held (fun same => absurd same notLoading)
    (fun evicted bytes same => absurd same (notDropping evicted bytes)), order.tidy.setWork stored ?_⟩
  intro place other _ _ taken
  rw [nothing] at taken
  cases taken

theorem InOrder.admitLoad (order : InOrder budget state) (stored : state.works[work]? = some (.load index .admitting))
    (isSlot : state.slots[index]? = some slot) : InOrder budget (state.admitLoad budget work index slot) := by
  have fits := fits_of_load order.sound stored isSlot
  unfold PoolState.admitLoad
  split
  next => exact (order.touch index).setLoad stored isSlot ⟨fun _ => fits.owned rfl, by simp [LoadPhase.isTrying],
    by simp [LoadPhase.isFilling]⟩ (fun _ => .inl rfl) rfl rfl (by simp) (by simp)
  next notLoaded =>
    have empty : slot.loaded = false := by simpa using notLoaded
    split
    · exact order.setLoad stored isSlot ⟨fun _ => fits.owned rfl, fun _ => fits.pooled rfl, fun _ => empty⟩
        (fun _ => .inl rfl) rfl rfl (by simp) (by simp)
    · exact order.setLoad stored isSlot ⟨fun _ => fits.owned rfl, fun _ => fits.pooled rfl, fun _ => empty⟩
        (fun _ => .inl rfl) rfl rfl (by simp) (by simp)

theorem le_of_not_exceeds {requested resident : ℕ} (fitting : ¬PoolState.exceeds budget requested resident = true) :
    resident + requested ≤ budget.bytes := by
  have bounded := budget.bounded
  have room : ¬budget.bytes < saturatingAdd resident requested := fun less => fitting (decide_eq_true less)
  unfold saturatingAdd at room
  omega

theorem fits_admitted {remaining : ℕ} (fits : Fits work phase slot) (filling : phase.isFilling = true) :
    Fits work (PoolState.admitted budget remaining slot.estimatedBytes) slot := by
  have isOpen : phase.isOpen = true := by
    cases phase <;> first | rfl | cases filling
  have isTrying : phase.isTrying = true := by
    cases phase <;> first | rfl | cases filling
  exact ⟨fun _ => fits.owned isOpen, fun _ => fits.pooled isTrying, fun _ => fits.empty filling⟩

theorem fitted_admitted {remaining bytes resident : ℕ} (less : resident ≤ remaining)
    (loads : PoolState.admitted budget remaining bytes = .loading) : resident + bytes ≤ budget.bytes := by
  unfold PoolState.admitted at loads
  split at loads
  next => cases loads
  next fitting =>
    have room := le_of_not_exceeds fitting
    omega

theorem admitted_ne_dropping {remaining bytes : ℕ} {left : ℕ} :
    PoolState.admitted budget remaining bytes ≠ .dropping evicted left := by
  unfold PoolState.admitted
  split <;> simp

theorem mem_idleSlots (mem : place ∈ state.idleSlots) :
    state.isIdle place = true ∧ ∃ slot, state.slots[place]? = some slot ∧ slot.isResident = true := by
  obtain ⟨_, passes⟩ := List.mem_filter.mp mem
  rw [Bool.and_eq_true, Option.any_eq_true] at passes
  exact ⟨passes.2, passes.1⟩

theorem mem_candidates (mem : place ∈ state.candidates key spared) :
    state.isIdle place = true ∧ ∃ slot, state.slots[place]? = some slot ∧ slot.isResident = true := by
  rw [PoolState.candidates, List.mem_insertionSort] at mem
  exact mem_idleSlots (List.mem_of_mem_filter mem)

section

variable (order : InOrder budget state) {before : Work}
include order

theorem evicted_of_sweep {sweep : Sweep}
    (stored : state.works[work]? = some before) (locked : before.holdsLock = true) (nothing : before.evicted = [])
    (swept : Swept (fun place => state.isIdle place = true) state.slots sweep)
    (isSlot : sweep.slots[place]? = some slot) (isEvicted : slot.home = .evicted) : place ∈ sweep.evicted := by
  cases swept.rows place with
  | inl same =>
    have taken := order.tidy.mem_evicted order.sound stored locked (same ▸ isSlot) isEvicted
    rw [nothing] at taken
    cases taken
  | inr evicted => exact evicted.1

theorem InOrder.makeRoom
    (stored : state.works[work]? = some (.load index (.evicting spared))) (isSlot : state.slots[index]? = some slot) :
    InOrder budget (state.makeRoom budget work index slot spared) := by
  have fits := fits_of_load order.sound stored isSlot
  have swept : Swept (fun place => state.isIdle place = true) state.slots (sweepWhile (PoolState.exceeds budget
      slot.estimatedBytes) (state.candidates slot.key spared) ⟨state.slots, residentBytes state.slots, []⟩) :=
    Swept.start.sweepWhile fun place mem => mem_candidates mem
  unfold PoolState.makeRoom
  generalize sweepWhile _ _ _ = sweep at swept ⊢
  -- the load holds its slot, so the sweep has not taken it
  have stays : sweep.slots[index]? = some slot := by
    cases swept.rows index with
    | inl same => exact same.trans isSlot
    | inr evicted =>
      have noWork := (Sound.isIdle_iff.mp evicted.2.1).2 _ (List.mem_of_getElem? stored)
      exact absurd rfl noWork
  have isEvicted := fun (place : ℕ) (slot : ModelSlot) (isSlot : sweep.slots[place]? = some slot)
    (isEvicted : slot.home = .evicted) => evicted_of_sweep order stored rfl rfl swept isSlot isEvicted
  show InOrder budget ((state.swept sweep).setWork work (.load index (if sweep.evicted = [] then _ else _)))
  by_cases nothing : sweep.evicted = []
  · rw [if_pos nothing]
    refine ⟨(order.sound.sweep swept).setLoad stored stays (fits_admitted fits rfl) (fun _ => .inl rfl) rfl
      (fitted_admitted swept.resident) (fun evicted bytes same => absurd same admitted_ne_dropping), ?_⟩
    intro place other isOther evictedNow
    have taken := isEvicted place other isOther evictedNow
    rw [nothing] at taken
    cases taken
  · rw [if_neg nothing]
    refine ⟨(order.sound.sweep swept).setLoad stored stays ⟨fun _ => fits.owned rfl, fun _ => fits.pooled rfl, fun _ => fits.empty rfl⟩
      (fun _ => .inl rfl) rfl (by simp) ?_, ?_⟩
    · intro evicted bytes same
      cases same
      exact swept.resident
    · intro place other isOther evictedNow
      exact ⟨work, _, List.getElem?_set_self (List.getElem?_eq_some_iff.mp stored).1, isEvicted place other isOther evictedNow⟩

theorem not_evicted_of_drop (stored : state.works[work]? = some before) (locked : before.holdsLock = true)
    (isSlot : (dropSlots state.slots before.evicted)[place]? = some slot) : slot.home ≠ .evicted := by
  intro isEvicted
  have dropped : Dropped state.slots (dropSlots state.slots before.evicted) := dropSlots_dropped _
  cases dropped.rows place with
  | inl same =>
    have taken := order.tidy.mem_evicted order.sound stored locked (same ▸ isSlot) isEvicted
    exact dropSlots_out taken isSlot isEvicted
  | inr gone =>
    obtain ⟨_, _, _, isOut⟩ := gone
    rw [isOut] at isSlot
    cases isSlot
    cases isEvicted

theorem InOrder.finishDrop
    (stored : state.works[work]? = some (.load index (.dropping evicted bytes))) (isSlot : state.slots[index]? = some slot) :
    InOrder budget ({ state with slots := dropSlots state.slots evicted }.setWork work
      (.load index (PoolState.admitted budget bytes slot.estimatedBytes))) := by
  have fits := fits_of_load order.sound stored isSlot
  have dropped : Dropped state.slots (dropSlots state.slots evicted) := dropSlots_dropped evicted
  have stays : (dropSlots state.slots evicted)[index]? = some slot := by
    cases dropped.rows index with
    | inl same => exact same.trans isSlot
    | inr gone =>
      obtain ⟨other, isOther, isEvicted, _⟩ := gone
      rw [isSlot] at isOther
      cases isOther
      rw [fits.pooled rfl] at isEvicted
      cases isEvicted
  have resident : residentBytes (dropSlots state.slots evicted) ≤ bytes :=
    dropped.resident ▸ order.sound.remaining work index evicted bytes stored
  refine ⟨(order.sound.drop dropped).setLoad stored stays (fits_admitted fits rfl) (fun _ => .inl rfl) rfl
    (fitted_admitted resident) (fun evicted bytes same => absurd same admitted_ne_dropping), ?_⟩
  intro place other isOther isEvicted
  exact absurd isEvicted (not_evicted_of_drop order stored rfl isOther)

theorem isResident_of_isPresent (stored : state.works[work]? = some before)
    (locked : before.holdsLock = true) (nothing : before.evicted = [])
    (isSlot : state.slots[place]? = some slot) (present : slot.isPresent = true) : slot.isResident = true := by
  obtain ⟨loaded, notOut⟩ := isPresent_iff.mp present
  cases home : slot.home with
  | pooled => exact isResident_iff.mpr ⟨loaded, home⟩
  | out => exact absurd home notOut
  | evicted =>
    have taken := order.tidy.mem_evicted order.sound stored locked isSlot home
    rw [nothing] at taken
    cases taken

theorem InOrder.finishLoad
    (stored : state.works[work]? = some (.load index .loading)) (isSlot : state.slots[index]? = some slot) :
    InOrder budget (state.finishLoad work index slot result) := by
  have fits := fits_of_load order.sound stored isSlot
  have empty := fits.empty rfl
  have pooled := fits.pooled rfl
  have inside := (List.getElem?_eq_some_iff.mp stored).1
  have resident := fun (place : ℕ) (slot : ModelSlot) (isSlot : state.slots[place]? = some slot) =>
    isResident_of_isPresent order stored rfl rfl isSlot
  cases result with
  | error error =>
    exact order.setLoad stored isSlot ⟨fun _ => fits.owned rfl, fun _ => pooled, fun _ => empty⟩ (fun _ => .inl rfl) rfl rfl
      (by simp) (by simp)
  | ok loaded =>
    have settles : InOrder budget (state.setWork work (.load index (.settled (.ok ())))) :=
      order.setLoad stored isSlot ⟨fun _ => fits.owned rfl, by simp [LoadPhase.isTrying], by simp [LoadPhase.isFilling]⟩
        (fun _ => .inl rfl) rfl rfl (by simp) (by simp)
    have settled : (state.setWork work (.load index (.settled (.ok ())))).works[work]? =
        some (.load index (.settled (.ok ()))) := List.getElem?_set_self inside
    have filled : Sound budget ({ state.setWork work (.load index (.settled (.ok ()))) with
        loadedCount := state.loadedCount + 1 }.setSlot index { slot with loaded := true }) := by
      apply settles.sound.fill isSlot empty pooled
      · -- the lock is with this task alone
        intro i other isOther locked
        obtain rfl := settles.sound.exclusive i work _ _ isOther settled locked rfl
        rw [settled] at isOther
        cases isOther
        exact ⟨index, _, rfl⟩
      · intro t other isOther present sameKey
        obtain ⟨isLoaded, home⟩ := isResident_iff.mp (resident t other isOther present)
        obtain rfl := order.sound.keyed t index other slot isOther isSlot home pooled sameKey
        cases isSlot.symm.trans isOther
        rw [empty] at isLoaded
        cases isLoaded
      · have fitted := order.sound.fitted work index slot stored isSlot
        have same : presentBytes state.slots = residentBytes state.slots := by
          unfold presentBytes residentBytes
          congr 1
          apply List.map_congr_left
          intro other mem
          obtain ⟨place, isOther⟩ := List.mem_iff_getElem?.mp mem
          have both : other.isPresent = other.isResident := by
            apply Bool.eq_iff_iff.mpr
            constructor
            · exact resident place other isOther
            · intro isResident
              obtain ⟨isLoaded, home⟩ := isResident_iff.mp isResident
              exact isPresent_iff.mpr ⟨isLoaded, by simp [home]⟩
          rw [both]
        rw [show (state.setWork work _).slots = state.slots from rfl, same]
        exact fitted
    have tidy : Tidy ({ state.setWork work (.load index (.settled (.ok ()))) with
        loadedCount := state.loadedCount + 1 }.setSlot index { slot with loaded := true }) := by
      intro place other isOther isEvicted
      rcases getElem?_set_cases isOther with ⟨_, rfl⟩ | ⟨_, wasOther⟩
      · rw [show slot.home = .pooled from pooled] at isEvicted
        cases isEvicted
      · exact settles.tidy place other wasOther isEvicted
    have both : InOrder budget _ := ⟨filled.touch index, tidy⟩
    have counts : state.loadedCount + (if slot.loaded = true then 0 else 1) = state.loadedCount + 1 := by simp [empty]
    unfold PoolState.finishLoad
    rw [counts]
    exact both

theorem InOrder.removeSlot {error : String}
    (stored : state.works[work]? = some (.load index (.failed error))) (isSlot : state.slots[index]? = some slot) :
    InOrder budget (state.removeSlot work index slot error) := by
  have fits := fits_of_load order.sound stored isSlot
  have empty := fits.empty rfl
  have owned := fits.owned rfl
  have inside := (List.getElem?_eq_some_iff.mp stored).1
  have settles : InOrder budget (state.setWork work (.load index (.settled (.error error)))) :=
    order.setLoad stored isSlot ⟨fun _ => owned, by simp [LoadPhase.isTrying], by simp [LoadPhase.isFilling]⟩
      (fun _ => .inl rfl) rfl rfl (by simp) (by simp)
  unfold PoolState.removeSlot
  split
  · rw [takeOut, isSlot]
    have removed : InOrder budget ((state.setWork work (.load index (.settled (.error error)))).setSlot index
        { slot with home := .out }) := by
      refine ⟨settles.sound.setSlot isSlot rfl rfl (by simp [ModelSlot.isResident, empty])
        (by simp [ModelSlot.isPresent]) (by simp) (by simp [empty]) ?_, ?_⟩
      · intro i phase isLoad
        have fitsNow := fits_of_load settles.sound isLoad isSlot
        refine ⟨fitsNow.owned, ?_, fitsNow.empty⟩
        intro trying
        -- a load that still tries is the one that owns the slot, and that one has settled
        have isOpen : phase.isOpen = true := by
          cases phase <;> first | rfl | cases trying
        have sameLoad := fitsNow.owned isOpen
        rw [owned, Option.some.injEq] at sameLoad
        subst sameLoad
        rw [show (state.setWork work _).works[work]? = _ from List.getElem?_set_self inside] at isLoad
        cases isLoad
        cases trying
      · apply settles.tidy.withSlots
        intro place other isOther isEvicted
        rcases getElem?_set_cases isOther with ⟨_, rfl⟩ | ⟨_, wasOther⟩
        · cases isEvicted
        · exact ⟨other, wasOther, isEvicted⟩
    exact removed
  · exact settles

theorem InOrder.becomeIdle
    (stored : state.works[work]? = some (.load index (.settled result))) (isSlot : state.slots[index]? = some slot) :
    InOrder budget (state.becomeIdle work index slot result) := by
  have owned := (fits_of_load order.sound stored isSlot).owned rfl
  have inside := (List.getElem?_eq_some_iff.mp stored).1
  have publishes : InOrder budget (state.setWork work (.load index (.publishing result))) :=
    order.setLoad stored isSlot ⟨by simp [LoadPhase.isOpen], by simp [LoadPhase.isTrying], by simp [LoadPhase.isFilling]⟩
      (fun _ => .inl rfl) rfl rfl (by simp) (by simp)
  have idle : InOrder budget ((state.setWork work (.load index (.publishing result))).setSlot index
      { slot with loading := none }) := by
    refine ⟨publishes.sound.setSlot isSlot rfl rfl rfl id id
      (fun loaded notPooled => publishes.sound.kept index slot isSlot loaded notPooled) ?_, ?_⟩
    · intro i phase isLoad
      have fitsNow := fits_of_load publishes.sound isLoad isSlot
      refine ⟨?_, fitsNow.pooled, fitsNow.empty⟩
      intro isOpen
      have sameLoad := fitsNow.owned isOpen
      rw [owned, Option.some.injEq] at sameLoad
      subst sameLoad
      rw [show (state.setWork work _).works[work]? = _ from List.getElem?_set_self inside] at isLoad
      cases isLoad
      cases isOpen
    · apply publishes.tidy.withSlots
      intro place other isOther isEvicted
      rcases getElem?_set_cases isOther with ⟨rfl, rfl⟩ | ⟨_, wasOther⟩
      · exact ⟨slot, isSlot, isEvicted⟩
      · exact ⟨other, wasOther, isEvicted⟩
  exact idle

theorem InOrder.loadNext {outcome : LoadResult} {next : PoolState}
    (stored : state.works[work]? = some (.load index phase)) (isSlot : state.slots[index]? = some slot)
    (steps : state.loadNext budget work index slot outcome phase = some next) : InOrder budget next := by
  have fits := fits_of_load order.sound stored isSlot
  have closed : ∀ {after : LoadPhase}, after.isOpen = false → after.isTrying = false → after.isFilling = false →
      Fits work after slot := fun isOpen isTrying isFilling => ⟨by simp [isOpen], by simp [isTrying], by simp [isFilling]⟩
  cases phase with
  | queued =>
    simp only [PoolState.loadNext] at steps
    split at steps
    next => cases steps
    next free =>
      cases steps
      exact order.setLoad stored isSlot ⟨fun _ => fits.owned rfl, fun _ => fits.pooled rfl, by simp [LoadPhase.isFilling]⟩
        (fun _ => .inr (by simpa using free)) rfl rfl (by simp) (by simp)
  | admitting =>
    cases steps
    exact order.admitLoad stored isSlot
  | evicting spared =>
    cases steps
    exact order.makeRoom stored isSlot
  | dropping evicted bytes =>
    cases steps
    exact order.finishDrop stored isSlot
  | loading =>
    cases steps
    exact order.finishLoad stored isSlot
  | failed error =>
    cases steps
    exact order.removeSlot stored isSlot
  | settled result =>
    cases steps
    exact order.becomeIdle stored isSlot
  | publishing result =>
    cases steps
    exact order.setLoad stored isSlot (closed rfl rfl rfl) (fun _ => .inl rfl) rfl rfl (by simp) (by simp)
  | published result =>
    cases steps
    exact order.setLoad stored isSlot (closed rfl rfl rfl) (fun _ => .inl rfl) rfl rfl (by simp) (by simp)
  | leaving result =>
    cases steps
    exact order.setLoad stored isSlot (closed rfl rfl rfl) (by simp [Work.holdsLock]) rfl rfl (by simp) (by simp)
  | gone result => cases steps

end

end

section

variable {state next : PoolState} {work : ℕ} {phase after : EvictPhase}

theorem Sound.setEvict (sound : Sound budget state) (stored : state.works[work]? = some (.evictAll phase))
    (locked : (Work.evictAll after).holdsLock = true → (Work.evictAll phase).holdsLock = true ∨ state.isLocked = false) :
    Sound budget (state.setWork work (.evictAll after)) :=
  sound.setWork stored ⟨locked, by simp, by simp [Work.held], by simp, by simp⟩

theorem InOrder.evictNext (order : InOrder budget state) (stored : state.works[work]? = some (.evictAll phase))
    (steps : state.evictNext work phase = some next) : InOrder budget next := by
  have inside := (List.getElem?_eq_some_iff.mp stored).1
  cases phase with
  | queued =>
    simp only [PoolState.evictNext] at steps
    split at steps
    next => cases steps
    next free =>
      cases steps
      refine ⟨order.sound.setEvict stored fun _ => .inr (by simpa using free), order.tidy.setWork stored ?_⟩
      intro place slot _ _ taken
      cases taken
  | evicting =>
    cases steps
    have swept : Swept (fun place => state.isIdle place = true) state.slots
        (sweepWhile (fun _ => true) state.idleSlots ⟨state.slots, residentBytes state.slots, []⟩) :=
      Swept.start.sweepWhile fun place mem => mem_idleSlots mem
    unfold PoolState.evictIdle
    generalize sweepWhile _ _ _ = sweep at swept ⊢
    show InOrder budget ((state.swept sweep).setWork work (.evictAll (if sweep.evicted = [] then _ else _)))
    refine ⟨(order.sound.sweep swept).setEvict stored fun _ => .inl rfl, ?_⟩
    intro place slot isSlot isEvicted
    have taken := evicted_of_sweep order stored rfl rfl swept isSlot isEvicted
    have some : sweep.evicted ≠ [] := List.ne_nil_of_mem taken
    exact ⟨work, _, List.getElem?_set_self inside, by rw [if_neg some]; exact taken⟩
  | dropping evicted =>
    cases steps
    refine ⟨(order.sound.drop (dropSlots_dropped evicted)).setEvict stored (by simp [Work.holdsLock]), ?_⟩
    intro place slot isSlot isEvicted
    exact absurd isEvicted (not_evicted_of_drop order stored rfl isSlot)
  | done count => cases steps

end

/-! ## Whole runs -/

def PoolState.startsOn (state : PoolState) (call : ℕ) : Option ModelSlot :=
  match state.calls[call]? with
  | some (.checking index) => (state.slots[index]?).filter fun slot => !slot.loaded && slot.loading.isNone
  | _ => none

def StartsPooled (state : PoolState) : PoolState.Action → Prop
  | .callNext call _ => ∀ slot ∈ state.startsOn call, slot.home = .pooled
  | _ => True

instance (state : PoolState) (action : PoolState.Action) : Decidable (StartsPooled state action) := by
  cases action <;> unfold StartsPooled <;> infer_instance

theorem InOrder.next {state next : PoolState} {action : PoolState.Action}
    (order : InOrder budget state) (starts : StartsPooled state action) (steps : state.next budget action = some next) :
    InOrder budget next := by
  cases action with
  | call key =>
    cases steps
    refine ⟨order.sound.withCalls ?_, order.tidy⟩
    intro call mem s holds
    cases List.mem_append.mp mem with
    | inl earlier => exact .inl ⟨call, earlier, holds⟩
    | inr last =>
      rw [List.mem_singleton.mp last] at holds
      cases holds
  | callNext call bytes =>
    simp only [PoolState.next, PoolState.callNext] at steps
    split at steps
    next key stored =>
      cases steps
      exact order.findResident stored
    next key stored =>
      cases steps
      exact order.fetchSlot stored
    next index stored =>
      obtain ⟨slot, _, rfl⟩ := Option.map_eq_some_iff.mp steps
      exact order.checkSlot stored
    next index stored =>
      obtain ⟨slot, isSlot, rfl⟩ := Option.map_eq_some_iff.mp steps
      refine order.joinLoad stored isSlot fun empty free => starts slot ?_
      simp [PoolState.startsOn, stored, isSlot, empty, free]
    next index work stored =>
      obtain ⟨result, _, rfl⟩ := Option.map_eq_some_iff.mp steps
      exact order.finishCall stored
    all_goals cases steps
  | drop call =>
    cases steps
    refine ⟨order.sound.withCalls ?_, order.tidy⟩
    intro other mem s holds
    cases List.mem_or_eq_of_mem_set mem with
    | inl earlier => exact .inl ⟨other, earlier, holds⟩
    | inr same =>
      rw [same] at holds
      cases holds
  | evictAllIdle =>
    cases steps
    refine ⟨order.sound.addWork rfl (by simp) (by simp [Work.held]), ?_⟩
    intro place slot isSlot isEvicted
    obtain ⟨i, work, isWork, taken⟩ := order.tidy place slot isSlot isEvicted
    have inList := (List.getElem?_eq_some_iff.mp isWork).1
    exact ⟨i, work, (List.getElem?_append_left inList).trans isWork, taken⟩
  | workNext work outcome =>
    simp only [PoolState.next, PoolState.workNext] at steps
    split at steps
    next index phase stored =>
      obtain ⟨slot, isSlot, steps⟩ := Option.bind_eq_some_iff.mp steps
      exact order.loadNext stored isSlot steps
    next phase stored => exact order.evictNext stored steps
    next => cases steps
  | registerProviderModel | setActiveRoute | clearActiveRoutes =>
    cases steps
    obtain ⟨⟨exclusive, fits, kept, keyed, single, counted, room, fitted, remaining⟩, tidy⟩ := order
    exact ⟨⟨exclusive, fits, kept, keyed, single, counted, room, fitted, remaining⟩, tidy⟩

def PoolState.isInMemory (state : PoolState) (index : ℕ) (slot : ModelSlot) : Bool :=
  slot.loaded && (slot.home != .out || !state.isIdle index)

def PoolState.bytesInMemory (state : PoolState) : ℕ :=
  (state.slots.zipIdx.map fun place => if state.isInMemory place.2 place.1 then place.1.estimatedBytes else 0).sum

structure BooksKept (budget : MemoryBudget) (state : PoolState) : Prop where
  /-- One load is in progress at most. -/
  oneLoad : ∀ (i j : ℕ) s t, state.works[i]? = some (.load s .loading) → state.works[j]? = some (.load t .loading) → i = j
  withinBudget : state.bytesInMemory ≤ budget.bytes
  oneModel : ∀ (i j : ℕ) first second, state.slots[i]? = some first → state.slots[j]? = some second →
    state.isInMemory i first = true → state.isInMemory j second = true → first.key = second.key → i = j
  counted : state.loadedCount = state.slots.countP ModelSlot.isResident
  /-- No call holds a slot that an eviction has taken, or its model. -/
  held : ∀ (i : ℕ) slot, state.slots[i]? = some slot → slot.home = .evicted → slot.loaded = true →
    ∀ call ∈ state.calls, call.held ≠ some i

theorem InOrder.booksKept {state : PoolState} (order : InOrder budget state) : BooksKept budget state := by
  have present : ∀ (i : ℕ) slot, state.slots[i]? = some slot → state.isInMemory i slot = slot.isPresent := by
    intro i slot stored
    by_cases isOut : slot.loaded = true ∧ slot.home = .out
    · have idle := order.sound.kept i slot stored isOut.1 (by simp [isOut.2])
      simp [PoolState.isInMemory, ModelSlot.isPresent, isOut, idle]
    · cases loaded : slot.loaded with
      | false => simp [PoolState.isInMemory, ModelSlot.isPresent, loaded]
      | true =>
        have notOut : slot.home ≠ .out := fun home => isOut ⟨loaded, home⟩
        simp [PoolState.isInMemory, ModelSlot.isPresent, loaded, notOut]
  constructor
  · intro i j s t first second
    exact order.sound.exclusive i j _ _ first second rfl rfl
  · have same : state.bytesInMemory = presentBytes state.slots := by
      unfold PoolState.bytesInMemory presentBytes
      congr 1
      rw [← List.zipIdx_map_fst 0 state.slots, List.map_map, List.zipIdx_map_fst]
      apply List.map_congr_left
      intro place mem
      rw [present place.2 place.1 (List.mem_zipIdx_iff_getElem?.mp mem)]
      rfl
    rw [same]
    exact order.sound.room
  · intro i j first second isFirst isSecond firstInMemory secondInMemory sameKey
    rw [present i first isFirst] at firstInMemory
    rw [present j second isSecond] at secondInMemory
    exact order.sound.single i j first second isFirst isSecond firstInMemory secondInMemory sameKey
  · exact order.sound.counted
  · intro i slot stored isEvicted loaded
    exact (Sound.isIdle_iff.mp (order.sound.kept i slot stored loaded (by simp [isEvicted]))).1

theorem inOrder_initial : InOrder budget PoolState.initial := by
  constructor
  · constructor <;> simp [PoolState.initial, presentBytes]
  · intro place slot stored
    simp [PoolState.initial] at stored

/-- As long as loads start on slots that the pool has, it keeps its books. -/
theorem pool_keeps_books {budget : MemoryBudget} {state : PoolState}
    (reachable : (poolMachine budget).Reachable StartsPooled state) : BooksKept budget state := by
  have order : InOrder budget state := by
    apply reachable.invariant
    · intro state starts
      rw [show state = PoolState.initial from starts]
      exact inOrder_initial
    · exact fun state action next order starts steps => order.next starts steps
  exact order.booksKept

def smallBudget : MemoryBudget := ⟨10, by decide⟩

/-- Two calls for two models that do not fit together: the first is dropped, so its model makes room for the second. -/
def loadsTwo : List PoolState.Action :=
  List.flatten
    [[.call "greeter", .callNext 0 6, .callNext 0 6, .callNext 0 6, .callNext 0 6],
      List.replicate 8 (.workNext 0 (.ok ())), [.callNext 0 6, .drop 0],
      [.call "guide", .callNext 1 7, .callNext 1 7, .callNext 1 7, .callNext 1 7],
      List.replicate 9 (.workNext 1 (.ok ())), [.callNext 1 7]]

theorem pool_keeps_books_loaded :
    ∃ state, (poolMachine smallBudget).Reachable StartsPooled state ∧ BooksKept smallBudget state ∧
      state.loadedCount = 1 ∧ .returned 1 ∈ state.calls ∧ state.slots.map ModelSlot.home = [.out, .pooled] := by
  obtain ⟨state, reachable, checked⟩ := (poolMachine smallBudget).reachable_of_execute StartsPooled
    (show (poolMachine smallBudget).start PoolState.initial from rfl) loadsTwo
    (fun state => decide (state.loadedCount = 1 ∧ .returned 1 ∈ state.calls ∧
      state.slots.map ModelSlot.home = [.out, .pooled])) (by decide +kernel)
  obtain ⟨one, returned, homes⟩ := of_decide_eq_true checked
  exact ⟨state, reachable, pool_keeps_books reachable, one, returned, homes⟩

/-- A second call has found the slot when its load fails, and loads it after it has left the pool. -/
def loadsRemoved : List PoolState.Action :=
  List.flatten
    [[.call "greeter", .callNext 0 6, .callNext 0 6, .callNext 0 6, .callNext 0 6],
      [.call "greeter", .callNext 1 6, .callNext 1 6, .callNext 1 6],
      List.replicate 9 (.workNext 0 (.error "out of memory")),
      [.callNext 1 6], List.replicate 8 (.workNext 1 (.ok ()))]

theorem pool_loses_model : ¬∀ (budget : MemoryBudget) (state : PoolState),
    (poolMachine budget).Reachable Machine.always state → BooksKept budget state := by
  intro keeps
  obtain ⟨state, reachable, checked⟩ := (poolMachine smallBudget).reachable_of_execute Machine.always
    (show (poolMachine smallBudget).start PoolState.initial from rfl) loadsRemoved
    (fun state => decide (state.loadedCount ≠ state.slots.countP ModelSlot.isResident)) (by decide +kernel)
  exact of_decide_eq_true checked (keeps smallBudget state reachable).counted

end Vifu.App
