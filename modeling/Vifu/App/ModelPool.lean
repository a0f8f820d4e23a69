import Mathlib.Algebra.GroupWithZero.Nat
import Mathlib.Data.List.Sort
import Vifu.Foundation.Machine
import Vifu.Foundation.Table

/-!
# The pool of local models

Calls find a slot for their model under the lock of the pool and start its load under the lock of the slot.  The load
runs in a task of its own that takes the lock of all loads, makes room, loads, and takes a slot whose load has failed
out of the pool again.  A section under a lock is one step; what follows it up to the next lock belongs to it.

Reference counts are read off the parties: whoever holds a slot or its model is a call, a task or the pool.
-/

namespace Vifu.App

open Foundation

def u64Max : ℕ := 18446744073709551615

def saturatingAdd (first second : ℕ) : ℕ := min (first + second) u64Max

/-- A budget is far from the largest number of bytes. -/
structure MemoryBudget where
  bytes : ℕ
  bounded : bytes < u64Max

/-- `LocalModelPool::for_device`, given the physical memory if it is known. -/
def MemoryBudget.forDevice (physicalMemoryBytes : Option ℕ) : MemoryBudget where
  bytes := match physicalMemoryBytes with
    | some total => min (total * 60) u64Max / 100
    | none => 2 * 1024 * 1024 * 1024
  bounded := by
    cases physicalMemoryBytes with
    | none => decide
    | some total => grind [u64Max]

/-- Where a slot is.  A slot that an eviction has taken is dropped some time later. -/
inductive Home where
  | pooled
  | evicted
  | out
  deriving DecidableEq

/-- A slot with its configuration under its key.  `loading` is the task that loads it. -/
structure ModelSlot where
  key : String
  estimatedBytes : ℕ
  loaded : Bool
  loading : Option ℕ
  home : Home
  deriving DecidableEq

def ModelSlot.isResident (slot : ModelSlot) : Bool := slot.loaded && slot.home == .pooled

def slotOf (slots : List ModelSlot) (key : String) : Option ℕ :=
  slots.findIdx? fun slot => slot.home == .pooled && slot.key == key

def residentBytes (slots : List ModelSlot) : ℕ :=
  (slots.map fun slot => if slot.isResident then slot.estimatedBytes else 0).sum

def newSlot (key : String) (estimatedBytes : ℕ) : ModelSlot := ⟨key, estimatedBytes, false, none, .pooled⟩

def takeOut (slots : List ModelSlot) (index : ℕ) (home : Home) : List ModelSlot :=
  match slots[index]? with
  | some slot => slots.set index { slot with home := home }
  | none => slots

/-! ## Calls and tasks -/

/-- A call of `get_or_load`, between its sections. -/
inductive Call where
  | started (key : String)
  | missed (key : String)
  | fetched (slot : ℕ)
  | checking (slot : ℕ)
  | waiting (slot work : ℕ)
  | returned (slot : ℕ)
  | failed (error : String)
  | dropped
  deriving DecidableEq

/-- The slot that a call holds, or whose model it holds. -/
def Call.held : Call → Option ℕ
  | .fetched slot | .checking slot | .waiting slot _ | .returned slot => some slot
  | .started _ | .missed _ | .failed _ | .dropped => none

abbrev LoadResult := Except String Unit

/-- The task that loads a slot, between its sections. -/
inductive LoadPhase where
  | queued
  | admitting
  | evicting (spared : List String)
  | dropping (evicted : List ℕ) (remainingBytes : ℕ)
  | loading
  | failed (error : String)
  | settled (result : LoadResult)
  | publishing (result : LoadResult)
  | published (result : LoadResult)
  | leaving (result : LoadResult)
  | gone (result : LoadResult)

/-- The task that evicts all idle models, between its sections. -/
inductive EvictPhase where
  | queued
  | evicting
  | dropping (evicted : List ℕ)
  | done (count : ℕ)

inductive Work where
  | load (slot : ℕ) (phase : LoadPhase)
  | evictAll (phase : EvictPhase)

namespace Work

def holdsLock : Work → Bool
  | load _ (.queued) | load _ (.leaving _) | load _ (.gone _) | evictAll (.queued) | evictAll (.done _) => false
  | load _ _ | evictAll _ => true

def held : Work → Option ℕ
  | load _ (.gone _) | evictAll _ => none
  | load slot _ => some slot

/-- The slots that a task has taken and not yet dropped. -/
def evicted : Work → List ℕ
  | load _ (.dropping evicted _) | evictAll (.dropping evicted) => evicted
  | load _ _ | evictAll _ => []

def result? : Work → Option LoadResult
  | load _ (.published result) | load _ (.leaving result) | load _ (.gone result) => some result
  | load _ _ | evictAll _ => none

end Work

structure PoolState where
  slots : List ModelSlot
  calls : List Call
  works : List Work
  loadedCount : ℕ
  /-- When each slot was last used. -/
  lastUsed : ℕ → ℕ
  accessSequence : ℕ
  providerModels : AList fun _ : String => String
  activeRoutes : AList fun _ : String => String

namespace PoolState

variable (state : PoolState)

/-- Nobody but the pool holds the slot, and nobody but the slot its model. -/
def isIdle (slot : ℕ) : Bool :=
  state.calls.all (fun call => call.held != some slot) && state.works.all fun work => work.held != some slot

def isLocked : Bool := state.works.any Work.holdsLock

/-- `next_access_sequence`, stored for a slot. -/
def touch (slot : ℕ) : PoolState :=
  let sequence := saturatingAdd state.accessSequence 1
  { state with accessSequence := sequence, lastUsed := Function.update state.lastUsed slot sequence }

def protectedCacheKeys : List String :=
  state.activeRoutes.entries.filterMap fun route => state.providerModels.lookup route.2

def setCall (call : ℕ) (next : Call) : PoolState := { state with calls := state.calls.set call next }

def setWork (work : ℕ) (next : Work) : PoolState := { state with works := state.works.set work next }

def setSlot (index : ℕ) (next : ModelSlot) : PoolState := { state with slots := state.slots.set index next }

/-- `resident_provider`. -/
def findResident (call : ℕ) (key : String) : PoolState :=
  match slotOf state.slots key with
  | some index =>
    if (state.slots[index]?).any ModelSlot.loaded then (state.touch index).setCall call (.returned index)
    else state.setCall call (.missed key)
  | none => state.setCall call (.missed key)

/-- `model_slot`, given what the files of the model weigh now. -/
def fetchSlot (call : ℕ) (key : String) (estimatedBytes : ℕ) : PoolState :=
  match slotOf state.slots key with
  | some index => state.setCall call (.fetched index)
  | none => { state with slots := state.slots ++ [newSlot key estimatedBytes] }.setCall call (.fetched state.slots.length)

/-- The first look at the model of a slot, without the lock of the slot. -/
def checkSlot (call index : ℕ) (slot : ModelSlot) : PoolState :=
  if slot.loaded then (state.touch index).setCall call (.returned index) else state.setCall call (.checking index)

def startLoad (call index : ℕ) (slot : ModelSlot) : PoolState :=
  let started : PoolState := { state with works := state.works ++ [.load index .queued] }
  (started.setSlot index { slot with loading := some state.works.length }).setCall call
    (.waiting index state.works.length)

def joinLoad (call index : ℕ) (slot : ModelSlot) : PoolState :=
  if slot.loaded then (state.touch index).setCall call (.returned index)
  else match slot.loading with
    | some work => state.setCall call (.waiting index work)
    | none => state.startLoad call index slot

def finishCall (call index : ℕ) : LoadResult → PoolState
  | .ok () => state.setCall call (.returned index)
  | .error error => state.setCall call (.failed error)

def callNext (call estimatedBytes : ℕ) : Option PoolState :=
  match state.calls[call]? with
  | some (.started key) => some (state.findResident call key)
  | some (.missed key) => some (state.fetchSlot call key estimatedBytes)
  | some (.fetched index) => (state.slots[index]?).map (state.checkSlot call index)
  | some (.checking index) => (state.slots[index]?).map (state.joinLoad call index)
  | some (.waiting index work) => ((state.works[work]?).bind Work.result?).map (state.finishCall call index)
  | some (.returned _) | some (.failed _) | some .dropped | none => none

/-! ## Evictions -/

end PoolState

/-- Slots that are taken out of the pool one after the other, and the bytes that stay. -/
structure Sweep where
  slots : List ModelSlot
  bytes : ℕ
  evicted : List ℕ

def Sweep.take (sweep : Sweep) (index : ℕ) : Sweep :=
  match sweep.slots[index]? with
  | some slot =>
    if slot.home = .pooled then
      ⟨sweep.slots.set index { slot with home := .evicted }, sweep.bytes - slot.estimatedBytes, sweep.evicted ++ [index]⟩
    else sweep
  | none => sweep

def sweepWhile (needed : ℕ → Bool) : List ℕ → Sweep → Sweep
  | [], sweep => sweep
  | index :: indexes, sweep => if needed sweep.bytes then sweepWhile needed indexes (sweep.take index) else sweep

def dropSlot (slots : List ModelSlot) (index : ℕ) : List ModelSlot :=
  match slots[index]? with
  | some slot => if slot.home = .evicted then slots.set index { slot with home := .out } else slots
  | none => slots

/-- `wait_for_model_drop`. -/
def dropSlots (slots : List ModelSlot) (evicted : List ℕ) : List ModelSlot := evicted.foldl dropSlot slots

namespace PoolState

variable (budget : MemoryBudget) (state : PoolState)

def idleSlots : List ℕ :=
  (List.range state.slots.length).filter fun index =>
    (state.slots[index]?).any ModelSlot.isResident && state.isIdle index

/-- The models that may be evicted, the one that was not used for longest first. -/
def candidates (requestedKey : String) (spared : List String) : List ℕ :=
  (state.idleSlots.filter fun index =>
    (state.slots[index]?).any fun slot => slot.key != requestedKey && !spared.contains slot.key).insertionSort
      fun first second => state.lastUsed first ≤ state.lastUsed second

def exceeds (requestedBytes residentBytes : ℕ) : Bool := budget.bytes < saturatingAdd residentBytes requestedBytes

def tooLarge (requestedBytes : ℕ) : String :=
  "model admission estimate " ++ toString requestedBytes ++ " bytes exceeds the local model budget " ++
    toString budget.bytes ++ " bytes"

def insufficient (remainingBytes requestedBytes : ℕ) : String :=
  "insufficient local model budget: " ++ toString remainingBytes ++ " bytes are resident and " ++
    toString requestedBytes ++ " bytes are required"

/-- What a load does once there is as much room as it can make. -/
def admitted (remainingBytes requestedBytes : ℕ) : LoadPhase :=
  if exceeds budget requestedBytes remainingBytes then .failed (insufficient remainingBytes requestedBytes) else .loading

def swept (sweep : Sweep) : PoolState :=
  { state with slots := sweep.slots, loadedCount := state.loadedCount - sweep.evicted.length }

/-- The section of `evict_for_owned` under the lock of the pool. -/
def makeRoom (work index : ℕ) (slot : ModelSlot) (spared : List String) : PoolState :=
  let sweep := sweepWhile (exceeds budget slot.estimatedBytes) (state.candidates slot.key spared)
    ⟨state.slots, residentBytes state.slots, []⟩
  (state.swept sweep).setWork work (.load index
    (if sweep.evicted = [] then admitted budget sweep.bytes slot.estimatedBytes
      else .dropping sweep.evicted sweep.bytes))

def admitLoad (work index : ℕ) (slot : ModelSlot) : PoolState :=
  if slot.loaded then (state.touch index).setWork work (.load index (.settled (.ok ())))
  else if budget.bytes < slot.estimatedBytes then
    state.setWork work (.load index (.failed (tooLarge budget slot.estimatedBytes)))
  else state.setWork work (.load index (.evicting state.protectedCacheKeys))

def finishLoad (work index : ℕ) (slot : ModelSlot) : LoadResult → PoolState
  | .ok () =>
    (({ state with loadedCount := state.loadedCount + if slot.loaded then 0 else 1 }.setSlot index
      { slot with loaded := true }).touch index).setWork work (.load index (.settled (.ok ())))
  | .error error => state.setWork work (.load index (.failed error))

/-- Takes the slot of a failed load out of the pool, if it is still the one of its key. -/
def removeSlot (work index : ℕ) (slot : ModelSlot) (error : String) : PoolState :=
  (if slotOf state.slots slot.key = some index then { state with slots := takeOut state.slots index .out } else state).setWork
    work (.load index (.settled (.error error)))

def becomeIdle (work index : ℕ) (slot : ModelSlot) (result : LoadResult) : PoolState :=
  (state.setSlot index { slot with loading := none }).setWork work (.load index (.publishing result))

def loadNext (work index : ℕ) (slot : ModelSlot) (outcome : LoadResult) : LoadPhase → Option PoolState
  | .queued => if state.isLocked then none else some (state.setWork work (.load index .admitting))
  | .admitting => some (state.admitLoad budget work index slot)
  | .evicting spared => some (state.makeRoom budget work index slot spared)
  | .dropping evicted remainingBytes =>
    some ({ state with slots := dropSlots state.slots evicted }.setWork work
      (.load index (admitted budget remainingBytes slot.estimatedBytes)))
  | .loading => some (state.finishLoad work index slot outcome)
  | .failed error => some (state.removeSlot work index slot error)
  | .settled result => some (state.becomeIdle work index slot result)
  | .publishing result => some (state.setWork work (.load index (.published result)))
  | .published result => some (state.setWork work (.load index (.leaving result)))
  | .leaving result => some (state.setWork work (.load index (.gone result)))
  | .gone _ => none

/-- The section of `evict_all_idle_owned` under the lock of the pool. -/
def evictIdle (work : ℕ) : PoolState :=
  let sweep := sweepWhile (fun _ => true) state.idleSlots ⟨state.slots, residentBytes state.slots, []⟩
  (state.swept sweep).setWork work (.evictAll
    (if sweep.evicted = [] then .done 0 else .dropping sweep.evicted))

def evictNext (work : ℕ) : EvictPhase → Option PoolState
  | .queued => if state.isLocked then none else some (state.setWork work (.evictAll .evicting))
  | .evicting => some (state.evictIdle work)
  | .dropping evicted =>
    some ({ state with slots := dropSlots state.slots evicted }.setWork work (.evictAll (.done evicted.length)))
  | .done _ => none

def workNext (work : ℕ) (outcome : LoadResult) : Option PoolState :=
  match state.works[work]? with
  | some (.load index phase) => (state.slots[index]?).bind fun slot => state.loadNext budget work index slot outcome phase
  | some (.evictAll phase) => state.evictNext work phase
  | none => none

/-- A call goes on with what its files weigh now, a task with what the loader returns now. -/
inductive Action where
  | call (key : String)
  | callNext (call estimatedBytes : ℕ)
  | drop (call : ℕ)
  | evictAllIdle
  | workNext (work : ℕ) (outcome : LoadResult)
  | registerProviderModel (providerKey cacheKey : String)
  | setActiveRoute (routeKey providerKey : String)
  | clearActiveRoutes

def next : Action → Option PoolState
  | .call key => some { state with calls := state.calls ++ [.started key] }
  | .callNext call estimatedBytes => state.callNext call estimatedBytes
  | .drop call => some (state.setCall call .dropped)
  | .evictAllIdle => some { state with works := state.works ++ [.evictAll .queued] }
  | .workNext work outcome => state.workNext budget work outcome
  | .registerProviderModel providerKey cacheKey =>
    some { state with providerModels := state.providerModels.insert providerKey cacheKey }
  | .setActiveRoute routeKey providerKey =>
    some { state with activeRoutes := state.activeRoutes.insert routeKey providerKey }
  | .clearActiveRoutes => some { state with activeRoutes := ∅ }

def initial : PoolState := ⟨[], [], [], 0, fun _ => 0, 0, ∅, ∅⟩

end PoolState

def poolMachine (budget : MemoryBudget) : Machine PoolState PoolState.Action where
  start state := state = PoolState.initial
  step state action := state.next budget action

end Vifu.App
