import Mathlib.Data.Nat.Notation

/-!
# A stored value behind a cache

One value is kept in a store and, in a cache in front of it, as a copy.  The holder of a lock
reads the value, from the cache or from the store, writes a successor to the store and then to
the cache.  A restore writes the store first and replaces the copy later, without the lock.  As
long as it stays away from a holder that has read, the copy is never stale, and the measure of
the value counts the updates since the last restore.
-/

namespace Foundation

variable {V : Type*} {measure : V → ℕ}

inductive Hold (V : Type*) where
  | free
  | before
  | based (value : V)
  | written (value : V)
  | cached (value : V)
  deriving DecidableEq

/-- The number of updates that are written and not yet counted. -/
def Hold.uncounted : Hold V → ℕ
  | .free | .before | .based _ => 0
  | .written _ | .cached _ => 1

@[ext] structure CachedCell (V : Type*) where
  stored : V
  cached : Option V
  hold : Hold V
  /-- What the restores in progress have stored. -/
  restoring : List V
  /-- The measure of the value that was restored last. -/
  base : ℕ
  updates : ℕ

namespace CachedCell

/-- What can happen to a cell.  A holder does not read during a restore, and no restore begins
    once a holder has read or while there is another restore. -/
inductive Step (measure : V → ℕ) : CachedCell V → CachedCell V → Prop where
  | acquire {cell : CachedCell V} (free : cell.hold = .free) : Step measure cell { cell with hold := .before }
  | read {cell : CachedCell V} (value : V) (before : cell.hold = .before)
      (current : cell.cached = some value ∨ cell.stored = value) (calm : cell.restoring = []) :
      Step measure cell { cell with hold := .based value }
  | fill {cell : CachedCell V} (value : V) (based : cell.hold = .based value) :
      Step measure cell { cell with cached := some value }
  | write {cell : CachedCell V} (value next : V) (based : cell.hold = .based value)
      (grows : measure next = measure value + 1) :
      Step measure cell { cell with stored := next, hold := .written next }
  | insert {cell : CachedCell V} (value : V) (written : cell.hold = .written value) :
      Step measure cell { cell with cached := some value, hold := .cached value }
  | finish {cell : CachedCell V} (value : V) (cached : cell.hold = .cached value) :
      Step measure cell { cell with hold := .free, updates := cell.updates + 1 }
  | release {cell : CachedCell V} (unwritten : cell.hold.uncounted = 0) :
      Step measure cell { cell with hold := .free }
  | restore {cell : CachedCell V} (value : V) (unread : cell.hold = .free ∨ cell.hold = .before)
      (calm : cell.restoring = []) :
      Step measure cell { cell with stored := value, restoring := [value], base := measure value, updates := 0 }
  | replace {cell : CachedCell V} (value : V) (restoring : cell.restoring = [value]) :
      Step measure cell { cell with cached := some value, restoring := [] }
  | evict {cell : CachedCell V} : Step measure cell { cell with cached := none }

/-- The holder and the restore in progress agree with the store, and so does the copy once both
    are through. -/
structure Coherent (measure : V → ℕ) (cell : CachedCell V) : Prop where
  restoring : cell.restoring = [] ∨
    cell.restoring = [cell.stored] ∧ (cell.hold = .free ∨ cell.hold = .before)
  based : ∀ value, cell.hold = .based value → cell.stored = value
  written : ∀ value, cell.hold = .written value → cell.stored = value
  cached : cell.restoring = [] → (∀ value, cell.hold ≠ .written value) →
    ∀ value, cell.cached = some value → cell.stored = value
  counted : measure cell.stored = cell.base + cell.updates + cell.hold.uncounted

theorem Coherent.calm {cell : CachedCell V} (coherent : cell.Coherent measure)
    (read : cell.hold ≠ .free ∧ cell.hold ≠ .before) : cell.restoring = [] := by
  rcases coherent.restoring with calm | ⟨_, free | before⟩
  · exact calm
  · exact absurd free read.1
  · exact absurd before read.2

theorem Step.coherent {cell next : CachedCell V} (step : Step measure cell next)
    (coherent : cell.Coherent measure) : next.Coherent measure := by
  have counted := coherent.counted
  cases step with
  | acquire free =>
    have unwritten : ∀ value, cell.hold ≠ .written value := fun value => by simp [free]
    refine ⟨?_, nofun, nofun, fun calm _ => coherent.cached calm unwritten, ?_⟩
    · exact coherent.restoring.imp id fun restoring => ⟨restoring.1, .inr rfl⟩
    · rw [counted, free]
      rfl
  | read value before current calm =>
    have unwritten : ∀ value, cell.hold ≠ .written value := fun value => by simp [before]
    have stored : cell.stored = value := by
      rcases current with copy | same
      · exact coherent.cached calm unwritten value copy
      · exact same
    refine ⟨.inl calm, ?_, nofun, fun _ _ => coherent.cached calm unwritten, ?_⟩
    · rintro _ ⟨⟩
      exact stored
    · rw [counted, before]
      rfl
  | fill value based =>
    refine ⟨coherent.restoring, coherent.based, coherent.written, ?_, counted⟩
    rintro _ _ _ ⟨⟩
    exact coherent.based value based
  | write value written based grows =>
    have calm := coherent.calm (by simp [based])
    refine ⟨.inl calm, nofun, ?_, fun _ unwritten => absurd rfl (unwritten written), ?_⟩
    · rintro _ ⟨⟩
      rfl
    · show measure written = cell.base + cell.updates + 1
      rw [grows, ← coherent.based value based, counted, based]
      rfl
  | insert value written =>
    have calm := coherent.calm (by simp [written])
    refine ⟨.inl calm, nofun, nofun, ?_, ?_⟩
    · rintro _ _ _ ⟨⟩
      exact coherent.written value written
    · rw [counted, written]
      rfl
  | finish value cached =>
    have calm := coherent.calm (by simp [cached])
    refine ⟨.inl calm, nofun, nofun, fun _ _ => coherent.cached calm (fun value => by simp [cached]), ?_⟩
    show measure cell.stored = cell.base + (cell.updates + 1) + 0
    rw [counted, cached]
    rfl
  | release unwritten =>
    have unread : ∀ value, cell.hold ≠ .written value := by
      intro value written
      rw [written] at unwritten
      cases unwritten
    refine ⟨?_, nofun, nofun, fun calm _ => coherent.cached calm unread, ?_⟩
    · exact coherent.restoring.imp id fun restoring => ⟨restoring.1, .inl rfl⟩
    · rw [counted, unwritten]
      rfl
  | restore value unread calm =>
    refine ⟨.inr ⟨rfl, unread⟩, ?_, ?_, nofun, ?_⟩
    · intro base based
      rcases unread with free | before <;> simp_all
    · intro written isWritten
      rcases unread with free | before <;> simp_all
    · show measure value = measure value + 0 + cell.hold.uncounted
      rcases unread with free | before
      · rw [free]
        rfl
      · rw [before]
        rfl
  | replace value restoring =>
    have stored : cell.stored = value := by
      rcases coherent.restoring with calm | ⟨isStored, _⟩
      · rw [calm] at restoring
        cases restoring
      · rw [isStored] at restoring
        cases restoring
        rfl
    refine ⟨.inl rfl, coherent.based, coherent.written, ?_, counted⟩
    rintro _ _ _ ⟨⟩
    exact stored
  | evict => exact ⟨coherent.restoring, coherent.based, coherent.written, nofun, counted⟩

end CachedCell

end Foundation
