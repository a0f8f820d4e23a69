import Mathlib.Data.List.Basic
import Mathlib.Data.List.Pairwise

/-!
# Tables under unique constraints

A row type says which of its columns the unique constraints compare and when two rows may not both be
stored.  A table carries the proof that no two of its rows conflict: an insert or an update that would
break this is refused, which is what a database does, and one that leaves the key columns alone is not.
-/

namespace Foundation

/-- The key columns of a row, and the unique constraints on them. -/
class Keyed (ρ : Type) where
  Key : Type
  key : ρ → Key
  conflicts : Key → Key → Bool
  symmetric : ∀ first second, conflicts first second = conflicts second first
  reflexive : ∀ key, conflicts key key = true

section

variable {ρ : Type} [Keyed ρ]

/-- Two rows that break a unique constraint together. -/
def clash (first second : ρ) : Bool := Keyed.conflicts (Keyed.key first) (Keyed.key second)

theorem clash_symmetric (first second : ρ) : clash first second = clash second first :=
  Keyed.symmetric _ _

theorem clash_self (row : ρ) : clash row row = true := Keyed.reflexive _

end

/-- The constraint that a primary key alone puts on the rows. -/
@[reducible] def Keyed.primary {ρ κ : Type} [DecidableEq κ] (key : ρ → κ) : Keyed ρ where
  Key := κ
  key := key
  conflicts first second := first == second
  symmetric _ _ := Bool.beq_comm
  reflexive _ := beq_self_eq_true _

@[ext]
structure Rows (ρ : Type) [Keyed ρ] where
  rows : List ρ
  apart : rows.Pairwise fun first second => clash first second = false

namespace Rows

variable {ρ : Type} [Keyed ρ] {table : Rows ρ} {p : ρ → Bool} {f : ρ → ρ} {row : ρ}

instance [DecidableEq ρ] : DecidableEq (Rows ρ) := fun first second =>
  decidable_of_iff (first.rows = second.rows) Rows.ext_iff.symm

instance : Membership ρ (Rows ρ) := ⟨fun table row => row ∈ table.rows⟩

theorem mem_rows : row ∈ table.rows ↔ row ∈ table := Iff.rfl

instance (table : Rows ρ) (Holds : ρ → Prop) [DecidablePred Holds] : Decidable (∀ row ∈ table, Holds row) :=
  inferInstanceAs (Decidable (∀ row ∈ table.rows, Holds row))

instance (table : Rows ρ) (Holds : ρ → Prop) [DecidablePred Holds] : Decidable (∃ row ∈ table, Holds row) :=
  inferInstanceAs (Decidable (∃ row ∈ table.rows, Holds row))

instance [DecidableEq ρ] (row : ρ) (table : Rows ρ) : Decidable (row ∈ table) :=
  inferInstanceAs (Decidable (row ∈ table.rows))

def empty : Rows ρ := ⟨[], .nil⟩

def singleton (row : ρ) : Rows ρ := ⟨[row], List.pairwise_singleton _ _⟩

@[simp] theorem notMem_empty : row ∉ (empty : Rows ρ) := List.not_mem_nil

theorem unique {row other : ρ} (mem : row ∈ table) (stored : other ∈ table)
    (clashes : clash row other = true) : row = other := by
  by_contra different
  have symmetric : Std.Symm fun first second : ρ => clash first second = false :=
    ⟨fun first second free => by rw [clash_symmetric, free]⟩
  have free := table.apart.forall mem stored different
  rw [clashes] at free
  contradiction

/-! ## Reading -/

def find? (table : Rows ρ) (p : ρ → Bool) : Option ρ := table.rows.find? p

def any (table : Rows ρ) (p : ρ → Bool) : Bool := table.rows.any p

def count (table : Rows ρ) (p : ρ → Bool) : ℕ := table.rows.countP p

def filter (table : Rows ρ) (p : ρ → Bool) : List ρ := table.rows.filter p

section

variable {row : ρ}

theorem mem_of_find? (found : table.find? p = some row) : row ∈ table ∧ p row = true :=
  ⟨List.mem_of_find?_eq_some found, List.find?_some found⟩

theorem find?_eq_none : table.find? p = none ↔ ∀ row ∈ table, p row = false := by
  simp only [find?, List.find?_eq_none, Bool.not_eq_true, mem_rows]

theorem find?_isSome : (table.find? p).isSome = true ↔ ∃ row ∈ table, p row = true := by
  rw [find?, List.find?_isSome]
  rfl

theorem find?_eq_some (keyed : ∀ other, p row = true → p other = true → clash row other = true) :
    table.find? p = some row ↔ row ∈ table ∧ p row = true := by
  constructor
  · exact mem_of_find?
  · rintro ⟨mem, passes⟩
    obtain ⟨other, found⟩ := Option.isSome_iff_exists.mp (find?_isSome.mpr ⟨row, mem, passes⟩)
    have stored := mem_of_find? found
    rw [found, unique mem stored.1 (keyed other passes stored.2)]

theorem any_eq_true : table.any p = true ↔ ∃ row ∈ table, p row = true := by
  rw [any, List.any_eq_true]
  rfl

theorem any_eq_false : table.any p = false ↔ ∀ row ∈ table, p row = false := by
  rw [any, List.any_eq_false]
  simp only [Bool.not_eq_true, mem_rows]

theorem mem_filter : row ∈ table.filter p ↔ row ∈ table ∧ p row = true := List.mem_filter

end

/-! ## Writing -/

/-- `INSERT`, which a row with one of these keys refuses. -/
def insert? (table : Rows ρ) (row : ρ) : Option (Rows ρ) :=
  if free : ∀ stored ∈ table.rows, clash stored row = false then
    some
      { rows := table.rows ++ [row]
        apart := by
          rw [List.pairwise_append]
          simpa using ⟨table.apart, free⟩ }
  else none

/-- `INSERT … ON CONFLICT DO NOTHING`. -/
def insertNew (table : Rows ρ) (row : ρ) : Rows ρ := (table.insert? row).getD table

/-- `DELETE FROM … WHERE p`. -/
def delete (table : Rows ρ) (p : ρ → Bool) : Rows ρ where
  rows := table.rows.filter fun row => !p row
  apart := table.apart.sublist List.filter_sublist

/-- The rows after `UPDATE … SET f WHERE p`. -/
def updated (p : ρ → Bool) (f : ρ → ρ) (row : ρ) : ρ := if p row then f row else row

theorem key_updated (keeps : ∀ row, Keyed.key (f row) = Keyed.key row) (row : ρ) :
    Keyed.key (updated p f row) = Keyed.key row := by
  rw [updated]
  split
  · exact keeps row
  · rfl

theorem clash_updated (keeps : ∀ row, Keyed.key (f row) = Keyed.key row)
    (first second : ρ) : clash (updated p f first) (updated p f second) = clash first second := by
  rw [clash, key_updated keeps, key_updated keeps, clash]

/-- `UPDATE … SET f WHERE p` of columns that no unique constraint reads. -/
def update (table : Rows ρ) (p : ρ → Bool) (f : ρ → ρ) (keeps : ∀ row, Keyed.key (f row) = Keyed.key row) : Rows ρ where
  rows := table.rows.map (updated p f)
  apart := table.apart.map _ fun first second free => by rw [clash_updated keeps, free]

/-- `UPDATE … SET f WHERE p` of key columns, which is refused when it breaks a constraint. -/
def update? (table : Rows ρ) (p : ρ → Bool) (f : ρ → ρ) : Option (Rows ρ) :=
  if apart : (table.rows.map (updated p f)).Pairwise fun first second => clash first second = false then
    some ⟨table.rows.map (updated p f), apart⟩
  else none

section

variable {next : Rows ρ} {f : ρ → ρ} {row other : ρ}
  {keeps : ∀ row, Keyed.key (f row) = Keyed.key row} {q : ρ → Bool}

theorem rows_of_insert? (inserted : table.insert? row = some next) : next.rows = table.rows ++ [row] := by
  rw [insert?] at inserted
  split at inserted
  next =>
    rw [Option.some.injEq] at inserted
    rw [← inserted]
  next => contradiction

theorem mem_insert? (inserted : table.insert? row = some next) : other ∈ next ↔ other ∈ table ∨ other = row := by
  rw [← mem_rows, rows_of_insert? inserted, List.mem_append, List.mem_singleton, mem_rows]

theorem insert?_isSome : (table.insert? row).isSome = true ↔ ∀ stored ∈ table, clash stored row = false := by
  rw [insert?]
  split
  next free => simpa [mem_rows] using free
  next taken => simpa [mem_rows] using taken

theorem insert?_eq_none : table.insert? row = none ↔ ∃ stored ∈ table, clash stored row = true := by
  rw [← Option.not_isSome_iff_eq_none, insert?_isSome]
  simp

theorem mem_insertNew : other ∈ table.insertNew row ↔
    other ∈ table ∨ other = row ∧ ∀ stored ∈ table, clash stored row = false := by
  rw [insertNew]
  cases inserted : table.insert? row with
  | none =>
    obtain ⟨stored, mem, clashes⟩ := insert?_eq_none.mp inserted
    simp only [Option.getD_none, iff_self_or, and_imp]
    intro _ free
    rw [free stored mem] at clashes
    contradiction
  | some next =>
    have free := insert?_isSome.mp (by rw [inserted]; rfl)
    simp only [Option.getD_some, mem_insert? inserted]
    apply or_congr_right
    simp only [iff_self_and]
    intro _
    exact free

theorem mem_insertNew_of_free (free : ∀ stored ∈ table, clash stored row = false) :
    other ∈ table.insertNew row ↔ other ∈ table ∨ other = row := by
  rw [mem_insertNew, and_iff_left free]

theorem mem_delete : row ∈ table.delete p ↔ row ∈ table ∧ p row = false := by
  rw [← mem_rows, delete, List.mem_filter, mem_rows, Bool.not_eq_true']

theorem mem_update : other ∈ table.update p f keeps ↔ ∃ row ∈ table, updated p f row = other := by
  rw [← mem_rows, update, List.mem_map]
  rfl

theorem set_mem_update (mem : row ∈ table) (passes : p row = true) : f row ∈ table.update p f keeps :=
  mem_update.mpr ⟨row, mem, if_pos passes⟩

theorem mem_update_of_not (mem : row ∈ table) (fails : ¬p row = true) : row ∈ table.update p f keeps :=
  mem_update.mpr ⟨row, mem, if_neg fails⟩

theorem update_of_forall_not (none : ∀ row ∈ table, p row = false) : table.update p f keeps = table := by
  apply Rows.ext
  refine (List.map_congr_left ?_).trans (List.map_id _)
  intro row mem
  rw [updated, none row mem]
  rfl

theorem find?_update (keeps : ∀ row, Keyed.key (f row) = Keyed.key row) (stays : ∀ row, q (f row) = q row) :
    (table.update p f keeps).find? q = (table.find? q).map (updated p f) := by
  have same : q ∘ updated p f = q := by
    funext row
    rw [Function.comp_apply, updated]
    split
    · exact stays row
    · rfl
  rw [find?, update, List.find?_map, same, find?]

theorem find?_insert? (inserted : table.insert? row = some next) :
    next.find? q = (table.find? q).or (if q row then some row else none) := by
  rw [find?, rows_of_insert? inserted, List.find?_append, find?, List.find?_singleton]

theorem rows_of_update? (changed : table.update? p f = some next) : next.rows = table.rows.map (updated p f) := by
  rw [update?] at changed
  split at changed
  next =>
    rw [Option.some.injEq] at changed
    rw [← changed]
  next => contradiction

theorem update?_isSome : (table.update? p f).isSome = true ↔
    ∀ first ∈ table, ∀ second ∈ table, first ≠ second → clash (updated p f first) (updated p f second) = false := by
  have isSome : (table.update? p f).isSome = true ↔
      (table.rows.map (updated p f)).Pairwise fun first second => clash first second = false := by
    rw [update?]
    split
    next apart => simpa using apart
    next breaks => simpa using breaks
  rw [isSome, List.pairwise_map]
  constructor
  · intro apart first mem second stored different
    have symmetric : Std.Symm fun first second : ρ => clash (updated p f first) (updated p f second) = false :=
      ⟨fun first second free => by rw [clash_symmetric, free]⟩
    exact apart.forall mem stored different
  · intro free
    apply table.apart.imp_of_mem
    intro first second mem stored apart
    apply free first mem second stored
    intro same
    rw [same, clash_self] at apart
    contradiction

theorem mem_update? (changed : table.update? p f = some next) :
    other ∈ next ↔ ∃ row ∈ table, updated p f row = other := by
  rw [← mem_rows, rows_of_update? changed, List.mem_map]
  rfl

/-- A row stays such as it is, whether it is written or not. -/
theorem exists_updated {Holds : ρ → Prop} (holds : ∃ row ∈ table, Holds row)
    (rows : next.rows = table.rows.map (updated p f)) (kept : ∀ row ∈ table, p row = true → Holds row → Holds (f row)) :
    ∃ row ∈ next, Holds row := by
  obtain ⟨row, mem, holds⟩ := holds
  refine ⟨updated p f row, mem_rows.mp (rows ▸ List.mem_map_of_mem mem), ?_⟩
  rw [updated]
  split
  next passes => exact kept row mem passes holds
  next => exact holds

end

end Rows

end Foundation
