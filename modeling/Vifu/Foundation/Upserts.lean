import Mathlib.Data.List.Nodup

/-!
# Lists that are merged by key

A loop goes through a list of elements.  Each of them is combined with the element of its key in another list, or
comes after it when there is none.
-/

namespace Foundation

variable {α K : Type} [DecidableEq K] (key : α → K) (combine : α → α → α)

/-- Combines an element with the first one of its key, or appends it. -/
def upsert : List α → α → List α
  | [], element => [element]
  | existing :: list, element =>
    if key existing = key element then combine existing element :: list else existing :: upsert list element

def amended (elements : List α) (existing : α) : α :=
  (elements.find? fun element => key element = key existing).elim existing (combine existing)

variable {key combine} {list elements : List α} {element existing : α}

theorem upsert_absent (absent : key element ∉ list.map key) : upsert key combine list element = list ++ [element] := by
  induction list with
  | nil => rfl
  | cons first list ih =>
    rw [List.map_cons, List.mem_cons, not_or] at absent
    rw [upsert, if_neg (Ne.symm absent.1), ih absent.2, List.cons_append]

theorem amended_absent (absent : key existing ∉ elements.map key) : amended key combine elements existing = existing := by
  have none : elements.find? (fun element => key element = key existing) = none := by
    rw [List.find?_eq_none]
    intro element mem same
    exact absent (List.mem_map.mpr ⟨element, mem, of_decide_eq_true same⟩)
  rw [amended, none]
  rfl

theorem amended_cons : amended key combine (element :: elements) existing =
    if key element = key existing then combine existing element else amended key combine elements existing := by
  rw [amended, amended]
  by_cases same : key element = key existing <;> simp [same]

section

variable (keeps : ∀ existing element, key element = key existing → key (combine existing element) = key existing)

include keeps

theorem key_amended : key (amended key combine elements existing) = key existing := by
  rw [amended]
  cases found : elements.find? fun element => key element = key existing with
  | none => rfl
  | some element => exact keeps existing element (by simpa using List.find?_some found)

omit keeps in
theorem upsert_present (distinct : (list.map key).Nodup) (present : key element ∈ list.map key) :
    upsert key combine list element = list.map fun existing =>
      if key element = key existing then combine existing element else existing := by
  induction list with
  | nil => cases present
  | cons first list ih =>
    rw [List.map_cons, List.nodup_cons] at distinct
    rw [upsert, List.map_cons]
    by_cases same : key first = key element
    · have others : (list.map fun existing => if key element = key existing then combine existing element else existing) =
          list := by
        apply (List.map_congr_left _).trans (List.map_id _)
        intro existing member
        have differs : key element ≠ key existing := by
          intro repeated
          exact distinct.1 (List.mem_map.mpr ⟨existing, member, repeated.symm.trans same.symm⟩)
        rw [if_neg differs, id]
      rw [if_pos same, if_pos same.symm, others]
    · rw [List.map_cons, List.mem_cons] at present
      have later := present.resolve_left (Ne.symm same)
      rw [if_neg same, if_neg (Ne.symm same), ih distinct.2 later]

theorem upserts_eq (distinct : (list.map key).Nodup) (unrepeated : (elements.map key).Nodup) :
    elements.foldl (upsert key combine) list =
      list.map (amended key combine elements) ++ elements.filter fun element => key element ∉ list.map key := by
  induction elements generalizing list with
  | nil =>
    have same : list.map (amended key combine []) = list := List.map_id _
    simp [same]
  | cons element elements ih =>
    rw [List.map_cons, List.nodup_cons] at unrepeated
    rw [List.foldl_cons]
    by_cases present : key element ∈ list.map key
    · rw [upsert_present distinct present]
      have sameKeys : (list.map fun existing => if key element = key existing then combine existing element else existing).map key =
          list.map key := by
        rw [List.map_map]
        apply List.map_congr_left
        intro existing _
        simp only [Function.comp]
        split
        next same => exact keeps existing element same
        next => rfl
      rw [ih (sameKeys ▸ distinct) unrepeated.2, sameKeys, List.map_map]
      congr 1
      · apply List.map_congr_left
        intro existing _
        simp only [Function.comp, amended_cons]
        split
        next same =>
          rw [amended_absent]
          rw [keeps existing element same, ← same]
          exact unrepeated.1
        next => rfl
      · rw [List.filter_cons_of_neg (by simpa using present)]
    · rw [upsert_absent present]
      have grown : ((list ++ [element]).map key).Nodup := by
        rw [List.map_append, List.nodup_append]
        refine ⟨distinct, List.nodup_singleton _, ?_⟩
        rintro _ mem _ (⟨⟩ | ⟨_, ⟨⟩⟩) rfl
        exact present mem
      rw [ih grown unrepeated.2, List.map_append, List.append_assoc,
        List.filter_cons_of_pos (by simpa using present)]
      congr 1
      · apply List.map_congr_left
        intro existing mem
        rw [amended_cons, if_neg]
        intro same
        exact present (List.mem_map.mpr ⟨existing, mem, same.symm⟩)
      · rw [List.map_singleton, amended_absent unrepeated.1, List.singleton_append]
        congr 1
        apply List.filter_congr
        intro other mem
        have differs : key other ≠ key element := by
          intro same
          exact unrepeated.1 (List.mem_map.mpr ⟨other, mem, same⟩)
        simp [differs]

omit keeps in
theorem amended_cases (elements : List α) (existing : α) :
    amended key combine elements existing = existing ∧ key existing ∉ elements.map key ∨
      ∃ element ∈ elements, key element = key existing ∧ amended key combine elements existing = combine existing element := by
  cases found : elements.find? fun element => key element = key existing with
  | none =>
    refine .inl ⟨by rw [amended, found]; rfl, fun member => ?_⟩
    obtain ⟨element, isElement, same⟩ := List.mem_map.mp member
    simpa [same] using List.find?_eq_none.mp found element isElement
  | some element =>
    exact .inr ⟨element, List.mem_of_find?_eq_some found, by simpa using List.find?_some found, by rw [amended, found]; rfl⟩

theorem mem_upserts (distinct : (list.map key).Nodup) (unrepeated : (elements.map key).Nodup)
    (mem : element ∈ elements.foldl (upsert key combine) list) :
    (element ∈ list ∧ key element ∉ elements.map key) ∨ element ∈ elements ∨
      ∃ existing ∈ list, ∃ own ∈ elements, key own = key existing ∧ element = combine existing own := by
  rw [upserts_eq keeps distinct unrepeated, List.mem_append, List.mem_map] at mem
  obtain ⟨existing, isOld, rfl⟩ | isNew := mem
  · obtain ⟨same, untouched⟩ | ⟨own, isOwn, same, changed⟩ := @amended_cases _ _ _ key combine elements existing
    · rw [same]
      exact .inl ⟨isOld, untouched⟩
    · exact .inr (.inr ⟨existing, isOld, own, isOwn, same, changed⟩)
  · exact .inr (.inl (List.mem_filter.mp isNew).1)

theorem keys_upserts (distinct : (list.map key).Nodup) (unrepeated : (elements.map key).Nodup) :
    ((elements.foldl (upsert key combine) list).map key).Nodup ∧
      ∀ other, other ∈ (elements.foldl (upsert key combine) list).map key ↔
        other ∈ list.map key ∨ other ∈ elements.map key := by
  have amends : (list.map (amended key combine elements)).map key = list.map key := by
    rw [List.map_map]
    exact List.map_congr_left fun existing _ => key_amended keeps
  rw [upserts_eq keeps distinct unrepeated, List.map_append, amends]
  constructor
  · rw [List.nodup_append]
    refine ⟨distinct, unrepeated.sublist (List.filter_sublist.map key), fun old isOld new isNew same => ?_⟩
    obtain ⟨element, kept, rfl⟩ := List.mem_map.mp isNew
    exact of_decide_eq_true (List.mem_filter.mp kept).2 (same ▸ isOld)
  · intro other
    rw [List.mem_append]
    constructor
    · rintro (old | new)
      · exact .inl old
      · obtain ⟨element, kept, rfl⟩ := List.mem_map.mp new
        exact .inr (List.mem_map_of_mem (List.mem_filter.mp kept).1)
    · intro listed
      by_cases old : other ∈ list.map key
      · exact .inl old
      · obtain ⟨element, isElement, rfl⟩ := List.mem_map.mp (listed.resolve_left old)
        exact .inr (List.mem_map_of_mem (List.mem_filter.mpr ⟨isElement, decide_eq_true old⟩))

end

end Foundation
