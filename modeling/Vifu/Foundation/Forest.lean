import Mathlib.Data.List.Perm.Lattice

/-!
# Forests of upward pointers

Every element of a list may point to one above it.  Where all chains of pointers end, the elements form a forest, and
a walk in depth from the elements without a pointer lists every element once.
-/

namespace Foundation

variable {α : Type} {up : α → Option α} {low high : α} {element : α}

/-! ## Chains -/

/-- The number of steps from an element to the end of its chain. -/
inductive Height (up : α → Option α) : α → ℕ → Prop
  | top {element : α} (last : up element = none) : Height up element 0
  | under {element above : α} {height : ℕ} (points : up element = some above) (rest : Height up above height) :
      Height up element (height + 1)

theorem Height.unique {first second : ℕ} (isFirst : Height up element first)
    (isSecond : Height up element second) : first = second := by
  induction isFirst generalizing second with
  | top last =>
    cases isSecond with
    | top => rfl
    | under points => simp [points] at last
  | under points _ ih =>
    cases isSecond with
    | top last => simp [points] at last
    | under pointsToo rest =>
      rw [points, Option.some.injEq] at pointsToo
      rw [ih (pointsToo ▸ rest)]

/-- `Climbs up steps low high`: the chain of `low` comes to `high` after some steps. -/
inductive Climbs (up : α → Option α) : ℕ → α → α → Prop
  | here {element : α} : Climbs up 0 element element
  | step {steps : ℕ} {low middle high : α} (rest : Climbs up steps low middle) (points : up middle = some high) :
      Climbs up (steps + 1) low high

theorem Climbs.height {steps height : ℕ} (climbs : Climbs up steps low high)
    (isHeight : Height up low height) : ∃ above, Height up high above ∧ height = above + steps := by
  induction climbs with
  | here => exact ⟨height, isHeight, rfl⟩
  | step _ points ih =>
    obtain ⟨middle, isMiddle, same⟩ := ih isHeight
    cases isMiddle with
    | top last => simp [points] at last
    | under pointsToo rest =>
      rw [points, Option.some.injEq] at pointsToo
      exact ⟨_, pointsToo ▸ rest, by omega⟩

theorem Climbs.not_cyclic {steps height : ℕ} (isHeight : Height up element height) :
    ¬Climbs up (steps + 1) element element := by
  intro climbs
  obtain ⟨_, isAbove, same⟩ := climbs.height isHeight
  have := isAbove.unique isHeight
  omega

theorem Climbs.first {steps : ℕ} {low middle high : α} (points : up low = some middle)
    (climbs : Climbs up steps middle high) : Climbs up (steps + 1) low high := by
  induction climbs with
  | here => exact .step .here points
  | step _ above ih => exact .step (ih points) above

theorem Climbs.unique {steps : ℕ} {low first second : α} (isFirst : Climbs up steps low first)
    (isSecond : Climbs up steps low second) : first = second := by
  induction isFirst generalizing second with
  | here =>
    cases isSecond
    rfl
  | step _ points ih =>
    cases isSecond with
    | step restToo pointsToo =>
      rw [ih restToo, pointsToo, Option.some.injEq] at points
      exact points.symm

theorem Climbs.height_low {steps height : ℕ} (climbs : Climbs up steps low high)
    (isHeight : Height up high height) : Height up low (height + steps) := by
  induction climbs generalizing height with
  | here => exact isHeight
  | step _ points ih =>
    have rest := ih (.under points isHeight)
    rwa [Nat.add_right_comm, Nat.add_assoc] at rest

theorem Height.climbs {height : ℕ} (isHeight : Height up element height) :
    ∃ last, Climbs up height element last ∧ up last = none := by
  induction isHeight with
  | top last => exact ⟨_, .here, last⟩
  | under points _ ih =>
    obtain ⟨last, climbs, ends⟩ := ih
    exact ⟨last, climbs.first points, ends⟩

/-! ## Forests -/

/-- A list of elements whose pointers stay in the list and whose chains end. -/
structure Forest (up : α → Option α) (children : α → List α) (elements : List α) : Prop where
  distinct : elements.Nodup
  closed : ∀ element ∈ elements, ∀ above, up element = some above → above ∈ elements
  grounded : ∀ element ∈ elements, ∃ height, Height up element height
  child : ∀ above ∈ elements, ∀ element, element ∈ children above ↔ element ∈ elements ∧ up element = some above
  distinctChildren : ∀ above, (children above).Nodup

/-- An element and what is below it in the order of a walk, with the depths, down to some reach. -/
def listing (children : α → List α) : ℕ → ℕ → α → List (ℕ × α)
  | 0, _, _ => []
  | reach + 1, depth, element => (depth, element) :: (children element).flatMap (listing children reach (depth + 1))

variable {children : α → List α} {elements : List α} {reach depth : ℕ} {entry : ℕ × α} {roots : List α} {reach : ℕ}

section

variable (forest : Forest up children elements)
include forest

theorem Forest.climbs_of_mem (isElement : element ∈ elements)
    (listed : entry ∈ listing children reach depth element) :
    ∃ steps < reach, entry.1 = depth + steps ∧ Climbs up steps entry.2 element := by
  induction reach generalizing depth element with
  | zero => simp [listing] at listed
  | succ reach ih =>
    rw [listing, List.mem_cons, List.mem_flatMap] at listed
    obtain rfl | ⟨child, isChild, listed⟩ := listed
    · exact ⟨0, by omega, rfl, .here⟩
    · obtain ⟨childElement, points⟩ := (forest.child element isElement child).mp isChild
      obtain ⟨steps, inReach, same, climbs⟩ := ih childElement listed
      exact ⟨steps + 1, by omega, by omega, .step climbs points⟩

theorem Forest.mem_of_climbs {steps : ℕ}
    (climbs : Climbs up steps low high) (isElement : low ∈ elements) : high ∈ elements := by
  induction climbs with
  | here => exact isElement
  | step _ points ih => exact forest.closed _ (ih isElement) _ points

theorem Forest.mem_of_listed (isElement : element ∈ elements)
    (listed : entry ∈ listing children reach depth element) : entry.2 ∈ elements := by
  induction reach generalizing depth element with
  | zero => simp [listing] at listed
  | succ reach ih =>
    rw [listing, List.mem_cons, List.mem_flatMap] at listed
    obtain rfl | ⟨child, isChild, listed⟩ := listed
    · exact isElement
    · exact ih ((forest.child element isElement child).mp isChild).1 listed

theorem Forest.mem_of_reach {steps : ℕ}
    (isElement : low ∈ elements) (climbs : Climbs up steps low high) (inReach : steps < reach) :
    (depth + steps, low) ∈ listing children reach depth high := by
  induction climbs generalizing depth reach with
  | here =>
    obtain ⟨reach, rfl⟩ := Nat.exists_eq_succ_of_ne_zero (by omega : reach ≠ 0)
    simp [listing]
  | @step steps low middle high climbs points ih =>
    obtain ⟨reach, rfl⟩ := Nat.exists_eq_succ_of_ne_zero (by omega : reach ≠ 0)
    have isMiddle := forest.mem_of_climbs climbs isElement
    have isChild := (forest.child high (forest.closed middle isMiddle high points) middle).mpr ⟨isMiddle, points⟩
    have later : (depth + 1 + steps, low) ∈ listing children reach (depth + 1) middle :=
      ih isElement (Nat.lt_of_succ_lt_succ inReach)
    rw [listing, List.mem_cons, List.mem_flatMap, show depth + (steps + 1) = depth + 1 + steps by omega]
    exact .inr ⟨middle, isChild, later⟩

theorem Forest.nodup_flatMap {siblings : List α} {height : ℕ}
    (distinct : siblings.Nodup) (level : ∀ element ∈ siblings, element ∈ elements ∧ Height up element height)
    (each : ∀ element ∈ siblings, ((listing children reach depth element).map Prod.snd).Nodup) :
    ((siblings.flatMap (listing children reach depth)).map Prod.snd).Nodup := by
  rw [List.map_flatMap, List.nodup_flatMap]
  refine ⟨each, distinct.imp_of_mem fun {first second} isFirst isSecond differ => ?_⟩
  intro low inFirst inSecond
  obtain ⟨_, listedFirst, rfl⟩ := List.mem_map.mp inFirst
  obtain ⟨_, listedSecond, same⟩ := List.mem_map.mp inSecond
  obtain ⟨steps, _, _, climbsFirst⟩ := forest.climbs_of_mem (level first isFirst).1 listedFirst
  obtain ⟨stepsToo, _, _, climbsSecond⟩ := forest.climbs_of_mem (level second isSecond).1 listedSecond
  rw [same] at climbsSecond
  have heights := (climbsFirst.height_low (level first isFirst).2).unique
    (climbsSecond.height_low (level second isSecond).2)
  obtain rfl : steps = stepsToo := by omega
  exact differ (climbsFirst.unique climbsSecond)

theorem Forest.nodup_listing {height : ℕ} (isElement : element ∈ elements)
    (isHeight : Height up element height) : ((listing children reach depth element).map Prod.snd).Nodup := by
  induction reach generalizing depth element height with
  | zero => simp [listing]
  | succ reach ih =>
    have level : ∀ child ∈ children element, child ∈ elements ∧ Height up child (height + 1) := by
      intro child isChild
      obtain ⟨childElement, points⟩ := (forest.child element isElement child).mp isChild
      exact ⟨childElement, .under points isHeight⟩
    rw [listing, List.map_cons, List.nodup_cons]
    refine ⟨fun back => ?_, forest.nodup_flatMap (forest.distinctChildren element) level fun child isChild =>
      ih (level child isChild).1 (level child isChild).2⟩
    obtain ⟨entry, listed, same⟩ := List.mem_map.mp back
    obtain ⟨child, isChild, listed⟩ := List.mem_flatMap.mp listed
    obtain ⟨childElement, points⟩ := (forest.child element isElement child).mp isChild
    obtain ⟨steps, _, _, climbs⟩ := forest.climbs_of_mem childElement listed
    rw [same] at climbs
    exact Climbs.not_cyclic isHeight (.step climbs points)

theorem Forest.perm (distinct : roots.Nodup)
    (isRoot : ∀ element, element ∈ roots ↔ element ∈ elements ∧ up element = none)
    (enough : ∀ element ∈ elements, ∀ height, Height up element height → height < reach) :
    ((roots.flatMap (listing children reach 0)).map Prod.snd).Perm elements := by
  have level : ∀ root ∈ roots, root ∈ elements ∧ Height up root 0 := by
    intro root mem
    obtain ⟨rootElement, last⟩ := (isRoot root).mp mem
    exact ⟨rootElement, .top last⟩
  refine (List.perm_ext_iff_of_nodup (forest.nodup_flatMap distinct level fun root mem =>
    forest.nodup_listing (level root mem).1 (level root mem).2) forest.distinct).mpr fun element => ?_
  constructor
  · intro mem
    obtain ⟨entry, listed, rfl⟩ := List.mem_map.mp mem
    obtain ⟨root, isRootToo, listed⟩ := List.mem_flatMap.mp listed
    exact forest.mem_of_listed ((isRoot root).mp isRootToo).1 listed
  · intro isElement
    obtain ⟨height, isHeight⟩ := forest.grounded element isElement
    obtain ⟨root, climbs, ends⟩ := isHeight.climbs
    have listed : (0 + height, element) ∈ listing children reach 0 root :=
      forest.mem_of_reach isElement climbs (enough element isElement height isHeight)
    exact List.mem_map.mpr ⟨_, List.mem_flatMap.mpr
      ⟨root, (isRoot root).mpr ⟨forest.mem_of_climbs climbs isElement, ends⟩, listed⟩, rfl⟩

end

theorem infix_flatMap {β γ : Type} {values : List β} {value : β} (mem : value ∈ values) (next : β → List γ) :
    next value <:+: values.flatMap next := by
  obtain ⟨front, back, rfl⟩ := List.append_of_mem mem
  exact ⟨front.flatMap next, back.flatMap next, by simp⟩

theorem Forest.infix_of_height (forest : Forest up children elements)
    (isRoot : ∀ element, element ∈ roots ↔ element ∈ elements ∧ up element = none) {height : ℕ}
    (isHeight : Height up element height) (isElement : element ∈ elements) (inReach : height ≤ reach) :
    listing children (reach - height) height element <:+: roots.flatMap (listing children reach 0) := by
  induction isHeight with
  | top last => exact infix_flatMap ((isRoot _).mpr ⟨isElement, last⟩) (listing children reach 0)
  | @under element above height points rest ih =>
    have whole := ih (forest.closed element isElement above points) (Nat.le_of_succ_le inReach)
    have isAbove := forest.closed element isElement above points
    have isChild := (forest.child above isAbove element).mpr ⟨isElement, points⟩
    rw [show reach - height = reach - (height + 1) + 1 by omega] at whole
    have part := infix_flatMap isChild (listing children (reach - (height + 1)) (height + 1))
    exact (part.trans (List.suffix_cons _ _).isInfix).trans whole

end Foundation
