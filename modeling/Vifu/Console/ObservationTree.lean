import Vifu.Console.TraceModel

/-!
# The tree shows every span once

A span is placed under its parent exactly when its chain of parents ends.  So the placed spans form a forest, and the
walk over it lists each of them once.
-/

namespace Vifu.Console

open Foundation

variable {up : TraceSpan → Option TraceSpan} {forest : TraceObservationForest}

section

variable {spans ordered : List TraceSpan} {span parent : TraceSpan} {id : String} {seen : List String} {walk : Walk}
  {height : ℕ}

theorem nodesOf_some (distinct : (spans.map TraceSpan.id).Nodup) :
    nodesOf spans id = some span ↔ span ∈ spans ∧ span.id = id := by
  constructor
  · intro found
    exact ⟨List.mem_reverse.mp (List.mem_of_find?_eq_some found), by simpa using List.find?_some found⟩
  · rintro ⟨mem, rfl⟩
    cases found : nodesOf spans span.id with
    | none =>
      have absent := List.find?_eq_none.mp found span (List.mem_reverse.mpr mem)
      simp at absent
    | some other =>
      have isOther := List.mem_reverse.mp (List.mem_of_find?_eq_some found)
      have same : other.id = span.id := by simpa using List.find?_some found
      rw [List.inj_on_of_nodup_map distinct isOther mem same]

theorem nodesOf_perm (distinct : (spans.map TraceSpan.id).Nodup) (perm : ordered.Perm spans) :
    nodesOf ordered = nodesOf spans := by
  funext id
  refine Option.ext fun span => ?_
  rw [nodesOf_some distinct, nodesOf_some ((perm.map _).nodup_iff.mpr distinct), perm.mem_iff]

def parentSpan (spans : List TraceSpan) (span : TraceSpan) : Option TraceSpan := span.parentId.bind (nodesOf spans)

theorem parentSpan_some (distinct : (spans.map TraceSpan.id).Nodup) :
    parentSpan spans span = some parent ↔ parent ∈ spans ∧ span.parentId = some parent.id := by
  rw [parentSpan, Option.bind_eq_some_iff]
  constructor
  · rintro ⟨id, names, found⟩
    obtain ⟨mem, rfl⟩ := (nodesOf_some distinct).mp found
    exact ⟨mem, names⟩
  · rintro ⟨mem, names⟩
    exact ⟨parent.id, names, (nodesOf_some distinct).mpr ⟨mem, rfl⟩⟩

/-! ## Circles -/

theorem ends_of_acyclic {cursor : Option String}
    (acyclic : wouldCreateCycleFrom spans seen cursor = false) (from_span : span.parentId = cursor) :
    ∃ height, Height (parentSpan spans) span height := by
  fun_induction wouldCreateCycleFrom spans seen cursor generalizing span with
  | case1 => exact ⟨0, .top (by simp [parentSpan, from_span])⟩
  | case2 => cases acyclic
  | case3 seen id unseen missing => exact ⟨0, .top (by simp [parentSpan, from_span, missing])⟩
  | case4 seen id unseen next found ih =>
    obtain ⟨height, isHeight⟩ := ih acyclic rfl
    exact ⟨height + 1, .under (by simp [parentSpan, from_span, found]) isHeight⟩

theorem acyclic_of_ends (isHeight : Height (parentSpan spans) span height)
    (apart : ∀ id ∈ seen, ∃ other, nodesOf spans id = some other ∧
      ∀ steps, ¬Climbs (parentSpan spans) (steps + 1) span other) :
    wouldCreateCycleFrom spans seen span.parentId = false := by
  induction isHeight generalizing seen with
  | @top span last =>
    unfold wouldCreateCycleFrom
    cases names : span.parentId with
    | none => rfl
    | some id =>
      rw [parentSpan, names, Option.bind_some] at last
      have unseen : id ∉ seen := by
        intro isSeen
        obtain ⟨other, found, _⟩ := apart id isSeen
        rw [last] at found
        cases found
      simp only [unseen, ↓reduceDIte]
      split
      next => rfl
      next found =>
        rw [last] at found
        cases found
  | @under span parent height points rest ih =>
    obtain ⟨id, names, found⟩ := Option.bind_eq_some_iff.mp points
    have unseen : id ∉ seen := by
      intro isSeen
      obtain ⟨other, foundToo, never⟩ := apart id isSeen
      rw [found, Option.some.injEq] at foundToo
      exact never 0 (foundToo ▸ .step .here points)
    unfold wouldCreateCycleFrom
    simp only [names, unseen, ↓reduceDIte]
    split
    next => rfl
    next target foundToo =>
    rw [found, Option.some.injEq] at foundToo
    rw [← foundToo]
    refine ih fun other isSeen => ?_
    rw [List.mem_cons] at isSeen
    obtain rfl | isSeen := isSeen
    · exact ⟨parent, found, fun steps => Climbs.not_cyclic rest⟩
    · obtain ⟨target, foundToo, never⟩ := apart other isSeen
      exact ⟨target, foundToo, fun steps climbs => never (steps + 1) (climbs.first points)⟩

theorem parentNode_some (distinct : (spans.map TraceSpan.id).Nodup) (mem : span ∈ spans) :
    parentNode spans span = some parent ↔
      parentSpan spans span = some parent ∧ ∃ height, Height (parentSpan spans) span height := by
  rw [parentNode, Option.filter_eq_some_iff]
  refine and_congr_right fun points => ?_
  simp only [Bool.and_eq_true, decide_eq_true_eq, Bool.not_eq_true', wouldCreateCycle]
  constructor
  · rintro ⟨_, acyclic⟩
    exact ends_of_acyclic acyclic rfl
  · rintro ⟨height, isHeight⟩
    have isParent := ((parentSpan_some distinct).mp points).1
    refine ⟨fun same => ?_, acyclic_of_ends isHeight fun id isSeen => ?_⟩
    · obtain rfl := List.inj_on_of_nodup_map distinct isParent mem same
      exact Climbs.not_cyclic isHeight (.step .here points)
    · rw [List.mem_singleton.mp isSeen]
      exact ⟨span, (nodesOf_some distinct).mpr ⟨mem, rfl⟩, fun steps => Climbs.not_cyclic isHeight⟩

/-! ## The forest -/

def forestOf (ordered : List TraceSpan) : TraceObservationForest :=
  ordered.foldl (.place ordered) ⟨[], fun _ => []⟩

theorem foldl_place (distinct : (spans.map TraceSpan.id).Nodup) : ∀ {rest : List TraceSpan},
    (∀ span ∈ rest, span ∈ spans) → ∀ forest : TraceObservationForest, rest.foldl (.place spans) forest =
      ⟨forest.roots ++ rest.filter fun span => parentNode spans span = none,
        fun id => forest.children id ++ rest.filter fun span => (parentNode spans span).map TraceSpan.id = some id⟩
  | [], _, forest => by simp
  | span :: rest, members, forest => by
    rw [List.forall_mem_cons] at members
    have found : nodesOf spans span.id = some span := (nodesOf_some distinct).mpr ⟨members.1, rfl⟩
    rw [List.foldl_cons, foldl_place distinct members.2, TraceObservationForest.place, found]
    cases parent : parentNode spans span with
    | none => simp [parent]
    | some above =>
      simp only [parent, List.filter_cons, TraceObservationForest.mk.injEq, Option.map_some, Option.some.injEq,
        reduceCtorEq, decide_false, Bool.false_eq_true, ↓reduceIte, true_and]
      funext id
      by_cases same : above.id = id
      · subst same
        simp
      · simp [same, Function.update_of_ne (Ne.symm same)]

theorem forestOf_eq (distinct : (spans.map TraceSpan.id).Nodup) :
    forestOf spans = ⟨spans.filter fun span => parentNode spans span = none,
      fun id => spans.filter fun span => (parentNode spans span).map TraceSpan.id = some id⟩ := by
  rw [forestOf, foldl_place distinct fun span mem => mem]
  simp

theorem mem_children (distinct : (spans.map TraceSpan.id).Nodup) (isParent : parent ∈ spans) :
    span ∈ (forestOf spans).children parent.id ↔ span ∈ spans ∧ parentNode spans span = some parent := by
  rw [forestOf_eq distinct]
  simp only [List.mem_filter, decide_eq_true_eq, Option.map_eq_some_iff]
  refine and_congr_right fun mem => ⟨?_, fun points => ⟨parent, points, rfl⟩⟩
  rintro ⟨other, points, same⟩
  have isOther := ((parentSpan_some distinct).mp ((parentNode_some distinct mem).mp points).1).1
  rw [points, List.inj_on_of_nodup_map distinct isOther isParent same]

theorem height_placed (distinct : (spans.map TraceSpan.id).Nodup) (mem : span ∈ spans)
    (isHeight : Height (parentSpan spans) span height) : Height (parentNode spans) span height := by
  induction isHeight with
  | @top span last =>
    refine .top ?_
    cases points : parentNode spans span with
    | none => rfl
    | some parent =>
      rw [((parentNode_some distinct mem).mp points).1] at last
      cases last
  | @under span parent height points rest ih =>
    exact .under ((parentNode_some distinct mem).mpr ⟨points, height + 1, .under points rest⟩)
      (ih ((parentSpan_some distinct).mp points).1)

theorem forest_placed (distinct : (spans.map TraceSpan.id).Nodup) :
    Forest (parentNode spans) (fun span => (forestOf spans).children span.id) spans where
  distinct := distinct.of_map _
  closed span mem parent points :=
    ((parentSpan_some distinct).mp ((parentNode_some distinct mem).mp points).1).1
  grounded span mem := by
    by_cases ends : ∃ height, Height (parentSpan spans) span height
    · obtain ⟨height, isHeight⟩ := ends
      exact ⟨height, height_placed distinct mem isHeight⟩
    · refine ⟨0, .top ?_⟩
      cases points : parentNode spans span with
      | none => rfl
      | some parent => exact absurd ((parentNode_some distinct mem).mp points).2 ends
  child parent isParent span := mem_children distinct isParent
  distinctChildren parent := by
    rw [forestOf_eq distinct]
    exact (distinct.of_map _).filter _

def FlatTraceObservation.ofEntry (entry : ℕ × TraceSpan) : FlatTraceObservation := ⟨entry.1, entry.2⟩

def Walk.record (walk : Walk) (entries : List (ℕ × TraceSpan)) : Walk :=
  ⟨(entries.map fun entry => entry.2.id).reverse ++ walk.visited,
    walk.flattened ++ entries.map FlatTraceObservation.ofEntry⟩

theorem Walk.record_append (walk : Walk) (first second : List (ℕ × TraceSpan)) :
    walk.record (first ++ second) = (walk.record first).record second := by
  simp [Walk.record]

def Walk.Fresh (walk : Walk) (entries : List (ℕ × TraceSpan)) : Prop :=
  (entries.map fun entry => entry.2.id).Nodup ∧ ∀ entry ∈ entries, entry.2.id ∉ walk.visited

theorem Walk.Fresh.append {first second : List (ℕ × TraceSpan)} (fresh : walk.Fresh (first ++ second)) :
    walk.Fresh first ∧ (walk.record first).Fresh second := by
  obtain ⟨distinct, unseen⟩ := fresh
  rw [List.map_append, List.nodup_append] at distinct
  obtain ⟨one, two, apart⟩ := distinct
  refine ⟨⟨one, fun entry mem => unseen entry (List.mem_append_left _ mem)⟩, two, fun entry mem seen => ?_⟩
  rw [Walk.record, List.mem_append, List.mem_reverse] at seen
  obtain earlier | seen := seen
  · exact apart _ earlier _ (List.mem_map_of_mem mem) rfl
  · exact unseen entry (List.mem_append_right _ mem) seen

theorem foldlM_record {round : Walk → TraceSpan → Option Walk} {lists : TraceSpan → List (ℕ × TraceSpan)} :
    ∀ {siblings : List TraceSpan}, (∀ span ∈ siblings, ∀ walk : Walk, walk.Fresh (lists span) →
      round walk span = some (walk.record (lists span))) → ∀ walk : Walk, walk.Fresh (siblings.flatMap lists) →
      siblings.foldlM round walk = some (walk.record (siblings.flatMap lists))
  | [], _, walk, _ => by simp [Walk.record]
  | span :: siblings, rounds, walk, fresh => by
    rw [List.forall_mem_cons] at rounds
    obtain ⟨first, later⟩ := fresh.append
    rw [List.foldlM_cons, rounds.1 walk first, List.flatMap_cons, Walk.record_append]
    exact foldlM_record rounds.2 (walk.record (lists span)) later

theorem visit_eq (law : Forest up (fun span => forest.children span.id) spans) {calls depth height limit : ℕ}
    (bounded : ∀ span ∈ spans, ∀ height, Height up span height → height < limit) (mem : span ∈ spans)
    (isHeight : Height up span height) (enough : limit ≤ height + calls)
    (fresh : walk.Fresh (listing (fun span => forest.children span.id) calls depth span)) :
    visit forest calls depth walk span =
      some (walk.record (listing (fun span => forest.children span.id) calls depth span)) := by
  induction calls generalizing depth height walk span with
  | zero =>
    have below := bounded span mem height isHeight
    omega
  | succ calls ih =>
    have unseen : span.id ∉ walk.visited := fresh.2 (depth, span) (by simp [listing])
    rw [listing, ← List.singleton_append] at fresh ⊢
    obtain ⟨_, later⟩ := fresh.append
    rw [visit, if_neg unseen, Walk.record_append]
    refine foldlM_record (fun child isChild walk fresh => ?_) _ later
    obtain ⟨childMember, points⟩ := (law.child span mem child).mp isChild
    exact ih childMember (.under points isHeight) (by omega) fresh

end

/-! ## The list that is shown -/

section

variable {parseDate : String → Option ℤ} {localeCompare : String → String → ℤ} {spans : List TraceSpan}
  {ordered : List TraceSpan}

/-- What the list of the console shows: every span once, and a span whose chain of parents ends below its parent, one
    level deeper. -/
structure Shows (spans : List TraceSpan) (flattened : List FlatTraceObservation) : Prop where
  once : (flattened.map FlatTraceObservation.span).Perm spans
  below : ∀ span ∈ spans, ∀ parent ∈ spans, span.parentId = some parent.id →
    (∃ height, Height (parentSpan spans) span height) → ∃ depth before within after,
      flattened = before ++ ⟨depth, parent⟩ :: within ++ after ∧ ⟨depth + 1, span⟩ ∈ within ∧
        ∀ entry ∈ within, depth < entry.depth

theorem orderedSpans_perm : (orderedSpans parseDate localeCompare spans).Perm spans := List.mergeSort_perm _ _

theorem parentSpan_perm (distinct : (spans.map TraceSpan.id).Nodup)
    (perm : ordered.Perm spans) : parentSpan ordered = parentSpan spans := by
  funext span
  rw [parentSpan, parentSpan, nodesOf_perm distinct perm]

theorem heights_bounded (up : TraceSpan → Option TraceSpan) (spans : List TraceSpan) :
    ∃ limit, ∀ span ∈ spans, ∀ height, Height up span height → height < limit := by
  induction spans with
  | nil => exact ⟨0, by simp⟩
  | cons span spans ih =>
    obtain ⟨limit, bounded⟩ := ih
    by_cases ends : ∃ height, Height up span height
    · obtain ⟨height, isHeight⟩ := ends
      refine ⟨max limit (height + 1), fun other mem found isFound => ?_⟩
      rw [List.mem_cons] at mem
      obtain rfl | mem := mem
      · have same := isFound.unique isHeight
        omega
      · have below := bounded other mem found isFound
        omega
    · refine ⟨limit, fun other mem found isFound => ?_⟩
      rw [List.mem_cons] at mem
      obtain rfl | mem := mem
      · exact absurd ⟨found, isFound⟩ ends
      · exact bounded other mem found isFound

theorem listed_below (law : Forest up (fun span => forest.children span.id) spans) {calls limit : ℕ}
    (isRoot : ∀ span, span ∈ forest.roots ↔ span ∈ spans ∧ up span = none)
    (bounded : ∀ span ∈ spans, ∀ height, Height up span height → height < limit) (enough : limit ≤ calls)
    {span parent : TraceSpan} (mem : span ∈ spans) (points : up span = some parent) :
    ∃ depth before within after,
      forest.roots.flatMap (listing (fun span => forest.children span.id) calls 0) =
        before ++ (depth, parent) :: within ++ after ∧ (depth + 1, span) ∈ within ∧
        ∀ entry ∈ within, depth < entry.1 := by
  have isParent := law.closed span mem parent points
  obtain ⟨height, isHeight⟩ := law.grounded parent isParent
  have below := bounded span mem (height + 1) (.under points isHeight)
  obtain ⟨reach, isReach⟩ : ∃ reach, calls - height = reach + 1 + 1 := ⟨calls - height - 2, by omega⟩
  obtain ⟨before, after, pieces⟩ := law.infix_of_height isRoot isHeight isParent (by omega : height ≤ calls)
  rw [isReach] at pieces
  refine ⟨height, before, _, after, pieces.symm, ?_, fun entry listed => ?_⟩
  · exact List.mem_flatMap.mpr ⟨span, (law.child parent isParent span).mpr ⟨mem, points⟩, by simp [listing]⟩
  · obtain ⟨child, isChild, listed⟩ := List.mem_flatMap.mp listed
    obtain ⟨steps, _, same, _⟩ := law.climbs_of_mem ((law.child parent isParent child).mp isChild).1 listed
    omega

theorem flatten_forestOf (distinct : (ordered.map TraceSpan.id).Nodup) :
    ∃ enough, ∀ calls ≥ enough, ∃ flattened,
      flattenTraceObservationForest calls (forestOf ordered) = some flattened ∧ Shows ordered flattened := by
  obtain ⟨limit, bounded⟩ := heights_bounded (parentNode ordered) ordered
  refine ⟨limit, fun calls enough => ?_⟩
  have law := forest_placed distinct
  have isRoot : ∀ span, span ∈ (forestOf ordered).roots ↔ span ∈ ordered ∧ parentNode ordered span = none := by
    intro span
    rw [forestOf_eq distinct]
    simp
  have rootsDistinct : (forestOf ordered).roots.Nodup := by
    rw [forestOf_eq distinct]
    exact (distinct.of_map _).filter _
  have listed : (((forestOf ordered).roots.flatMap (listing (fun span => (forestOf ordered).children span.id) calls
      0)).map Prod.snd).Perm ordered :=
    law.perm rootsDistinct isRoot fun span mem height isHeight =>
      (bounded span mem height isHeight).trans_le enough
  have fresh : (⟨[], []⟩ : Walk).Fresh ((forestOf ordered).roots.flatMap
      (listing (fun span => (forestOf ordered).children span.id) calls 0)) := by
    refine ⟨?_, fun entry mem => by simp⟩
    have ids := (listed.map TraceSpan.id).nodup_iff.mpr distinct
    rwa [List.map_map] at ids
  have walked := foldlM_record (fun span isRootSpan walk fresh => by
    obtain ⟨mem, last⟩ := (isRoot span).mp isRootSpan
    exact visit_eq law bounded mem (.top last) (by omega) fresh) _ fresh
  refine ⟨_, by rw [flattenTraceObservationForest, walked]; rfl, ?_, fun span mem parent isParent names ends => ?_⟩
  · simpa [Walk.record, List.map_map, Function.comp_def, FlatTraceObservation.ofEntry] using listed
  · have placed := (parentNode_some distinct mem).mpr ⟨(parentSpan_some distinct).mpr ⟨isParent, names⟩, ends⟩
    obtain ⟨depth, before, within, after, pieces, isWithin, deeper⟩ :=
      listed_below law isRoot bounded enough mem placed
    refine ⟨depth, before.map .ofEntry, within.map .ofEntry, after.map .ofEntry, ?_, ?_, ?_⟩
    · simp [Walk.record, pieces, FlatTraceObservation.ofEntry]
    · exact List.mem_map.mpr ⟨_, isWithin, rfl⟩
    · intro shown isShown
      obtain ⟨entry, listedEntry, rfl⟩ := List.mem_map.mp isShown
      exact deeper entry listedEntry

/-! ## The order that is shown -/

def parsedOrEpoch (parseDate : String → Option ℤ) (text : String) : Option ℤ := some ((parseDate text).getD 0)

theorem compareSpans_parsed {a b : TraceSpan} (aDate : (parseDate a.createdAt).isSome)
    (bDate : (parseDate b.createdAt).isSome) :
    compareSpans (parsedOrEpoch parseDate) localeCompare a b = compareSpans parseDate localeCompare a b := by
  obtain ⟨aTime, aParsed⟩ := Option.isSome_iff_exists.mp aDate
  obtain ⟨bTime, bParsed⟩ := Option.isSome_iff_exists.mp bDate
  have times : compareTimes (parsedOrEpoch parseDate) localeCompare a b = compareTimes parseDate localeCompare a b := by
    simp [compareTimes, parsedOrEpoch, aParsed, bParsed]
  simp only [compareSpans, times]

theorem orderedSpans_sorted (collates : Collates localeCompare)
    (dates : ∀ span ∈ spans, (parseDate span.createdAt).isSome) :
    (orderedSpans parseDate localeCompare spans).Pairwise fun a b => compareSpans parseDate localeCompare a b ≤ 0 := by
  have always : ∀ text, (parsedOrEpoch parseDate text).isSome := fun text => rfl
  -- the sort compares only spans of the list, for which the dates are read the same way
  have sameSort : orderedSpans parseDate localeCompare spans =
      orderedSpans (parsedOrEpoch parseDate) localeCompare spans := by
    have mapped := List.map_mergeSort (f := id) (l := spans)
      (r := fun a b => decide (compareSpans parseDate localeCompare a b ≤ 0))
      (s := fun a b => decide (compareSpans (parsedOrEpoch parseDate) localeCompare a b ≤ 0))
      fun a isA b isB => by rw [id, id, compareSpans_parsed (dates a isA) (dates b isB)]
    rwa [List.map_id, List.map_id] at mapped
  have sorted : (orderedSpans (parsedOrEpoch parseDate) localeCompare spans).Pairwise fun a b =>
      decide (compareSpans (parsedOrEpoch parseDate) localeCompare a b ≤ 0) = true := by
    refine List.pairwise_mergeSort ?_ ?_ spans
    · intro a b c first second
      rw [decide_eq_true_eq] at first second ⊢
      exact compareSpans_trans collates (always _) (always _) (always _) first second
    · intro a b
      rw [Bool.or_eq_true, decide_eq_true_eq, decide_eq_true_eq]
      exact compareSpans_total collates (always _) (always _)
  rw [sameSort]
  refine sorted.imp_of_mem fun {a b} isA isB inOrder => ?_
  rw [orderedSpans_perm.mem_iff] at isA isB
  rw [← compareSpans_parsed (dates a isA) (dates b isB)]
  exact of_decide_eq_true inOrder

/-- `compareSpans` orders some spans strictly, and it puts spans in an order whose ids the locale tells apart. -/
structure OrdersSpans (compare : TraceSpan → TraceSpan → ℚ) (localeCompare : String → String → ℤ)
    (spans : List TraceSpan) : Prop where
  irreflexive : ∀ a ∈ spans, ¬compare a a < 0
  transitive : ∀ a ∈ spans, ∀ b ∈ spans, ∀ c ∈ spans, compare a b < 0 → compare b c < 0 → compare a c < 0
  total : ∀ a ∈ spans, ∀ b ∈ spans, localeCompare a.id b.id ≠ 0 → compare a b < 0 ∨ compare b a < 0

theorem compareSpans_orders (collates : Collates localeCompare)
    (dates : ∀ span ∈ spans, (parseDate span.createdAt).isSome) :
    OrdersSpans (compareSpans parseDate localeCompare) localeCompare spans where
  irreflexive a isA less := by
    rw [compareSpans_neg (dates a isA) (dates a isA)] at less
    have ids := collates.swap a.id a.id
    obtain less | ⟨_, less⟩ := less
    · exact less.false
    · omega
  transitive a isA b isB c isC first second := by
    rw [compareSpans_neg (dates a isA) (dates b isB)] at first
    rw [compareSpans_neg (dates b isB) (dates c isC)] at second
    rw [compareSpans_neg (dates a isA) (dates c isC)]
    obtain less | ⟨same, ids⟩ := first
    · obtain lessToo | ⟨same, _⟩ := second
      · exact .inl (less.trans lessToo)
      · exact .inl (same ▸ less)
    · obtain less | ⟨sameToo, idsToo⟩ := second
      · exact .inl (same ▸ less)
      · refine .inr ⟨same.trans sameToo, ?_⟩
        -- were the third not behind the first, the second would not be behind it either
        by_contra notLess
        have back := collates.swap a.id c.id
        have wrong := collates.trans b.id c.id a.id (by omega) (by omega)
        have forth := collates.swap a.id b.id
        omega
  total a isA b isB apart := by
    rw [compareSpans_neg (dates a isA) (dates b isB), compareSpans_neg (dates b isB) (dates a isA)]
    obtain less | same | greater := lt_trichotomy (sortKey parseDate a) (sortKey parseDate b)
    · exact .inl (.inl less)
    · have ids := collates.swap b.id a.id
      by_cases below : localeCompare a.id b.id < 0
      · exact .inl (.inr ⟨same, below⟩)
      · exact .inr (.inr ⟨same.symm, by omega⟩)
    · exact .inr (.inl greater)

/-- The list of the console shows every span once, spans below their parents and siblings in order, for all spans with
    different ids and times of creation. -/
theorem observation_tree (collates : Collates localeCompare) (distinct : (spans.map TraceSpan.id).Nodup)
    (dates : ∀ span ∈ spans, (parseDate span.createdAt).isSome) :
    (∃ enough, ∀ calls ≥ enough, ∃ flattened, flattenTraceObservationForest calls
        (buildTraceObservationForest parseDate localeCompare spans) = some flattened ∧ Shows spans flattened) ∧
      (∀ siblings, siblings = (buildTraceObservationForest parseDate localeCompare spans).roots ∨
          (∃ parent ∈ spans,
            siblings = (buildTraceObservationForest parseDate localeCompare spans).children parent.id) →
        siblings.Pairwise fun a b => compareSpans parseDate localeCompare a b ≤ 0) ∧
      OrdersSpans (compareSpans parseDate localeCompare) localeCompare spans := by
  have perm : (orderedSpans parseDate localeCompare spans).Perm spans := orderedSpans_perm
  have distinctToo := (perm.map TraceSpan.id).nodup_iff.mpr distinct
  have sorted := orderedSpans_sorted collates dates
  refine ⟨?_, fun siblings isSiblings => ?_, compareSpans_orders collates dates⟩
  · obtain ⟨enough, walks⟩ := flatten_forestOf distinctToo
    refine ⟨enough, fun calls isEnough => ?_⟩
    obtain ⟨flattened, walked, once, below⟩ := walks calls isEnough
    refine ⟨flattened, walked, once.trans perm, fun span member parent isParent names ends => ?_⟩
    rw [← parentSpan_perm distinct perm] at ends
    exact below span (perm.mem_iff.mpr member) parent (perm.mem_iff.mpr isParent) names ends
  · have built : buildTraceObservationForest parseDate localeCompare spans =
        forestOf (orderedSpans parseDate localeCompare spans) := rfl
    rw [built, forestOf_eq distinctToo] at isSiblings
    obtain rfl | ⟨parent, _, rfl⟩ := isSiblings
    · exact sorted.filter _
    · exact sorted.filter _

end

/-! ## A locale -/

/-- An accent behind a letter is taken together with it. -/
def composed : List Char → List Char
  | 'e' :: '\u0301' :: rest => '\u00e9' :: composed rest
  | character :: rest => character :: composed rest
  | [] => []

def compareCodes : List Char → List Char → ℤ
  | [], [] => 0
  | [], _ :: _ => -1
  | _ :: _, [] => 1
  | first :: a, second :: b =>
    if first.toNat < second.toNat then -1 else if second.toNat < first.toNat then 1 else compareCodes a b

/-- A locale in which texts are equal that differ only in the way in which the accent is written. -/
def accentCompare (a b : String) : ℤ := compareCodes (composed a.toList) (composed b.toList)

theorem compareCodes_swap : ∀ a b : List Char, compareCodes a b < 0 ↔ 0 < compareCodes b a
  | [], [] => by simp [compareCodes]
  | [], _ :: _ => by simp [compareCodes]
  | _ :: _, [] => by simp [compareCodes]
  | first :: a, second :: b => by
    have later := compareCodes_swap a b
    rw [compareCodes, compareCodes]
    split
    next less => simp [less.not_gt]
    next => split <;> simp [later]

theorem compareCodes_trans : ∀ a b c : List Char, compareCodes a b ≤ 0 → compareCodes b c ≤ 0 → compareCodes a c ≤ 0
  | [], _, [] => by simp [compareCodes]
  | [], _, _ :: _ => by simp [compareCodes]
  | _ :: _, [], _ => by simp [compareCodes]
  | _ :: _, _ :: _, [] => by simp [compareCodes]
  | first :: a, second :: b, third :: c => by
    have later := compareCodes_trans a b c
    simp only [compareCodes]
    grind

theorem accentCompare_collates : Collates accentCompare where
  swap _ _ := compareCodes_swap _ _
  trans _ _ _ := compareCodes_trans _ _ _

def spanWith (id : String) (parentSpanId : Option String) : TraceSpan :=
  ⟨id, parentSpanId, none, [], "2026-08-03T00:00:00.000Z"⟩

/-- A child, its root and two spans in a circle. -/
theorem observation_tree_circle : (∃ enough, ∀ calls ≥ enough, ∃ flattened, flattenTraceObservationForest calls
        (buildTraceObservationForest (fun _ => some 0) accentCompare
          [spanWith "child" (some "root"), spanWith "root" none, spanWith "a" (some "b"), spanWith "b" (some "a")]) =
          some flattened ∧
        Shows [spanWith "child" (some "root"), spanWith "root" none, spanWith "a" (some "b"), spanWith "b" (some "a")]
          flattened) :=
  (observation_tree accentCompare_collates (by decide) (by decide)).1

/-- Two spans with different ids that come in no order. -/
theorem accents_unordered :
    ¬∀ (parseDate : String → Option ℤ) (localeCompare : String → String → ℤ), Collates localeCompare →
      ∀ spans : List TraceSpan, (spans.map TraceSpan.id).Nodup →
      (∀ span ∈ spans, (parseDate span.createdAt).isSome) → ∀ a ∈ spans, ∀ b ∈ spans, a ≠ b →
        compareSpans parseDate localeCompare a b < 0 ∨ compareSpans parseDate localeCompare b a < 0 := by
  intro orders
  have ordered := orders (fun _ => some 0) accentCompare accentCompare_collates
    [spanWith "caf\u00e9" none, spanWith "cafe\u0301" none] (by decide) (by decide) (spanWith "caf\u00e9" none)
    (by decide) (spanWith "cafe\u0301" none) (by decide) (by decide)
  revert ordered
  decide

end Vifu.Console
