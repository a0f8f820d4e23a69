import Mathlib.Data.List.Sort

/-!
# Pages behind a cursor

A query shows the first rows, in a fixed order, that the cursor of the last page admits.  Whoever follows the
cursors sees every row exactly while each page but the last ends with a row whose cursor admits all that is
left: a row that one cursor refuses is refused by all the cursors after it.
-/

namespace Foundation

variable {ρ : Type}

/-- The pages one after the other, each with the last row of the page before it as its cursor, until one is
empty. -/
def follow (page : Option ρ → List ρ) : ℕ → Option ρ → List ρ
  | 0, _ => []
  | fuel + 1, cursor =>
    match (page cursor).getLast? with
    | none => []
    | some last => page cursor ++ follow page fuel (some last)

theorem insertionSort_filter {before : ρ → ρ → Prop} [DecidableRel before] [Std.Total before] [IsTrans ρ before]
    {rows : List ρ} (antisymmetric : ∀ row ∈ rows, ∀ other ∈ rows, before row other → before other row → row = other)
    (passes : ρ → Bool) : (rows.filter passes).insertionSort before = (rows.insertionSort before).filter passes := by
  apply List.Perm.eq_of_pairwise
  · intro row other isRow isOther
    simp only [List.mem_insertionSort, List.mem_filter] at isRow isOther
    exact antisymmetric row isRow.1 other isOther.1
  · exact List.pairwise_insertionSort before _
  · exact (List.pairwise_insertionSort before rows).sublist List.filter_sublist
  · exact (List.perm_insertionSort before _).trans ((List.perm_insertionSort before rows).symm.filter passes)

/-- A query whose pages start over a sorted list, and whose cursors only look ahead. -/
structure Pages (page : Option ρ → List ρ) (sorted : List ρ) (limit : ℕ) (admits : ρ → ρ → Bool) : Prop where
  first : page none = sorted.take limit
  next : ∀ last, page (some last) = (sorted.filter (admits last)).take limit
  ahead : sorted.Pairwise fun row later => admits later row = false
  notItself : ∀ row ∈ sorted, admits row row = false
  transitive : ∀ row later last, admits row later = true → admits later last = true → admits row last = true

/-- The cursor at the end of every full page admits all later rows. -/
def KeepsRest (sorted : List ρ) (limit : ℕ) (admits : ρ → ρ → Bool) : Prop :=
  ∀ turn last, sorted[(turn + 1) * limit - 1]? = some last →
    ∀ row ∈ sorted.drop ((turn + 1) * limit), admits last row = true

namespace Pages

variable {page : Option ρ → List ρ} {sorted : List ρ} {limit : ℕ} {admits : ρ → ρ → Bool}

section

variable (pages : Pages page sorted limit admits)
include pages

theorem filter_admits {place : ℕ} {last : ρ}
    (isLast : sorted[place]? = some last) (keeps : ∀ row ∈ sorted.drop (place + 1), admits last row = true) :
    sorted.filter (admits last) = sorted.drop (place + 1) := by
  have split : sorted.take (place + 1) ++ sorted.drop (place + 1) = sorted := List.take_append_drop _ _
  have refused : ∀ row ∈ sorted.take (place + 1), admits last row = false := by
    intro row mem
    obtain ⟨index, isRow⟩ := List.mem_iff_getElem?.mp mem
    rw [List.getElem?_take] at isRow
    obtain ⟨small, isRow⟩ := Option.ite_none_right_eq_some.mp isRow
    obtain ⟨placeFits, isPlace⟩ := List.getElem?_eq_some_iff.mp isLast
    obtain ⟨indexFits, isIndex⟩ := List.getElem?_eq_some_iff.mp isRow
    rcases Nat.lt_or_eq_of_le (Nat.lt_succ_iff.mp small) with earlier | same
    · have ahead := List.pairwise_iff_getElem.mp pages.ahead index place indexFits placeFits earlier
      rwa [isPlace, isIndex] at ahead
    · subst same
      rw [← isIndex, ← isPlace]
      exact pages.notItself _ (List.getElem_mem _)
  conv_lhs => rw [← split]
  rw [List.filter_append, List.filter_eq_nil_iff.mpr, List.nil_append, List.filter_eq_self.mpr keeps]
  intro row mem
  simp [refused row mem]

theorem admits_follow (fuel : ℕ) {cursor row : ρ}
    (mem : row ∈ follow page fuel (some cursor)) : admits cursor row = true := by
  have ofPage : ∀ cursor, ∀ row ∈ page (some cursor), admits cursor row = true := by
    intro cursor row isShown
    rw [pages.next] at isShown
    exact (List.mem_filter.mp (List.mem_of_mem_take isShown)).2
  induction fuel generalizing cursor with
  | zero => cases mem
  | succ fuel ih =>
    simp only [follow] at mem
    split at mem
    next => cases mem
    next last isLast =>
      rw [List.mem_append] at mem
      cases mem with
      | inl shown => exact ofPage cursor row shown
      | inr later =>
        apply pages.transitive cursor last row
        · exact ofPage cursor last (List.mem_of_getLast? isLast)
        · exact ih later

theorem follow_drop (positive : 0 < limit) (fuel turn : ℕ)
    (enough : sorted.length < turn * limit + fuel) {cursor : Option ρ}
    (shows : page cursor = (sorted.drop (turn * limit)).take limit) :
    follow page fuel cursor = sorted.drop (turn * limit) ↔
      ∀ later last, turn ≤ later → sorted[(later + 1) * limit - 1]? = some last →
        ∀ row ∈ sorted.drop ((later + 1) * limit), admits last row = true := by
  have advance : ∀ later, turn ≤ later → (turn + 1) * limit ≤ (later + 1) * limit := by
    intro later notBefore
    exact Nat.mul_le_mul_right limit (Nat.add_le_add_right notBefore 1)
  have step : (turn + 1) * limit = turn * limit + limit := Nat.succ_mul turn limit
  induction fuel generalizing turn cursor with
  | zero =>
    -- all rows have been seen
    have done : sorted.drop (turn * limit) = [] := List.drop_eq_nil_iff.mpr (by omega)
    rw [done]
    refine ⟨fun _ later last notBefore _ row mem => ?_, fun _ => rfl⟩
    have none : sorted.drop ((later + 1) * limit) = [] := by
      have further := advance later notBefore
      exact List.drop_eq_nil_iff.mpr (by omega)
    rw [none] at mem
    cases mem
  | succ fuel ih =>
    by_cases full : turn * limit + limit ≤ sorted.length
    · -- a full page, whose last row is the next cursor
      have inside : turn * limit + (limit - 1) < sorted.length := by omega
      have isLast : (page cursor).getLast? = some sorted[turn * limit + (limit - 1)] := by
        rw [shows, List.getLast?_eq_getElem?, List.length_take, List.length_drop, List.getElem?_take,
          if_pos (by omega), List.getElem?_drop, List.getElem?_eq_getElem (by omega)]
        congr 2
        omega
      have place : sorted[(turn + 1) * limit - 1]? = some sorted[turn * limit + (limit - 1)] := by
        rw [List.getElem?_eq_getElem (by omega)]
        congr 2
        omega
      have unfolded : follow page (fuel + 1) cursor = sorted.drop (turn * limit) ↔
          follow page fuel (some sorted[turn * limit + (limit - 1)]) = sorted.drop ((turn + 1) * limit) := by
        have split : sorted.drop (turn * limit) =
            (sorted.drop (turn * limit)).take limit ++ sorted.drop ((turn + 1) * limit) := by
          rw [step, ← List.drop_drop, List.take_append_drop]
        rw [follow, isLast]
        show page cursor ++ _ = _ ↔ _
        rw [shows]
        conv_lhs =>
          rhs
          rw [split]
        rw [List.append_cancel_left_eq]
      have keeps : (∀ row ∈ sorted.drop ((turn + 1) * limit),
          admits sorted[turn * limit + (limit - 1)] row = true) →
          page (some sorted[turn * limit + (limit - 1)]) = (sorted.drop ((turn + 1) * limit)).take limit := by
        intro admitted
        have isPlace : (turn + 1) * limit - 1 + 1 = (turn + 1) * limit := by omega
        rw [pages.next, pages.filter_admits place (by rwa [isPlace]), isPlace]
      rw [unfolded]
      have next := fun admitted => ih (turn + 1) (by omega) (keeps admitted)
        (fun later notBefore => Nat.mul_le_mul_right limit (Nat.add_le_add_right notBefore 1))
        (Nat.succ_mul _ _)
      constructor
      · intro seen later last notBefore found row mem
        have admitted : ∀ row ∈ sorted.drop ((turn + 1) * limit),
            admits sorted[turn * limit + (limit - 1)] row = true := by
          intro row later
          rw [← seen] at later
          exact pages.admits_follow fuel later
        rcases Nat.lt_or_eq_of_le notBefore with after | same
        · exact (next admitted).mp seen later last after found row mem
        · subst same
          rw [place, Option.some.injEq] at found
          exact found ▸ admitted row mem
      · intro kept
        have admitted := kept turn _ le_rfl place
        exact (next admitted).mpr fun later last after => kept later last (by omega)
    · -- the last page, after which nothing is left
      have whole : (sorted.drop (turn * limit)).take limit = sorted.drop (turn * limit) :=
        List.take_of_length_le (by rw [List.length_drop]; omega)
      refine ⟨fun _ later last notBefore found => ?_, fun _ => ?_⟩
      · have further := advance later notBefore
        rw [List.getElem?_eq_none (by omega)] at found
        cases found
      · rw [follow, shows, whole]
        split
        next empty => exact (List.getLast?_eq_none_iff.mp empty).symm
        next last isLast =>
          have nothing : page (some last) = [] := by
            have place : sorted[sorted.length - 1]? = some last := by
              rw [List.getLast?_drop] at isLast
              split at isLast
              next => cases isLast
              next => rwa [List.getLast?_eq_getElem?] at isLast
            have positiveLength := List.length_pos_of_mem (List.mem_of_getElem? place)
            have isEnd : sorted.length - 1 + 1 = sorted.length := by omega
            rw [pages.next, pages.filter_admits place (by simp [isEnd]), isEnd, List.drop_length, List.take_nil]
          cases fuel with
          | zero => simp [follow]
          | succ fuel => simp [follow, nothing]

theorem follow_all (positive : 0 < limit) {fuel : ℕ}
    (enough : sorted.length < fuel) : follow page fuel none = sorted ↔ KeepsRest sorted limit admits := by
  have start : page none = (sorted.drop (0 * limit)).take limit := by simpa using pages.first
  simpa [KeepsRest] using pages.follow_drop positive fuel 0 (by omega) start

end

end Pages

end Foundation
