import Mathlib.Data.List.Nodup

/-!
# Fallible checks

Rules for checks that return `Except`: what it means that a sequence of checks, a check of
every element, or a scan that refuses a repeated key has succeeded.
-/

namespace Foundation

variable {ε α β K : Type} {result : β} {next : α → Except ε β} {error : ε} {value : α} {first : Except ε α}
  {found : Option α}

/-- Fails with `error` unless the condition holds. -/
def ensure (condition : Prop) [Decidable condition] (error : ε) : Except ε Unit :=
  if condition then .ok () else .error error

@[simp] theorem ensure_ok {condition : Prop} [Decidable condition] {result : Unit} :
    ensure condition error = .ok result ↔ condition := by
  unfold ensure
  split <;> simp [*]

theorem ok_bind : (Except.ok value >>= next) = next value := rfl

theorem bind_ok : (first >>= next) = .ok result ↔ ∃ value, first = .ok value ∧ next value = .ok result := by
  cases first with
  | error error => exact ⟨nofun, nofun⟩
  | ok value => exact ⟨fun same => ⟨value, rfl, same⟩, fun ⟨_, isValue, same⟩ => by cases isValue; exact same⟩

@[simp] theorem check_bind_ok {first : Except ε Unit} {next : Unit → Except ε β} :
    (first >>= next) = .ok result ↔ first = .ok () ∧ next () = .ok result := by
  rw [bind_ok]
  constructor
  · rintro ⟨⟨⟩, passes, same⟩
    exact ⟨passes, same⟩
  · rintro ⟨passes, same⟩
    exact ⟨(), passes, same⟩

@[simp] theorem pure_ok {value result : α} : (pure value : Except ε α) = .ok result ↔ value = result := by
  constructor
  · rintro ⟨⟩
    rfl
  · rintro rfl
    rfl

theorem map_ok {change : α → β} :
    first.map change = .ok result ↔ ∃ value, first = .ok value ∧ change value = result := by
  cases first <;> simp [Except.map]

def okOr (error : ε) : Option α → Except ε α
  | none => .error error
  | some value => .ok value

@[simp] theorem okOr_ok : okOr error found = .ok value ↔ found = some value := by
  cases found with
  | none => exact ⟨nofun, nofun⟩
  | some stored => simp [okOr]

theorem okOr_bind {next : α → Option β} :
    (okOr error found >>= fun value => okOr error (next value)) = okOr error (found.bind next) := by
  cases found <;> rfl

theorem mapError_ok {δ : Type} {change : ε → δ} {result : Except ε α} :
    result.mapError change = .ok value ↔ result = .ok value := by
  cases result <;> simp [Except.mapError]

theorem isOk_iff {result : Except ε α} : result.isOk = true ↔ ∃ value, result = .ok value := by
  cases result <;> simp [Except.isOk, Except.toBool]

variable {elements : List α}

theorem forM_ok {check : α → Except ε PUnit} {result : PUnit} :
    elements.forM check = .ok result ↔ ∀ element ∈ elements, check element = .ok () := by
  induction elements with
  | nil => simp [List.forM]
  | cons element elements ih =>
    show (check element >>= fun _ => elements.forM check) = .ok result ↔ _
    rw [check_bind_ok, ih, List.forall_mem_cons]

variable {read : α → Except ε β} {results : List β}

theorem mapM_ok (related : List.Forall₂ (fun element result => read element = .ok result) elements results) :
    elements.mapM read = .ok results := by
  induction related with
  | nil => rfl
  | @cons element result elements results head tail ih =>
    rw [List.mapM_cons, head]
    show (elements.mapM read >>= fun others => pure (result :: others)) = _
    rw [ih]
    rfl

theorem mem_of_mapM_ok (succeeds : elements.mapM read = .ok results) (mem : result ∈ results) :
    ∃ element ∈ elements, read element = .ok result := by
  induction elements generalizing results with
  | nil =>
    cases succeeds
    cases mem
  | cons element elements ih =>
    rw [List.mapM_cons, bind_ok] at succeeds
    obtain ⟨head, isHead, rest⟩ := succeeds
    obtain ⟨others, areOthers, same⟩ := bind_ok.mp rest
    cases same
    rcases List.mem_cons.mp mem with rfl | later
    · exact ⟨element, List.mem_cons_self, isHead⟩
    · obtain ⟨source, isSource, reads⟩ := ih areOthers later
      exact ⟨source, List.mem_cons_of_mem _ isSource, reads⟩

theorem forall_of_mapM_ok
    (succeeds : elements.mapM read = .ok results) {element : α} (mem : element ∈ elements) :
    ∃ result ∈ results, read element = .ok result := by
  induction elements generalizing results with
  | nil => cases mem
  | cons first elements ih =>
    rw [List.mapM_cons, bind_ok] at succeeds
    obtain ⟨head, isHead, rest⟩ := succeeds
    obtain ⟨others, areOthers, same⟩ := bind_ok.mp rest
    rw [pure_ok] at same
    subst same
    cases mem with
    | head => exact ⟨head, List.mem_cons_self, isHead⟩
    | tail _ later =>
      obtain ⟨result, isResult, reads⟩ := ih areOthers later
      exact ⟨result, List.mem_cons_of_mem _ isResult, reads⟩

theorem mapM_ok_of_forall (succeeds : ∀ element ∈ elements, ∃ result, read element = .ok result) :
    ∃ results, elements.mapM read = .ok results ∧ ∀ result, result ∈ results ↔ ∃ element ∈ elements, read element = .ok result := by
  induction elements with
  | nil => exact ⟨[], rfl, by simp⟩
  | cons element elements ih =>
    obtain ⟨head, isHead⟩ := succeeds element List.mem_cons_self
    obtain ⟨others, areOthers, fromElements⟩ := ih fun other mem =>
      succeeds other (List.mem_cons_of_mem _ mem)
    refine ⟨head :: others, ?_, ?_⟩
    · rw [List.mapM_cons, isHead, ok_bind, areOthers]
      rfl
    · intro result
      rw [List.mem_cons, List.exists_mem_cons_iff, fromElements, isHead, Except.ok.injEq, eq_comm]

/-- A scan that remembers the keys it has seen succeeds when no key is repeated or already
    known and every element passes; it then knows all keys. -/
theorem scan_ok [DecidableEq K] {key : α → K} {Passes : α → Prop} {step : List K → α → Except ε (List K)}
    (spec : ∀ seen element result, step seen element = .ok result ↔
      result = key element :: seen ∧ key element ∉ seen ∧ Passes element)
    {seen result : List K} : elements.foldlM step seen = .ok result ↔
      result = (elements.map key).reverse ++ seen ∧ (elements.map key).Nodup ∧
        (∀ element ∈ elements, key element ∉ seen) ∧ ∀ element ∈ elements, Passes element := by
  induction elements generalizing seen with
  | nil =>
    show Except.ok seen = .ok result ↔ _
    simp [eq_comm]
  | cons element elements ih =>
    rw [List.foldlM_cons, bind_ok]
    constructor
    · intro scanned
      obtain ⟨next, stepped, rest⟩ := scanned
      obtain ⟨rfl, fresh, passes⟩ := (spec _ _ _).mp stepped
      obtain ⟨same, unrepeated, unseen, others⟩ := ih.mp rest
      refine ⟨by simp [same], List.nodup_cons.mpr ⟨?_, unrepeated⟩, ?_, ?_⟩
      · intro repeated
        obtain ⟨other, mem, isKey⟩ := List.mem_map.mp repeated
        exact unseen other mem (isKey ▸ List.mem_cons_self)
      · rw [List.forall_mem_cons]
        exact ⟨fresh, fun other mem known => unseen other mem (List.mem_cons_of_mem _ known)⟩
      · rw [List.forall_mem_cons]
        exact ⟨passes, others⟩
    · intro accepted
      obtain ⟨same, unrepeated, unseen, passes⟩ := accepted
      rw [List.map_cons, List.nodup_cons] at unrepeated
      rw [List.forall_mem_cons] at unseen passes
      refine ⟨_, (spec _ _ _).mpr ⟨rfl, unseen.1, passes.1⟩, ih.mpr ?_⟩
      refine ⟨by simp [same], unrepeated.2, ?_, passes.2⟩
      intro other mem known
      rcases List.mem_cons.mp known with isKey | isSeen
      · exact unrepeated.1 (isKey ▸ List.mem_map_of_mem mem)
      · exact unseen.2 other mem isSeen

end Foundation
