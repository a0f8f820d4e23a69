import Mathlib.Data.List.Sort

/-!
# Two services in lockstep

A service answers requests one after the other and keeps a state between them.  Two services
that are given the same requests agree on all their answers when a relation between their
states survives every request and makes the answers agree.
-/

namespace Foundation

variable {σ τ α β γ : Type*} {serve : σ → α → β × σ} {admits : σ → α → Prop} {requests : List α} {state : σ}
  {left : σ → α → β × σ} {Agree : β → γ → Prop} {R : α → β → Prop} {right : List β}

def replies (serve : σ → α → β × σ) : σ → List α → List β
  | _, [] => []
  | state, request :: requests => (serve state request).1 :: replies serve (serve state request).2 requests

def Admitted (serve : σ → α → β × σ) (admits : σ → α → Prop) : σ → List α → Prop
  | _, [] => True
  | state, request :: requests => admits state request ∧ Admitted serve admits (serve state request).2 requests

instance decidableAdmitted {serve : σ → α → β × σ} {admits : σ → α → Prop}
    [∀ state request, Decidable (admits state request)] :
    ∀ state requests, Decidable (Admitted serve admits state requests)
  | _, [] => .isTrue trivial
  | state, request :: requests =>
    have := @decidableAdmitted serve admits _ (serve state request).2 requests
    inferInstanceAs (Decidable (_ ∧ _))

theorem Admitted.and {Holds : α → Prop}
    (admitted : Admitted serve admits state requests) (holds : ∀ request ∈ requests, Holds request) :
    Admitted serve (fun state request => admits state request ∧ Holds request) state requests := by
  induction requests generalizing state with
  | nil => trivial
  | cons request requests ih =>
    rw [List.forall_mem_cons] at holds
    exact ⟨⟨admitted.1, holds.1⟩, ih admitted.2 holds.2⟩

theorem admitted_congr {admits permits : σ → α → Prop}
    (alike : ∀ state request, admits state request ↔ permits state request) (requests : List α) (state : σ) :
    Admitted serve admits state requests ↔ Admitted serve permits state requests := by
  induction requests generalizing state with
  | nil => exact Iff.rfl
  | cons request requests ih =>
    rw [Admitted, Admitted, alike, ih]

theorem replies_agree {right : τ → α → γ × τ} {Related : σ → τ → Prop}
    (simulates : ∀ state other request, Related state other → admits state request →
      Agree (left state request).1 (right other request).1 ∧
        Related (left state request).2 (right other request).2) {other : τ} (related : Related state other)
    (admitted : Admitted left admits state requests) :
    List.Forall₂ Agree (replies left state requests) (replies right other requests) := by
  induction requests generalizing state other with
  | nil => exact .nil
  | cons request requests ih =>
    obtain ⟨agree, remain⟩ := simulates state other request related admitted.1
    exact .cons agree (ih remain admitted.2)

theorem forall_replies {Holds : σ → Prop} {Shows : β → Prop}
    (kept : ∀ state request, Holds state → Shows (serve state request).1 ∧ Holds (serve state request).2)
    (holds : Holds state) : ∀ reply ∈ replies serve state requests, Shows reply := by
  induction requests generalizing state with
  | nil => simp [replies]
  | cons request requests ih =>
    rw [replies, List.forall_mem_cons]
    exact ⟨(kept state request holds).1, ih (kept state request holds).2⟩

/-- Two services on the same state agree on all answers exactly while each request is one on which they agree,
provided that such a request leaves them in the same state. -/
theorem replies_agree_iff {right : σ → α → γ × σ}
    (agrees : ∀ state request, Agree (left state request).1 (right state request).1 ↔ admits state request)
    (meets : ∀ state request, admits state request → (left state request).2 = (right state request).2)
    (requests : List α) (state : σ) :
    List.Forall₂ Agree (replies left state requests) (replies right state requests) ↔
      Admitted left admits state requests := by
  induction requests generalizing state with
  | nil => exact ⟨fun _ => trivial, fun _ => .nil⟩
  | cons request requests ih =>
    rw [replies, replies, List.forall₂_cons, agrees]
    apply and_congr_right
    intro admitted
    rw [← meets state request admitted]
    exact ih _

/-! ## Related lists -/

theorem exists_related {left : List α} (related : List.Forall₂ R left right)
    {element : α} (mem : element ∈ left) : ∃ other ∈ right, R element other := by
  induction related with
  | nil => cases mem
  | cons head _ ih =>
    rcases List.mem_cons.mp mem with rfl | later
    · exact ⟨_, List.mem_cons_self, head⟩
    · obtain ⟨other, isOther, relates⟩ := ih later
      exact ⟨other, List.mem_cons_of_mem _ isOther, relates⟩

theorem related_insertionSort (before : α → α → Prop) (precedes : β → β → Prop)
    [DecidableRel before] [DecidableRel precedes]
    (alike : ∀ a b a' b', R a a' → R b b' → (before a b ↔ precedes a' b'))
    {left : List α} (related : List.Forall₂ R left right) :
    List.Forall₂ R (left.insertionSort before) (right.insertionSort precedes) := by
  have inserts : ∀ {a a'}, R a a' → ∀ {left right}, List.Forall₂ R left right →
      List.Forall₂ R (left.orderedInsert before a) (right.orderedInsert precedes a') := by
    intro a a' element left right rest
    induction rest with
    | nil => exact .cons element .nil
    | @cons b b' left right head tail ih =>
      by_cases first : before a b
      · rw [List.orderedInsert_cons, if_pos first, List.orderedInsert_cons,
          if_pos ((alike a b a' b' element head).mp first)]
        exact .cons element (.cons head tail)
      · rw [List.orderedInsert_cons, if_neg first, List.orderedInsert_cons,
          if_neg (fun precedes => first ((alike a b a' b' element head).mpr precedes))]
        exact .cons head ih
  induction related with
  | nil => exact .nil
  | cons head _ ih => exact inserts head ih

end Foundation
