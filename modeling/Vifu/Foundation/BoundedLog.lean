import Mathlib.Data.List.Basic

/-!
# Accounting for a log kept in a bounded queue

A log grows at its end, and its last element may be rewritten.  Readers take elements from
a queue that holds the end of the log and may have discarded elements at its front.
`Accounted log discarded kept` relates the whole log to the elements that were not
discarded: they are a sublist, nothing is missing unless something was discarded, and the
last element is never missing.
-/

namespace Foundation

variable {α : Type*}

structure Accounted (log : List α) (discarded : Bool) (kept : List α) : Prop where
  inOrder : kept.Sublist log
  complete : discarded = false → kept = log
  last : kept.getLast? = log.getLast?

namespace Accounted

variable {log kept : List α} {discarded : Bool}

theorem nil : Accounted ([] : List α) discarded [] := ⟨.refl _, fun _ => rfl, rfl⟩

theorem append (accounted : Accounted log discarded kept) (element : α) :
    Accounted (log ++ [element]) discarded (kept ++ [element]) where
  inOrder := accounted.inOrder.append (.refl _)
  complete intact := by rw [accounted.complete intact]
  last := by simp

theorem replaceLast {element : α} (accounted : Accounted log discarded (kept ++ [element])) (replacement : α) :
    Accounted (log.dropLast ++ [replacement]) discarded (kept ++ [replacement]) := by
  have ends : log = log.dropLast ++ [element] := by
    have last := accounted.last
    rw [List.getLast?_concat] at last
    exact (List.dropLast_append_getLast? element last.symm).symm
  refine ⟨List.Sublist.append ?_ (.refl _), fun intact => ?_, by simp⟩
  · have inOrder := accounted.inOrder
    rw [ends] at inOrder
    exact (List.append_sublist_append_right [element]).mp inOrder
  · have same := accounted.complete intact
    rw [ends] at same
    rw [List.append_cancel_right same]

theorem discard {read queue : List α} (accounted : Accounted log discarded (read ++ queue)) {count : ℕ}
    (fewer : count < queue.length) : Accounted log true (read ++ queue.drop count) where
  inOrder := ((List.Sublist.refl read).append (List.drop_sublist count queue)).trans accounted.inOrder
  complete := nofun
  last := by
    have remains : queue.drop count ≠ [] := by
      simpa [List.drop_eq_nil_iff] using fewer
    have nonempty : queue ≠ [] := by
      rintro rfl
      simp at fewer
    rw [← accounted.last, List.getLast?_append_of_ne_nil _ remains,
      List.getLast?_append_of_ne_nil _ nonempty, List.getLast?_drop, if_neg (by omega)]

end Accounted

end Foundation
