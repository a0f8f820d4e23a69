import Mathlib.Data.Nat.Count

/-!
# Counting remainders

A number drawn uniformly below a bound and reduced modulo a period hits the small remainders once more often than the
others.  The lemmas count the numbers below a bound whose remainder has a property, and those in an interval.
-/

namespace Foundation

theorem count_congr {p q : ℕ → Prop} [DecidablePred p] [DecidablePred q] {bound : ℕ}
    (same : ∀ number < bound, p number ↔ q number) : Nat.count p bound = Nat.count q bound := by
  apply le_antisymm
  · exact Nat.count_mono_left fun number small => (same number small).mp
  · exact Nat.count_mono_left fun number small => (same number small).mpr

theorem count_mod (p : ℕ → Prop) [DecidablePred p] {period rest : ℕ} (short : rest ≤ period) (periods : ℕ) :
    Nat.count (fun number => p (number % period)) (periods * period + rest) =
      periods * Nat.count p period + Nat.count p rest := by
  -- below the period the remainder is the number
  have below : ∀ bound ≤ period, Nat.count (fun number => p (number % period)) bound = Nat.count p bound := by
    intro bound small
    apply count_congr
    intro number less
    rw [Nat.mod_eq_of_lt (lt_of_lt_of_le less small)]
  induction periods with
  | zero => rw [Nat.zero_mul, Nat.zero_add, Nat.zero_mul, Nat.zero_add, below rest short]
  | succ periods ih =>
    have split : (periods + 1) * period + rest = period + (periods * period + rest) := by
      rw [Nat.succ_mul]
      omega
    rw [split, Nat.count_add, below period le_rfl]
    simp only [Nat.add_mod_left]
    rw [Nat.succ_mul]
    omega

theorem count_interval (first last bound : ℕ) :
    Nat.count (fun number => first ≤ number ∧ number < last) bound = min last bound - min first bound := by
  induction bound with
  | zero => simp
  | succ bound ih =>
    rw [Nat.count_succ]
    split <;> omega

end Foundation
