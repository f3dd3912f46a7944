import Mathlib.Algebra.Order.BigOperators.Group.Finset
import Mathlib.Algebra.Order.Ring.Int
import Mathlib.Tactic.Linarith

/-! Totals kept in a machine integer that wraps around. Counts are narrowed to the width of the
total and then added one after the other; whether anything wraps on the way is decided by the
mathematical total alone.
-/

namespace Intellisphere.Foundation

/-- The mathematical total of the first counts. -/
def total (counts : Nat → Int) (n : Nat) : Int :=
  Finset.sum (Finset.range n) counts

/-- The total of the first counts as a machine keeps it that has `size` integers: each count is
narrowed, and each addition wraps.
-/
def wrappingTotal (size : Nat) (counts : Nat → Int) : Nat → Int
  | 0 => 0
  | n + 1 => (wrappingTotal size counts n + (counts n).bmod size).bmod size

/-- Nothing wraps: the result is the mathematical total, each count is kept by the narrowing,
and each addition is exact.
-/
structure ExactTotal (size : Nat) (counts : Nat → Int) (n : Nat) : Prop where
  result : wrappingTotal size counts n = total counts n
  narrowed : ∀ k, k < n → (counts k).bmod size = counts k
  added
    : ∀ k,
        k < n
        → wrappingTotal size counts (k + 1)
          = wrappingTotal size counts k + (counts k).bmod size

section Totals

variable {size : Nat} {counts : Nat → Int} {n k : Nat}

theorem total_succ : total counts (n + 1) = total counts n + counts n :=
  Finset.sum_range_succ counts n

/-- Wherever it wrapped, a wrapping total is the mathematical one, wrapped. By induction on the
counts.
-/
theorem wrappingTotal_eq (size : Nat) (counts : Nat → Int) (n : Nat)
    : wrappingTotal size counts n = (total counts n).bmod size := by
  induction n with
  | zero => simp [wrappingTotal, total]
  | succ n ih => rw [wrappingTotal, total_succ, ih, ← Int.add_bmod]

/-- An integer fits its wrapping exactly between the halves of the size. -/
theorem bmod_eq_self_iff {half : Nat} {x : Int} (positive : 0 < half)
    : x.bmod (2 * half) = x ↔ -(half : Int) ≤ x ∧ x < half := by
  rw [Int.bmod_eq_iff (by omega)]
  refine ⟨?_, ?_⟩
  · intro fits
    omega
  · intro between
    exact ⟨by omega, by omega, by simp⟩

/-- A natural number fits if a greater one does. -/
theorem bmod_eq_self_of_le {half : Nat} {x y : Int} (positive : 0 < half)
    (fits : y.bmod (2 * half) = y) (nonneg : 0 ≤ x) (below : x ≤ y)
    : x.bmod (2 * half) = x := by
  rw [bmod_eq_self_iff positive] at fits ⊢
  omega

variable (nonneg : ∀ k, 0 ≤ counts k)

include nonneg

/-- The total of fewer counts is not greater. -/
theorem total_le_total (before : k ≤ n) : total counts k ≤ total counts n :=
  Finset.sum_le_sum_of_subset_of_nonneg (Finset.range_mono before)
    (fun j _ _ => nonneg j)

theorem total_nonneg : 0 ≤ total counts n :=
  Finset.sum_nonneg (fun k _ => nonneg k)

/-- A count among the first is at most their total. -/
theorem count_le_total (before : k < n) : counts k ≤ total counts n := by
  have upTo : total counts (k + 1) ≤ total counts n := total_le_total nonneg before
  have earlier : 0 ≤ total counts k := total_nonneg nonneg
  rw [total_succ] at upTo
  omega

/-- Nothing wraps exactly if the mathematical total fits. -/
theorem exactTotal_iff {half : Nat} (positive : 0 < half)
    : ExactTotal (2 * half) counts n ↔ total counts n < half := by
  have fits_iff
      : (total counts n).bmod (2 * half) = total counts n ↔ total counts n < half := by
    have sum : 0 ≤ total counts n := total_nonneg nonneg
    rw [bmod_eq_self_iff positive]
    omega
  rw [← fits_iff]
  refine ⟨?_, ?_⟩
  · intro unwrapped
    rw [← wrappingTotal_eq, unwrapped.result]
  · intro fits
    have kept {j : Nat} (before : j ≤ n)
        : wrappingTotal (2 * half) counts j = total counts j := by
      rw [wrappingTotal_eq]
      exact bmod_eq_self_of_le positive fits (total_nonneg nonneg)
        (total_le_total nonneg before)
    have narrowed {j : Nat} (before : j < n) : (counts j).bmod (2 * half) = counts j :=
      bmod_eq_self_of_le positive fits (nonneg j) (count_le_total nonneg before)
    refine ⟨kept (Nat.le_refl n), fun j before => narrowed before, ?_⟩
    intro j before
    rw [kept before, kept before.le, narrowed before, total_succ]

end Totals

end Intellisphere.Foundation
