import Mathlib.Algebra.Order.Field.Basic
import Mathlib.Tactic.Linarith
import Mathlib.Tactic.Ring

/-! Accounts of a capped store over a time window. A store holds a level, gains it at a
steady rate and never exceeds its capacity; each unit taken from it is charged to the window
it is taken in. Whatever the window, one full store and the gain while the window is open
pay for all units charged to it.
-/

namespace Intellisphere.Foundation

variable {K : Type*} [Field K] [LinearOrder K]

/-- The level of a store at `later`, when it held `level` at `now`. -/
def gained (capacity rate now later level : K) : K :=
  min (level + rate * (later - now)) capacity

/-- The account at time `now` of a store with `level` units left, of which `charged` units
were taken in the window from `opens` to `closes`.
-/
structure WindowAccount (capacity rate opens closes now level : K) (charged : ℕ) : Prop where
  nonneg : 0 ≤ level
  capped : level ≤ capacity
  unopened : now < opens → charged = 0
  funded : now ≤ closes → charged + level ≤ capacity + rate * max 0 (now - opens)
  bounded : charged ≤ capacity + rate * (closes - opens)

namespace WindowAccount

variable [IsStrictOrderedRing K] {capacity rate opens closes now later level : K}
variable {charged : ℕ}

/-- A full store opens an account with no charges. -/
theorem full (hasRate : 0 ≤ rate) (hasCapacity : 0 ≤ capacity) (window : opens ≤ closes)
    : WindowAccount capacity rate opens closes now capacity 0 := by
  have span : 0 ≤ rate * (closes - opens) := mul_nonneg hasRate (sub_nonneg.mpr window)
  have since : 0 ≤ rate * max 0 (now - opens) := mul_nonneg hasRate (le_max_left _ _)
  exact {
    nonneg := hasCapacity
    capped := le_rfl
    unopened := fun _ => rfl
    funded := fun _ => by rw [Nat.cast_zero, zero_add]; linarith only [since]
    bounded := by rw [Nat.cast_zero]; linarith only [span, hasCapacity]
  }

/-- Forgetting charges keeps the account. -/
theorem mono {fewer : ℕ} (less : fewer ≤ charged)
    (account : WindowAccount capacity rate opens closes now level charged)
    : WindowAccount capacity rate opens closes now level fewer := by
  have cast : (fewer : K) ≤ charged := Nat.cast_le.mpr less
  exact {
    nonneg := account.nonneg
    capped := account.capped
    unopened := fun before => Nat.le_zero.mp ((account.unopened before) ▸ less)
    funded := fun open' => le_trans (add_le_add_left cast level) (account.funded open')
    bounded := cast.trans account.bounded
  }

/-- The gain up to a later time keeps the account. Before the window opens the capacity pays
for the level; afterwards the gain is part of what the window allows.
-/
theorem gain (hasRate : 0 ≤ rate) (forward : now ≤ later)
    (account : WindowAccount capacity rate opens closes now level charged)
    : WindowAccount capacity rate opens closes later (gained capacity rate now later level)
      charged := by
  have earned : 0 ≤ rate * (later - now) := mul_nonneg hasRate (sub_nonneg.mpr forward)
  have nonneg := account.nonneg
  have capped := account.capped
  refine
    {
      nonneg := le_min (by linarith only [earned, nonneg]) (nonneg.trans capped)
      capped := min_le_right _ _
      unopened := fun before => account.unopened (forward.trans_lt before)
      funded := fun open' => ?_
      bounded := account.bounded
    }
  rcases lt_or_ge now opens with before | opened
  · have since : 0 ≤ rate * max 0 (later - opens) := mul_nonneg hasRate (le_max_left _ _)
    have top : gained capacity rate now later level ≤ capacity := min_le_right _ _
    rw [account.unopened before, Nat.cast_zero, zero_add]
    linarith only [since, top]
  · have funds := account.funded (forward.trans open')
    have low : gained capacity rate now later level ≤ level + rate * (later - now) :=
      min_le_left _ _
    rw [max_eq_right (sub_nonneg.mpr opened)] at funds
    rw [max_eq_right (sub_nonneg.mpr (opened.trans forward))]
    have split : rate * (later - opens) = rate * (now - opens) + rate * (later - now) := by
      ring
    linarith only [funds, low, split]

/-- A unit taken inside the window is charged to it. -/
theorem charge (hasRate : 0 ≤ rate) (holds : 1 ≤ level) (opened : opens ≤ now)
    (unclosed : now ≤ closes)
    (account : WindowAccount capacity rate opens closes now level charged)
    : WindowAccount capacity rate opens closes now (level - 1) (charged + 1) := by
  have funds := account.funded unclosed
  rw [max_eq_right (sub_nonneg.mpr opened)] at funds
  have within : rate * (now - opens) ≤ rate * (closes - opens) :=
    mul_le_mul_of_nonneg_left (sub_le_sub_right unclosed opens) hasRate
  have cast : ((charged + 1 : ℕ) : K) = charged + 1 := Nat.cast_succ charged
  refine
    {
      nonneg := sub_nonneg.mpr holds
      capped := ?_
      unopened := fun before => (opened.not_gt before).elim
      funded := fun _ => ?_
      bounded := ?_
    }
  · linarith only [account.capped]
  · rw [max_eq_right (sub_nonneg.mpr opened), cast]
    linarith only [funds]
  · rw [cast]
    linarith only [funds, within, holds]

/-- A unit taken outside the window is not charged to it. -/
theorem uncharged (holds : 1 ≤ level)
    (account : WindowAccount capacity rate opens closes now level charged)
    : WindowAccount capacity rate opens closes now (level - 1) charged where
  nonneg := sub_nonneg.mpr holds
  capped := by linarith only [account.capped]
  unopened := account.unopened
  funded := fun open' => by linarith only [account.funded open']
  bounded := account.bounded

end WindowAccount

/-- Gains compose: stopping over at a middle time changes nothing. -/
theorem gained_gained [IsStrictOrderedRing K]
    {capacity rate now middle later level : K} (hasRate : 0 ≤ rate)
    (second : middle ≤ later)
    : gained capacity rate middle later (gained capacity rate now middle level)
      = gained capacity rate now later level := by
  have earned : 0 ≤ rate * (later - middle) := mul_nonneg hasRate (sub_nonneg.mpr second)
  have split : rate * (later - now) = rate * (middle - now) + rate * (later - middle) := by
    ring
  unfold gained
  rw [min_add, min_assoc, min_eq_right (le_add_of_nonneg_right earned), split, add_assoc]

/-- A unit more or less makes no difference exactly when the store runs over either way. -/
theorem gained_sub_one_eq_iff [IsStrictOrderedRing K] {capacity rate now later level : K}
    : gained capacity rate now later level = gained capacity rate now later (level - 1)
      ↔ capacity ≤ level - 1 + rate * (later - now) := by
  unfold gained
  constructor
  · intro same
    by_contra short
    have less : level - 1 + rate * (later - now) < capacity := lt_of_not_ge short
    rw [min_eq_left less.le] at same
    have above : level - 1 + rate * (later - now)
        < min (level + rate * (later - now)) capacity :=
      lt_min (by linarith only) less
    exact absurd same above.ne'
  · intro spills
    rw [min_eq_right spills, min_eq_right (by linarith only [spills])]

end Intellisphere.Foundation
