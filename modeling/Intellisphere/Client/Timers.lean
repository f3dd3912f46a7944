import Intellisphere.Foundation.JsValue
import Mathlib.Algebra.Order.Field.Rat
import Mathlib.Data.Rat.Floor

/-! The timers of the platform. They take whole milliseconds of 31 bits: they drop fractions,
and run for one millisecond where a delay is out of their range.
-/

namespace Intellisphere.Client

open Intellisphere.Foundation.Js

/-- The longest delay a timer can run for. -/
def maxTimerDelay : Rat :=
  2147483647

/-- The milliseconds after which a timer set with a delay fires. -/
def timerDelay : Number → Rat
  | .finite delay => if 1 ≤ delay ∧ delay ≤ maxTimerDelay then delay.floor else 1
  | _ => 1

/-- A timer does not wait for a fraction of a millisecond. -/
theorem timerDelay_inRange {delay : Rat} (inRange : 1 ≤ delay ∧ delay ≤ maxTimerDelay)
    : timerDelay (.finite delay) = delay.floor := by
  rw [timerDelay, if_pos inRange]

/-- For a whole number of milliseconds in its range a timer is exact. -/
theorem timerDelay_whole {delay : Int}
    (inRange : 1 ≤ (delay : Rat) ∧ (delay : Rat) ≤ maxTimerDelay)
    : timerDelay (.finite delay) = delay := by
  rw [timerDelay_inRange inRange, Rat.floor_intCast]

/-- For no other delay it is. -/
theorem timerDelay_eq_iff {delay : Rat}
    : timerDelay (.finite delay) = delay
      ↔ ∃ whole : Int, delay = whole ∧ 1 ≤ delay ∧ delay ≤ maxTimerDelay := by
  refine ⟨?_, ?_⟩
  · intro same
    by_cases inRange : 1 ≤ delay ∧ delay ≤ maxTimerDelay
    · rw [timerDelay_inRange inRange] at same
      exact ⟨_, same.symm, inRange⟩
    · rw [timerDelay, if_neg inRange] at same
      subst same
      exact absurd ⟨le_rfl, by decide⟩ inRange
  · intro kept
    obtain ⟨whole, rfl, inRange⟩ := kept
    exact timerDelay_whole inRange

/-- A timer runs for a millisecond at least. -/
theorem timerDelay_short {delay : Rat} (below : delay < 1)
    : timerDelay (.finite delay) = 1 := by
  have outside : ¬(1 ≤ delay ∧ delay ≤ maxTimerDelay) := by
    intro inRange
    exact absurd inRange.1 (not_le.mpr below)
  rw [timerDelay, if_neg outside]

/-- A timer runs for a millisecond where its delay is too long. -/
theorem timerDelay_overlong {delay : Number}
    (beyond : (Number.finite maxTimerDelay).lt delay = true)
    : timerDelay delay = 1 := by
  cases delay with
  | finite delay =>
      have longer : maxTimerDelay < delay := of_decide_eq_true beyond
      have outside : ¬(1 ≤ delay ∧ delay ≤ maxTimerDelay) := by
        intro inRange
        exact absurd inRange.2 (not_le.mpr longer)
      rw [timerDelay, if_neg outside]
  | _ => rfl

end Intellisphere.Client
