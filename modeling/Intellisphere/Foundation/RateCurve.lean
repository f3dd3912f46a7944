import Mathlib.Order.Bounds.Basic
import Mathlib.Order.Interval.Set.Basic
import Intellisphere.Foundation.WindowAccount

/-! The rate curve of a capped store. Whoever looks back from `now` over a window that opened
at `opens` may have taken one full store and the gain since then; what was taken since then
comes off. The level of the store is the least of these allowances, over all windows back to
the moment the store was filled.
-/

namespace Intellisphere.Foundation

variable {K : Type*} [Field K] [LinearOrder K]

/-- An amount taken from the store at some time. -/
structure Take (K : Type*) where
  time : K
  amount : K

/-- The total of the takes from `opens` on. -/
def takenSince (opens : K) : List (Take K) → K
  | [] => 0
  | take :: rest => (if opens ≤ take.time then take.amount else 0) + takenSince opens rest

/-- What the window from `opens` to `now` still allows. -/
def allowance (capacity rate now : K) (takes : List (Take K)) (opens : K) : K :=
  capacity + rate * (now - opens) - takenSince opens takes

/-- The store was filled at `filled` and has been taken from by `takes`; at `now` its level is
the least allowance of the windows since then, attained in one of them.
-/
structure OnCurve (capacity rate filled now : K) (takes : List (Take K)) (level : K)
    : Prop where
  started : filled ≤ now
  past : ∀ take ∈ takes, take.time ≤ now
  positive : ∀ take ∈ takes, 0 ≤ take.amount
  least : IsLeast (allowance capacity rate now takes '' Set.Icc filled now) level

/-- A take counts in the windows open at its time, by induction on the earlier ones. -/
theorem takenSince_append (opens : K) (takes : List (Take K)) (last : Take K)
    : takenSince opens (takes ++ [last])
      = takenSince opens takes + if opens ≤ last.time then last.amount else 0 := by
  induction takes with
  | nil => simp only [List.nil_append, takenSince, zero_add, add_zero]
  | cons take rest ih => simp only [List.cons_append, takenSince, ih, add_assoc]

theorem takenSince_nonneg [IsStrictOrderedRing K] (opens : K) {takes : List (Take K)}
    (positive : ∀ take ∈ takes, 0 ≤ take.amount)
    : 0 ≤ takenSince opens takes := by
  induction takes with
  | nil => exact le_rfl
  | cons take rest ih =>
      refine add_nonneg ?_ (ih fun other member => positive other (.tail take member))
      split
      · exact positive take List.mem_cons_self
      · exact le_rfl

/-- A window that opens after all takes has none in it. -/
theorem takenSince_eq_zero {opens : K} {takes : List (Take K)}
    (past : ∀ take ∈ takes, take.time < opens)
    : takenSince opens takes = 0 := by
  induction takes with
  | nil => rfl
  | cons take rest ih =>
      have before := past take List.mem_cons_self
      rw [takenSince, if_neg before.not_ge, zero_add]
      exact ih fun other member => past other (.tail take member)

namespace OnCurve

variable {capacity rate filled now later level amount : K} {takes : List (Take K)}

/-- A store that was just filled has one window, in which nothing was taken. -/
theorem full (capacity rate filled : K) : OnCurve capacity rate filled filled [] capacity := by
  have whole : allowance capacity rate filled [] filled = capacity := by
    rw [allowance, takenSince, sub_self, mul_zero, add_zero, sub_zero]
  refine ⟨le_rfl, by simp, by simp, ⟨filled, ⟨le_rfl, le_rfl⟩, whole⟩, ?_⟩
  intro other member
  obtain ⟨opens, ⟨after, before⟩, rfl⟩ := member
  obtain rfl := le_antisymm before after
  exact whole.ge

variable [IsStrictOrderedRing K]

/-- No window asks for more than the window that opens now, so the level is capped. -/
theorem capped (curve : OnCurve capacity rate filled now takes level) : level ≤ capacity := by
  have atNow := curve.least.2 ⟨now, ⟨curve.started, le_rfl⟩, rfl⟩
  have taken := takenSince_nonneg now curve.positive
  rw [allowance, sub_self, mul_zero, add_zero] at atNow
  exact atNow.trans (sub_le_self capacity taken)

/-- While time passes the level gains up to the capacity: the windows open already gain
alike, and a window that opens in between has nothing taken in it.
-/
theorem gain (hasRate : 0 ≤ rate) (forward : now ≤ later)
    (curve : OnCurve capacity rate filled now takes level)
    : OnCurve capacity rate filled later takes (gained capacity rate now later level) := by
  have grown (opens : K)
      : allowance capacity rate later takes opens
        = allowance capacity rate now takes opens + rate * (later - now) := by
    unfold allowance
    ring
  have past : ∀ take ∈ takes, take.time ≤ later :=
    fun take member => (curve.past take member).trans forward
  refine ⟨curve.started.trans forward, past, curve.positive, ?_, ?_⟩
  · rcases le_or_gt (level + rate * (later - now)) capacity with fits | spills
    · obtain ⟨opens, ⟨after, before⟩, attained⟩ := curve.least.1
      refine ⟨opens, ⟨after, before.trans forward⟩, ?_⟩
      rw [grown, attained]
      exact (min_eq_left fits).symm
    · have advanced : now < later := by
        refine lt_of_le_of_ne forward ?_
        intro same
        rw [same, sub_self, mul_zero, add_zero] at spills
        exact spills.not_ge curve.capped
      have untaken : takenSince later takes = 0 :=
        takenSince_eq_zero fun take member => (curve.past take member).trans_lt advanced
      refine ⟨later, ⟨curve.started.trans forward, le_rfl⟩, ?_⟩
      rw [allowance, untaken, sub_self, mul_zero, add_zero, sub_zero]
      exact (min_eq_right spills.le).symm
  · intro other member
    obtain ⟨opens, ⟨after, before⟩, rfl⟩ := member
    rcases le_or_gt opens now with opened | unopened
    · rw [grown]
      have low := curve.least.2 ⟨opens, ⟨after, opened⟩, rfl⟩
      exact (min_le_left _ _).trans (add_le_add_left low _)
    · have untaken : takenSince opens takes = 0 :=
        takenSince_eq_zero fun take member => (curve.past take member).trans_lt unopened
      have earned : 0 ≤ rate * (later - opens) := mul_nonneg hasRate (sub_nonneg.mpr before)
      rw [allowance, untaken, sub_zero]
      exact (min_le_right _ _).trans (le_add_of_nonneg_right earned)

/-- A take lowers the allowance of every window by its amount. -/
theorem take (positive : 0 ≤ amount) (curve : OnCurve capacity rate filled now takes level)
    : OnCurve capacity rate filled now (takes ++ [⟨now, amount⟩]) (level - amount) := by
  have lowered {opens : K} (before : opens ≤ now)
      : allowance capacity rate now (takes ++ [⟨now, amount⟩]) opens
        = allowance capacity rate now takes opens - amount := by
    unfold allowance
    rw [takenSince_append, if_pos before]
    ring
  have each {Holds : Take K → Prop} (earlier : ∀ take ∈ takes, Holds take)
      (last : Holds ⟨now, amount⟩)
      : ∀ take ∈ takes ++ [⟨now, amount⟩], Holds take := by
    intro take member
    rcases List.mem_append.mp member with old | new
    · exact earlier take old
    · exact List.mem_singleton.mp new ▸ last
  refine ⟨curve.started, each curve.past le_rfl, each curve.positive positive, ?_, ?_⟩
  · obtain ⟨opens, ⟨after, before⟩, attained⟩ := curve.least.1
    exact ⟨opens, ⟨after, before⟩, by rw [lowered before, attained]⟩
  · intro other member
    obtain ⟨opens, ⟨after, before⟩, rfl⟩ := member
    rw [lowered before]
    exact sub_le_sub_right (curve.least.2 ⟨opens, ⟨after, before⟩, rfl⟩) amount

/-- The store holds an amount exactly when every window allows it. -/
theorem le_level_iff (curve : OnCurve capacity rate filled now takes level)
    : amount ≤ level
      ↔ ∀ opens,
          filled ≤ opens
          → opens ≤ now
          → takenSince opens takes + amount ≤ capacity + rate * (now - opens) := by
  constructor
  · intro holds opens after before
    have allowed := holds.trans (curve.least.2 ⟨opens, ⟨after, before⟩, rfl⟩)
    rw [allowance] at allowed
    linarith only [allowed]
  · intro allowed
    obtain ⟨opens, ⟨after, before⟩, attained⟩ := curve.least.1
    have fits := allowed opens after before
    rw [allowance] at attained
    linarith only [fits, attained]

end OnCurve

end Intellisphere.Foundation
