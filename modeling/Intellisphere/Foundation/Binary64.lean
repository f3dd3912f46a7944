import Mathlib.Algebra.Order.Field.Rat
import Mathlib.Data.Int.Log
import Mathlib.Data.Rat.Floor
import Mathlib.Tactic.Linarith

/-! Rounding to numbers of double precision: multiples of a power of two that depends on the
size of the number, with the nearest of them taken, and the even one of two that are equally
near. Rounding keeps order, and what is a double already stays as it is.
-/

namespace Intellisphere.Foundation

-----------------------------------------------------------------------------------------
-- The nearest integer
-----------------------------------------------------------------------------------------

/-- The nearest integer, and the even one of two that are equally near. -/
def roundEven (value : ℚ) : ℤ :=
  if Int.fract value < 1 / 2 ∨ (Int.fract value = 1 / 2 ∧ ⌊value⌋ % 2 = 0) then ⌊value⌋
  else ⌊value⌋ + 1

theorem floor_le_roundEven (value : ℚ) : ⌊value⌋ ≤ roundEven value := by
  unfold roundEven
  split
  · exact le_rfl
  · exact (Int.lt_succ ⌊value⌋).le

theorem roundEven_le_floor_add_one (value : ℚ) : roundEven value ≤ ⌊value⌋ + 1 := by
  unfold roundEven
  split
  · exact (Int.lt_succ ⌊value⌋).le
  · exact le_rfl

@[simp]
theorem roundEven_intCast (value : ℤ) : roundEven value = value := by
  simp [roundEven]

/-- Rounding keeps order, by cases on whether there is an integer between the two. -/
theorem roundEven_mono {first last : ℚ} (order : first ≤ last)
    : roundEven first ≤ roundEven last := by
  rcases (Int.floor_le_floor order).lt_or_eq with below | same
  · exact (roundEven_le_floor_add_one first).trans
      (Int.add_one_le_of_lt below |>.trans (floor_le_roundEven last))
  · have rest : Int.fract first ≤ Int.fract last := by
      rw [Int.fract, Int.fract, same]
      linarith
    unfold roundEven
    rw [same]
    split
    · split <;> omega
    next up =>
      rw [if_neg]
      intro down
      refine up (down.imp rest.trans_lt ?_)
      intro tie
      have middle : ¬Int.fract first < 1 / 2 := fun less => up (.inl less)
      exact ⟨le_antisymm (rest.trans tie.1.le) (not_lt.mp middle), tie.2⟩

-----------------------------------------------------------------------------------------
-- The nearest double
-----------------------------------------------------------------------------------------

/-- The doubles about as large as a number are the multiples of two to this power. -/
def spacingExponent (value : ℚ) : ℤ :=
  if |value| < 2 ^ (-1022 : ℤ) then -1074 else Int.log 2 |value| - 52

/-- The nearest double, for numbers of any size. -/
def roundBinary64 (value : ℚ) : ℚ :=
  roundEven (value / 2 ^ spacingExponent value) * 2 ^ spacingExponent value

/-- The number is a double, whatever its size. -/
def IsBinary64 (value : ℚ) : Prop :=
  roundBinary64 value = value

theorem neg_1074_le_spacingExponent (value : ℚ) : -1074 ≤ spacingExponent value := by
  unfold spacingExponent
  split
  · exact le_rfl
  next normal =>
    have size : (-1022 : ℤ) ≤ Int.log 2 |value| := by
      refine (Int.zpow_le_iff_le_log Nat.one_lt_two ?_).mp (by exact_mod_cast not_lt.mp normal)
      exact (zpow_pos two_pos _ : (0 : ℚ) < 2 ^ (-1022 : ℤ)).trans_le (not_lt.mp normal)
    omega

/-- A number has 53 binary digits before the end of its spacing. -/
theorem abs_lt_spacing (value : ℚ) : |value| < 2 ^ (spacingExponent value + 53) := by
  unfold spacingExponent
  split
  next subnormal =>
    exact subnormal.trans_le (zpow_le_zpow_right₀ one_le_two (by norm_num))
  next normal =>
    have above := Int.lt_zpow_succ_log_self Nat.one_lt_two |value|
    rw [show Int.log 2 |value| - 52 + 53 = Int.log 2 |value| + 1 by ring]
    exact_mod_cast above

/-- The first digit is not zero, unless the spacing is the smallest there is. -/
theorem spacing_le_abs {value : ℚ} (normal : -1074 < spacingExponent value)
    : 2 ^ (spacingExponent value + 52) ≤ |value| := by
  unfold spacingExponent at normal ⊢
  split at normal
  · exact absurd normal (lt_irrefl _)
  next large =>
    rw [if_neg large, sub_add_cancel]
    have positive : 0 < |value| :=
      (zpow_pos two_pos _ : (0 : ℚ) < 2 ^ (-1022 : ℤ)).trans_le (not_lt.mp large)
    exact_mod_cast Int.zpow_log_le_self Nat.one_lt_two positive

/-- Rounding does not pass a multiple of the spacing. -/
theorem roundBinary64_le {value : ℚ} {count : ℤ}
    (most : value ≤ count * 2 ^ spacingExponent value)
    : roundBinary64 value ≤ count * 2 ^ spacingExponent value := by
  have spacing : (0 : ℚ) < 2 ^ spacingExponent value := zpow_pos two_pos _
  have least := roundEven_mono ((div_le_iff₀ spacing).mpr most)
  rw [roundEven_intCast] at least
  exact mul_le_mul_of_nonneg_right (by exact_mod_cast least) spacing.le

theorem le_roundBinary64 {value : ℚ} {count : ℤ}
    (least : count * 2 ^ spacingExponent value ≤ value)
    : count * 2 ^ spacingExponent value ≤ roundBinary64 value := by
  have spacing : (0 : ℚ) < 2 ^ spacingExponent value := zpow_pos two_pos _
  have most := roundEven_mono ((le_div_iff₀ spacing).mpr least)
  rw [roundEven_intCast] at most
  exact mul_le_mul_of_nonneg_right (by exact_mod_cast most) spacing.le

/-- A multiple of the spacing is a double. -/
theorem isBinary64_of_multiple {value : ℚ} {count : ℤ}
    (multiple : value = count * 2 ^ spacingExponent value)
    : IsBinary64 value :=
  le_antisymm ((roundBinary64_le multiple.le).trans_eq multiple.symm)
    (multiple.trans_le (le_roundBinary64 multiple.ge))

/-- A power of two is a multiple of every smaller one. -/
theorem exists_multiple_zpow {low high : ℤ} (order : low ≤ high)
    : ∃ count : ℤ, (2 : ℚ) ^ high = count * 2 ^ low := by
  refine ⟨2 ^ (high - low).toNat, ?_⟩
  rw [Int.cast_pow, Int.cast_ofNat, ← zpow_natCast, ← zpow_add₀ two_ne_zero]
  congr 1
  omega

/-- Two numbers keep their order if a multiple of the spacing of both lies between them. -/
theorem roundBinary64_mono_of_between {first last : ℚ} {below above : ℤ}
    (same : below * (2 : ℚ) ^ spacingExponent first = above * 2 ^ spacingExponent last)
    (before : first ≤ below * 2 ^ spacingExponent first)
    (after : above * 2 ^ spacingExponent last ≤ last)
    : roundBinary64 first ≤ roundBinary64 last :=
  calc
    roundBinary64 first ≤ below * 2 ^ spacingExponent first := roundBinary64_le before
    _ = above * 2 ^ spacingExponent last := same
    _ ≤ roundBinary64 last := le_roundBinary64 after

/-- If the spacing is not the same for two numbers, a power of two is at most as large as one of
them and larger than the other, and both their spacings divide it.
-/
theorem exists_power_between {small large : ℚ}
    (wider : spacingExponent small < spacingExponent large)
    : ∃ below above : ℤ,
        below * (2 : ℚ) ^ spacingExponent small = above * 2 ^ spacingExponent large
        ∧ |small| < below * 2 ^ spacingExponent small
        ∧ above * 2 ^ spacingExponent large ≤ |large| := by
  obtain ⟨below, first⟩ := exists_multiple_zpow
    (by omega : spacingExponent small ≤ spacingExponent large + 52)
  obtain ⟨above, last⟩ := exists_multiple_zpow
    (by omega : spacingExponent large ≤ spacingExponent large + 52)
  refine ⟨below, above, first.symm.trans last, ?_, ?_⟩
  · rw [← first]
    exact (abs_lt_spacing small).trans_le (zpow_le_zpow_right₀ one_le_two (by omega))
  · rw [← last]
    exact spacing_le_abs ((neg_1074_le_spacingExponent small).trans_lt wider)

/-- Rounding keeps order: for one spacing that of the nearest integers, and otherwise across a
power of two.
-/
theorem roundBinary64_mono {first last : ℚ} (order : first ≤ last)
    : roundBinary64 first ≤ roundBinary64 last := by
  rcases lt_trichotomy (spacingExponent first) (spacingExponent last)
    with wider | same | narrower
  · obtain ⟨below, above, same, small, large⟩ := exists_power_between wider
    have inside := abs_lt.mp small
    refine roundBinary64_mono_of_between same inside.2.le ?_
    rcases abs_cases last with ⟨size, _⟩ | ⟨size, _⟩ <;> linarith
  · have spacing : (0 : ℚ) < 2 ^ spacingExponent last := zpow_pos two_pos _
    rw [roundBinary64, roundBinary64, same]
    refine mul_le_mul_of_nonneg_right ?_ spacing.le
    exact_mod_cast roundEven_mono (div_le_div_of_nonneg_right order spacing.le)
  · obtain ⟨below, above, same, small, large⟩ := exists_power_between narrower
    have inside := abs_lt.mp small
    refine @roundBinary64_mono_of_between _ _ (-above) (-below) ?_ ?_ ?_
    · push_cast
      linarith
    · push_cast
      rcases abs_cases first with ⟨size, _⟩ | ⟨size, _⟩ <;> linarith
    · push_cast
      linarith

/-- Integers of less than 53 binary digits are doubles. -/
theorem isBinary64_intCast {value : ℤ} (safe : |value| < 2 ^ 53) : IsBinary64 (value : ℚ) := by
  have size : |(value : ℚ)| < 2 ^ (53 : ℤ) := by exact_mod_cast safe
  have exponent : spacingExponent (value : ℚ) ≤ 0 := by
    by_contra positive
    have large := spacing_le_abs (by omega : -1074 < spacingExponent (value : ℚ))
    have wide : (2 : ℚ) ^ (53 : ℤ) ≤ 2 ^ (spacingExponent (value : ℚ) + 52) :=
      zpow_le_zpow_right₀ one_le_two (by omega)
    linarith
  obtain ⟨count, one⟩ := exists_multiple_zpow exponent
  refine @isBinary64_of_multiple _ (value * count) ?_
  rw [Int.cast_mul, mul_assoc, ← one, zpow_zero, mul_one]

example : roundBinary64 (1 / 10) = 3602879701896397 / 2 ^ 55 := by decide +kernel

end Intellisphere.Foundation
