import Mathlib.Algebra.Order.Ring.Rat
import Intellisphere.Foundation.WindowAccount
import Intellisphere.Sphere.RateLimit

/-! Token buckets under nondecreasing clock readings: their tokens are a capped store, and a
bucket that is made late holds what one made early and never used would hold.
-/

namespace Intellisphere.Sphere

open Foundation

/-- The clock readings of a check are in order and none is earlier than `clock`. -/
structure CheckTimes.From (times : CheckTimes) (clock : ℚ) : Prop where
  clock_le : clock ≤ times.created
  created_le : times.created ≤ times.acquired
  acquired_le : times.acquired ≤ times.read

instance (times : CheckTimes) (clock : ℚ) : Decidable (times.From clock) :=
  decidable_of_iff
    (clock ≤ times.created
      ∧ times.created ≤ times.acquired
      ∧ times.acquired ≤ times.read)
    ⟨fun ⟨a, b, c⟩ => ⟨a, b, c⟩, fun ⟨a, b, c⟩ => ⟨a, b, c⟩⟩

theorem CheckTimes.From.acquired_from {times : CheckTimes} {clock : ℚ}
    (ordered : times.From clock)
    : clock ≤ times.acquired :=
  ordered.clock_le.trans ordered.created_le

theorem CheckTimes.From.read_from {times : CheckTimes} {clock : ℚ}
    (ordered : times.From clock)
    : clock ≤ times.read :=
  ordered.acquired_from.trans ordered.acquired_le

-----------------------------------------------------------------------------------------
-- A bucket as a capped store
-----------------------------------------------------------------------------------------

/-- The capacity of a bucket made for `rule`. -/
def RateLimitRule.capacity (rule : RateLimitRule) : ℚ :=
  rule.burst.toNat

/-- The tokens per second of a bucket made for `rule`. -/
def RateLimitRule.refillRate (rule : RateLimitRule) : ℚ :=
  rule.requestsPerMinute.toNat / 60

theorem RateLimitRule.capacity_nonneg (rule : RateLimitRule) : 0 ≤ rule.capacity :=
  Nat.cast_nonneg _

theorem RateLimitRule.refillRate_nonneg (rule : RateLimitRule) : 0 ≤ rule.refillRate :=
  div_nonneg (Nat.cast_nonneg _) (by norm_num)

/-- A bucket that was made for `rule` and last refilled no later than `clock`. -/
structure TokenBucket.Follows (bucket : TokenBucket) (rule : RateLimitRule) (clock : ℚ)
    : Prop where
  capacity : bucket.capacity = rule.capacity
  refillRate : bucket.refillRate = rule.refillRate
  lastRefill : bucket.lastRefill ≤ clock
  capped : bucket.tokens ≤ rule.capacity

theorem TokenBucket.Follows.later {bucket : TokenBucket} {rule : RateLimitRule}
    {clock later : ℚ} (forward : clock ≤ later) (follows : bucket.Follows rule clock)
    : bucket.Follows rule later :=
  { follows with lastRefill := follows.lastRefill.trans forward }

theorem TokenBucket.new_follows (rule : RateLimitRule) (now : ℚ)
    : (TokenBucket.new now rule).Follows rule now :=
  ⟨rfl, rfl, le_rfl, le_rfl⟩

@[simp] theorem TokenBucket.refill_lastRefill (bucket : TokenBucket) (now : ℚ)
    : (bucket.refill now).lastRefill = now :=
  rfl

@[simp] theorem TokenBucket.refill_capacity (bucket : TokenBucket) (now : ℚ)
    : (bucket.refill now).capacity = bucket.capacity :=
  rfl

@[simp] theorem TokenBucket.refill_refillRate (bucket : TokenBucket) (now : ℚ)
    : (bucket.refill now).refillRate = bucket.refillRate :=
  rfl

/-- While the clock does not run back, refilling is the gain of a capped store. -/
theorem TokenBucket.refill_tokens {bucket : TokenBucket} {now : ℚ}
    (forward : bucket.lastRefill ≤ now)
    : (bucket.refill now).tokens
      = gained bucket.capacity bucket.refillRate bucket.lastRefill now bucket.tokens := by
  unfold TokenBucket.refill gained
  rw [max_eq_right (sub_nonneg.mpr forward), mul_comm]

theorem TokenBucket.refill_follows {bucket : TokenBucket} {rule : RateLimitRule}
    {clock : ℚ} (now : ℚ) (follows : bucket.Follows rule clock)
    : (bucket.refill now).Follows rule now where
  capacity := follows.capacity
  refillRate := follows.refillRate
  lastRefill := le_rfl
  capped := (min_le_right _ _).trans_eq follows.capacity

/-- Refilling twice is refilling once at the later reading. -/
theorem TokenBucket.refill_refill {bucket : TokenBucket} {rule : RateLimitRule}
    {clock now later : ℚ} (follows : bucket.Follows rule clock) (first : clock ≤ now)
    (second : now ≤ later)
    : (bucket.refill now).refill later = bucket.refill later := by
  have started : bucket.lastRefill ≤ now := follows.lastRefill.trans first
  have hasRate : 0 ≤ bucket.refillRate := by
    rw [follows.refillRate]
    exact rule.refillRate_nonneg
  have tokens : ((bucket.refill now).refill later).tokens = (bucket.refill later).tokens := by
    rw [refill_tokens second, refill_tokens started, refill_tokens (started.trans second)]
    exact gained_gained hasRate second
  unfold TokenBucket.refill at tokens ⊢
  simp only [TokenBucket.mk.injEq, true_and, and_true]
  exact tokens

/-- The tokens read are those held, floored: no bucket holds more than its `u32` burst. -/
theorem TokenBucket.Follows.remaining_eq {bucket : TokenBucket} {rule : RateLimitRule}
    {clock : ℚ} (now : ℚ) (follows : bucket.Follows rule clock)
    : (bucket.remaining now).1 = ⌊(bucket.refill now).tokens⌋₊ := by
  have burst : rule.burst.toNat ≤ 2 ^ 32 - 1 := Nat.le_sub_one_of_lt rule.burst.toNat_lt
  have floored : ⌊(bucket.refill now).tokens⌋₊ ≤ rule.burst.toNat :=
    Nat.floor_le_of_le (refill_follows now follows).capped
  exact min_eq_left (floored.trans burst)

/-- No time passes, nothing is gained. -/
theorem TokenBucket.Follows.refill_now {bucket : TokenBucket} {rule : RateLimitRule}
    {clock : ℚ} (follows : bucket.Follows rule clock)
    : bucket.refill bucket.lastRefill = bucket := by
  have capped : bucket.tokens ≤ bucket.capacity :=
    follows.capped.trans_eq follows.capacity.symm
  unfold TokenBucket.refill
  simp only [sub_self, max_self, zero_mul, add_zero, min_eq_left capped]

-----------------------------------------------------------------------------------------
-- What one check does to a bucket
-----------------------------------------------------------------------------------------

/-- A check allows exactly when the refilled bucket holds a token. -/
theorem TokenBucket.check_allowed (bucket : TokenBucket) (acquiredAt readAt : ℚ)
    (rule : RateLimitRule)
    : (bucket.check acquiredAt readAt rule).1.allowed = true
      ↔ 1 ≤ (bucket.refill acquiredAt).tokens := by
  have one : (((1 : UInt32).toNat : ℕ) : ℚ) = 1 := Nat.cast_one
  unfold TokenBucket.check TokenBucket.tryAcquire
  rw [one]
  by_cases holds : 1 ≤ (bucket.refill acquiredAt).tokens
  · simp [holds]
  · simp [holds]

/-- A refusing check only refills the bucket. -/
theorem TokenBucket.check_refused {bucket : TokenBucket} {acquiredAt : ℚ} (readAt : ℚ)
    (rule : RateLimitRule) (lacks : ¬1 ≤ (bucket.refill acquiredAt).tokens)
    : (bucket.check acquiredAt readAt rule).2
      = (bucket.refill acquiredAt).refill readAt := by
  have one : (((1 : UInt32).toNat : ℕ) : ℚ) = 1 := Nat.cast_one
  unfold TokenBucket.check TokenBucket.tryAcquire TokenBucket.remaining
  rw [one]
  simp [lacks]

/-- An allowing check takes one token between its two refills. -/
theorem TokenBucket.check_granted {bucket : TokenBucket} {acquiredAt : ℚ} (readAt : ℚ)
    (rule : RateLimitRule) (holds : 1 ≤ (bucket.refill acquiredAt).tokens)
    : (bucket.check acquiredAt readAt rule).2
      = ({ bucket.refill acquiredAt with
            tokens := (bucket.refill acquiredAt).tokens - 1 } : TokenBucket).refill readAt := by
  have one : (((1 : UInt32).toNat : ℕ) : ℚ) = 1 := Nat.cast_one
  unfold TokenBucket.check TokenBucket.tryAcquire TokenBucket.remaining
  rw [one]
  simp [holds]

/-- After a refusing check the bucket holds at any later reading what it would hold without
the check.
-/
theorem TokenBucket.check_refused_refill {bucket : TokenBucket} {rule : RateLimitRule}
    {clock acquiredAt readAt reading : ℚ} (follows : bucket.Follows rule clock)
    (first : clock ≤ acquiredAt) (second : acquiredAt ≤ readAt) (later : readAt ≤ reading)
    (lacks : ¬1 ≤ (bucket.refill acquiredAt).tokens)
    : (bucket.check acquiredAt readAt rule).2.refill reading = bucket.refill reading := by
  have refilled := refill_follows acquiredAt follows
  rw [check_refused readAt rule lacks, refill_refill refilled second later,
    refill_refill follows first (second.trans later)]

/-- A bucket that gave a token away still follows its rule. -/
theorem TokenBucket.Follows.charged {bucket : TokenBucket} {rule : RateLimitRule}
    {clock : ℚ} (follows : bucket.Follows rule clock)
    : TokenBucket.Follows { bucket with tokens := bucket.tokens - 1 } rule clock :=
  { follows with capped := (sub_le_self _ zero_le_one).trans follows.capped }

/-- A checked bucket still follows its rule. -/
theorem TokenBucket.check_follows {bucket : TokenBucket} {rule : RateLimitRule}
    {clock acquiredAt : ℚ} (readAt : ℚ) (follows : bucket.Follows rule clock)
    : (bucket.check acquiredAt readAt rule).2.Follows rule readAt := by
  have refilled := refill_follows acquiredAt follows
  by_cases holds : 1 ≤ (bucket.refill acquiredAt).tokens
  · rw [check_granted readAt rule holds]
    exact refill_follows readAt refilled.charged
  · rw [check_refused readAt rule holds]
    exact refill_follows readAt refilled

end Intellisphere.Sphere
