import Intellisphere.Foundation.Machine
import Intellisphere.Foundation.RateCurve
import Intellisphere.Sphere.RateLimiting.Buckets

/-! A token bucket grants what its rate curve allows. Calls come at nondecreasing clock
readings; each is dated by the reading its refill makes.
-/

namespace Intellisphere.Sphere

open Foundation

/-- A call of a bucket, with the clock reading it makes. -/
inductive BucketCall where
  | tryAcquire (now : ℚ) (count : UInt32)
  | remaining (now : ℚ)
  deriving DecidableEq

inductive BucketAnswer where
  | acquired (granted : Bool)
  | left (tokens : Nat)
  deriving DecidableEq

def BucketCall.now : BucketCall → ℚ
  | .tryAcquire now _ => now
  | .remaining now => now

def TokenBucket.call (bucket : TokenBucket) : BucketCall → TokenBucket × BucketAnswer
  | .tryAcquire now count =>
      let (granted, bucket) := bucket.tryAcquire now count
      (bucket, .acquired granted)
  | .remaining now =>
      let (tokens, bucket) := bucket.remaining now
      (bucket, .left tokens)

/-- A bucket answers calls whose clock reading is not before that of the last call. -/
def bucketCalls : Machine TokenBucket BucketCall BucketAnswer where
  step bucket call := if bucket.lastRefill ≤ call.now then some (bucket.call call) else none

abbrev BucketTrace :=
  List (BucketCall × BucketAnswer)

/-- The tokens granted so far, in order. -/
def grants (trace : BucketTrace) : List (Take ℚ) :=
  trace.filterMap fun entry =>
    match entry with
    | (.tryAcquire now count, .acquired true) => some ⟨now, count.toNat⟩
    | _ => none

/-- The tokens granted by the calls of `trace` from `opens` on. -/
def grantedSince (trace : BucketTrace) (opens : ℚ) : ℚ :=
  takenSince opens (grants trace)

/-- The calls of `trace` that ask for tokens. -/
def acquisitions (trace : BucketTrace) : BucketTrace :=
  trace.filter fun entry =>
    match entry.1 with
    | .tryAcquire _ _ => true
    | .remaining _ => false

-----------------------------------------------------------------------------------------
-- Each call keeps the bucket on its curve
-----------------------------------------------------------------------------------------

/-- A bucket made for `rule` at `created` that has answered `trace`: what it holds is the
least allowance of the windows since then, and no less than nothing.
-/
structure TokenBucket.OnCurve (bucket : TokenBucket) (rule : RateLimitRule) (created : ℚ)
    (trace : BucketTrace)
    : Prop where
  follows : bucket.Follows rule bucket.lastRefill
  nonneg : 0 ≤ bucket.tokens
  curve
    : Foundation.OnCurve rule.capacity rule.refillRate created bucket.lastRefill
        (grants trace) bucket.tokens

theorem TokenBucket.new_onCurve (rule : RateLimitRule) (created : ℚ)
    : (TokenBucket.new created rule).OnCurve rule created [] :=
  ⟨new_follows rule created, rule.capacity_nonneg,
    .full rule.capacity rule.refillRate created⟩

theorem TokenBucket.OnCurve.refill {bucket : TokenBucket} {rule : RateLimitRule}
    {created now : ℚ} {trace : BucketTrace} (forward : bucket.lastRefill ≤ now)
    (onCurve : bucket.OnCurve rule created trace)
    : (bucket.refill now).OnCurve rule created trace := by
  have tokens := refill_tokens forward
  rw [onCurve.follows.capacity, onCurve.follows.refillRate] at tokens
  have earned : 0 ≤ rule.refillRate * (now - bucket.lastRefill) :=
    mul_nonneg rule.refillRate_nonneg (sub_nonneg.mpr forward)
  refine ⟨refill_follows now onCurve.follows, ?_, ?_⟩
  · rw [tokens]
    exact le_min (add_nonneg onCurve.nonneg earned) rule.capacity_nonneg
  · rw [tokens]
    exact onCurve.curve.gain rule.refillRate_nonneg forward

/-- A bucket grants as many tokens as it holds after its refill. -/
theorem TokenBucket.tryAcquire_granted (bucket : TokenBucket) (now : ℚ) (count : UInt32)
    : (bucket.tryAcquire now count).1 = true
      ↔ (count.toNat : ℚ) ≤ (bucket.refill now).tokens := by
  unfold TokenBucket.tryAcquire
  by_cases holds : (count.toNat : ℚ) ≤ (bucket.refill now).tokens
  · simp [holds]
  · simp [holds]

/-- A refused attempt only refills the bucket. -/
theorem TokenBucket.tryAcquire_refused {bucket : TokenBucket} {now : ℚ} {count : UInt32}
    (lacks : ¬(count.toNat : ℚ) ≤ (bucket.refill now).tokens)
    : bucket.tryAcquire now count = (false, bucket.refill now) := by
  unfold TokenBucket.tryAcquire
  simp only [lacks, if_false]

/-- A granted attempt takes its tokens from the refilled bucket. -/
theorem TokenBucket.tryAcquire_taken {bucket : TokenBucket} {now : ℚ} {count : UInt32}
    (holds : (count.toNat : ℚ) ≤ (bucket.refill now).tokens)
    : bucket.tryAcquire now count
      = (true,
          { bucket.refill now with
            tokens := (bucket.refill now).tokens - count.toNat }) := by
  unfold TokenBucket.tryAcquire
  simp only [holds, if_true]

/-- What is granted last counts last. -/
theorem grants_append (trace : BucketTrace) (now : ℚ) (count : UInt32)
    : grants (trace ++ [(.tryAcquire now count, .acquired true)])
      = grants trace ++ [⟨now, count.toNat⟩] := by
  unfold grants
  rw [List.filterMap_append]
  rfl

/-- Readings and refusals grant nothing. -/
theorem grants_append_none (trace : BucketTrace) {call : BucketCall} {answer : BucketAnswer}
    (ungranted : answer ≠ .acquired true)
    : grants (trace ++ [(call, answer)]) = grants trace := by
  unfold grants
  rw [List.filterMap_append, List.filterMap_cons_none, List.filterMap_nil, List.append_nil]
  split
  next same => exact absurd (Prod.mk.inj same).2 ungranted
  next => rfl

/-- One call keeps the bucket on its curve. -/
theorem TokenBucket.OnCurve.call {bucket : TokenBucket} {rule : RateLimitRule}
    {created : ℚ} {trace : BucketTrace} {call : BucketCall}
    (forward : bucket.lastRefill ≤ call.now) (onCurve : bucket.OnCurve rule created trace)
    : (bucket.call call).1.OnCurve rule created (trace ++ [(call, (bucket.call call).2)]) := by
  obtain ⟨follows, nonneg, curve⟩ := onCurve.refill forward
  cases call with
  | remaining now =>
      have ungranted : (bucket.call (.remaining now)).2 ≠ .acquired true :=
        BucketAnswer.noConfusion
      exact ⟨follows, nonneg, (grants_append_none trace ungranted).symm ▸ curve⟩
  | tryAcquire now count =>
      by_cases holds : (count.toNat : ℚ) ≤ (bucket.refill now).tokens
      · have taken : bucket.call (.tryAcquire now count) = (_, .acquired true) :=
          congrArg (fun result => (result.2, BucketAnswer.acquired result.1))
            (tryAcquire_taken holds)
        rw [taken]
        have fewer : (bucket.refill now).tokens - count.toNat ≤ rule.capacity :=
          (sub_le_self _ (Nat.cast_nonneg _)).trans follows.capped
        refine ⟨{ follows with capped := fewer }, sub_nonneg.mpr holds, ?_⟩
        rw [grants_append]
        exact curve.take (Nat.cast_nonneg _)
      · have refused : bucket.call (.tryAcquire now count) = (_, .acquired false) :=
          congrArg (fun result => (result.2, BucketAnswer.acquired result.1))
            (tryAcquire_refused holds)
        rw [refused]
        have ungranted : BucketAnswer.acquired false ≠ .acquired true := by decide
        exact ⟨follows, nonneg, (grants_append_none trace ungranted).symm ▸ curve⟩

theorem bucketCalls_step {bucket next : TokenBucket} {call : BucketCall}
    {answer : BucketAnswer} (stepped : bucketCalls.step bucket call = some (next, answer))
    : bucket.lastRefill ≤ call.now ∧ (next, answer) = bucket.call call := by
  obtain ⟨forward, same⟩ := Option.ite_none_right_eq_some.mp stepped
  exact ⟨forward, (Option.some.inj same).symm⟩

/-- Every bucket is on its curve after every run, by induction on the run. -/
theorem bucketCalls_onCurve {rule : RateLimitRule} {created : ℚ} {trace : BucketTrace}
    {bucket : TokenBucket} (run : bucketCalls.Run (.new created rule) trace bucket)
    : bucket.OnCurve rule created trace := by
  refine run.history (fun trace bucket => bucket.OnCurve rule created trace)
    (TokenBucket.new_onCurve rule created) ?_
  intro trace bucket call next answer _ onCurve stepped
  obtain ⟨forward, same⟩ := bucketCalls_step stepped
  obtain ⟨rfl, rfl⟩ := Prod.mk.inj same
  exact onCurve.call forward

-----------------------------------------------------------------------------------------
-- Readings decide nothing
-----------------------------------------------------------------------------------------

/-- The two buckets hold the same from the last call of the first on. -/
structure TokenBucket.RefillsAs (bucket other : TokenBucket) : Prop where
  behind : other.lastRefill ≤ bucket.lastRefill
  same : ∀ now, bucket.lastRefill ≤ now → bucket.refill now = other.refill now

/-- A run without its readings is a run with the same answers, by induction on the run: the
bucket that was not read catches up at its next refill.
-/
theorem bucketCalls_acquisitions {rule : RateLimitRule} {created : ℚ} {trace : BucketTrace}
    {bucket : TokenBucket} (run : bucketCalls.Run (.new created rule) trace bucket)
    : ∃ other,
        bucketCalls.Run (.new created rule) (acquisitions trace) other
        ∧ bucket.RefillsAs other := by
  refine run.history
    (fun trace bucket => ∃ other,
      bucketCalls.Run (.new created rule) (acquisitions trace) other
      ∧ bucket.RefillsAs other)
    ⟨_, .nil _, le_rfl, fun _ _ => rfl⟩ ?_
  intro trace bucket call next answer before ⟨other, unread, refills⟩ stepped
  obtain ⟨forward, same⟩ := bucketCalls_step stepped
  obtain ⟨rfl, rfl⟩ := Prod.mk.inj same
  have follows := (bucketCalls_onCurve before).follows
  unfold acquisitions at unread ⊢
  rw [List.filter_append]
  cases call with
  | remaining now =>
      rw [List.filter_cons_of_neg Bool.false_ne_true, List.filter_nil, List.append_nil]
      refine ⟨other, unread, refills.behind.trans forward, ?_⟩
      intro later after
      exact (TokenBucket.refill_refill follows forward after).trans
        (refills.same later (forward.trans after))
  | tryAcquire now count =>
      rw [List.filter_cons_of_pos rfl, List.filter_nil]
      have alike : other.tryAcquire now count = bucket.tryAcquire now count := by
        unfold TokenBucket.tryAcquire
        rw [refills.same now forward]
      have next
          : bucketCalls.step other (.tryAcquire now count)
            = some (bucket.call (.tryAcquire now count)) := by
        have called
            : other.call (.tryAcquire now count) = bucket.call (.tryAcquire now count) :=
          congrArg (fun result => (result.2, BucketAnswer.acquired result.1)) alike
        rw [← called]
        exact if_pos (refills.behind.trans forward)
      exact ⟨_, unread.snoc next, le_rfl, fun _ _ => rfl⟩

-----------------------------------------------------------------------------------------
-- The grants of every run
-----------------------------------------------------------------------------------------

/-- The answer to a call is the step of the bucket that the calls before it left. -/
theorem bucketCalls_answer {rule : RateLimitRule} {created : ℚ} {earlier later : BucketTrace}
    {call : BucketCall} {answer : BucketAnswer} {bucket : TokenBucket}
    (run : bucketCalls.Run (.new created rule) (earlier ++ (call, answer) :: later) bucket)
    : ∃ before : TokenBucket,
        before.OnCurve rule created earlier
        ∧ before.lastRefill ≤ call.now
        ∧ answer = (before.call call).2 := by
  obtain ⟨before, head, tail⟩ := run.split earlier _
  obtain ⟨next, stepped, _⟩ := tail.uncons
  obtain ⟨forward, same⟩ := bucketCalls_step stepped
  exact ⟨before, bucketCalls_onCurve head, forward, (Prod.mk.inj same).2⟩

/-- In every run of calls of a bucket, tokens are granted exactly when every window back to
the making of the bucket allows them; a reading is the least of these allowances, floored;
and without its readings the run is answered as with them.
-/
theorem tokenBucket_grants_iff {rule : RateLimitRule} {created : ℚ} {trace : BucketTrace}
    {bucket : TokenBucket} (run : bucketCalls.Run (.new created rule) trace bucket)
    : (∀ earlier now count granted later,
        trace = earlier ++ (.tryAcquire now count, .acquired granted) :: later
        → (granted = true
          ↔ ∀ opens,
              created ≤ opens
              → opens ≤ now
              → grantedSince earlier opens + count.toNat
                ≤ rule.burst.toNat + rule.requestsPerMinute.toNat / 60 * (now - opens)))
      ∧ (∀ earlier now (tokens : Nat) later,
          trace = earlier ++ (.remaining now, .left tokens) :: later
          → ∃ least : ℚ,
              IsLeast
                ((fun opens =>
                    rule.burst.toNat + rule.requestsPerMinute.toNat / 60 * (now - opens)
                    - grantedSince earlier opens)
                  '' Set.Icc created now)
                least
              ∧ (tokens : ℤ) = ⌊least⌋)
      ∧ ∃ other, bucketCalls.Run (.new created rule) (acquisitions trace) other := by
  refine ⟨?_, ?_, ?_⟩
  · intro earlier now count granted later whole
    obtain ⟨before, onCurve, forward, same⟩ := bucketCalls_answer (whole ▸ run)
    obtain rfl : granted = (before.tryAcquire now count).1 := BucketAnswer.acquired.inj same
    rw [before.tryAcquire_granted]
    exact (onCurve.refill forward).curve.le_level_iff
  · intro earlier now tokens later whole
    obtain ⟨before, onCurve, forward, same⟩ := bucketCalls_answer (whole ▸ run)
    obtain rfl : tokens = (before.remaining now).1 := BucketAnswer.left.inj same
    have refilled := onCurve.refill forward
    refine ⟨_, refilled.curve.least, ?_⟩
    rw [onCurve.follows.remaining_eq now]
    exact Int.natCast_floor_eq_floor refilled.nonneg
  · obtain ⟨other, unread, _⟩ := bucketCalls_acquisitions run
    exact ⟨other, unread⟩

/-- A bucket of two tokens and one more a second: both are granted, a third is refused at
once and granted a second later.
-/
def sampleCalls : List BucketCall :=
  [.tryAcquire 0 2, .tryAcquire 0 1, .remaining (1 / 2), .tryAcquire 1 1]

def sampleRule : RateLimitRule :=
  { requestsPerMinute := 60, burst := 2 }

/-- The third token, asked for at once, is one that some window does not allow. -/
theorem tokenBucket_grants_iff_sample
    : ¬∀ opens : ℚ,
        0 ≤ opens
        → opens ≤ 0
        → grantedSince [(.tryAcquire 0 2, .acquired true)] opens + (1 : UInt32).toNat
          ≤ sampleRule.burst.toNat
            + sampleRule.requestsPerMinute.toNat / 60 * (0 - opens) := by
  have enabled : (bucketCalls.exec (.new 0 sampleRule) sampleCalls).isSome = true := by
    decide +kernel
  have trace
      : bucketCalls.traceOf (.new 0 sampleRule) sampleCalls
        = [(.tryAcquire 0 2, .acquired true)]
          ++ (.tryAcquire 0 1, .acquired false)
            :: [(.remaining (1 / 2), .left 0), (.tryAcquire 1 1, .acquired true)] := by
    decide +kernel
  have granted := (tokenBucket_grants_iff (Machine.traceOf_run enabled)).1 _ _ _ _ _ trace
  exact fun allowed => Bool.false_ne_true (granted.mpr allowed)

end Intellisphere.Sphere
