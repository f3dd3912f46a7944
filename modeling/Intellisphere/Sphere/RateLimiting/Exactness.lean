import Intellisphere.Sphere.RateLimiting.RateCurve
import Intellisphere.Sphere.RateLimiting.Refusals

/-! What the limiter decides, in every schedule of its locks. Each tier decides as one bucket
that was made when the service started: it makes no difference that the buckets of identities
and tools are made when they are first asked for, nor what the other tiers and keys do.
-/

namespace Intellisphere.Sphere

open Foundation

/-- What has a rule and a bucket of its own: all requests, those of an identity, or the calls
of a tool.
-/
inductive Tier where
  | global
  | identity (identitySub : String)
  | tool (toolName : String)
  deriving DecidableEq

/-- A tool has no rule unless one is configured. -/
def Tier.rule? (config : RateLimitConfig) : Tier → Option RateLimitRule
  | .global => some config.global
  | .identity _ => some config.perIdentity
  | .tool toolName => config.perTool.lookup toolName

/-- The tier's bucket, if it was made already. -/
def Tier.bucket? (limiter : RateLimiter) : Tier → Option TokenBucket
  | .global => some limiter.global
  | .identity identitySub => limiter.perIdentity.lookup identitySub
  | .tool toolName => limiter.perTool.lookup toolName

/-- The last reading under the tier's lock. -/
def Tier.clock (state : LimiterState) : Tier → ℚ
  | .global => state.globalClock
  | .identity _ => state.identityClock
  | .tool _ => state.toolClock

/-- A check of a tier: when it was made, what it decided, and the quota it reported. A request
that passes the global tier is not told what that tier has left.
-/
structure TierCheck where
  times : CheckTimes
  allowed : Bool
  remaining? : Option Nat
  deriving DecidableEq

/-- The check of a tier in one section under a lock, if it is one. -/
def Tier.check? : Tier → LimiterEvent × LimiterOutput → Option TierCheck
  | .global, (.global _ times, .passed _) =>
      some { times, allowed := true, remaining? := none }
  | .global, (.global _ times, .request answered) =>
      some
        {
          times
          allowed := answered.result.allowed
          remaining? := some answered.result.remaining
        }
  | .identity identitySub, (.identity _ times, .request answered) =>
      if answered.identitySub = identitySub then
        some
          {
            times
            allowed := answered.result.allowed
            remaining? := some answered.result.remaining
          }
      else none
  | .tool toolName, (.tool _ times, .tool answered) =>
      if answered.toolName = toolName then
        answered.result.map fun result =>
          { times, allowed := result.allowed, remaining? := some result.remaining }
      else none
  | _, _ => none

/-- The checks of a tier, in the order of its lock. -/
def Tier.checks (tier : Tier) (trace : LimiterTrace) : List TierCheck :=
  trace.filterMap tier.check?

/-- The check took a token at `opens` or later. -/
def TierCheck.grantedSince (opens : ℚ) (check : TierCheck) : Bool :=
  check.allowed && opens ≤ check.times.acquired

/-- What a tier's window from `opens` to `now` still allows after some checks. -/
def RateLimitRule.allowance (rule : RateLimitRule) (checks : List TierCheck) (now opens : ℚ)
    : ℚ :=
  rule.burst.toNat + rule.requestsPerMinute.toNat / 60 * (now - opens)
  - (checks.countP (TierCheck.grantedSince opens) : ℚ)

-----------------------------------------------------------------------------------------
-- A bucket and the checks it has answered
-----------------------------------------------------------------------------------------

/-- The acquisitions a tier's checks make of its bucket. -/
def acquisitionsOf (checks : List TierCheck) : BucketTrace :=
  checks.map fun check => (.tryAcquire check.times.acquired 1, .acquired check.allowed)

/-- Each allowed check is granted one token, by induction on the checks. -/
theorem grantedSince_acquisitionsOf (checks : List TierCheck) (opens : ℚ)
    : grantedSince (acquisitionsOf checks) opens
      = (checks.countP (TierCheck.grantedSince opens) : ℚ) := by
  induction checks using List.reverseRecOn with
  | nil => rfl
  | append_singleton checks check ih =>
      have one : (((1 : UInt32).toNat : ℕ) : ℚ) = 1 := Nat.cast_one
      rw [acquisitionsOf, List.map_append, List.map_singleton, List.countP_append, Nat.cast_add,
        ← ih, ← acquisitionsOf, grantedSince, grantedSince]
      cases allowed : check.allowed with
      | true =>
          rw [grants_append, takenSince_append, one]
          by_cases within : opens ≤ check.times.acquired
          · simp [TierCheck.grantedSince, allowed, within]
          · simp [TierCheck.grantedSince, allowed, within]
      | false =>
          rw [grants_append_none _ (by simp)]
          simp [TierCheck.grantedSince, allowed]

/-- A bucket that is made late holds what one made at the start and never used would hold. -/
theorem TokenBucket.new_onCurve_late (rule : RateLimitRule) {start created : ℚ}
    (forward : start ≤ created)
    : (TokenBucket.new created rule).OnCurve rule start [] := by
  have refilled : ((TokenBucket.new start rule).refill created).OnCurve rule start [] :=
    (new_onCurve rule start).refill forward
  have same : (TokenBucket.new start rule).refill created = TokenBucket.new created rule := by
    rw [new_refill rule forward]
    exact (new_follows rule created).refill_now
  exact same ▸ refilled

/-- The room in a window is what the curve of the bucket allows it. -/
theorem RateLimitRule.allowance_eq (rule : RateLimitRule) (checks : List TierCheck)
    (now : ℚ)
    : rule.allowance checks now
      = Foundation.allowance rule.capacity rule.refillRate now
          (grants (acquisitionsOf checks)) := by
  funext opens
  rw [RateLimitRule.allowance, ← grantedSince_acquisitionsOf]
  rfl

/-- A bucket on its curve holds the least room of any window. -/
theorem TokenBucket.OnCurve.least_allowance {bucket : TokenBucket} {rule : RateLimitRule}
    {start : ℚ} {checks : List TierCheck}
    (onCurve : bucket.OnCurve rule start (acquisitionsOf checks))
    : IsLeast (rule.allowance checks bucket.lastRefill '' Set.Icc start bucket.lastRefill)
        bucket.tokens := by
  rw [rule.allowance_eq]
  exact onCurve.curve.least

/-- A bucket on its curve holds a number of tokens exactly when every window has room for it. -/
theorem TokenBucket.OnCurve.le_tokens_iff {bucket : TokenBucket} {rule : RateLimitRule}
    {start count : ℚ} {checks : List TierCheck}
    (onCurve : bucket.OnCurve rule start (acquisitionsOf checks))
    : count ≤ bucket.tokens
      ↔ ∀ opens,
          start ≤ opens
          → opens ≤ bucket.lastRefill
          → count ≤ rule.allowance checks bucket.lastRefill opens := by
  rw [le_isGLB_iff onCurve.least_allowance.isGLB, mem_lowerBounds, Set.forall_mem_image]
  exact ⟨fun every opens after before => every ⟨after, before⟩,
    fun every opens within => every opens within.1 within.2⟩

/-- The quota a check reports is what it leaves in the bucket, floored. -/
theorem TokenBucket.check_remaining {bucket : TokenBucket} {rule : RateLimitRule} {clock : ℚ}
    (acquiredAt readAt : ℚ) (follows : bucket.Follows rule clock)
    : (bucket.check acquiredAt readAt rule).1.remaining
      = ⌊(bucket.check acquiredAt readAt rule).2.tokens⌋₊ := by
  have burst : rule.burst.toNat ≤ 2 ^ 32 - 1 := Nat.le_sub_one_of_lt rule.burst.toNat_lt
  have floored
      : ⌊(bucket.check acquiredAt readAt rule).2.tokens⌋₊ ≤ rule.burst.toNat :=
    Nat.floor_le_of_le (check_follows readAt follows).capped
  exact min_eq_left (floored.trans burst)

/-- An attempt dates the bucket. -/
theorem TokenBucket.tryAcquire_lastRefill (bucket : TokenBucket) (now : ℚ) (count : UInt32)
    : (bucket.tryAcquire now count).2.lastRefill = now := by
  unfold TokenBucket.tryAcquire
  dsimp only
  split <;> rfl

/-- A check of a bucket whose curve counts the earlier checks: it is allowed when there is a
token, reports the tokens left, and counts on the curve from then on.
-/
theorem TokenBucket.OnCurve.check {bucket : TokenBucket} {rule : RateLimitRule} {start : ℚ}
    {checks : List TierCheck} {check : TierCheck}
    (ordered : check.times.From bucket.lastRefill)
    (allowed
      : check.allowed
        = (bucket.check check.times.acquired check.times.read rule).1.allowed)
    (onCurve : bucket.OnCurve rule start (acquisitionsOf checks))
    : (bucket.check check.times.acquired check.times.read rule).2.OnCurve rule start
        (acquisitionsOf (checks ++ [check])) := by
  have acquired :=
    @TokenBucket.OnCurve.call _ _ _ _ (.tryAcquire check.times.acquired 1)
      ordered.acquired_from onCurve
  have dated
      : (bucket.call (.tryAcquire check.times.acquired 1)).1.lastRefill ≤ check.times.read :=
    (bucket.tryAcquire_lastRefill check.times.acquired 1).trans_le ordered.acquired_le
  rw [acquisitionsOf, List.map_append, List.map_singleton, ← acquisitionsOf, allowed]
  exact acquired.refill dated

-----------------------------------------------------------------------------------------
-- What one section under a lock does to a tier
-----------------------------------------------------------------------------------------

/-- The limiter has the rules it was configured with. -/
structure RateLimiter.Configured (config : RateLimitConfig) (limiter : RateLimiter) : Prop where
  globalRule : limiter.globalRule = config.global
  perIdentityRule : limiter.perIdentityRule = config.perIdentity
  perToolRules : limiter.perToolRules = config.perTool

/-- The bucket a check of the tier asks: one is made for it if it is missing. -/
def Tier.asked (tier : Tier) (rule : RateLimitRule) (limiter : RateLimiter) (created : ℚ)
    : TokenBucket :=
  (tier.bucket? limiter).getD (.new created rule)

/-- What the bucket of the tier makes of a check at these times. -/
def Tier.answer (tier : Tier) (rule : RateLimitRule) (limiter : RateLimiter)
    (times : CheckTimes)
    : RateLimitResult × TokenBucket :=
  (tier.asked rule limiter times.created).check times.acquired times.read rule

/-- A section leaves the tier alone, or it is a check that the tier's bucket answers. -/
inductive Tier.Moves (tier : Tier) (rule : RateLimitRule) (state next : LimiterState)
    (entry : LimiterEvent × LimiterOutput)
    : Prop
  | frame (unchecked : tier.check? entry = none)
    (bucket : tier.bucket? next.limiter = tier.bucket? state.limiter)
    (clock : tier.clock state ≤ tier.clock next)
  | check (check : TierCheck) (checked : tier.check? entry = some check)
    (ordered : check.times.From (tier.clock state))
    (allowed : check.allowed = (tier.answer rule state.limiter check.times).1.allowed)
    (remaining
      : ∀ left,
          check.remaining? = some left
          → left = (tier.answer rule state.limiter check.times).1.remaining)
    (bucket
      : tier.bucket? next.limiter = some (tier.answer rule state.limiter check.times).2)
    (clock : tier.clock next = check.times.read)

/-- Every section moves every tier that has a rule. By cases on the section and the tier. -/
theorem LimiterTransition.moves {config : RateLimitConfig} {tier : Tier}
    {rule : RateLimitRule} {state next : LimiterState} {event : LimiterEvent}
    {output : LimiterOutput} (transition : LimiterTransition state event next output)
    (configured : state.limiter.Configured config) (limited : tier.rule? config = some rule)
    : tier.Moves rule state next (event, output) := by
  obtain ⟨globalRule, perIdentityRule, perToolRules⟩ := configured
  cases transition with
  | refuse identitySub times ordered refused =>
      cases tier with
      | global =>
          obtain rfl := Option.some.inj limited
          rw [← globalRule]
          refine .check _ rfl ordered rfl ?_ rfl rfl
          intro left same
          exact (Option.some.inj same).symm
      | identity other => exact .frame rfl rfl le_rfl
      | tool toolName => exact .frame rfl rfl le_rfl
  | pass identitySub times ordered allowed =>
      cases tier with
      | global =>
          obtain rfl := Option.some.inj limited
          rw [← globalRule]
          refine .check _ rfl ordered allowed.symm ?_ rfl rfl
          intro left same
          contradiction
      | identity other => exact .frame rfl rfl le_rfl
      | tool toolName => exact .frame rfl rfl le_rfl
  | answer index times request waiting ordered after =>
      cases tier with
      | global => exact .frame rfl rfl le_rfl
      | identity other =>
          obtain rfl := Option.some.inj limited
          rw [← perIdentityRule]
          by_cases same : request.identitySub = other
          · subst same
            refine .check _ (if_pos rfl) ordered rfl ?_ (AList.lookup_insert _) rfl
            intro left same
            exact (Option.some.inj same).symm
          · exact .frame (if_neg same) (AList.lookup_insert_ne (Ne.symm same))
              ordered.read_from
      | tool toolName => exact .frame rfl rfl le_rfl
  | tool toolName times ordered =>
      cases tier with
      | global =>
          refine .frame rfl ?_ le_rfl
          rw [RateLimiter.checkTool_frame]
          rfl
      | identity other =>
          refine .frame rfl ?_ le_rfl
          rw [RateLimiter.checkTool_frame]
          rfl
      | tool other =>
          by_cases same : toolName = other
          · subst same
            have ruled : state.limiter.perToolRules.lookup toolName = some rule :=
              (congrArg (AList.lookup toolName) perToolRules).trans limited
            have answered
                : state.limiter.checkTool times toolName
                  = (
                      some ((Tier.tool toolName).answer rule state.limiter times).1,
                      {
                        state.limiter with
                        perTool :=
                          state.limiter.perTool.insert toolName
                            ((Tier.tool toolName).answer rule state.limiter times).2
                      }
                    ) := by
              simp only [RateLimiter.checkTool, ruled]
              rfl
            rw [answered]
            refine .check _ (if_pos rfl) ordered rfl ?_ (AList.lookup_insert _) rfl
            intro left same
            exact (Option.some.inj same).symm
          · refine .frame (if_neg same) ?_ ordered.read_from
            simp only [Tier.bucket?, RateLimiter.checkTool]
            split
            · rfl
            · exact AList.lookup_insert_ne (Ne.symm same)

-----------------------------------------------------------------------------------------
-- Every tier stays on its curve
-----------------------------------------------------------------------------------------

/-- Whenever the next check of the tier comes, the bucket it asks has answered the tier's checks
since the start of the service, and nothing else.
-/
def Tier.OnCurve (tier : Tier) (rule : RateLimitRule) (start : ℚ) (trace : LimiterTrace)
    (state : LimiterState)
    : Prop :=
  ∀ created,
    tier.clock state ≤ created
    → (tier.asked rule state.limiter created).lastRefill ≤ created
      ∧ (tier.asked rule state.limiter created).OnCurve rule start
          (acquisitionsOf (tier.checks trace))

/-- At the start every bucket is full, whether it is there yet or not. -/
theorem Tier.initial_onCurve {config : RateLimitConfig} {tier : Tier} {rule : RateLimitRule}
    (limited : tier.rule? config = some rule) (start : ℚ)
    : tier.OnCurve rule start [] (.initial start config) := by
  intro created from'
  cases tier with
  | global =>
      obtain rfl := Option.some.inj limited
      exact ⟨from', TokenBucket.new_onCurve _ start⟩
  | identity identitySub => exact ⟨le_rfl, TokenBucket.new_onCurve_late rule from'⟩
  | tool toolName => exact ⟨le_rfl, TokenBucket.new_onCurve_late rule from'⟩

/-- A section that leaves the tier alone adds none to its checks. -/
theorem Tier.checks_append (tier : Tier) (trace : LimiterTrace)
    (entry : LimiterEvent × LimiterOutput)
    : tier.checks (trace ++ [entry]) = tier.checks trace ++ (tier.check? entry).toList := by
  rw [Tier.checks, List.filterMap_append]
  cases checked : tier.check? entry <;> simp [Tier.checks, checked]

/-- Every move keeps the tier on its curve. -/
theorem Tier.OnCurve.moves {tier : Tier} {rule : RateLimitRule} {start : ℚ}
    {trace : LimiterTrace} {state next : LimiterState}
    {entry : LimiterEvent × LimiterOutput} (onCurve : tier.OnCurve rule start trace state)
    (moved : tier.Moves rule state next entry)
    : tier.OnCurve rule start (trace ++ [entry]) next := by
  intro created from'
  rw [tier.checks_append]
  cases moved with
  | frame unchecked bucket clock =>
      rw [unchecked, Option.toList_none, List.append_nil, Tier.asked, bucket]
      exact onCurve created (clock.trans from')
  | check check checked ordered allowed remaining bucket clock =>
      obtain ⟨refilled, before⟩ := onCurve check.times.created ordered.clock_le
      rw [checked, Option.toList_some, Tier.asked, bucket, Option.getD_some]
      refine ⟨?_, before.check ⟨refilled, ordered.created_le, ordered.acquired_le⟩ allowed⟩
      exact clock.ge.trans from'

/-- In every schedule every tier with a rule stays on its curve. -/
theorem rateLimiting_onCurve {config : RateLimitConfig} {start : ℚ} {tier : Tier}
    {rule : RateLimitRule} {trace : LimiterTrace} {state : LimiterState}
    (limited : tier.rule? config = some rule)
    (run : rateLimiting.Run (.initial start config) trace state)
    : tier.OnCurve rule start trace state := by
  refine run.history (tier.OnCurve rule start) (Tier.initial_onCurve limited start) ?_
  intro trace state event next output before onCurve stepped
  have accounted := rateLimiting_accounted 0 le_rfl before
  exact onCurve.moves
    ((limiterStep_transition stepped).moves
      ⟨accounted.globalRule, accounted.perIdentityRule, accounted.perToolRules⟩ limited)

/-- In every schedule of the locks, a tier allows a check exactly when every window back to the
start of the service has room for it beside the tier's earlier checks, and the quota it
reports is the least room left in any of them, floored.
-/
theorem rateLimiting_exact {config : RateLimitConfig} {start : ℚ} {tier : Tier}
    {rule : RateLimitRule} {earlier later : LimiterTrace} {state : LimiterState}
    {entry : LimiterEvent × LimiterOutput} {check : TierCheck}
    (run : rateLimiting.Run (.initial start config) (earlier ++ entry :: later) state)
    (limited : tier.rule? config = some rule) (checked : tier.check? entry = some check)
    : (check.allowed = true
        ↔ ∀ opens,
            start ≤ opens
            → opens ≤ check.times.acquired
            → 1 ≤ rule.allowance (tier.checks earlier) check.times.acquired opens)
      ∧ ∀ left,
          check.remaining? = some left
          → ∃ least,
              IsLeast
                (rule.allowance (tier.checks earlier ++ [check]) check.times.read
                  '' Set.Icc start check.times.read)
                least
              ∧ (left : ℤ) = ⌊least⌋ := by
  obtain ⟨before, head, tail⟩ := run.split earlier _
  obtain ⟨next, stepped, _⟩ := tail.uncons
  have accounted := rateLimiting_accounted 0 le_rfl head
  have moved :=
    (limiterStep_transition stepped).moves
      ⟨accounted.globalRule, accounted.perIdentityRule, accounted.perToolRules⟩ limited
  cases moved with
  | frame unchecked =>
      rw [unchecked] at checked
      contradiction
  | check check' checked' ordered allowed remaining _ _ =>
      obtain rfl := Option.some.inj (checked.symm.trans checked')
      obtain ⟨refilled, onCurve⟩ :=
        rateLimiting_onCurve limited head check.times.created ordered.clock_le
      have from_bucket : check.times.From (tier.asked rule before.limiter _).lastRefill :=
        ⟨refilled, ordered.created_le, ordered.acquired_le⟩
      refine ⟨?_, ?_⟩
      · rw [allowed, Tier.answer, TokenBucket.check_allowed]
        exact (onCurve.refill from_bucket.acquired_from).le_tokens_iff
      · intro left same
        have checked := onCurve.check from_bucket allowed
        refine ⟨_, checked.least_allowance, ?_⟩
        rw [remaining left same, Tier.answer, TokenBucket.check_remaining _ _ onCurve.follows]
        exact Int.natCast_floor_eq_floor checked.nonneg

/-- The request that is refused in the contended schedule. -/
def contendedRefusal : LimiterEvent × LimiterOutput :=
  (.identity 0 (.instant 1),
    .request
      {
        identitySub := "ada"
        globalTimes := .instant 0
        identityTimes := some (.instant 1)
        result := { allowed := false, remaining := 0, limit := 60 }
      })

/-- It is refused since some window has no room for it. -/
theorem rateLimiting_exact_contended
    : ¬∀ opens,
        0 ≤ opens
        → opens ≤ 1
        → 1 ≤ tightConfig.perIdentity.allowance
            ((Tier.identity "ada").checks (contendedTrace.take 5)) 1 opens := by
  have enabled
      : (rateLimiting.exec (.initial 0 tightConfig) contendedEvents).isSome = true := by
    decide +kernel
  have whole : contendedTrace = contendedTrace.take 5 ++ contendedRefusal :: [] := by
    decide +kernel
  have run := Machine.traceOf_run enabled
  rw [← contendedTrace, whole] at run
  have checked
      : (Tier.identity "ada").check? contendedRefusal
        = some { times := .instant 1, allowed := false, remaining? := some 0 } := by
    decide +kernel
  have allowed := (rateLimiting_exact run rfl checked).1
  exact fun room => Bool.false_ne_true (allowed.mpr room)

end Intellisphere.Sphere
