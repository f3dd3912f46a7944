import Intellisphere.Sphere.RateLimiting.Windows

/-! What a refused request leaves behind. The global tier takes its token before the identity
tier decides, and nothing gives it back.
-/

namespace Intellisphere.Sphere

open Foundation

/-- The tokens the global bucket would hold at `reading`. -/
def RateLimiter.globalTokens (limiter : RateLimiter) (reading : ℚ) : ℚ :=
  (limiter.global.refill reading).tokens

/-- The bucket a check of `identitySub` would find or make at `created`. -/
def RateLimiter.identityBucket (limiter : RateLimiter) (identitySub : String) (created : ℚ)
    : TokenBucket :=
  (limiter.perIdentity.lookup identitySub).getD (.new created limiter.perIdentityRule)

/-- The tokens `identitySub` would have at `reading`. -/
def RateLimiter.identityTokens (limiter : RateLimiter) (identitySub : String) (reading : ℚ)
    : ℚ :=
  ((limiter.identityBucket identitySub reading).refill reading).tokens

/-- A request check of the limiter, with the clock readings under each lock. -/
structure RequestCall where
  identitySub : String
  globalTimes : CheckTimes
  identityTimes : CheckTimes

/-- The call comes after all the limiter has done so far. -/
structure RequestCall.After (call : RequestCall) (state : LimiterState) : Prop where
  global : call.globalTimes.From state.globalClock
  identity : call.identityTimes.From state.identityClock
  ordered : call.globalTimes.read ≤ call.identityTimes.created

/-- Make the call. -/
def RateLimiter.request (limiter : RateLimiter) (call : RequestCall)
    : RateLimitResult × RateLimiter :=
  limiter.checkRequest call.globalTimes call.identityTimes call.identitySub

/-- When the call returns: a request refused by the global tier does not go on. -/
def RateLimiter.returnTime (limiter : RateLimiter) (call : RequestCall) : ℚ :=
  if (limiter.checkGlobal call.globalTimes).1.allowed then call.identityTimes.read
  else call.globalTimes.read

/-- From `clock` on, the global bucket and every identity's bucket hold the same in both. -/
def RateLimiter.HoldsSame (clock : ℚ) (limiter other : RateLimiter) : Prop :=
  ∀ reading,
    clock ≤ reading
    → limiter.globalTokens reading = other.globalTokens reading
      ∧ ∀ identitySub,
          limiter.identityTokens identitySub reading
            = other.identityTokens identitySub reading

/-- If the call is refused, then from its return on all buckets hold what they would hold
without it.
-/
def RateLimiter.RefusalCostsNothing (limiter : RateLimiter) (call : RequestCall) : Prop :=
  (limiter.request call).1.allowed = false
  → RateLimiter.HoldsSame (limiter.returnTime call) limiter (limiter.request call).2

/-- The global tier has no token for the call, or its identity has one, or the global bucket
would have run over before the call returns.
-/
def RateLimiter.GlobalTokenUnneeded (limiter : RateLimiter) (call : RequestCall) : Prop :=
  limiter.globalTokens call.globalTimes.acquired < 1
  ∨ 1 ≤ limiter.identityTokens call.identitySub call.identityTimes.acquired
  ∨ limiter.globalRule.capacity
      ≤ limiter.globalTokens call.globalTimes.acquired - 1
        + limiter.globalRule.refillRate
          * (call.identityTimes.read - call.globalTimes.acquired)

-----------------------------------------------------------------------------------------
-- Limiters whose buckets follow their rules
-----------------------------------------------------------------------------------------

/-- The global bucket and the identities' buckets follow their rules. -/
structure RateLimiter.Follows (limiter : RateLimiter) (globalClock identityClock : ℚ)
    : Prop where
  global : limiter.global.Follows limiter.globalRule globalClock
  identity
    : ∀ identitySub created,
        identityClock ≤ created
        → (limiter.identityBucket identitySub created).Follows limiter.perIdentityRule created

/-- Every reachable limiter follows its rules. -/
theorem rateLimiting_follows {config : RateLimitConfig} {now : ℚ} {trace : LimiterTrace}
    {state : LimiterState} (run : rateLimiting.Run (.initial now config) trace state)
    : state.limiter.Follows state.globalClock state.identityClock := by
  obtain ⟨globalRule, perIdentityRule, _, global, identity, _⟩ :=
    rateLimiting_accounted 0 le_rfl run
  refine ⟨globalRule ▸ global.follows, ?_⟩
  intro identitySub created from'
  unfold RateLimiter.identityBucket
  rw [perIdentityRule]
  exact (identity identitySub created from').follows

/-- A bucket made earlier and never used holds what one made now would. -/
theorem TokenBucket.new_refill (rule : RateLimitRule) {created now : ℚ}
    (forward : created ≤ now)
    : (TokenBucket.new created rule).refill now = (TokenBucket.new now rule).refill now := by
  have full {since : ℚ} (before : since ≤ now)
      : ((TokenBucket.new since rule).refill now).tokens = rule.capacity := by
    refine min_eq_right (le_add_of_nonneg_right ?_)
    exact mul_nonneg (le_max_left _ _) rule.refillRate_nonneg
  have tokens := (full forward).trans (full le_rfl).symm
  unfold TokenBucket.refill at tokens ⊢
  simp only [TokenBucket.mk.injEq, and_true]
  exact ⟨rfl, rfl, tokens⟩

/-- When a missing bucket is made does not matter. -/
theorem RateLimiter.identityBucket_refill (limiter : RateLimiter) (identitySub : String)
    {created now : ℚ} (forward : created ≤ now)
    : (limiter.identityBucket identitySub created).refill now
      = (limiter.identityBucket identitySub now).refill now := by
  unfold RateLimiter.identityBucket
  cases limiter.perIdentity.lookup identitySub with
  | none => exact TokenBucket.new_refill limiter.perIdentityRule forward
  | some bucket => rfl

-----------------------------------------------------------------------------------------
-- What each tier does to the tokens
-----------------------------------------------------------------------------------------

theorem RateLimiter.checkGlobal_allowed (limiter : RateLimiter) (times : CheckTimes)
    : (limiter.checkGlobal times).1.allowed = true
      ↔ 1 ≤ limiter.globalTokens times.acquired :=
  TokenBucket.check_allowed limiter.global times.acquired times.read limiter.globalRule

theorem RateLimiter.checkIdentity_allowed (limiter : RateLimiter) {times : CheckTimes}
    (identitySub : String) (made : times.created ≤ times.acquired)
    : (limiter.checkIdentity times identitySub).1.allowed = true
      ↔ 1 ≤ limiter.identityTokens identitySub times.acquired := by
  unfold RateLimiter.identityTokens
  rw [← limiter.identityBucket_refill identitySub made]
  exact TokenBucket.check_allowed (limiter.identityBucket identitySub times.created)
    times.acquired times.read limiter.perIdentityRule

/-- The identity tier leaves the global bucket alone. -/
theorem RateLimiter.checkIdentity_globalTokens (limiter : RateLimiter) (times : CheckTimes)
    (identitySub : String) (reading : ℚ)
    : (limiter.checkIdentity times identitySub).2.globalTokens reading
      = limiter.globalTokens reading := by
  unfold RateLimiter.checkIdentity
  rfl

/-- The global tier leaves the identities' buckets alone. -/
theorem RateLimiter.checkGlobal_identityTokens (limiter : RateLimiter) (times : CheckTimes)
    (identitySub : String) (reading : ℚ)
    : (limiter.checkGlobal times).2.identityTokens identitySub reading
      = limiter.identityTokens identitySub reading := by
  unfold RateLimiter.checkGlobal
  rfl

/-- The global tokens at a later reading are those at an earlier one and what they gain. -/
theorem RateLimiter.Follows.globalTokens_later {limiter : RateLimiter}
    {globalClock identityClock now later : ℚ}
    (follows : limiter.Follows globalClock identityClock) (first : globalClock ≤ now)
    (second : now ≤ later)
    : limiter.globalTokens later
      = gained limiter.globalRule.capacity limiter.globalRule.refillRate now later
          (limiter.globalTokens now) := by
  unfold RateLimiter.globalTokens
  rw [← TokenBucket.refill_refill follows.global first second,
    TokenBucket.refill_tokens second, TokenBucket.refill_capacity,
    TokenBucket.refill_refillRate, follows.global.capacity, follows.global.refillRate]
  rfl

/-- A refusal by the global tier only refills its bucket. -/
theorem RateLimiter.Follows.globalTokens_refused {limiter : RateLimiter}
    {globalClock identityClock reading : ℚ} {times : CheckTimes}
    (follows : limiter.Follows globalClock identityClock) (ordered : times.From globalClock)
    (lacks : ¬1 ≤ limiter.globalTokens times.acquired) (later : times.read ≤ reading)
    : (limiter.checkGlobal times).2.globalTokens reading = limiter.globalTokens reading := by
  have unchanged := TokenBucket.check_refused_refill follows.global ordered.acquired_from
    ordered.acquired_le later lacks
  unfold RateLimiter.globalTokens
  exact congrArg TokenBucket.tokens unchanged

/-- A grant by the global tier leaves one token less, which the later gain may make up for. -/
theorem RateLimiter.Follows.globalTokens_granted {limiter : RateLimiter}
    {globalClock identityClock reading : ℚ} {times : CheckTimes}
    (follows : limiter.Follows globalClock identityClock) (ordered : times.From globalClock)
    (holds : 1 ≤ limiter.globalTokens times.acquired) (later : times.read ≤ reading)
    : (limiter.checkGlobal times).2.globalTokens reading
      = gained limiter.globalRule.capacity limiter.globalRule.refillRate times.acquired
          reading (limiter.globalTokens times.acquired - 1) := by
  have charged := (TokenBucket.refill_follows times.acquired follows.global).charged
  have checked := TokenBucket.check_granted times.read limiter.globalRule holds
  have until' := ordered.acquired_le.trans later
  unfold RateLimiter.globalTokens RateLimiter.checkGlobal
  simp only
  rw [checked, TokenBucket.refill_refill charged ordered.acquired_le later,
    TokenBucket.refill_tokens until', charged.capacity, charged.refillRate]
  rfl

/-- A checked identity's bucket is the one it has from then on. -/
theorem RateLimiter.checkIdentity_bucket (limiter : RateLimiter) (times : CheckTimes)
    (identitySub : String) (created : ℚ)
    : (limiter.checkIdentity times identitySub).2.identityBucket identitySub created
      = ((limiter.identityBucket identitySub times.created).check times.acquired times.read
          limiter.perIdentityRule).2 := by
  unfold RateLimiter.identityBucket RateLimiter.checkIdentity
  simp only [AList.lookup_insert, Option.getD_some]

/-- The identity tier leaves the buckets of other identities alone. -/
theorem RateLimiter.checkIdentity_otherBucket (limiter : RateLimiter) (times : CheckTimes)
    {identitySub other : String} (different : other ≠ identitySub) (created : ℚ)
    : (limiter.checkIdentity times identitySub).2.identityBucket other created
      = limiter.identityBucket other created := by
  unfold RateLimiter.identityBucket RateLimiter.checkIdentity
  simp only [AList.lookup_insert_ne different]

/-- A refusal by the identity tier leaves every identity's tokens as they were. -/
theorem RateLimiter.Follows.identityTokens_refused {limiter : RateLimiter}
    {globalClock identityClock reading : ℚ} {times : CheckTimes} {identitySub : String}
    (follows : limiter.Follows globalClock identityClock) (ordered : times.From identityClock)
    (lacks : ¬1 ≤ limiter.identityTokens identitySub times.acquired)
    (later : times.read ≤ reading) (other : String)
    : (limiter.checkIdentity times identitySub).2.identityTokens other reading
      = limiter.identityTokens other reading := by
  by_cases same : other = identitySub
  · subst same
    have made := follows.identity other times.created ordered.clock_le
    have short
        : ¬1 ≤ ((limiter.identityBucket other times.created).refill times.acquired).tokens := by
      rw [limiter.identityBucket_refill other ordered.created_le]
      exact lacks
    have unchanged := TokenBucket.check_refused_refill made ordered.created_le
      ordered.acquired_le later short
    have until' := ordered.acquired_le.trans later
    unfold RateLimiter.identityTokens
    rw [limiter.checkIdentity_bucket, unchanged,
      limiter.identityBucket_refill other (ordered.created_le.trans until')]
  · unfold RateLimiter.identityTokens
    rw [limiter.checkIdentity_otherBucket times same]

-----------------------------------------------------------------------------------------
-- Exactly when a refusal costs nothing
-----------------------------------------------------------------------------------------

/-- A call that the global tier refuses ends there. -/
theorem RateLimiter.request_refused {limiter : RateLimiter} {call : RequestCall}
    (lacks : ¬1 ≤ limiter.globalTokens call.globalTimes.acquired)
    : limiter.request call = limiter.checkGlobal call.globalTimes
      ∧ limiter.returnTime call = call.globalTimes.read
      ∧ (limiter.checkGlobal call.globalTimes).1.allowed = false := by
  have refused := mt (limiter.checkGlobal_allowed call.globalTimes).mp lacks
  unfold RateLimiter.request RateLimiter.checkRequest RateLimiter.returnTime
  simp [refused]

/-- A call that the global tier grants goes on to the identity tier. -/
theorem RateLimiter.request_granted {limiter : RateLimiter} {call : RequestCall}
    (holds : 1 ≤ limiter.globalTokens call.globalTimes.acquired)
    : limiter.request call
        = (limiter.checkGlobal call.globalTimes).2.checkIdentity call.identityTimes
            call.identitySub
      ∧ limiter.returnTime call = call.identityTimes.read
      ∧ (limiter.checkGlobal call.globalTimes).1.allowed = true := by
  have granted := (limiter.checkGlobal_allowed call.globalTimes).mpr holds
  unfold RateLimiter.request RateLimiter.checkRequest RateLimiter.returnTime
  simp [granted]

/-- The global tier leaves the identities' buckets alone and keeps to its rules. -/
theorem RateLimiter.Follows.checkGlobal {limiter : RateLimiter}
    {globalClock identityClock : ℚ} (times : CheckTimes)
    (follows : limiter.Follows globalClock identityClock)
    : (limiter.checkGlobal times).2.Follows times.read identityClock :=
  ⟨TokenBucket.check_follows times.read follows.global, follows.identity⟩

/-- What the global tier refuses costs nothing. -/
theorem RateLimiter.Follows.globalRefusal_costsNothing {limiter : RateLimiter}
    {globalClock identityClock : ℚ} {call : RequestCall}
    (follows : limiter.Follows globalClock identityClock)
    (global : call.globalTimes.From globalClock)
    (lacks : ¬1 ≤ limiter.globalTokens call.globalTimes.acquired)
    : limiter.RefusalCostsNothing call := by
  obtain ⟨request, returned, _⟩ := request_refused lacks
  intro _ reading from'
  rw [returned] at from'
  rw [request]
  refine ⟨(follows.globalTokens_refused global lacks from').symm, ?_⟩
  intro other
  rw [checkGlobal_identityTokens]

/-- What the identity tier refuses costs nothing exactly when the token it took is back in
time, that is when the global bucket would have run over without it.
-/
theorem RateLimiter.Follows.identityRefusal_costsNothing_iff {limiter : RateLimiter}
    {globalClock identityClock : ℚ} {call : RequestCall}
    (follows : limiter.Follows globalClock identityClock)
    (global : call.globalTimes.From globalClock)
    (identity : call.identityTimes.From identityClock)
    (ordered : call.globalTimes.read ≤ call.identityTimes.created)
    (holds : 1 ≤ limiter.globalTokens call.globalTimes.acquired)
    (lacks : ¬1 ≤ limiter.identityTokens call.identitySub call.identityTimes.acquired)
    : limiter.RefusalCostsNothing call ↔ limiter.GlobalTokenUnneeded call := by
  obtain ⟨request, returned, granted⟩ := request_granted holds
  have after := follows.checkGlobal call.globalTimes
  have identityAllowed :=
    (limiter.checkGlobal call.globalTimes).2.checkIdentity_allowed call.identitySub
      identity.created_le
  rw [← request] at identityAllowed
  have refused : (limiter.request call).1.allowed = false :=
    Bool.eq_false_of_not_eq_true (mt identityAllowed.mp lacks)
  have through : call.globalTimes.read ≤ call.identityTimes.read :=
    ordered.trans (identity.created_le.trans identity.acquired_le)
  have globalAfter (reading : ℚ) (from' : call.identityTimes.read ≤ reading)
      : (limiter.request call).2.globalTokens reading
        = gained limiter.globalRule.capacity limiter.globalRule.refillRate
            call.globalTimes.acquired reading
            (limiter.globalTokens call.globalTimes.acquired - 1) := by
    rw [request, checkIdentity_globalTokens]
    exact follows.globalTokens_granted global holds (through.trans from')
  have globalBefore (reading : ℚ) (from' : call.identityTimes.read ≤ reading) :=
    follows.globalTokens_later global.acquired_from
      (global.acquired_le.trans (through.trans from'))
  constructor
  · intro free
    have same := (free refused call.identityTimes.read (returned ▸ le_rfl)).1
    rw [globalAfter _ le_rfl, globalBefore _ le_rfl] at same
    exact Or.inr (Or.inr (gained_sub_one_eq_iff.mp same))
  · intro unneeded _ reading from'
    rw [returned] at from'
    refine ⟨?_, ?_⟩
    · rcases unneeded with empty | enough | spills
      · exact absurd holds empty.not_ge
      · exact absurd enough lacks
      · rw [globalAfter reading from', globalBefore reading from']
        refine gained_sub_one_eq_iff.mpr (spills.trans ?_)
        have more := mul_le_mul_of_nonneg_left
          (sub_le_sub_right from' call.globalTimes.acquired)
          limiter.globalRule.refillRate_nonneg
        linarith only [more]
    · intro other
      rw [request, after.identityTokens_refused identity lacks from',
        checkGlobal_identityTokens]

/-- A refusal costs nothing exactly when the global token was not needed. Case analysis on
the tier that decides.
-/
theorem RateLimiter.Follows.refusalCostsNothing_iff {limiter : RateLimiter}
    {globalClock identityClock : ℚ} {call : RequestCall}
    (follows : limiter.Follows globalClock identityClock)
    (global : call.globalTimes.From globalClock)
    (identity : call.identityTimes.From identityClock)
    (ordered : call.globalTimes.read ≤ call.identityTimes.created)
    : limiter.RefusalCostsNothing call ↔ limiter.GlobalTokenUnneeded call := by
  by_cases holds : 1 ≤ limiter.globalTokens call.globalTimes.acquired
  case neg =>
    exact iff_of_true (follows.globalRefusal_costsNothing global holds)
      (Or.inl (lt_of_not_ge holds))
  by_cases has : 1 ≤ limiter.identityTokens call.identitySub call.identityTimes.acquired
  case neg => exact follows.identityRefusal_costsNothing_iff global identity ordered holds has
  -- Both tiers let the call pass.
  refine iff_of_true ?_ (Or.inr (Or.inl has))
  intro refused
  have identityAllowed :=
    (limiter.checkGlobal call.globalTimes).2.checkIdentity_allowed call.identitySub
      identity.created_le
  rw [← (request_granted holds).1] at identityAllowed
  rw [identityAllowed.mpr has] at refused
  contradiction

-----------------------------------------------------------------------------------------
-- Two runs, with and without the refused call
-----------------------------------------------------------------------------------------

/-- The state after the call, made while no other section runs. -/
def LimiterState.called (state : LimiterState) (call : RequestCall) : LimiterState :=
  {
    state with
    limiter := (state.limiter.request call).2
    globalClock := call.globalTimes.read
    identityClock :=
      if (state.limiter.checkGlobal call.globalTimes).1.allowed then call.identityTimes.read
      else state.identityClock
  }

/-- A call made at once is one or two sections of a schedule. -/
theorem LimiterState.called_run {state : LimiterState} {call : RequestCall}
    (after : call.After state)
    : ∃ trace, rateLimiting.Run state trace (state.called call) := by
  unfold LimiterState.called RateLimiter.request RateLimiter.checkRequest
  cases granted : (state.limiter.checkGlobal call.globalTimes).1.allowed with
  | false =>
      have first := LimiterTransition.refuse call.identitySub call.globalTimes after.global
        granted
      exact ⟨_, by simpa [granted] using first.run⟩
  | true =>
      have first := LimiterTransition.pass call.identitySub call.globalTimes after.global
        granted
      let request : PassedRequest :=
        { identitySub := call.identitySub, globalTimes := call.globalTimes }
      let passed : LimiterState :=
        {
          state with
          limiter := (state.limiter.checkGlobal call.globalTimes).2
          globalClock := call.globalTimes.read
          passed := state.passed ++ [request]
        }
      have waiting : passed.passed[state.passed.length]? = some request := by
        simp [passed]
      have back : passed.passed.eraseIdx state.passed.length = state.passed := by
        simp [passed, List.eraseIdx_append_of_length_le]
      have second := LimiterTransition.answer state.passed.length call.identityTimes request
        waiting after.identity after.ordered
      rw [back] at second
      exact ⟨_, by simpa [granted] using first.run.trans second.run⟩

/-- The two limiters answer all later request checks alike. -/
structure RateLimiter.Alike (globalClock identityClock : ℚ) (limiter other : RateLimiter)
    : Prop where
  globalRule : limiter.globalRule = other.globalRule
  perIdentityRule : limiter.perIdentityRule = other.perIdentityRule
  perToolRules : limiter.perToolRules = other.perToolRules
  perTool : limiter.perTool = other.perTool
  global
    : ∀ reading,
        globalClock ≤ reading → limiter.global.refill reading = other.global.refill reading
  identity
    : ∀ identitySub reading,
        identityClock ≤ reading
        → (limiter.identityBucket identitySub reading).refill reading
          = (other.identityBucket identitySub reading).refill reading

/-- Two buckets under one rule that hold the same tokens are the same once refilled. -/
theorem TokenBucket.Follows.refill_eq {bucket other : TokenBucket} {rule : RateLimitRule}
    {clock clock' reading : ℚ} (follows : bucket.Follows rule clock)
    (follows' : other.Follows rule clock')
    (same : (bucket.refill reading).tokens = (other.refill reading).tokens)
    : bucket.refill reading = other.refill reading := by
  unfold TokenBucket.refill at same ⊢
  simp only [TokenBucket.mk.injEq, and_true]
  exact ⟨follows.capacity.trans follows'.capacity.symm,
    follows.refillRate.trans follows'.refillRate.symm, same⟩

/-- The check of a bucket depends only on what it holds when the token is taken. -/
theorem TokenBucket.check_congr {bucket other : TokenBucket} {acquiredAt : ℚ}
    (readAt : ℚ) (rule : RateLimitRule)
    (same : bucket.refill acquiredAt = other.refill acquiredAt)
    : bucket.check acquiredAt readAt rule = other.check acquiredAt readAt rule := by
  unfold TokenBucket.check TokenBucket.tryAcquire
  rw [same]

/-- Alike limiters give one answer in the global tier and stay alike. -/
theorem RateLimiter.Alike.checkGlobal {limiter other : RateLimiter}
    {globalClock identityClock : ℚ} {times : CheckTimes} (ordered : times.From globalClock)
    (alike : RateLimiter.Alike globalClock identityClock limiter other)
    : (limiter.checkGlobal times).1 = (other.checkGlobal times).1
      ∧ RateLimiter.Alike times.read identityClock (limiter.checkGlobal times).2
          (other.checkGlobal times).2 := by
  have checked := TokenBucket.check_congr times.read limiter.globalRule
    (alike.global times.acquired ordered.acquired_from)
  rw [alike.globalRule] at checked
  refine ⟨?_, { alike with global := ?_ }⟩
  · unfold RateLimiter.checkGlobal
    rw [alike.globalRule, checked]
  · intro reading _
    unfold RateLimiter.checkGlobal
    rw [alike.globalRule, checked]

/-- Alike limiters give one answer in the identity tier and stay alike. -/
theorem RateLimiter.Alike.checkIdentity {limiter other : RateLimiter}
    {globalClock identityClock : ℚ} {times : CheckTimes} (identitySub : String)
    (ordered : times.From identityClock)
    (alike : RateLimiter.Alike globalClock identityClock limiter other)
    : (limiter.checkIdentity times identitySub).1 = (other.checkIdentity times identitySub).1
      ∧ RateLimiter.Alike globalClock times.read (limiter.checkIdentity times identitySub).2
          (other.checkIdentity times identitySub).2 := by
  have held
      : (limiter.identityBucket identitySub times.created).refill times.acquired
        = (other.identityBucket identitySub times.created).refill times.acquired := by
    rw [limiter.identityBucket_refill identitySub ordered.created_le,
      other.identityBucket_refill identitySub ordered.created_le]
    exact alike.identity identitySub times.acquired ordered.acquired_from
  have checked := TokenBucket.check_congr times.read limiter.perIdentityRule held
  unfold RateLimiter.identityBucket at checked
  refine ⟨?_, { alike with identity := ?_ }⟩
  · unfold RateLimiter.checkIdentity
    simp only
    rw [checked, alike.perIdentityRule]
  intro name reading from'
  unfold RateLimiter.checkIdentity RateLimiter.identityBucket
  by_cases same : name = identitySub
  · subst same
    simp only [AList.lookup_insert, Option.getD_some]
    rw [checked, alike.perIdentityRule]
  · simp only [AList.lookup_insert_ne same]
    exact alike.identity name reading (ordered.read_from.trans from')

/-- Alike limiters give one answer to a tool check and stay alike. -/
theorem RateLimiter.Alike.checkTool {limiter other : RateLimiter}
    {globalClock identityClock : ℚ} (times : CheckTimes) (toolName : String)
    (alike : RateLimiter.Alike globalClock identityClock limiter other)
    : (limiter.checkTool times toolName).1 = (other.checkTool times toolName).1
      ∧ RateLimiter.Alike globalClock identityClock (limiter.checkTool times toolName).2
          (other.checkTool times toolName).2 := by
  unfold RateLimiter.checkTool
  rw [alike.perToolRules, alike.perTool]
  cases other.perToolRules.lookup toolName with
  | none => exact ⟨rfl, alike⟩
  | some rule =>
      exact ⟨rfl, alike.globalRule, alike.perIdentityRule, rfl, rfl, alike.global,
        alike.identity⟩

/-- Two states that differ only in what alike limiters hold. -/
structure LimiterState.Alike (state other : LimiterState) : Prop where
  passed : state.passed = other.passed
  globalClock : state.globalClock = other.globalClock
  identityClock : state.identityClock = other.identityClock
  toolClock : state.toolClock = other.toolClock
  limiter : RateLimiter.Alike state.globalClock state.identityClock state.limiter other.limiter

/-- What one state can do, an alike one can do with the same outcome. -/
theorem LimiterTransition.alike {state next other : LimiterState} {event : LimiterEvent}
    {output : LimiterOutput} (transition : LimiterTransition state event next output)
    (alike : state.Alike other)
    : ∃ next', LimiterTransition other event next' output ∧ next.Alike next' := by
  obtain ⟨limiter', passed', globalClock', identityClock', toolClock'⟩ := other
  obtain ⟨rfl, rfl, rfl, rfl, alike⟩ := alike
  cases transition with
  | refuse identitySub times ordered refused =>
      obtain ⟨same, after⟩ := alike.checkGlobal ordered
      rw [same] at refused ⊢
      exact ⟨_, .refuse identitySub times ordered refused, ⟨rfl, rfl, rfl, rfl, after⟩⟩
  | pass identitySub times ordered allowed =>
      obtain ⟨same, after⟩ := alike.checkGlobal ordered
      rw [same] at allowed
      exact ⟨_, .pass identitySub times ordered allowed, ⟨rfl, rfl, rfl, rfl, after⟩⟩
  | answer index times request waiting ordered later =>
      obtain ⟨same, after⟩ := alike.checkIdentity request.identitySub ordered
      rw [same]
      exact ⟨_, .answer index times request waiting ordered later,
        ⟨rfl, rfl, rfl, rfl, after⟩⟩
  | tool toolName times ordered =>
      obtain ⟨same, after⟩ := alike.checkTool times toolName
      rw [same]
      exact ⟨_, .tool toolName times ordered, ⟨rfl, rfl, rfl, rfl, after⟩⟩

/-- Alike states answer every later schedule alike, by induction on the run. -/
theorem rateLimiting_alike {start finish other : LimiterState} {trace : LimiterTrace}
    (run : rateLimiting.Run start trace finish) (alike : start.Alike other)
    : ∃ finish', rateLimiting.Run other trace finish' ∧ finish.Alike finish' := by
  induction run with
  | nil => exact ⟨other, .nil other, alike⟩
  | snoc before next ih =>
      obtain ⟨middle, run, alike⟩ := ih
      obtain ⟨next', transition, alike⟩ := (limiterStep_transition next).alike alike
      exact ⟨next', run.snoc transition.step, alike⟩

/-- The state with another limiter in it, at a time when the clocks read at least `clock`. -/
def LimiterState.resume (state : LimiterState) (clock : ℚ) (limiter : RateLimiter)
    : LimiterState :=
  {
    state with
    limiter
    globalClock := max state.globalClock clock
    identityClock := max state.identityClock clock
  }

/-- A call changes buckets and nothing else of the limiter. -/
theorem RateLimiter.request_frame (limiter : RateLimiter) (call : RequestCall)
    : ∃ global perIdentity,
        (limiter.request call).2 = { limiter with global, perIdentity } := by
  by_cases holds : 1 ≤ limiter.globalTokens call.globalTimes.acquired
  · rw [(request_granted holds).1]
    exact ⟨_, _, rfl⟩
  · rw [(request_refused holds).1]
    exact ⟨_, _, rfl⟩

/-- Limiters of one configuration that hold the same from `clock` on are alike from then on. -/
theorem RateLimiter.HoldsSame.alike {limiter : RateLimiter} {global : TokenBucket}
    {perIdentity : HashMap TokenBucket} {clock globalClock identityClock before : ℚ}
    {before' early early' : ℚ}
    (same : RateLimiter.HoldsSame clock limiter { limiter with global, perIdentity })
    (follows : limiter.Follows early before)
    (follows' : RateLimiter.Follows { limiter with global, perIdentity } early' before')
    (fromGlobal : clock ≤ globalClock) (fromIdentity : clock ≤ identityClock)
    (after : before ≤ identityClock) (after' : before' ≤ identityClock)
    : RateLimiter.Alike globalClock identityClock limiter
        { limiter with global, perIdentity } where
  globalRule := rfl
  perIdentityRule := rfl
  perToolRules := rfl
  perTool := rfl
  global := fun reading from' =>
    follows.global.refill_eq follows'.global (same reading (fromGlobal.trans from')).1
  identity := fun identitySub reading from' =>
    (follows.identity identitySub reading (after.trans from')).refill_eq
      (follows'.identity identitySub reading (after'.trans from'))
      ((same reading (fromIdentity.trans from')).2 identitySub)

/-- A state with either of two alike limiters in it. -/
theorem RateLimiter.Alike.resume {state : LimiterState} {clock : ℚ}
    {limiter other : RateLimiter}
    (alike
      : RateLimiter.Alike (max state.globalClock clock) (max state.identityClock clock)
          limiter other)
    : (state.resume clock limiter).Alike (state.resume clock other) :=
  ⟨rfl, rfl, rfl, rfl, alike⟩

/-- A refused call costs nobody anything exactly when its global token was not needed: the
global tier refused it, or its identity has a token after all, or the global bucket would
have run over before the call returns. Then all later checks are answered as without it.
-/
theorem refusedRequest_costsNothing_iff {config : RateLimitConfig} {now : ℚ}
    {trace : LimiterTrace} {state : LimiterState}
    (run : rateLimiting.Run (.initial now config) trace state) {call : RequestCall}
    (after : call.After state)
    : (state.limiter.RefusalCostsNothing call ↔ state.limiter.GlobalTokenUnneeded call)
      ∧ (state.limiter.GlobalTokenUnneeded call
          → (state.limiter.request call).1.allowed = false
          → ∀ later finish,
              rateLimiting.Run
                  (state.resume (state.limiter.returnTime call) state.limiter) later finish
              → ∃ finish',
                  rateLimiting.Run
                    (state.resume (state.limiter.returnTime call)
                      (state.limiter.request call).2) later finish') := by
  have follows := rateLimiting_follows run
  have free :=
    follows.refusalCostsNothing_iff after.global after.identity after.ordered
  refine ⟨free, ?_⟩
  intro unneeded refused later finish without
  have same := free.mpr unneeded refused
  obtain ⟨called, calling⟩ := LimiterState.called_run after
  have follows' : (state.limiter.request call).2.Follows _ _ :=
    rateLimiting_follows (run.trans calling)
  have caught
      : (state.called call).identityClock
        ≤ max state.identityClock (state.limiter.returnTime call) := by
    unfold LimiterState.called RateLimiter.returnTime
    cases (state.limiter.checkGlobal call.globalTimes).1.allowed with
    | true => exact le_max_right _ _
    | false => exact le_max_left _ _
  obtain ⟨global, perIdentity, frame⟩ := state.limiter.request_frame call
  rw [frame] at same follows' ⊢
  have alike := same.alike follows follows' (le_max_right state.globalClock _)
    (le_max_right state.identityClock _) (le_max_left _ _) caught
  obtain ⟨finish', with', _⟩ := rateLimiting_alike without alike.resume
  exact ⟨finish', with'⟩

def RequestCall.instant (identitySub : String) (reading : ℚ) : RequestCall :=
  { identitySub, globalTimes := .instant reading, identityTimes := .instant reading }

/-- One call of `ada` and one of `grace`, both allowed; the global bucket is empty then. -/
def drainingEvents : List LimiterEvent :=
  [.global "ada" (.instant 0), .identity 0 (.instant 0), .global "grace" (.instant 0),
    .identity 0 (.instant 0)]

def drainedState : LimiterState :=
  rateLimiting.stateAfter (.initial 0 tightConfig) drainingEvents

theorem refusedRequest_costsNothing_iff_drained
    : (drainedState.limiter.request (.instant "ada" 0)).1.allowed = false
      ∧ drainedState.limiter.RefusalCostsNothing (.instant "ada" 0) := by
  have enabled
      : (rateLimiting.exec (.initial 0 tightConfig) drainingEvents).isSome = true := by
    decide +kernel
  have after : (RequestCall.instant "ada" 0).After drainedState :=
    ⟨by decide +kernel, by decide +kernel, by decide +kernel⟩
  refine ⟨by decide +kernel, ?_⟩
  have free := (refusedRequest_costsNothing_iff (Machine.traceOf_run enabled) after).1
  exact free.mpr (Or.inl (by decide +kernel))

/-- One call of `ada`, allowed; she has no token left and the global bucket has one. -/
def spentEvents : List LimiterEvent :=
  [.global "ada" (.instant 0), .identity 0 (.instant 0)]

def spentState : LimiterState :=
  rateLimiting.stateAfter (.initial 0 tightConfig) spentEvents

/-- A second call of `ada` is refused and takes the global token that `grace` would have
been admitted with.
-/
theorem refusedRequest_costsOthers
    : (∃ trace, rateLimiting.Run (.initial 0 tightConfig) trace spentState)
      ∧ (RequestCall.instant "ada" 0).After spentState
      ∧ ¬spentState.limiter.RefusalCostsNothing (.instant "ada" 0)
      ∧ (spentState.limiter.request (.instant "grace" 0)).1.allowed = true
      ∧ ((spentState.limiter.request (.instant "ada" 0)).2.request
          (.instant "grace" 0)).1.allowed = false := by
  have enabled
      : (rateLimiting.exec (.initial 0 tightConfig) spentEvents).isSome = true := by
    decide +kernel
  refine ⟨⟨_, Machine.traceOf_run enabled⟩, ?_, ?_, by decide +kernel, by decide +kernel⟩
  · exact ⟨by decide +kernel, by decide +kernel, by decide +kernel⟩
  · intro free
    have refused : (spentState.limiter.request (.instant "ada" 0)).1.allowed = false := by
      decide +kernel
    have returned : spentState.limiter.returnTime (.instant "ada" 0) ≤ 0 := by
      decide +kernel
    have same := (free refused 0 returned).1
    have before : spentState.limiter.globalTokens 0 = 1 := by decide +kernel
    have after : (spentState.limiter.request (.instant "ada" 0)).2.globalTokens 0 = 0 := by
      decide +kernel
    rw [before, after] at same
    exact one_ne_zero same

end Intellisphere.Sphere
