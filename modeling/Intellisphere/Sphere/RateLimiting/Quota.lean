import Intellisphere.Sphere.RateLimiting.Refusals

/-! The remaining quota that an allowed request check reports, against the calls that are
still allowed. The check reports what the identity tier has left, whatever the global tier
has left.
-/

namespace Intellisphere.Sphere

open Foundation

/-- The limiter after `count` checks of `identitySub`, all at one instant. -/
def RateLimiter.repeatRequest (limiter : RateLimiter) (identitySub : String) (now : ℚ)
    : Nat → RateLimiter
  | 0 => limiter
  | count + 1 =>
      (limiter.request (.instant identitySub now)).2.repeatRequest identitySub now count

/-- If a check of `identitySub` is allowed, then at the same instant as many more are allowed
as it reports to remain.
-/
def RateLimiter.ReportsTruly (limiter : RateLimiter) (identitySub : String) (now : ℚ)
    : Prop :=
  let call := RequestCall.instant identitySub now
  (limiter.request call).1.allowed = true
  → ∀ made,
      made < (limiter.request call).1.remaining
      → (((limiter.request call).2.repeatRequest identitySub now made).request
          call).1.allowed = true

/-- The check is refused, or the global tier has as many whole tokens as the identity. -/
def RateLimiter.GlobalTierSuffices (limiter : RateLimiter) (identitySub : String) (now : ℚ)
    : Prop :=
  limiter.globalTokens now < 1
  ∨ limiter.identityTokens identitySub now < 1
  ∨ ⌊limiter.identityTokens identitySub now⌋ ≤ ⌊limiter.globalTokens now⌋

-----------------------------------------------------------------------------------------
-- One check at one instant
-----------------------------------------------------------------------------------------

/-- A granting check at one instant takes one token and reports the whole ones left. -/
theorem TokenBucket.Follows.check_instant {bucket : TokenBucket} {rule : RateLimitRule}
    {clock now : ℚ} (follows : bucket.Follows rule clock)
    (holds : 1 ≤ (bucket.refill now).tokens)
    : (bucket.check now now rule).1.remaining = ⌊(bucket.refill now).tokens - 1⌋₊
      ∧ ((bucket.check now now rule).2.refill now).tokens
        = (bucket.refill now).tokens - 1 := by
  obtain ⟨left, isLeft⟩
      : ∃ left : TokenBucket,
          left = { bucket.refill now with tokens := (bucket.refill now).tokens - 1 } :=
    ⟨_, rfl⟩
  have charged : left.Follows rule now := isLeft ▸ (refill_follows now follows).charged
  have still : left.refill now = left := by
    have current : left.lastRefill = now := by rw [isLeft, refill_lastRefill]
    exact current ▸ charged.refill_now
  have tokens : left.tokens = (bucket.refill now).tokens - 1 := by rw [isLeft]
  have taken : bucket.tryAcquire now 1 = (true, left) := by
    have one : (((1 : UInt32).toNat : ℕ) : ℚ) = 1 := Nat.cast_one
    unfold TokenBucket.tryAcquire
    simp only [one, holds, if_true, isLeft]
  have next : (bucket.check now now rule).2 = left := by
    rw [check_granted now rule holds, ← isLeft, still]
  refine ⟨?_, ?_⟩
  · have reads : (bucket.check now now rule).1.remaining = (left.remaining now).1 := by
      unfold TokenBucket.check
      rw [taken]
    rw [reads, charged.remaining_eq now, still, tokens]
  · rw [next, still, tokens]

theorem RateLimiter.checkIdentity_remaining (limiter : RateLimiter) (times : CheckTimes)
    (identitySub : String)
    : (limiter.checkIdentity times identitySub).1.remaining
      = ((limiter.identityBucket identitySub times.created).check times.acquired times.read
          limiter.perIdentityRule).1.remaining := by
  unfold RateLimiter.checkIdentity RateLimiter.identityBucket
  rfl

/-- The identity tier keeps to the rules. -/
theorem RateLimiter.Follows.checkIdentity {limiter : RateLimiter}
    {globalClock identityClock : ℚ} {times : CheckTimes} (identitySub : String)
    (ordered : times.From identityClock) (follows : limiter.Follows globalClock identityClock)
    : (limiter.checkIdentity times identitySub).2.Follows globalClock times.read := by
  refine ⟨follows.global, ?_⟩
  intro other created from'
  by_cases same : other = identitySub
  · subst same
    rw [checkIdentity_bucket]
    have made := follows.identity other times.created ordered.clock_le
    exact (TokenBucket.check_follows times.read made).later from'
  · rw [limiter.checkIdentity_otherBucket times same]
    exact follows.identity other created (ordered.read_from.trans from')

/-- A check is allowed exactly when both tiers have a token. -/
theorem RateLimiter.request_allowed (limiter : RateLimiter) {call : RequestCall}
    (made : call.identityTimes.created ≤ call.identityTimes.acquired)
    : (limiter.request call).1.allowed = true
      ↔ 1 ≤ limiter.globalTokens call.globalTimes.acquired
        ∧ 1 ≤ limiter.identityTokens call.identitySub call.identityTimes.acquired := by
  by_cases holds : 1 ≤ limiter.globalTokens call.globalTimes.acquired
  · have decided := (limiter.checkGlobal call.globalTimes).2.checkIdentity_allowed
      call.identitySub made
    rw [(request_granted holds).1, decided, checkGlobal_identityTokens]
    exact (and_iff_right holds).symm
  · obtain ⟨request, _, refused⟩ := request_refused holds
    rw [request]
    exact iff_of_false (Bool.eq_false_iff.mp refused) (fun both => holds both.1)

theorem RateLimiter.request_instant_allowed (limiter : RateLimiter) (identitySub : String)
    (now : ℚ)
    : (limiter.request (.instant identitySub now)).1.allowed = true
      ↔ 1 ≤ limiter.globalTokens now ∧ 1 ≤ limiter.identityTokens identitySub now :=
  @request_allowed limiter (.instant identitySub now) le_rfl

/-- An allowed check at one instant takes a token of each tier and reports the whole tokens
the identity has left.
-/
structure RateLimiter.Taken (limiter : RateLimiter) (identitySub : String) (now : ℚ) : Prop
    where
  remaining
    : ((limiter.request (.instant identitySub now)).1.remaining : ℤ)
      = ⌊limiter.identityTokens identitySub now⌋ - 1
  follows : (limiter.request (.instant identitySub now)).2.Follows now now
  global
    : (limiter.request (.instant identitySub now)).2.globalTokens now
      = limiter.globalTokens now - 1
  identity
    : (limiter.request (.instant identitySub now)).2.identityTokens identitySub now
      = limiter.identityTokens identitySub now - 1

theorem RateLimiter.Follows.taken {limiter : RateLimiter} {globalClock identityClock now : ℚ}
    {identitySub : String} (follows : limiter.Follows globalClock identityClock)
    (globalFrom : globalClock ≤ now) (identityFrom : identityClock ≤ now)
    (holds : 1 ≤ limiter.globalTokens now)
    (has : 1 ≤ limiter.identityTokens identitySub now)
    : limiter.Taken identitySub now := by
  let times := CheckTimes.instant now
  have request
      : limiter.request (.instant identitySub now)
        = (limiter.checkGlobal times).2.checkIdentity times identitySub :=
    (@request_granted limiter (.instant identitySub now) holds).1
  have globalOrdered : times.From globalClock := ⟨globalFrom, le_rfl, le_rfl⟩
  have ordered : times.From identityClock := ⟨identityFrom, le_rfl, le_rfl⟩
  have follows' := follows.checkGlobal times
  obtain ⟨remaining, tokens⟩ :=
    (follows'.identity identitySub now identityFrom).check_instant has
  refine {
    remaining := ?_
    follows := ?_
    global := ?_
    identity := ?_
  }
  · have held := limiter.checkGlobal_identityTokens times identitySub now
    have reads
        : ((limiter.checkGlobal times).2.checkIdentity times identitySub).1.remaining
          = ⌊limiter.identityTokens identitySub now - 1⌋₊ := by
      rw [← held]
      exact (checkIdentity_remaining _ times identitySub).trans remaining
    rw [request, reads, Int.natCast_floor_eq_floor (sub_nonneg.mpr has), Int.floor_sub_one]
  · rw [request]
    exact follows'.checkIdentity identitySub ordered
  · have capped := (TokenBucket.refill_follows now follows.global).capped
    have fewer : limiter.globalTokens now - 1 ≤ limiter.globalRule.capacity :=
      (sub_le_self _ zero_le_one).trans capped
    rw [request, checkIdentity_globalTokens]
    refine (follows.globalTokens_granted globalOrdered holds le_rfl).trans ?_
    unfold gained
    have none : times.read - times.acquired = 0 := sub_self now
    rw [none, mul_zero, add_zero]
    exact min_eq_left fewer
  · rw [request, ← limiter.checkGlobal_identityTokens times identitySub now]
    unfold RateLimiter.identityTokens
    rw [checkIdentity_bucket]
    exact tokens

-----------------------------------------------------------------------------------------
-- Checks repeated at one instant
-----------------------------------------------------------------------------------------

/-- As long as both tiers have tokens for them, repeated checks take one of each, by induction
on their number.
-/
theorem RateLimiter.Follows.repeated {limiter : RateLimiter} {now : ℚ} {identitySub : String}
    {count : Nat} (follows : limiter.Follows now now)
    (holds : (count : ℚ) ≤ limiter.globalTokens now)
    (has : (count : ℚ) ≤ limiter.identityTokens identitySub now)
    : (limiter.repeatRequest identitySub now count).globalTokens now
        = limiter.globalTokens now - count
      ∧ (limiter.repeatRequest identitySub now count).identityTokens identitySub now
        = limiter.identityTokens identitySub now - count := by
  induction count generalizing limiter with
  | zero =>
      have same : limiter.repeatRequest identitySub now 0 = limiter := rfl
      have none (tokens : ℚ) : tokens = tokens - (0 : ℕ) := by
        rw [Nat.cast_zero, sub_zero]
      rw [same]
      exact ⟨none _, none _⟩
  | succ count ih =>
      have one : (1 : ℚ) ≤ (count + 1 : ℕ) := Nat.one_le_cast.mpr (Nat.le_add_left 1 count)
      have first := follows.taken le_rfl le_rfl (one.trans holds) (one.trans has)
      have split : ((count + 1 : ℕ) : ℚ) = count + 1 := Nat.cast_succ count
      rw [split] at holds has ⊢
      obtain ⟨global, identity⟩ := ih first.follows
        (first.global ▸ le_sub_iff_add_le.mpr holds)
        (first.identity ▸ le_sub_iff_add_le.mpr has)
      rw [first.global] at global
      rw [first.identity] at identity
      exact ⟨global.trans (by ring), identity.trans (by ring)⟩

/-- Repeated at one instant, checks are allowed while both tiers have whole tokens. -/
theorem RateLimiter.Follows.repeated_allowed {limiter : RateLimiter} {now : ℚ}
    {identitySub : String} {made : Nat} (follows : limiter.Follows now now)
    (holds : (made : ℚ) ≤ limiter.globalTokens now)
    (has : (made : ℚ) ≤ limiter.identityTokens identitySub now)
    : ((limiter.repeatRequest identitySub now made).request
          (.instant identitySub now)).1.allowed = true
      ↔ (made + 1 : ℚ) ≤ limiter.globalTokens now
        ∧ (made + 1 : ℚ) ≤ limiter.identityTokens identitySub now := by
  obtain ⟨global, identity⟩ := follows.repeated holds has
  rw [request_instant_allowed, global, identity, le_sub_iff_add_le', le_sub_iff_add_le']

/-- A number of whole tokens is left when one more is held. -/
theorem natCast_le_sub_one (count : ℕ) (tokens : ℚ)
    : (count : ℚ) ≤ tokens - 1 ↔ (count : ℤ) + 1 ≤ ⌊tokens⌋ := by
  rw [Int.le_floor, le_sub_iff_add_le]
  push_cast
  rfl

/-- After an allowed check, as many more are allowed at the same instant as both tiers had
whole tokens beyond the first.
-/
theorem RateLimiter.Taken.repeated_allowed {limiter : RateLimiter} {now : ℚ}
    {identitySub : String} {made : Nat} (first : limiter.Taken identitySub now)
    (global : (made : ℤ) + 1 ≤ ⌊limiter.globalTokens now⌋)
    (identity : (made : ℤ) + 1 ≤ ⌊limiter.identityTokens identitySub now⌋)
    : (((limiter.request (.instant identitySub now)).2.repeatRequest identitySub now
            made).request (.instant identitySub now)).1.allowed
          = true
      ↔ (made : ℤ) + 2 ≤ ⌊limiter.globalTokens now⌋
        ∧ (made : ℤ) + 2 ≤ ⌊limiter.identityTokens identitySub now⌋ := by
  have globalLeft
      : (made : ℚ) ≤ (limiter.request (.instant identitySub now)).2.globalTokens now := by
    rwa [first.global, natCast_le_sub_one]
  have identityLeft
      : (made : ℚ)
        ≤ (limiter.request (.instant identitySub now)).2.identityTokens identitySub
            now := by
    rwa [first.identity, natCast_le_sub_one]
  have next : ((made : ℚ) + 1) = (made + 1 : ℕ) := (Nat.cast_succ made).symm
  rw [first.follows.repeated_allowed globalLeft identityLeft, first.global, first.identity,
    next, natCast_le_sub_one, natCast_le_sub_one, Nat.cast_succ]
  rfl

/-- The quota reported is the quota left exactly when the check is refused anyway or the
global tier has as many whole tokens as the identity. Otherwise the calls run out when the
global tokens do.
-/
theorem RateLimiter.Follows.reportsTruly_iff {limiter : RateLimiter}
    {globalClock identityClock now : ℚ} (identitySub : String)
    (follows : limiter.Follows globalClock identityClock) (globalFrom : globalClock ≤ now)
    (identityFrom : identityClock ≤ now)
    : limiter.ReportsTruly identitySub now ↔ limiter.GlobalTierSuffices identitySub now := by
  have allowed := limiter.request_instant_allowed identitySub now
  by_cases holds : 1 ≤ limiter.globalTokens now
  case neg =>
    exact iff_of_true (fun first => absurd (allowed.mp first).1 holds)
      (Or.inl (lt_of_not_ge holds))
  by_cases has : 1 ≤ limiter.identityTokens identitySub now
  case neg =>
    exact iff_of_true (fun first => absurd (allowed.mp first).2 has)
      (Or.inr (Or.inl (lt_of_not_ge has)))
  have first := follows.taken globalFrom identityFrom holds has
  have reported := first.remaining
  have globalWhole : 1 ≤ ⌊limiter.globalTokens now⌋ :=
    Int.le_floor.mpr (by exact_mod_cast holds)
  constructor
  · intro truly
    refine Or.inr (Or.inr (le_of_not_gt ?_))
    intro fewer
    -- After as many calls as the global tier has whole tokens, the next one is refused.
    obtain ⟨made, isMade⟩ := Int.eq_ofNat_of_zero_le (sub_nonneg.mpr globalWhole)
    have within : made < (limiter.request (.instant identitySub now)).1.remaining := by
      omega
    have next := truly (allowed.mpr ⟨holds, has⟩) made within
    rw [first.repeated_allowed (by omega) (by omega)] at next
    omega
  · intro suffices' _ made within
    have whole : ⌊limiter.identityTokens identitySub now⌋ ≤ ⌊limiter.globalTokens now⌋ := by
      rcases suffices' with short | short | whole
      · exact absurd holds short.not_ge
      · exact absurd has short.not_ge
      · exact whole
    rw [first.repeated_allowed (by omega) (by omega)]
    omega

/-- In every reachable state, the calls reported to remain are all allowed exactly when the
check is refused or the global tier has as many whole tokens as the identity.
-/
theorem remainingQuota_truthful_iff {config : RateLimitConfig} {now reading : ℚ}
    {trace : LimiterTrace} {state : LimiterState}
    (run : rateLimiting.Run (.initial now config) trace state) (identitySub : String)
    (after : (RequestCall.instant identitySub reading).After state)
    : state.limiter.ReportsTruly identitySub reading
      ↔ state.limiter.GlobalTierSuffices identitySub reading :=
  (rateLimiting_follows run).reportsTruly_iff identitySub after.global.clock_le
    after.identity.clock_le

/-- Six tokens for all, four for each identity. -/
def roomyConfig : RateLimitConfig :=
  {
    global := { requestsPerMinute := 60, burst := 6 }
    perIdentity := { requestsPerMinute := 60, burst := 4 }
    perTool := ∅
  }

/-- Requests of `ada` and `bob` overlap. -/
def overlappingEvents : List LimiterEvent :=
  [
    .global "ada" (.instant 0),
    .global "bob" (.instant 0),
    .identity 1 (.instant 0),
    .identity 0 (.instant 0)
  ]

def roomyState : LimiterState :=
  rateLimiting.stateAfter (.initial 0 roomyConfig) overlappingEvents

/-- Half a second later `ada` is told that two more remain, and they do. -/
theorem remainingQuota_truthful_iff_roomy
    : (roomyState.limiter.request (.instant "ada" (1 / 2))).1
          = { allowed := true, remaining := 2, limit := 60 }
      ∧ roomyState.limiter.ReportsTruly "ada" (1 / 2) := by
  have enabled
      : (rateLimiting.exec (.initial 0 roomyConfig) overlappingEvents).isSome = true := by
    decide +kernel
  have after : (RequestCall.instant "ada" (1 / 2)).After roomyState :=
    ⟨by decide +kernel, by decide +kernel, by decide +kernel⟩
  refine ⟨by decide +kernel, ?_⟩
  refine (remainingQuota_truthful_iff (Machine.traceOf_run enabled) "ada" after).mpr
    (Or.inr (Or.inr ?_))
  decide +kernel

/-- Two tokens for all, three for each identity. -/
def generousConfig : RateLimitConfig :=
  {
    global := { requestsPerMinute := 60, burst := 2 }
    perIdentity := { requestsPerMinute := 60, burst := 3 }
    perTool := ∅
  }

/-- The first call of `ada` reports that two more remain, of which the second is refused. -/
theorem remainingQuota_overstated
    : let limiter := (LimiterState.initial 0 generousConfig).limiter
      (RequestCall.instant "ada" 0).After (.initial 0 generousConfig)
      ∧ (limiter.request (.instant "ada" 0)).1.remaining = 2
      ∧ ¬limiter.ReportsTruly "ada" 0 := by
  refine ⟨⟨by decide +kernel, by decide +kernel, by decide +kernel⟩, by decide +kernel, ?_⟩
  intro truly
  have refused := truly (by decide +kernel) 1 (by decide +kernel)
  revert refused
  decide +kernel

end Intellisphere.Sphere
