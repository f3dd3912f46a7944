import Mathlib.Data.Rat.Floor
import Intellisphere.Sphere.Config

/-! Token buckets and the multi-tier rate limiter. Token counts and clock readings, in
seconds, are exact rationals. Each bucket map is locked on its own, so a request check is two
separate steps.
-/

namespace Intellisphere.Sphere

structure TokenBucket where
  capacity : ℚ
  refillRate : ℚ
  tokens : ℚ
  lastRefill : ℚ
  deriving DecidableEq

/-- A full bucket: `burst` tokens, refilled at `requestsPerMinute / 60` per second. -/
def TokenBucket.new (now : ℚ) (rule : RateLimitRule) : TokenBucket :=
  {
    capacity := rule.burst.toNat
    refillRate := rule.requestsPerMinute.toNat / 60
    tokens := rule.burst.toNat
    lastRefill := now
  }

/-- Add the tokens earned since the last refill; a clock reading before it earns nothing. -/
def TokenBucket.refill (bucket : TokenBucket) (now : ℚ) : TokenBucket :=
  let elapsed := max 0 (now - bucket.lastRefill)
  {
    bucket with
    tokens := min (bucket.tokens + elapsed * bucket.refillRate) bucket.capacity
    lastRefill := now
  }

/-- Take `count` tokens if the bucket holds them. -/
def TokenBucket.tryAcquire (bucket : TokenBucket) (now : ℚ) (count : UInt32)
    : Bool × TokenBucket :=
  let bucket := bucket.refill now
  let needed : ℚ := count.toNat
  if needed ≤ bucket.tokens then
    (true, { bucket with tokens := bucket.tokens - needed })
  else (false, bucket)

/-- The tokens left, floored; reading them refills the bucket. -/
def TokenBucket.remaining (bucket : TokenBucket) (now : ℚ) : Nat × TokenBucket :=
  let bucket := bucket.refill now
  (min ⌊bucket.tokens⌋₊ (2 ^ 32 - 1), bucket)

/-- Result of a rate limit check, including remaining quota info for headers. -/
structure RateLimitResult where
  allowed : Bool
  remaining : Nat
  limit : UInt32
  deriving DecidableEq

structure RateLimiter where
  global : TokenBucket
  globalRule : RateLimitRule
  perIdentity : HashMap TokenBucket
  perIdentityRule : RateLimitRule
  perTool : HashMap TokenBucket
  perToolRules : HashMap RateLimitRule
  deriving DecidableEq

def RateLimiter.fromConfig (now : ℚ) (config : RateLimitConfig) : RateLimiter :=
  {
    global := .new now config.global
    globalRule := config.global
    perIdentity := ∅
    perIdentityRule := config.perIdentity
    perTool := ∅
    perToolRules := config.perTool
  }

/-- One token from a bucket and what is left in it afterwards, with the two clock readings
this takes.
-/
def TokenBucket.check (bucket : TokenBucket) (acquiredAt readAt : ℚ) (rule : RateLimitRule)
    : RateLimitResult × TokenBucket :=
  let (allowed, bucket) := bucket.tryAcquire acquiredAt 1
  let (remaining, bucket) := bucket.remaining readAt
  ({ allowed, remaining, limit := rule.requestsPerMinute }, bucket)

/-- The clock readings of one bucket check: when a missing bucket is made, when the token is
taken and when the rest is read.
-/
structure CheckTimes where
  created : ℚ
  acquired : ℚ
  read : ℚ
  deriving DecidableEq

/-- The global tier of a request check, under the lock of the global bucket. -/
def RateLimiter.checkGlobal (limiter : RateLimiter) (times : CheckTimes)
    : RateLimitResult × RateLimiter :=
  let (result, bucket) := limiter.global.check times.acquired times.read limiter.globalRule
  (result, { limiter with global := bucket })

/-- The identity tier of a request check, under the lock of the identities' buckets. -/
def RateLimiter.checkIdentity (limiter : RateLimiter) (times : CheckTimes)
    (identitySub : String)
    : RateLimitResult × RateLimiter :=
  let bucket :=
    (limiter.perIdentity.lookup identitySub).getD
      (.new times.created limiter.perIdentityRule)
  let (result, bucket) := bucket.check times.acquired times.read limiter.perIdentityRule
  (result, { limiter with perIdentity := limiter.perIdentity.insert identitySub bucket })

/-- Check rate limits for a request: global first, then per identity. -/
def RateLimiter.checkRequest (limiter : RateLimiter) (globalTimes identityTimes : CheckTimes)
    (identitySub : String)
    : RateLimitResult × RateLimiter :=
  let (result, limiter) := limiter.checkGlobal globalTimes
  if !result.allowed then (result, limiter)
  else limiter.checkIdentity identityTimes identitySub

/-- Check the limit of a tool; a tool without a rule is allowed without limit. -/
def RateLimiter.checkTool (limiter : RateLimiter) (times : CheckTimes) (toolName : String)
    : Option RateLimitResult × RateLimiter :=
  match limiter.perToolRules.lookup toolName with
  | none => (none, limiter)
  | some rule =>
      let bucket := (limiter.perTool.lookup toolName).getD (.new times.created rule)
      let (result, bucket) := bucket.check times.acquired times.read rule
      (some result, { limiter with perTool := limiter.perTool.insert toolName bucket })

end Intellisphere.Sphere
