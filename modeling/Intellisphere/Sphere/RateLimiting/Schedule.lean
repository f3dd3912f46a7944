import Intellisphere.Foundation.Machine
import Intellisphere.Sphere.RateLimiting.Buckets

/-! Concurrent calls of the limiter. Each bucket or bucket map has a lock of its own, and a
request check holds first the global lock and then, after any delay, the identities' lock.
The scheduler picks which call enters which lock next and what the clock reads there.
-/

namespace Intellisphere.Sphere

open Foundation

/-- A request that passed the global tier and waits for the identities' lock. -/
structure PassedRequest where
  identitySub : String
  globalTimes : CheckTimes
  deriving DecidableEq

/-- A finished request check. A request refused by the global tier never reaches the
identity tier.
-/
structure AnsweredRequest where
  identitySub : String
  globalTimes : CheckTimes
  identityTimes : Option CheckTimes
  result : RateLimitResult
  deriving DecidableEq

/-- A finished tool check. -/
structure AnsweredTool where
  toolName : String
  times : CheckTimes
  result : Option RateLimitResult
  deriving DecidableEq

/-- The limiter, the requests between its two locks, and the last clock reading under each
lock.
-/
structure LimiterState where
  limiter : RateLimiter
  passed : List PassedRequest
  globalClock : ℚ
  identityClock : ℚ
  toolClock : ℚ
  deriving DecidableEq

inductive LimiterEvent where
  /-- A new request check takes the global lock. -/
  | global (identitySub : String) (times : CheckTimes)
  /-- One of the passed requests takes the identities' lock. -/
  | identity (index : Nat) (times : CheckTimes)
  /-- A tool check takes the tools' lock. -/
  | tool (toolName : String) (times : CheckTimes)
  deriving DecidableEq

inductive LimiterOutput where
  | passed (request : PassedRequest)
  | request (answered : AnsweredRequest)
  | tool (answered : AnsweredTool)
  deriving DecidableEq

/-- The limiter at service start, its clock reading `now`. -/
def LimiterState.initial (now : ℚ) (config : RateLimitConfig) : LimiterState :=
  {
    limiter := .fromConfig now config
    passed := []
    globalClock := now
    identityClock := now
    toolClock := now
  }

/-- One section under a lock. Readings under one lock never run back, nor do those of one
call.
-/
def limiterStep (state : LimiterState) : LimiterEvent → Option (LimiterState × LimiterOutput)
  | .global identitySub times =>
      if times.From state.globalClock then
        let (result, limiter) := state.limiter.checkGlobal times
        let state := { state with limiter, globalClock := times.read }
        if !result.allowed then
          some
            (state,
              .request { identitySub, globalTimes := times, identityTimes := none, result })
        else
          let request : PassedRequest := { identitySub, globalTimes := times }
          some ({ state with passed := state.passed ++ [request] }, .passed request)
      else none
  | .identity index times =>
      match state.passed[index]? with
      | none => none
      | some request =>
          if times.From state.identityClock ∧ request.globalTimes.read ≤ times.created then
            let (result, limiter) :=
              state.limiter.checkIdentity times request.identitySub
            some
              ({
                  state with
                  limiter
                  passed := state.passed.eraseIdx index
                  identityClock := times.read
                },
                .request {
                  identitySub := request.identitySub
                  globalTimes := request.globalTimes
                  identityTimes := some times
                  result
                })
          else none
  | .tool toolName times =>
      if times.From state.toolClock then
        let (result, limiter) := state.limiter.checkTool times toolName
        some
          ({ state with limiter, toolClock := times.read },
            .tool { toolName, times, result })
      else none

def rateLimiting : Machine LimiterState LimiterEvent LimiterOutput :=
  { step := limiterStep }

/-- A tool check touches only the tools' buckets. -/
theorem RateLimiter.checkTool_frame (limiter : RateLimiter) (times : CheckTimes)
    (toolName : String)
    : (limiter.checkTool times toolName).2
      = { limiter with perTool := (limiter.checkTool times toolName).2.perTool } := by
  unfold RateLimiter.checkTool
  cases limiter.perToolRules.lookup toolName <;> rfl

/-- What one section under a lock can do: refuse or pass a request, answer a passed one, or
answer a tool check.
-/
inductive LimiterTransition (state : LimiterState)
    : LimiterEvent → LimiterState → LimiterOutput → Prop
  | refuse (identitySub : String) (times : CheckTimes)
    (ordered : times.From state.globalClock)
    (refused : (state.limiter.checkGlobal times).1.allowed = false)
    : LimiterTransition state (.global identitySub times)
        {
          state with
          limiter := (state.limiter.checkGlobal times).2
          globalClock := times.read
        }
        (.request {
          identitySub
          globalTimes := times
          identityTimes := none
          result := (state.limiter.checkGlobal times).1
        })
  | pass (identitySub : String) (times : CheckTimes)
    (ordered : times.From state.globalClock)
    (allowed : (state.limiter.checkGlobal times).1.allowed = true)
    : LimiterTransition state (.global identitySub times)
        {
          state with
          limiter := (state.limiter.checkGlobal times).2
          globalClock := times.read
          passed := state.passed ++ [{ identitySub, globalTimes := times }]
        }
        (.passed { identitySub, globalTimes := times })
  | answer (index : Nat) (times : CheckTimes) (request : PassedRequest)
    (waiting : state.passed[index]? = some request)
    (ordered : times.From state.identityClock)
    (after : request.globalTimes.read ≤ times.created)
    : LimiterTransition state (.identity index times)
        {
          state with
          limiter := (state.limiter.checkIdentity times request.identitySub).2
          passed := state.passed.eraseIdx index
          identityClock := times.read
        }
        (.request {
          identitySub := request.identitySub
          globalTimes := request.globalTimes
          identityTimes := some times
          result := (state.limiter.checkIdentity times request.identitySub).1
        })
  | tool (toolName : String) (times : CheckTimes) (ordered : times.From state.toolClock)
    : LimiterTransition state (.tool toolName times)
        {
          state with
          limiter := (state.limiter.checkTool times toolName).2
          toolClock := times.read
        }
        (.tool { toolName, times, result := (state.limiter.checkTool times toolName).1 })

/-- Every enabled section is one of the transitions. -/
theorem limiterStep_transition {state next : LimiterState} {event : LimiterEvent}
    {output : LimiterOutput} (stepped : limiterStep state event = some (next, output))
    : LimiterTransition state event next output := by
  cases event with
  | global identitySub times =>
      simp only [limiterStep] at stepped
      split at stepped
      next ordered =>
        split at stepped
        next refused =>
          obtain ⟨rfl, rfl⟩ := Prod.mk.inj (Option.some.inj stepped)
          exact .refuse identitySub times ordered (by simpa using refused)
        next allowed =>
          obtain ⟨rfl, rfl⟩ := Prod.mk.inj (Option.some.inj stepped)
          exact .pass identitySub times ordered (by simpa using allowed)
      · contradiction
  | identity index times =>
      simp only [limiterStep] at stepped
      split at stepped
      · contradiction
      next request waiting =>
        split at stepped
        next ordered =>
          obtain ⟨rfl, rfl⟩ := Prod.mk.inj (Option.some.inj stepped)
          exact .answer index times request waiting ordered.1 ordered.2
        · contradiction
  | tool toolName times =>
      simp only [limiterStep] at stepped
      split at stepped
      next ordered =>
        obtain ⟨rfl, rfl⟩ := Prod.mk.inj (Option.some.inj stepped)
        exact .tool toolName times ordered
      · contradiction

/-- Every transition is an enabled section. -/
theorem LimiterTransition.step {state next : LimiterState} {event : LimiterEvent}
    {output : LimiterOutput} (transition : LimiterTransition state event next output)
    : limiterStep state event = some (next, output) := by
  cases transition with
  | refuse identitySub times ordered refused => simp [limiterStep, ordered, refused]
  | pass identitySub times ordered allowed => simp [limiterStep, ordered, allowed]
  | answer index times request waiting ordered after =>
      simp [limiterStep, waiting, ordered, after]
  | tool toolName times ordered => simp [limiterStep, ordered]

theorem LimiterTransition.run {state next : LimiterState} {event : LimiterEvent}
    {output : LimiterOutput} (transition : LimiterTransition state event next output)
    : rateLimiting.Run state [(event, output)] next :=
  .single transition.step

end Intellisphere.Sphere
