import Mathlib.Data.List.Perm.Basic
import Intellisphere.Sphere.RateLimiting.Schedule

/-! How many calls the limiter allows in a time window, over every schedule of its locks. A
call is dated in each tier by the reading at which that tier takes its token, so a call whose
two sections lie in the window counts in both.
-/

namespace Intellisphere.Sphere

open Foundation

/-- A clock reading inside the closed window of `length` seconds from `opens`. -/
def inWindow (opens length reading : ℚ) : Bool :=
  opens ≤ reading && reading ≤ opens + length

abbrev LimiterTrace :=
  List (LimiterEvent × LimiterOutput)

/-- The request checks that returned with `allowed`. -/
def allowedRequests (trace : LimiterTrace) : List AnsweredRequest :=
  trace.filterMap fun entry =>
    match entry.2 with
    | .request answered => if answered.result.allowed then some answered else none
    | _ => none

/-- The tool checks that returned a result with `allowed`. -/
def allowedTools (trace : LimiterTrace) : List AnsweredTool :=
  trace.filterMap fun entry =>
    match entry.2 with
    | .tool answered =>
        if answered.result.any (fun result => result.allowed) then some answered else none
    | _ => none

/-- The request took its global token in the window. -/
def AnsweredRequest.globalWithin (opens length : ℚ) (answered : AnsweredRequest) : Bool :=
  inWindow opens length answered.globalTimes.acquired

/-- The request is of `identitySub` and took that identity's token in the window. -/
def AnsweredRequest.identityWithin (opens length : ℚ) (identitySub : String)
    (answered : AnsweredRequest)
    : Bool :=
  answered.identitySub = identitySub
  && answered.identityTimes.any (fun times => inWindow opens length times.acquired)

/-- The check is of `toolName` and took that tool's token in the window. -/
def AnsweredTool.within (opens length : ℚ) (toolName : String) (answered : AnsweredTool)
    : Bool :=
  answered.toolName = toolName && inWindow opens length answered.times.acquired

/-- The passed request took its global token in the window. -/
def PassedRequest.globalWithin (opens length : ℚ) (request : PassedRequest) : Bool :=
  inWindow opens length request.globalTimes.acquired

-----------------------------------------------------------------------------------------
-- The account of one bucket
-----------------------------------------------------------------------------------------

/-- The bucket follows its rule, and its tokens and the charges in the window are paid for. -/
structure TokenBucket.Accounted (bucket : TokenBucket) (rule : RateLimitRule)
    (clock opens length : ℚ) (charged : ℕ)
    : Prop where
  follows : bucket.Follows rule clock
  account
    : WindowAccount rule.capacity rule.refillRate opens (opens + length) bucket.lastRefill
        bucket.tokens charged

theorem TokenBucket.new_accounted (rule : RateLimitRule) (now opens : ℚ) {length : ℚ}
    (span : 0 ≤ length)
    : (TokenBucket.new now rule).Accounted rule now opens length 0 :=
  ⟨new_follows rule now,
    .full rule.refillRate_nonneg rule.capacity_nonneg (le_add_of_nonneg_right span)⟩

theorem TokenBucket.Accounted.later {bucket : TokenBucket} {rule : RateLimitRule}
    {clock later opens length : ℚ} {charged : ℕ} (forward : clock ≤ later)
    (accounted : bucket.Accounted rule clock opens length charged)
    : bucket.Accounted rule later opens length charged :=
  { accounted with follows := accounted.follows.later forward }

theorem TokenBucket.Accounted.mono {bucket : TokenBucket} {rule : RateLimitRule}
    {clock opens length : ℚ} {charged fewer : ℕ} (less : fewer ≤ charged)
    (accounted : bucket.Accounted rule clock opens length charged)
    : bucket.Accounted rule clock opens length fewer :=
  { accounted with account := accounted.account.mono less }

theorem TokenBucket.Accounted.refill {bucket : TokenBucket} {rule : RateLimitRule}
    {clock now opens length : ℚ} {charged : ℕ} (forward : clock ≤ now)
    (accounted : bucket.Accounted rule clock opens length charged)
    : (bucket.refill now).Accounted rule now opens length charged := by
  have started := accounted.follows.lastRefill.trans forward
  refine ⟨refill_follows now accounted.follows, ?_⟩
  rw [refill_tokens started, accounted.follows.capacity, accounted.follows.refillRate]
  exact accounted.account.gain rule.refillRate_nonneg started

/-- A check charges the window it takes its token in, and no other. -/
theorem TokenBucket.Accounted.check {bucket : TokenBucket} {rule : RateLimitRule}
    {clock opens length : ℚ} {charged : ℕ} {times : CheckTimes} (ordered : times.From clock)
    (accounted : bucket.Accounted rule clock opens length charged)
    : (bucket.check times.acquired times.read rule).2.Accounted rule times.read opens length
        (charged
          + ((bucket.check times.acquired times.read rule).1.allowed
              && inWindow opens length times.acquired).toNat) := by
  have refilled := accounted.refill ordered.acquired_from
  by_cases holds : 1 ≤ (bucket.refill times.acquired).tokens
  · rw [check_granted times.read rule holds, (check_allowed bucket _ _ rule).mpr holds,
      Bool.true_and]
    refine TokenBucket.Accounted.refill ordered.acquired_le ⟨?_, ?_⟩
    · exact refilled.follows.charged
    · cases within : inWindow opens length times.acquired with
      | true =>
          obtain ⟨opened, unclosed⟩
              : opens ≤ times.acquired ∧ times.acquired ≤ opens + length := by
            simpa [inWindow] using within
          exact refilled.account.charge rule.refillRate_nonneg holds opened unclosed
      | false => exact refilled.account.uncharged holds
  · have refused := mt (check_allowed bucket times.acquired times.read rule).mp holds
    rw [check_refused times.read rule holds, Bool.eq_false_of_not_eq_true refused,
      Bool.false_and]
    exact refilled.refill ordered.acquired_le

-----------------------------------------------------------------------------------------
-- The account of a map of lazily made buckets
-----------------------------------------------------------------------------------------

/-- Whenever the next check of `key` comes, the bucket it finds or makes is accounted. -/
def KeyAccounted (buckets : HashMap TokenBucket) (key : String) (rule : RateLimitRule)
    (clock opens length : ℚ) (charged : ℕ)
    : Prop :=
  ∀ created,
    clock ≤ created
    → ((buckets.lookup key).getD (.new created rule)).Accounted rule created opens length
        charged

theorem KeyAccounted.empty (key : String) (rule : RateLimitRule) (clock opens : ℚ)
    {length : ℚ} (span : 0 ≤ length)
    : KeyAccounted ∅ key rule clock opens length 0 := by
  intro created _
  rw [AList.lookup_empty]
  exact TokenBucket.new_accounted rule created opens span

theorem KeyAccounted.later {buckets : HashMap TokenBucket} {key : String}
    {rule : RateLimitRule} {clock later opens length : ℚ} {charged : ℕ}
    (forward : clock ≤ later)
    (accounted : KeyAccounted buckets key rule clock opens length charged)
    : KeyAccounted buckets key rule later opens length charged :=
  fun created from' => accounted created (forward.trans from')

/-- Checking one key charges that key. -/
theorem KeyAccounted.check {buckets : HashMap TokenBucket} {key : String}
    {rule : RateLimitRule} {clock opens length : ℚ} {charged : ℕ} {times : CheckTimes}
    (ordered : times.From clock)
    (accounted : KeyAccounted buckets key rule clock opens length charged)
    : let checked :=
        ((buckets.lookup key).getD (.new times.created rule)).check times.acquired times.read
          rule
      KeyAccounted (buckets.insert key checked.2) key rule times.read opens length
        (charged + (checked.1.allowed && inWindow opens length times.acquired).toNat) := by
  intro checked created from'
  rw [AList.lookup_insert, Option.getD_some]
  have before := accounted times.created ordered.clock_le
  exact (before.check ⟨le_rfl, ordered.created_le, ordered.acquired_le⟩).later from'

/-- Checking one key leaves the others as they are. -/
theorem KeyAccounted.insert_ne {buckets : HashMap TokenBucket} {key other : String}
    {rule : RateLimitRule} {clock later opens length : ℚ} {charged : ℕ}
    (bucket : TokenBucket) (different : key ≠ other) (forward : clock ≤ later)
    (accounted : KeyAccounted buckets key rule clock opens length charged)
    : KeyAccounted (buckets.insert other bucket) key rule later opens length charged := by
  intro created from'
  rw [AList.lookup_insert_ne different]
  exact accounted created (forward.trans from')

/-- The global tier charges the window its reading lies in. -/
theorem RateLimiter.checkGlobal_accounted {limiter : RateLimiter} {rule : RateLimitRule}
    {clock opens length : ℚ} {charged : ℕ} {times : CheckTimes} (ordered : times.From clock)
    (configured : limiter.globalRule = rule)
    (accounted : limiter.global.Accounted rule clock opens length charged)
    : (limiter.checkGlobal times).2.global.Accounted rule times.read opens length
        (charged
          + ((limiter.checkGlobal times).1.allowed
              && inWindow opens length times.acquired).toNat) := by
  subst configured
  exact accounted.check ordered

/-- The identity tier charges the checked identity and no other. -/
theorem RateLimiter.checkIdentity_accounted {limiter : RateLimiter} {rule : RateLimitRule}
    {clock opens length : ℚ} {charged : ℕ} {times : CheckTimes} (identitySub other : String)
    (ordered : times.From clock) (configured : limiter.perIdentityRule = rule)
    (accounted
      : KeyAccounted limiter.perIdentity other rule clock opens length charged)
    : KeyAccounted (limiter.checkIdentity times identitySub).2.perIdentity other rule
        times.read opens length
        (charged
          + ((limiter.checkIdentity times identitySub).1.allowed
              && (identitySub = other && inWindow opens length times.acquired)).toNat) := by
  subst configured
  by_cases same : identitySub = other
  · subst same
    rw [decide_eq_true rfl, Bool.true_and]
    exact accounted.check ordered
  · rw [decide_eq_false same, Bool.false_and, Bool.and_false]
    exact accounted.insert_ne _ (Ne.symm same) ordered.read_from

/-- A tool check charges the checked tool and no other. -/
theorem RateLimiter.checkTool_accounted {limiter : RateLimiter} {rule : RateLimitRule}
    {clock opens length : ℚ} {charged : ℕ} {times : CheckTimes} (toolName other : String)
    (ordered : times.From clock) (configured : limiter.perToolRules.lookup other = some rule)
    (accounted : KeyAccounted limiter.perTool other rule clock opens length charged)
    : KeyAccounted (limiter.checkTool times toolName).2.perTool other rule times.read opens
        length
        (charged
          + ((limiter.checkTool times toolName).1.any (fun result => result.allowed)
              && (toolName = other && inWindow opens length times.acquired)).toNat) := by
  by_cases same : toolName = other
  · subst same
    unfold RateLimiter.checkTool
    rw [configured, decide_eq_true rfl, Bool.true_and]
    exact accounted.check ordered
  · rw [decide_eq_false same, Bool.false_and, Bool.and_false]
    unfold RateLimiter.checkTool
    cases limiter.perToolRules.lookup toolName with
    | none => exact accounted.later ordered.read_from
    | some other' => exact accounted.insert_ne _ (Ne.symm same) ordered.read_from

-----------------------------------------------------------------------------------------
-- The account of a whole run
-----------------------------------------------------------------------------------------

/-- The allowed requests after one more section. -/
theorem allowedRequests_snoc (trace : LimiterTrace) (event : LimiterEvent)
    (output : LimiterOutput)
    : allowedRequests (trace ++ [(event, output)])
      = allowedRequests trace
        ++ match output with
          | .request answered => if answered.result.allowed then [answered] else []
          | _ => [] := by
  unfold allowedRequests
  rw [List.filterMap_append]
  cases output with
  | request answered => cases allowed : answered.result.allowed <;> simp [allowed]
  | passed => rfl
  | tool => rfl

/-- The allowed tool checks after one more section. -/
theorem allowedTools_snoc (trace : LimiterTrace) (event : LimiterEvent)
    (output : LimiterOutput)
    : allowedTools (trace ++ [(event, output)])
      = allowedTools trace
        ++ match output with
          | .tool answered =>
              if answered.result.any (fun result => result.allowed) then [answered] else []
          | _ => [] := by
  unfold allowedTools
  rw [List.filterMap_append]
  cases output with
  | tool answered =>
      cases allowed : answered.result.any (fun result => result.allowed) <;> simp [allowed]
  | passed => rfl
  | request => rfl

/-- Only an answered request adds to the allowed requests. -/
@[simp]
theorem allowedRequests_passed (trace : LimiterTrace) (event : LimiterEvent)
    (request : PassedRequest)
    : allowedRequests (trace ++ [(event, .passed request)]) = allowedRequests trace := by
  rw [allowedRequests_snoc, List.append_nil]

@[simp]
theorem allowedRequests_tool (trace : LimiterTrace) (event : LimiterEvent)
    (answered : AnsweredTool)
    : allowedRequests (trace ++ [(event, .tool answered)]) = allowedRequests trace := by
  rw [allowedRequests_snoc, List.append_nil]

/-- Only a tool check adds to the allowed tool checks. -/
@[simp]
theorem allowedTools_request (trace : LimiterTrace) (event : LimiterEvent)
    (answered : AnsweredRequest)
    : allowedTools (trace ++ [(event, .request answered)]) = allowedTools trace := by
  rw [allowedTools_snoc, List.append_nil]

@[simp]
theorem allowedTools_passed (trace : LimiterTrace) (event : LimiterEvent)
    (request : PassedRequest)
    : allowedTools (trace ++ [(event, .passed request)]) = allowedTools trace := by
  rw [allowedTools_snoc, List.append_nil]

/-- One more element counts when it is kept and satisfies the predicate. -/
theorem countP_append_kept {α : Type} (counted : α → Bool) (list : List α) (kept : Bool)
    (last : α)
    : (list ++ if kept then [last] else []).countP counted
      = list.countP counted + (kept && counted last).toNat := by
  rw [List.countP_append]
  cases kept with
  | true => cases counts : counted last <;> simp [counts]
  | false => rfl

/-- Every tier's charges for the allowed calls of the trace are accounted. The global tier
has also charged the requests that still wait for the identity tier.
-/
structure LimiterState.Accounted (config : RateLimitConfig) (opens length : ℚ)
    (trace : LimiterTrace) (state : LimiterState)
    : Prop where
  globalRule : state.limiter.globalRule = config.global
  perIdentityRule : state.limiter.perIdentityRule = config.perIdentity
  perToolRules : state.limiter.perToolRules = config.perTool
  global
    : state.limiter.global.Accounted config.global state.globalClock opens length
        ((allowedRequests trace).countP (AnsweredRequest.globalWithin opens length)
          + state.passed.countP (PassedRequest.globalWithin opens length))
  identity
    : ∀ identitySub,
        KeyAccounted state.limiter.perIdentity identitySub config.perIdentity
          state.identityClock opens length
          ((allowedRequests trace).countP
            (AnsweredRequest.identityWithin opens length identitySub))
  tool
    : ∀ toolName rule,
        config.perTool.lookup toolName = some rule
        → KeyAccounted state.limiter.perTool toolName rule state.toolClock opens length
            ((allowedTools trace).countP (AnsweredTool.within opens length toolName))

theorem LimiterState.initial_accounted (config : RateLimitConfig) (now opens : ℚ)
    {length : ℚ} (span : 0 ≤ length)
    : (LimiterState.initial now config).Accounted config opens length [] where
  globalRule := rfl
  perIdentityRule := rfl
  perToolRules := rfl
  global := TokenBucket.new_accounted config.global now opens span
  identity := fun identitySub => .empty identitySub config.perIdentity now opens span
  tool := fun toolName rule _ => .empty toolName rule now opens span

/-- Removing a waiting request removes its own charge from the count. -/
theorem countP_waiting {passed : List PassedRequest} {index : Nat} {request : PassedRequest}
    (waiting : passed[index]? = some request) (counted : PassedRequest → Bool)
    : passed.countP counted
      = (passed.eraseIdx index).countP counted + (counted request).toNat := by
  obtain ⟨bound, rfl⟩ := List.getElem?_eq_some_iff.mp waiting
  rw [← (List.getElem_cons_eraseIdx_perm bound).countP_eq counted, List.countP_cons]
  cases counted passed[index] <;> rfl

/-- A charge that moves from what waits to what is answered, if it is kept, adds none. -/
theorem moved_charge_le (answered waiting : ℕ) (kept charged : Bool)
    : answered + (kept && charged).toNat + waiting
      ≤ answered + (waiting + charged.toNat) := by
  cases kept with
  | true =>
      rw [Bool.true_and, Nat.add_right_comm, Nat.add_assoc]
  | false =>
      rw [Bool.false_and, Bool.toNat_false]
      exact Nat.add_le_add_left (Nat.le_add_right _ _) _

/-- One section under a lock keeps the accounts. -/
theorem LimiterTransition.accounted {config : RateLimitConfig} {opens length : ℚ}
    {trace : LimiterTrace} {state next : LimiterState} {event : LimiterEvent}
    {output : LimiterOutput} (transition : LimiterTransition state event next output)
    (accounted : state.Accounted config opens length trace)
    : next.Accounted config opens length (trace ++ [(event, output)]) := by
  obtain ⟨globalRule, perIdentityRule, perToolRules, global, identity, tool⟩ := accounted
  cases transition with
  | refuse identitySub times ordered refused =>
      have charged := RateLimiter.checkGlobal_accounted ordered globalRule global
      rw [refused, Bool.false_and] at charged
      refine ⟨globalRule, perIdentityRule, perToolRules, ?_, ?_, ?_⟩
      · rw [allowedRequests_snoc, countP_append_kept, refused, Bool.false_and]
        exact charged
      · intro other
        rw [allowedRequests_snoc, countP_append_kept, refused, Bool.false_and]
        exact identity other
      · simp only [allowedTools_request]
        exact tool
  | pass identitySub times ordered allowed =>
      have charged := RateLimiter.checkGlobal_accounted ordered globalRule global
      rw [allowed, Bool.true_and] at charged
      refine ⟨globalRule, perIdentityRule, perToolRules, ?_, ?_, ?_⟩
      · have waiting := countP_append_kept (PassedRequest.globalWithin opens length)
          state.passed true { identitySub, globalTimes := times }
        rw [Bool.true_and, if_pos rfl] at waiting
        rw [allowedRequests_passed, waiting, ← Nat.add_assoc]
        exact charged
      · simp only [allowedRequests_passed]
        exact identity
      · simp only [allowedTools_passed]
        exact tool
  | answer index times request waiting ordered after =>
      refine ⟨globalRule, perIdentityRule, perToolRules, ?_, ?_, ?_⟩
      · -- The request moves its charge from the waiting list to the answers, or drops it.
        rw [countP_waiting waiting] at global
        rw [allowedRequests_snoc, countP_append_kept]
        exact global.mono (moved_charge_le _ _ _ _)
      · intro other
        rw [allowedRequests_snoc, countP_append_kept]
        exact RateLimiter.checkIdentity_accounted request.identitySub other ordered
          perIdentityRule (identity other)
      · simp only [allowedTools_request]
        exact tool
  | tool toolName times ordered =>
      rw [RateLimiter.checkTool_frame]
      refine ⟨globalRule, perIdentityRule, perToolRules, ?_, ?_, ?_⟩
      · simp only [allowedRequests_tool]
        exact global
      · simp only [allowedRequests_tool]
        exact identity
      · intro other rule configured
        rw [allowedTools_snoc, countP_append_kept]
        exact RateLimiter.checkTool_accounted toolName other ordered
          ((congrArg (AList.lookup other) perToolRules).trans configured)
          (tool other rule configured)

/-- The accounts hold in every state a schedule can reach. -/
theorem rateLimiting_accounted {config : RateLimitConfig} {now : ℚ} {trace : LimiterTrace}
    {state : LimiterState} (opens : ℚ) {length : ℚ} (span : 0 ≤ length)
    (run : rateLimiting.Run (.initial now config) trace state)
    : state.Accounted config opens length trace :=
  run.history (LimiterState.Accounted config opens length)
    (LimiterState.initial_accounted config now opens span)
    (fun _ _ _ _ _ _ accounted stepped =>
      (limiterStep_transition stepped).accounted accounted)

-----------------------------------------------------------------------------------------
-- Tool checks and request checks
-----------------------------------------------------------------------------------------

/-- The state without what tool checks leave in it, their clock reading `now`. -/
def LimiterState.withoutTools (now : ℚ) (state : LimiterState) : LimiterState :=
  { state with limiter := { state.limiter with perTool := ∅ }, toolClock := now }

def LimiterEvent.isTool : LimiterEvent → Bool
  | .tool _ _ => true
  | _ => false

/-- A request section does the same without what tool checks left. -/
theorem LimiterTransition.withoutTools {state next : LimiterState} {event : LimiterEvent}
    {output : LimiterOutput} (now : ℚ) (kind : event.isTool = false)
    (transition : LimiterTransition state event next output)
    : LimiterTransition (state.withoutTools now) event (next.withoutTools now) output := by
  cases transition with
  | refuse identitySub times ordered refused =>
      exact @LimiterTransition.refuse (state.withoutTools now) identitySub times ordered refused
  | pass identitySub times ordered allowed =>
      exact @LimiterTransition.pass (state.withoutTools now) identitySub times ordered allowed
  | answer index times request waiting ordered after =>
      exact
        @LimiterTransition.answer (state.withoutTools now) index times request waiting ordered
          after
  | tool toolName times ordered => contradiction

/-- A tool section leaves nothing but what tool checks leave. -/
theorem LimiterTransition.tool_withoutTools {state next : LimiterState}
    {event : LimiterEvent} {output : LimiterOutput} (now : ℚ) (tool : event.isTool = true)
    (transition : LimiterTransition state event next output)
    : next.withoutTools now = state.withoutTools now := by
  cases transition with
  | tool toolName times ordered =>
      rw [RateLimiter.checkTool_frame]
      rfl
  | refuse => contradiction
  | pass => contradiction
  | answer => contradiction

/-- A schedule without its tool checks is a schedule with the same answers to the request
checks, by induction on the run.
-/
theorem rateLimiting_withoutTools {start finish : LimiterState} {trace : LimiterTrace}
    (now : ℚ) (run : rateLimiting.Run start trace finish)
    : rateLimiting.Run (start.withoutTools now)
        (trace.filter (fun entry => !entry.1.isTool)) (finish.withoutTools now) := by
  induction run with
  | nil => exact .nil _
  | @snoc middle finish trace event output run next ih =>
      have transition := limiterStep_transition next
      rw [List.filter_append]
      cases kind : event.isTool with
      | true =>
          rw [List.filter_cons_of_neg (by simp [kind]), List.filter_nil, List.append_nil,
            transition.tool_withoutTools now kind]
          exact ih
      | false =>
          rw [List.filter_cons_of_pos (by simp [kind]), List.filter_nil]
          exact ih.snoc (transition.withoutTools now kind).step

-----------------------------------------------------------------------------------------
-- The bound in every window
-----------------------------------------------------------------------------------------

/-- Under every schedule of the limiter's locks, whatever window is looked at, no tier
allows more than its burst and what its rate adds over the window, and the request checks
are answered as in the same schedule without the tool checks.
-/
theorem rateLimits_bound {config : RateLimitConfig} {now : ℚ} {trace : LimiterTrace}
    {finish : LimiterState} (run : rateLimiting.Run (.initial now config) trace finish)
    : (∀ opens length : ℚ,
        0 ≤ length
        → ((allowedRequests trace).countP (AnsweredRequest.globalWithin opens length) : ℚ)
            ≤ config.global.burst.toNat
              + config.global.requestsPerMinute.toNat * length / 60
          ∧ (∀ identitySub,
              ((allowedRequests trace).countP
                  (AnsweredRequest.identityWithin opens length identitySub) : ℚ)
                ≤ config.perIdentity.burst.toNat
                  + config.perIdentity.requestsPerMinute.toNat * length / 60)
          ∧ (∀ toolName rule,
              config.perTool.lookup toolName = some rule
              → ((allowedTools trace).countP (AnsweredTool.within opens length toolName) : ℚ)
                  ≤ rule.burst.toNat + rule.requestsPerMinute.toNat * length / 60))
      ∧ ∃ finish',
          rateLimiting.Run (.initial now config)
            (trace.filter (fun entry => !entry.1.isTool)) finish' := by
  refine ⟨?_, _, rateLimiting_withoutTools now run⟩
  intro opens length span
  have accounted := rateLimiting_accounted opens span run
  have allowance (rule : RateLimitRule)
      : rule.capacity + rule.refillRate * (opens + length - opens)
        = rule.burst.toNat + rule.requestsPerMinute.toNat * length / 60 := by
    unfold RateLimitRule.capacity RateLimitRule.refillRate
    ring
  refine ⟨?_, ?_, ?_⟩
  · rw [← allowance]
    have fewer := accounted.global.mono (Nat.le_add_right _ _)
    exact fewer.account.bounded
  · intro identitySub
    rw [← allowance]
    exact (accounted.identity identitySub _ le_rfl).account.bounded
  · intro toolName rule configured
    rw [← allowance]
    exact (accounted.tool toolName rule configured _ le_rfl).account.bounded

def CheckTimes.instant (reading : ℚ) : CheckTimes :=
  ⟨reading, reading, reading⟩

/-- One request a minute for each identity, and no bursts. -/
def tightConfig : RateLimitConfig :=
  {
    global := { requestsPerMinute := 60, burst := 2 }
    perIdentity := { requestsPerMinute := 60, burst := 1 }
    perTool := AList.singleton "search" { requestsPerMinute := 10, burst := 1 }
  }

/-- Two requests of one identity meet between the locks, with two tool checks in between. -/
def contendedEvents : List LimiterEvent :=
  [.global "ada" (.instant 0), .global "ada" (.instant 0), .tool "search" (.instant 0),
    .identity 1 (.instant 1), .tool "search" (.instant 1), .identity 0 (.instant 1)]

def contendedTrace : LimiterTrace :=
  rateLimiting.traceOf (.initial 0 tightConfig) contendedEvents

theorem rateLimits_bound_contended
    : (allowedRequests contendedTrace).countP (AnsweredRequest.identityWithin 0 1 "ada") = 1
      ∧ ((allowedRequests contendedTrace).countP
            (AnsweredRequest.identityWithin 0 1 "ada") : ℚ)
          ≤ (1 : UInt32).toNat + (60 : UInt32).toNat * 1 / 60 := by
  have enabled
      : (rateLimiting.exec (.initial 0 tightConfig) contendedEvents).isSome = true := by
    decide +kernel
  have run := Machine.traceOf_run enabled
  refine ⟨by decide +kernel, ?_⟩
  exact ((rateLimits_bound run).1 0 1 zero_le_one).2.1 "ada"

end Intellisphere.Sphere
