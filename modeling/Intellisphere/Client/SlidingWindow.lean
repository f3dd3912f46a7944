import Intellisphere.Client.ToolProposal
import Intellisphere.Foundation.Machine
import Intellisphere.Foundation.SlidingWindow
import Mathlib.Algebra.Order.Field.Rat
import Mathlib.Tactic.Linarith

/-! The rate limit of the satellite client. The guardrails forget the invocations that have
left the window; they decide as if they remembered all of them, for each tool by itself.
-/

namespace Intellisphere.Client

open Intellisphere.Foundation Intellisphere.Foundation.Js

-----------------------------------------------------------------------------------------
-- Calls of the guardrails, and what a full history says about them
-----------------------------------------------------------------------------------------

structure Invocation where
  now : Int
  toolName : String
  deriving DecidableEq

/-- The guardrails with the clock reading of their last call. -/
structure PreValidation where
  guardrails : SatelliteGuardrails
  clock : Int

abbrev InvocationTrace :=
  List (Invocation × Option String)

/-- The guardrails answer calls at nondecreasing clock readings, each with the reason of a
rejection or with none.
-/
def preValidations (platform : Platform)
    : Machine PreValidation Invocation (Option String) where
  step state call :=
    if call.now < state.clock then none
    else
      let (guardrails, rejection) :=
        state.guardrails.preValidate platform call.now call.toolName
      some ({ guardrails, clock := call.now }, rejection)

/-- The times of the calls of a tool that were accepted, from the first to the last. -/
def acceptedTimes (trace : InvocationTrace) (toolName : String) : List Int :=
  trace.filterMap fun entry =>
    if entry.1.toolName = toolName ∧ entry.2 = none then some entry.1.now else none

/-- The time lies in `(start, stop]`. -/
def isBetween (start : Number) (stop : ℚ) (time : Int) : Bool :=
  start.lt (.finite time) && decide (time ≤ stop)

/-- How many accepted calls of a tool lie in `(start, stop]`. -/
def acceptedBetween (trace : InvocationTrace) (toolName : String) (start : Number)
    (stop : ℚ)
    : Nat :=
  ((acceptedTimes trace toolName).filter (isBetween start stop)).length

/-- `stop - windowMs` without rounding, where the window that ends at `stop` begins. -/
def windowStart (windowMs : Number) (stop : ℚ) : Number :=
  match windowMs with
  | .finite length => .finite (stop - length)
  | .nan => .nan
  | .infinity => .negInfinity
  | .negInfinity => .infinity

/-- Where the window of a call begins is a number itself, at every call. -/
def ExactStarts (windowMs : Number) (trace : InvocationTrace) : Prop :=
  ∀ entry ∈ trace,
    (Number.finite entry.1.now).sub windowMs = windowStart windowMs entry.1.now

/-- The calls of one tool. -/
def callsOf (toolName : String) (trace : InvocationTrace) : InvocationTrace :=
  trace.filter (fun entry => entry.1.toolName = toolName)

/-- The calls of `trace`, which began with fresh guardrails, were limited as by the full
history: each listed one was accepted if fewer than the limit were accepted in the window
that ends with it, so that no window holds more than a whole number that reaches the limit;
and the calls of a tool went as they do without the others. Windows begin at the number
nearest to their beginning, which makes no difference where that is a number itself. No
number is fewer than NaN, and yet NaN limits nothing.
-/
structure RateLimited (platform : Platform) (config : GuardrailsConfig) (clock : Int)
    (trace : InvocationTrace)
    : Prop where
  decided (earlier : InvocationTrace) (call : Invocation) (rejection : Option String)
    (later : InvocationTrace) (split : trace = earlier ++ (call, rejection) :: later)
    (listed : call.toolName ∈ config.allowedTools)
    : rejection = none
      ↔ (SatelliteGuardrails.new config).rateLimitPerTool = .nan
        ∨ (Number.finite
            (acceptedBetween earlier call.toolName
              ((Number.finite call.now).sub (SatelliteGuardrails.new config).rateLimitWindowMs)
              call.now)).lt
            (SatelliteGuardrails.new config).rateLimitPerTool = true
  bounded (toolName : String) (stop : ℚ) (capacity : Nat)
    (enough
      : (SatelliteGuardrails.new config).rateLimitPerTool.le (.finite capacity) = true)
    : acceptedBetween trace toolName
          ((Number.finite stop).sub (SatelliteGuardrails.new config).rateLimitWindowMs) stop
      ≤ capacity
  unrounded (toolName : String) (stop : ℚ) (capacity : Nat)
    (starts : ExactStarts (SatelliteGuardrails.new config).rateLimitWindowMs trace)
    (enough
      : (SatelliteGuardrails.new config).rateLimitPerTool.le (.finite capacity) = true)
    : acceptedBetween trace toolName
          (windowStart (SatelliteGuardrails.new config).rateLimitWindowMs stop) stop
      ≤ capacity
  separate (toolName : String)
    : ∃ finish,
        (preValidations platform).Run ⟨.new config, clock⟩ (callsOf toolName trace) finish

-----------------------------------------------------------------------------------------
-- The window of the guardrails
-----------------------------------------------------------------------------------------

theorem isBetween_iff (start : Number) (stop : ℚ) (time : Int)
    : isBetween start stop time = true ↔ start.lt (.finite time) = true ∧ time ≤ stop := by
  simp [isBetween]

/-- What comes after the cutoff of some time comes after that of an earlier one. -/
theorem cutoff_mono (windowMs : Number) {first last time : ℚ} (order : first ≤ last)
    (after : ((Number.finite last).sub windowMs).lt (.finite time) = true)
    : ((Number.finite first).sub windowMs).lt (.finite time) = true := by
  cases windowMs with
  | finite length => exact Number.nearest_lt_of_le (sub_le_sub_right order length) after
  | nan => simp [Number.sub, Number.lt] at after
  | infinity => rfl
  | negInfinity => simp [Number.sub, Number.lt] at after

/-- Likewise for where windows begin. -/
theorem windowStart_mono (windowMs : Number) {first last time : ℚ} (order : first ≤ last)
    (after : (windowStart windowMs last).lt (.finite time) = true)
    : (windowStart windowMs first).lt (.finite time) = true := by
  cases windowMs with
  | finite length =>
      simp only [windowStart, Number.lt, decide_eq_true_eq] at after ⊢
      linarith
  | nan => simp [windowStart, Number.lt] at after
  | infinity => rfl
  | negInfinity => simp [windowStart, Number.lt] at after

/-- The furthest from 1970 that a clock reads, a hundred million days in milliseconds. -/
def maxTimeValue : Int :=
  8640000000000000

/-- For clock readings and a window of a whole number of milliseconds, of less than eight
thousand years, the beginning of the window is exact.
-/
theorem sub_eq_windowStart {now length : Int} (reading : |now| ≤ maxTimeValue)
    (short : |length| ≤ 2 ^ 47)
    : (Number.finite now).sub (.finite length) = windowStart (.finite length) now := by
  have safe : |now - length| < 2 ^ 53 := by
    rw [maxTimeValue] at reading
    rw [abs_lt]
    rw [abs_le] at reading short
    omega
  rw [Number.sub, windowStart, ← Int.cast_sub]
  exact Number.nearest_intCast safe

/-- The times after the cutoff count. -/
def rateWindow (windowMs : Number) : SlidingWindow Int where
  counts now time := ((Number.finite now).sub windowMs).lt (.finite time)
  shrinks order counted := cutoff_mono windowMs (by exact_mod_cast order) counted

/-- That many invocations exhaust the limit. -/
def exhausts (rateLimit : Number) (count : Nat) : Prop :=
  rateLimit.le (.finite count) = true

theorem exhausts_mono {rateLimit : Number} {first last : Nat} (order : first ≤ last)
    (exhausted : exhausts rateLimit first)
    : exhausts rateLimit last := by
  unfold exhausts at exhausted ⊢
  cases rateLimit with
  | finite limit =>
      simp only [Number.le, Number.lt, Bool.or_eq_true, decide_eq_true_eq,
        Number.finite.injEq] at exhausted ⊢
      have cast : (first : ℚ) ≤ last := by exact_mod_cast order
      exact lt_or_eq_of_le ((le_of_lt_or_eq exhausted).trans cast)
  | nan => simp [Number.le] at exhausted
  | infinity => simp [Number.le, Number.lt] at exhausted
  | negInfinity => rfl

/-- A limit is not exhausted if there are fewer invocations, or if it is NaN. -/
theorem not_exhausts_iff (rateLimit : Number) (count : Nat)
    : ¬exhausts rateLimit count
      ↔ rateLimit = .nan ∨ (Number.finite count).lt rateLimit = true := by
  unfold exhausts
  cases rateLimit with
  | finite limit =>
      simp only [Number.le, Number.lt, Bool.or_eq_true, decide_eq_true_eq,
        Number.finite.injEq, reduceCtorEq, false_or]
      rw [← le_iff_lt_or_eq, not_le]
  | _ => simp [Number.le, Number.lt]

/-- Up to the present, the window is what comes after the cutoff. -/
theorem filter_isBetween_eq_prune (windowMs : Number) (now : Int) (log : List Int)
    (order : ∀ time ∈ log, time ≤ now)
    : log.filter (isBetween ((Number.finite now).sub windowMs) now)
      = (rateWindow windowMs).prune now log := by
  refine List.filter_congr fun time member => ?_
  have upTo : (time : ℚ) ≤ now := by exact_mod_cast order time member
  simp [isBetween, rateWindow, upTo]

-----------------------------------------------------------------------------------------
-- What a call does
-----------------------------------------------------------------------------------------

/-- The recent invocations the guardrails remember of a tool. -/
def SatelliteGuardrails.remembered (guardrails : SatelliteGuardrails) (toolName : String)
    : List Int :=
  (guardrails.buckets.lookup toolName).getD []

/-- The guardrails with other invocations of a tool remembered. -/
def SatelliteGuardrails.remember (guardrails : SatelliteGuardrails) (toolName : String)
    (times : List Int) : SatelliteGuardrails :=
  { guardrails with buckets := guardrails.buckets.insert toolName times }

@[simp]
theorem remembered_remember (guardrails : SatelliteGuardrails) (toolName : String)
    (times : List Int)
    : (guardrails.remember toolName times).remembered toolName = times := by
  simp [SatelliteGuardrails.remembered, SatelliteGuardrails.remember]

theorem remembered_remember_of_ne (guardrails : SatelliteGuardrails) {toolName other : String}
    (times : List Int) (different : other ≠ toolName)
    : (guardrails.remember toolName times).remembered other
      = guardrails.remembered other := by
  simp [SatelliteGuardrails.remembered, SatelliteGuardrails.remember,
    AList.lookup_insert_ne different]

/-- The invocations of a tool that are remembered and still count. -/
def SatelliteGuardrails.recent (guardrails : SatelliteGuardrails) (now : Int)
    (toolName : String) : List Int :=
  (rateWindow guardrails.rateLimitWindowMs).prune now (guardrails.remembered toolName)

/-- A call is not listed and changes nothing; or the limit is exhausted and what no longer
counts is forgotten; or the call is accepted and remembered.
-/
inductive PreValidated (guardrails : SatelliteGuardrails) (now : Int) (toolName : String)
    : SatelliteGuardrails → Option String → Prop where
  | unlisted (text : String) (absent : toolName ∉ guardrails.allowedTools)
    : PreValidated guardrails now toolName guardrails (some text)
  | limited (text : String) (listed : toolName ∈ guardrails.allowedTools)
    (exhausted
      : exhausts guardrails.rateLimitPerTool (guardrails.recent now toolName).length)
    : PreValidated guardrails now toolName
        (guardrails.remember toolName (guardrails.recent now toolName)) (some text)
  | accepted (listed : toolName ∈ guardrails.allowedTools)
    (room
      : ¬exhausts guardrails.rateLimitPerTool (guardrails.recent now toolName).length)
    : PreValidated guardrails now toolName
        (guardrails.remember toolName (guardrails.recent now toolName ++ [now])) none

theorem preValidate_preValidated (guardrails : SatelliteGuardrails) (platform : Platform)
    (now : Int) (toolName : String)
    : PreValidated guardrails now toolName
        (guardrails.preValidate platform now toolName).1
        (guardrails.preValidate platform now toolName).2 := by
  unfold SatelliteGuardrails.preValidate
  split
  next absent => exact .unlisted _ absent
  next listed =>
    dsimp only
    split
    next exhausted => exact .limited _ (not_not.mp listed) exhausted
    next room => exact .accepted (not_not.mp listed) room

/-- An enabled call comes no earlier than the last one, and goes in one of these ways. -/
theorem preValidations_step {platform : Platform} {state next : PreValidation}
    {call : Invocation} {rejection : Option String}
    (stepped : (preValidations platform).step state call = some (next, rejection))
    : state.clock ≤ call.now
      ∧ next.clock = call.now
      ∧ PreValidated state.guardrails call.now call.toolName next.guardrails rejection := by
  simp only [preValidations] at stepped
  split at stepped
  · contradiction
  next order =>
    obtain ⟨rfl, rfl⟩ := Prod.mk.inj (Option.some.inj stepped)
    exact ⟨not_lt.mp order, rfl, preValidate_preValidated _ _ _ _⟩

-----------------------------------------------------------------------------------------
-- What is remembered is as good as the full history
-----------------------------------------------------------------------------------------

@[simp]
theorem acceptedTimes_nil (toolName : String) : acceptedTimes [] toolName = [] :=
  rfl

/-- Only an accepted call of the tool adds to its times. -/
theorem acceptedTimes_snoc (trace : InvocationTrace) (call : Invocation)
    (rejection : Option String) (toolName : String)
    : acceptedTimes (trace ++ [(call, rejection)]) toolName
      = if call.toolName = toolName ∧ rejection = none then
          acceptedTimes trace toolName ++ [call.now]
        else acceptedTimes trace toolName := by
  unfold acceptedTimes
  rw [List.filterMap_append]
  split <;> simp [*]

/-- After `trace` the guardrails have the configuration they were made with, and remember of
each tool enough of its accepted times, each of which found room when it came.
-/
structure Tracks (config : GuardrailsConfig) (trace : InvocationTrace)
    (state : PreValidation) : Prop where
  allowedTools : state.guardrails.allowedTools = config.allowedTools
  rateLimitPerTool
    : state.guardrails.rateLimitPerTool = (SatelliteGuardrails.new config).rateLimitPerTool
  rateLimitWindowMs
    : state.guardrails.rateLimitWindowMs = (SatelliteGuardrails.new config).rateLimitWindowMs
  past (toolName : String) : ∀ time ∈ acceptedTimes trace toolName, time ≤ state.clock
  retains (toolName : String)
    : (rateWindow state.guardrails.rateLimitWindowMs).Retains state.clock
        (state.guardrails.remembered toolName) (acceptedTimes trace toolName)
  admits (toolName : String)
    : (rateWindow state.guardrails.rateLimitWindowMs).Admits
        (exhausts state.guardrails.rateLimitPerTool) (acceptedTimes trace toolName)

theorem new_tracks (config : GuardrailsConfig) (clock : Int)
    : Tracks config [] ⟨.new config, clock⟩ where
  allowedTools := rfl
  rateLimitPerTool := rfl
  rateLimitWindowMs := rfl
  past _ := by simp
  retains _ := .refl _ _ _
  admits _ := .nil

/-- The recent invocations are the accepted ones that count. -/
theorem Tracks.recent_eq {config : GuardrailsConfig} {trace : InvocationTrace}
    {state : PreValidation} (tracks : Tracks config trace state) {now : Int}
    (order : state.clock ≤ now) (toolName : String)
    : state.guardrails.recent now toolName
      = (rateWindow state.guardrails.rateLimitWindowMs).prune now
          (acceptedTimes trace toolName) :=
  tracks.retains toolName now order

/-- A rejected call leaves the accepted times as they are; what is remembered of its tool may
be pruned.
-/
theorem Tracks.rejected {config : GuardrailsConfig} {trace : InvocationTrace}
    {state : PreValidation} (tracks : Tracks config trace state) {call : Invocation}
    (order : state.clock ≤ call.now) (text : String)
    : Tracks config (trace ++ [(call, some text)]) ⟨state.guardrails, call.now⟩
      ∧ Tracks config (trace ++ [(call, some text)])
          ⟨state.guardrails.remember call.toolName
              (state.guardrails.recent call.now call.toolName), call.now⟩ := by
  have same (toolName : String)
      : acceptedTimes (trace ++ [(call, some text)]) toolName
        = acceptedTimes trace toolName := by
    simp [acceptedTimes_snoc]
  have past (toolName : String)
      : ∀ time ∈ acceptedTimes (trace ++ [(call, some text)]) toolName,
          time ≤ call.now := by
    intro time member
    exact (tracks.past toolName time (by rwa [same] at member)).trans order
  have admits (toolName : String) := tracks.admits toolName
  simp only [← same] at admits
  refine ⟨⟨tracks.allowedTools, tracks.rateLimitPerTool, tracks.rateLimitWindowMs, past,
    fun toolName => ?_, admits⟩, ⟨tracks.allowedTools, tracks.rateLimitPerTool,
    tracks.rateLimitWindowMs, past, fun toolName => ?_, admits⟩⟩
  · rw [same]
    exact (tracks.retains toolName).mono order
  · rw [same]
    by_cases own : toolName = call.toolName
    · subst own
      rw [remembered_remember]
      exact ((tracks.retains call.toolName).mono order).prune
    · rw [remembered_remember_of_ne _ _ own]
      exact (tracks.retains toolName).mono order

/-- An accepted call is remembered, and found room among the times that count. -/
theorem Tracks.accepted {config : GuardrailsConfig} {trace : InvocationTrace}
    {state : PreValidation} (tracks : Tracks config trace state) {call : Invocation}
    (order : state.clock ≤ call.now)
    (room
      : ¬exhausts state.guardrails.rateLimitPerTool
          (state.guardrails.recent call.now call.toolName).length)
    : Tracks config (trace ++ [(call, none)])
        ⟨state.guardrails.remember call.toolName
            (state.guardrails.recent call.now call.toolName ++ [call.now]), call.now⟩ := by
  have grown
      : acceptedTimes (trace ++ [(call, none)]) call.toolName
        = acceptedTimes trace call.toolName ++ [call.now] := by
    simp [acceptedTimes_snoc]
  have same {toolName : String} (other : toolName ≠ call.toolName)
      : acceptedTimes (trace ++ [(call, none)]) toolName = acceptedTimes trace toolName := by
    simp [acceptedTimes_snoc, other.symm]
  have past (toolName : String) : ∀ time ∈ acceptedTimes trace toolName, time ≤ call.now :=
    fun time member => (tracks.past toolName time member).trans order
  refine ⟨tracks.allowedTools, tracks.rateLimitPerTool, tracks.rateLimitWindowMs,
    fun toolName => ?_, fun toolName => ?_, fun toolName => ?_⟩ <;>
    by_cases own : toolName = call.toolName
  · subst own
    rw [grown]
    intro time member
    rcases List.mem_append.mp member with earlier | last
    · exact past call.toolName time earlier
    · exact (List.mem_singleton.mp last).le
  · rw [same own]
    exact past toolName
  · subst own
    rw [grown, remembered_remember]
    exact ((tracks.retains call.toolName).mono order).prune.append call.now
  · rw [same own, remembered_remember_of_ne _ _ own]
    exact (tracks.retains toolName).mono order
  · subst own
    rw [grown]
    rw [tracks.recent_eq order] at room
    exact .snoc _ _ (tracks.admits call.toolName) (past call.toolName) room
  · rw [same own]
    exact tracks.admits toolName

theorem Tracks.step {platform : Platform} {config : GuardrailsConfig}
    {trace : InvocationTrace} {state next : PreValidation} {call : Invocation}
    {rejection : Option String} (tracks : Tracks config trace state)
    (stepped : (preValidations platform).step state call = some (next, rejection))
    : Tracks config (trace ++ [(call, rejection)]) next := by
  obtain ⟨guardrails, clock⟩ := next
  obtain ⟨order, rfl, validated⟩ := preValidations_step stepped
  cases validated with
  | unlisted text absent => exact (tracks.rejected order text).1
  | limited text listed exhausted => exact (tracks.rejected order text).2
  | accepted listed room => exact tracks.accepted order room

theorem run_tracks {platform : Platform} {config : GuardrailsConfig} {clock : Int}
    {trace : InvocationTrace} {finish : PreValidation}
    (run : (preValidations platform).Run ⟨.new config, clock⟩ trace finish)
    : Tracks config trace finish :=
  run.history (Tracks config) (new_tracks config clock)
    (fun _ _ _ _ _ _ tracks stepped => tracks.step stepped)

/-- A listed call is decided by the accepted calls in the window that ends with it. -/
theorem Tracks.decides {platform : Platform} {config : GuardrailsConfig}
    {trace : InvocationTrace} {state next : PreValidation} {call : Invocation}
    {rejection : Option String} (tracks : Tracks config trace state)
    (stepped : (preValidations platform).step state call = some (next, rejection))
    (listed : call.toolName ∈ config.allowedTools)
    : rejection = none
      ↔ ¬exhausts (SatelliteGuardrails.new config).rateLimitPerTool
          (acceptedBetween trace call.toolName
            ((Number.finite call.now).sub (SatelliteGuardrails.new config).rateLimitWindowMs)
            call.now) := by
  obtain ⟨order, _, validated⟩ := preValidations_step stepped
  have counted
      : (state.guardrails.recent call.now call.toolName).length
        = acceptedBetween trace call.toolName
            ((Number.finite call.now).sub (SatelliteGuardrails.new config).rateLimitWindowMs)
            call.now := by
    unfold acceptedBetween
    rw [tracks.recent_eq order, tracks.rateLimitWindowMs, filter_isBetween_eq_prune]
    exact fun time member => (tracks.past call.toolName time member).trans order
  rw [← counted, ← tracks.rateLimitPerTool]
  generalize next.guardrails = guardrails at validated
  cases validated with
  | unlisted text absent => exact (absent (tracks.allowedTools ▸ listed)).elim
  | limited text _ exhausted => simp [exhausted]
  | accepted _ room => simp [room]

/-- Only calls of a trace count among its accepted times. -/
theorem exists_of_mem_acceptedTimes {trace : InvocationTrace} {toolName : String} {time : Int}
    (member : time ∈ acceptedTimes trace toolName)
    : ∃ entry ∈ trace, entry.1.now = time := by
  obtain ⟨entry, inside, accepted⟩ := List.mem_filterMap.mp member
  split at accepted
  · exact ⟨entry, inside, Option.some.inj accepted⟩
  · contradiction

/-- No stretch of time holds more accepted calls of a tool than exhaust the limit, if the
window of a call in it contains all those before it.
-/
theorem Tracks.bounds {config : GuardrailsConfig} {trace : InvocationTrace}
    {state : PreValidation} (tracks : Tracks config trace state) (toolName : String)
    (start : Number) (stop : ℚ) (capacity : Nat)
    (enough : exhausts (SatelliteGuardrails.new config).rateLimitPerTool capacity)
    (short
      : ∀ first last : Int,
          last ∈ acceptedTimes trace toolName
          → start.lt (.finite first) = true
          → (last : ℚ) ≤ stop
          → ((Number.finite last).sub (SatelliteGuardrails.new config).rateLimitWindowMs).lt
              (.finite first)
            = true)
    : acceptedBetween trace toolName start stop ≤ capacity := by
  have admits := tracks.admits toolName
  rw [tracks.rateLimitPerTool, tracks.rateLimitWindowMs] at admits
  refine admits.stretch_length_le capacity (fun _ order => exhausts_mono order enough) _ ?_
  intro first _ last member _ inside also
  exact short first last member ((isBetween_iff _ _ _).mp inside).1
    ((isBetween_iff _ _ _).mp also).2

/-- Windows as the guardrails begin them: that of a call begins no later than one that ends
after it.
-/
theorem Tracks.bounds_rounded {config : GuardrailsConfig} {trace : InvocationTrace}
    {state : PreValidation} (tracks : Tracks config trace state) (toolName : String)
    (stop : ℚ) (capacity : Nat)
    (enough : exhausts (SatelliteGuardrails.new config).rateLimitPerTool capacity)
    : acceptedBetween trace toolName
          ((Number.finite stop).sub (SatelliteGuardrails.new config).rateLimitWindowMs) stop
      ≤ capacity :=
  tracks.bounds toolName _ stop capacity enough
    (fun _ _ _ inside order => cutoff_mono _ order inside)

/-- Windows as they are, where those of all calls are exact. -/
theorem Tracks.bounds_exact {config : GuardrailsConfig} {trace : InvocationTrace}
    {state : PreValidation} (tracks : Tracks config trace state)
    (starts : ExactStarts (SatelliteGuardrails.new config).rateLimitWindowMs trace)
    (toolName : String) (stop : ℚ) (capacity : Nat)
    (enough : exhausts (SatelliteGuardrails.new config).rateLimitPerTool capacity)
    : acceptedBetween trace toolName
          (windowStart (SatelliteGuardrails.new config).rateLimitWindowMs stop) stop
      ≤ capacity := by
  refine tracks.bounds toolName _ stop capacity enough ?_
  intro first last member inside order
  obtain ⟨entry, recorded, rfl⟩ := exists_of_mem_acceptedTimes member
  rw [starts entry recorded]
  exact windowStart_mono _ order inside

-----------------------------------------------------------------------------------------
-- One tool does not affect another
-----------------------------------------------------------------------------------------

/-- The two have the same configuration and remember the same of one tool. -/
structure SameFor (toolName : String) (left right : SatelliteGuardrails) : Prop where
  allowedTools : left.allowedTools = right.allowedTools
  rateLimitPerTool : left.rateLimitPerTool = right.rateLimitPerTool
  rateLimitWindowMs : left.rateLimitWindowMs = right.rateLimitWindowMs
  remembered : left.remembered toolName = right.remembered toolName

theorem SameFor.refl (toolName : String) (guardrails : SatelliteGuardrails)
    : SameFor toolName guardrails guardrails :=
  ⟨rfl, rfl, rfl, rfl⟩

/-- What is remembered of a tool decides its calls, and what is remembered after them. -/
theorem SameFor.preValidate {toolName : String} {left right : SatelliteGuardrails}
    (same : SameFor toolName left right) (platform : Platform) (now : Int)
    : (left.preValidate platform now toolName).2
        = (right.preValidate platform now toolName).2
      ∧ SameFor toolName (left.preValidate platform now toolName).1
          (right.preValidate platform now toolName).1 := by
  have remembered := same.remembered
  unfold SatelliteGuardrails.remembered at remembered
  unfold SatelliteGuardrails.preValidate
  simp only [same.allowedTools, same.rateLimitPerTool, same.rateLimitWindowMs, remembered]
  split
  · exact ⟨rfl, same⟩
  · split <;>
      exact ⟨rfl, rfl, rfl, rfl, by simp [SatelliteGuardrails.remembered]⟩

/-- A call of another tool changes nothing for this one. -/
theorem SameFor.other {toolName : String} {left right : SatelliteGuardrails}
    (same : SameFor toolName left right) (platform : Platform) (now : Int) {other : String}
    (different : toolName ≠ other)
    : SameFor toolName (left.preValidate platform now other).1 right := by
  have validated := preValidate_preValidated left platform now other
  generalize (left.preValidate platform now other).1 = next,
    (left.preValidate platform now other).2 = rejection at validated ⊢
  cases validated with
  | unlisted text absent => exact same
  | limited text listed exhausted =>
      exact ⟨same.allowedTools, same.rateLimitPerTool, same.rateLimitWindowMs,
        (remembered_remember_of_ne left _ different).trans same.remembered⟩
  | accepted listed room =>
      exact ⟨same.allowedTools, same.rateLimitPerTool, same.rateLimitWindowMs,
        (remembered_remember_of_ne left _ different).trans same.remembered⟩

/-- The calls of one tool go as they do without the others, by induction on the run. -/
theorem callsOf_run {platform : Platform} {start finish : PreValidation}
    {trace : InvocationTrace} (run : (preValidations platform).Run start trace finish)
    (toolName : String)
    : ∃ alone,
        (preValidations platform).Run start (callsOf toolName trace) alone
        ∧ SameFor toolName finish.guardrails alone.guardrails
        ∧ alone.clock ≤ finish.clock := by
  induction run with
  | nil => exact ⟨_, .nil _, .refl toolName _, le_rfl⟩
  | @snoc middle finish trace call rejection before next ih =>
      obtain ⟨alone, run, same, clock⟩ := ih
      obtain ⟨order, _, _⟩ := preValidations_step next
      simp only [preValidations, if_neg (not_lt.mpr order)] at next
      obtain ⟨rfl, rfl⟩ := Prod.mk.inj (Option.some.inj next)
      by_cases own : call.toolName = toolName
      · subst own
        obtain ⟨answer, after⟩ := same.preValidate platform call.now
        have stepped
            : (preValidations platform).step alone call
              = some
                  (
                    {
                      guardrails :=
                        (alone.guardrails.preValidate platform call.now call.toolName).1
                      clock := call.now
                    },
                    (middle.guardrails.preValidate platform call.now call.toolName).2
                  ) := by
          simp [preValidations, not_lt.mpr (clock.trans order), answer]
        refine ⟨{ guardrails := _, clock := call.now }, ?_, after, le_rfl⟩
        simpa [callsOf] using run.snoc stepped
      · refine ⟨alone, ?_, same.other platform call.now (Ne.symm own), clock.trans order⟩
        simpa [callsOf, own] using run

/-- The sliding window of the guardrails decides as the full history does. -/
theorem preValidate_rateLimited {platform : Platform} {config : GuardrailsConfig}
    {clock : Int} {trace : InvocationTrace} {finish : PreValidation}
    (run : (preValidations platform).Run ⟨.new config, clock⟩ trace finish)
    : RateLimited platform config clock trace where
  decided earlier call rejection later split listed := by
    subst split
    obtain ⟨state, before, after⟩ := run.split earlier _
    obtain ⟨next, stepped, _⟩ := after.uncons
    rw [(run_tracks before).decides stepped listed, not_exhausts_iff]
  bounded toolName stop capacity enough :=
    (run_tracks run).bounds_rounded toolName stop capacity enough
  unrounded toolName stop capacity starts enough :=
    (run_tracks run).bounds_exact starts toolName stop capacity enough
  separate toolName := by
    obtain ⟨alone, run, _, _⟩ := callsOf_run run toolName
    exact ⟨alone, run⟩

/-- Guardrails that let a tool be invoked `limit` times in ten milliseconds. -/
def countConfig (limit : Number) : GuardrailsConfig where
  allowedTools := ["count"]
  rateLimitPerTool := some limit
  rateLimitWindowMs := some (.finite 10)

/-- What guardrails made at zero answer to calls of one tool at some times. -/
def countCalls (limit : Number) (times : List Int) : InvocationTrace :=
  (preValidations plainPlatform).traceOf ⟨.new (countConfig limit), 0⟩
    (times.map (⟨·, "count"⟩))

/-- A limit of one, with a call just inside the window of another and one at its edge. -/
theorem preValidate_rateLimited_edge
    : (countCalls (.finite 1) [0, 9, 10]).map (fun entry => entry.2.isNone)
        = [true, false, true]
      ∧ RateLimited plainPlatform (countConfig (.finite 1)) 0
          (countCalls (.finite 1) [0, 9, 10]) :=
  ⟨by decide +kernel, preValidate_rateLimited (Machine.traceOf_run (by decide +kernel))⟩

/-- Guardrails that let a tool be invoked once in a small part of a millisecond. -/
def briefConfig : GuardrailsConfig where
  allowedTools := ["count"]
  rateLimitPerTool := some (.finite 1)
  rateLimitWindowMs := some (.finite (1 / 16384))

/-- Half an invocation lets one through, which is more; NaN lets one through although no
number of invocations is fewer; and a window that begins so shortly before its end that it is
empty once rounded lets two calls through at once.
-/
theorem fractionalLimit_exceeded
    : (¬∀ (platform : Platform) (config : GuardrailsConfig) (clock : Int)
          (trace : InvocationTrace) (finish : PreValidation) (toolName : String) (stop : ℚ),
          (preValidations platform).Run ⟨.new config, clock⟩ trace finish
          → (Number.finite
              (acceptedBetween trace toolName
                (windowStart (SatelliteGuardrails.new config).rateLimitWindowMs stop)
                stop)).le
              (SatelliteGuardrails.new config).rateLimitPerTool = true)
      ∧ (¬∀ (platform : Platform) (config : GuardrailsConfig) (clock : Int)
          (earlier : InvocationTrace) (call : Invocation) (rejection : Option String)
          (finish : PreValidation),
          (preValidations platform).Run ⟨.new config, clock⟩ (earlier ++ [(call, rejection)])
            finish
          → call.toolName ∈ config.allowedTools
          → (rejection = none
            ↔ (Number.finite
                (acceptedBetween earlier call.toolName
                  (windowStart (SatelliteGuardrails.new config).rateLimitWindowMs call.now)
                  call.now)).lt
                (SatelliteGuardrails.new config).rateLimitPerTool = true))
      ∧ ¬∀ (platform : Platform) (config : GuardrailsConfig) (clock : Int)
          (trace : InvocationTrace) (finish : PreValidation) (toolName : String) (stop : ℚ)
          (capacity : Nat),
          config.rateLimitPerTool = some (.finite capacity)
          → (preValidations platform).Run ⟨.new config, clock⟩ trace finish
          → acceptedBetween trace toolName
                (windowStart (SatelliteGuardrails.new config).rateLimitWindowMs stop) stop
            ≤ capacity := by
  refine ⟨fun bounded => ?_, fun decided => ?_, fun bounded => ?_⟩
  · have exceeded := bounded plainPlatform (countConfig (.finite (1 / 2))) 0 _ _ "count" 0
      (Machine.traceOf_run
        (by decide +kernel
          : ((preValidations plainPlatform).exec ⟨.new (countConfig (.finite (1 / 2))), 0⟩
              [⟨0, "count"⟩]).isSome = true))
    exact absurd exceeded (by decide +kernel)
  · have run
        : (preValidations plainPlatform).Run ⟨.new (countConfig .nan), 0⟩
            [(⟨0, "count"⟩, none)] _ :=
      Machine.traceOf_run
        (by decide +kernel
          : ((preValidations plainPlatform).exec ⟨.new (countConfig .nan), 0⟩
              [⟨0, "count"⟩]).isSome = true)
    have fewer := (decided plainPlatform _ 0 [] _ none _ run (by decide)).mp rfl
    simp [countConfig, SatelliteGuardrails.new, Number.lt] at fewer
  · have twice := bounded plainPlatform briefConfig 0 _ _ "count" 1700000000000 1 rfl
      (Machine.traceOf_run
        (by decide +kernel
          : ((preValidations plainPlatform).exec ⟨.new briefConfig, 0⟩
              [⟨1700000000000, "count"⟩, ⟨1700000000000, "count"⟩]).isSome = true))
    exact absurd twice (by decide +kernel)

end Intellisphere.Client
