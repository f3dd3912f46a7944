import Intellisphere.Client.Timers
import Intellisphere.Client.ToolProposal
import Intellisphere.Sdk.ManifestFile
import Mathlib.Tactic.Linarith

/-! Whether an edge tool gets the time it was defined with. Any positive number is accepted, but
the timer of the platform takes whole milliseconds of 31 bits; and its callback waits for the
thread, which runs the reactions of promises first.
-/

namespace Intellisphere.Client

open Intellisphere.Foundation Intellisphere.Foundation.Js
open Intellisphere.Sdk.ManifestFile
  (DefineEdgeToolOptions defaultAllowNetwork defaultMaxResultBytes defineEdgeTool
    defineEdgeTool_checked isBlank)

-----------------------------------------------------------------------------------------
-- The timer
-----------------------------------------------------------------------------------------

/-- When a thread can run the callback of a timer that is due: at the first moment from then on
at which nothing else holds it.
-/
structure Thread where
  freeFrom : Rat → Rat
  notBefore (due : Rat) : due ≤ freeFrom due

/-- A thread that something holds from one moment to another. -/
def Thread.held (start stop : Rat) : Thread where
  freeFrom due := if start ≤ due ∧ due < stop then stop else due
  notBefore due := by
    split
    next inside => exact inside.2.le
    · exact le_rfl

/-- How a handler goes, in milliseconds from its call: when it returns its promise, and the
timer is set; when the promise settles; and which of the two comes first if the timer can run
at that very moment.
-/
structure HandlerTiming where
  thread : Thread
  returnedMs : Rat
  settledMs : Rat
  promiseFirst : Bool
  notEarly : 0 ≤ returnedMs

/-- When the callback of a timer runs that is set for some delay. -/
def HandlerTiming.firedMs (timing : HandlerTiming) (delayMs : Rat) : Rat :=
  timing.thread.freeFrom (timing.returnedMs + delayMs)

/-- The promise settles before a timer set for some delay runs. -/
def HandlerTiming.SettlesFirst (timing : HandlerTiming) (delayMs : Rat) : Prop :=
  timing.settledMs < timing.firedMs delayMs
  ∨ (timing.settledMs = timing.firedMs delayMs ∧ timing.promiseFirst = true)

instance (timing : HandlerTiming) (delayMs : Rat) : Decidable (timing.SettlesFirst delayMs) :=
  instDecidableOr

/-- How the promise of a handler and a timer set with the timeout go. -/
def timedRun (timeoutMs : Number) (timing : HandlerTiming) (settlement : Settlement)
    : PromiseRun :=
  if timing.SettlesFirst (timerDelay timeoutMs) then .inTime settlement
  else .late (some settlement)

-----------------------------------------------------------------------------------------
-- What a proposal should lead to
-----------------------------------------------------------------------------------------

/-- The tool is one that `defineEdgeTool` accepted. -/
def EdgeTool.DefinedBy (tool : EdgeTool) (opts : DefineEdgeToolOptions) : Prop :=
  ∃ definition edge,
    defineEdgeTool opts = .ok definition
    ∧ definition.edge = some edge
    ∧ tool.name = definition.name
    ∧ tool.edge.maxResultBytes = edge.maxResultBytes
    ∧ tool.edge.timeoutMs = edge.timeoutMs

/-- The proposal is valid: its tool is admitted and takes the input, and the handler gives a
promise.
-/
structure Executes (platform : Platform) (tools : List EdgeTool)
    (guardrails : SatelliteGuardrails) (clock : ProposalClock) (request : ToolProposalRequest)
    (tool : EdgeTool) : Prop where
  admitted : Admitted platform tools guardrails clock request tool
  promises
    : ∃ data,
        tool.safeParse request.input = .success data
        ∧ tool.handler data request.context = .promise

/-- The result a settlement comes to, if it comes to any. -/
def Settlement.result (durationMs : Int) : Settlement → Option Value
  | .resolved value => some value
  | .rejected reason => reason.text?.map (failureResult · durationMs)

/-- The result of a timeout. -/
def timedOutResult (platform : Platform) (timeoutMs : Number) (durationMs : Int) : Value :=
  failureResult ("Tool execution timed out after " ++ platform.numberText timeoutMs ++ "ms.")
    durationMs

/-- Sanitise a result and send it, if there is one. -/
def answerWith (platform : Platform) (guardrails : SatelliteGuardrails) (requestId : String)
    (tool : EdgeTool)
    : Option Value → ProposalRun
  | none => { guardrails }
  | some result =>
      match guardrails.sanitiseResult platform result tool with
      | .error _ => { guardrails }
      | .ok sanitised => sendResponse guardrails requestId sanitised

section Answers

variable (platform : Platform) (guardrails : SatelliteGuardrails) (clock : ProposalClock)
  (request : ToolProposalRequest) (tool : EdgeTool) (settlement : Settlement)

/-- The answer with the handler's own outcome. -/
def ownAnswer : ProposalRun :=
  answerWith platform (guardrails.preValidate platform clock.validated request.toolName).1
    request.requestId tool (settlement.result (clock.failed - clock.started))

/-- The answer with the timeout. -/
def timeoutAnswer : ProposalRun :=
  answerWith platform (guardrails.preValidate platform clock.validated request.toolName).1
    request.requestId tool
    (some (timedOutResult platform tool.edge.timeoutMs (clock.failed - clock.started)))

/-- A handler that settles before its timeout is answered with its own outcome, and one that
settles after it with the timeout.
-/
structure GetsDeclaredTime (settledMs : Rat) (run : ProposalRun) : Prop where
  before
    : (Number.finite settledMs).lt tool.edge.timeoutMs = true
      → run = ownAnswer platform guardrails clock request tool settlement
  after
    : tool.edge.timeoutMs.lt (.finite settledMs) = true
      → run = timeoutAnswer platform guardrails clock request tool

end Answers

/-- The timer runs on the wrong side of the handler: it is not set for a timeout that is too
long, it drops the fraction of one, it is not set for less than a millisecond, or the thread
is held, or was when it was set, until after the handler has settled.
-/
inductive TimerMisses (timeoutMs : Number) (timing : HandlerTiming) : Prop
  | overlong (beyond : (Number.finite maxTimerDelay).lt timeoutMs = true)
    (fired : ¬timing.SettlesFirst 1)
    (within : (Number.finite timing.settledMs).lt timeoutMs = true)
  | fraction {timeout : Rat} (number : timeoutMs = .finite timeout)
    (inRange : 1 ≤ timeout ∧ timeout ≤ maxTimerDelay)
    (fired : ¬timing.SettlesFirst timeout.floor) (within : timing.settledMs < timeout)
  | short {timeout : Rat} (number : timeoutMs = .finite timeout) (below : timeout < 1)
    (late : timeout < timing.settledMs) (settled : timing.SettlesFirst 1)
  | held {timeout : Rat} (number : timeoutMs = .finite timeout) (atLeast : 1 ≤ timeout)
    (late : timeout < timing.settledMs)
    (settled : timing.SettlesFirst (timerDelay timeoutMs))

section Timer

variable {timeoutMs : Number} {timing : HandlerTiming}

/-- A timer does not run before its delay is over. -/
theorem HandlerTiming.le_firedMs (timing : HandlerTiming) (delayMs : Rat)
    : delayMs ≤ timing.firedMs delayMs := by
  have waits := timing.thread.notBefore (timing.returnedMs + delayMs)
  rw [HandlerTiming.firedMs]
  linarith [timing.notEarly]

/-- A promise that does not settle first settles no earlier than the delay is over. -/
theorem HandlerTiming.le_settledMs {delayMs : Rat} (fired : ¬timing.SettlesFirst delayMs)
    : delayMs ≤ timing.settledMs := by
  by_contra early
  exact fired (.inl ((not_le.mp early).trans_le (timing.le_firedMs delayMs)))

/-- What a timer misses is on the wrong side of it. By cases on how it is missed. -/
theorem TimerMisses.wrongSide (misses : TimerMisses timeoutMs timing)
    : ((Number.finite timing.settledMs).lt timeoutMs = true
        ∧ ¬timing.SettlesFirst (timerDelay timeoutMs))
      ∨ (timeoutMs.lt (.finite timing.settledMs) = true
        ∧ timing.SettlesFirst (timerDelay timeoutMs)) := by
  cases misses with
  | overlong beyond fired within =>
      rw [timerDelay_overlong beyond]
      exact .inl ⟨within, fired⟩
  | fraction number inRange fired within =>
      subst number
      rw [timerDelay_inRange inRange]
      exact .inl ⟨decide_eq_true within, fired⟩
  | short number below late settled =>
      subst number
      rw [timerDelay_short below]
      exact .inr ⟨decide_eq_true late, settled⟩
  | held number atLeast late settled =>
      subst number
      exact .inr ⟨decide_eq_true late, settled⟩

/-- For a whole number of milliseconds in its range a timer misses nothing, unless the handler
settles late and something keeps the timer from running on time.
-/
theorem not_timerMisses_whole {timeout : Int}
    (inRange : 1 ≤ (timeout : Rat) ∧ (timeout : Rat) ≤ maxTimerDelay)
    (onTime : (timeout : Rat) < timing.settledMs → timing.firedMs timeout = timeout)
    : ¬TimerMisses (.finite timeout) timing := by
  intro misses
  have wrong := misses.wrongSide
  rw [timerDelay_whole inRange] at wrong
  rcases wrong with ⟨within, fired⟩ | ⟨late, settled⟩
  · have early : timing.settledMs < timeout := of_decide_eq_true within
    exact (HandlerTiming.le_settledMs fired).not_gt early
  · have beyond : (timeout : Rat) < timing.settledMs := of_decide_eq_true late
    rw [HandlerTiming.SettlesFirst, onTime beyond] at settled
    rcases settled with early | ⟨same, _⟩
    · exact lt_asymm beyond early
    · exact beyond.ne same.symm

/-- A timer that runs before its timeout has dropped a fraction, or its delay is too long. -/
theorem timerMisses_of_fired {timeout : Rat} (within : timing.settledMs < timeout)
    (fired : ¬timing.SettlesFirst (timerDelay (.finite timeout)))
    : TimerMisses (.finite timeout) timing := by
  by_cases inRange : 1 ≤ timeout ∧ timeout ≤ maxTimerDelay
  · rw [timerDelay_inRange inRange] at fired
    exact .fraction rfl inRange fired within
  · rw [timerDelay, if_neg inRange] at fired
    have due : 1 ≤ timing.settledMs := HandlerTiming.le_settledMs fired
    have beyond : maxTimerDelay < timeout :=
      not_le.mp (fun most => inRange ⟨due.trans within.le, most⟩)
    exact .overlong (decide_eq_true beyond) fired (decide_eq_true within)

/-- A timer that runs after its timeout has one below a millisecond, or was kept waiting. -/
theorem timerMisses_of_settled {timeout : Rat} (late : timeout < timing.settledMs)
    (settled : timing.SettlesFirst (timerDelay (.finite timeout)))
    : TimerMisses (.finite timeout) timing := by
  by_cases atLeast : 1 ≤ timeout
  · exact .held rfl atLeast late settled
  · have below : timeout < 1 := not_le.mp atLeast
    rw [timerDelay_short below] at settled
    exact .short rfl below late settled

/-- For a timeout that is accepted the timer misses exactly what it puts on the wrong side. -/
theorem timerMisses_iff (accepted : timeoutMs.le (.finite 0) = false)
    : TimerMisses timeoutMs timing
      ↔ ((Number.finite timing.settledMs).lt timeoutMs = true
          ∧ ¬timing.SettlesFirst (timerDelay timeoutMs))
        ∨ (timeoutMs.lt (.finite timing.settledMs) = true
          ∧ timing.SettlesFirst (timerDelay timeoutMs)) := by
  refine ⟨TimerMisses.wrongSide, ?_⟩
  intro wrong
  cases timeoutMs with
  | nan => simp [Number.lt] at wrong
  | negInfinity => simp [Number.le, Number.lt] at accepted
  | infinity =>
      rcases wrong with ⟨within, fired⟩ | ⟨late, _⟩
      · exact .overlong rfl fired within
      · simp [Number.lt] at late
  | finite timeout =>
      rcases wrong with ⟨within, fired⟩ | ⟨late, settled⟩
      · exact timerMisses_of_fired (of_decide_eq_true within) fired
      · exact timerMisses_of_settled (of_decide_eq_true late) settled

end Timer

section Proposals

variable {platform : Platform} {tools : List EdgeTool} {guardrails : SatelliteGuardrails}
  {clock : ProposalClock} {request : ToolProposalRequest} {tool : EdgeTool}

/-- A defined tool has a timeout that was accepted. -/
theorem EdgeTool.DefinedBy.accepted {opts : DefineEdgeToolOptions}
    (defined : tool.DefinedBy opts)
    : tool.edge.timeoutMs.le (.finite 0) = false := by
  obtain ⟨definition, edge, accepted, constraints, _, _, same⟩ := defined
  rw [same]
  exact ((defineEdgeTool_checked accepted).edge edge constraints).2

/-- A handler whose promise settles in time comes to the result of the settlement. -/
theorem execute_inTime {data : Value} {context : ToolContext} (settlement : Settlement)
    (called : tool.handler data context = .promise)
    : tool.execute platform clock data context (.inTime settlement)
      = settlement.result (clock.failed - clock.started) := by
  rw [EdgeTool.execute, called]
  cases settlement with
  | resolved value => rw [executeWithTimeout_resolved]; rfl
  | rejected reason =>
      rw [executeWithTimeout_rejected, Settlement.result]
      cases reason.text? <;> rfl

/-- A handler whose promise settles late comes to the timeout. -/
theorem execute_late {data : Value} {context : ToolContext} (settlement : Option Settlement)
    (called : tool.handler data context = .promise)
    : tool.execute platform clock data context (.late settlement)
      = some
          (timedOutResult platform tool.edge.timeoutMs (clock.failed - clock.started)) := by
  rw [EdgeTool.execute, called]
  simp only [executeWithTimeout_late]
  rfl

/-- A valid proposal is answered with what its handler comes to. -/
theorem Executes.answered
    (executes : Executes platform tools guardrails clock request tool)
    : ∃ data,
        tool.handler data request.context = .promise
        ∧ ∀ run,
            handleToolProposal platform tools guardrails clock request run
            = answerWith platform
                (guardrails.preValidate platform clock.validated request.toolName).1
                request.requestId tool
                (tool.execute platform clock data request.context run) := by
  obtain ⟨data, parsed, called⟩ := executes.promises
  refine ⟨data, called, fun run => ?_⟩
  have allowed := executes.admitted.allowed
  rw [handleToolProposal, executes.admitted.registered]
  cases verdict : guardrails.preValidate platform clock.validated request.toolName with
  | mk after rejection =>
      rw [verdict] at allowed
      subst allowed
      simp only [parsed]
      cases tool.execute platform clock data request.context run <;> rfl

/-- The race decides between the two answers. -/
theorem Executes.answer (executes : Executes platform tools guardrails clock request tool)
    (settlement : Settlement) (timing : HandlerTiming)
    : handleToolProposal platform tools guardrails clock request
        (timedRun tool.edge.timeoutMs timing settlement)
      = if timing.SettlesFirst (timerDelay tool.edge.timeoutMs) then
          ownAnswer platform guardrails clock request tool settlement
        else timeoutAnswer platform guardrails clock request tool := by
  obtain ⟨data, called, answers⟩ := executes.answered
  rw [answers, timedRun]
  split
  · rw [execute_inTime settlement called]
    rfl
  · rw [execute_late (some settlement) called]
    rfl

/-- The handler's own outcome is right for an answer unless it comes after the timeout. -/
theorem getsDeclaredTime_own_iff {settlement : Settlement} {settledMs : Rat}
    : GetsDeclaredTime platform guardrails clock request tool settlement settledMs
          (ownAnswer platform guardrails clock request tool settlement)
      ↔ (tool.edge.timeoutMs.lt (.finite settledMs) = true
        → ownAnswer platform guardrails clock request tool settlement
          = timeoutAnswer platform guardrails clock request tool) := by
  refine ⟨fun time => time.after, ?_⟩
  intro same
  exact ⟨fun _ => rfl, same⟩

/-- The timeout is right for an answer unless the handler's own outcome comes before it. -/
theorem getsDeclaredTime_timeout_iff {settlement : Settlement} {settledMs : Rat}
    : GetsDeclaredTime platform guardrails clock request tool settlement settledMs
          (timeoutAnswer platform guardrails clock request tool)
      ↔ ((Number.finite settledMs).lt tool.edge.timeoutMs = true
        → ownAnswer platform guardrails clock request tool settlement
          = timeoutAnswer platform guardrails clock request tool) := by
  refine ⟨?_, ?_⟩
  · intro time early
    exact (time.before early).symm
  · intro same
    exact ⟨fun early => (same early).symm, fun _ => rfl⟩

/-- A handler of an accepted tool gets the time it was defined with exactly if the timer does
not miss it, or its own outcome is answered just like the timeout.
-/
theorem handleToolProposal_getsDeclaredTime_iff {opts : DefineEdgeToolOptions}
    (defined : tool.DefinedBy opts)
    (executes : Executes platform tools guardrails clock request tool)
    (settlement : Settlement) (timing : HandlerTiming)
    : GetsDeclaredTime platform guardrails clock request tool settlement timing.settledMs
          (handleToolProposal platform tools guardrails clock request
            (timedRun tool.edge.timeoutMs timing settlement))
      ↔ ¬TimerMisses tool.edge.timeoutMs timing
        ∨ ownAnswer platform guardrails clock request tool settlement
          = timeoutAnswer platform guardrails clock request tool := by
  rw [executes.answer, timerMisses_iff defined.accepted]
  by_cases first : timing.SettlesFirst (timerDelay tool.edge.timeoutMs)
  · rw [if_pos first, getsDeclaredTime_own_iff, imp_iff_not_or]
    simp only [first, not_true_eq_false, and_false, and_true, false_or]
  · rw [if_neg first, getsDeclaredTime_timeout_iff, imp_iff_not_or]
    simp only [first, not_false_eq_true, and_true, and_false, or_false]

end Proposals

/-- Options for a tool with a timeout. -/
def countOptions (timeoutMs : Number) : DefineEdgeToolOptions where
  name := "count"
  description := "Count the words of a text."
  inputSchema := .string
  timeoutMs := some timeoutMs

/-- The counting tool with a timeout. -/
def timedTool (timeoutMs : Number) : EdgeTool :=
  {
    countTool with
    edge := {
      maxResultBytes := .finite 1048576
      timeoutMs
    }
  }

/-- What the counting tool resolves to. -/
def countResult : Value :=
  .object
    [
      ("success", .bool true),
      ("trustCost", .number (.finite 0)),
      ("durationMs", .number (.finite 0))
    ]

/-- Guardrails that let the counting tool through. -/
def countGuardrails : SatelliteGuardrails :=
  .new { allowedTools := ["count"] }

/-- The counting tool is accepted with any timeout that is not at most zero. -/
theorem timedTool_definedBy {timeoutMs : Number}
    (accepted : timeoutMs.le (.finite 0) = false)
    : (timedTool timeoutMs).DefinedBy (countOptions timeoutMs) := by
  have named : isBlank "count" = false := by decide
  have described : isBlank "Count the words of a text." = false := by decide
  have cost : (Number.finite 1).lt (.finite 0) = false := by decide +kernel
  have bytes : (Number.finite 1048576).le (.finite 0) = false := by decide +kernel
  have defined
      : defineEdgeTool (countOptions timeoutMs)
        = .ok
            {
              name := "count"
              description := "Count the words of a text."
              inputSchema := .string
              zones := [.satellite]
              defaultTrustCost := .finite 1
              edge := some {
                maxResultBytes := .finite 1048576
                timeoutMs
                allowNetwork := false
              }
            } := by
    simp [defineEdgeTool, countOptions, named, described, cost, bytes, accepted,
      defaultMaxResultBytes, defaultAllowNetwork]
  exact ⟨_, _, defined, rfl, rfl, rfl, rfl⟩

theorem timedTool_executes (timeoutMs : Number)
    : Executes plainPlatform [timedTool timeoutMs] countGuardrails ⟨0, 0, 0⟩ countRequest
        (timedTool timeoutMs) where
  admitted := {
    registered := rfl
    allowed := by rfl
  }
  promises := ⟨.undefined, rfl, rfl⟩

/-- A handler that waits for a second and then holds the thread until it settles. -/
def busyTiming (settledMs : Rat) : HandlerTiming where
  thread := .held 1000 settledMs
  returnedMs := 0
  settledMs
  promiseFirst := true
  notEarly := le_rfl

/-- With a timeout of five seconds a tool that takes two gets them. -/
theorem handleToolProposal_getsDeclaredTime_iff_count
    : GetsDeclaredTime plainPlatform countGuardrails ⟨0, 0, 0⟩ countRequest
        (timedTool (.finite 5000)) (.resolved countResult) 2000
        (handleToolProposal plainPlatform [timedTool (.finite 5000)] countGuardrails ⟨0, 0, 0⟩
          countRequest
          (timedRun (.finite 5000) (busyTiming 2000) (.resolved countResult))) := by
  have hit : ¬TimerMisses (.finite 5000) (busyTiming 2000) :=
    @not_timerMisses_whole (busyTiming 2000) 5000 (by norm_num [maxTimerDelay])
      (fun late => absurd late (by decide +kernel))
  exact
    (handleToolProposal_getsDeclaredTime_iff (timedTool_definedBy (by decide +kernel))
      (timedTool_executes (.finite 5000)) (.resolved countResult) (busyTiming 2000)).mpr
      (.inl hit)

/-- With a timeout of 2147483648 milliseconds a tool that takes a minute is timed out after the
first of them.
-/
theorem declaredTime_cutShort
    : ¬∀ (platform : Platform) (tools : List EdgeTool) (guardrails : SatelliteGuardrails)
        (clock : ProposalClock) (request : ToolProposalRequest) (tool : EdgeTool)
        (opts : DefineEdgeToolOptions) (settlement : Settlement) (timing : HandlerTiming),
        tool.DefinedBy opts
        → Executes platform tools guardrails clock request tool
        → GetsDeclaredTime platform guardrails clock request tool settlement timing.settledMs
            (handleToolProposal platform tools guardrails clock request
              (timedRun tool.edge.timeoutMs timing settlement)) := by
  intro gets
  have own :=
    (gets plainPlatform [timedTool (.finite 2147483648)] countGuardrails ⟨0, 0, 0⟩ countRequest
      (timedTool (.finite 2147483648)) (countOptions (.finite 2147483648))
      (.resolved countResult) (busyTiming 60000) (timedTool_definedBy (by decide +kernel))
      (timedTool_executes (.finite 2147483648))).before (by decide +kernel)
  have fired
      : ¬(busyTiming 60000).SettlesFirst
          (timerDelay (timedTool (.finite 2147483648)).edge.timeoutMs) := by
    decide +kernel
  rw [(timedTool_executes (.finite 2147483648)).answer, if_neg fired] at own
  have success :=
    congrArg
      (fun run : ProposalRun =>
        run.sent.map
          (fun json => (json.get? "result").bind (fun result => result.get? "success")))
      own
  -- Sent is a failure where the handler's own result is a success.
  have sent : [some (Json.bool false)] = [some (Json.bool true)] := success
  injection sent with answer
  injection answer with flag
  injection flag with same
  exact Bool.false_ne_true same

end Intellisphere.Client
