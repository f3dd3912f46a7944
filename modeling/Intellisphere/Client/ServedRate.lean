import Intellisphere.Client.ServedProposals
import Intellisphere.Client.SlidingWindow
import Intellisphere.Foundation.Observation

/-! The rate limit of a satellite client over its life. Guardrails are made anew with each
session, so the limit holds from one session to the next, and a window that reaches over
several sessions can have that many times as many calls.
-/

namespace Intellisphere.Client

open Intellisphere.Foundation Intellisphere.Foundation.Js

-----------------------------------------------------------------------------------------
-- Calls of handlers
-----------------------------------------------------------------------------------------

/-- A session begins, and with it new guardrails. -/
def ClientEvent.startsSession : ClientEvent → Bool
  | .connection (.sessionFetched .null _) => false
  | .connection (.sessionFetched _ _) => true
  | _ => false

/-- The clock reading at which a proposal is checked. -/
def ClientEvent.validated? : ClientEvent → Option Int
  | .proposed _ clock => some clock.validated
  | _ => none

namespace SatelliteClient

/-- The check of a proposal by the guardrails, if the step comes to one. -/
def invocation? (platform : Platform) (tools : List EdgeTool) (client : SatelliteClient)
    : ClientEvent → Option (Invocation × Option String)
  | .proposed request clock =>
      (tools.find? (fun tool => tool.name = request.toolName)).map
        (fun _ =>
          (
            { now := clock.validated, toolName := request.toolName },
            (client.preValidate platform clock.validated request.toolName).2
          ))
  | _ => none

/-- The call of a handler, if the step comes to one. -/
def handlerCall? (platform : Platform) (tools : List EdgeTool) (client : SatelliteClient)
    : ClientEvent → Option Invocation
  | .proposed request clock =>
      match tools.find? (fun tool => tool.name = request.toolName) with
      | none => none
      | some tool =>
          match (client.preValidate platform clock.validated request.toolName).2 with
          | some _ => none
          | none =>
              match tool.safeParse request.input with
              | .success _ => some { now := clock.validated, toolName := request.toolName }
              | _ => none
  | _ => none

/-- Proposals come over transports that the client created. -/
def Arrives (client : SatelliteClient) : ClientEvent → Prop
  | .proposed _ _ => client.connection.transports ≠ []
  | _ => True

instance (client : SatelliteClient) (event : ClientEvent)
    : Decidable (client.Arrives event) := by
  unfold Arrives
  split <;> infer_instance

end SatelliteClient

section Calls

variable (platform : Platform) (options : SatelliteOptions) (tools : List EdgeTool)

/-- The checks of the guardrails in a trace from some state on. -/
def invocations (client : SatelliteClient) (trace : ClientTrace) : InvocationTrace :=
  (satelliteClient platform options tools).observed
    (Machine.noting (SatelliteClient.invocation? platform tools)) client trace

/-- The calls of handlers in a trace from some state on. -/
def handlerCalls (client : SatelliteClient) (trace : ClientTrace) : List Invocation :=
  (satelliteClient platform options tools).observed
    (Machine.noting (SatelliteClient.handlerCall? platform tools)) client trace

/-- How often the handler of a tool was called in the minute that ends at `stop`. -/
def callsInMinute (client : SatelliteClient) (trace : ClientTrace) (toolName : String)
    (stop : ℚ)
    : Nat :=
  ((handlerCalls platform options tools client trace).filter
    (fun call => call.toolName = toolName && isBetween (.finite (stop - 60000)) stop call.now)
    ).length

end Calls

/-- How often a session begins in a trace. -/
def sessionCount (trace : ClientTrace) : Nat :=
  trace.countP (fun entry => entry.1.startsSession)

/-- The clock readings in the checks of proposals. -/
def validatedTimes (trace : ClientTrace) : List Int :=
  trace.filterMap (fun entry => entry.1.validated?)

/-- Readings of a clock that does not go back, within what a clock can read. -/
structure ClockReadings (times : List Int) : Prop where
  ordered : times.Pairwise (· ≤ ·)
  inRange : ∀ time ∈ times, |time| ≤ maxTimeValue

-----------------------------------------------------------------------------------------
-- What a step does to the guardrails
-----------------------------------------------------------------------------------------

/-- The guardrails that a session begins with. -/
def sessionConfig (tools : List EdgeTool) : GuardrailsConfig where
  allowedTools := tools.map EdgeTool.name

namespace SatelliteClient

variable {platform : Platform} {options : SatelliteOptions} {tools : List EdgeTool}
  {client after : SatelliteClient} {event : ClientEvent} {effects : List ClientEffect}

/-- A step makes new guardrails, has them check a proposal or leaves them alone. -/
inductive GuardrailsStep (platform : Platform) (tools : List EdgeTool)
    (client after : SatelliteClient) (event : ClientEvent)
    : Prop where
  | starts (begins : event.startsSession = true)
    (unchecked : client.invocation? platform tools event = none)
    (fresh : after.guardrails = some (.new (sessionConfig tools)))
  | checks (now : Int) (toolName : String) (ongoing : event.startsSession = false)
    (checkedAt : event.validated? = some now)
    (checked
      : client.invocation? platform tools event
        = some (⟨now, toolName⟩, (client.preValidate platform now toolName).2))
    (next : after.guardrails = (client.preValidate platform now toolName).1.guardrails)
  | keeps (ongoing : event.startsSession = false)
    (unchecked : client.invocation? platform tools event = none)
    (same : after.guardrails = client.guardrails)

theorem callHandler_guardrails (platform : Platform) (client : SatelliteClient)
    (clock : ProposalClock) (request : ToolProposalRequest) (tool : EdgeTool) (data : Value)
    : (client.callHandler platform clock request tool data).1.guardrails
      = client.guardrails := by
  unfold callHandler
  cases tool.handler data request.context with
  | threw reason => cases text : reason.text? <;> simp [text]
  | promise => rfl
  | notPromise message => rfl

/-- Handling a proposal for a registered tool changes the guardrails by their check alone. -/
theorem handleToolProposal_guardrails {request : ToolProposalRequest} {tool : EdgeTool}
    (registered : tools.find? (fun tool => tool.name = request.toolName) = some tool)
    (platform : Platform) (client : SatelliteClient) (clock : ProposalClock)
    : (client.handleToolProposal platform tools clock request).1.guardrails
      = (client.preValidate platform clock.validated request.toolName).1.guardrails := by
  unfold handleToolProposal
  rw [registered]
  dsimp only
  cases client.preValidate platform clock.validated request.toolName with
  | mk checked rejection =>
      cases rejection with
      | some message => rfl
      | none =>
          dsimp only
          cases tool.safeParse request.input with
          | success data =>
              exact checked.callHandler_guardrails platform clock request tool data
          | failure message => rfl
          | threw => rfl

theorem step_guardrails
    (stepped
      : (satelliteClient platform options tools).step client event = some (after, effects))
    : GuardrailsStep platform tools client after event := by
  cases event with
  | connection event =>
      simp only [satelliteClient, step] at stepped
      split at stepped
      · contradiction
      next connection outputs _ =>
        obtain ⟨rfl, _⟩ := Prod.mk.inj (Option.some.inj stepped)
        cases event with
        | sessionFetched session accepted =>
            cases session with
            | null => exact .keeps rfl rfl rfl
            | _ => exact .starts rfl rfl rfl
        | _ => exact .keeps rfl rfl rfl
  | proposed request clock =>
      obtain rfl : (client.handleToolProposal platform tools clock request).1 = after :=
        congrArg Prod.fst (Option.some.inj stepped)
      cases registered : tools.find? (fun tool => tool.name = request.toolName) with
      | none =>
          refine .keeps rfl ?_ ?_
          · simp [invocation?, registered]
          · simp [handleToolProposal, registered]
      | some tool =>
          refine .checks clock.validated request.toolName rfl rfl ?_ ?_
          · simp [invocation?, registered]
          · exact handleToolProposal_guardrails registered platform client clock
  | settled proposal run now =>
      refine .keeps rfl rfl ?_
      simp only [satelliteClient, step] at stepped
      split at stepped
      · contradiction
      · split at stepped
        · contradiction
        · obtain ⟨rfl, _⟩ := Prod.mk.inj (Option.some.inj stepped)
          rfl
  | received dispatch =>
      refine .keeps rfl rfl ?_
      cases dispatch with
      | handleToolProposal => contradiction
      | _ =>
          obtain ⟨rfl, _⟩ := Prod.mk.inj (Option.some.inj stepped)
          rfl

end SatelliteClient

-----------------------------------------------------------------------------------------
-- From one session to the next
-----------------------------------------------------------------------------------------

/-- The guardrails decided the checks in `log`, and no clock reading so far is beyond what
they will accept next.
-/
def TracksFrom (config : GuardrailsConfig) (log : InvocationTrace) (times : List Int)
    (guardrails : SatelliteGuardrails)
    : Prop :=
  ∀ now,
    (∀ time ∈ times, time ≤ now)
    → ∃ clock, clock ≤ now ∧ Tracks config log ⟨guardrails, clock⟩

/-- New guardrails have decided nothing yet. -/
theorem tracksFrom_new (config : GuardrailsConfig) (times : List Int)
    : TracksFrom config [] times (.new config) :=
  fun now _ => ⟨now, le_rfl, new_tracks config now⟩

/-- Some time comes after finitely many. -/
theorem exists_latest (times : List Int) : ∃ now, ∀ time ∈ times, time ≤ now := by
  induction times with
  | nil => exact ⟨0, by simp⟩
  | cons first rest ih =>
      obtain ⟨now, latest⟩ := ih
      refine ⟨max first now, ?_⟩
      intro time member
      rcases List.mem_cons.mp member with rfl | earlier
      · exact le_max_left _ _
      · exact (latest time earlier).trans (le_max_right _ _)

/-- What guardrails with the default limit decided is within it. -/
theorem TracksFrom.bounded {tools : List EdgeTool} {log : InvocationTrace}
    {times : List Int} {guardrails : SatelliteGuardrails}
    (tracks : TracksFrom (sessionConfig tools) log times guardrails)
    (inRange : ∀ entry ∈ log, |entry.1.now| ≤ maxTimeValue) (toolName : String) (stop : ℚ)
    : acceptedBetween log toolName (.finite (stop - 60000)) stop ≤ 100 := by
  obtain ⟨now, latest⟩ := exists_latest times
  obtain ⟨clock, _, tracked⟩ := tracks now latest
  have full : exhausts (.finite 100) 100 := by simp [exhausts, Number.le]
  have starts : ExactStarts (.finite 60000) log := by
    intro entry member
    exact @sub_eq_windowStart entry.1.now 60000 (inRange entry member) (by norm_num)
  exact tracked.bounds_exact starts toolName stop 100 full

/-- A check at a time that is not earlier than those before. -/
theorem TracksFrom.check {config : GuardrailsConfig} {log : InvocationTrace}
    {times : List Int} {guardrails : SatelliteGuardrails}
    (tracks : TracksFrom config log times guardrails) {now : Int}
    (order : ∀ time ∈ times, time ≤ now) (platform : Platform) (toolName : String)
    : TracksFrom config
        (log ++ [(⟨now, toolName⟩, (guardrails.preValidate platform now toolName).2)])
        (times ++ [now]) (guardrails.preValidate platform now toolName).1 := by
  obtain ⟨clock, before, tracked⟩ := tracks now order
  intro later latest
  refine ⟨now, latest now (by simp), ?_⟩
  refine @Tracks.step platform _ _ _ _ _ _ tracked ?_
  simp [preValidations, not_lt.mpr before]

theorem TracksFrom.mono {config : GuardrailsConfig} {log : InvocationTrace}
    {times : List Int} {guardrails : SatelliteGuardrails}
    (tracks : TracksFrom config log times guardrails) (more : List Int)
    : TracksFrom config log (times ++ more) guardrails :=
  fun now latest => tracks now (fun time member => latest time (List.mem_append_left _ member))

section Session

variable {platform : Platform} {options : SatelliteOptions} {tools : List EdgeTool}
  {trace : ClientTrace} {client : SatelliteClient}

/-- One step of a session. -/
theorem TracksFrom.step {log : InvocationTrace} {times : List Int} {after : SatelliteClient}
    {guardrails : SatelliteGuardrails} {event : ClientEvent} {effects : List ClientEffect}
    (tracks : TracksFrom (sessionConfig tools) log times guardrails)
    (guarded : client.guardrails = some guardrails)
    (stepped
      : (satelliteClient platform options tools).step client event = some (after, effects))
    (ongoing : event.startsSession = false)
    (ordered : (times ++ event.validated?.toList).Pairwise (· ≤ ·))
    : ∃ next,
        after.guardrails = some next
        ∧ TracksFrom (sessionConfig tools)
            (log ++ (client.invocation? platform tools event).toList)
            (times ++ event.validated?.toList) next := by
  cases SatelliteClient.step_guardrails stepped with
  | starts begins => simp [begins] at ongoing
  | checks now toolName _ checkedAt checked next =>
      rw [checkedAt] at ordered
      have order : ∀ time ∈ times, time ≤ now :=
        fun time member =>
          (List.pairwise_append.mp ordered).2.2 time member now (by simp)
      refine ⟨(guardrails.preValidate platform now toolName).1, ?_, ?_⟩
      · rw [next, SatelliteClient.preValidate, guarded]
      · rw [checked, checkedAt, SatelliteClient.preValidate, guarded]
        exact tracks.check order platform toolName
  | keeps _ unchecked same =>
      refine ⟨guardrails, same.trans guarded, ?_⟩
      rw [unchecked]
      simpa using tracks.mono event.validated?.toList

theorem validatedTimes_snoc (trace : ClientTrace) (event : ClientEvent)
    (effects : List ClientEffect)
    : validatedTimes (trace ++ [(event, effects)])
      = validatedTimes trace ++ event.validated?.toList := by
  rw [validatedTimes, List.filterMap_append, ← validatedTimes]
  cases reading : event.validated? <;> simp [reading]

/-- A stretch of a session. By induction on the run. -/
theorem TracksFrom.run {log : InvocationTrace} {times : List Int} {before : SatelliteClient}
    {guardrails : SatelliteGuardrails}
    (tracks : TracksFrom (sessionConfig tools) log times guardrails)
    (guarded : before.guardrails = some guardrails)
    (run : (satelliteClient platform options tools).Run before trace client)
    (ongoing : ∀ entry ∈ trace, entry.1.startsSession = false)
    (ordered : (times ++ validatedTimes trace).Pairwise (· ≤ ·))
    : ∃ next,
        client.guardrails = some next
        ∧ TracksFrom (sessionConfig tools)
            (log ++ invocations platform options tools before trace)
            (times ++ validatedTimes trace) next := by
  induction run with
  | nil =>
      refine ⟨guardrails, guarded, ?_⟩
      simpa [invocations, Machine.observed, validatedTimes] using tracks
  | @snoc middle after trace event effects run stepped ih =>
      rw [validatedTimes_snoc, ← List.append_assoc] at ordered
      obtain ⟨next, guarded, tracks⟩ :=
        ih (fun entry member => ongoing entry (List.mem_append_left _ member))
          (List.pairwise_append.mp ordered).1
      obtain ⟨last, guarded, tracks⟩ :=
        tracks.step guarded stepped (ongoing (event, effects) (by simp)) ordered
      refine ⟨last, guarded, ?_⟩
      rw [validatedTimes_snoc, invocations, run.noted_snoc stepped, ← invocations,
        ← List.append_assoc, ← List.append_assoc]
      exact tracks

-----------------------------------------------------------------------------------------
-- Before the first session
-----------------------------------------------------------------------------------------

/-- A connection that had no session creates no transport. -/
theorem connection_untouched {satellite next : DysonSatellite} {event : ConnectionEvent}
    {effects : List ConnectionEffect} (noSession : satellite.session = none)
    (noTransports : satellite.transports = [])
    (stepped : satellite.step options event = some (next, effects))
    (ongoing : (ClientEvent.connection event).startsSession = false)
    : next.session = none ∧ next.transports = [] := by
  have retried (satellite : DysonSatellite) (noSession : satellite.session = none)
      (noTransports : satellite.transports = [])
      : (satellite.attemptReconnect options).1.session = none
        ∧ (satellite.attemptReconnect options).1.transports = [] := by
    unfold DysonSatellite.attemptReconnect
    split
    · exact ⟨noSession, noTransports⟩
    · split <;> exact ⟨noSession, noTransports⟩
  cases event with
  | connect =>
      obtain ⟨rfl, _⟩ := Prod.mk.inj (Option.some.inj stepped)
      exact ⟨noSession, noTransports⟩
  | sessionFetched session accepted =>
      cases session with
      | null =>
          simp only [DysonSatellite.step] at stepped
          split at stepped
          · contradiction
          · obtain ⟨rfl, _⟩ := Prod.mk.inj (Option.some.inj stepped)
            exact ⟨rfl, noTransports⟩
      | _ => contradiction
  | sessionFailed =>
      simp only [DysonSatellite.step] at stepped
      split at stepped
      · contradiction
      · obtain ⟨rfl, _⟩ := Prod.mk.inj (Option.some.inj stepped)
        exact ⟨noSession, noTransports⟩
  | disconnect =>
      obtain ⟨rfl, _⟩ := Prod.mk.inj (Option.some.inj stepped)
      refine ⟨noSession, ?_⟩
      cases current : satellite.transport <;>
        simp [DysonSatellite.disconnect, current, noTransports, DysonSatellite.closeTransport]
  | transportOpened index => simp [DysonSatellite.step, noTransports] at stepped
  | transportClosed index reason => simp [DysonSatellite.step, noTransports] at stepped
  | sleepExpired loop accepted =>
      simp only [DysonSatellite.step] at stepped
      split at stepped
      · contradiction
      next delayMs _ =>
        obtain rfl
            : ((satellite.endSleep loop).resumeReconnect options
                (timerDelay (.finite delayMs)) accepted).1
              = next :=
          congrArg Prod.fst (Option.some.inj stepped)
        unfold DysonSatellite.resumeReconnect
        split
        · exact ⟨noSession, noTransports⟩
        · have asleep : (satellite.endSleep loop).session = none := noSession
          rw [asleep]
          exact retried (satellite.endSleep loop) noSession noTransports

/-- The client never had a session. -/
structure Fresh (client : SatelliteClient) : Prop where
  unguarded : client.guardrails = none
  noSession : client.connection.session = none
  noTransports : client.connection.transports = []

/-- Without a session and without proposals a client stays as fresh as it was. -/
theorem Fresh.step {after : SatelliteClient} {event : ClientEvent}
    {effects : List ClientEffect} (fresh : Fresh client)
    (stepped
      : (satelliteClient platform options tools).step client event = some (after, effects))
    (ongoing : event.startsSession = false) (arrives : client.Arrives event)
    : Fresh after ∧ client.invocation? platform tools event = none := by
  cases event with
  | proposed request clock => exact (arrives fresh.noTransports).elim
  | connection event =>
      simp only [satelliteClient, SatelliteClient.step] at stepped
      split at stepped
      · contradiction
      next connection outputs moved =>
        obtain ⟨rfl, _⟩ := Prod.mk.inj (Option.some.inj stepped)
        obtain ⟨noSession, noTransports⟩ :=
          connection_untouched fresh.noSession fresh.noTransports moved ongoing
        refine ⟨⟨?_, ?_, ?_⟩, rfl⟩
        · cases event with
          | sessionFetched session accepted =>
              cases session with
              | null => exact fresh.unguarded
              | _ => contradiction
          | _ => exact fresh.unguarded
        · rw [SatelliteClient.startSession_connection]
          exact noSession
        · rw [SatelliteClient.startSession_connection]
          exact noTransports
  | settled proposal run now =>
      simp only [satelliteClient, SatelliteClient.step] at stepped
      split at stepped
      · contradiction
      · split at stepped
        · contradiction
        · obtain ⟨rfl, _⟩ := Prod.mk.inj (Option.some.inj stepped)
          exact ⟨⟨fresh.unguarded, fresh.noSession, fresh.noTransports⟩, rfl⟩
  | received dispatch =>
      cases dispatch with
      | handleToolProposal => contradiction
      | _ =>
          obtain ⟨rfl, _⟩ := Prod.mk.inj (Option.some.inj stepped)
          exact ⟨⟨fresh.unguarded, fresh.noSession, fresh.noTransports⟩, rfl⟩

-----------------------------------------------------------------------------------------
-- Handlers
-----------------------------------------------------------------------------------------

/-- A handler is called only for a proposal that the guardrails accept. -/
theorem SatelliteClient.handlerCall?_accepted {event : ClientEvent} {call : Invocation}
    (called : client.handlerCall? platform tools event = some call)
    : client.invocation? platform tools event = some (call, none) := by
  cases event with
  | proposed request clock =>
      simp only [SatelliteClient.handlerCall?] at called
      split at called
      · contradiction
      next tool registered =>
        split at called
        · contradiction
        next accepted =>
          split at called
          · obtain rfl := Option.some.inj called
            simp [SatelliteClient.invocation?, registered, accepted]
          · contradiction
  | _ => contradiction

theorem acceptedBetween_append (first second : InvocationTrace) (toolName : String)
    (start : Number) (stop : ℚ)
    : acceptedBetween (first ++ second) toolName start stop
      = acceptedBetween first toolName start stop
        + acceptedBetween second toolName start stop := by
  simp [acceptedBetween, acceptedTimes, List.filterMap_append]

/-- Handlers are called no more often than guardrails accept. By induction on the run. -/
theorem callsInMinute_le {before : SatelliteClient}
    (run : (satelliteClient platform options tools).Run before trace client)
    (toolName : String) (stop : ℚ)
    : callsInMinute platform options tools before trace toolName stop
      ≤ acceptedBetween (invocations platform options tools before trace) toolName
          (.finite (stop - 60000)) stop := by
  unfold callsInMinute handlerCalls invocations
  induction run with
  | nil => exact le_rfl
  | @snoc middle finish trace event effects run stepped ih =>
      rw [run.noted_snoc stepped, run.noted_snoc stepped, acceptedBetween_append,
        List.filter_append, List.length_append]
      refine Nat.add_le_add ih ?_
      cases called : middle.handlerCall? platform tools event with
      | none => simp
      | some call =>
          rw [SatelliteClient.handlerCall?_accepted called]
          by_cases own : call.toolName = toolName <;>
            cases inside : isBetween (.finite (stop - 60000)) stop call.now <;>
              simp [acceptedBetween, acceptedTimes, own, inside]

-----------------------------------------------------------------------------------------
-- The life of a client
-----------------------------------------------------------------------------------------

/-- The checks of earlier sessions, and those of the current one with the guardrails that
decided them.
-/
structure Guarded (platform : Platform) (options : SatelliteOptions)
    (tools : List EdgeTool) (trace : ClientTrace) (client : SatelliteClient)
    (earlier log : InvocationTrace) (guardrails : SatelliteGuardrails)
    : Prop where
  guarded : client.guardrails = some guardrails
  began : 0 < sessionCount trace
  checks : invocations platform options tools {} trace = earlier ++ log
  tracks : TracksFrom (sessionConfig tools) log (validatedTimes trace) guardrails
  bounded (toolName : String) (stop : ℚ)
    : acceptedBetween earlier toolName (.finite (stop - 60000)) stop
      ≤ 100 * (sessionCount trace - 1)

/-- What guardrails have checked up to some point of a client's life. -/
inductive Life (platform : Platform) (options : SatelliteOptions) (tools : List EdgeTool)
    (trace : ClientTrace) (client : SatelliteClient)
    : Prop where
  | fresh (fresh : Fresh client) (began : sessionCount trace = 0)
    (unchecked : invocations platform options tools {} trace = [])
  | guarded (earlier log : InvocationTrace) (guardrails : SatelliteGuardrails)
    (guarded : Guarded platform options tools trace client earlier log guardrails)

theorem sessionCount_snoc (trace : ClientTrace) (event : ClientEvent)
    (effects : List ClientEffect)
    : sessionCount (trace ++ [(event, effects)])
      = sessionCount trace + (if event.startsSession then 1 else 0) := by
  simp [sessionCount, List.countP_append, List.countP_singleton]

theorem ClockReadings.left {first second : List Int}
    (readings : ClockReadings (first ++ second))
    : ClockReadings first where
  ordered := (List.pairwise_append.mp readings.ordered).1
  inRange time member := readings.inRange time (List.mem_append_left _ member)

/-- Proposals are checked at the clock readings of the trace. By induction on the run. -/
theorem now_mem_of_invocation {before : SatelliteClient}
    (run : (satelliteClient platform options tools).Run before trace client)
    : ∀ entry ∈ invocations platform options tools before trace,
        entry.1.now ∈ validatedTimes trace := by
  induction run with
  | nil => simp [invocations, Machine.observed]
  | @snoc middle finish trace event effects run stepped ih =>
      intro entry member
      rw [invocations, run.noted_snoc stepped, ← invocations] at member
      rw [validatedTimes_snoc]
      rcases List.mem_append.mp member with earlier | last
      · exact List.mem_append_left _ (ih entry earlier)
      · refine List.mem_append_right _ ?_
        rw [Option.mem_toList] at last ⊢
        cases SatelliteClient.step_guardrails stepped with
        | starts _ unchecked _ => simp [unchecked] at last
        | checks now toolName _ checkedAt checked _ =>
            obtain rfl := Option.some.inj (checked.symm.trans last)
            exact checkedAt
        | keeps _ unchecked _ => simp [unchecked] at last

/-- All checks so far are within the limits of the sessions so far. -/
theorem Life.bounded (life : Life platform options tools trace client)
    (run : (satelliteClient platform options tools).Run {} trace client)
    (readings : ClockReadings (validatedTimes trace)) (toolName : String) (stop : ℚ)
    : acceptedBetween (invocations platform options tools {} trace) toolName
        (.finite (stop - 60000)) stop
      ≤ 100 * sessionCount trace := by
  cases life with
  | fresh _ began unchecked => simp [unchecked, acceptedBetween]
  | guarded earlier log guardrails guarded =>
      have checkedAt := now_mem_of_invocation run
      rw [guarded.checks] at checkedAt ⊢
      rw [acceptedBetween_append]
      have before := guarded.bounded toolName stop
      have current := guarded.tracks.bounded
        (fun entry member =>
          readings.inRange _ (checkedAt entry (List.mem_append_right _ member)))
        toolName stop
      have began := guarded.began
      omega

/-- A session begins: what was checked until then is past. -/
theorem Life.starts {after : SatelliteClient} {event : ClientEvent}
    {effects : List ClientEffect} (life : Life platform options tools trace client)
    (run : (satelliteClient platform options tools).Run {} trace client)
    (readings : ClockReadings (validatedTimes trace))
    (stepped
      : (satelliteClient platform options tools).step client event = some (after, effects))
    (begins : event.startsSession = true)
    (unchecked : client.invocation? platform tools event = none)
    (fresh : after.guardrails = some (.new (sessionConfig tools)))
    : Life platform options tools (trace ++ [(event, effects)]) after := by
  refine .guarded (invocations platform options tools {} trace) [] _
    ⟨fresh, ?_, ?_, tracksFrom_new _ _, ?_⟩
  · rw [sessionCount_snoc, if_pos begins]
    exact Nat.succ_pos _
  · rw [invocations, run.noted_snoc stepped, unchecked]
    rfl
  · intro toolName stop
    rw [sessionCount_snoc, if_pos begins]
    exact life.bounded run readings toolName stop

/-- By induction on the run: a session begins, or the life so far goes on. -/
theorem run_life (run : (satelliteClient platform options tools).Run {} trace client)
    (arrives
      : (satelliteClient platform options tools).StepsMeet {} trace
          SatelliteClient.Arrives)
    (readings : ClockReadings (validatedTimes trace))
    : Life platform options tools trace client := by
  induction run with
  | nil => exact .fresh ⟨rfl, rfl, rfl⟩ rfl rfl
  | @snoc before after trace event effects run stepped ih =>
      rw [validatedTimes_snoc] at readings
      have life := ih arrives.before readings.left
      cases begins : event.startsSession with
      | true =>
          cases SatelliteClient.step_guardrails stepped with
          | starts _ unchecked fresh =>
              exact life.starts run readings.left stepped begins unchecked fresh
          | checks _ _ ongoing => simp [begins] at ongoing
          | keeps ongoing => simp [begins] at ongoing
      | false =>
          have count : sessionCount (trace ++ [(event, effects)]) = sessionCount trace := by
            simp [sessionCount_snoc, begins]
          cases life with
          | fresh fresh began unchecked =>
              obtain ⟨still, silent⟩ := fresh.step stepped begins (arrives.last run)
              refine .fresh still (count.trans began) ?_
              rw [invocations, run.noted_snoc stepped, ← invocations, unchecked, silent]
              rfl
          | guarded earlier log guardrails guarded =>
              obtain ⟨next, still, tracks⟩ :=
                guarded.tracks.step guarded.guarded stepped begins readings.ordered
              refine .guarded earlier
                (log ++ (before.invocation? platform tools event).toList) next
                ⟨still, count ▸ guarded.began, ?_, ?_, count ▸ guarded.bounded⟩
              · rw [invocations, run.noted_snoc stepped, ← invocations, guarded.checks,
                  List.append_assoc]
              · rw [validatedTimes_snoc]
                exact tracks

/-- Within a session handlers are called within the limit. -/
theorem stretch_bounded {earlier stretch : ClientTrace} {before : SatelliteClient}
    (first : (satelliteClient platform options tools).Run {} earlier before)
    (run : (satelliteClient platform options tools).Run before stretch client)
    (arrives
      : (satelliteClient platform options tools).StepsMeet {} (earlier ++ stretch)
          SatelliteClient.Arrives)
    (readings : ClockReadings (validatedTimes (earlier ++ stretch)))
    (still : sessionCount stretch = 0) (toolName : String) (stop : ℚ)
    : acceptedBetween (invocations platform options tools before stretch) toolName
        (.finite (stop - 60000)) stop
      ≤ 100 := by
  have times
      : validatedTimes (earlier ++ stretch)
        = validatedTimes earlier ++ validatedTimes stretch :=
    List.filterMap_append
  have ongoing : ∀ entry ∈ stretch, entry.1.startsSession = false := by
    intro entry member
    exact Bool.eq_false_iff.mpr (List.countP_eq_zero.mp still entry member)
  rw [times] at readings
  cases run_life first arrives.before readings.left with
  | guarded past log guardrails guarded =>
      obtain ⟨next, _, tracks⟩ :=
        guarded.tracks.run guarded.guarded run ongoing readings.ordered
      have inRange
          : ∀ entry ∈ log ++ invocations platform options tools before stretch,
              |entry.1.now| ≤ maxTimeValue := by
        intro entry member
        refine readings.inRange _ (List.mem_append.mpr ?_)
        refine (List.mem_append.mp member).imp (fun logged => ?_)
          (now_mem_of_invocation run entry)
        refine now_mem_of_invocation first entry ?_
        rw [guarded.checks]
        exact List.mem_append_right _ logged
      have together := tracks.bounded inRange toolName stop
      rw [acceptedBetween_append] at together
      omega
  | fresh _ began unchecked =>
      cases run_life (first.trans run) arrives (times ▸ readings) with
      | guarded past log guardrails guarded =>
          have some := guarded.began
          rw [sessionCount, List.countP_append, ← sessionCount, ← sessionCount, began,
            still] at some
          contradiction
      | fresh _ _ silent =>
          rw [invocations, first.observed_append] at silent
          have none := (List.append_eq_nil_iff.mp silent).2
          rw [← invocations] at none
          simp [none, acceptedBetween]

/-- Guardrails with the default limit that remember no more invocations than it allows. -/
structure Remembers (guardrails : SatelliteGuardrails) : Prop where
  limit : guardrails.rateLimitPerTool = .finite 100
  few (toolName : String) : (guardrails.remembered toolName).length ≤ 100

theorem Remembers.preValidate {guardrails : SatelliteGuardrails}
    (remembers : Remembers guardrails) (platform : Platform) (now : Int) (toolName : String)
    : Remembers (guardrails.preValidate platform now toolName).1 := by
  have validated := preValidate_preValidated guardrails platform now toolName
  have pruned : (guardrails.recent now toolName).length ≤ 100 :=
    (List.length_filter_le _ _).trans (remembers.few toolName)
  have kept (times : List Int) (few : times.length ≤ 100)
      : Remembers (guardrails.remember toolName times) := by
    refine ⟨remembers.limit, fun other => ?_⟩
    by_cases own : other = toolName
    · rw [own, remembered_remember]
      exact few
    · rw [remembered_remember_of_ne _ _ own]
      exact remembers.few other
  generalize (guardrails.preValidate platform now toolName).1 = next,
    (guardrails.preValidate platform now toolName).2 = rejection at validated ⊢
  cases validated with
  | unlisted => exact remembers
  | limited => exact kept _ pruned
  | accepted listed room =>
      refine kept _ ?_
      rw [remembers.limit] at room
      have below : (guardrails.recent now toolName).length ≠ 100 := by
        intro full
        exact room (by simp [exhausts, Number.le, full])
      rw [List.length_append, List.length_singleton]
      omega

/-- No run makes the guardrails remember more than the limit of each tool. -/
theorem run_remembers (run : (satelliteClient platform options tools).Run {} trace client)
    : ∀ guardrails ∈ client.guardrails, Remembers guardrails := by
  refine run.invariant (fun client => ∀ guardrails ∈ client.guardrails, Remembers guardrails)
    ?_ (by simp)
  intro before event after effects holds stepped guardrails current
  cases SatelliteClient.step_guardrails stepped with
  | starts _ _ fresh =>
      obtain rfl := Option.some.inj (current.symm.trans fresh)
      exact ⟨rfl, fun toolName => by
        simp [SatelliteGuardrails.remembered, SatelliteGuardrails.new]⟩
  | checks now toolName _ _ _ next =>
      rw [next] at current
      unfold SatelliteClient.preValidate at current
      cases guarded : before.guardrails with
      | none => simp [guarded] at current
      | some earlier =>
          rw [guarded] at current
          obtain rfl := Option.some.inj current
          exact (holds earlier guarded).preValidate platform now toolName
  | keeps _ _ same => exact holds guardrails (same ▸ current)

/-- Over the life of a satellite client the handler of a tool is called at most a hundred
times in a minute from one session to the next, and at most that many times as often as
sessions began; and the guardrails never remember more than a hundred calls of a tool.
-/
theorem satelliteClient_rateLimited
    (run : (satelliteClient platform options tools).Run {} trace client)
    (arrives
      : (satelliteClient platform options tools).StepsMeet {} trace
          SatelliteClient.Arrives)
    (readings : ClockReadings (validatedTimes trace))
    : (∀ toolName stop,
        callsInMinute platform options tools {} trace toolName stop
        ≤ 100 * sessionCount trace)
      ∧ (∀ earlier stretch later before toolName stop,
          trace = earlier ++ stretch ++ later
          → (satelliteClient platform options tools).Run {} earlier before
          → sessionCount stretch = 0
          → callsInMinute platform options tools before stretch toolName stop ≤ 100)
      ∧ (∀ guardrails toolName,
          client.guardrails = some guardrails
          → (guardrails.remembered toolName).length ≤ 100) := by
  refine ⟨?_, ?_, ?_⟩
  · intro toolName stop
    exact (callsInMinute_le run toolName stop).trans
      ((run_life run arrives readings).bounded run readings toolName stop)
  · intro earlier stretch later before toolName stop whole first still
    rw [whole] at run arrives readings
    obtain ⟨after, run, _⟩ := run.split (earlier ++ stretch) later
    obtain ⟨middle, run, rest⟩ := run.split earlier stretch
    obtain rfl := first.unique run
    rw [validatedTimes, List.filterMap_append] at readings
    exact (callsInMinute_le rest toolName stop).trans
      (stretch_bounded first rest arrives.before readings.left still toolName stop)
  · intro guardrails toolName current
    exact (run_remembers run guardrails current).few toolName

end Session

/-- Two proposals in one session, and one more in the next. -/
def proposalsOfTwoSessions : List ClientEvent :=
  [
    .connection .connect,
    .connection (.sessionFetched (.obj []) true),
    .connection (.transportOpened 0),
    .proposed countRequest ⟨0, 0, 0⟩,
    .proposed countRequest ⟨1, 1, 1⟩,
    .connection .connect,
    .connection (.sessionFetched (.obj []) true),
    .proposed countRequest ⟨2, 2, 2⟩
  ]

theorem satelliteClient_rateLimited_twice
    : callsInMinute plainPlatform {} [countTool] {}
          ((satelliteClient plainPlatform {} [countTool]).traceOf {} proposalsOfTwoSessions)
          "count" 2
        = 3
      ∧ callsInMinute plainPlatform {} [countTool] {}
          ((satelliteClient plainPlatform {} [countTool]).traceOf {} proposalsOfTwoSessions)
          "count" 2
        ≤ 200 := by
  have run
      : (satelliteClient plainPlatform {} [countTool]).Run {}
          ((satelliteClient plainPlatform {} [countTool]).traceOf {} proposalsOfTwoSessions)
          _ :=
    Machine.traceOf_run (by decide +kernel)
  have within :=
    (satelliteClient_rateLimited run (run.stepsMeet_of_observed (by decide +kernel))
      ⟨by decide +kernel, by decide +kernel⟩).1 "count" 2
  have sessions
      : sessionCount
          ((satelliteClient plainPlatform {} [countTool]).traceOf {} proposalsOfTwoSessions)
        = 2 := by
    decide +kernel
  rw [sessions] at within
  exact ⟨by decide +kernel, within⟩

end Intellisphere.Client
