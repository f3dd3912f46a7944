import Intellisphere.Client.DysonSatellite
import Intellisphere.Foundation.JsValue
import Mathlib.Data.List.AList

/-! How the satellite client answers a tool proposal: guardrails, schema validation, the
handler in a race with its timeout, sanitisation of the result, and the response. A step that
throws outside the one guarded part of the handler leaves the proposal without an answer.
-/

namespace Intellisphere.Client

open Intellisphere.Foundation Intellisphere.Foundation.Js

/-- What is thrown, or what a promise is rejected with: an error with its message, or another
value with the text `String` makes of it, if that does not throw.
-/
inductive Thrown where
  | error (message : String)
  | value (text : Option String)

def Thrown.text? : Thrown → Option String
  | .error message => some message
  | .value text => text

structure ToolContext where
  invocationId : Json
  callerId : Json
  trustBudget : Json
  zone : String
  metadata : Json

/-- What `safeParse` of a schema does; an exception in a refinement passes through it. -/
inductive ParseResult where
  | success (data : Value)
  | failure (message : String)
  | threw

/-- What calling a handler does: it throws, gives a promise, or gives something else, on which
calling `then` throws an error with the given message.
-/
inductive HandlerCall where
  | threw (reason : Thrown)
  | promise
  | notPromise (message : String)

structure EdgeToolConstraints where
  maxResultBytes : Number
  timeoutMs : Number

structure EdgeTool where
  name : String
  safeParse : Json → ParseResult
  handler : Value → ToolContext → HandlerCall
  edge : EdgeToolConstraints

structure ToolProposalRequest where
  requestId : String
  toolName : String
  input : Json
  invocationId : Json
  callerId : Json
  trustBudget : Json
  metadata : Json

/-- What the client uses of its platform: the text of a JSON value and of a number. -/
structure Platform where
  json : JsonApi
  numberText : Number → String

-----------------------------------------------------------------------------------------
-- Guardrails
-----------------------------------------------------------------------------------------

/-- What the guardrails are made from. -/
structure GuardrailsConfig where
  allowedTools : List String
  rateLimitPerTool : Option Number := none
  rateLimitWindowMs : Option Number := none
  redactedAttributes : Option (List String) := none
  globalMaxResultBytes : Option Number := none

/-- The guardrails with the times of recent invocations of each tool. -/
structure SatelliteGuardrails where
  allowedTools : List String
  rateLimitPerTool : Number
  rateLimitWindowMs : Number
  redactedAttributes : List String
  globalMaxResultBytes : Option Number
  buckets : AList (fun _ : String => List Int)

def SatelliteGuardrails.new (config : GuardrailsConfig) : SatelliteGuardrails where
  allowedTools := config.allowedTools
  rateLimitPerTool := config.rateLimitPerTool.getD (.finite 100)
  rateLimitWindowMs := config.rateLimitWindowMs.getD (.finite 60000)
  redactedAttributes := config.redactedAttributes.getD []
  globalMaxResultBytes := config.globalMaxResultBytes
  buckets := ∅

/-- Check the allowlist and the rate limit; a rejection comes with its reason. -/
def SatelliteGuardrails.preValidate (guardrails : SatelliteGuardrails) (platform : Platform)
    (now : Int) (toolName : String)
    : SatelliteGuardrails × Option String :=
  if toolName ∉ guardrails.allowedTools then
    (guardrails, some ("Tool \"" ++ toolName ++ "\" is not in the satellite allowlist."))
  else
    let cutoff := (Number.finite now).sub guardrails.rateLimitWindowMs
    let timestamps :=
      ((guardrails.buckets.lookup toolName).getD []).filter
        (fun time : Int => cutoff.lt (.finite time))
    if guardrails.rateLimitPerTool.le (.finite timestamps.length) then
      (
        { guardrails with buckets := guardrails.buckets.insert toolName timestamps },
        some
          ("Rate limit exceeded for tool \"" ++ toolName ++ "\": "
            ++ platform.numberText guardrails.rateLimitPerTool ++ " invocations per "
            ++ platform.numberText guardrails.rateLimitWindowMs ++ "ms window.")
      )
    else
      (
        {
          guardrails with
          buckets := guardrails.buckets.insert toolName (timestamps ++ [now])
        },
        none
      )

/-- The entries of an object; the names in an array are its indices. -/
def entries : Value → List (String × Value)
  | .object fields => fields
  | .array items => items.zipIdx.map (fun item => (toString item.2, item.1))
  | _ => []

/-- Drop the redacted properties at the top level. Assigning to `__proto__` of the copy gives
it no property of its own.
-/
def SatelliteGuardrails.stripRedacted (guardrails : SatelliteGuardrails) (value : Value)
    : Value :=
  if guardrails.redactedAttributes.isEmpty then value
  else
    .object
      ((entries value).filter
        (fun entry => entry.1 ∉ guardrails.redactedAttributes ∧ entry.1 ≠ "__proto__"))

/-- The data of a result; a circular reference in their place is the result itself. -/
def dataOf (result : Value) : Value :=
  match result.get "data" with
  | .circular => result
  | data => data

/-- The data of a result as they are sent. -/
def SatelliteGuardrails.resultData (guardrails : SatelliteGuardrails) (result : Value)
    : Value :=
  let data := dataOf result
  if data.typeof = "object" && !data.isNullish then guardrails.stripRedacted data else data

/-- `Math.min`; NaN if one of the two is. -/
def Number.min : Number → Number → Number
  | .nan, _ => .nan
  | _, .nan => .nan
  | left, right => if right.lt left then right else left

/-- The limit of a tool; a global limit that is zero or NaN counts as none. -/
def SatelliteGuardrails.maxBytes (guardrails : SatelliteGuardrails) (tool : EdgeTool)
    : Number :=
  match guardrails.globalMaxResultBytes with
  | none => tool.edge.maxResultBytes
  | some limit =>
      if limit = .finite 0 ∨ limit = .nan then tool.edge.maxResultBytes
      else Number.min tool.edge.maxResultBytes limit

/-- The size of data in JSON; the encoder makes nothing of undefined. -/
def Platform.byteLength (platform : Platform) : Option Json → Nat
  | none => 0
  | some json => Foundation.byteLength (platform.json.stringify json).toList

/-- Strip redacted attributes and enforce the size limit. Reading the data of undefined or
null throws, and so does writing refused data.
-/
def SatelliteGuardrails.sanitiseResult (guardrails : SatelliteGuardrails)
    (platform : Platform) (result : Value) (tool : EdgeTool)
    : Except String Value :=
  if result.isNullish then .error "Cannot read properties (reading 'data')"
  else do
    let data := guardrails.resultData result
    let serialised ← stringify data
    let byteLength := platform.byteLength serialised
    let maxBytes := guardrails.maxBytes tool
    if maxBytes.lt (.finite byteLength) then
      return .object
        [
          ("success", .bool false),
          (
            "error",
            .string
              ("Result exceeds maximum size: " ++ toString byteLength ++ " bytes > "
                ++ platform.numberText maxBytes ++ " byte limit.")
          ),
          ("trustCost", result.get "trustCost"),
          ("durationMs", result.get "durationMs")
        ]
    else
      return .object
        [
          ("success", result.get "success"),
          ("data", data),
          ("error", result.get "error"),
          ("trustCost", result.get "trustCost"),
          ("durationMs", result.get "durationMs")
        ]

-----------------------------------------------------------------------------------------
-- The handler in its race with the timeout
-----------------------------------------------------------------------------------------

inductive Settlement where
  | resolved (value : Value)
  | rejected (reason : Thrown)

inductive RaceEvent where
  | settled (settlement : Settlement)
  | timerFired

/-- How the promise of a handler and the timer go: the promise settles while the timer runs,
which clears it, or the timer fires and the promise settles later or never.
-/
inductive PromiseRun where
  | inTime (settlement : Settlement)
  | late (settlement : Option Settlement)

def PromiseRun.events : PromiseRun → List RaceEvent
  | .inTime settlement => [.settled settlement]
  | .late settlement => .timerFired :: (settlement.map RaceEvent.settled).toList

/-- Settle a promise; only the first time counts. -/
def settle (outcome : Option (Except String Value)) (next : Except String Value)
    : Option (Except String Value) :=
  match outcome with
  | none => some next
  | some first => some first

/-- One event of the race. A rejection reason without text throws in the handler that would
pass it on, so it settles nothing.
-/
def raceStep (timeoutMessage : String) (outcome : Option (Except String Value))
    : RaceEvent → Option (Except String Value)
  | .settled (.resolved value) => settle outcome (.ok value)
  | .settled (.rejected reason) =>
      match reason.text? with
      | none => outcome
      | some message => settle outcome (.error message)
  | .timerFired => settle outcome (.error timeoutMessage)

/-- The outcome of the race, if it ever has one. -/
def executeWithTimeout (platform : Platform) (timeoutMs : Number) (run : PromiseRun)
    : Option (Except String Value) :=
  run.events.foldl
    (raceStep ("Tool execution timed out after " ++ platform.numberText timeoutMs ++ "ms."))
    none

-----------------------------------------------------------------------------------------
-- Answering a proposal
-----------------------------------------------------------------------------------------

/-- What a proposal leads to: the guardrails afterwards, the messages sent, and the errors
reported. The transport is open throughout.
-/
structure ProposalRun where
  guardrails : SatelliteGuardrails
  sent : List Json := []
  reported : List String := []

/-- The result of an invocation that fails. -/
def failureResult (error : String) (durationMs : Int) : Value :=
  .object
    [
      ("success", .bool false),
      ("error", .string error),
      ("trustCost", .number (.finite 0)),
      ("durationMs", .number (.finite durationMs))
    ]

def proposalResponse (requestId : String) (result : Value) : Value :=
  .object
    [
      ("type", .string "tool_proposal_response"),
      ("requestId", .string requestId),
      ("result", result)
    ]

/-- Send a response; an error while writing it is reported. -/
def sendResponse (guardrails : SatelliteGuardrails) (requestId : String) (result : Value)
    : ProposalRun :=
  match stringify (proposalResponse requestId result) with
  | .ok json => { guardrails, sent := json.toList }
  | .error message => { guardrails, reported := [message] }

/-- The clock readings of one proposal. -/
structure ProposalClock where
  validated : Int
  started : Int
  failed : Int

def ToolProposalRequest.context (request : ToolProposalRequest) : ToolContext :=
  {
    invocationId := request.invocationId
    callerId := request.callerId
    trustBudget := request.trustBudget
    zone := "satellite"
    metadata := request.metadata
  }

/-- The result of the guarded part: none if it is never left, an error if the exception
handler itself throws.
-/
def EdgeTool.execute (tool : EdgeTool) (platform : Platform) (clock : ProposalClock)
    (data : Value) (context : ToolContext) (run : PromiseRun)
    : Option Value :=
  match tool.handler data context with
  | .threw reason => reason.text?.map (failureResult · (clock.failed - clock.started))
  | .notPromise message => some (failureResult message (clock.failed - clock.started))
  | .promise =>
      match executeWithTimeout platform tool.edge.timeoutMs run with
      | none => none
      | some (.ok value) => some value
      | some (.error message) =>
          some (failureResult message (clock.failed - clock.started))

/-- Handle a tool proposal, with the registered tools and how the promise of the handler, if
it comes to one, goes.
-/
def handleToolProposal (platform : Platform) (tools : List EdgeTool)
    (guardrails : SatelliteGuardrails) (clock : ProposalClock)
    (request : ToolProposalRequest) (run : PromiseRun)
    : ProposalRun :=
  match tools.find? (fun tool => tool.name = request.toolName) with
  | none =>
      sendResponse guardrails request.requestId
        (failureResult ("Unknown tool: \"" ++ request.toolName ++ "\"") 0)
  | some tool =>
      match guardrails.preValidate platform clock.validated request.toolName with
      | (guardrails, some rejection) =>
          sendResponse guardrails request.requestId (failureResult rejection 0)
      | (guardrails, none) =>
          match tool.safeParse request.input with
          | .threw => { guardrails }
          | .failure message =>
              sendResponse guardrails request.requestId
                (failureResult ("Input validation failed: " ++ message) 0)
          | .success data =>
              match tool.execute platform clock data request.context run with
              | none => { guardrails }
              | some result =>
                  -- Sanitising stands outside the part whose exceptions are caught.
                  match guardrails.sanitiseResult platform result tool with
                  | .error _ => { guardrails }
                  | .ok sanitised => sendResponse guardrails request.requestId sanitised

-----------------------------------------------------------------------------------------
-- Exactly one response
-----------------------------------------------------------------------------------------

/-- A settled race stays as it is. -/
theorem raceStep_some (timeoutMessage : String) (first : Except String Value)
    (event : RaceEvent)
    : raceStep timeoutMessage (some first) event = some first := by
  cases event with
  | timerFired => rfl
  | settled settlement =>
      cases settlement with
      | resolved value => rfl
      | rejected reason =>
          simp only [raceStep]
          cases reason.text? <;> rfl

/-- Nothing that happens after the race is settled changes its outcome, by induction on the
events.
-/
theorem race_settled (timeoutMessage : String) (first : Except String Value)
    (events : List RaceEvent)
    : events.foldl (raceStep timeoutMessage) (some first) = some first := by
  induction events with
  | nil => rfl
  | cons event rest ih => rw [List.foldl_cons, raceStep_some, ih]

/-- A promise that loses the race has no say in its outcome. -/
theorem executeWithTimeout_late (platform : Platform) (timeoutMs : Number)
    (settlement : Option Settlement)
    : executeWithTimeout platform timeoutMs (.late settlement)
      = some
          (.error
            ("Tool execution timed out after " ++ platform.numberText timeoutMs
              ++ "ms.")) := by
  unfold executeWithTimeout PromiseRun.events
  exact race_settled _ _ _

theorem executeWithTimeout_resolved (platform : Platform) (timeoutMs : Number)
    (value : Value)
    : executeWithTimeout platform timeoutMs (.inTime (.resolved value))
      = some (.ok value) :=
  rfl

/-- A rejection in time settles the race if its reason has a text. -/
theorem executeWithTimeout_rejected (platform : Platform) (timeoutMs : Number)
    (reason : Thrown)
    : executeWithTimeout platform timeoutMs (.inTime (.rejected reason))
      = reason.text?.map .error := by
  unfold executeWithTimeout PromiseRun.events
  rw [List.foldl_cons, List.foldl_nil, raceStep]
  cases reason.text? <;> rfl

/-- The messages sent are one response to the proposal. -/
def ProposalRun.Answers (run : ProposalRun) (requestId : String) : Prop :=
  ∃ response,
    run.sent = [response]
    ∧ response.get? "type" = some (.str "tool_proposal_response")
    ∧ response.get? "requestId" = some (.str requestId)

theorem proposalResponse_isRefused (requestId : String) (result : Value)
    : (proposalResponse requestId result).isRefused = result.isRefused := by
  simp [proposalResponse, Value.isRefused, anyFieldRefused]

@[simp]
theorem failureResult_isRefused (error : String) (durationMs : Int)
    : (failureResult error durationMs).isRefused = false := by
  simp [failureResult, Value.isRefused, anyFieldRefused]

/-- A result is sent once if it can be written, and otherwise not at all. -/
theorem sendResponse_answers_iff (guardrails : SatelliteGuardrails) (requestId : String)
    (result : Value)
    : (sendResponse guardrails requestId result).Answers requestId
      ↔ result.isRefused = false := by
  rw [← proposalResponse_isRefused requestId, ← stringify_ok_iff]
  unfold ProposalRun.Answers sendResponse proposalResponse
  rw [stringify]
  simp only [stringifyFields, stringify]
  cases stringify result with
  | error message => simp [bind, Except.bind]
  | ok json => simp [bind, Except.bind, pure, Except.pure, Json.get?, List.lookup_cons]

/-- The data of a result are more than the limit of the tool allows. -/
def SatelliteGuardrails.IsTooLarge (guardrails : SatelliteGuardrails) (platform : Platform)
    (result : Value) (tool : EdgeTool) : Prop :=
  ∃ json,
    stringify (guardrails.resultData result) = .ok json
    ∧ (guardrails.maxBytes tool).lt (.finite (platform.byteLength json)) = true

/-- What a handler resolves to can be written: it has properties, and none of those that are
sent is refused. The verdict and the error of a result with too much data are not sent.
-/
structure Reportable (guardrails : SatelliteGuardrails) (platform : Platform)
    (result : Value) (tool : EdgeTool) : Prop where
  present : result.isNullish = false
  data : (guardrails.resultData result).isRefused = false
  trustCost : (result.get "trustCost").isRefused = false
  durationMs : (result.get "durationMs").isRefused = false
  verdict
    : guardrails.IsTooLarge platform result tool
      ∨ (result.get "success").isRefused = false ∧ (result.get "error").isRefused = false

/-- A result is sanitised to something that can be written exactly when it is reportable. -/
theorem sanitiseResult_writable_iff (guardrails : SatelliteGuardrails)
    (platform : Platform) (result : Value) (tool : EdgeTool)
    : (∃ sanitised,
        guardrails.sanitiseResult platform result tool = .ok sanitised
        ∧ sanitised.isRefused = false)
      ↔ Reportable guardrails platform result tool := by
  cases present : result.isNullish with
  | true =>
      have absent : ¬Reportable guardrails platform result tool :=
        fun reportable => by simp [reportable.present] at present
      simp [SatelliteGuardrails.sanitiseResult, present, absent]
  | false =>
      cases written : stringify (guardrails.resultData result) with
      | error message =>
          have absent : ¬Reportable guardrails platform result tool := by
            intro reportable
            obtain ⟨json, ok⟩ := (stringify_ok_iff _).mpr reportable.data
            simp [written] at ok
          simp [SatelliteGuardrails.sanitiseResult, present, written, absent, bind,
            Except.bind]
      | ok json =>
          have data := (stringify_ok_iff _).mp ⟨json, written⟩
          have tooLarge
              : guardrails.IsTooLarge platform result tool
                ↔ (guardrails.maxBytes tool).lt (.finite (platform.byteLength json))
                  = true := by
            simp [SatelliteGuardrails.IsTooLarge, written]
          have reportable
              : Reportable guardrails platform result tool
                ↔ (result.get "trustCost").isRefused = false
                  ∧ (result.get "durationMs").isRefused = false
                  ∧ (guardrails.IsTooLarge platform result tool
                    ∨ (result.get "success").isRefused = false
                      ∧ (result.get "error").isRefused = false) :=
            ⟨fun ok => ⟨ok.trustCost, ok.durationMs, ok.verdict⟩,
              fun ⟨trustCost, durationMs, verdict⟩ =>
                ⟨present, data, trustCost, durationMs, verdict⟩⟩
          rw [reportable, tooLarge]
          cases large : (guardrails.maxBytes tool).lt (.finite (platform.byteLength json)) <;>
            simp [SatelliteGuardrails.sanitiseResult, present, written, large, data, bind,
              Except.bind, pure, Except.pure, Value.isRefused, anyFieldRefused]
          tauto

/-- A failure can always be written. -/
theorem failureResult_reportable (guardrails : SatelliteGuardrails) (platform : Platform)
    (error : String) (durationMs : Int) (tool : EdgeTool)
    : Reportable guardrails platform (failureResult error durationMs) tool := by
  have absent : (failureResult error durationMs).get "data" = .undefined := by
    simp [failureResult, Value.get, List.lookup_cons]
  have data
      : guardrails.resultData (failureResult error durationMs) = .undefined := by
    simp [SatelliteGuardrails.resultData, dataOf, absent, Value.typeof]
  refine ⟨rfl, by rw [data]; simp [Value.isRefused], ?_, ?_, Or.inr ⟨?_, ?_⟩⟩ <;>
    simp [failureResult, Value.get, List.lookup_cons, Value.isRefused]

/-- Recording an invocation leaves what the guardrails do to results as it is. -/
theorem preValidate_sanitiseResult (guardrails : SatelliteGuardrails) (platform : Platform)
    (now : Int) (toolName : String) (result : Value) (tool : EdgeTool)
    : (guardrails.preValidate platform now toolName).1.sanitiseResult platform result tool
      = guardrails.sanitiseResult platform result tool := by
  unfold SatelliteGuardrails.preValidate
  split
  · rfl
  · dsimp only
    split <;> rfl

/-- A call of a handler that leaves its proposal without a response. -/
inductive EdgeTool.FallsSilent (tool : EdgeTool) (platform : Platform)
    (guardrails : SatelliteGuardrails) (data : Value) (context : ToolContext)
    (run : PromiseRun) : Prop where
  | throws (reason : Thrown) (threw : tool.handler data context = .threw reason)
    (noText : reason.text? = none)
  | rejects (reason : Thrown) (called : tool.handler data context = .promise)
    (rejected : run = .inTime (.rejected reason)) (noText : reason.text? = none)
  | resolves (result : Value) (called : tool.handler data context = .promise)
    (resolved : run = .inTime (.resolved result))
    (unreportable : ¬Reportable guardrails platform result tool)

/-- The tool of a proposal is registered, and the guardrails let the proposal through. -/
structure Admitted (platform : Platform) (tools : List EdgeTool)
    (guardrails : SatelliteGuardrails) (clock : ProposalClock) (request : ToolProposalRequest)
    (tool : EdgeTool) : Prop where
  registered : tools.find? (fun tool => tool.name = request.toolName) = some tool
  allowed : (guardrails.preValidate platform clock.validated request.toolName).2 = none

/-- The ways a proposal stays without a response. -/
inductive Unanswered (platform : Platform) (tools : List EdgeTool)
    (guardrails : SatelliteGuardrails) (clock : ProposalClock)
    (request : ToolProposalRequest) (run : PromiseRun) : Prop where
  | schemaThrows (tool : EdgeTool)
    (admitted : Admitted platform tools guardrails clock request tool)
    (threw : tool.safeParse request.input = .threw)
  | handlerFallsSilent (tool : EdgeTool) (data : Value)
    (admitted : Admitted platform tools guardrails clock request tool)
    (parsed : tool.safeParse request.input = .success data)
    (silent
      : tool.FallsSilent platform guardrails data request.context run)

/-- Whether a handler falls silent is seen from how its call and its promise go. -/
theorem EdgeTool.fallsSilent_iff (tool : EdgeTool) (platform : Platform)
    (guardrails : SatelliteGuardrails) (data : Value) (context : ToolContext)
    (run : PromiseRun)
    : tool.FallsSilent platform guardrails data context run
      ↔ match tool.handler data context, run with
        | .threw reason, _ => reason.text? = none
        | .notPromise _, _ => False
        | .promise, .late _ => False
        | .promise, .inTime (.resolved result) =>
            ¬Reportable guardrails platform result tool
        | .promise, .inTime (.rejected reason) => reason.text? = none := by
  refine ⟨?_, ?_⟩
  · intro silent
    cases silent with
    | throws reason threw noText => rw [threw]; exact noText
    | rejects reason called rejected noText => rw [called, rejected]; exact noText
    | resolves result called resolved unreportable =>
        rw [called, resolved]
        exact unreportable
  · intro silent
    split at silent
    next _ reason threw => exact .throws reason threw silent
    next => exact silent.elim
    next => exact silent.elim
    next result called => exact .resolves result called rfl silent
    next reason called => exact .rejects reason called rfl silent

/-- The guarded part gives a result that can be written unless the handler falls silent, by
cases on what the handler does.
-/
theorem execute_reportable_iff (tool : EdgeTool) (platform : Platform)
    (guardrails : SatelliteGuardrails) (clock : ProposalClock) (data : Value)
    (context : ToolContext) (run : PromiseRun)
    : (∃ result,
        tool.execute platform clock data context run = some result
        ∧ Reportable guardrails platform result tool)
      ↔ ¬tool.FallsSilent platform guardrails data context run := by
  have failure (message : String)
      : Reportable guardrails platform
          (failureResult message (clock.failed - clock.started)) tool :=
    failureResult_reportable guardrails platform message _ tool
  rw [EdgeTool.fallsSilent_iff, EdgeTool.execute]
  cases called : tool.handler data context with
  | threw reason => cases text : reason.text? <;> simp [text, failure]
  | notPromise message => simp [failure]
  | promise =>
      cases run with
      | late settlement => simp [executeWithTimeout_late, failure]
      | inTime settlement =>
          cases settlement with
          | resolved value => simp [executeWithTimeout_resolved]
          | rejected reason =>
              rw [executeWithTimeout_rejected]
              cases text : reason.text? <;> simp [text, failure]

/-- Sanitising a result and sending it answers exactly when the result is reportable. -/
theorem sanitised_answers_iff (guardrails after : SatelliteGuardrails) (platform : Platform)
    (requestId : String) (result : Value) (tool : EdgeTool)
    (sameResult
      : after.sanitiseResult platform result tool
        = guardrails.sanitiseResult platform result tool)
    : (match after.sanitiseResult platform result tool with
        | .error _ => ProposalRun.mk after [] []
        | .ok sanitised => sendResponse after requestId sanitised).Answers requestId
      ↔ Reportable guardrails platform result tool := by
  rw [← sanitiseResult_writable_iff, sameResult]
  cases guardrails.sanitiseResult platform result tool with
  | error message => simp [ProposalRun.Answers]
  | ok sanitised => simp [sendResponse_answers_iff]

/-- A proposal whose tool is admitted stays unanswered through its schema or its handler. -/
theorem Admitted.unanswered_iff {platform : Platform} {tools : List EdgeTool}
    {guardrails : SatelliteGuardrails} {clock : ProposalClock}
    {request : ToolProposalRequest} {tool : EdgeTool}
    (admitted : Admitted platform tools guardrails clock request tool) (run : PromiseRun)
    : Unanswered platform tools guardrails clock request run
      ↔ tool.safeParse request.input = .threw
        ∨ ∃ data,
            tool.safeParse request.input = .success data
            ∧ tool.FallsSilent platform guardrails data request.context run := by
  have only (other : EdgeTool)
      (also : Admitted platform tools guardrails clock request other)
      : other = tool :=
    Option.some.inj (also.registered.symm.trans admitted.registered)
  refine ⟨?_, ?_⟩
  · intro unanswered
    cases unanswered with
    | schemaThrows other also threw =>
        obtain rfl := only other also
        exact Or.inl threw
    | handlerFallsSilent other data also parsed silent =>
        obtain rfl := only other also
        exact Or.inr ⟨data, parsed, silent⟩
  · intro ways
    rcases ways with threw | ⟨data, parsed, silent⟩
    · exact .schemaThrows tool admitted threw
    · exact .handlerFallsSilent tool data admitted parsed silent

/-- An admitted proposal gets exactly one response unless it stays unanswered, by cases on
what its schema makes of the input.
-/
theorem Admitted.answers_iff {platform : Platform} {tools : List EdgeTool}
    {guardrails : SatelliteGuardrails} {clock : ProposalClock}
    {request : ToolProposalRequest} {tool : EdgeTool}
    (admitted : Admitted platform tools guardrails clock request tool) (run : PromiseRun)
    : (handleToolProposal platform tools guardrails clock request run).Answers
        request.requestId
      ↔ ¬Unanswered platform tools guardrails clock request run := by
  rw [admitted.unanswered_iff]
  unfold handleToolProposal
  rw [admitted.registered]
  dsimp only
  cases verdict : guardrails.preValidate platform clock.validated request.toolName with
  | mk after rejection =>
      obtain rfl : rejection = none := by simpa [verdict] using admitted.allowed
      dsimp only
      cases parsed : tool.safeParse request.input with
      | threw => simp [ProposalRun.Answers]
      | failure message => simp [sendResponse_answers_iff]
      | success data =>
          have silent := execute_reportable_iff tool platform guardrails clock data
            request.context run
          simp only [reduceCtorEq, ParseResult.success.injEq, exists_eq_left', false_or]
          rw [← silent]
          cases tool.execute platform clock data request.context run with
          | none => simp [ProposalRun.Answers]
          | some result =>
              have same := preValidate_sanitiseResult guardrails platform
                clock.validated request.toolName result tool
              rw [verdict] at same
              simpa using
                sanitised_answers_iff guardrails after platform request.requestId result tool
                  same

/-- A proposal gets exactly one response unless its schema throws, or its handler fails with
a reason that has no text or resolves in time to something that cannot be written.
-/
theorem handleToolProposal_answers_iff (platform : Platform) (tools : List EdgeTool)
    (guardrails : SatelliteGuardrails) (clock : ProposalClock)
    (request : ToolProposalRequest) (run : PromiseRun)
    : (handleToolProposal platform tools guardrails clock request run).Answers
        request.requestId
      ↔ ¬Unanswered platform tools guardrails clock request run := by
  by_cases some : ∃ tool, Admitted platform tools guardrails clock request tool
  · obtain ⟨tool, admitted⟩ := some
    exact admitted.answers_iff run
  · have answered : ¬Unanswered platform tools guardrails clock request run := by
      intro unanswered
      rcases unanswered with ⟨tool, admitted, _⟩ | ⟨tool, _, admitted, _, _⟩ <;>
        exact some ⟨tool, admitted⟩
    unfold handleToolProposal
    cases registered : tools.find? (fun tool => tool.name = request.toolName) with
    | none => simp [sendResponse_answers_iff, answered]
    | some tool =>
        dsimp only
        cases verdict : guardrails.preValidate platform clock.validated request.toolName with
        | mk after rejection =>
            cases rejection with
            | some message => simp [sendResponse_answers_iff, answered]
            | none => exact (some ⟨tool, registered, by rw [verdict]⟩).elim

/-- A tool that takes any input and whose handler gives a promise. -/
def countTool : EdgeTool where
  name := "count"
  safeParse := fun _ => .success .undefined
  handler := fun _ _ => .promise
  edge := {
    maxResultBytes := .finite 1048576
    timeoutMs := .finite 30000
  }

def countRequest : ToolProposalRequest where
  requestId := "r1"
  toolName := "count"
  input := .null
  invocationId := .null
  callerId := .null
  trustBudget := .null
  metadata := .null

def plainPlatform : Platform where
  json := {
    stringify := fun _ => ""
    parse := fun _ => none
  }
  numberText := fun _ => "0"

/-- A well-typed result whose data is a BigInt. -/
def bigResult : Value :=
  .object
    [
      ("success", .bool true),
      ("data", .bigint 1),
      ("trustCost", .number (.finite 0)),
      ("durationMs", .number (.finite 0))
    ]

/-- A handler that resolves to a BigInt leaves its proposal without a response. -/
theorem bigResult_unanswered
    : ¬∀ (platform : Platform) (tools : List EdgeTool) (guardrails : SatelliteGuardrails)
        (clock : ProposalClock) (request : ToolProposalRequest) (run : PromiseRun),
        request.toolName ∈ tools.map EdgeTool.name
        → (handleToolProposal platform tools guardrails clock request run).Answers
            request.requestId := by
  intro answered
  obtain ⟨response, sent, _⟩ := answered plainPlatform [countTool]
    (.new { allowedTools := ["count"] }) ⟨0, 0, 0⟩ countRequest (.inTime (.resolved bigResult))
    (by simp [countRequest, countTool])
  have silent
      : (handleToolProposal plainPlatform [countTool] (.new { allowedTools := ["count"] })
          ⟨0, 0, 0⟩ countRequest (.inTime (.resolved bigResult))).sent = [] :=
    rfl
  exact absurd (silent.symm.trans sent) (by simp)

end Intellisphere.Client
