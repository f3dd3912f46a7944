import Intellisphere.Client.Connection
import Intellisphere.Client.ToolProposal

/-! A satellite client with many proposals at once. While handlers run, further messages
arrive, connections close and are opened anew, and the client connects and disconnects; a
response goes to whatever transport is the current one when its handler is done.
-/

namespace Intellisphere.Client

open Intellisphere.Foundation Intellisphere.Foundation.Js

/-- A proposal whose handler was called. What the handler gave may be no promise, and then the
call is rejected.
-/
structure RunningProposal where
  requestId : String
  tool : EdgeTool
  rejection : Option String
  startMs : Int

/-- The client: its connection, the guardrails of its last session and the proposals whose
handlers run.
-/
structure SatelliteClient where
  connection : DysonSatellite := {}
  guardrails : Option SatelliteGuardrails := none
  currentTrustBudget : Option Json := some (.num 0)
  running : List RunningProposal := []

/-- What happens to a client. A running proposal settles as its race with the timeout went. -/
inductive ClientEvent where
  | connection (event : ConnectionEvent)
  | proposed (request : ToolProposalRequest) (clock : ProposalClock)
  | settled (proposal : Nat) (run : PromiseRun) (now : Int)
  | received (dispatch : Dispatch)

inductive ClientEffect where
  | connection (effect : ConnectionEffect)
  | sent (transport : Nat) (message : Json)
  | onTrustBudgetUpdate (trustBudget : Option Json)
  | onSphereError (code message : Option Json)
  | onError (message : String)

namespace SatelliteClient

variable (platform : Platform)

/-- The current transport, if it is open. -/
def openTransport? (client : SatelliteClient) : Option Nat :=
  client.connection.transport.filter
    (fun index =>
      client.connection.transports[index]?.map Transport.status = some .opened)

/-- Send a response. Without a transport nothing happens, and an error is reported. -/
def sendResponse (client : SatelliteClient) (requestId : String) (result : Value)
    : List ClientEffect :=
  match client.connection.transport, client.openTransport? with
  | none, _ => []
  | some _, none => [.onError "Cannot send: WebSocket is not open."]
  | some _, some index =>
      match stringify (proposalResponse requestId result) with
      | .ok json => json.toList.map (ClientEffect.sent index)
      | .error message => [.onError message]

/-- Send a pong, if that is possible. -/
def sendPong (client : SatelliteClient) : List ClientEffect :=
  client.openTransport?.toList.map
    (fun index => .sent index OutboundMessage.heartbeatPong.toJson)

/-- Sanitise the result of a handler with the guardrails of the moment, and send it. -/
def report (client : SatelliteClient) (requestId : String) (tool : EdgeTool)
    (result : Value)
    : List ClientEffect :=
  match client.guardrails with
  | none => client.sendResponse requestId result
  | some guardrails =>
      match guardrails.sanitiseResult platform result tool with
      | .error _ => []
      | .ok sanitised => client.sendResponse requestId sanitised

/-- Check a proposal against the guardrails, if there are any. -/
def preValidate (client : SatelliteClient) (now : Int) (toolName : String)
    : SatelliteClient × Option String :=
  match client.guardrails with
  | none => (client, none)
  | some guardrails =>
      let checked := guardrails.preValidate platform now toolName
      ({ client with guardrails := some checked.1 }, checked.2)

/-- Call the handler of a proposal that was let through. -/
def callHandler (client : SatelliteClient) (clock : ProposalClock)
    (request : ToolProposalRequest) (tool : EdgeTool) (data : Value)
    : SatelliteClient × List ClientEffect :=
  let running (rejection : Option String) : SatelliteClient :=
    {
      client with
      running :=
        client.running
        ++ [{ requestId := request.requestId, tool, rejection, startMs := clock.started }]
    }
  match tool.handler data request.context with
  | .threw reason =>
      match reason.text? with
      | none => (client, [])
      | some message =>
          (
            client,
            client.report platform request.requestId tool
              (failureResult message (clock.failed - clock.started))
          )
  | .promise => (running none, [])
  | .notPromise message => (running (some message), [])

/-- Handle a proposal up to where its handler is awaited. -/
def handleToolProposal (tools : List EdgeTool) (client : SatelliteClient)
    (clock : ProposalClock) (request : ToolProposalRequest)
    : SatelliteClient × List ClientEffect :=
  match tools.find? (fun tool => tool.name = request.toolName) with
  | none =>
      (
        client,
        client.sendResponse request.requestId
          (failureResult ("Unknown tool: \"" ++ request.toolName ++ "\"") 0)
      )
  | some tool =>
      match client.preValidate platform clock.validated request.toolName with
      | (client, some rejection) =>
          (client, client.sendResponse request.requestId (failureResult rejection 0))
      | (client, none) =>
          match tool.safeParse request.input with
          | .threw => (client, [])
          | .failure message =>
              (
                client,
                client.sendResponse request.requestId
                  (failureResult ("Input validation failed: " ++ message) 0)
              )
          | .success data => client.callHandler platform clock request tool data

/-- The outcome of a running proposal, if its race has one. -/
def outcome (proposal : RunningProposal) (run : PromiseRun) : Option (Except String Value) :=
  match proposal.rejection with
  | some message => some (.error message)
  | none => executeWithTimeout platform proposal.tool.edge.timeoutMs run

/-- The result of a proposal from its outcome. -/
def resultOf (proposal : RunningProposal) (now : Int) : Except String Value → Value
  | .ok value => value
  | .error message => failureResult message (now - proposal.startMs)

/-- The guardrails and the trust budget come with the session. -/
def startSession (tools : List EdgeTool) (client : SatelliteClient)
    : ConnectionEvent → SatelliteClient
  | .sessionFetched .null _ => client
  | .sessionFetched session _ =>
      {
        client with
        guardrails := some (.new { allowedTools := tools.map EdgeTool.name })
        currentTrustBudget := session.get? "trustBudget"
      }
  | _ => client

/-- Take an event. -/
def step (options : SatelliteOptions) (tools : List EdgeTool) (client : SatelliteClient)
    : ClientEvent → Option (SatelliteClient × List ClientEffect)
  | .connection event =>
      match client.connection.step options event with
      | none => none
      | some (connection, effects) =>
          some
            (
              startSession tools { client with connection } event,
              effects.map ClientEffect.connection
            )
  | .proposed request clock =>
      some (client.handleToolProposal platform tools clock request)
  | .settled proposal run now =>
      match client.running[proposal]? with
      | none => none
      | some awaited =>
          match outcome platform awaited run with
          | none => none
          | some outcome =>
              let client := { client with running := client.running.eraseIdx proposal }
              some
                (
                  client,
                  client.report platform awaited.requestId awaited.tool
                    (resultOf awaited now outcome)
                )
  | .received dispatch =>
      match dispatch with
      | .handleToolProposal _ => none
      | .trustBudgetUpdate trustBudget =>
          some
            (
              { client with currentTrustBudget := trustBudget },
              [.onTrustBudgetUpdate trustBudget]
            )
      | .sendPong => some (client, client.sendPong)
      | .onError code message => some (client, [.onSphereError code message])
      | .ignored => some (client, [])
      | .typeError => some (client, [])

end SatelliteClient

/-- A client over time. -/
def satelliteClient (platform : Platform) (options : SatelliteOptions) (tools : List EdgeTool)
    : Machine SatelliteClient ClientEvent (List ClientEffect) where
  step := SatelliteClient.step platform options tools

-----------------------------------------------------------------------------------------
-- Responses
-----------------------------------------------------------------------------------------

/-- The request that a message answers. -/
def ClientEffect.answered? : ClientEffect → Option String
  | .sent _ message =>
      match message.get? "type" with
      | some (.str "tool_proposal_response") => (message.get? "requestId").bind Json.asStr
      | _ => none
  | _ => none

/-- The requests that some effects answer. -/
def answeredIds (effects : List ClientEffect) : List String :=
  effects.filterMap ClientEffect.answered?

/-- The effects have one response to a request if a condition holds, and otherwise none. -/
structure Responds (effects : List ClientEffect) (requestId : String) (condition : Prop)
    : Prop where
  answers : condition → answeredIds effects = [requestId]
  fails : ¬condition → answeredIds effects = []

/-- Every message in some effects is sent over one transport. -/
def SentOver (transport : Option Nat) (effects : List ClientEffect) : Prop :=
  ∀ index message, .sent index message ∈ effects → transport = some index

/-- The effects of a proposal handled in one go over a transport. -/
def ProposalRun.effects (index : Nat) (run : ProposalRun) : List ClientEffect :=
  run.sent.map (ClientEffect.sent index) ++ run.reported.map ClientEffect.onError

namespace SatelliteClient

variable {platform : Platform} {options : SatelliteOptions} {tools : List EdgeTool}
  {client : SatelliteClient}

/-- On an open transport a response is sent as for a single proposal. -/
theorem sendResponse_open {index : Nat} (opened : client.openTransport? = some index)
    (guardrails : SatelliteGuardrails) (requestId : String) (result : Value)
    : client.sendResponse requestId result
      = (Client.sendResponse guardrails requestId result).effects index := by
  obtain ⟨current, _⟩ := Option.filter_eq_some_iff.mp opened
  unfold SatelliteClient.sendResponse Client.sendResponse
  rw [current, opened]
  dsimp only
  cases stringify (proposalResponse requestId result) <;> simp [ProposalRun.effects]

theorem sendResponse_closed (closed : client.openTransport? = none) (requestId : String)
    (result : Value)
    : answeredIds (client.sendResponse requestId result) = [] := by
  unfold SatelliteClient.sendResponse
  rw [closed]
  cases client.connection.transport <;> rfl

/-- A response is sent if the transport is open and it can be written. -/
theorem sendResponse_responds (client : SatelliteClient) (requestId : String)
    (result : Value)
    : Responds (client.sendResponse requestId result) requestId
        (client.openTransport?.isSome ∧ result.isRefused = false) where
  answers := by
    intro can
    obtain ⟨index, opened⟩ := Option.isSome_iff_exists.mp can.1
    obtain ⟨response, sent, type, id⟩ :=
      (sendResponse_answers_iff (.new { allowedTools := [] }) requestId result).mpr can.2
    have single : ClientEffect.answered? (.sent index response) = some requestId := by
      simp [ClientEffect.answered?, type, id, Json.asStr]
    rw [sendResponse_open opened (.new { allowedTools := [] }), ProposalRun.effects, sent,
      answeredIds, List.filterMap_append, List.map_singleton, List.filterMap_cons_some single,
      List.filterMap_map]
    simp [Function.comp_def, ClientEffect.answered?]
  fails := by
    intro cannot
    cases opened : client.openTransport? with
    | none => exact sendResponse_closed opened requestId result
    | some index =>
        have refused : result.isRefused ≠ false :=
          fun written => cannot ⟨by simp [opened], written⟩
        rw [← proposalResponse_isRefused requestId, Ne, ← stringify_ok_iff] at refused
        unfold SatelliteClient.sendResponse
        rw [opened]
        cases client.connection.transport with
        | none => rfl
        | some current =>
            cases written : stringify (proposalResponse requestId result) with
            | ok json => exact (refused ⟨json, written⟩).elim
            | error message => rfl

/-- A response goes over the current transport, which is open. -/
theorem sendResponse_sentOver (client : SatelliteClient) (requestId : String)
    (result : Value)
    : SentOver client.openTransport? (client.sendResponse requestId result) := by
  intro index message sent
  unfold SatelliteClient.sendResponse at sent
  split at sent
  · simp at sent
  · simp at sent
  next current index' _ opened =>
    split at sent
    · obtain ⟨json, _, same⟩ := List.mem_map.mp sent
      obtain ⟨rfl, _⟩ := ClientEffect.sent.inj same
      exact opened
    · simp at sent

/-- A result of a handler can be reported. -/
def Reports (platform : Platform) (client : SatelliteClient) (tool : EdgeTool)
    (result : Value)
    : Prop :=
  match client.guardrails with
  | none => result.isRefused = false
  | some guardrails => Reportable guardrails platform result tool

theorem report_responds (platform : Platform) (client : SatelliteClient) (requestId : String)
    (tool : EdgeTool) (result : Value)
    : Responds (client.report platform requestId tool result) requestId
        (client.openTransport?.isSome ∧ client.Reports platform tool result) := by
  unfold report Reports
  cases client.guardrails with
  | none => exact client.sendResponse_responds requestId result
  | some guardrails =>
      dsimp only
      rw [← sanitiseResult_writable_iff]
      cases sanitised : guardrails.sanitiseResult platform result tool with
      | error message =>
          exact ⟨fun can => by simp at can, fun _ => rfl⟩
      | ok value =>
          have sends := client.sendResponse_responds requestId value
          simpa using sends

theorem failureResult_reports (platform : Platform) (client : SatelliteClient)
    (tool : EdgeTool) (error : String) (durationMs : Int)
    : client.Reports platform tool (failureResult error durationMs) := by
  unfold Reports
  split
  · exact failureResult_isRefused error durationMs
  · exact failureResult_reportable _ platform error durationMs tool

theorem report_sentOver (platform : Platform) (client : SatelliteClient)
    (requestId : String) (tool : EdgeTool) (result : Value)
    : SentOver client.openTransport? (client.report platform requestId tool result) := by
  unfold report
  split
  · exact client.sendResponse_sentOver requestId result
  · split
    · intro index message sent
      simp at sent
    next sanitised _ => exact client.sendResponse_sentOver requestId sanitised

end SatelliteClient

end Intellisphere.Client
