import Intellisphere.Client.SatelliteClient
import Mathlib.Data.List.Perm.Basic

/-! What becomes of the proposals of a satellite client: each is answered once, lost or still
waited for, whatever else happens to the client meanwhile.
-/

namespace Intellisphere.Client

open Intellisphere.Foundation Intellisphere.Foundation.Js

namespace SatelliteClient

variable {platform : Platform} {options : SatelliteOptions} {tools : List EdgeTool}
  {client : SatelliteClient}

-----------------------------------------------------------------------------------------
-- One step
-----------------------------------------------------------------------------------------

/-- The tool of a proposal is registered, and the guardrails let the proposal through. -/
structure Admits (platform : Platform) (tools : List EdgeTool) (client : SatelliteClient)
    (request : ToolProposalRequest) (clock : ProposalClock) (tool : EdgeTool)
    : Prop where
  registered : tools.find? (fun tool => tool.name = request.toolName) = some tool
  allowed : (client.preValidate platform clock.validated request.toolName).2 = none

/-- Handling a proposal stops on an exception that nothing catches. -/
inductive Mute (platform : Platform) (tools : List EdgeTool) (client : SatelliteClient)
    (request : ToolProposalRequest) (clock : ProposalClock)
    : Prop where
  | schemaThrows (tool : EdgeTool) (admits : client.Admits platform tools request clock tool)
    (threw : tool.safeParse request.input = .threw)
  | handlerThrows (tool : EdgeTool) (data : Value) (reason : Thrown)
    (admits : client.Admits platform tools request clock tool)
    (parsed : tool.safeParse request.input = .success data)
    (threw : tool.handler data request.context = .threw reason)
    (noText : reason.text? = none)

/-- The handler of a proposal is called and returns. -/
inductive Called (platform : Platform) (tools : List EdgeTool) (client : SatelliteClient)
    (request : ToolProposalRequest) (clock : ProposalClock)
    : Prop where
  | intro (tool : EdgeTool) (data : Value)
    (admits : client.Admits platform tools request clock tool)
    (parsed : tool.safeParse request.input = .success data)
    (returns : ∀ reason, tool.handler data request.context ≠ .threw reason)

/-- No response is lost in a step: where one is due the current transport is open, nothing
throws that is not caught, and what a handler resolves to can be written.
-/
def Delivers (platform : Platform) (tools : List EdgeTool) (client : SatelliteClient)
    : ClientEvent → Prop
  | .proposed request clock =>
      ¬client.Mute platform tools request clock
      ∧ (client.Called platform tools request clock ∨ client.openTransport?.isSome)
  | .settled proposal run _ =>
      client.openTransport?.isSome
      ∧ ∀ awaited value,
          client.running[proposal]? = some awaited
          → awaited.rejection = none
          → run = .inTime (.resolved value)
          → client.Reports platform awaited.tool value
  | _ => True

/-- The requests of the proposals whose handlers run. -/
def runningIds (client : SatelliteClient) : List String :=
  client.running.map RunningProposal.requestId

/-- The request of a proposal. -/
def proposedId? : ClientEvent → Option String
  | .proposed request _ => some request.requestId
  | _ => none

/-- Handling a proposal either leaves it to its handler, or answers it or loses it. -/
inductive Handling (client after : SatelliteClient) (requestId : String)
    (effects : List ClientEffect) (delivers : Prop)
    : Prop where
  | awaits (silent : answeredIds effects = [])
    (running : after.runningIds = client.runningIds ++ [requestId]) (delivered : delivers)
  | responds (responds : Responds effects requestId delivers)
    (running : after.runningIds = client.runningIds)

theorem preValidate_frame (platform : Platform) (client : SatelliteClient) (now : Int)
    (toolName : String)
    : (client.preValidate platform now toolName).1.connection = client.connection
      ∧ (client.preValidate platform now toolName).1.running = client.running := by
  unfold preValidate
  split <;> exact ⟨rfl, rfl⟩

theorem responds_congr {effects : List ClientEffect} {requestId : String}
    {condition condition' : Prop} (responds : Responds effects requestId condition)
    (same : condition ↔ condition')
    : Responds effects requestId condition' :=
  propext same ▸ responds

section Handled

variable {request : ToolProposalRequest} {clock : ProposalClock} {tool : EdgeTool}

theorem Admits.mute_iff (admits : client.Admits platform tools request clock tool)
    : client.Mute platform tools request clock
      ↔ tool.safeParse request.input = .threw
        ∨ ∃ data reason,
            tool.safeParse request.input = .success data
            ∧ tool.handler data request.context = .threw reason
            ∧ reason.text? = none := by
  have only {other : EdgeTool} (also : client.Admits platform tools request clock other)
      : other = tool :=
    Option.some.inj (also.registered.symm.trans admits.registered)
  refine ⟨?_, ?_⟩
  · intro mute
    cases mute with
    | schemaThrows other also threw =>
        obtain rfl := only also
        exact .inl threw
    | handlerThrows other data reason also parsed threw noText =>
        obtain rfl := only also
        exact .inr ⟨data, reason, parsed, threw, noText⟩
  · intro ways
    rcases ways with threw | ⟨data, reason, parsed, threw, noText⟩
    · exact .schemaThrows tool admits threw
    · exact .handlerThrows tool data reason admits parsed threw noText

theorem Admits.called_iff (admits : client.Admits platform tools request clock tool)
    : client.Called platform tools request clock
      ↔ ∃ data,
          tool.safeParse request.input = .success data
          ∧ ∀ reason, tool.handler data request.context ≠ .threw reason := by
  refine ⟨?_, ?_⟩
  · intro called
    obtain ⟨other, data, also, parsed, returns⟩ := called
    obtain rfl := Option.some.inj (also.registered.symm.trans admits.registered)
    exact ⟨data, parsed, returns⟩
  · intro called
    obtain ⟨data, parsed, returns⟩ := called
    exact .intro tool data admits parsed returns

/-- A proposal that is not let through is answered if the transport is open. -/
theorem delivers_of_not_admitted
    (none : ∀ tool, ¬client.Admits platform tools request clock tool)
    : client.Delivers platform tools (.proposed request clock)
      ↔ client.openTransport?.isSome := by
  have spoken : ¬client.Mute platform tools request clock := by
    intro mute
    cases mute with
    | schemaThrows tool admits => exact none tool admits
    | handlerThrows tool _ _ admits => exact none tool admits
  have uncalled : ¬client.Called platform tools request clock :=
    fun called => by
      obtain ⟨tool, _, admits, _⟩ := called
      exact none tool admits
  simp [Delivers, spoken, uncalled]

/-- A failure is answered if the transport is open. -/
theorem failure_responds (client : SatelliteClient) (requestId error : String)
    (durationMs : Int)
    : Responds (client.sendResponse requestId (failureResult error durationMs)) requestId
        client.openTransport?.isSome := by
  have sends := client.sendResponse_responds requestId (failureResult error durationMs)
  simpa using sends

/-- Calling the handler of an admitted proposal. -/
theorem Admits.callHandler_handling {checked : SatelliteClient} {data : Value}
    (admits : client.Admits platform tools request clock tool)
    (parsed : tool.safeParse request.input = .success data)
    (same : checked.openTransport? = client.openTransport?)
    (runs : checked.runningIds = client.runningIds)
    : Handling client (checked.callHandler platform clock request tool data).1
        request.requestId (checked.callHandler platform clock request tool data).2
        (client.Delivers platform tools (.proposed request clock)) := by
  unfold callHandler
  rw [Delivers, admits.mute_iff, admits.called_iff]
  cases called : tool.handler data request.context with
  | threw reason =>
      cases text : reason.text? with
      | none => exact .responds ⟨fun delivers => by simp [parsed, called, text] at delivers,
          fun _ => by simp [text, answeredIds]⟩ (by simp [text, runs])
      | some message =>
          have reports := checked.report_responds platform request.requestId tool
            (failureResult message (clock.failed - clock.started))
          rw [iff_true_intro (failureResult_reports platform checked tool message _),
            and_true, same] at reports
          refine .responds ?_ (by simpa [text] using runs)
          simpa [parsed, called, text] using reports
  | promise =>
      refine .awaits rfl ?_ (by simp [parsed, called])
      rw [← runs]
      simp [runningIds]
  | notPromise message =>
      refine .awaits rfl ?_ (by simp [parsed, called])
      rw [← runs]
      simp [runningIds]

/-- Handling a proposal, by cases on the way it takes through the handler. -/
theorem handleToolProposal_handling (platform : Platform) (tools : List EdgeTool)
    (client : SatelliteClient) (clock : ProposalClock) (request : ToolProposalRequest)
    : Handling client (client.handleToolProposal platform tools clock request).1
        request.requestId (client.handleToolProposal platform tools clock request).2
        (client.Delivers platform tools (.proposed request clock)) := by
  unfold handleToolProposal
  cases registered : tools.find? (fun tool => tool.name = request.toolName) with
  | none =>
      have none : ∀ tool, ¬client.Admits platform tools request clock tool := by
        intro tool admits
        simp [admits.registered] at registered
      refine .responds ?_ rfl
      rw [delivers_of_not_admitted none]
      exact client.failure_responds request.requestId _ 0
  | some tool =>
      dsimp only
      obtain ⟨sameConnection, sameRunning⟩ :=
        preValidate_frame platform client clock.validated request.toolName
      cases verdict : client.preValidate platform clock.validated request.toolName with
      | mk checked rejection =>
          rw [verdict] at sameConnection sameRunning
          have same : checked.openTransport? = client.openTransport? := by
            rw [openTransport?, openTransport?, sameConnection]
          have runs : checked.runningIds = client.runningIds := by
            rw [runningIds, runningIds, sameRunning]
          cases rejection with
          | some message =>
              have none : ∀ tool, ¬client.Admits platform tools request clock tool := by
                intro tool admits
                simpa [verdict] using admits.allowed
              refine .responds ?_ runs
              rw [delivers_of_not_admitted none, ← same]
              exact checked.failure_responds request.requestId message 0
          | none =>
              have admits : client.Admits platform tools request clock tool :=
                ⟨registered, by rw [verdict]⟩
              dsimp only
              cases parsed : tool.safeParse request.input with
              | success data => exact admits.callHandler_handling parsed same runs
              | threw =>
                  refine .responds ⟨fun delivers => ?_, fun _ => rfl⟩ runs
                  exact (delivers.1 (.schemaThrows tool admits parsed)).elim
              | failure message =>
                  refine .responds ?_ runs
                  rw [Delivers, admits.mute_iff, admits.called_iff]
                  simpa [parsed, same]
                    using checked.failure_responds request.requestId
                      ("Input validation failed: " ++ message) 0

end Handled

/-- The result of a settled proposal can be reported unless it resolved to one that cannot. -/
theorem resultOf_reports_iff {awaited : RunningProposal} {run : PromiseRun}
    {result : Except String Value} (ended : outcome platform awaited run = some result)
    (now : Int)
    : client.Reports platform awaited.tool (resultOf awaited now result)
      ↔ ∀ value,
          awaited.rejection = none
          → run = .inTime (.resolved value)
          → client.Reports platform awaited.tool value := by
  have failed (message : String)
      : client.Reports platform awaited.tool (resultOf awaited now (.error message)) :=
    failureResult_reports platform client awaited.tool message _
  unfold outcome at ended
  cases rejected : awaited.rejection with
  | some message =>
      rw [rejected] at ended
      obtain rfl := Option.some.inj ended
      simp [failed]
  | none =>
      rw [rejected] at ended
      cases run with
      | late settlement =>
          rw [executeWithTimeout_late] at ended
          obtain rfl := Option.some.inj ended
          simp [failed]
      | inTime settlement =>
          cases settlement with
          | resolved value =>
              rw [executeWithTimeout_resolved] at ended
              obtain rfl := Option.some.inj ended
              simp [resultOf]
          | rejected reason =>
              rw [executeWithTimeout_rejected] at ended
              obtain ⟨message, _, rfl⟩ := Option.map_eq_some_iff.mp ended
              simp [failed]

/-- Each request that comes up in a step is answered, lost or still running, and it is lost
exactly where the step does not deliver.
-/
def Accounts (before after : SatelliteClient) (event : ClientEvent)
    (effects : List ClientEffect) (delivers : Prop)
    : Prop :=
  ∃ lost : List String,
    (answeredIds effects ++ lost ++ after.runningIds).Perm
      (before.runningIds ++ (proposedId? event).toList)
    ∧ (lost = [] ↔ delivers)

/-- A request that stops being one of those running or proposed is answered or lost. -/
theorem accounts_of_responds {before after : SatelliteClient} {event : ClientEvent}
    {effects : List ClientEffect} {requestId : String} {delivers : Prop}
    (responds : Responds effects requestId delivers)
    (moved
      : (requestId :: after.runningIds).Perm
          (before.runningIds ++ (proposedId? event).toList))
    : Accounts before after event effects delivers := by
  by_cases delivered : delivers
  · refine ⟨[], ?_, by simp [delivered]⟩
    rw [responds.answers delivered]
    exact moved
  · refine ⟨[requestId], ?_, by simp [delivered]⟩
    rw [responds.fails delivered]
    exact moved

/-- A step that has nothing to do with proposals. -/
theorem accounts_of_silent {before after : SatelliteClient} {event : ClientEvent}
    {effects : List ClientEffect} (silent : answeredIds effects = [])
    (same : after.runningIds = before.runningIds) (other : proposedId? event = none)
    : Accounts before after event effects True := by
  refine ⟨[], ?_, by simp⟩
  rw [silent, same, other]
  simp

theorem startSession_running (tools : List EdgeTool) (client : SatelliteClient)
    (event : ConnectionEvent)
    : (startSession tools client event).runningIds = client.runningIds := by
  unfold startSession
  split <;> rfl

theorem startSession_connection (tools : List EdgeTool) (client : SatelliteClient)
    (event : ConnectionEvent)
    : (startSession tools client event).connection = client.connection := by
  unfold startSession
  split <;> rfl

theorem step_accounts {after : SatelliteClient} {event : ClientEvent}
    {effects : List ClientEffect}
    (stepped
      : (satelliteClient platform options tools).step client event
        = some (after, effects))
    : Accounts client after event effects (client.Delivers platform tools event) := by
  cases event with
  | connection event =>
      simp only [satelliteClient, step] at stepped
      split at stepped
      · contradiction
      next connection outputs _ =>
        obtain ⟨rfl, rfl⟩ := Prod.mk.inj (Option.some.inj stepped)
        refine accounts_of_silent ?_ (startSession_running tools _ event) rfl
        simp [answeredIds, Function.comp_def, ClientEffect.answered?]
  | proposed request clock =>
      have handling := handleToolProposal_handling platform tools client clock request
      rw [show client.handleToolProposal platform tools clock request = (after, effects)
        from Option.some.inj stepped] at handling
      cases handling with
      | awaits silent running delivered =>
          refine ⟨[], ?_, by simp [delivered]⟩
          rw [silent, running]
          exact .refl _
      | responds responds running =>
          refine accounts_of_responds responds ?_
          rw [running]
          exact (List.perm_append_singleton _ _).symm
  | settled proposal run now =>
      simp only [satelliteClient, step] at stepped
      split at stepped
      · contradiction
      next awaited found =>
        split at stepped
        · contradiction
        next result ended =>
          obtain ⟨rfl, rfl⟩ := Prod.mk.inj (Option.some.inj stepped)
          obtain ⟨inside, present⟩ := List.getElem?_eq_some_iff.mp found
          have reports := SatelliteClient.report_responds platform
            { client with running := client.running.eraseIdx proposal } awaited.requestId
            awaited.tool (resultOf awaited now result)
          refine accounts_of_responds (responds_congr reports ?_) ?_
          · rw [resultOf_reports_iff ended now, Delivers]
            refine and_congr_right (fun _ => ?_)
            rw [found]
            exact ⟨fun fine awaited' value same => by
                obtain rfl := Option.some.inj same
                exact fine value,
              fun fine value => fine awaited value rfl⟩
          · have moved := (List.getElem_cons_eraseIdx_perm inside).map RunningProposal.requestId
            rw [present] at moved
            simpa [runningIds, proposedId?] using moved
  | received dispatch =>
      cases dispatch with
      | handleToolProposal => contradiction
      | sendPong =>
          obtain ⟨rfl, rfl⟩ := Prod.mk.inj (Option.some.inj stepped)
          refine accounts_of_silent ?_ rfl rfl
          have pong (index : Nat)
              : ClientEffect.answered? (.sent index OutboundMessage.heartbeatPong.toJson)
                = none :=
            rfl
          simp [answeredIds, SatelliteClient.sendPong, pong]
      | _ =>
          obtain ⟨rfl, rfl⟩ := Prod.mk.inj (Option.some.inj stepped)
          exact accounts_of_silent rfl rfl rfl

theorem callHandler_sentOver (platform : Platform) (client : SatelliteClient)
    (clock : ProposalClock) (request : ToolProposalRequest) (tool : EdgeTool) (data : Value)
    : SentOver client.openTransport?
        (client.callHandler platform clock request tool data).2 := by
  have nothing : SentOver client.openTransport? [] := by
    intro index message sent
    simp at sent
  unfold callHandler
  cases tool.handler data request.context with
  | threw reason =>
      cases text : reason.text? with
      | none => simpa [text] using nothing
      | some message =>
          have carried := client.report_sentOver platform request.requestId tool
            (failureResult message (clock.failed - clock.started))
          simpa [text] using carried
  | promise => exact nothing
  | notPromise message => exact nothing

theorem handleToolProposal_sentOver (platform : Platform) (tools : List EdgeTool)
    (client : SatelliteClient) (clock : ProposalClock) (request : ToolProposalRequest)
    : SentOver client.openTransport?
        (client.handleToolProposal platform tools clock request).2 := by
  unfold handleToolProposal
  cases tools.find? (fun tool => tool.name = request.toolName) with
  | none =>
      dsimp only
      exact client.sendResponse_sentOver request.requestId _
  | some tool =>
      dsimp only
      obtain ⟨sameConnection, _⟩ :=
        preValidate_frame platform client clock.validated request.toolName
      cases verdict : client.preValidate platform clock.validated request.toolName with
      | mk checked rejection =>
          rw [verdict] at sameConnection
          rw [openTransport?, ← sameConnection, ← openTransport?]
          cases rejection with
          | some message =>
              dsimp only
              exact checked.sendResponse_sentOver request.requestId _
          | none =>
              dsimp only
              cases tool.safeParse request.input with
              | success data =>
                  exact checked.callHandler_sentOver platform clock request tool data
              | failure message =>
                  dsimp only
                  exact checked.sendResponse_sentOver request.requestId _
              | threw =>
                  intro index message sent
                  simp at sent

/-- What one step sends goes over the transport that is current and open. -/
theorem step_sentOver {after : SatelliteClient} {event : ClientEvent}
    {effects : List ClientEffect}
    (stepped
      : (satelliteClient platform options tools).step client event
        = some (after, effects))
    : SentOver client.openTransport? effects := by
  cases event with
  | connection event =>
      simp only [satelliteClient, step] at stepped
      split at stepped
      · contradiction
      next connection outputs _ =>
        obtain ⟨rfl, rfl⟩ := Prod.mk.inj (Option.some.inj stepped)
        intro index message sent
        simp at sent
  | proposed request clock =>
      have carried := handleToolProposal_sentOver platform tools client clock request
      rwa [show client.handleToolProposal platform tools clock request = (after, effects)
        from Option.some.inj stepped] at carried
  | settled proposal run now =>
      simp only [satelliteClient, step] at stepped
      split at stepped
      · contradiction
      next awaited _ =>
        split at stepped
        · contradiction
        next result _ =>
          obtain ⟨rfl, rfl⟩ := Prod.mk.inj (Option.some.inj stepped)
          exact SatelliteClient.report_sentOver platform _ awaited.requestId _ _
  | received dispatch =>
      cases dispatch with
      | handleToolProposal => contradiction
      | sendPong =>
          obtain ⟨rfl, rfl⟩ := Prod.mk.inj (Option.some.inj stepped)
          intro index message sent
          obtain ⟨current, opened, same⟩ := List.mem_map.mp sent
          obtain ⟨rfl, _⟩ := ClientEffect.sent.inj same
          simpa using opened
      | _ =>
          obtain ⟨rfl, rfl⟩ := Prod.mk.inj (Option.some.inj stepped)
          intro index message sent
          simp at sent

theorem callHandler_connection (platform : Platform) (client : SatelliteClient)
    (clock : ProposalClock) (request : ToolProposalRequest) (tool : EdgeTool) (data : Value)
    : (client.callHandler platform clock request tool data).1.connection
      = client.connection := by
  unfold callHandler
  cases tool.handler data request.context with
  | threw reason => cases text : reason.text? <;> simp [text]
  | promise => rfl
  | notPromise message => rfl

/-- Handling a proposal leaves the connection alone. -/
theorem handleToolProposal_connection (platform : Platform) (tools : List EdgeTool)
    (client : SatelliteClient) (clock : ProposalClock) (request : ToolProposalRequest)
    : (client.handleToolProposal platform tools clock request).1.connection
      = client.connection := by
  unfold handleToolProposal
  cases tools.find? (fun tool => tool.name = request.toolName) with
  | none => rfl
  | some tool =>
      dsimp only
      obtain ⟨sameConnection, _⟩ :=
        preValidate_frame platform client clock.validated request.toolName
      cases verdict : client.preValidate platform clock.validated request.toolName with
      | mk checked rejection =>
          rw [verdict] at sameConnection
          cases rejection with
          | some message => exact sameConnection
          | none =>
              dsimp only
              cases tool.safeParse request.input with
              | success data =>
                  exact (checked.callHandler_connection platform clock request tool data).trans
                    sameConnection
              | failure message => exact sameConnection
              | threw => exact sameConnection

end SatelliteClient

-----------------------------------------------------------------------------------------
-- Runs
-----------------------------------------------------------------------------------------

abbrev ClientTrace :=
  List (ClientEvent × List ClientEffect)

/-- The requests proposed in a trace. -/
def proposedIds (trace : ClientTrace) : List String :=
  trace.filterMap (fun entry => SatelliteClient.proposedId? entry.1)

/-- The requests answered in a trace. -/
def responseIds (trace : ClientTrace) : List String :=
  trace.flatMap (fun entry => answeredIds entry.2)

/-- The connection's part of a trace. -/
def connectionTrace (trace : ClientTrace) : List (ConnectionEvent × List ConnectionEffect) :=
  trace.filterMap
    (fun entry =>
      match entry.1 with
      | .connection event =>
          some
            (
              event,
              entry.2.filterMap
                (fun effect =>
                  match effect with
                  | .connection effect => some effect
                  | _ => none)
            )
      | _ => none)

section Runs

variable {platform : Platform} {options : SatelliteOptions} {tools : List EdgeTool}
  {trace : ClientTrace} {client : SatelliteClient}

/-- Each request of a run is answered, lost or still running, and none was lost exactly if
every step delivered. By induction on the run.
-/
theorem run_accounts (run : (satelliteClient platform options tools).Run {} trace client)
    : ∃ lost : List String,
        (responseIds trace ++ lost ++ client.runningIds).Perm (proposedIds trace)
        ∧ (lost = []
            ↔ (satelliteClient platform options tools).StepsMeet {} trace
                (SatelliteClient.Delivers platform tools)) := by
  induction run with
  | nil => exact ⟨[], .refl _, iff_of_true rfl (.nil _ _)⟩
  | @snoc before after trace event effects run stepped ih =>
      obtain ⟨lost, accounted, delivered⟩ := ih
      obtain ⟨lostHere, here, deliveredHere⟩ := SatelliteClient.step_accounts stepped
      refine ⟨lost ++ lostHere, ?_, ?_⟩
      · have responses : responseIds (trace ++ [(event, effects)])
            = responseIds trace ++ answeredIds effects := by
          simp [responseIds]
        have proposals : proposedIds (trace ++ [(event, effects)])
            = proposedIds trace ++ (SatelliteClient.proposedId? event).toList := by
          rw [proposedIds, List.filterMap_append, ← proposedIds]
          cases named : SatelliteClient.proposedId? event <;> simp [named]
        rw [responses, proposals]
        rw [List.perm_iff_count] at accounted here ⊢
        intro requestId
        have earlier := accounted requestId
        have step := here requestId
        simp only [List.count_append] at earlier step ⊢
        omega
      · rw [List.append_eq_nil_iff, delivered, deliveredHere]
        exact ⟨fun meets => .snoc run meets.1 meets.2,
          fun meets => ⟨meets.before, meets.last run⟩⟩

/-- The connection of a client runs by itself. By induction on the run. -/
theorem connection_run (run : (satelliteClient platform options tools).Run {} trace client)
    : (satelliteConnection options).Run {} (connectionTrace trace) client.connection := by
  induction run with
  | nil => exact .nil _
  | @snoc before after trace event effects run stepped ih =>
      rw [connectionTrace, List.filterMap_append, ← connectionTrace]
      cases event with
      | connection event =>
          simp only [satelliteClient, SatelliteClient.step] at stepped
          split at stepped
          · contradiction
          next connection outputs moved =>
            obtain ⟨rfl, rfl⟩ := Prod.mk.inj (Option.some.inj stepped)
            rw [SatelliteClient.startSession_connection]
            simpa [List.filterMap_map, Function.comp_def] using ih.snoc moved
      | proposed request clock =>
          have same := SatelliteClient.handleToolProposal_connection platform tools before
            clock request
          rw [show before.handleToolProposal platform tools clock request = (after, effects)
            from Option.some.inj stepped] at same
          rw [← same] at ih
          simpa using ih
      | settled proposal result now =>
          simp only [satelliteClient, SatelliteClient.step] at stepped
          split at stepped
          · contradiction
          · split at stepped
            · contradiction
            · obtain ⟨rfl, rfl⟩ := Prod.mk.inj (Option.some.inj stepped)
              simpa using ih
      | received dispatch =>
          cases dispatch with
          | handleToolProposal => contradiction
          | _ =>
              obtain ⟨rfl, rfl⟩ := Prod.mk.inj (Option.some.inj stepped)
              simpa using ih


/-- In every run of a client, with any number of proposals at once and any connections opened
and lost meanwhile, responses are only sent to requests that were proposed, and each of those
is answered once at most; all that are no longer running were answered exactly if each step
delivered; every message goes over the transport that is current and open at the time; and
proposals have no part in how the connection goes.
-/
theorem satelliteClient_answersOnce
    (run : (satelliteClient platform options tools).Run {} trace client)
    : (responseIds trace ++ client.runningIds).Subperm (proposedIds trace)
      ∧ ((responseIds trace ++ client.runningIds).Perm (proposedIds trace)
          ↔ (satelliteClient platform options tools).StepsMeet {} trace
              (SatelliteClient.Delivers platform tools))
      ∧ (∀ earlier event effects later before,
          trace = earlier ++ (event, effects) :: later
          → (satelliteClient platform options tools).Run {} earlier before
          → SentOver before.openTransport? effects)
      ∧ (satelliteConnection options).Run {} (connectionTrace trace) client.connection := by
  obtain ⟨lost, accounted, delivered⟩ := run_accounts run
  refine ⟨?_, ?_, ?_, connection_run run⟩
  · refine List.Subperm.trans (List.Sublist.subperm ?_) accounted.subperm
    rw [List.append_assoc]
    exact (List.Sublist.refl _).append (List.sublist_append_right _ _)
  · rw [← delivered]
    refine ⟨?_, ?_⟩
    · intro all
      have lengths := accounted.length_eq.trans all.length_eq.symm
      simp only [List.length_append] at lengths
      exact List.eq_nil_of_length_eq_zero (by omega)
    · intro none
      rw [none, List.append_nil] at accounted
      exact accounted
  · intro earlier event effects later before whole first
    rw [whole] at run
    obtain ⟨middle, run, rest⟩ := run.split
    obtain rfl := first.unique run
    obtain ⟨_, stepped, _⟩ := rest.uncons
    exact SatelliteClient.step_sentOver stepped

end Runs

/-- Two proposals whose handlers run at once; the second is done first, and the connection
is lost before the first one is.
-/
def overlappingProposals : List ClientEvent :=
  [
    .connection .connect,
    .connection (.sessionFetched (.obj []) true),
    .connection (.transportOpened 0),
    .proposed countRequest ⟨0, 0, 0⟩,
    .proposed { countRequest with requestId := "r2" } ⟨1, 1, 1⟩,
    .settled 1 (.inTime (.resolved (failureResult "none" 0))) 2,
    .connection (.transportClosed 0 "lost"),
    .settled 0 (.inTime (.resolved (failureResult "none" 0))) 3
  ]

theorem satelliteClient_answersOnce_overlapping
    : responseIds
          ((satelliteClient plainPlatform {} [countTool]).traceOf {} overlappingProposals)
        = ["r2"]
      ∧ ¬(satelliteClient plainPlatform {} [countTool]).StepsMeet {}
          ((satelliteClient plainPlatform {} [countTool]).traceOf {} overlappingProposals)
          (SatelliteClient.Delivers plainPlatform [countTool]) := by
  have answered
      : responseIds
          ((satelliteClient plainPlatform {} [countTool]).traceOf {} overlappingProposals)
        = ["r2"] := by
    decide +kernel
  refine ⟨answered, ?_⟩
  intro meets
  have run
      : (satelliteClient plainPlatform {} [countTool]).Run {}
          ((satelliteClient plainPlatform {} [countTool]).traceOf {} overlappingProposals)
          _ :=
    Machine.traceOf_run (by decide +kernel)
  have all := ((satelliteClient_answersOnce run).2.1.mpr meets).length_eq
  rw [answered] at all
  exact absurd all (by decide +kernel)

end Intellisphere.Client