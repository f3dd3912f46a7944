import Intellisphere.Client.ServedProposals

/-! A satellite client that handles one proposal alone. Its steps together do what handling the
proposal in one go does.
-/

namespace Intellisphere.Client

open Intellisphere.Foundation Intellisphere.Foundation.Js

/-- The end of a proposal handled in one go, from the result of the guarded part. -/
def ProposalRun.ofResult (platform : Platform) (guardrails : SatelliteGuardrails)
    (requestId : String) (tool : EdgeTool)
    : Option Value → ProposalRun
  | none => { guardrails }
  | some result =>
      match guardrails.sanitiseResult platform result tool with
      | .error _ => { guardrails }
      | .ok sanitised => sendResponse guardrails requestId sanitised

/-- What is left of a proposal after its first step: with the effects of that step it does
what handling it in one go does.
-/
def Finishes (platform : Platform) (options : SatelliteOptions) (tools : List EdgeTool)
    (index : Nat) (run : ProposalRun) (client : SatelliteClient)
    (effects : List ClientEffect)
    : Prop :=
  ∃ trace after,
    (satelliteClient platform options tools).Run client trace after
    ∧ proposedIds trace = []
    ∧ effects ++ trace.flatMap Prod.snd = run.effects index
    ∧ after.guardrails = some run.guardrails

section Alone

variable {platform : Platform} {options : SatelliteOptions} {tools : List EdgeTool}
  {client : SatelliteClient} {index : Nat} {guardrails : SatelliteGuardrails}

@[simp]
theorem sendResponse_guardrails (guardrails : SatelliteGuardrails) (requestId : String)
    (result : Value)
    : (sendResponse guardrails requestId result).guardrails = guardrails := by
  unfold sendResponse
  split <;> rfl

theorem ofResult_guardrails (platform : Platform) (guardrails : SatelliteGuardrails)
    (requestId : String) (tool : EdgeTool) (result : Option Value)
    : (ProposalRun.ofResult platform guardrails requestId tool result).guardrails
      = guardrails := by
  unfold ProposalRun.ofResult
  split
  · rfl
  · split
    · rfl
    · exact sendResponse_guardrails guardrails requestId _

theorem report_effects (opened : client.openTransport? = some index)
    (guarded : client.guardrails = some guardrails) (requestId : String) (tool : EdgeTool)
    (result : Value)
    : client.report platform requestId tool result
      = (ProposalRun.ofResult platform guardrails requestId tool (some result)).effects
          index := by
  unfold SatelliteClient.report ProposalRun.ofResult
  rw [guarded]
  dsimp only
  cases guardrails.sanitiseResult platform result tool with
  | error message => rfl
  | ok sanitised => exact SatelliteClient.sendResponse_open opened guardrails requestId _

/-- Nothing is left of a proposal that its first step did all of. -/
theorem finishes_of_effects {run : ProposalRun} {effects : List ClientEffect}
    (all : effects = run.effects index) (guarded : client.guardrails = some run.guardrails)
    : Finishes platform options tools index run client effects :=
  ⟨[], client, .nil client, rfl, by simp [all], guarded⟩

/-- The proposal that was let through last settles, if its race has an outcome. -/
theorem awaited_finishes (opened : client.openTransport? = some index)
    (guarded : client.guardrails = some guardrails) (awaited : RunningProposal)
    (run : PromiseRun) (now : Int)
    : Finishes platform options tools index
        (.ofResult platform guardrails awaited.requestId awaited.tool
          ((SatelliteClient.outcome platform awaited run).map
            (SatelliteClient.resultOf awaited now)))
        { client with running := client.running ++ [awaited] } [] := by
  cases ended : SatelliteClient.outcome platform awaited run with
  | none => exact finishes_of_effects rfl guarded
  | some outcome =>
      have settled
          : (satelliteClient platform options tools).step
              { client with running := client.running ++ [awaited] }
              (.settled client.running.length run now)
            = some
                (
                  client,
                  client.report platform awaited.requestId awaited.tool
                    (SatelliteClient.resultOf awaited now outcome)
                ) := by
        simp [satelliteClient, SatelliteClient.step, ended, List.eraseIdx_append_of_length_le]
      refine ⟨_, client, .single settled, rfl, ?_, ?_⟩
      · simp [report_effects opened guarded]
      · rw [ofResult_guardrails]
        exact guarded

/-- Calling a handler. The call throws, or what it gives is awaited. -/
theorem callHandler_finishes (opened : client.openTransport? = some index)
    (guarded : client.guardrails = some guardrails) (clock : ProposalClock)
    (request : ToolProposalRequest) (tool : EdgeTool) (data : Value) (run : PromiseRun)
    : Finishes platform options tools index
        (.ofResult platform guardrails request.requestId tool
          (tool.execute platform clock data request.context run))
        (client.callHandler platform clock request tool data).1
        (client.callHandler platform clock request tool data).2 := by
  unfold SatelliteClient.callHandler EdgeTool.execute
  cases tool.handler data request.context with
  | threw reason =>
      dsimp only
      cases reason.text? with
      | none => exact finishes_of_effects rfl guarded
      | some message =>
          refine finishes_of_effects (report_effects opened guarded _ _ _) ?_
          rw [ofResult_guardrails]
          exact guarded
  | promise =>
      have settles := @awaited_finishes platform options tools client index guardrails opened
        guarded
        { requestId := request.requestId, tool, rejection := none, startMs := clock.started }
        run clock.failed
      rw [SatelliteClient.outcome] at settles
      dsimp only at settles ⊢
      cases raced : executeWithTimeout platform tool.edge.timeoutMs run with
      | none => rwa [raced] at settles
      | some outcome => cases outcome <;> rwa [raced] at settles
  | notPromise message =>
      exact awaited_finishes opened guarded
        {
          requestId := request.requestId
          tool
          rejection := some message
          startMs := clock.started
        }
        run clock.failed

theorem handleToolProposal_finishes (opened : client.openTransport? = some index)
    (guarded : client.guardrails = some guardrails) (clock : ProposalClock)
    (request : ToolProposalRequest) (run : PromiseRun)
    : Finishes platform options tools index
        (handleToolProposal platform tools guardrails clock request run)
        (client.handleToolProposal platform tools clock request).1
        (client.handleToolProposal platform tools clock request).2 := by
  unfold SatelliteClient.handleToolProposal handleToolProposal
  cases tools.find? (fun tool => tool.name = request.toolName) with
  | none =>
      dsimp only
      refine finishes_of_effects (SatelliteClient.sendResponse_open opened guardrails _ _) ?_
      simpa using guarded
  | some tool =>
      dsimp only
      rw [SatelliteClient.preValidate, guarded]
      dsimp only
      cases guardrails.preValidate platform clock.validated request.toolName with
      | mk checked rejection =>
          have calls := @callHandler_finishes platform options tools
            { client with guardrails := some checked } index checked opened rfl
          cases rejection with
          | some message =>
              dsimp only
              refine finishes_of_effects (SatelliteClient.sendResponse_open ?_ checked _ _) ?_
              · exact opened
              · simp
          | none =>
              dsimp only
              cases tool.safeParse request.input with
              | threw => exact finishes_of_effects rfl rfl
              | failure message =>
                  dsimp only
                  refine finishes_of_effects
                    (SatelliteClient.sendResponse_open ?_ checked _ _) ?_
                  · exact opened
                  · simp
              | success data =>
                  have called := calls clock request tool data run
                  dsimp only
                  cases executed : tool.execute platform clock data request.context run <;>
                    rwa [executed] at called

/-- A client that handles one proposal alone on an open transport does what handling it in
one go does.
-/
theorem handleToolProposal_alone {index : Nat} {guardrails : SatelliteGuardrails}
    (opened : client.openTransport? = some index)
    (guarded : client.guardrails = some guardrails) (request : ToolProposalRequest)
    (clock : ProposalClock) (run : PromiseRun)
    : ∃ trace after,
        (satelliteClient platform options tools).Run client trace after
        ∧ proposedIds trace = [request.requestId]
        ∧ trace.flatMap Prod.snd
          = (handleToolProposal platform tools guardrails clock request run).effects index
        ∧ after.guardrails
          = some (handleToolProposal platform tools guardrails clock request run).guardrails
      := by
  obtain ⟨trace, after, rest, quiet, effects, kept⟩ :=
    @handleToolProposal_finishes platform options tools client index guardrails opened
      guarded clock request run
  have first
      : (satelliteClient platform options tools).step client (.proposed request clock)
        = some (client.handleToolProposal platform tools clock request) :=
    rfl
  refine ⟨_, after, (Machine.Run.single first).trans rest, ?_, ?_, kept⟩
  · rw [proposedIds, List.filterMap_append, ← proposedIds, ← proposedIds, quiet]
    rfl
  · rw [List.flatMap_append, ← effects]
    exact congrArg (· ++ trace.flatMap Prod.snd) (List.flatMap_singleton ..)

end Alone

end Intellisphere.Client
