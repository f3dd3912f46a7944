import Intellisphere.Core.ErrorDelivery

/-! Which chunks reach the client. Whatever adapter feeds the channel and whatever the select
loop picks, the chunks handed to the transport are the oldest ones that were put; when the
server returns without an error, they are all of them.
-/

namespace Intellisphere.Core

open Intellisphere.Foundation
open Intellisphere.Sphere (CompletionChunk CompletionResponse ChunkType StopReason)

-----------------------------------------------------------------------------------------
-- One round of the select loop, for any adapter
-----------------------------------------------------------------------------------------

/-- What a round leaves: the channels, and the result if the server returns. -/
structure SelectRound (capacity : Nat) where
  chunkCh : Channel CompletionChunk capacity
  errCh : Channel GoString errorCapacity
  result : Option (Option Status)
  output : StreamOutput

/-- The round of the select loop that an event picks, over a channel of any capacity. -/
def selectRound {capacity : Nat} (chunkCh : Channel CompletionChunk capacity)
    (errCh : Channel GoString errorCapacity) (clientGone : Bool)
    : StreamEvent → Option (SelectRound capacity)
  | .selectChunk accepted =>
      match chunkCh.receive with
      | .waiting => none
      | .drained => some { chunkCh, errCh, result := some none, output := .returned none }
      | .value chunk chunkCh =>
          if accepted then some { chunkCh, errCh, result := none, output := .sent chunk }
          else
            some { chunkCh, errCh, result := some sendFailure, output := .sendFailed chunk }
  | .selectError =>
      match errCh.receive with
      | .waiting => none
      | .drained => some { chunkCh, errCh, result := none, output := .quiet }
      | .value error errCh =>
          some
            {
              chunkCh
              errCh
              result := some (some (mapAdapterError error))
              output := .returned (some (mapAdapterError error))
            }
  | .selectDone =>
      if clientGone then
        some
          {
            chunkCh
            errCh
            result := some clientDisconnected
            output := .returned (some clientDisconnected)
          }
      else none
  | _ => none

/-- The select loop over the channels of the provider's adapter is this loop. -/
theorem selectStep_eq_round {state : StreamState} (running : state.returned = none)
    (event : StreamEvent)
    : selectStep state event
      = (selectRound state.chunkCh state.errCh state.clientGone event).map fun round =>
          (
            {
              state with
              chunkCh := round.chunkCh
              errCh := round.errCh
              returned := round.result
            },
            round.output
          ) := by
  obtain ⟨adapter, chunkCh, errCh, callExpired, clientGone, returned⟩ := state
  obtain rfl : returned = none := running
  cases event with
  | selectChunk accepted =>
      simp only [selectStep, selectRound]
      cases chunkCh.receive with
      | waiting => rfl
      | drained => rfl
      | value chunk rest => cases accepted <;> rfl
  | selectError =>
      simp only [selectStep, selectRound]
      cases errCh.receive <;> rfl
  | selectDone =>
      simp only [selectStep, selectRound]
      cases clientGone <;> rfl
  | _ => rfl

-----------------------------------------------------------------------------------------
-- The mock adapter
-----------------------------------------------------------------------------------------

def mockChunkCapacity : Nat :=
  8

/-- The two chunks that stand for a mock response. -/
def mockChunks (response : CompletionResponse) : List CompletionChunk :=
  [
    {
      delta := response.content
      toolCall := none
      stopReasonRaw := StopReason.unspecified.toRaw
      usage := none
      chunkTypeRaw := ChunkType.textDelta.toRaw
    },
    {
      delta := ""
      toolCall := none
      stopReasonRaw := response.stopReasonRaw
      usage := response.usage
      chunkTypeRaw := ChunkType.messageEnd.toRaw
    }
  ]

/-- Where the mock adapter's goroutine stands. It sends without watching the context. -/
inductive MockPhase where
  | sending (remaining : List CompletionChunk)
  | closingChunks
  | finished
  deriving DecidableEq, Repr

structure MockState where
  adapter : MockPhase
  chunkCh : Channel CompletionChunk mockChunkCapacity
  errCh : Channel GoString errorCapacity
  clientGone : Bool
  returned : Option (Option Status)

def MockState.start (response : CompletionResponse) : MockState where
  adapter := .sending (mockChunks response)
  chunkCh := .make
  errCh := .make
  clientGone := false
  returned := none

/-- A step of the mock adapter's goroutine. -/
def mockAdapterStep (state : MockState) (event : StreamEvent)
    : Option (MockState × StreamOutput) :=
  match state.adapter, event with
  | .sending (chunk :: remaining), .offer =>
      match state.chunkCh.send chunk with
      | none => none
      | some chunkCh =>
          some ({ state with chunkCh, adapter := .sending remaining }, .put chunk)
  | .sending [], .closeErrors =>
      match state.errCh.close with
      | none => none
      | some errCh => some ({ state with errCh, adapter := .closingChunks }, .quiet)
  | .closingChunks, .closeChunks =>
      match state.chunkCh.close with
      | none => none
      | some chunkCh => some ({ state with chunkCh, adapter := .finished }, .quiet)
  | _, _ => none

/-- One step of a stream that the mock adapter feeds. -/
def mockStep (state : MockState) (event : StreamEvent) : Option (MockState × StreamOutput) :=
  match event with
  | .clientCancel => some ({ state with clientGone := true }, .quiet)
  | event =>
      if event.isSelect then
        if state.returned.isSome then none
        else
          (selectRound state.chunkCh state.errCh state.clientGone event).map fun round =>
            (
              {
                state with
                chunkCh := round.chunkCh
                errCh := round.errCh
                returned := round.result
              },
              round.output
            )
      else mockAdapterStep state event

def mockStream : Machine MockState StreamEvent StreamOutput where
  step := mockStep

-----------------------------------------------------------------------------------------
-- Histories of chunks
-----------------------------------------------------------------------------------------

def StreamOutput.put? : StreamOutput → Option CompletionChunk
  | .put chunk => some chunk
  | _ => none

/-- The chunk a step hands to `stream.Send`, whether or not the transport takes it. -/
def StreamOutput.handed? : StreamOutput → Option CompletionChunk
  | .sent chunk => some chunk
  | .sendFailed chunk => some chunk
  | _ => none

def StreamOutput.sent? : StreamOutput → Option CompletionChunk
  | .sent chunk => some chunk
  | _ => none

/-- The chunks the adapter put on the channel. -/
def putChunks (trace : StreamTrace) : List CompletionChunk :=
  trace.filterMap (fun entry => entry.2.put?)

/-- The chunks the server handed to the transport. -/
def handedChunks (trace : StreamTrace) : List CompletionChunk :=
  trace.filterMap (fun entry => entry.2.handed?)

/-- The chunks the transport took. -/
def sentChunks (trace : StreamTrace) : List CompletionChunk :=
  trace.filterMap (fun entry => entry.2.sent?)

/-- A list of histories grows with its last step. -/
theorem filterMap_snoc {α : Type} (pick : StreamOutput → Option α) (trace : StreamTrace)
    (event : StreamEvent) (output : StreamOutput)
    : (trace ++ [(event, output)]).filterMap (fun entry => pick entry.2)
      = trace.filterMap (fun entry => pick entry.2) ++ (pick output).toList := by
  rw [List.filterMap_append]
  cases picked : pick output <;> simp [picked]

/-- What one step does to the chunks and to the result, whatever the adapter. -/
structure DeliveryStep {capacity : Nat} (before after : Channel CompletionChunk capacity)
    (returned returned' : Option (Option Status)) (output : StreamOutput)
    : Prop where
  moves : before.Moves after output.put?.toList output.handed?.toList
  keeps : returned.isSome → returned' = returned ∧ output.handed? = none
  failed : output.handed? ≠ output.sent? → ∃ status, returned' = some (some status)
  completed
    : returned = none
      → returned' = some none
      → after.Drained ∧ output.put? = none ∧ output.handed? = none
  sealed : before.closed = true → after.closed = true ∧ output.put? = none

/-- The account of a stream: every chunk that was put was handed on or waits; nothing was
handed on in vain while the result is no error; and nothing waits after a success.
-/
structure DeliveryAccount {capacity : Nat} (trace : StreamTrace)
    (chunkCh : Channel CompletionChunk capacity) (returned : Option (Option Status))
    : Prop where
  moves : (Channel.make).Moves chunkCh (putChunks trace) (handedChunks trace)
  taken : (∀ status, returned ≠ some (some status)) → handedChunks trace = sentChunks trace
  drained : returned = some none → chunkCh.Drained

theorem DeliveryAccount.start {capacity : Nat}
    : DeliveryAccount [] (Channel.make : Channel CompletionChunk capacity) none where
  moves := .refl _
  taken := fun _ => rfl
  drained := fun returned => by contradiction

/-- Every step keeps the account. -/
theorem DeliveryAccount.step {capacity : Nat} {trace : StreamTrace}
    {before after : Channel CompletionChunk capacity}
    {returned returned' : Option (Option Status)} {output : StreamOutput}
    (event : StreamEvent) (account : DeliveryAccount trace before returned)
    (step : DeliveryStep before after returned returned' output)
    : DeliveryAccount (trace ++ [(event, output)]) after returned' := by
  refine ⟨?_, ?_, ?_⟩
  · unfold putChunks handedChunks
    rw [filterMap_snoc StreamOutput.put?, filterMap_snoc StreamOutput.handed?]
    exact account.moves.trans step.moves
  · intro fine
    unfold handedChunks sentChunks
    rw [filterMap_snoc StreamOutput.handed?, filterMap_snoc StreamOutput.sent?]
    have last : output.handed? = output.sent? := by
      by_contra different
      obtain ⟨status, failed⟩ := step.failed different
      exact fine status failed
    have earlier : handedChunks trace = sentChunks trace := by
      refine account.taken ?_
      intro status failed
      have kept := (step.keeps (by simp [failed])).1
      exact fine status (kept.trans failed)
    unfold handedChunks sentChunks at earlier
    rw [last, earlier]
  · intro success
    cases running : returned with
    | none => exact (step.completed running success).1
    | some result =>
        obtain ⟨same, unhanded⟩ := step.keeps (by simp [running])
        obtain ⟨empty, closed⟩ := account.drained (same.symm.trans success)
        obtain ⟨closed', unput⟩ := step.sealed closed
        have moves := step.moves
        rw [unhanded, unput] at moves
        refine ⟨?_, closed'⟩
        simpa [Channel.Moves, empty] using moves.symm

-----------------------------------------------------------------------------------------
-- The steps of both adapters and of the select loop
-----------------------------------------------------------------------------------------

section Steps

variable {capacity : Nat} {before after : Channel CompletionChunk capacity}
  {returned returned' : Option (Option Status)} {output : StreamOutput}

/-- A step that leaves the channel alone and succeeds at most when it is drained. -/
theorem DeliveryStep.idle (unput : output.put? = none) (unhanded : output.handed? = none)
    (unsent : output.sent? = none) (same : returned.isSome → returned' = returned)
    (ended : returned = none → returned' = some none → before.Drained)
    : DeliveryStep before before returned returned' output where
  moves := by
    rw [unput, unhanded]
    exact .refl before
  keeps := fun returned => ⟨same returned, unhanded⟩
  failed := fun different => (different (unhanded.trans unsent.symm)).elim
  completed := fun running success => ⟨ended running success, unput, unhanded⟩
  sealed := fun closed => ⟨closed, unput⟩

/-- A round that hands on the oldest chunk; if the transport refuses it, the server fails. -/
theorem DeliveryStep.handing {chunk : CompletionChunk}
    (received : before.receive = .value chunk after) (unput : output.put? = none)
    (handed : output.handed? = some chunk)
    (outcome
      : returned' = none ∧ output.sent? = some chunk
        ∨ ∃ status, returned' = some (some status))
    : DeliveryStep before after none returned' output where
  moves := by
    rw [unput, handed]
    exact .of_receive received
  keeps := fun returned => by contradiction
  failed := fun different => by
    rcases outcome with ⟨_, sent⟩ | failed
    · exact (different (handed.trans sent.symm)).elim
    · exact failed
  completed := fun _ success => by
    rcases outcome with ⟨running, _⟩ | ⟨status, failed⟩
    · simp [running] at success
    · simp [failed] at success
  sealed := fun closed => ⟨(Channel.receive_value received).2.trans closed, unput⟩

/-- The adapter puts a chunk. -/
theorem DeliveryStep.putting {chunk : CompletionChunk}
    (sent : before.send chunk = some after)
    : DeliveryStep before after returned returned (.put chunk) where
  moves := .of_send sent
  keeps := fun _ => ⟨rfl, rfl⟩
  failed := fun different => (different rfl).elim
  completed := fun running success => by
    rw [running] at success
    contradiction
  sealed := fun closed => by
    rw [(Channel.send_spec sent).1] at closed
    contradiction

/-- The adapter closes the channel. -/
theorem DeliveryStep.closing (closing : before.close = some after)
    : DeliveryStep before after returned returned .quiet where
  moves := .of_close closing
  keeps := fun _ => ⟨rfl, rfl⟩
  failed := fun different => (different rfl).elim
  completed := fun running success => by
    rw [running] at success
    contradiction
  sealed := fun _ => ⟨(Channel.close_spec closing).2.1, rfl⟩

end Steps

/-- A round of the select loop hands on the oldest chunk, or returns, or does nothing. -/
theorem selectRound_delivery {capacity : Nat} {chunkCh : Channel CompletionChunk capacity}
    {errCh : Channel GoString errorCapacity} {clientGone : Bool} {event : StreamEvent}
    {round : SelectRound capacity}
    (picked : selectRound chunkCh errCh clientGone event = some round)
    : DeliveryStep chunkCh round.chunkCh none round.result round.output := by
  cases event with
  | selectChunk accepted =>
      simp only [selectRound] at picked
      cases received : chunkCh.receive with
      | waiting =>
          rw [received] at picked
          contradiction
      | drained =>
          rw [received] at picked
          obtain rfl := Option.some.inj picked
          have drained := Channel.receive_drained_iff.mp received
          exact .idle rfl rfl rfl (by simp) (fun _ _ => drained)
      | value chunk rest =>
          rw [received] at picked
          cases accepted with
          | true =>
              obtain rfl := Option.some.inj picked
              exact .handing received rfl rfl (.inl ⟨rfl, rfl⟩)
          | false =>
              obtain rfl := Option.some.inj picked
              exact .handing received rfl rfl (.inr ⟨_, rfl⟩)
  | selectError =>
      simp only [selectRound] at picked
      cases received : errCh.receive with
      | waiting =>
          rw [received] at picked
          contradiction
      | drained =>
          rw [received] at picked
          obtain rfl := Option.some.inj picked
          exact .idle rfl rfl rfl (by simp) (by simp)
      | value error rest =>
          rw [received] at picked
          obtain rfl := Option.some.inj picked
          exact .idle rfl rfl rfl (by simp) (by simp)
  | selectDone =>
      simp only [selectRound] at picked
      split at picked
      · obtain rfl := Option.some.inj picked
        exact .idle rfl rfl rfl (by simp) (by simp [clientDisconnected])
      · contradiction
  | _ => contradiction

/-- A step of the provider's adapter moves at most one chunk into the channel. -/
theorem AdapterTransition.delivery {before after : StreamState} {event : StreamEvent}
    {output : StreamOutput} (step : AdapterTransition before event after output)
    : DeliveryStep before.chunkCh after.chunkCh before.returned after.returned output := by
  have unended : before.returned = none → before.returned = some none
      → before.chunkCh.Drained := by
    intro running success
    rw [running] at success
    contradiction
  cases step with
  | moved => exact .idle rfl rfl rfl (fun _ => rfl) unended
  | put _ sent => exact .putting sent
  | putError => exact .idle rfl rfl rfl (fun _ => rfl) unended
  | closedErrors => exact .idle rfl rfl rfl (fun _ => rfl) unended
  | closedChunks _ closing => exact .closing closing

/-- A step of the mock adapter moves at most one chunk into the channel. -/
theorem mockAdapterStep_delivery {before after : MockState} {event : StreamEvent}
    {output : StreamOutput} (stepped : mockAdapterStep before event = some (after, output))
    : DeliveryStep before.chunkCh after.chunkCh before.returned after.returned output := by
  have unended : before.returned = none → before.returned = some none
      → before.chunkCh.Drained := by
    intro running success
    rw [running] at success
    contradiction
  simp only [mockAdapterStep] at stepped
  split at stepped
  · split at stepped
    · contradiction
    next chunkCh sent =>
      obtain ⟨rfl, rfl⟩ := Prod.mk.inj (Option.some.inj stepped)
      exact .putting sent
  · split at stepped
    · contradiction
    next errCh closing =>
      obtain ⟨rfl, rfl⟩ := Prod.mk.inj (Option.some.inj stepped)
      exact .idle rfl rfl rfl (fun _ => rfl) unended
  · split at stepped
    · contradiction
    next chunkCh closing =>
      obtain ⟨rfl, rfl⟩ := Prod.mk.inj (Option.some.inj stepped)
      exact .closing closing
  · contradiction

/-- A step outside adapter and select loop touches neither chunks nor result. -/
theorem DeliveryStep.refl {capacity : Nat} (channel : Channel CompletionChunk capacity)
    (returned : Option (Option Status))
    : DeliveryStep channel channel returned returned .quiet :=
  .idle rfl rfl rfl (fun _ => rfl) (fun running success => by
    rw [running] at success
    contradiction)

/-- Every step of a stream from the provider is a delivery step. -/
theorem streamStep_delivery {before after : StreamState} {event : StreamEvent}
    {output : StreamOutput}
    (stepped : completeStream.step before event = some (after, output))
    : DeliveryStep before.chunkCh after.chunkCh before.returned after.returned output := by
  simp only [completeStream, streamStep] at stepped
  split at stepped
  · obtain ⟨rfl, rfl⟩ := Prod.mk.inj (Option.some.inj stepped)
    exact .refl _ _
  · obtain ⟨rfl, rfl⟩ := Prod.mk.inj (Option.some.inj stepped)
    exact .refl _ _
  · split at stepped
    · split at stepped
      · contradiction
      next running =>
        have running := Option.not_isSome_iff_eq_none.mp running
        rw [selectStep_eq_round running] at stepped
        obtain ⟨round, picked, same⟩ := Option.map_eq_some_iff.mp stepped
        obtain ⟨rfl, rfl⟩ := Prod.mk.inj same
        rw [running]
        exact selectRound_delivery picked
    · exact (adapterStep_transition stepped).delivery

/-- Every step of a stream from the mock adapter is a delivery step. -/
theorem mockStep_delivery {before after : MockState} {event : StreamEvent}
    {output : StreamOutput} (stepped : mockStream.step before event = some (after, output))
    : DeliveryStep before.chunkCh after.chunkCh before.returned after.returned output := by
  simp only [mockStream, mockStep] at stepped
  split at stepped
  · obtain ⟨rfl, rfl⟩ := Prod.mk.inj (Option.some.inj stepped)
    exact .refl _ _
  · split at stepped
    · split at stepped
      · contradiction
      next running =>
        have running := Option.not_isSome_iff_eq_none.mp running
        obtain ⟨round, picked, same⟩ := Option.map_eq_some_iff.mp stepped
        obtain ⟨rfl, rfl⟩ := Prod.mk.inj same
        rw [running]
        exact selectRound_delivery picked
    · exact mockAdapterStep_delivery stepped

/-- The account holds over every run of a stream from the provider. -/
theorem completeStream_account {trace : StreamTrace} {final : StreamState}
    (run : completeStream.Run .start trace final)
    : DeliveryAccount trace final.chunkCh final.returned :=
  run.history (fun trace state => DeliveryAccount trace state.chunkCh state.returned) .start
    (fun _ _ event _ _ _ account stepped => account.step event (streamStep_delivery stepped))

/-- The account holds over every run of a stream from the mock adapter. -/
theorem mockStream_account {response : CompletionResponse} {trace : StreamTrace}
    {final : MockState} (run : mockStream.Run (.start response) trace final)
    : DeliveryAccount trace final.chunkCh final.returned :=
  run.history (fun trace state => DeliveryAccount trace state.chunkCh state.returned) .start
    (fun _ _ event _ _ _ account stepped => account.step event (mockStep_delivery stepped))

/-- What is handed on is a prefix of what was put, and after a success all of it was sent. -/
structure PrefixDelivered (trace : StreamTrace) (returned : Option (Option Status)) : Prop where
  handed : handedChunks trace <+: putChunks trace
  complete : returned = some none → sentChunks trace = putChunks trace

theorem DeliveryAccount.prefixDelivered {capacity : Nat} {trace : StreamTrace}
    {chunkCh : Channel CompletionChunk capacity} {returned : Option (Option Status)}
    (account : DeliveryAccount trace chunkCh returned)
    : PrefixDelivered trace returned where
  handed := account.moves.taken_prefix
  complete := fun success => by
    have taken := account.taken (by simp [success])
    rw [← taken]
    exact account.moves.taken_all (account.drained success).1

/-- Over every schedule, with the provider's adapter as with the mock adapter: the chunks
handed to the transport are a prefix of those the adapter put, in order, and once the server
returned nil every chunk that was put has been sent.
-/
theorem streamDelivery_inOrder
    : (∀ trace final,
        completeStream.Run .start trace final → PrefixDelivered trace final.returned)
      ∧ ∀ response trace final,
          mockStream.Run (.start response) trace final
          → PrefixDelivered trace final.returned :=
  ⟨fun _ _ run => (completeStream_account run).prefixDelivered,
    fun _ _ _ run => (mockStream_account run).prefixDelivered⟩

/-- A delta and the end of a message, received while the adapter is closing its channels. -/
def shortStream : List StreamEvent :=
  [
    .provider (.contentBlockDelta (some "hi")), .offer,
    .provider (.messageDelta .endTurn 3), .offer,
    .selectChunk true, .providerReturned none, .closeErrors, .selectError, .closeChunks,
    .selectChunk true, .selectChunk true
  ]

/-- A mock stream whose second chunk cannot be sent. -/
def brokenMockStream : List StreamEvent :=
  [.offer, .offer, .selectChunk true, .closeErrors, .selectChunk false, .closeChunks]

def mockGreeting : CompletionResponse where
  content := "Hello! I'm a mock LLM response."
  toolCalls := []
  stopReasonRaw := StopReason.endTurn.toRaw
  usage := some { inputTokens := 10, outputTokens := 8 }
  model := "mock"

theorem streamDelivery_inOrder_short
    : sentChunks (completeStream.traceOf .start shortStream)
        = putChunks (completeStream.traceOf .start shortStream)
      ∧ handedChunks (mockStream.traceOf (.start mockGreeting) brokenMockStream)
        <+: putChunks (mockStream.traceOf (.start mockGreeting) brokenMockStream) := by
  have run := Machine.traceOf_run
    (rfl : (completeStream.exec .start shortStream).isSome = true)
  have mockRun := Machine.traceOf_run
    (rfl : (mockStream.exec (.start mockGreeting) brokenMockStream).isSome = true)
  exact ⟨(streamDelivery_inOrder.1 _ _ run).complete rfl,
    (streamDelivery_inOrder.2 mockGreeting _ _ mockRun).handed⟩

end Intellisphere.Core
