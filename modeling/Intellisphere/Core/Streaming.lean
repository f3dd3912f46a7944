import Intellisphere.Core.Status
import Intellisphere.Foundation.Channel
import Intellisphere.Foundation.Machine
import Intellisphere.Sphere.Proto

/-! A streamed completion inside Core: the adapter's goroutine feeds a channel of chunks and a
channel of errors, and the server's select loop reads both. Every choice of the scheduler, of
the select, of the provider and of the client is an event.
-/

namespace Intellisphere.Core

open Intellisphere.Foundation
open Intellisphere.Sphere (CompletionChunk ChunkType StopReason)

/-- The stop reasons of the provider's library. -/
inductive MessagesStopReason where
  | endTurn
  | toolUse
  | maxTokens
  | stopSequence
  | other
  deriving DecidableEq, Repr

/-- The callbacks of the provider's library that the adapter listens to. -/
inductive ProviderEvent where
  | contentBlockDelta (text : Option String)
  | messageDelta (stopReason : MessagesStopReason) (outputTokens : Int64)
  deriving DecidableEq, Repr

def MessagesStopReason.toProto : MessagesStopReason → StopReason
  | .endTurn => .endTurn
  | .toolUse => .toolUse
  | .maxTokens => .maxTokens
  | .stopSequence => .stopSequence
  | .other => .unspecified

/-- The chunk a callback sends, if it sends one. -/
def ProviderEvent.chunk : ProviderEvent → Option CompletionChunk
  | .contentBlockDelta none => none
  | .contentBlockDelta (some text) =>
      some
        {
          delta := text
          toolCall := none
          stopReasonRaw := StopReason.unspecified.toRaw
          usage := none
          chunkTypeRaw := ChunkType.textDelta.toRaw
        }
  | .messageDelta stopReason outputTokens =>
      some
        {
          delta := ""
          toolCall := none
          stopReasonRaw := stopReason.toProto.toRaw
          usage := some { inputTokens := 0, outputTokens := outputTokens.toInt32 }
          chunkTypeRaw := ChunkType.messageEnd.toRaw
        }

/-- The text of the error the adapter reports for an error of the provider's library. -/
def streamingError (error : GoString) : GoString :=
  utf8Bytes "anthropic streaming error: " ++ error

/-- Where the adapter's goroutine stands. -/
inductive AdapterPhase where
  | streaming
  | offering (chunk : CompletionChunk)
  | failed (error : GoString)
  | closingErrors
  | closingChunks
  | finished
  deriving DecidableEq, Repr

def chunkCapacity : Nat :=
  32

def errorCapacity : Nat :=
  1

/-- The state of one streamed completion. What the server returned is a status, or nil. -/
structure StreamState where
  adapter : AdapterPhase
  chunkCh : Channel CompletionChunk chunkCapacity
  errCh : Channel GoString errorCapacity
  callExpired : Bool
  clientGone : Bool
  returned : Option (Option Status)

def StreamState.start : StreamState where
  adapter := .streaming
  chunkCh := .make
  errCh := .make
  callExpired := false
  clientGone := false
  returned := none

/-- The context of the provider call is done: it timed out, the client left, or the handler
returned.
-/
def StreamState.callDone (state : StreamState) : Bool :=
  state.callExpired || state.clientGone || state.returned.isSome

inductive StreamEvent where
  | provider (event : ProviderEvent)
  | offer
  | abandon
  | providerReturned (error : Option GoString)
  | putError
  | closeErrors
  | closeChunks
  | callTimeout
  | clientCancel
  | selectChunk (accepted : Bool)
  | selectError
  | selectDone
  deriving DecidableEq, Repr

inductive StreamOutput where
  | quiet
  | put (chunk : CompletionChunk)
  | putError (error : GoString)
  | sent (chunk : CompletionChunk)
  | sendFailed (chunk : CompletionChunk)
  | returned (result : Option Status)
  deriving DecidableEq, Repr

/-- The error text of a failed send. -/
def sendFailure : Status where
  code := .internal
  message := utf8Bytes "failed to send stream chunk"

/-- The status of an abandoned stream. -/
def clientDisconnected : Status where
  code := .canceled
  message := utf8Bytes "client disconnected"

/-- A step of the adapter's goroutine. -/
def adapterStep (state : StreamState) (event : StreamEvent)
    : Option (StreamState × StreamOutput) :=
  match state.adapter, event with
  | .streaming, .provider event =>
      match event.chunk with
      | none => some (state, .quiet)
      | some chunk => some ({ state with adapter := .offering chunk }, .quiet)
  | .offering chunk, .offer =>
      match state.chunkCh.send chunk with
      | none => none
      | some chunkCh => some ({ state with chunkCh, adapter := .streaming }, .put chunk)
  | .offering _, .abandon =>
      if state.callDone then some ({ state with adapter := .streaming }, .quiet) else none
  | .streaming, .providerReturned none =>
      some ({ state with adapter := .closingErrors }, .quiet)
  | .streaming, .providerReturned (some error) =>
      some ({ state with adapter := .failed (streamingError error) }, .quiet)
  | .failed error, .putError =>
      match state.errCh.send error with
      | none => none
      | some errCh => some ({ state with errCh, adapter := .closingErrors }, .putError error)
  | .closingErrors, .closeErrors =>
      match state.errCh.close with
      | none => none
      | some errCh => some ({ state with errCh, adapter := .closingChunks }, .quiet)
  | .closingChunks, .closeChunks =>
      match state.chunkCh.close with
      | none => none
      | some chunkCh => some ({ state with chunkCh, adapter := .finished }, .quiet)
  | _, _ => none

/-- One round of the select loop in the case the event picks. A closed error channel is
always ready and changes nothing.
-/
def selectStep (state : StreamState) (event : StreamEvent)
    : Option (StreamState × StreamOutput) :=
  match event with
  | .selectChunk accepted =>
      match state.chunkCh.receive with
      | .waiting => none
      -- The error channel is not looked at again, although it was closed first.
      | .drained => some ({ state with returned := some none }, .returned none)
      | .value chunk chunkCh =>
          if accepted then some ({ state with chunkCh }, .sent chunk)
          else some ({ state with chunkCh, returned := some sendFailure }, .sendFailed chunk)
  | .selectError =>
      match state.errCh.receive with
      | .waiting => none
      | .drained => some (state, .quiet)
      | .value error errCh =>
          some
            (
              { state with errCh, returned := some (some (mapAdapterError error)) },
              .returned (some (mapAdapterError error))
            )
  | .selectDone =>
      if state.clientGone then
        some
          (
            { state with returned := some clientDisconnected },
            .returned (some clientDisconnected)
          )
      else none
  | _ => none

/-- The events of the select loop. -/
def StreamEvent.isSelect : StreamEvent → Bool
  | .selectChunk _ => true
  | .selectError => true
  | .selectDone => true
  | _ => false

/-- One step of the stream: of its contexts, of the select loop until it returned, or of the
adapter.
-/
def streamStep (state : StreamState) (event : StreamEvent)
    : Option (StreamState × StreamOutput) :=
  match event with
  | .callTimeout => some ({ state with callExpired := true }, .quiet)
  | .clientCancel => some ({ state with clientGone := true }, .quiet)
  | event =>
      if event.isSelect then
        if state.returned.isSome then none else selectStep state event
      else adapterStep state event

def completeStream : Machine StreamState StreamEvent StreamOutput where
  step := streamStep

-----------------------------------------------------------------------------------------
-- What a step can do
-----------------------------------------------------------------------------------------

/-- The provider may still produce chunks. -/
def AdapterPhase.isActive : AdapterPhase → Bool
  | .streaming => true
  | .offering _ => true
  | _ => false

/-- The steps of the adapter. -/
inductive AdapterTransition (before : StreamState)
    : StreamEvent → StreamState → StreamOutput → Prop
  | moved {event : StreamEvent} (adapter : AdapterPhase)
    (active : before.adapter.isActive = true)
    : AdapterTransition before event { before with adapter } .quiet
  | put {chunk : CompletionChunk} {chunkCh : Channel CompletionChunk chunkCapacity}
    (offering : before.adapter = .offering chunk)
    (sent : before.chunkCh.send chunk = some chunkCh)
    : AdapterTransition before .offer { before with chunkCh, adapter := .streaming }
        (.put chunk)
  | putError {error : GoString} {errCh : Channel GoString errorCapacity}
    (failed : before.adapter = .failed error) (sent : before.errCh.send error = some errCh)
    : AdapterTransition before .putError { before with errCh, adapter := .closingErrors }
        (.putError error)
  | closedErrors {errCh : Channel GoString errorCapacity}
    (phase : before.adapter = .closingErrors) (closing : before.errCh.close = some errCh)
    : AdapterTransition before .closeErrors { before with errCh, adapter := .closingChunks }
        .quiet
  | closedChunks {chunkCh : Channel CompletionChunk chunkCapacity}
    (phase : before.adapter = .closingChunks) (closing : before.chunkCh.close = some chunkCh)
    : AdapterTransition before .closeChunks { before with chunkCh, adapter := .finished }
        .quiet

/-- The rounds of the select loop. -/
inductive SelectTransition (before : StreamState)
    : StreamEvent → StreamState → StreamOutput → Prop
  | forwarded {chunk : CompletionChunk} {chunkCh : Channel CompletionChunk chunkCapacity}
    (received : before.chunkCh.receive = .value chunk chunkCh)
    : SelectTransition before (.selectChunk true) { before with chunkCh } (.sent chunk)
  | sendFailed {chunk : CompletionChunk} {chunkCh : Channel CompletionChunk chunkCapacity}
    (received : before.chunkCh.receive = .value chunk chunkCh)
    : SelectTransition before (.selectChunk false)
        { before with chunkCh, returned := some sendFailure } (.sendFailed chunk)
  | completed {accepted : Bool} (drained : before.chunkCh.Drained)
    : SelectTransition before (.selectChunk accepted) { before with returned := some none }
        (.returned none)
  | reported {error : GoString} {errCh : Channel GoString errorCapacity}
    (received : before.errCh.receive = .value error errCh)
    : SelectTransition before .selectError
        { before with errCh, returned := some (some (mapAdapterError error)) }
        (.returned (some (mapAdapterError error)))
  | spun (drained : before.errCh.Drained)
    : SelectTransition before .selectError before .quiet
  | left (gone : before.clientGone = true)
    : SelectTransition before .selectDone { before with returned := some clientDisconnected }
        (.returned (some clientDisconnected))

/-- The steps of a stream. -/
inductive Transition (before : StreamState)
    : StreamEvent → StreamState → StreamOutput → Prop
  | adapter {event : StreamEvent} {after : StreamState} {output : StreamOutput}
    (other : event.isSelect = false) (step : AdapterTransition before event after output)
    : Transition before event after output
  | select {event : StreamEvent} {after : StreamState} {output : StreamOutput}
    (running : before.returned = none) (select : event.isSelect = true)
    (step : SelectTransition before event after output)
    : Transition before event after output
  | expired : Transition before .callTimeout { before with callExpired := true } .quiet
  | cancelled : Transition before .clientCancel { before with clientGone := true } .quiet

theorem adapterStep_transition {before after : StreamState} {event : StreamEvent}
    {output : StreamOutput} (stepped : adapterStep before event = some (after, output))
    : AdapterTransition before event after output := by
  simp only [adapterStep] at stepped
  split at stepped
  next _ _ callback phase =>
    have active : before.adapter.isActive = true := by rw [phase]; rfl
    split at stepped
    · obtain ⟨rfl, rfl⟩ := Prod.mk.inj (Option.some.inj stepped)
      exact .moved before.adapter active
    · obtain ⟨rfl, rfl⟩ := Prod.mk.inj (Option.some.inj stepped)
      exact .moved _ active
  next _ _ chunk phase =>
    split at stepped
    · contradiction
    next chunkCh sent =>
      obtain ⟨rfl, rfl⟩ := Prod.mk.inj (Option.some.inj stepped)
      exact .put phase sent
  next _ _ chunk phase =>
    have active : before.adapter.isActive = true := by rw [phase]; rfl
    split at stepped
    · obtain ⟨rfl, rfl⟩ := Prod.mk.inj (Option.some.inj stepped)
      exact .moved _ active
    · contradiction
  next _ _ phase =>
    have active : before.adapter.isActive = true := by rw [phase]; rfl
    obtain ⟨rfl, rfl⟩ := Prod.mk.inj (Option.some.inj stepped)
    exact .moved _ active
  next _ _ error phase =>
    have active : before.adapter.isActive = true := by rw [phase]; rfl
    obtain ⟨rfl, rfl⟩ := Prod.mk.inj (Option.some.inj stepped)
    exact .moved _ active
  next _ _ error phase =>
    split at stepped
    · contradiction
    next errCh sent =>
      obtain ⟨rfl, rfl⟩ := Prod.mk.inj (Option.some.inj stepped)
      exact .putError phase sent
  next _ _ phase =>
    split at stepped
    · contradiction
    next errCh closing =>
      obtain ⟨rfl, rfl⟩ := Prod.mk.inj (Option.some.inj stepped)
      exact .closedErrors phase closing
  next _ _ phase =>
    split at stepped
    · contradiction
    next chunkCh closing =>
      obtain ⟨rfl, rfl⟩ := Prod.mk.inj (Option.some.inj stepped)
      exact .closedChunks phase closing
  next => contradiction

theorem selectStep_transition {before after : StreamState} {event : StreamEvent}
    {output : StreamOutput} (stepped : selectStep before event = some (after, output))
    : SelectTransition before event after output := by
  simp only [selectStep] at stepped
  split at stepped
  next accepted =>
    split at stepped
    · contradiction
    next drained =>
      obtain ⟨rfl, rfl⟩ := Prod.mk.inj (Option.some.inj stepped)
      exact .completed (Channel.receive_drained_iff.mp drained)
    next chunk chunkCh received =>
      cases accepted with
      | true =>
          obtain ⟨rfl, rfl⟩ := Prod.mk.inj (Option.some.inj stepped)
          exact .forwarded received
      | false =>
          obtain ⟨rfl, rfl⟩ := Prod.mk.inj (Option.some.inj stepped)
          exact .sendFailed received
  next =>
    split at stepped
    · contradiction
    next drained =>
      obtain ⟨rfl, rfl⟩ := Prod.mk.inj (Option.some.inj stepped)
      exact .spun (Channel.receive_drained_iff.mp drained)
    next error errCh received =>
      obtain ⟨rfl, rfl⟩ := Prod.mk.inj (Option.some.inj stepped)
      exact .reported received
  next =>
    split at stepped
    next gone =>
      obtain ⟨rfl, rfl⟩ := Prod.mk.inj (Option.some.inj stepped)
      exact .left gone
    next => contradiction
  next => contradiction

/-- Every step is one of the transitions. -/
theorem streamStep_transition {before after : StreamState} {event : StreamEvent}
    {output : StreamOutput}
    (stepped : completeStream.step before event = some (after, output))
    : Transition before event after output := by
  simp only [completeStream, streamStep] at stepped
  split at stepped
  · obtain ⟨rfl, rfl⟩ := Prod.mk.inj (Option.some.inj stepped)
    exact .expired
  · obtain ⟨rfl, rfl⟩ := Prod.mk.inj (Option.some.inj stepped)
    exact .cancelled
  · split at stepped
    next select =>
      split at stepped
      next => contradiction
      next running =>
        have running := Option.not_isSome_iff_eq_none.mp running
        exact .select running select (selectStep_transition stepped)
    next other =>
      exact .adapter (Bool.eq_false_iff.mpr other) (adapterStep_transition stepped)

/-- The adapter changes neither the result nor the client. -/
theorem AdapterTransition.frame {before after : StreamState} {event : StreamEvent}
    {output : StreamOutput} (step : AdapterTransition before event after output)
    : after.returned = before.returned ∧ after.clientGone = before.clientGone := by
  cases step <;> exact ⟨rfl, rfl⟩

/-- The select loop changes neither the adapter nor the client. -/
theorem SelectTransition.frame {before after : StreamState} {event : StreamEvent}
    {output : StreamOutput} (step : SelectTransition before event after output)
    : after.adapter = before.adapter ∧ after.clientGone = before.clientGone := by
  cases step <;> exact ⟨rfl, rfl⟩

end Intellisphere.Core
