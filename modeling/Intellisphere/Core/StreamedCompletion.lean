import Intellisphere.Core.Anthropic
import Intellisphere.Core.Delivery

/-! What a client makes of a streamed completion, against what the unary call returns for the
same message. The stream carries the text; it carries neither tool calls nor input tokens.
-/

namespace Intellisphere.Core

open Intellisphere.Foundation
open Intellisphere.Sphere (CompletionChunk CompletionResponse ChunkType StopReason ToolCall
  Usage)

-----------------------------------------------------------------------------------------
-- The chunks of a stream
-----------------------------------------------------------------------------------------

def StreamEvent.provider? : StreamEvent → Option ProviderEvent
  | .provider event => some event
  | _ => none

/-- The callbacks the provider's library invoked. -/
def providerEvents (trace : StreamTrace) : List ProviderEvent :=
  trace.filterMap (fun entry => entry.1.provider?)

/-- The chunk that waits for a place on the channel. -/
def AdapterPhase.pending : AdapterPhase → Option CompletionChunk
  | .offering chunk => some chunk
  | _ => none

/-- A step takes what a callback sends, and puts what waits unless it is abandoned. -/
theorem adapterStep_pending {before after : StreamState} {event : StreamEvent}
    {output : StreamOutput} (stepped : adapterStep before event = some (after, output))
    (kept : event ≠ .abandon)
    : before.adapter.pending.toList ++ (event.provider?.bind ProviderEvent.chunk).toList
      = output.put?.toList ++ after.adapter.pending.toList := by
  simp only [adapterStep] at stepped
  split at stepped
  next _ _ callback phase =>
    split at stepped
    next silent =>
      obtain ⟨rfl, rfl⟩ := Prod.mk.inj (Option.some.inj stepped)
      simp [phase, AdapterPhase.pending, StreamEvent.provider?, silent, StreamOutput.put?]
    next chunk sends =>
      obtain ⟨rfl, rfl⟩ := Prod.mk.inj (Option.some.inj stepped)
      simp [phase, AdapterPhase.pending, StreamEvent.provider?, sends, StreamOutput.put?]
  next _ _ chunk phase =>
    split at stepped
    · contradiction
    · obtain ⟨rfl, rfl⟩ := Prod.mk.inj (Option.some.inj stepped)
      simp [phase, AdapterPhase.pending, StreamEvent.provider?, StreamOutput.put?]
  next => exact (kept rfl).elim
  next _ _ phase =>
    obtain ⟨rfl, rfl⟩ := Prod.mk.inj (Option.some.inj stepped)
    simp [phase, AdapterPhase.pending, StreamEvent.provider?, StreamOutput.put?]
  next _ _ error phase =>
    obtain ⟨rfl, rfl⟩ := Prod.mk.inj (Option.some.inj stepped)
    simp [phase, AdapterPhase.pending, StreamEvent.provider?, StreamOutput.put?]
  next _ _ error phase =>
    split at stepped
    · contradiction
    · obtain ⟨rfl, rfl⟩ := Prod.mk.inj (Option.some.inj stepped)
      simp [phase, AdapterPhase.pending, StreamEvent.provider?, StreamOutput.put?]
  next _ _ phase =>
    split at stepped
    · contradiction
    · obtain ⟨rfl, rfl⟩ := Prod.mk.inj (Option.some.inj stepped)
      simp [phase, AdapterPhase.pending, StreamEvent.provider?, StreamOutput.put?]
  next _ _ phase =>
    split at stepped
    · contradiction
    · obtain ⟨rfl, rfl⟩ := Prod.mk.inj (Option.some.inj stepped)
      simp [phase, AdapterPhase.pending, StreamEvent.provider?, StreamOutput.put?]
  next => contradiction

/-- The select loop puts nothing and hears no callback. -/
theorem SelectTransition.pending {before after : StreamState} {event : StreamEvent}
    {output : StreamOutput} (step : SelectTransition before event after output)
    : event.provider? = none ∧ output.put? = none := by
  cases step <;> exact ⟨rfl, rfl⟩

/-- The same for any step of the stream. -/
theorem streamStep_pending {before after : StreamState} {event : StreamEvent}
    {output : StreamOutput}
    (stepped : completeStream.step before event = some (after, output))
    (kept : event ≠ .abandon)
    : before.adapter.pending.toList ++ (event.provider?.bind ProviderEvent.chunk).toList
      = output.put?.toList ++ after.adapter.pending.toList := by
  simp only [completeStream, streamStep] at stepped
  split at stepped
  · obtain ⟨rfl, rfl⟩ := Prod.mk.inj (Option.some.inj stepped)
    simp [StreamEvent.provider?, StreamOutput.put?]
  · obtain ⟨rfl, rfl⟩ := Prod.mk.inj (Option.some.inj stepped)
    simp [StreamEvent.provider?, StreamOutput.put?]
  · split at stepped
    · split at stepped
      · contradiction
      · have step := selectStep_transition stepped
        obtain ⟨unheard, unput⟩ := step.pending
        simp [unheard, unput, step.frame.1]
    · exact adapterStep_pending stepped kept

/-- Over a run that abandons nothing, what the callbacks send is what was put and what still
waits.
-/
theorem run_pending {trace : StreamTrace} {final : StreamState}
    (run : completeStream.Run .start trace final)
    (kept : ∀ entry ∈ trace, entry.1 ≠ .abandon)
    : (providerEvents trace).filterMap ProviderEvent.chunk
      = putChunks trace ++ final.adapter.pending.toList := by
  refine run.history
    (fun trace state =>
      (∀ entry ∈ trace, entry.1 ≠ .abandon)
      → (providerEvents trace).filterMap ProviderEvent.chunk
        = putChunks trace ++ state.adapter.pending.toList)
    (fun _ => rfl) ?_ kept
  intro trace before event after output _ account stepped kept
  have earlier := account (fun entry member => kept entry (List.mem_append_left _ member))
  have step := streamStep_pending stepped (kept (event, output) (by simp))
  have heard : (providerEvents (trace ++ [(event, output)])).filterMap ProviderEvent.chunk
      = (providerEvents trace).filterMap ProviderEvent.chunk
        ++ (event.provider?.bind ProviderEvent.chunk).toList := by
    simp only [providerEvents, List.filterMap_append]
    cases given : event.provider? with
    | none => simp [given]
    | some callback => cases sends : callback.chunk <;> simp [given, sends]
  have put : putChunks (trace ++ [(event, output)])
      = putChunks trace ++ output.put?.toList :=
    filterMap_snoc StreamOutput.put? trace event output
  rw [heard, put, earlier, List.append_assoc, step, List.append_assoc]

/-- The adapter emits the chunks when the library invokes the callbacks: some schedule ends
its goroutine with them, and no chunk was abandoned because the call was over.
-/
def Emits (events : List ProviderEvent) (chunks : List CompletionChunk) : Prop :=
  ∃ trace final,
    completeStream.Run .start trace final
    ∧ providerEvents trace = events
    ∧ (∀ entry ∈ trace, entry.1 ≠ .abandon)
    ∧ final.adapter = .finished
    ∧ putChunks trace = chunks

/-- A run from the start back to it in which the callbacks are forwarded one by one. -/
structure Forwards (events : List ProviderEvent) (trace : StreamTrace) : Prop where
  run : completeStream.Run .start trace .start
  heard : providerEvents trace = events
  kept : ∀ entry ∈ trace, entry.1 ≠ .abandon

/-- Forwarding goes on after forwarding. -/
theorem Forwards.trans {events later : List ProviderEvent} {trace trace' : StreamTrace}
    (first : Forwards events trace) (second : Forwards later trace')
    : Forwards (events ++ later) (trace ++ trace') where
  run := first.run.trans second.run
  heard := by
    rw [← first.heard, ← second.heard]
    exact List.filterMap_append
  kept := fun entry member =>
    (List.mem_append.mp member).elim (first.kept entry) (second.kept entry)

/-- One callback can be forwarded: what it sends is put and received at once. -/
theorem exists_forwards_single (event : ProviderEvent)
    : ∃ trace, Forwards [event] trace := by
  cases sends : event.chunk with
  | none =>
      have step : completeStream.step .start (.provider event) = some (.start, .quiet) := by
        simp [completeStream, streamStep, StreamEvent.isSelect, adapterStep,
          StreamState.start, sends]
      exact ⟨[(.provider event, .quiet)], .single step, rfl, by simp⟩
  | some chunk =>
      have step
          : completeStream.step .start (.provider event)
            = some ({ StreamState.start with adapter := .offering chunk }, .quiet) := by
        simp [completeStream, streamStep, StreamEvent.isSelect, adapterStep,
          StreamState.start, sends]
      have taken
          : completeStream.exec { StreamState.start with adapter := .offering chunk }
              [.offer, .selectChunk true]
            = some (.start, [(.offer, .put chunk), (.selectChunk true, .sent chunk)]) :=
        rfl
      have run := (Machine.Run.single step).trans (Machine.exec_run taken)
      exact ⟨_, run, rfl, by simp⟩

/-- Every sequence of callbacks can be forwarded. By induction on it. -/
theorem exists_forwards (events : List ProviderEvent)
    : ∃ trace, Forwards events trace := by
  induction events with
  | nil => exact ⟨[], .nil _, rfl, by simp⟩
  | cons event rest ih =>
      obtain ⟨first, forwards⟩ := exists_forwards_single event
      obtain ⟨later, others⟩ := ih
      exact ⟨first ++ later, forwards.trans others⟩

/-- The end of a stream without an error. -/
def endedStream : List StreamEvent :=
  [.providerReturned none, .closeErrors, .closeChunks]

/-- A run that ended without abandoning a chunk put all the chunks of its callbacks. -/
theorem run_emitted {trace : StreamTrace} {final : StreamState}
    (run : completeStream.Run .start trace final)
    (kept : ∀ entry ∈ trace, entry.1 ≠ .abandon) (finished : final.adapter = .finished)
    : putChunks trace = (providerEvents trace).filterMap ProviderEvent.chunk := by
  rw [run_pending run kept, finished]
  simp [AdapterPhase.pending]

/-- Whatever the schedule, the adapter emits exactly the chunks of the callbacks. -/
theorem emits_iff {events : List ProviderEvent} {chunks : List CompletionChunk}
    : Emits events chunks ↔ chunks = events.filterMap ProviderEvent.chunk := by
  refine ⟨?_, ?_⟩
  · intro emits
    obtain ⟨trace, final, run, rfl, kept, finished, rfl⟩ := emits
    exact run_emitted run kept finished
  · intro same
    obtain ⟨trace, run, heard, kept⟩ := exists_forwards events
    have ending := run.trans
      (Machine.traceOf_run (rfl : (completeStream.exec .start endedStream).isSome = true))
    have heardAll
        : providerEvents (trace ++ completeStream.traceOf .start endedStream) = events := by
      rw [providerEvents, List.filterMap_append, ← providerEvents, heard]
      exact List.append_nil events
    have keptAll
        : ∀ entry ∈ trace ++ completeStream.traceOf .start endedStream,
            entry.1 ≠ .abandon := by
      have last : ∀ entry ∈ completeStream.traceOf .start endedStream,
          entry.1 ≠ .abandon := by
        decide
      intro entry member
      exact (List.mem_append.mp member).elim (kept entry) (last entry)
    refine ⟨_, _, ending, heardAll, keptAll, rfl, ?_⟩
    rw [same, ← heardAll]
    exact run_emitted ending keptAll rfl

-----------------------------------------------------------------------------------------
-- What a client makes of the chunks
-----------------------------------------------------------------------------------------

/-- The part of a completion that both calls report. -/
structure Completion where
  content : String
  toolCalls : List ToolCall
  stopReasonRaw : Int32
  usage : Option Usage
  deriving DecidableEq, Repr

/-- The completion of a unary answer. -/
def completionOf (response : CompletionResponse) : Completion :=
  {
    content := response.content
    toolCalls := response.toolCalls
    stopReasonRaw := response.stopReasonRaw
    usage := response.usage
  }

/-- Read one more chunk: text deltas are joined, tool calls collected, and the last message
end gives stop reason and usage.
-/
def Completion.add (completion : Completion) (chunk : CompletionChunk) : Completion :=
  {
    content :=
      if chunk.chunkTypeRaw = ChunkType.textDelta.toRaw then
        completion.content ++ chunk.delta
      else completion.content
    toolCalls := completion.toolCalls ++ chunk.toolCall.toList
    stopReasonRaw :=
      if chunk.chunkTypeRaw = ChunkType.messageEnd.toRaw then chunk.stopReasonRaw
      else completion.stopReasonRaw
    usage :=
      if chunk.chunkTypeRaw = ChunkType.messageEnd.toRaw then chunk.usage
      else completion.usage
  }

/-- What a client makes of a whole stream. -/
def streamedCompletion (chunks : List CompletionChunk) : Completion :=
  chunks.foldl Completion.add
    {
      content := ""
      toolCalls := []
      stopReasonRaw := StopReason.unspecified.toRaw
      usage := none
    }

/-- The deltas of a message, in the provider's order: a text block comes in any pieces, and
the input of a tool use in any number of deltas without text.
-/
inductive BlockDeltas : List MessageContent → List (Option String) → Prop
  | nil : BlockDeltas [] []
  | text {blocks : List MessageContent} {deltas : List (Option String)}
    (pieces : List String) (rest : BlockDeltas blocks deltas)
    : BlockDeltas (textBlock (String.join pieces) :: blocks) (pieces.map some ++ deltas)
  | toolUse {blocks : List MessageContent} {deltas : List (Option String)}
    (toolUse : MessageContentToolUse) (inputs : Nat) (rest : BlockDeltas blocks deltas)
    : BlockDeltas (toolUseBlock toolUse :: blocks) (List.replicate inputs none ++ deltas)

/-- A splitting of a message into stream events: its deltas, and message deltas of which the
last one has the stop reason and the output tokens of the message.
-/
def Splits (response : MessagesResponse) (events : List ProviderEvent) : Prop :=
  ∃ deltas, ∃ earlier : List (MessagesStopReason × Int64),
    BlockDeltas response.content deltas
    ∧ events
      = deltas.map ProviderEvent.contentBlockDelta
        ++ (earlier.map fun delta => ProviderEvent.messageDelta delta.1 delta.2)
        ++ [.messageDelta response.stopReason response.usage.outputTokens]

/-- Reading the pieces of a text joins them to what was there. By induction on them. -/
theorem foldl_pieces (pieces : List String) (completion : Completion)
    : (((pieces.map some).map ProviderEvent.contentBlockDelta).filterMap
        ProviderEvent.chunk).foldl Completion.add completion
      = { completion with content := completion.content ++ String.join pieces } := by
  induction pieces generalizing completion with
  | nil => simp
  | cons piece later ih =>
      simp only [List.map_cons, ProviderEvent.chunk, List.filterMap_cons, List.foldl_cons]
      rw [ih]
      simp [Completion.add, String.append_assoc, ChunkType.toRaw]

/-- Reading the deltas of a message joins its texts to what was there and changes nothing
else. By induction on the blocks.
-/
theorem foldl_deltas {blocks : List MessageContent} {deltas : List (Option String)}
    (split : BlockDeltas blocks deltas) (completion : Completion)
    : ((deltas.map ProviderEvent.contentBlockDelta).filterMap ProviderEvent.chunk).foldl
          Completion.add completion
      = { completion with content := completion.content ++ String.join (texts blocks) } := by
  induction split generalizing completion with
  | nil => simp [texts]
  | @text blocks deltas pieces rest ih =>
      rw [List.map_append, List.filterMap_append, List.foldl_append, ih]
      rw [foldl_pieces]
      simp [texts, MessageContent.text?, textBlock, String.append_assoc]
  | @toolUse blocks deltas toolUse inputs rest ih =>
      rw [List.map_append, List.filterMap_append, List.foldl_append]
      have silent
          : ((List.replicate inputs none).map ProviderEvent.contentBlockDelta).filterMap
              ProviderEvent.chunk = [] := by
        simp [ProviderEvent.chunk]
      rw [silent, List.foldl_nil, ih]
      rfl

/-- Message deltas only set stop reason and usage. By induction on them. -/
theorem foldl_messageDeltas (deltas : List (MessagesStopReason × Int64))
    (completion : Completion)
    : ∃ stopReasonRaw usage,
        ((deltas.map fun delta => ProviderEvent.messageDelta delta.1 delta.2).filterMap
          ProviderEvent.chunk).foldl Completion.add completion
        = { completion with stopReasonRaw, usage } := by
  induction deltas generalizing completion with
  | nil => exact ⟨_, _, rfl⟩
  | cons delta rest ih =>
      simp only [List.map_cons, ProviderEvent.chunk, List.filterMap_cons, List.foldl_cons]
      obtain ⟨stopReasonRaw, usage, same⟩ :=
        ih
          (completion.add
            {
              delta := ""
              toolCall := none
              stopReasonRaw := delta.1.toProto.toRaw
              usage := some { inputTokens := 0, outputTokens := delta.2.toInt32 }
              chunkTypeRaw := ChunkType.messageEnd.toRaw
            })
      refine ⟨stopReasonRaw, usage, same.trans ?_⟩
      simp [Completion.add, ChunkType.toRaw]

/-- What a client makes of the chunks of a split message. -/
theorem streamedCompletion_of_splits {response : MessagesResponse}
    {events : List ProviderEvent} (split : Splits response events)
    : streamedCompletion (events.filterMap ProviderEvent.chunk)
      = {
          content := String.join (texts response.content)
          toolCalls := []
          stopReasonRaw := response.stopReason.toProto.toRaw
          usage :=
            some
              {
                inputTokens := 0
                outputTokens := response.usage.outputTokens.toInt32
              }
        } := by
  obtain ⟨deltas, earlier, blocks, rfl⟩ := split
  simp only [streamedCompletion, List.filterMap_append, List.foldl_append,
    foldl_deltas blocks]
  obtain ⟨stopReasonRaw, usage, same⟩ := foldl_messageDeltas earlier _
  rw [same]
  simp [ProviderEvent.chunk, Completion.add, ChunkType.toRaw]

/-- The stream carries the completion of the unary call exactly when the message asks for no
tool and its input tokens, narrowed to 32 bits, are zero, whatever the splitting and the
schedule.
-/
theorem streamedCompletion_eq_unary_iff {response : MessagesResponse}
    {events : List ProviderEvent} {chunks : List CompletionChunk}
    (split : Splits response events) (emits : Emits events chunks)
    : streamedCompletion chunks = completionOf (convertFromAnthropicResponse response)
      ↔ toolUses response.content = [] ∧ response.usage.inputTokens.toInt32 = 0 := by
  rw [emits_iff.mp emits, streamedCompletion_of_splits split, completionOf,
    convertFrom_content, convertFrom_toolCalls, convertFrom_stopReasonRaw, convertFrom_usage]
  refine ⟨?_, ?_⟩
  · intro same
    obtain ⟨_, calls, _, usage⟩ := Completion.mk.inj same
    obtain ⟨tokens, _⟩ := Usage.mk.inj (Option.some.inj usage)
    exact ⟨List.map_eq_nil_iff.mp calls.symm, tokens.symm⟩
  · intro plain
    rw [plain.1, plain.2]
    rfl

/-- A greeting that took ten input tokens. -/
def greetingResponse : MessagesResponse where
  content := [textBlock (String.join ["h", "i"])]
  stopReason := .endTurn
  usage := { inputTokens := 10, outputTokens := 3 }
  model := "m"

/-- The greeting in two pieces. -/
def greetingEvents : List ProviderEvent :=
  [
    .contentBlockDelta (some "h"), .contentBlockDelta (some "i"),
    .messageDelta .endTurn 3
  ]

theorem greeting_splits : Splits greetingResponse greetingEvents :=
  ⟨_, [], .text ["h", "i"] .nil, rfl⟩

/-- The characterisation at the greeting: the stream and the unary call differ. -/
theorem streamedCompletion_eq_unary_iff_greeting
    : ∃ chunks,
        Emits greetingEvents chunks
        ∧ (streamedCompletion chunks
            = completionOf (convertFromAnthropicResponse greetingResponse)
          ↔ toolUses greetingResponse.content = []
            ∧ greetingResponse.usage.inputTokens.toInt32 = 0) := by
  have emits := emits_iff.mpr (rfl : _ = greetingEvents.filterMap ProviderEvent.chunk)
  exact ⟨_, emits, streamedCompletion_eq_unary_iff greeting_splits emits⟩

/-- The stream does not always carry the completion of the unary call: it reports no input
tokens for a greeting that took ten.
-/
theorem streamedCompletion_ne_unary
    : ¬∀ response events chunks,
        Splits response events
        → Emits events chunks
        → streamedCompletion chunks
          = completionOf (convertFromAnthropicResponse response) := by
  intro carries
  have emits := emits_iff.mpr (rfl : _ = greetingEvents.filterMap ProviderEvent.chunk)
  have same := carries _ _ _ greeting_splits emits
  have usage := congrArg Completion.usage same
  rw [streamedCompletion_of_splits greeting_splits, completionOf, convertFrom_usage] at usage
  exact absurd usage (by decide)

end Intellisphere.Core
