import Intellisphere.Core.ErrorDelivery
import Intellisphere.Core.StreamedCompletion
import Intellisphere.Foundation.EventStream
import Intellisphere.Foundation.JsonText
import Intellisphere.Sphere.Api.Transcript

/-! From the provider's callbacks to the client of a streamed chat: the goroutine of the
adapter, the select loop, the transport, the handler of the Sphere, the events on the wire and
how a client reads them. Nothing is changed, doubled, reordered or made up on the way, and a
client that loses the connection has read the first of the chunks.
-/

namespace Intellisphere.Core

open Intellisphere.Foundation
open Intellisphere.Sphere (AppState ChatRequest CompletionChunk ServerWorld SphereError
  SseEvent chatStream chunkEvent)

-----------------------------------------------------------------------------------------
-- Events on the wire
-----------------------------------------------------------------------------------------

/-- The text of an event with some data, where it can be built, and what is sent in between to
keep the connection.
-/
structure SseFraming where
  event : List Char → Option (List Char)
  keepAlive : List Char

/-- Data of one line is sent in one field, and a comment keeps the connection. -/
structure SseFraming.Documented (framing : SseFraming) : Prop where
  event
    : ∀ data,
        EventStream.OneLine data
        → framing.event data = some ("data: ".toList ++ data ++ ['\n', '\n'])
  keepAlive
    : ∃ comment,
        EventStream.OneLine comment ∧ framing.keepAlive = ':' :: comment ++ ['\n', '\n']

/-- The body of a response: its events, and comments wherever there was a pause. -/
def SseFraming.body (framing : SseFraming) : List (Option SseEvent) → Option (List Char)
  | [] => some []
  | none :: frames => (framing.body frames).map (framing.keepAlive ++ ·)
  | some event :: frames =>
      match framing.event event.data.toList with
      | none => none
      | some text => (framing.body frames).map (text ++ ·)

/-- The events that are sent: the body ends at the first error. -/
def delivered : List (Except SphereError SseEvent) → List SseEvent
  | [] => []
  | .ok event :: events => event :: delivered events
  | .error _ :: _ => []

/-- The data of an event is an object. -/
theorem data_toList (event : SseEvent)
    : event.data.toList
      = (JsonValue.object
          [
            ("chunk_type", .number event.chunkType.toInt),
            ("delta", .string event.delta)
          ]).text integerText := by
  rw [SseEvent.data, jsonObject_pair_toList]
  simp only [JsonValue.text, JsonValue.fieldsText, JsonValue.fieldText, integerText,
    List.append_assoc, List.nil_append, List.cons_append]
  rfl

/-- The data of an event determines it. -/
theorem data_injective : Function.Injective (fun event : SseEvent => event.data.toList) := by
  intro first second same
  simp only [data_toList] at same
  have fields :=
    (JsonValue.object_selfDelimiting integerText_numberText).injective trivial same
  simp only [List.cons.injEq, Prod.mk.injEq, JsonValue.number.injEq, JsonValue.string.injEq,
    true_and, and_true] at fields
  obtain ⟨chunkTypes, deltas⟩ := fields
  cases first
  cases second
  cases deltas
  cases Int32.toInt_inj.mp chunkTypes
  rfl

/-- The data of an event has no line ends, so its field can be built. -/
theorem data_oneLine (event : SseEvent) : EventStream.OneLine event.data.toList := by
  rw [data_toList]
  have printable := JsonValue.text_printable integerText_numberText
    (.object
      [("chunk_type", .number event.chunkType.toInt), ("delta", .string event.delta)])
  exact ⟨printable.not_mem (by decide), printable.not_mem (by decide)⟩

/-- Every body can be built, and a client reads the events in it. By induction on the body. -/
theorem body_read {framing : SseFraming} (documented : framing.Documented)
    (frames : List (Option SseEvent))
    : ∃ text,
        framing.body frames = some text
        ∧ EventStream.read text
          = frames.reduceOption.map (fun event => event.data.toList) := by
  induction frames with
  | nil => exact ⟨[], rfl, rfl⟩
  | cons frame frames ih =>
      obtain ⟨text, built, reads⟩ := ih
      cases frame with
      | none =>
          obtain ⟨comment, oneLine, keepAlive⟩ := documented.keepAlive
          refine ⟨framing.keepAlive ++ text, by rw [SseFraming.body, built]; rfl, ?_⟩
          rw [keepAlive, EventStream.read_comment oneLine, reads]
          rfl
      | some event =>
          have field := documented.event _ (data_oneLine event)
          refine ⟨_, by rw [SseFraming.body, field, built]; rfl, ?_⟩
          rw [EventStream.read_event (data_oneLine event), reads]
          rfl

-----------------------------------------------------------------------------------------
-- From the provider to the client
-----------------------------------------------------------------------------------------

/-- What the Sphere receives of a stream: all that was sent if the server returned without an
error, and otherwise the first of what was handed to the transport and an error.
-/
inductive Received (trace : StreamTrace) (returned : Option (Option Status))
    : List (Except String CompletionChunk) → Prop
  | completed (success : returned = some none)
    : Received trace returned ((sentChunks trace).map .ok)
  | broken {chunks : List CompletionChunk} (error : String)
    (handed : chunks <+: handedChunks trace)
    : Received trace returned (chunks.map .ok ++ [.error error])

/-- The event of a chunk. -/
def chunkSseEvent (chunk : CompletionChunk) : SseEvent where
  delta := chunk.delta
  chunkType := chunk.chunkTypeRaw

/-- Chunks and an error after them, or none. By induction on the chunks. -/
theorem delivered_chunks (chunks : List CompletionChunk)
    {rest : List (Except String CompletionChunk)} (ends : delivered (rest.map chunkEvent) = [])
    : delivered ((chunks.map Except.ok ++ rest).map chunkEvent)
      = chunks.map chunkSseEvent := by
  induction chunks with
  | nil => exact ends
  | cons chunk chunks ih => exact congrArg (chunkSseEvent chunk :: ·) ih

/-- The events the handler sends are those of the first chunks that were put, and of all of
them if no error came.
-/
theorem delivered_received {trace : StreamTrace} {final : StreamState}
    (run : completeStream.Run .start trace final)
    {items : List (Except String CompletionChunk)}
    (received : Received trace final.returned items)
    : ∃ chunks,
        delivered (items.map chunkEvent) = chunks.map chunkSseEvent
        ∧ chunks <+: putChunks trace
        ∧ ((∀ item ∈ items, item.toOption.isSome)
            → chunks = putChunks trace ∧ final.returned = some none) := by
  have inOrder := (completeStream_account run).prefixDelivered
  cases received with
  | completed success =>
      have sent := inOrder.complete success
      have none : delivered (([] : List (Except String CompletionChunk)).map chunkEvent) = [] :=
        rfl
      have events := delivered_chunks (sentChunks trace) none
      rw [List.append_nil] at events
      exact ⟨sentChunks trace, events, sent ▸ List.prefix_refl _, fun _ => ⟨sent, success⟩⟩
  | @broken chunks error handed =>
      have events := delivered_chunks chunks
        (rfl : delivered ([Except.error error].map chunkEvent) = [])
      refine ⟨chunks, events, handed.trans inOrder.handed, ?_⟩
      intro fine
      exact absurd (fine (.error error) (by simp)) (by simp [Except.toOption])

/-- After a success the adapter has put the chunks of all callbacks, if it abandoned none. -/
theorem putChunks_of_success {trace : StreamTrace} {final : StreamState}
    (run : completeStream.Run .start trace final) (success : final.returned = some none)
    (kept : ∀ entry ∈ trace, entry.1 ≠ .abandon)
    : putChunks trace = (providerEvents trace).filterMap ProviderEvent.chunk := by
  have drained := (completeStream_account run).drained success
  exact run_emitted run kept (run_closedWhenFinished run drained.2)

/-- The handler makes an event of each chunk it receives. -/
theorem chatStream_events {state : AppState} {request : ChatRequest} {world : ServerWorld}
    {items : List (Except String CompletionChunk)} {events : List (Except SphereError SseEvent)}
    (streamed : world.completeStream = .ok items)
    (answered : (chatStream state request world).outcome = .ok events)
    : events = items.map chunkEvent := by
  simp only [chatStream, streamed] at answered
  split at answered
  · contradiction
  · exact (Except.ok.inj answered).symm

/-- The data a client reads of a chunk. -/
def chunkData (chunk : CompletionChunk) : List Char :=
  (chunkSseEvent chunk).data.toList

/-- A streamed chat over any schedule of the Core server, any pauses and any cut of the body.
The body can be built; what a client has read of it is the data of the first of the chunks that
the adapter put, in order; when no error came it reads them all, and these are the chunks of
all callbacks of the provider unless some were abandoned; and the data of a chunk determines
its delta and type.
-/
theorem streamedChat_reachesClient {framing : SseFraming} (documented : framing.Documented)
    {trace : StreamTrace} {final : StreamState}
    (run : completeStream.Run .start trace final)
    {items : List (Except String CompletionChunk)}
    (received : Received trace final.returned items) {state : AppState}
    {request : ChatRequest} {world : ServerWorld}
    (streamed : world.completeStream = .ok items)
    {events : List (Except SphereError SseEvent)}
    (answered : (chatStream state request world).outcome = .ok events)
    {frames : List (Option SseEvent)} (spread : frames.reduceOption = delivered events)
    : ∃ text,
        framing.body frames = some text
        ∧ (∀ cut,
            cut <+: text
            → ∃ chunks,
                EventStream.read cut = chunks.map chunkData ∧ chunks <+: putChunks trace)
        ∧ ((∀ item ∈ items, item.toOption.isSome)
            → EventStream.read text = (putChunks trace).map chunkData
              ∧ ((∀ entry ∈ trace, entry.1 ≠ .abandon)
                  → EventStream.read text
                    = ((providerEvents trace).filterMap ProviderEvent.chunk).map chunkData))
        ∧ ∀ chunk chunk',
            chunkData chunk = chunkData chunk'
            → chunk.delta = chunk'.delta ∧ chunk.chunkTypeRaw = chunk'.chunkTypeRaw := by
  obtain ⟨text, built, reads⟩ := body_read documented frames
  obtain ⟨chunks, sent, inOrder, complete⟩ := delivered_received run received
  rw [spread, chatStream_events streamed answered, sent, List.map_map] at reads
  have whole : EventStream.read text = chunks.map chunkData := reads
  refine ⟨text, built, ?_, ?_, ?_⟩
  · intro cut isCut
    have first := EventStream.read_mono isCut
    rw [whole] at first
    obtain ⟨shown, isShown, same⟩ := List.prefix_map_iff.mp first
    exact ⟨shown, same, isShown.trans inOrder⟩
  · intro fine
    obtain ⟨all, success⟩ := complete fine
    rw [whole, all]
    exact ⟨rfl, fun kept => by rw [putChunks_of_success run success kept]⟩
  · intro chunk chunk' same
    obtain ⟨deltas, types⟩ := SseEvent.mk.inj (data_injective same)
    exact ⟨deltas, types⟩

/-- One field for each line of the data, and no event for data with a carriage return. -/
def axumFraming : SseFraming where
  event data :=
    if '\r' ∈ data then none
    else
      some
        ((data.splitOn '\n').flatMap (fun line => "data: ".toList ++ line ++ ['\n'])
          ++ ['\n'])
  keepAlive := [':', '\n', '\n']

theorem axumFraming_documented : axumFraming.Documented where
  event data oneLine := by
    simp only [axumFraming, if_neg oneLine.2, List.splitOn_eq_singleton oneLine.1,
      List.flatMap_singleton, List.append_assoc, List.singleton_append]
  keepAlive := ⟨[], ⟨by simp, by simp⟩, rfl⟩

/-- A delta and the end of the message reach the Sphere. -/
def shortWorld : ServerWorld where
  requestId := "r-1"
  complete _ := .error "unused"
  completeStream :=
    .ok ((sentChunks (completeStream.traceOf .start shortStream)).map Except.ok)
  tools _ _ := Sphere.quietToolWorld

/-- A pause before each of the two events. -/
def pausedFrames : List (Option SseEvent) :=
  (sentChunks (completeStream.traceOf .start shortStream)).flatMap
    (fun chunk => [none, some (chunkSseEvent chunk)])

theorem streamedChat_reachesClient_short
    : ∃ text,
        axumFraming.body pausedFrames = some text
        ∧ EventStream.read text
          = (putChunks (completeStream.traceOf .start shortStream)).map chunkData := by
  have run := Machine.traceOf_run
    (rfl : (completeStream.exec .start shortStream).isSome = true)
  obtain ⟨text, built, _, complete, _⟩ :=
    streamedChat_reachesClient axumFraming_documented run (.completed rfl)
      (rfl : shortWorld.completeStream = _)
      (rfl
        : (chatStream (.start asciiTables 0 Sphere.toolConfig) Sphere.greeting
            shortWorld).outcome
          = _)
      (rfl : pausedFrames.reduceOption = _)
  exact ⟨text, built, (complete (by decide)).1⟩

end Intellisphere.Core
