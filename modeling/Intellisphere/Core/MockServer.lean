import Intellisphere.Core.Delivery
import Intellisphere.Core.StreamLiveness

/-! The mock adapter behind the server, with any number of calls at once. Calls take the
adapter's lock in some order and are answered with the loaded responses in that order; what a
streamed call does with its answer is a mock stream of its own.
-/

namespace Intellisphere.Core

open Intellisphere.Foundation
open Intellisphere.Sphere (CompletionChunk CompletionResponse StopReason ToolCall Usage)

structure MockResponse where
  content : String
  toolCalls : List ToolCall := []
  stopReasonRaw : Int32
  usage : Option Usage := none

def MockResponse.toProto (response : MockResponse) : CompletionResponse where
  content := response.content
  toolCalls := response.toolCalls
  stopReasonRaw := response.stopReasonRaw
  usage := response.usage
  model := "mock"

/-- What the lock of the adapter protects. -/
structure MockAdapter where
  responses : List MockResponse
  callIndex : Nat

def newMockAdapter : MockAdapter where
  responses :=
    [
      {
        content := "Hello! I'm a mock LLM response."
        stopReasonRaw := StopReason.endTurn.toRaw
        usage := some { inputTokens := 10, outputTokens := 8 }
      }
    ]
  callIndex := 0

def MockAdapter.loadResponses (_ : MockAdapter) (responses : List MockResponse) : MockAdapter :=
  { responses, callIndex := 0 }

/-- The answer when there are no more responses. -/
def exhaustedResponse : CompletionResponse where
  content := "Mock: no more responses configured"
  toolCalls := []
  stopReasonRaw := StopReason.endTurn.toRaw
  usage := some { inputTokens := 5, outputTokens := 6 }
  model := "mock"

def MockAdapter.complete (adapter : MockAdapter) : CompletionResponse × MockAdapter :=
  match adapter.responses[adapter.callIndex]? with
  | none => (exhaustedResponse, adapter)
  | some response => (response.toProto, { adapter with callIndex := adapter.callIndex + 1 })

/-- A streamed call. Its goroutine first completes the request; until it has its answer it takes
none of the steps of the stream, as if it was finished.
-/
structure MockCall where
  answer : Option CompletionResponse
  stream : MockState

def MockCall.start : MockCall where
  answer := none
  stream :=
    {
      adapter := .finished
      chunkCh := .make
      errCh := .make
      clientGone := false
      returned := none
    }

/-- The goroutine has its answer and goes on to stream it. -/
def MockCall.answered (call : MockCall) (response : CompletionResponse) : MockCall where
  answer := some response
  stream := { call.stream with adapter := .sending (mockChunks response) }

structure MockServer where
  adapter : MockAdapter
  calls : List MockCall

/-- Loading and completing hold the lock throughout; a unary call does nothing else. -/
inductive MockEvent where
  | loadResponses (responses : List MockResponse)
  | complete
  | completeStream
  | answer (call : Nat)
  | stream (call : Nat) (event : StreamEvent)

inductive MockOutput where
  | quiet
  | answered (response : CompletionResponse)
  | stream (output : StreamOutput)

def mockServerStep (server : MockServer) : MockEvent → Option (MockServer × MockOutput)
  | .loadResponses responses =>
      some ({ server with adapter := server.adapter.loadResponses responses }, .quiet)
  | .complete =>
      let (response, adapter) := server.adapter.complete
      some ({ server with adapter }, .answered response)
  | .completeStream => some ({ server with calls := server.calls ++ [.start] }, .quiet)
  | .answer index =>
      match server.calls[index]? with
      | none => none
      | some call =>
          if call.answer.isSome then none
          else
            let (response, adapter) := server.adapter.complete
            some
              (
                { adapter, calls := server.calls.set index (call.answered response) },
                .answered response
              )
  | .stream index event =>
      match server.calls[index]? with
      | none => none
      | some call =>
          match mockStep call.stream event with
          | none => none
          | some (stream, output) =>
              some
                (
                  { server with calls := server.calls.set index { call with stream } },
                  .stream output
                )

def mockServer : Machine MockServer MockEvent MockOutput where
  step := mockServerStep

def MockServer.start : MockServer where
  adapter := newMockAdapter
  calls := []

abbrev MockTrace :=
  List (MockEvent × MockOutput)

-----------------------------------------------------------------------------------------
-- Histories
-----------------------------------------------------------------------------------------

def MockOutput.response? : MockOutput → Option CompletionResponse
  | .answered response => some response
  | _ => none

/-- The responses loaded last and the answers given since then. -/
def noteAnswer (noted : List MockResponse × List CompletionResponse)
    (entry : MockEvent × MockOutput)
    : List MockResponse × List CompletionResponse :=
  match entry.1 with
  | .loadResponses responses => (responses, [])
  | _ => (noted.1, noted.2 ++ entry.2.response?.toList)

def answersSinceLoad (trace : MockTrace) : List MockResponse × List CompletionResponse :=
  trace.foldl noteAnswer (newMockAdapter.responses, [])

/-- The answer at some place: a loaded response, or the last resort. -/
def answerAt (responses : List MockResponse) (index : Nat) : CompletionResponse :=
  match responses[index]? with
  | none => exhaustedResponse
  | some response => response.toProto

/-- The answer to a call, if the step is one. -/
def answerStep? (index : Nat) : MockEvent × MockOutput → Option CompletionResponse
  | (.answer call, .answered response) => if call = index then some response else none
  | _ => none

/-- The step of the stream of a call, if it is one. -/
def streamStep? (index : Nat) : MockEvent × MockOutput → Option (StreamEvent × StreamOutput)
  | (.stream call event, .stream output) => if call = index then some (event, output) else none
  | _ => none

/-- The answers that a streamed call was given. -/
def callAnswers (index : Nat) (trace : MockTrace) : List CompletionResponse :=
  trace.filterMap (answerStep? index)

def callTrace (index : Nat) (trace : MockTrace) : StreamTrace :=
  trace.filterMap (streamStep? index)

/-- The steps of the goroutine of a call. -/
def MockEvent.isGoroutine (index : Nat) : MockEvent → Bool
  | .answer call => call == index
  | .stream call event => call == index && event.isAdapter
  | _ => false

-----------------------------------------------------------------------------------------
-- Answers
-----------------------------------------------------------------------------------------

/-- The adapter gives the answers one after the other. -/
structure MockAdapter.Gives (adapter : MockAdapter) (responses : List MockResponse)
    (answers : List CompletionResponse)
    : Prop where
  loaded : adapter.responses = responses
  index : adapter.callIndex = min answers.length responses.length
  given : answers = (List.range answers.length).map (answerAt responses)

theorem MockAdapter.Gives.complete {adapter : MockAdapter} {responses : List MockResponse}
    {answers : List CompletionResponse} (gives : adapter.Gives responses answers)
    : adapter.complete.2.Gives responses (answers ++ [adapter.complete.1]) := by
  obtain ⟨loaded, index, given⟩ := gives
  have next : adapter.complete.1 = answerAt responses answers.length := by
    unfold MockAdapter.complete answerAt
    rw [loaded, index]
    rcases Nat.lt_or_ge answers.length responses.length with more | exhausted
    · rw [Nat.min_eq_left more.le]
      cases responses[answers.length]? <;> rfl
    · rw [Nat.min_eq_right exhausted, List.getElem?_eq_none (Nat.le_refl _),
        List.getElem?_eq_none exhausted]
  refine ⟨?_, ?_, ?_⟩
  · unfold MockAdapter.complete
    split <;> exact loaded
  · rw [List.length_append, List.length_singleton]
    unfold MockAdapter.complete
    rw [loaded]
    split
    next none =>
      have exhausted := List.getElem?_eq_none_iff.mp none
      dsimp only
      omega
    next response found =>
      obtain ⟨inside, _⟩ := List.getElem?_eq_some_iff.mp found
      dsimp only
      omega
  · rw [List.length_append, List.length_singleton, List.range_succ, List.map_append,
      List.map_singleton, ← given, next]

/-- A step keeps the account of the adapter's answers. -/
theorem mockServerStep_gives {server next : MockServer} {event : MockEvent}
    {output : MockOutput} {noted : List MockResponse × List CompletionResponse}
    (stepped : mockServerStep server event = some (next, output))
    (gives : server.adapter.Gives noted.1 noted.2)
    : next.adapter.Gives (noteAnswer noted (event, output)).1
        (noteAnswer noted (event, output)).2 := by
  cases event with
  | loadResponses responses =>
      obtain ⟨rfl, rfl⟩ := Prod.mk.inj (Option.some.inj stepped)
      exact ⟨rfl, (Nat.zero_min _).symm, rfl⟩
  | complete =>
      obtain ⟨rfl, rfl⟩ := Prod.mk.inj (Option.some.inj stepped)
      exact gives.complete
  | completeStream =>
      obtain ⟨rfl, rfl⟩ := Prod.mk.inj (Option.some.inj stepped)
      simpa [noteAnswer, MockOutput.response?] using gives
  | answer index =>
      unfold mockServerStep at stepped
      dsimp only at stepped
      split at stepped
      · contradiction
      · split at stepped
        · contradiction
        · obtain ⟨rfl, rfl⟩ := Prod.mk.inj (Option.some.inj stepped)
          exact gives.complete
  | stream index event =>
      unfold mockServerStep at stepped
      dsimp only at stepped
      split at stepped
      · contradiction
      · split at stepped
        · contradiction
        · obtain ⟨rfl, rfl⟩ := Prod.mk.inj (Option.some.inj stepped)
          simpa [noteAnswer, MockOutput.response?] using gives

-----------------------------------------------------------------------------------------
-- Streams
-----------------------------------------------------------------------------------------

/-- The part of a trace that belongs to a call, with what became of the call. Before the answer
it is a beginning of the stream of any response.
-/
structure MockCall.Serves (call : MockCall) (answers : List CompletionResponse)
    (trace : StreamTrace)
    : Prop where
  answers : answers = call.answer.toList
  waiting
    : call.answer = none
      → call.stream.adapter = .finished
        ∧ ∀ response,
            mockStream.Run (.start response) trace
              { call.stream with adapter := .sending (mockChunks response) }
  streaming
    : ∀ response,
        call.answer = some response → mockStream.Run (.start response) trace call.stream

theorem MockCall.start_serves : MockCall.Serves MockCall.start [] [] where
  answers := rfl
  waiting _ := ⟨rfl, fun response => .nil (MockState.start response)⟩
  streaming response answered := by contradiction

/-- The answer starts the stream that was waiting for it. -/
theorem MockCall.Serves.answered {call : MockCall} {answers : List CompletionResponse}
    {trace : StreamTrace} (serves : call.Serves answers trace) (waiting : call.answer = none)
    (response : CompletionResponse)
    : (call.answered response).Serves (answers ++ [response]) trace where
  answers := by
    rw [serves.answers, waiting]
    rfl
  waiting none := by contradiction
  streaming response' same := by
    obtain rfl := Option.some.inj same
    exact (serves.waiting waiting).2 response

/-- A goroutine that waits for its answer takes no step, so what happens to its stream does not
depend on where it will go on.
-/
theorem mockStep_waiting {state next : MockState} {event : StreamEvent} {output : StreamOutput}
    (waiting : state.adapter = .finished) (stepped : mockStep state event = some (next, output))
    (adapter : MockPhase)
    : next.adapter = .finished
      ∧ mockStep { state with adapter } event = some ({ next with adapter }, output) := by
  unfold mockStep at stepped ⊢
  split at stepped
  · obtain ⟨rfl, rfl⟩ := Prod.mk.inj (Option.some.inj stepped)
    exact ⟨waiting, rfl⟩
  next event other =>
    split at stepped
    next select =>
      rw [if_pos select]
      dsimp only
      split at stepped
      · contradiction
      next running =>
        obtain ⟨round, picked, same⟩ := Option.map_eq_some_iff.mp stepped
        obtain ⟨rfl, rfl⟩ := Prod.mk.inj same
        rw [if_neg running, picked]
        exact ⟨waiting, rfl⟩
    · simp [mockAdapterStep, waiting] at stepped

/-- A step of its stream is one of the call. -/
theorem MockCall.Serves.step {call : MockCall} {answers : List CompletionResponse}
    {trace : StreamTrace} {event : StreamEvent} {stream : MockState} {output : StreamOutput}
    (serves : call.Serves answers trace)
    (stepped : mockStep call.stream event = some (stream, output))
    : { call with stream }.Serves answers (trace ++ [(event, output)]) where
  answers := serves.answers
  waiting none := by
    obtain ⟨waiting, runs⟩ := serves.waiting none
    exact
      ⟨(mockStep_waiting waiting stepped .finished).1,
        fun response => (runs response).snoc (mockStep_waiting waiting stepped _).2⟩
  streaming response answered := (serves.streaming response answered).snoc stepped

/-- Every call is served by its part of the trace, and calls that are not made yet have none. -/
structure MockServer.Serves (server : MockServer) (trace : MockTrace) : Prop where
  calls (index : Nat) (call : MockCall) (found : server.calls[index]? = some call)
    : call.Serves (callAnswers index trace) (callTrace index trace)
  later (index : Nat) (unmade : server.calls.length ≤ index)
    : callAnswers index trace = [] ∧ callTrace index trace = []

theorem filterMap_singleton {α β : Type} (pick : α → Option β) (entry : α)
    : [entry].filterMap pick = (pick entry).toList := by
  cases picked : pick entry <;> simp [picked]

theorem callAnswers_snoc (index : Nat) (trace : MockTrace) (entry : MockEvent × MockOutput)
    : callAnswers index (trace ++ [entry])
      = callAnswers index trace ++ (answerStep? index entry).toList := by
  unfold callAnswers
  rw [List.filterMap_append, filterMap_singleton]

theorem callTrace_snoc (index : Nat) (trace : MockTrace) (entry : MockEvent × MockOutput)
    : callTrace index (trace ++ [entry])
      = callTrace index trace ++ (streamStep? index entry).toList := by
  unfold callTrace
  rw [List.filterMap_append, filterMap_singleton]

/-- An entry that belongs to no call of the index. -/
def Unowned (index : Nat) (entry : MockEvent × MockOutput) : Prop :=
  answerStep? index entry = none ∧ streamStep? index entry = none

theorem Unowned.snoc {index : Nat} {entry : MockEvent × MockOutput}
    (unowned : Unowned index entry) (trace : MockTrace)
    : callAnswers index (trace ++ [entry]) = callAnswers index trace
      ∧ callTrace index (trace ++ [entry]) = callTrace index trace := by
  rw [callAnswers_snoc, callTrace_snoc, unowned.1, unowned.2]
  exact ⟨List.append_nil _, List.append_nil _⟩

/-- Calls other than the one that changes are served as before. -/
theorem MockServer.Serves.set {server : MockServer} {trace : MockTrace} {index : Nat}
    {call : MockCall} {entry : MockEvent × MockOutput} (adapter : MockAdapter)
    (serves : server.Serves trace) (inside : index < server.calls.length)
    (own
      : call.Serves (callAnswers index (trace ++ [entry]))
          (callTrace index (trace ++ [entry])))
    (others : ∀ other, other ≠ index → Unowned other entry)
    : MockServer.Serves { adapter, calls := server.calls.set index call }
        (trace ++ [entry]) where
  calls other found' found := by
    by_cases same : other = index
    · subst same
      rw [List.getElem?_set_self inside] at found
      obtain rfl := Option.some.inj found
      exact own
    · rw [List.getElem?_set_ne (Ne.symm same)] at found
      rw [((others other same).snoc trace).1, ((others other same).snoc trace).2]
      exact serves.calls other found' found
  later other unmade := by
    rw [List.length_set] at unmade
    have same : other ≠ index := by omega
    rw [((others other same).snoc trace).1, ((others other same).snoc trace).2]
    exact serves.later other unmade

/-- An entry that belongs to no call. -/
theorem MockServer.Serves.skip {server : MockServer} {trace : MockTrace}
    {entry : MockEvent × MockOutput} (serves : server.Serves trace)
    (unowned : ∀ index, Unowned index entry)
    : server.Serves (trace ++ [entry]) where
  calls index call found := by
    rw [((unowned index).snoc trace).1, ((unowned index).snoc trace).2]
    exact serves.calls index call found
  later index unmade := by
    rw [((unowned index).snoc trace).1, ((unowned index).snoc trace).2]
    exact serves.later index unmade

/-- A step keeps every call served. By cases on the event. -/
theorem mockServerStep_serves {server next : MockServer} {trace : MockTrace}
    {event : MockEvent} {output : MockOutput}
    (stepped : mockServerStep server event = some (next, output))
    (serves : server.Serves trace)
    : next.Serves (trace ++ [(event, output)]) := by
  cases event with
  | loadResponses responses =>
      obtain ⟨rfl, rfl⟩ := Prod.mk.inj (Option.some.inj stepped)
      have skipped : server.Serves (trace ++ [(.loadResponses responses, .quiet)]) :=
        serves.skip (fun index => ⟨rfl, rfl⟩)
      exact ⟨skipped.calls, skipped.later⟩
  | complete =>
      obtain ⟨rfl, rfl⟩ := Prod.mk.inj (Option.some.inj stepped)
      have skipped
          : server.Serves (trace ++ [(.complete, .answered server.adapter.complete.1)]) :=
        serves.skip (fun index => ⟨rfl, rfl⟩)
      exact ⟨skipped.calls, skipped.later⟩
  | completeStream =>
      obtain ⟨rfl, rfl⟩ := Prod.mk.inj (Option.some.inj stepped)
      have skipped : server.Serves (trace ++ [(.completeStream, .quiet)]) :=
        serves.skip (fun index => ⟨rfl, rfl⟩)
      refine ⟨?_, ?_⟩
      · intro index call found
        dsimp only at found
        rcases Nat.lt_or_ge index server.calls.length with inside | new
        · rw [List.getElem?_append_left inside] at found
          exact skipped.calls index call found
        · obtain ⟨answers, entries⟩ := skipped.later index new
          rw [List.getElem?_append_right new, List.getElem?_singleton] at found
          split at found
          · obtain rfl := Option.some.inj found
            rw [answers, entries]
            exact MockCall.start_serves
          · contradiction
      · intro index unmade
        rw [List.length_append] at unmade
        exact skipped.later index (by omega)
  | answer index =>
      unfold mockServerStep at stepped
      dsimp only at stepped
      split at stepped
      · contradiction
      next call found =>
        split at stepped
        · contradiction
        next waiting =>
          obtain ⟨rfl, rfl⟩ := Prod.mk.inj (Option.some.inj stepped)
          obtain ⟨inside, _⟩ := List.getElem?_eq_some_iff.mp found
          refine serves.set _ inside ?_ ?_
          · have own := (serves.calls index call found).answered
              (Option.not_isSome_iff_eq_none.mp waiting) server.adapter.complete.1
            simpa [callAnswers_snoc, callTrace_snoc, answerStep?, streamStep?] using own
          · intro other different
            exact ⟨if_neg (Ne.symm different), rfl⟩
  | stream index event =>
      unfold mockServerStep at stepped
      dsimp only at stepped
      split at stepped
      · contradiction
      next call found =>
        split at stepped
        · contradiction
        next stream output' moved =>
          obtain ⟨rfl, rfl⟩ := Prod.mk.inj (Option.some.inj stepped)
          obtain ⟨inside, _⟩ := List.getElem?_eq_some_iff.mp found
          refine serves.set _ inside ?_ ?_
          · have own := (serves.calls index call found).step moved
            simpa [callAnswers_snoc, callTrace_snoc, answerStep?, streamStep?] using own
          · intro other different
            exact ⟨rfl, if_neg (Ne.symm different)⟩

end Intellisphere.Core
