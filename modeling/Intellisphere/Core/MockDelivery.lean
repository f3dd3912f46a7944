import Intellisphere.Core.MockServer

/-! What the calls of a mock server come to, in every interleaving: the answers are the loaded
responses in order, a streamed call delivers the chunks of its own answer, and its goroutine
can always finish, whatever became of the client.
-/

namespace Intellisphere.Core

open Intellisphere.Foundation
open Intellisphere.Sphere (CompletionChunk CompletionResponse StopReason)

-----------------------------------------------------------------------------------------
-- One stream
-----------------------------------------------------------------------------------------

/-- The chunks that are still to be put. -/
def MockPhase.remaining : MockPhase → List CompletionChunk
  | .sending remaining => remaining
  | _ => []

/-- The steps that are still to be taken. -/
def MockPhase.stepsLeft : MockPhase → Nat
  | .sending remaining => remaining.length + 2
  | .closingChunks => 1
  | .finished => 0

/-- The channels are as the goroutine left them: it never sends an error and closes the channel
of the errors before that of the chunks.
-/
structure MockState.Sound (state : MockState) (response : CompletionResponse)
    (put : List CompletionChunk)
    : Prop where
  noErrors : state.errCh.buffer = []
  errors : state.errCh.closed = true ↔ state.adapter.stepsLeft ≤ 1
  chunks : state.chunkCh.closed = true ↔ state.adapter = .finished
  put : put ++ state.adapter.remaining = mockChunks response
  result
    : state.returned = none
      ∨ state.returned = some none
      ∨ state.returned = some sendFailure
      ∨ state.returned = some clientDisconnected

/-- A round of the select loop over channels without errors closes nothing and puts nothing. -/
theorem selectRound_quiet {chunkCh : Channel CompletionChunk mockChunkCapacity}
    {errCh : Channel GoString errorCapacity} {clientGone : Bool} {event : StreamEvent}
    {round : SelectRound mockChunkCapacity} (noErrors : errCh.buffer = [])
    (picked : selectRound chunkCh errCh clientGone event = some round)
    : round.errCh = errCh
      ∧ round.chunkCh.closed = chunkCh.closed
      ∧ round.output.put? = none
      ∧ (round.result = none
        ∨ round.result = some none
        ∨ round.result = some sendFailure
        ∨ round.result = some clientDisconnected) := by
  cases event with
  | selectChunk accepted =>
      simp only [selectRound] at picked
      cases received : chunkCh.receive with
      | waiting =>
          rw [received] at picked
          contradiction
      | drained =>
          rw [received] at picked
          obtain rfl := Option.some.inj picked
          exact ⟨rfl, rfl, rfl, .inr (.inl rfl)⟩
      | value chunk rest =>
          have closed := (Channel.receive_value received).2
          rw [received] at picked
          cases accepted with
          | true =>
              obtain rfl := Option.some.inj picked
              exact ⟨rfl, closed, rfl, .inl rfl⟩
          | false =>
              obtain rfl := Option.some.inj picked
              exact ⟨rfl, closed, rfl, .inr (.inr (.inl rfl))⟩
  | selectError =>
      simp only [selectRound] at picked
      cases received : errCh.receive with
      | waiting =>
          rw [received] at picked
          contradiction
      | drained =>
          rw [received] at picked
          obtain rfl := Option.some.inj picked
          exact ⟨rfl, rfl, rfl, .inl rfl⟩
      | value error rest =>
          have shape := (Channel.receive_value received).1
          rw [noErrors] at shape
          contradiction
  | selectDone =>
      simp only [selectRound] at picked
      split at picked
      · obtain rfl := Option.some.inj picked
        exact ⟨rfl, rfl, rfl, .inr (.inr (.inr rfl))⟩
      · contradiction
  | _ => contradiction

section Stream

variable {response : CompletionResponse} {state next : MockState} {event : StreamEvent}
  {output : StreamOutput} {put : List CompletionChunk}

theorem MockState.start_sound (response : CompletionResponse)
    : MockState.Sound (MockState.start response) response [] where
  noErrors := rfl
  errors := by simp [MockState.start, Channel.make, MockPhase.stepsLeft]
  chunks := by simp [MockState.start, Channel.make]
  put := rfl
  result := .inl rfl

/-- A step of the goroutine keeps the channels sound. -/
theorem MockState.Sound.adapterStep (sound : state.Sound response put)
    (stepped : mockAdapterStep state event = some (next, output))
    : next.Sound response (put ++ output.put?.toList) := by
  simp only [mockAdapterStep] at stepped
  split at stepped
  next chunk remaining phase =>
    split at stepped
    · contradiction
    next chunkCh sent =>
      obtain ⟨rfl, rfl⟩ := Prod.mk.inj (Option.some.inj stepped)
      obtain ⟨unclosed, unclosed', _⟩ := Channel.send_spec sent
      have unfinished : state.errCh.closed = false := by
        have errors := sound.errors
        simpa [phase, MockPhase.stepsLeft] using errors
      refine ⟨sound.noErrors, ?_, ?_, ?_, sound.result⟩
      · simp [unfinished, MockPhase.stepsLeft]
      · simp [unclosed']
      · have whole := sound.put
        simpa [phase, MockPhase.remaining, StreamOutput.put?] using whole
  next phase =>
    split at stepped
    · contradiction
    next errCh closing =>
      obtain ⟨rfl, rfl⟩ := Prod.mk.inj (Option.some.inj stepped)
      obtain ⟨_, closed, same⟩ := Channel.close_spec closing
      refine ⟨same.trans sound.noErrors, ?_, ?_, ?_, sound.result⟩
      · simp [closed, MockPhase.stepsLeft]
      · have chunks := sound.chunks
        simpa [phase] using chunks
      · have whole := sound.put
        simpa [phase, MockPhase.remaining, StreamOutput.put?] using whole
  next phase =>
    split at stepped
    · contradiction
    next chunkCh closing =>
      obtain ⟨rfl, rfl⟩ := Prod.mk.inj (Option.some.inj stepped)
      obtain ⟨_, closed, _⟩ := Channel.close_spec closing
      refine ⟨sound.noErrors, ?_, ?_, ?_, sound.result⟩
      · have errors := sound.errors
        simpa [phase, MockPhase.stepsLeft] using errors
      · simp [closed]
      · have whole := sound.put
        simpa [phase, MockPhase.remaining, StreamOutput.put?] using whole
  next => contradiction

/-- So does every step of the stream. -/
theorem MockState.Sound.step (sound : state.Sound response put)
    (stepped : mockStep state event = some (next, output))
    : next.Sound response (put ++ output.put?.toList) := by
  unfold mockStep at stepped
  split at stepped
  · obtain ⟨rfl, rfl⟩ := Prod.mk.inj (Option.some.inj stepped)
    have unput : StreamOutput.quiet.put? = none := rfl
    rw [unput, Option.toList_none, List.append_nil]
    exact ⟨sound.noErrors, sound.errors, sound.chunks, sound.put, sound.result⟩
  next event other =>
    split at stepped
    · split at stepped
      · contradiction
      next running =>
        obtain ⟨round, picked, same⟩ := Option.map_eq_some_iff.mp stepped
        obtain ⟨rfl, rfl⟩ := Prod.mk.inj same
        obtain ⟨errCh, closed, unput, result⟩ := selectRound_quiet sound.noErrors picked
        rw [unput, Option.toList_none, List.append_nil]
        refine ⟨?_, ?_, ?_, sound.put, result⟩
        · rw [errCh]
          exact sound.noErrors
        · rw [errCh]
          exact sound.errors
        · rw [closed]
          exact sound.chunks
    · exact sound.adapterStep stepped

/-- The channels are sound in every run, by induction on it. -/
theorem mockStream_sound {trace : StreamTrace}
    (run : mockStream.Run (.start response) trace state)
    : state.Sound response (putChunks trace) := by
  refine run.history (fun trace state => state.Sound response (putChunks trace))
    (MockState.start_sound response) ?_
  intro trace middle event next output _ sound stepped
  unfold putChunks
  rw [filterMap_snoc StreamOutput.put?]
  exact sound.step stepped

/-- What is handed on is a beginning of the chunks of the answer, and a success sends them all.
-/
theorem mockStream_delivers {trace : StreamTrace}
    (run : mockStream.Run (.start response) trace state)
    : handedChunks trace <+: mockChunks response
      ∧ (state.returned = some none → sentChunks trace = mockChunks response) := by
  have sound := mockStream_sound run
  have account := mockStream_account run
  refine ⟨account.prefixDelivered.handed.trans ⟨_, sound.put⟩, ?_⟩
  intro success
  have finished := sound.chunks.mp (account.drained success).2
  have nothing : MockPhase.finished.remaining = [] := rfl
  have whole := sound.put
  rw [finished, nothing, List.append_nil] at whole
  rw [account.prefixDelivered.complete success, whole]

/-- The buffer holds what was put, so there is room for the rest. -/
theorem MockState.Sound.room {trace : StreamTrace}
    (sound : state.Sound response (putChunks trace))
    (account : DeliveryAccount trace state.chunkCh state.returned)
    : state.chunkCh.buffer.length + state.adapter.remaining.length ≤ 2 := by
  have whole := congrArg List.length sound.put
  have moved := congrArg List.length account.moves
  rw [List.length_append] at whole moved
  rw [List.length_append] at moved
  have two : (mockChunks response).length = 2 := rfl
  have none : (Channel.make : Channel CompletionChunk mockChunkCapacity).buffer = [] := rfl
  rw [none, List.length_nil] at moved
  omega

/-- The goroutine of a stream can step until it is finished. By cases on where it stands. -/
theorem mockStream_steps {trace : StreamTrace}
    (run : mockStream.Run (.start response) trace state)
    (unfinished : state.adapter ≠ .finished)
    : ∃ event next output,
        event.isAdapter = true
        ∧ mockStep state event = some (next, output)
        ∧ next.adapter.stepsLeft < state.adapter.stepsLeft := by
  have sound := mockStream_sound run
  have room := sound.room (mockStream_account run)
  have unclosed : state.chunkCh.closed = false := by
    rw [← Bool.not_eq_true, sound.chunks]
    exact unfinished
  cases phase : state.adapter with
  | sending remaining =>
      cases remaining with
      | cons chunk remaining =>
          have small : state.chunkCh.buffer.length < mockChunkCapacity := by
            unfold mockChunkCapacity
            omega
          obtain ⟨chunkCh, sent⟩ := send_of_room unclosed small chunk
          refine
            ⟨.offer, { state with chunkCh, adapter := .sending remaining }, .put chunk, rfl, ?_,
              ?_⟩
          · simp [mockStep, StreamEvent.isSelect, mockAdapterStep, phase, sent]
          · simp [MockPhase.stepsLeft]
      | nil =>
          have unclosed : state.errCh.closed = false := by
            have errors := sound.errors
            simpa [phase, MockPhase.stepsLeft] using errors
          obtain ⟨errCh, closing⟩ := close_of_open unclosed
          refine
            ⟨.closeErrors, { state with errCh, adapter := .closingChunks }, .quiet, rfl, ?_,
              ?_⟩
          · simp [mockStep, StreamEvent.isSelect, mockAdapterStep, phase, closing]
          · simp [MockPhase.stepsLeft]
  | closingChunks =>
      obtain ⟨chunkCh, closing⟩ := close_of_open unclosed
      refine ⟨.closeChunks, { state with chunkCh, adapter := .finished }, .quiet, rfl, ?_, ?_⟩
      · simp [mockStep, StreamEvent.isSelect, mockAdapterStep, phase, closing]
      · simp [MockPhase.stepsLeft]
  | finished => contradiction

end Stream

-----------------------------------------------------------------------------------------
-- All calls
-----------------------------------------------------------------------------------------

/-- The goroutine of a call has its answer and has streamed it. -/
def MockCall.Done (call : MockCall) : Prop :=
  call.answer.isSome = true ∧ call.stream.adapter = .finished

/-- The steps that are left to the goroutine of a call. -/
def MockCall.stepsLeft (call : MockCall) : Nat :=
  if call.answer.isSome then call.stream.adapter.stepsLeft else 5

def MockServer.stepsLeft (index : Nat) (server : MockServer) : Nat :=
  match server.calls[index]? with
  | none => 0
  | some call => call.stepsLeft

section Server

variable {trace : MockTrace} {server : MockServer} {index : Nat} {call : MockCall}

/-- Every call is served in every run. -/
theorem mockServer_serves (run : mockServer.Run .start trace server) : server.Serves trace := by
  refine run.history (fun trace server => server.Serves trace) ?_ ?_
  · exact ⟨fun index call found => (nomatch found), fun index unmade => ⟨rfl, rfl⟩⟩
  · intro trace middle event next output _ serves stepped
    exact mockServerStep_serves stepped serves

theorem mockServer_gives (run : mockServer.Run .start trace server)
    : server.adapter.Gives (answersSinceLoad trace).1 (answersSinceLoad trace).2 := by
  refine run.history
    (fun trace server =>
      server.adapter.Gives (answersSinceLoad trace).1 (answersSinceLoad trace).2)
    ⟨rfl, rfl, rfl⟩ ?_
  intro trace middle event next output _ gives stepped
  unfold answersSinceLoad
  rw [List.foldl_append]
  exact mockServerStep_gives stepped gives

/-- The goroutine of a call that is not done can take a step of its own. -/
theorem mockServer_steps (run : mockServer.Run .start trace server)
    (found : server.calls[index]? = some call) (undone : ¬call.Done)
    : ∃ event next output call',
        event.isGoroutine index = true
        ∧ mockServer.step server event = some (next, output)
        ∧ next.calls[index]? = some call'
        ∧ call'.stepsLeft < call.stepsLeft := by
  have serves := (mockServer_serves run).calls index call found
  obtain ⟨inside, _⟩ := List.getElem?_eq_some_iff.mp found
  cases waiting : call.answer with
  | none =>
      refine
        ⟨
          .answer index,
          {
            adapter := server.adapter.complete.2
            calls := server.calls.set index (call.answered server.adapter.complete.1)
          },
          .answered server.adapter.complete.1, call.answered server.adapter.complete.1,
          beq_self_eq_true index, ?_, List.getElem?_set_self inside, ?_
        ⟩
      · show mockServerStep server (.answer index) = _
        unfold mockServerStep
        simp only [found, waiting, Option.isSome_none, Bool.false_eq_true, if_false]
      · simp [MockCall.stepsLeft, MockCall.answered, waiting, MockPhase.stepsLeft, mockChunks]
  | some response =>
      have unfinished : call.stream.adapter ≠ .finished :=
        fun finished => undone ⟨by rw [waiting]; rfl, finished⟩
      obtain ⟨event, stream, output, adapter, stepped, lower⟩ :=
        mockStream_steps (serves.streaming response waiting) unfinished
      refine
        ⟨
          .stream index event,
          { server with calls := server.calls.set index { call with stream } },
          .stream output, { call with stream }, ?_, ?_, List.getElem?_set_self inside, ?_
        ⟩
      · rw [MockEvent.isGoroutine, adapter, Bool.and_true]
        exact beq_self_eq_true index
      · show mockServerStep server (.stream index event) = _
        unfold mockServerStep
        simp only [found, stepped]
      · simpa [MockCall.stepsLeft, waiting] using lower

/-- From every state that a run reaches the goroutine of a call can finish by itself. -/
theorem mockServer_finishes (run : mockServer.Run .start trace server)
    (found : server.calls[index]? = some call)
    : ∃ more later call',
        mockServer.Run server more later
        ∧ later.calls[index]? = some call'
        ∧ call'.Done
        ∧ (∀ entry ∈ more, entry.1.isGoroutine index = true)
        ∧ more.length ≤ call.stepsLeft := by
  obtain ⟨more, later, run', ⟨call', found', done⟩, own, short⟩ :=
    @Machine.exists_run_of_progress _ _ _ mockServer (MockServer.stepsLeft index)
      (fun server =>
        ∃ trace call, mockServer.Run .start trace server ∧ server.calls[index]? = some call)
      (fun server => ∃ call, server.calls[index]? = some call ∧ call.Done)
      (fun event => event.isGoroutine index = true)
      (by
        intro server ⟨trace, call, run, found⟩ undone
        obtain ⟨event, next, output, call', own, stepped, found', lower⟩ :=
          mockServer_steps run found (fun done => undone ⟨call, found, done⟩)
        refine ⟨event, next, output, own, stepped, ⟨_, call', run.snoc stepped, found'⟩, ?_⟩
        unfold MockServer.stepsLeft
        rw [found, found']
        exact lower)
      server ⟨trace, call, run, found⟩
  unfold MockServer.stepsLeft at short
  rw [found] at short
  exact ⟨more, later, call', run', found', done, own, short⟩

end Server

/-- How a mock server serves its calls. The answers since the responses were loaded are these in
order and then the last resort; a streamed call has at most one answer and hands on a beginning
of its chunks, all of them when it succeeds and none before it has the answer; it never fails
but for the transport; and its goroutine can finish in at most five steps of its own.
-/
structure MockServed (trace : MockTrace) (server : MockServer) : Prop where
  inOrder
    : (answersSinceLoad trace).2
      = (List.range (answersSinceLoad trace).2.length).map
          (answerAt (answersSinceLoad trace).1)
  once (index : Nat) (call : MockCall) (found : server.calls[index]? = some call)
    : callAnswers index trace = call.answer.toList
  delivered (index : Nat) (call : MockCall) (found : server.calls[index]? = some call)
    (response : CompletionResponse) (answered : call.answer = some response)
    : handedChunks (callTrace index trace) <+: mockChunks response
      ∧ (call.stream.returned = some none
        → sentChunks (callTrace index trace) = mockChunks response)
  unanswered (index : Nat) (call : MockCall) (found : server.calls[index]? = some call)
    (waiting : call.answer = none)
    : handedChunks (callTrace index trace) = [] ∧ call.stream.returned ≠ some none
  results (index : Nat) (call : MockCall) (found : server.calls[index]? = some call)
    (status : Status) (failed : call.stream.returned = some (some status))
    : status = sendFailure ∨ status = clientDisconnected
  finishes (index : Nat) (call : MockCall) (found : server.calls[index]? = some call)
    : ∃ more later call',
        mockServer.Run server more later
        ∧ later.calls[index]? = some call'
        ∧ call'.Done
        ∧ (∀ entry ∈ more, entry.1.isGoroutine index = true)
        ∧ more.length ≤ 5

/-- Every interleaving of the calls, the loads and what happens to the clients. -/
theorem mockServer_served {trace : MockTrace} {server : MockServer}
    (run : mockServer.Run .start trace server)
    : MockServed trace server where
  inOrder := (mockServer_gives run).given
  once index call found := ((mockServer_serves run).calls index call found).answers
  delivered index call found response answered :=
    mockStream_delivers
      (((mockServer_serves run).calls index call found).streaming response answered)
  unanswered index call found waiting := by
    have serves := (mockServer_serves run).calls index call found
    have run := (serves.waiting waiting).2 exhaustedResponse
    have whole := (mockStream_sound run).put
    have unput : putChunks (callTrace index trace) = [] := List.append_left_eq_self.mp whole
    have handed := (mockStream_account run).prefixDelivered.handed
    rw [unput] at handed
    refine ⟨List.prefix_nil.mp handed, ?_⟩
    intro success
    have closed := ((mockStream_account run).drained success).2
    have finished := (mockStream_sound run).chunks.mp closed
    contradiction
  results index call found status failed := by
    have serves := (mockServer_serves run).calls index call found
    have result (response : CompletionResponse) (state : MockState)
        (run : mockStream.Run (.start response) (callTrace index trace) state)
        (failed : state.returned = some (some status))
        : status = sendFailure ∨ status = clientDisconnected := by
      rcases (mockStream_sound run).result with running | success | broken | gone
      · simp [running] at failed
      · simp [success] at failed
      · rw [broken] at failed
        exact .inl (Option.some.inj (Option.some.inj failed)).symm
      · rw [gone] at failed
        exact .inr (Option.some.inj (Option.some.inj failed)).symm
    cases waiting : call.answer with
    | none => exact result _ _ ((serves.waiting waiting).2 exhaustedResponse) failed
    | some response => exact result _ _ (serves.streaming response waiting) failed
  finishes index call found := by
    obtain ⟨more, later, call', run', found', done, own, short⟩ :=
      mockServer_finishes run found
    refine ⟨more, later, call', run', found', done, own, short.trans ?_⟩
    have serves := (mockServer_serves run).calls index call found
    unfold MockCall.stepsLeft
    cases waiting : call.answer with
    | none => exact Nat.le_refl 5
    | some response =>
        have run := serves.streaming response waiting
        have room := (mockStream_sound run).room (mockStream_account run)
        dsimp only [Option.isSome_some]
        rw [if_pos rfl]
        cases phase : call.stream.adapter with
        | sending remaining =>
            rw [phase] at room
            dsimp only [MockPhase.stepsLeft, MockPhase.remaining] at room ⊢
            omega
        | closingChunks => exact Nat.le_add_left 1 4
        | finished => exact Nat.zero_le 5

/-- One response for two streamed calls and a unary one. The call made last is answered first,
and its client leaves before it has anything.
-/
def twoStreams : List MockEvent :=
  [
    .completeStream, .completeStream, .stream 1 .clientCancel, .answer 1, .complete,
    .stream 1 .selectDone, .stream 1 .offer, .answer 0, .stream 0 .offer,
    .stream 0 (.selectChunk true)
  ]

theorem mockServer_served_twoStreams
    : MockServed (mockServer.traceOf .start twoStreams)
          (mockServer.stateAfter .start twoStreams)
      ∧ callAnswers 0 (mockServer.traceOf .start twoStreams) = [exhaustedResponse]
      ∧ callAnswers 1 (mockServer.traceOf .start twoStreams) = [mockGreeting] :=
  ⟨mockServer_served (Machine.traceOf_run rfl), rfl, rfl⟩

end Intellisphere.Core
