import Intellisphere.Core.ErrorDelivery
import Intellisphere.Foundation.Progress

/-! A stream does not hang. Whatever the schedule was, the goroutine of the adapter and the
select loop can finish by themselves as soon as the provider's call is over; neither waits for
the other for ever, and together they take no more steps than the provider's callbacks pay for.
-/

namespace Intellisphere.Core

open Intellisphere.Foundation
open Intellisphere.Sphere (CompletionChunk)

/-- The steps of the adapter's goroutine that do not wait for the provider. -/
@[simp]
def StreamEvent.isAdapter : StreamEvent → Bool
  | .offer => true
  | .abandon => true
  | .putError => true
  | .closeErrors => true
  | .closeChunks => true
  | _ => false

/-- The steps of the two goroutines. -/
@[simp]
def StreamEvent.isOwn (event : StreamEvent) : Bool :=
  event.isAdapter || event.isSelect

/-- A step of one of the goroutines that gets something done. A round of the select loop on the
closed channel of errors does not.
-/
@[simp]
def isProgress : StreamEvent × StreamOutput → Bool
  | (.selectError, .quiet) => false
  | (event, _) => event.isOwn

/-- A callback of the provider's library. -/
@[simp]
def isCallback : StreamEvent × StreamOutput → Bool
  | (.provider _, _) => true
  | _ => false

/-- The steps the adapter's goroutine still has to take, the provider apart. -/
@[simp]
def AdapterPhase.stepsLeft : AdapterPhase → Nat
  | .streaming => 3
  | .offering _ => 4
  | .failed _ => 3
  | .closingErrors => 2
  | .closingChunks => 1
  | .finished => 0

/-- The work left in a stream. A step of the adapter may leave a chunk to the select loop, so
it counts twice.
-/
def StreamState.work (state : StreamState) : Nat :=
  2 * state.adapter.stepsLeft
  + state.chunkCh.buffer.length
  + if state.returned = none then 1 else 0

-----------------------------------------------------------------------------------------
-- Every step is paid for
-----------------------------------------------------------------------------------------

/-- The steps of the adapter, with the phases they lead from and to. -/
inductive AdapterMove (before : StreamState) : StreamEvent → StreamState → StreamOutput → Prop
  | ignored (callback : ProviderEvent) (phase : before.adapter = .streaming)
    : AdapterMove before (.provider callback) before .quiet
  | called (callback : ProviderEvent) (chunk : CompletionChunk)
    (phase : before.adapter = .streaming)
    : AdapterMove before (.provider callback) { before with adapter := .offering chunk } .quiet
  | offered {chunk : CompletionChunk} {chunkCh : Channel CompletionChunk chunkCapacity}
    (phase : before.adapter = .offering chunk)
    (sent : before.chunkCh.send chunk = some chunkCh)
    : AdapterMove before .offer { before with chunkCh, adapter := .streaming } (.put chunk)
  | abandoned {chunk : CompletionChunk} (phase : before.adapter = .offering chunk)
    : AdapterMove before .abandon { before with adapter := .streaming } .quiet
  | succeeded (phase : before.adapter = .streaming)
    : AdapterMove before (.providerReturned none) { before with adapter := .closingErrors }
        .quiet
  | failed (error : GoString) (phase : before.adapter = .streaming)
    : AdapterMove before (.providerReturned (some error))
        { before with adapter := .failed (streamingError error) } .quiet
  | putError {error : GoString} {errCh : Channel GoString errorCapacity}
    (phase : before.adapter = .failed error) (sent : before.errCh.send error = some errCh)
    : AdapterMove before .putError { before with errCh, adapter := .closingErrors }
        (.putError error)
  | closedErrors {errCh : Channel GoString errorCapacity}
    (phase : before.adapter = .closingErrors) (closing : before.errCh.close = some errCh)
    : AdapterMove before .closeErrors { before with errCh, adapter := .closingChunks } .quiet
  | closedChunks {chunkCh : Channel CompletionChunk chunkCapacity}
    (phase : before.adapter = .closingChunks) (closing : before.chunkCh.close = some chunkCh)
    : AdapterMove before .closeChunks { before with chunkCh, adapter := .finished } .quiet

/-- Every step of the adapter is one of these. -/
theorem adapterStep_moves {before after : StreamState} {event : StreamEvent}
    {output : StreamOutput} (stepped : adapterStep before event = some (after, output))
    : AdapterMove before event after output := by
  simp only [adapterStep] at stepped
  split at stepped
  next callback phase =>
    split at stepped
    · obtain ⟨rfl, rfl⟩ := Prod.mk.inj (Option.some.inj stepped)
      exact .ignored callback phase
    next chunk sends =>
      obtain ⟨rfl, rfl⟩ := Prod.mk.inj (Option.some.inj stepped)
      exact .called callback chunk phase
  next chunk phase =>
    split at stepped
    · contradiction
    next chunkCh sent =>
      obtain ⟨rfl, rfl⟩ := Prod.mk.inj (Option.some.inj stepped)
      exact .offered phase sent
  next chunk phase =>
    split at stepped
    · obtain ⟨rfl, rfl⟩ := Prod.mk.inj (Option.some.inj stepped)
      exact .abandoned phase
    · contradiction
  next phase =>
    obtain ⟨rfl, rfl⟩ := Prod.mk.inj (Option.some.inj stepped)
    exact .succeeded phase
  next error phase =>
    obtain ⟨rfl, rfl⟩ := Prod.mk.inj (Option.some.inj stepped)
    exact .failed error phase
  next error phase =>
    split at stepped
    · contradiction
    next errCh sent =>
      obtain ⟨rfl, rfl⟩ := Prod.mk.inj (Option.some.inj stepped)
      exact .putError phase sent
  next phase =>
    split at stepped
    · contradiction
    next errCh closing =>
      obtain ⟨rfl, rfl⟩ := Prod.mk.inj (Option.some.inj stepped)
      exact .closedErrors phase closing
  next phase =>
    split at stepped
    · contradiction
    next chunkCh closing =>
      obtain ⟨rfl, rfl⟩ := Prod.mk.inj (Option.some.inj stepped)
      exact .closedChunks phase closing
  next => contradiction

/-- Only the select loop returns. -/
theorem AdapterMove.returned {before after : StreamState} {event : StreamEvent}
    {output : StreamOutput} (moved : AdapterMove before event after output)
    : after.returned = before.returned := by
  cases moved with
  | _ => rfl

/-- A step of the adapter brings it nearer to its end, unless it waited for the provider. -/
theorem AdapterMove.spends {before after : StreamState} {event : StreamEvent}
    {output : StreamOutput} (moved : AdapterMove before event after output)
    : 2 * after.adapter.stepsLeft + after.chunkCh.buffer.length
        + (isProgress (event, output)).toNat
      ≤ 2 * before.adapter.stepsLeft + before.chunkCh.buffer.length
        + 2 * (isCallback (event, output)).toNat := by
  have once := Bool.toNat_le (isProgress (event, output))
  cases moved with
  | ignored callback phase => exact Nat.le_add_right _ _
  | called callback chunk phase =>
      have waited : 2 * (isCallback (.provider callback, .quiet)).toNat = 2 := rfl
      have idle : (isProgress (.provider callback, .quiet)).toNat = 0 := rfl
      simp only [phase, AdapterPhase.stepsLeft]
      omega
  | offered phase sent =>
      simp only [phase, AdapterPhase.stepsLeft, (Channel.send_spec sent).2.2,
        List.length_append, List.length_singleton]
      omega
  | abandoned phase =>
      simp only [phase, AdapterPhase.stepsLeft]
      omega
  | succeeded phase =>
      simp only [phase, AdapterPhase.stepsLeft]
      omega
  | failed error phase =>
      have idle : (isProgress (.providerReturned (some error), .quiet)).toNat = 0 := rfl
      simp only [phase, AdapterPhase.stepsLeft]
      omega
  | putError phase sent =>
      simp only [phase, AdapterPhase.stepsLeft]
      omega
  | closedErrors phase closing =>
      simp only [phase, AdapterPhase.stepsLeft]
      omega
  | closedChunks phase closing =>
      simp only [phase, AdapterPhase.stepsLeft, (Channel.close_spec closing).2.2]
      omega

/-- A step of the adapter lowers the work, unless it waited for the provider. -/
theorem AdapterMove.pays {before after : StreamState} {event : StreamEvent}
    {output : StreamOutput} (moved : AdapterMove before event after output)
    : after.work + (isProgress (event, output)).toNat
      ≤ before.work + 2 * (isCallback (event, output)).toNat := by
  have spends := moved.spends
  simp only [StreamState.work, moved.returned]
  omega

/-- A round of the select loop takes a chunk or returns, unless it spins. -/
theorem SelectTransition.pays {before after : StreamState} {event : StreamEvent}
    {output : StreamOutput} (step : SelectTransition before event after output)
    (running : before.returned = none)
    : after.work + (isProgress (event, output)).toNat ≤ before.work := by
  have once := Bool.toNat_le (isProgress (event, output))
  cases step with
  | forwarded received =>
      simp only [StreamState.work, (Channel.receive_value received).1, List.length_cons]
      omega
  | sendFailed received =>
      simp only [StreamState.work, running, (Channel.receive_value received).1,
        List.length_cons, reduceCtorEq, ↓reduceIte]
      omega
  | completed =>
      simp only [StreamState.work, running, reduceCtorEq, ↓reduceIte]
      omega
  | reported =>
      simp only [StreamState.work, running, reduceCtorEq, ↓reduceIte]
      omega
  | spun => exact Nat.le_refl _
  | left =>
      simp only [StreamState.work, running, reduceCtorEq, ↓reduceIte]
      omega

/-- Every step of a stream is paid for. -/
theorem streamStep_pays {before after : StreamState} {event : StreamEvent}
    {output : StreamOutput}
    (stepped : completeStream.step before event = some (after, output))
    : after.work + (isProgress (event, output)).toNat
      ≤ before.work + 2 * (isCallback (event, output)).toNat := by
  simp only [completeStream, streamStep] at stepped
  split at stepped
  · obtain ⟨rfl, rfl⟩ := Prod.mk.inj (Option.some.inj stepped)
    exact Nat.le_refl _
  · obtain ⟨rfl, rfl⟩ := Prod.mk.inj (Option.some.inj stepped)
    exact Nat.le_refl _
  · split at stepped
    · split at stepped
      · contradiction
      next running =>
        have running := Option.not_isSome_iff_eq_none.mp running
        exact ((selectStep_transition stepped).pays running).trans (Nat.le_add_right _ _)
    · exact (adapterStep_moves stepped).pays

-----------------------------------------------------------------------------------------
-- There is always a step to take
-----------------------------------------------------------------------------------------

/-- A channel is closed when its turn has come and not before, and there is room for the error
until it is put.
-/
structure StreamState.Open (state : StreamState) : Prop where
  chunks : state.chunkCh.closed = true ↔ state.adapter = .finished
  errors : state.errCh.closed = true ↔ state.adapter.stepsLeft ≤ 1
  room : 3 ≤ state.adapter.stepsLeft → state.errCh.buffer = []

/-- A phase that closes nothing and makes no new room. -/
theorem StreamState.Open.moved {state : StreamState} (isOpen : state.Open)
    {adapter : AdapterPhase} (finished : adapter = .finished ↔ state.adapter = .finished)
    (closing : adapter.stepsLeft ≤ 1 ↔ state.adapter.stepsLeft ≤ 1)
    (room : 3 ≤ adapter.stepsLeft → 3 ≤ state.adapter.stepsLeft)
    : StreamState.Open { state with adapter } where
  chunks := isOpen.chunks.trans finished.symm
  errors := isOpen.errors.trans closing.symm
  room early := isOpen.room (room early)

/-- The adapter closes each channel in its turn. -/
theorem AdapterMove.keepsOpen {before after : StreamState} {event : StreamEvent}
    {output : StreamOutput} (moved : AdapterMove before event after output)
    (isOpen : before.Open)
    : after.Open := by
  have chunks := isOpen.chunks
  have errors := isOpen.errors
  have room := isOpen.room
  cases moved with
  | ignored callback phase => exact isOpen
  | called callback chunk phase =>
      exact isOpen.moved (by simp [phase]) (by simp [phase]) (by simp [phase])
  | offered phase sent =>
      refine ⟨?_, by simpa [phase] using errors, by simpa [phase] using room⟩
      simp [(Channel.send_spec sent).2.1]
  | abandoned phase =>
      exact isOpen.moved (by simp [phase]) (by simp [phase]) (by simp [phase])
  | succeeded phase =>
      exact isOpen.moved (by simp [phase]) (by simp [phase]) (by simp [phase])
  | failed error phase =>
      exact isOpen.moved (by simp [phase]) (by simp [phase]) (by simp [phase])
  | putError phase sent =>
      refine ⟨by simpa [phase] using chunks, ?_, by simp⟩
      simp [(Channel.send_spec sent).2.1]
  | closedErrors phase closing =>
      refine ⟨by simpa [phase] using chunks, ?_, by simp⟩
      simp [(Channel.close_spec closing).2.1]
  | closedChunks phase closing =>
      refine ⟨?_, by simpa [phase] using errors, by simp⟩
      simp [(Channel.close_spec closing).2.1]

/-- The select loop closes no channel and puts nothing in one. -/
theorem SelectTransition.keepsOpen {before after : StreamState} {event : StreamEvent}
    {output : StreamOutput} (step : SelectTransition before event after output)
    (isOpen : before.Open)
    : after.Open := by
  obtain ⟨chunks, errors, room⟩ := isOpen
  cases step with
  | forwarded received =>
      exact ⟨by rwa [(Channel.receive_value received).2], errors, room⟩
  | sendFailed received =>
      exact ⟨by rwa [(Channel.receive_value received).2], errors, room⟩
  | completed => exact ⟨chunks, errors, room⟩
  | reported received =>
      obtain ⟨taken, same⟩ := Channel.receive_value received
      refine ⟨chunks, by rwa [same], ?_⟩
      intro early
      have empty := room early
      rw [taken] at empty
      contradiction
  | spun => exact ⟨chunks, errors, room⟩
  | left => exact ⟨chunks, errors, room⟩

/-- Every step keeps the channels open that are still needed. -/
theorem streamStep_keepsOpen {before after : StreamState} {event : StreamEvent}
    {output : StreamOutput} (isOpen : before.Open)
    (stepped : completeStream.step before event = some (after, output))
    : after.Open := by
  simp only [completeStream, streamStep] at stepped
  split at stepped
  · obtain ⟨rfl, rfl⟩ := Prod.mk.inj (Option.some.inj stepped)
    exact ⟨isOpen.chunks, isOpen.errors, isOpen.room⟩
  · obtain ⟨rfl, rfl⟩ := Prod.mk.inj (Option.some.inj stepped)
    exact ⟨isOpen.chunks, isOpen.errors, isOpen.room⟩
  · split at stepped
    · split at stepped
      · contradiction
      · exact (selectStep_transition stepped).keepsOpen isOpen
    · exact (adapterStep_moves stepped).keepsOpen isOpen

theorem run_open {trace : StreamTrace} {state : StreamState}
    (run : completeStream.Run .start trace state)
    : state.Open :=
  run.invariant StreamState.Open (fun _ _ _ _ isOpen => streamStep_keepsOpen isOpen)
    ⟨by simp [StreamState.start, Channel.make], by simp [StreamState.start, Channel.make],
      fun _ => rfl⟩

/-- The adapter is neither waiting for the provider nor finished. -/
def AdapterPhase.isBusy : AdapterPhase → Bool
  | .streaming => false
  | .finished => false
  | _ => true

/-- There is room in an open channel that is not full. -/
theorem send_of_room {α : Type} {capacity : Nat} {channel : Channel α capacity}
    (unclosed : channel.closed = false) (room : channel.buffer.length < capacity) (value : α)
    : ∃ next, channel.send value = some next := by
  simp [Channel.send, unclosed, room]

/-- An open channel can be closed. -/
theorem close_of_open {α : Type} {capacity : Nat} {channel : Channel α capacity}
    (unclosed : channel.closed = false)
    : ∃ next, channel.close = some next := by
  simp [Channel.close, unclosed]

/-- A step of the adapter is a step of the stream. -/
theorem streamStep_of_isAdapter {state : StreamState} {event : StreamEvent}
    (adapter : event.isAdapter = true)
    : completeStream.step state event = adapterStep state event := by
  cases event <;> first | rfl | contradiction

/-- A busy adapter can step, unless it offers a chunk to a full channel and the call still has
a caller.
-/
theorem StreamState.Open.adapter_steps {state : StreamState} (isOpen : state.Open)
    (busy : state.adapter.isBusy = true)
    (room : state.callDone = true ∨ state.chunkCh.buffer.length < chunkCapacity)
    : ∃ event,
        event.isAdapter = true ∧ (completeStream.step state event).isSome = true := by
  obtain ⟨chunks, errors, empty⟩ := isOpen
  cases phase : state.adapter with
  | streaming => simp [phase, AdapterPhase.isBusy] at busy
  | finished => simp [phase, AdapterPhase.isBusy] at busy
  | offering chunk =>
      rcases room with done | room
      · refine ⟨.abandon, rfl, ?_⟩
        rw [streamStep_of_isAdapter rfl]
        simp [adapterStep, phase, done]
      · have unclosed : state.chunkCh.closed = false := by
          simpa [phase] using chunks
        obtain ⟨chunkCh, sent⟩ := send_of_room unclosed room chunk
        refine ⟨.offer, rfl, ?_⟩
        rw [streamStep_of_isAdapter rfl]
        simp [adapterStep, phase, sent]
  | failed error =>
      have unclosed : state.errCh.closed = false := by simpa [phase] using errors
      have room : state.errCh.buffer.length < errorCapacity := by
        rw [empty (by rw [phase]; exact Nat.le_refl 3)]
        exact Nat.zero_lt_one
      obtain ⟨errCh, sent⟩ := send_of_room unclosed room error
      refine ⟨.putError, rfl, ?_⟩
      rw [streamStep_of_isAdapter rfl]
      simp [adapterStep, phase, sent]
  | closingErrors =>
      have unclosed : state.errCh.closed = false := by simpa [phase] using errors
      obtain ⟨errCh, closing⟩ := close_of_open unclosed
      refine ⟨.closeErrors, rfl, ?_⟩
      rw [streamStep_of_isAdapter rfl]
      simp [adapterStep, phase, closing]
  | closingChunks =>
      have unclosed : state.chunkCh.closed = false := by simpa [phase] using chunks
      obtain ⟨chunkCh, closing⟩ := close_of_open unclosed
      refine ⟨.closeChunks, rfl, ?_⟩
      rw [streamStep_of_isAdapter rfl]
      simp [adapterStep, phase, closing]

/-- A running select loop can take a chunk, or return on a drained channel. -/
theorem select_steps {state : StreamState} (running : state.returned = none)
    (ready : state.chunkCh.buffer ≠ [] ∨ state.chunkCh.closed = true)
    : (completeStream.step state (.selectChunk true)).isSome = true := by
  simp only [completeStream, streamStep, StreamEvent.isSelect, running, selectStep]
  cases shape : state.chunkCh.buffer with
  | cons chunk rest =>
      obtain ⟨chunkCh, received⟩ := Channel.receive_of_buffer shape
      simp [received]
  | nil =>
      have closed : state.chunkCh.closed = true := by simpa [shape] using ready
      simp [Channel.receive_drained_iff.mpr ⟨shape, closed⟩]

/-- Both goroutines are done. -/
def StreamState.Ended (state : StreamState) : Prop :=
  state.adapter = .finished ∧ state.returned ≠ none

/-- Unless the stream ended or waits for the provider, one of its goroutines can get something
done. By cases on the adapter.
-/
theorem StreamState.Open.progress {state : StreamState} (isOpen : state.Open)
    (waiting : state.adapter ≠ .streaming) (unended : ¬state.Ended)
    : ∃ event,
        (event.isAdapter = true ∨ event = .selectChunk true)
        ∧ (completeStream.step state event).isSome = true := by
  by_cases finished : state.adapter = .finished
  · have running : state.returned = none := by
      by_contra returned
      exact unended ⟨finished, returned⟩
    exact ⟨_, .inr rfl, select_steps running (.inr (isOpen.chunks.mpr finished))⟩
  · have busy : state.adapter.isBusy = true := by
      cases phase : state.adapter <;> first | rfl | contradiction
    rcases Nat.lt_or_ge state.chunkCh.buffer.length chunkCapacity with room | full
    · obtain ⟨event, adapter, enabled⟩ := isOpen.adapter_steps busy (.inr room)
      exact ⟨event, .inl adapter, enabled⟩
    · cases returned : state.returned with
      | none =>
          have buffered : state.chunkCh.buffer ≠ [] := by
            intro empty
            simp [empty, chunkCapacity] at full
          exact ⟨_, .inr rfl, select_steps returned (.inl buffered)⟩
      | some result =>
          have done : state.callDone = true := by simp [StreamState.callDone, returned]
          obtain ⟨event, adapter, enabled⟩ := isOpen.adapter_steps busy (.inl done)
          exact ⟨event, .inl adapter, enabled⟩

/-- Steps of the adapter and of the select loop that take a chunk get something done. -/
theorem isProgress_of_own {event : StreamEvent} (output : StreamOutput)
    (own : event.isAdapter = true ∨ event = .selectChunk true)
    : isProgress (event, output) = true ∧ isCallback (event, output) = false := by
  rcases own with adapter | rfl
  · cases event <;> first | exact ⟨rfl, rfl⟩ | contradiction
  · exact ⟨rfl, rfl⟩

/-- Unless the stream ended or waits for the provider, one of its goroutines can lower the work
that is left.
-/
theorem StreamState.Open.lowers {state : StreamState} (isOpen : state.Open)
    (undone : ¬(state.adapter = .streaming ∨ state.Ended))
    : ∃ event next output,
        event.isOwn = true
        ∧ completeStream.step state event = some (next, output)
        ∧ next.Open
        ∧ next.work < state.work := by
  obtain ⟨waiting, unended⟩ := not_or.mp undone
  obtain ⟨event, own, enabled⟩ := isOpen.progress waiting unended
  obtain ⟨⟨next, output⟩, stepped⟩ := Option.isSome_iff_exists.mp enabled
  obtain ⟨progress, noCallback⟩ := isProgress_of_own output own
  refine ⟨event, next, output, ?_, stepped, streamStep_keepsOpen isOpen stepped, ?_⟩
  · rcases own with adapter | rfl
    · rw [StreamEvent.isOwn, adapter, Bool.true_or]
    · rfl
  · have paid := streamStep_pays stepped
    rw [progress, noCallback, Bool.toNat_true, Bool.toNat_false, Nat.mul_zero] at paid
    exact paid

/-- The work left is bounded, since the buffer of the chunks is. -/
theorem StreamState.work_le (state : StreamState) : state.work ≤ 41 := by
  have bounded : state.chunkCh.buffer.length ≤ 32 := state.chunkCh.bounded
  have steps : state.adapter.stepsLeft ≤ 4 := by cases state.adapter <;> simp
  unfold StreamState.work
  split <;> omega

/-- In every schedule the steps that get something done are paid for by the provider's
callbacks. Once the call has no caller any more, the adapter is never blocked: it waits for the
provider, is finished or can step. And from every state the two goroutines can, in at most 41
steps of their own, wait for the provider or end the stream.
-/
theorem completeStream_live {trace : StreamTrace} {state : StreamState}
    (run : completeStream.Run .start trace state)
    : trace.countP isProgress ≤ 7 + 2 * trace.countP isCallback
      ∧ (state.callDone = true
        → state.adapter = .streaming
          ∨ state.adapter = .finished
          ∨ ∃ event,
              event.isAdapter = true ∧ (completeStream.step state event).isSome = true)
      ∧ ∃ more final,
          completeStream.Run state more final
          ∧ (final.adapter = .streaming ∨ final.Ended)
          ∧ (∀ entry ∈ more, entry.1.isOwn = true)
          ∧ more.length ≤ 41 := by
  have isOpen := run_open run
  refine ⟨?_, ?_, ?_⟩
  · have paid := run.work_le (fun _ _ _ _ stepped => streamStep_pays stepped)
    exact (Nat.le_add_left _ _).trans paid
  · intro done
    by_cases busy : state.adapter.isBusy = true
    · exact .inr (.inr (isOpen.adapter_steps busy (.inl done)))
    · cases phase : state.adapter <;> simp [phase, AdapterPhase.isBusy] at busy ⊢
  · obtain ⟨more, final, run', done, own, short⟩ :=
      Machine.exists_run_of_progress (fun _ isOpen undone => isOpen.lowers undone) state isOpen
    exact ⟨more, final, run', done, own, short.trans state.work_le⟩

/-- The stream whose error waits for the server can still be ended. -/
theorem completeStream_live_refused
    : refusedTrace.countP isProgress ≤ 7 + 2 * refusedTrace.countP isCallback
      ∧ ∃ more final,
          completeStream.Run refusedState more final
          ∧ (final.adapter = .streaming ∨ final.Ended) := by
  obtain ⟨paid, _, more, final, run, done, _⟩ := completeStream_live refused_run
  exact ⟨paid, more, final, run, done⟩

end Intellisphere.Core
