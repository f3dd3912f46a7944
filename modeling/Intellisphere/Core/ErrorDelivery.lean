import Intellisphere.Core.Streaming

/-! What becomes of an error the adapter reports. It waits in the error channel, the select
loop keeps being ready and returns after a bounded number of rounds; but once the channel of
chunks is drained and closed, the select may end the stream before it looks at the error.
-/

namespace Intellisphere.Core

open Intellisphere.Foundation

/-- A history of a stream. -/
abbrev StreamTrace :=
  List (StreamEvent × StreamOutput)

def StreamOutput.putError? : StreamOutput → Option GoString
  | .putError error => some error
  | _ => none

/-- The errors the adapter put on the error channel. -/
def putErrors (trace : StreamTrace) : List GoString :=
  trace.filterMap (fun entry => entry.2.putError?)

/-- The number of rounds of the select loop. -/
def selectRounds (trace : StreamTrace) : Nat :=
  (trace.filter (fun entry => entry.1.isSelect)).length

/-- No chunk failed to be sent. -/
def SendsAccepted (trace : StreamTrace) : Prop :=
  ∀ event chunk, (event, StreamOutput.sendFailed chunk) ∉ trace

/-- The client did not leave. -/
def ClientStayed (trace : StreamTrace) : Prop :=
  ∀ output, (StreamEvent.clientCancel, output) ∉ trace

/-- The select never takes the end of the chunks while an error is waiting. -/
def TakesErrorsFirst (trace : StreamTrace) : Prop :=
  ∀ earlier accepted output later before,
    trace = earlier ++ (.selectChunk accepted, output) :: later
    → completeStream.Run .start earlier before
    → before.chunkCh.Drained
    → before.errCh.buffer = []

/-- The select loop has an enabled round. -/
def SelectReady (state : StreamState) : Prop :=
  ∃ event next output,
    event.isSelect = true ∧ completeStream.step state event = some (next, output)

/-- Whatever the server returned is the status of the error. -/
def Reported (error : GoString) (final : StreamState) : Prop :=
  ∀ result, final.returned = some result → result = some (mapAdapterError error)

/-- The server returns the status of the error: until it returns it is never stuck, it
returns within a bounded number of rounds, and it returns nothing else.
-/
structure Delivered (error : GoString) (trace : StreamTrace) (final : StreamState) : Prop
    where
  reported : Reported error final
  ready : final.returned = none → SelectReady final
  prompt
    : ∀ earlier event later,
        trace = earlier ++ (event, .putError error) :: later
        → selectRounds later ≤ chunkCapacity + 1

@[simp]
theorem putErrors_append (first second : StreamTrace)
    : putErrors (first ++ second) = putErrors first ++ putErrors second :=
  List.filterMap_append

@[simp]
theorem putErrors_single (event : StreamEvent) (output : StreamOutput)
    : putErrors [(event, output)] = output.putError?.toList := by
  cases shape : output.putError? <;> simp [putErrors, shape]

theorem mem_putErrors {trace : StreamTrace} {event : StreamEvent} {error : GoString}
    (member : (event, .putError error) ∈ trace)
    : error ∈ putErrors trace :=
  List.mem_filterMap.mpr ⟨_, member, rfl⟩

/-- The adapter has not decided yet whether there is an error to put. -/
def AdapterPhase.precedesError : AdapterPhase → Bool
  | .streaming => true
  | .offering _ => true
  | .failed _ => true
  | _ => false

theorem AdapterPhase.precedesError_of_isActive {phase : AdapterPhase}
    (active : phase.isActive = true)
    : phase.precedesError = true := by
  cases phase <;> first | rfl | contradiction

/-- Only a finished adapter has closed the channel of chunks. -/
def ClosedWhenFinished (state : StreamState) : Prop :=
  state.chunkCh.closed = true → state.adapter = .finished

/-- The adapter closes the channel of chunks last. -/
theorem AdapterTransition.closedWhenFinished {before after : StreamState}
    {event : StreamEvent} {output : StreamOutput}
    (step : AdapterTransition before event after output)
    (closed : ClosedWhenFinished before)
    : ClosedWhenFinished after := by
  intro ended
  cases step with
  | moved adapter active => rw [closed ended] at active; contradiction
  | put offering sent =>
      obtain ⟨_, unclosed, _⟩ := Channel.send_spec sent
      rw [unclosed] at ended
      contradiction
  | putError failed => rw [closed ended] at failed; contradiction
  | closedErrors phase => rw [closed ended] at phase; contradiction
  | closedChunks => rfl

/-- Receiving does not close a channel. -/
theorem SelectTransition.chunkCh_closed {before after : StreamState} {event : StreamEvent}
    {output : StreamOutput} (step : SelectTransition before event after output)
    : after.chunkCh.closed = before.chunkCh.closed := by
  cases step with
  | forwarded received => exact (Channel.receive_value received).2
  | sendFailed received => exact (Channel.receive_value received).2
  | completed => rfl
  | reported => rfl
  | spun => rfl
  | left => rfl

theorem run_closedWhenFinished {trace : StreamTrace} {final : StreamState}
    (run : completeStream.Run .start trace final)
    : ClosedWhenFinished final := by
  refine run.invariant ClosedWhenFinished ?_ (fun closed => by contradiction)
  intro state event next output closed stepped
  cases streamStep_transition stepped with
  | adapter _ step => exact step.closedWhenFinished closed
  | select _ _ step =>
      rw [ClosedWhenFinished, step.chunkCh_closed, step.frame.1]
      exact closed
  | expired => exact closed
  | cancelled => exact closed

/-- Every error that was put still waits, or is the one the server returned. -/
structure ErrorAccount (errors : List GoString) (state : StreamState) : Prop where
  pending : state.adapter.precedesError = true → errors = []
  single : errors.length ≤ 1
  waiting
    : errors = state.errCh.buffer
      ∨ ∃ error,
          errors = error :: state.errCh.buffer
          ∧ state.returned = some (some (mapAdapterError error))

theorem ErrorAccount.waiting_of_running {errors : List GoString} {state : StreamState}
    (account : ErrorAccount errors state) (running : state.returned = none)
    : errors = state.errCh.buffer := by
  rcases account.waiting with waiting | ⟨error, _, returned⟩
  · exact waiting
  · rw [running] at returned
    contradiction

/-- The adapter keeps the account; the error it puts is the first. -/
theorem AdapterTransition.account {before after : StreamState} {event : StreamEvent}
    {output : StreamOutput} (step : AdapterTransition before event after output)
    {errors : List GoString} (account : ErrorAccount errors before)
    : ErrorAccount (errors ++ output.putError?.toList) after := by
  obtain ⟨pending, single, waiting⟩ := account
  cases step with
  | moved adapter active =>
      have none := pending (AdapterPhase.precedesError_of_isActive active)
      subst none
      exact ⟨fun _ => rfl, single, waiting⟩
  | put offering =>
      have none := pending (by rw [offering]; rfl)
      subst none
      exact ⟨fun _ => rfl, single, waiting⟩
  | putError failed sent =>
      have none := pending (by rw [failed]; rfl)
      subst none
      obtain ⟨_, _, appended⟩ := Channel.send_spec sent
      have empty : before.errCh.buffer = [] := by
        rcases waiting with empty | ⟨_, wrong, _⟩
        · exact empty.symm
        · contradiction
      refine ⟨by simp [AdapterPhase.precedesError], Nat.le_refl 1, .inl ?_⟩
      rw [appended, empty]
      rfl
  | closedErrors phase closing =>
      obtain ⟨_, _, same⟩ := Channel.close_spec closing
      simp only [StreamOutput.putError?, Option.toList_none, List.append_nil]
      exact ⟨by simp [AdapterPhase.precedesError], single, by rwa [same]⟩
  | closedChunks =>
      simp only [StreamOutput.putError?, Option.toList_none, List.append_nil]
      exact ⟨by simp [AdapterPhase.precedesError], single, waiting⟩

/-- The select loop keeps the account; the error it receives is the one it returns. -/
theorem SelectTransition.account {before after : StreamState} {event : StreamEvent}
    {output : StreamOutput} (step : SelectTransition before event after output)
    (running : before.returned = none) {errors : List GoString}
    (account : ErrorAccount errors before)
    : ErrorAccount errors after ∧ output.putError? = none := by
  have waiting := account.waiting_of_running running
  have pending := account.pending
  cases step with
  | forwarded => exact ⟨⟨pending, account.single, .inl waiting⟩, rfl⟩
  | sendFailed => exact ⟨⟨pending, account.single, .inl waiting⟩, rfl⟩
  | completed => exact ⟨⟨pending, account.single, .inl waiting⟩, rfl⟩
  | reported received =>
      obtain ⟨taken, _⟩ := Channel.receive_value received
      exact ⟨⟨pending, account.single, .inr ⟨_, waiting.trans taken, rfl⟩⟩, rfl⟩
  | spun => exact ⟨account, rfl⟩
  | left => exact ⟨⟨pending, account.single, .inl waiting⟩, rfl⟩

/-- Over every run the errors are accounted for. -/
theorem run_account {trace : StreamTrace} {final : StreamState}
    (run : completeStream.Run .start trace final)
    : ErrorAccount (putErrors trace) final := by
  refine run.history (fun trace state => ErrorAccount (putErrors trace) state) ?_ ?_
  · exact ⟨fun _ => rfl, Nat.zero_le 1, .inl rfl⟩
  · intro trace state event next output _ account stepped
    rw [putErrors_append, putErrors_single]
    cases streamStep_transition stepped with
    | adapter _ step => exact step.account account
    | select running _ step =>
        obtain ⟨kept, silent⟩ := step.account running account
        rwa [silent, Option.toList_none, List.append_nil]
    | expired =>
        simp only [StreamOutput.putError?, Option.toList_none, List.append_nil]
        exact ⟨account.pending, account.single, account.waiting⟩
    | cancelled =>
        simp only [StreamOutput.putError?, Option.toList_none, List.append_nil]
        exact ⟨account.pending, account.single, account.waiting⟩

/-- An adapter that finished stays so and puts no more errors. -/
theorem Transition.finished {before after : StreamState} {event : StreamEvent}
    {output : StreamOutput} (transition : Transition before event after output)
    (finished : before.adapter = .finished)
    : after.adapter = .finished ∧ output.putError? = none := by
  cases transition with
  | adapter _ step =>
      cases step with
      | moved _ active => rw [finished] at active; contradiction
      | put offering => rw [finished] at offering; contradiction
      | putError failed => rw [finished] at failed; contradiction
      | closedErrors phase => rw [finished] at phase; contradiction
      | closedChunks phase => rw [finished] at phase; contradiction
  | select _ _ step =>
      refine ⟨step.frame.1.trans finished, ?_⟩
      cases step <;> rfl
  | expired => exact ⟨finished, rfl⟩
  | cancelled => exact ⟨finished, rfl⟩

theorem finished_putErrors {trace : StreamTrace} {before final : StreamState}
    (run : completeStream.Run before trace final) (finished : before.adapter = .finished)
    : putErrors trace = [] := by
  have silent := run.absorbing (fun state => state.adapter = .finished)
    (fun _ output => output.putError? = none)
    (fun _ _ _ _ finished stepped => (streamStep_transition stepped).finished finished)
    finished
  exact List.filterMap_eq_nil_iff.mpr silent

-----------------------------------------------------------------------------------------
-- What the server returns
-----------------------------------------------------------------------------------------

/-- What the server returned stays. -/
theorem run_returned {trace : StreamTrace} {before final : StreamState}
    (run : completeStream.Run before trace final) {result : Option Status}
    (returned : before.returned = some result)
    : final.returned = some result := by
  refine run.invariant (fun state => state.returned = some result) ?_ returned
  intro state event next output returned stepped
  cases streamStep_transition stepped with
  | adapter _ step => exact step.frame.1.trans returned
  | select running =>
      rw [running] at returned
      contradiction
  | expired => exact returned
  | cancelled => exact returned

/-- A client that is gone left at some point. -/
theorem run_clientGone {trace : StreamTrace} {final : StreamState}
    (run : completeStream.Run .start trace final) (gone : final.clientGone = true)
    : ∃ output, (StreamEvent.clientCancel, output) ∈ trace := by
  obtain ⟨earlier, event, output, later, before, after, rfl, _, present, stepped, gone, _⟩ :=
    run.crossing (fun state => state.clientGone = true) (by simp [StreamState.start]) gone
  cases streamStep_transition stepped with
  | adapter _ step => exact (present (step.frame.2.symm.trans gone)).elim
  | select _ _ step => exact (present (step.frame.2.symm.trans gone)).elim
  | expired => exact (present gone).elim
  | cancelled => exact ⟨_, List.mem_append_right _ List.mem_cons_self⟩

/-- Why the server returned: the chunks had ended, a send failed, an error was received, or
the client left.
-/
theorem returned_cause {trace : StreamTrace} {final : StreamState}
    (run : completeStream.Run .start trace final) {result : Option Status}
    (returned : final.returned = some result)
    : (∃ earlier accepted later before after,
        trace = earlier ++ (.selectChunk accepted, .returned none) :: later
        ∧ result = none
        ∧ completeStream.Run .start earlier before
        ∧ before.chunkCh.Drained
        ∧ before.returned = none
        ∧ after.adapter = before.adapter
        ∧ completeStream.Run after later final)
      ∨ (∃ event chunk, (event, StreamOutput.sendFailed chunk) ∈ trace)
      ∨ (∃ error, error ∈ putErrors trace ∧ result = some (mapAdapterError error))
      ∨ ∃ output, (StreamEvent.clientCancel, output) ∈ trace := by
  obtain ⟨earlier, event, output, later, before, after, rfl, head, absent, stepped, reached,
    tail⟩ := run.crossing (fun state => state.returned = some result)
      (by simp [StreamState.start]) returned
  cases streamStep_transition stepped with
  | adapter _ step => exact (absent (step.frame.1.symm.trans reached)).elim
  | expired => exact (absent reached).elim
  | cancelled => exact (absent reached).elim
  | select running _ step =>
      cases step with
      | forwarded => exact (absent reached).elim
      | spun => exact (absent reached).elim
      | sendFailed => exact .inr (.inl ⟨_, _, List.mem_append_right _ List.mem_cons_self⟩)
      | completed drained =>
          obtain rfl := Option.some.inj reached
          exact .inl
            ⟨earlier, _, later, before, _, rfl, rfl, head, drained, running, by rfl, tail⟩
      | @reported error errCh received =>
          obtain rfl := Option.some.inj reached
          have waiting := (run_account head).waiting_of_running running
          obtain ⟨taken, _⟩ := Channel.receive_value received
          refine .inr (.inr (.inl ⟨error, ?_, rfl⟩))
          rw [putErrors_append, waiting, taken]
          simp
      | left gone =>
          obtain ⟨output, member⟩ := run_clientGone head gone
          exact .inr (.inr (.inr ⟨output, List.mem_append_left _ member⟩))

/-- An error still waits when the server ends the stream before looking at it. -/
theorem waiting_of_completed {earlier later : StreamTrace} {event : StreamEvent}
    {output : StreamOutput} {before after final : StreamState} {error : GoString}
    (head : completeStream.Run .start earlier before) (running : before.returned = none)
    (drained : before.chunkCh.Drained) (phase : after.adapter = before.adapter)
    (tail : completeStream.Run after later final) (silent : output.putError? = none)
    (put : error ∈ putErrors (earlier ++ (event, output) :: later))
    : before.errCh.buffer ≠ [] := by
  have account := run_account head
  have finished := run_closedWhenFinished head drained.2
  have rest := finished_putErrors tail (phase.trans finished)
  have all : putErrors ((event, output) :: later) = [] := by
    rw [← List.singleton_append, putErrors_append, putErrors_single, silent, rest]
    rfl
  rw [putErrors_append, all, List.append_nil, account.waiting_of_running running] at put
  exact List.ne_nil_of_mem put

/-- Where nothing else ends the stream, the error is reported exactly when the select looks
at a waiting error before it takes the end of the chunks.
-/
theorem reported_iff {trace : StreamTrace} {final : StreamState} {error : GoString}
    (run : completeStream.Run .start trace final) (put : error ∈ putErrors trace)
    (accepted : SendsAccepted trace) (stayed : ClientStayed trace)
    : Reported error final ↔ TakesErrorsFirst trace := by
  refine ⟨?_, ?_⟩
  · intro reported earlier choice output later before whole head drained
    subst whole
    obtain ⟨middle, head', tail⟩ := run.split earlier _
    obtain rfl := head.unique head'
    obtain ⟨after, stepped, rest⟩ := tail.uncons
    cases streamStep_transition stepped with
    | adapter other => contradiction
    | select _ _ step =>
        cases step with
        | completed =>
            have lost := reported none (run_returned rest rfl)
            contradiction
        | forwarded received =>
            rw [Channel.receive_drained_iff.mpr drained] at received
            contradiction
        | sendFailed received =>
            rw [Channel.receive_drained_iff.mpr drained] at received
            contradiction
  · intro first result returned
    -- Of the ways to return, two are excluded and one reports the only error there is; the
    -- end of the chunks leaves a waiting error behind, against the condition.
    rcases returned_cause run returned with
      ⟨earlier, choice, later, before, after, rfl, rfl, head, drained, running, phase, tail⟩
      | ⟨event, chunk, failed⟩
      | ⟨error', put', rfl⟩
      | ⟨output, left⟩
    · have empty := first earlier choice _ later before rfl head drained
      exact (waiting_of_completed head running drained phase tail rfl put empty).elim
    · exact (accepted event chunk failed).elim
    · have single := (run_account run).single
      obtain ⟨only, shape⟩ :=
        List.length_eq_one_iff.mp (Nat.le_antisymm single (List.length_pos_of_mem put))
      rw [shape] at put put'
      rw [List.mem_singleton.mp put, List.mem_singleton.mp put']
    · exact (stayed output left).elim

-----------------------------------------------------------------------------------------
-- The server does return
-----------------------------------------------------------------------------------------

/-- The select loop never waits for an error that was put. -/
theorem selectReady_of_put {trace : StreamTrace} {final : StreamState} {error : GoString}
    (run : completeStream.Run .start trace final) (put : error ∈ putErrors trace)
    (running : final.returned = none)
    : SelectReady final := by
  rw [(run_account run).waiting_of_running running] at put
  obtain ⟨first, rest, shape⟩ := List.exists_cons_of_ne_nil (List.ne_nil_of_mem put)
  obtain ⟨errCh, received⟩ := Channel.receive_of_buffer shape
  have stepped
      : completeStream.step final .selectError
        = some
            (
              { final with errCh, returned := some (some (mapAdapterError first)) },
              .returned (some (mapAdapterError first))
            ) := by
    simp [completeStream, streamStep, StreamEvent.isSelect, running, selectStep, received]
  exact ⟨_, _, _, rfl, stepped⟩

/-- Once the error was put no chunk is added, and the rounds left for the select loop are
counted by the buffered chunks.
-/
structure Winding (rounds : Nat) (state : StreamState) : Prop where
  decided : state.adapter.precedesError = false
  waiting : state.returned = none → state.errCh.buffer ≠ []
  budget
    : rounds + state.chunkCh.buffer.length + (if state.returned = none then 1 else 0)
      ≤ chunkCapacity + 1

/-- A returning round is the last one that is paid for. -/
theorem Winding.stop {rounds : Nat} {before after : StreamState}
    (winding : Winding rounds before) (running : before.returned = none)
    (phase : after.adapter = before.adapter) (stopped : after.returned ≠ none)
    (fewer : after.chunkCh.buffer.length ≤ before.chunkCh.buffer.length)
    : Winding (rounds + 1) after where
  decided := phase ▸ winding.decided
  waiting running := (stopped running).elim
  budget := by
    have budget := winding.budget
    rw [if_pos running] at budget
    rw [if_neg stopped]
    omega

/-- The adapter only closes its channels any more. -/
theorem AdapterTransition.winding {before after : StreamState} {event : StreamEvent}
    {output : StreamOutput} (step : AdapterTransition before event after output)
    {rounds : Nat} (winding : Winding rounds before)
    : Winding rounds after := by
  obtain ⟨decided, waiting, budget⟩ := winding
  cases step with
  | moved adapter active =>
      rw [AdapterPhase.precedesError_of_isActive active] at decided
      contradiction
  | put offering => rw [offering] at decided; contradiction
  | putError failed => rw [failed] at decided; contradiction
  | closedErrors phase closing =>
      obtain ⟨_, _, same⟩ := Channel.close_spec closing
      exact ⟨rfl, by rwa [same], budget⟩
  | closedChunks phase closing =>
      obtain ⟨_, _, same⟩ := Channel.close_spec closing
      exact ⟨rfl, waiting, by rwa [same]⟩

/-- Each round takes a chunk or returns. -/
theorem SelectTransition.winding {before after : StreamState} {event : StreamEvent}
    {output : StreamOutput} (step : SelectTransition before event after output)
    (running : before.returned = none) {rounds : Nat} (winding : Winding rounds before)
    : Winding (rounds + 1) after := by
  cases step with
  | forwarded received =>
      obtain ⟨taken, _⟩ := Channel.receive_value received
      have budget := winding.budget
      rw [taken, List.length_cons] at budget
      exact ⟨winding.decided, winding.waiting, by simp only; omega⟩
  | sendFailed received =>
      obtain ⟨taken, _⟩ := Channel.receive_value received
      exact winding.stop running rfl (by simp) (by simp [taken])
  | completed => exact winding.stop running rfl (by simp) (Nat.le_refl _)
  | reported => exact winding.stop running rfl (by simp) (Nat.le_refl _)
  -- A waiting error keeps the select from spinning on the closed error channel.
  | spun drained => exact (winding.waiting running drained.1).elim
  | left => exact winding.stop running rfl (by simp) (Nat.le_refl _)

/-- Each transition of a winding stream pays for a round of the select loop. -/
theorem Transition.winding {before after : StreamState} {event : StreamEvent}
    {output : StreamOutput} (transition : Transition before event after output) {rounds : Nat}
    (winding : Winding rounds before)
    : Winding (rounds + if event.isSelect then 1 else 0) after := by
  cases transition with
  | adapter other step =>
      rw [other]
      exact step.winding winding
  | select running select step =>
      rw [select]
      exact step.winding running winding
  | expired => exact ⟨winding.decided, winding.waiting, winding.budget⟩
  | cancelled => exact ⟨winding.decided, winding.waiting, winding.budget⟩

/-- After an error was put the select loop takes at most one round more than the channel
holds chunks.
-/
theorem selectRounds_of_put {earlier later : StreamTrace} {event : StreamEvent}
    {error : GoString} {final : StreamState}
    (run : completeStream.Run .start (earlier ++ (event, .putError error) :: later) final)
    : selectRounds later ≤ chunkCapacity + 1 := by
  obtain ⟨before, head, tail⟩ := run.split earlier _
  obtain ⟨after, stepped, rest⟩ := tail.uncons
  have account := run_account (head.snoc stepped)
  have initial : Winding 0 after := by
    have transition := streamStep_transition stepped
    have waiting := account.waiting_of_running
    rw [putErrors_append, putErrors_single] at waiting
    cases transition with
    | adapter _ step =>
        cases step with
        | putError failed sent =>
            refine ⟨rfl, ?_, ?_⟩
            · intro running empty
              have none := (waiting running).trans empty
              simp [StreamOutput.putError?] at none
            · have bounded := before.chunkCh.bounded
              simp only [Nat.zero_add]
              split <;> omega
    | select _ _ step => cases step
  have final := rest.history (fun trace state => Winding (selectRounds trace) state) initial ?_
  · have budget := final.budget
    omega
  · intro trace state event next output _ winding stepped
    have paid := (streamStep_transition stepped).winding winding
    simp only [selectRounds, List.filter_append, List.length_append]
    cases select : event.isSelect <;> simpa [select, selectRounds] using paid

/-- Over every schedule in which the adapter put an error, every send succeeded and the
client stayed: the error is delivered exactly when the select never takes the end of the
chunks while an error is waiting.
-/
theorem streamError_delivered_iff {trace : StreamTrace} {final : StreamState}
    {event : StreamEvent} {error : GoString}
    (run : completeStream.Run .start trace final) (put : (event, .putError error) ∈ trace)
    (accepted : SendsAccepted trace) (stayed : ClientStayed trace)
    : Delivered error trace final ↔ TakesErrorsFirst trace := by
  have put := mem_putErrors put
  refine ⟨fun delivered => (reported_iff run put accepted stayed).mp delivered.reported, ?_⟩
  intro first
  refine ⟨(reported_iff run put accepted stayed).mpr first, selectReady_of_put run put, ?_⟩
  intro earlier event later whole
  subst whole
  exact selectRounds_of_put run

/-- The error of a provider that limits the rate. -/
def rateLimitError : GoString :=
  streamingError (utf8Bytes "429")

/-- The stream once the adapter put the error and closed its channels. -/
def refusedState : StreamState where
  adapter := .finished
  chunkCh := { buffer := [], closed := true, bounded := Nat.zero_le _ }
  errCh := { buffer := [rateLimitError], closed := true, bounded := Nat.le_refl 1 }
  callExpired := false
  clientGone := false
  returned := none

/-- How the stream gets there. -/
def refusedTrace : StreamTrace :=
  [
    (.providerReturned (some (utf8Bytes "429")), .quiet),
    (.putError, .putError rateLimitError),
    (.closeErrors, .quiet),
    (.closeChunks, .quiet)
  ]

theorem refused_run : completeStream.Run .start refusedTrace refusedState := by
  have done
      : completeStream.exec .start (refusedTrace.map Prod.fst)
        = some (refusedState, refusedTrace) :=
    rfl
  exact Machine.exec_run done

theorem refused_put (entry : StreamEvent × StreamOutput)
    : (StreamEvent.putError, StreamOutput.putError rateLimitError)
      ∈ refusedTrace ++ [entry] := by
  simp [refusedTrace]

/-- The select that looks at the error first returns its status. -/
theorem streamError_delivered_iff_example
    : Delivered rateLimitError
          (refusedTrace
            ++ [(.selectError, .returned (some (mapAdapterError rateLimitError)))])
          {
            refusedState with
            errCh := { buffer := [], closed := true, bounded := Nat.zero_le _ }
            returned := some (some (mapAdapterError rateLimitError))
          }
      ↔ TakesErrorsFirst
          (refusedTrace
            ++ [(.selectError, .returned (some (mapAdapterError rateLimitError)))]) :=
  streamError_delivered_iff (refused_run.snoc rfl) (refused_put _)
    (by simp [SendsAccepted, refusedTrace]) (by simp [ClientStayed, refusedTrace])

/-- The select may take the end of the chunks first, and then the server returns nil. -/
theorem streamError_lost
    : ¬∀ (trace : StreamTrace) (final : StreamState) (event : StreamEvent)
          (error : GoString),
        completeStream.Run .start trace final
        → (event, .putError error) ∈ trace
        → SendsAccepted trace
        → ClientStayed trace
        → Delivered error trace final := by
  intro delivered
  have run
      : completeStream.Run .start (refusedTrace ++ [(.selectChunk true, .returned none)])
          { refusedState with returned := some none } :=
    refused_run.snoc rfl
  have sound := delivered _ _ _ rateLimitError run (refused_put _)
    (by simp [SendsAccepted, refusedTrace]) (by simp [ClientStayed, refusedTrace])
  have wrong := sound.reported none rfl
  contradiction

end Intellisphere.Core
