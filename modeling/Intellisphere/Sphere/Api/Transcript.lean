import Intellisphere.Sphere.Api.Chat

/-! The conversation a unary chat has with Core: each request repeats the sanitised client
messages and adds one assistant message and one result message for every earlier round.
-/

namespace Intellisphere.Sphere

open Intellisphere.Foundation

/-- The completion request of a call, if it is one. -/
def Effect.request? : Effect → Option CompletionRequest
  | .complete request => some request
  | .completeStream request => some request
  | _ => none

/-- The completion requests a handler sent to Core, in order. -/
def HandlerRun.requests {Response : Type} (run : HandlerRun Response)
    : List CompletionRequest :=
  run.effects.filterMap Effect.request?

section Requests

variable {Response : Type} (run : HandlerRun Response)

@[simp]
theorem HandlerRun.requests_failed (failure : Failure)
    : (HandlerRun.failed failure : HandlerRun Response).requests = [] :=
  rfl

@[simp]
theorem HandlerRun.requests_after_complete (request : CompletionRequest)
    : (run.after (.complete request)).requests = request :: run.requests :=
  rfl

@[simp]
theorem HandlerRun.requests_after_processTools (identity : Option Identity)
    (toolCalls : List ToolCall)
    : (run.after (.processTools identity toolCalls)).requests = run.requests :=
  rfl

end Requests

/-- A round of the tool loop: what Core answered and what the tools made of it. -/
structure ToolRound where
  response : CompletionResponse
  toolResults : List ToolResult

/-- The messages a round adds to the conversation. -/
def ToolRound.messages (round : ToolRound) : List Message :=
  [
    assistantMessage round.response.content round.response.toolCalls,
    toolResultMessage round.toolResults
  ]

/-- A proper round: Core asked for at least one tool, and each call has its result in its
place.
-/
structure ToolRound.Proper (round : ToolRound) : Prop where
  toolUse : round.response.stopReason = .toolUse
  asked : round.response.toolCalls ≠ []
  answered
    : round.toolResults.map ToolResult.callId = round.response.toolCalls.map ToolCall.callId

/-- The rounds are Core's answers from the given iteration on. -/
def Follows (world : ServerWorld) (start : Nat) (rounds : List ToolRound) : Prop :=
  ∀ j round,
    rounds[j]? = some round
    → round.Proper ∧ world.complete (start + j) = .ok round.response

/-- A round in front of later ones. -/
theorem Follows.cons {world : ServerWorld} {start : Nat} {round : ToolRound}
    {rounds : List ToolRound} (proper : round.Proper)
    (answer : world.complete start = .ok round.response)
    (later : Follows world (start + 1) rounds)
    : Follows world start (round :: rounds) := by
  intro j other found
  cases j with
  | zero =>
      obtain rfl := Option.some.inj found
      exact ⟨proper, answer⟩
  | succ j =>
      have next := later j other found
      rwa [Nat.add_assoc, Nat.add_comm 1 j] at next

/-- The later ones follow from the next iteration on. -/
theorem Follows.tail {world : ServerWorld} {start : Nat} {round : ToolRound}
    {rounds : List ToolRound} (follows : Follows world start (round :: rounds))
    : Follows world (start + 1) rounds := by
  intro j other found
  have next := follows (j + 1) other found
  rwa [Nat.add_comm j 1, ← Nat.add_assoc] at next

section Steps

variable (libraries : ToolLibraries) (state : AppState) (request : ChatRequest)
  (world : ServerWorld) (context : PipelineContext) (left iteration : Nat)
  (messages : List Message) (usage : UsageResponse)

/-- What one iteration of the tool loop comes to: Core fails or asks for no tools, or its tools
panic, or the loop goes on with what they returned.
-/
inductive LoopStep : HandlerRun ChatResponse → Prop
  | failed {message : String} (answer : world.complete iteration = .error message)
    : LoopStep
        ((HandlerRun.failed (.error (.coreError message))).after
          (.complete (state.completionRequest request world.requestId messages)))
  | final {response : CompletionResponse} (answer : world.complete iteration = .ok response)
    (finished : response.wantsTools = false)
    : LoopStep
        (HandlerRun.after
          {
            effects := []
            outcome := state.finishChat context response (usage.add response.usage)
          }
          (.complete (state.completionRequest request world.requestId messages)))
  | panicked {response : CompletionResponse} {failure : Failure}
    (answer : world.complete iteration = .ok response) (wants : response.wantsTools = true)
    (processed
      : process libraries state.toolRegistry state.toolExecutor context.identity
          (world.tools iteration) response.toolCalls = .error failure)
    : LoopStep
        (((HandlerRun.failed failure).after
          (.processTools context.identity response.toolCalls)).after
          (.complete (state.completionRequest request world.requestId messages)))
  | round {response : CompletionResponse} {toolResults : List ToolResult}
    (answer : world.complete iteration = .ok response) (wants : response.wantsTools = true)
    (processed
      : process libraries state.toolRegistry state.toolExecutor context.identity
          (world.tools iteration) response.toolCalls = .ok toolResults)
    : LoopStep
        (((chatLoop libraries state request world context left (iteration + 1)
              (messages ++ (ToolRound.mk response toolResults).messages)
              (usage.add response.usage)).after
          (.processTools context.identity response.toolCalls)).after
          (.complete (state.completionRequest request world.requestId messages)))

/-- With an iteration left, the loop does one step. -/
theorem chatLoop_step
    : LoopStep libraries state request world context left iteration messages usage
        (chatLoop libraries state request world context (left + 1) iteration messages
          usage) := by
  simp only [chatLoop]
  cases answer : world.complete iteration with
  | error message => exact .failed answer
  | ok response =>
      dsimp only
      cases wants : response.wantsTools with
      | false => exact .final answer wants
      | true =>
          rw [if_pos rfl]
          cases processed : process libraries state.toolRegistry state.toolExecutor
              context.identity (world.tools iteration) response.toolCalls with
          | error failure => exact .panicked answer wants processed
          | ok toolResults => exact .round answer wants processed

end Steps

section Loop

variable {libraries : ToolLibraries} {state : AppState} {request : ChatRequest}
  {world : ServerWorld} {context : PipelineContext}

/-- A round that goes through is proper. -/
theorem ToolRound.proper_of_process {iteration : Nat} {response : CompletionResponse}
    {toolResults : List ToolResult} (wants : response.wantsTools = true)
    (answered
      : process libraries state.toolRegistry state.toolExecutor context.identity
          (world.tools iteration) response.toolCalls = .ok toolResults)
    : (ToolRound.mk response toolResults).Proper := by
  simp only [CompletionResponse.wantsTools, Bool.and_eq_true, decide_eq_true_eq,
    Bool.not_eq_true', List.isEmpty_eq_false_iff] at wants
  exact ⟨wants.1, wants.2, process_callIds answered⟩

/-- The loop sends at most one request for each iteration left. By induction on the
iterations.
-/
theorem chatLoop_requests_length (left iteration : Nat) (messages : List Message)
    (usage : UsageResponse)
    : (chatLoop libraries state request world context left iteration messages usage
      ).requests.length ≤ left := by
  induction left generalizing iteration messages usage with
  | zero => exact Nat.le_refl 0
  | succ left ih =>
      have step :=
        chatLoop_step libraries state request world context left iteration messages usage
      generalize chatLoop libraries state request world context (left + 1) iteration messages
        usage = run at step
      cases step with
      | failed answer => exact Nat.succ_le_succ (Nat.zero_le left)
      | final answer finished => exact Nat.succ_le_succ (Nat.zero_le left)
      | panicked answer wants processed => exact Nat.succ_le_succ (Nat.zero_le left)
      | round answer wants processed => exact Nat.succ_le_succ (ih _ _ _)

/-- The k-th request of the loop carries the messages it started from and those of the k
rounds before it. By induction on the iterations, generalising the conversation so far.
-/
theorem chatLoop_requests_get {left iteration : Nat} {messages : List Message}
    {usage : UsageResponse} {k : Nat} {sent : CompletionRequest}
    (found
      : (chatLoop libraries state request world context left iteration messages usage
        ).requests[k]? = some sent)
    : ∃ rounds,
        rounds.length = k
        ∧ Follows world iteration rounds
        ∧ sent
          = state.completionRequest request world.requestId
              (messages ++ rounds.flatMap ToolRound.messages) := by
  induction left generalizing iteration messages usage k with
  | zero => simp [chatLoop, HandlerRun.requests] at found
  | succ left ih =>
      have step :=
        chatLoop_step libraries state request world context left iteration messages usage
      generalize chatLoop libraries state request world context (left + 1) iteration messages
        usage = run at step found
      cases k with
      | zero =>
          have first
              : sent = state.completionRequest request world.requestId messages := by
            cases step <;> exact (Option.some.inj found).symm
          exact ⟨[], rfl, fun _ _ none => by simp at none, by simp [first]⟩
      | succ k =>
          cases step with
          | failed answer => simp at found
          | final answer finished =>
              rw [HandlerRun.requests_after_complete, List.getElem?_cons_succ] at found
              simp [HandlerRun.requests] at found
          | panicked answer wants processed => simp at found
          | @round response toolResults answer wants processed =>
              simp only [HandlerRun.requests_after_complete,
                HandlerRun.requests_after_processTools, List.getElem?_cons_succ] at found
              obtain ⟨rounds, length, follows, same⟩ := ih found
              refine ⟨⟨response, toolResults⟩ :: rounds, by simp [length], ?_, ?_⟩
              · exact follows.cons (ToolRound.proper_of_process wants processed) answer
              · rw [same, List.append_assoc]
                rfl

end Loop

/-- The transcript of unary chat. When all client messages pass, Core gets at most as many
requests as the iteration limit, capped at 25, allows; the k-th one holds the sanitised
messages followed by the k proper rounds before it, and nothing else differs between
requests. When a client message is rejected, Core gets none.
-/
theorem chat_transcript (libraries : ToolLibraries) (state : AppState)
    (request : ChatRequest) (world : ServerWorld)
    : (∀ sanitised context,
        Sanitised state.pipeline (.new world.requestId "") request.messages sanitised context
        → (chat libraries state request world).requests.length
              ≤ min state.config.tools.maxToolIterations 25
          ∧ ∀ k sent,
              (chat libraries state request world).requests[k]? = some sent
              → ∃ rounds : List ToolRound,
                  rounds.length = k
                  ∧ Follows world 0 rounds
                  ∧ sent
                    = state.completionRequest request world.requestId
                        (sanitised ++ rounds.flatMap ToolRound.messages))
      ∧ (Rejected state.pipeline (.new world.requestId "") request.messages
        → (chat libraries state request world).requests = []) := by
  refine ⟨?_, ?_⟩
  · intro sanitised context passed
    have converted := inboundMessages_eq_ok_iff.mpr passed
    simp only [chat, converted]
    exact ⟨chatLoop_requests_length _ _ _ _, fun k sent => chatLoop_requests_get⟩
  · intro rejected
    obtain ⟨failure, failed⟩ := inboundMessages_eq_error_iff.mpr rejected
    simp only [chat, failed, HandlerRun.requests_failed]

/-- Libraries that read every text as an empty object and accept every value. -/
def lenientLibraries : ToolLibraries where
  parseJson _ := .ok (.obj [])
  validatorFor _ := .ok (fun _ => [])
  parseUrl _ := .error "relative URL without a base"

/-- A tool world in which nothing answers and nothing panics. -/
def quietToolWorld : ToolWorld :=
  {
    reply := .silent
    timeoutMessage := "timed out"
    now := "2025-01-01T00:00:00Z"
    panics := false
  }

/-- Core asks for one echo and then answers. -/
def echoWorld : ServerWorld where
  requestId := "r-1"
  complete iteration :=
    if iteration = 0 then
      .ok
        {
          content := "let me check"
          toolCalls := [{ callId := "c-1", name := "intellisphere_echo", argumentsJson := "" }]
          stopReasonRaw := StopReason.toolUse.toRaw
          usage := none
          model := "m"
        }
    else
      .ok
        {
          content := "done"
          toolCalls := []
          stopReasonRaw := StopReason.endTurn.toRaw
          usage := none
          model := "m"
        }
  completeStream := .error "unavailable"
  tools _ _ := quietToolWorld

/-- A configuration that allows tool rounds. -/
def toolConfig : SphereConfig :=
  { tools := { maxToolIterations := 10 } }

/-- A request with one greeting. -/
def greeting : ChatRequest :=
  { messages := [{ role := "user", content := "hi" }] }

/-- A request with a null byte. -/
def nullByteRequest : ChatRequest :=
  { messages := [{ role := "user", content := "\x00" }] }

/-- What Core is sent after the echo. -/
def echoTranscript : List Message :=
  [
    { role := "user", content := "hi", toolResults := [], toolCalls := [] },
    {
      role := "assistant"
      content := "let me check"
      toolResults := []
      toolCalls := [{ callId := "c-1", name := "intellisphere_echo", argumentsJson := "" }]
    },
    {
      role := "user"
      content := ""
      toolResults := [
        {
          callId := "c-1"
          resultJson :=
            "\x7b\"echo\":\"(no message)\",\"timestamp\":\"2025-01-01T00:00:00Z\"\x7d"
          isError := false
        }
      ]
      toolCalls := []
    }
  ]

/-- The transcript theorem at a conversation with one echo round, and at a request with a
null byte.
-/
theorem chat_transcript_example
    : (chat lenientLibraries (.start asciiTables 0 toolConfig) greeting echoWorld
        ).requests.length ≤ min 10 25
      ∧ (∃ sent round,
          (chat lenientLibraries (.start asciiTables 0 toolConfig) greeting echoWorld
            ).requests[1]? = some sent
          ∧ sent.messages = echoTranscript
          ∧ echoTranscript.tail = round.messages
          ∧ Follows echoWorld 0 [round])
      ∧ (chat lenientLibraries (.start asciiTables 0 toolConfig) nullByteRequest echoWorld
          ).requests = [] := by
  have transcript :=
    (chat_transcript lenientLibraries (.start asciiTables 0 toolConfig) greeting echoWorld).1
      _ _ (.cons (by decide) (.nil _))
  refine ⟨transcript.1, ?_, ?_⟩
  · have second
        : (chat lenientLibraries (.start asciiTables 0 toolConfig) greeting echoWorld
            ).requests[1]?.map CompletionRequest.messages
          = some echoTranscript := by
      decide +kernel
    obtain ⟨sent, found, messages⟩ := Option.map_eq_some_iff.mp second
    obtain ⟨rounds, one, follows, same⟩ := transcript.2 1 sent found
    obtain ⟨round, rfl⟩ := List.length_eq_one_iff.mp one
    refine ⟨sent, round, found, messages, ?_, follows⟩
    rw [← messages, same]
    simp [AppState.completionRequest]
  · have transcript :=
      chat_transcript lenientLibraries (.start asciiTables 0 toolConfig) nullByteRequest
        echoWorld
    refine transcript.2 ⟨[], _, [], [], _, ?_, rfl, .nil _, ?_⟩
    · exact .filterRejected "InputSanitization" "Input contains null bytes"
    · decide

end Intellisphere.Sphere
