import Intellisphere.Sphere.AppState

/-! The chat handlers. A run records the calls a handler makes on the other components, in
order, beside its outcome.
-/

namespace Intellisphere.Sphere

open Intellisphere.Foundation

structure ChatMessage where
  role : String
  content : String
  deriving DecidableEq

def defaultModel : String :=
  "claude-sonnet-4-20250514"

def defaultMaxTokens : Int32 :=
  1024

structure ChatRequest where
  messages : List ChatMessage
  model : String := defaultModel
  maxTokens : Int32 := defaultMaxTokens
  temperature : UInt32 := 0
  system : Option String := none
  deriving DecidableEq

structure UsageResponse where
  inputTokens : Int32
  outputTokens : Int32
  deriving DecidableEq

structure ChatResponse where
  content : String
  model : String
  stopReason : String
  usage : UsageResponse
  deriving DecidableEq

/-- A client message as the pipeline sees it. -/
def ChatMessage.toProto (message : ChatMessage) : Message :=
  { role := message.role, content := message.content, toolResults := [], toolCalls := [] }

def mapStopReason : StopReason → String
  | .endTurn => "end_turn"
  | .toolUse => "tool_use"
  | .maxTokens => "max_tokens"
  | .stopSequence => "stop_sequence"
  | .unspecified => "unknown"

/-- The surroundings of one request: its fresh id, Core's answers (the k-th unary one, and
the stream with its items), and the world of each tool call of each iteration.
-/
structure ServerWorld where
  requestId : String
  complete : Nat → Except String CompletionResponse
  completeStream : Except String (List (Except String CompletionChunk))
  tools : Nat → Nat → ToolWorld

/-- A call on another component. -/
inductive Effect where
  | checkRequest (identitySub : String) (result : RateLimitResult)
  | complete (request : CompletionRequest)
  | completeStream (request : CompletionRequest)
  | processTools (identity : Option Identity) (toolCalls : List ToolCall)

/-- What a handler did and how it ended. -/
structure HandlerRun (Response : Type) where
  effects : List Effect
  outcome : Except Failure Response

/-- One more call in front of a run. -/
def HandlerRun.after {Response : Type} (run : HandlerRun Response) (effect : Effect)
    : HandlerRun Response :=
  { run with effects := effect :: run.effects }

/-- A run that ends without any call. -/
def HandlerRun.failed {Response : Type} (failure : Failure) : HandlerRun Response :=
  { effects := [], outcome := .error failure }

/-- Convert the client messages and run the inbound pipeline on each, stopping at the first
rejection.
-/
def inboundMessages (chain : PipelineChain)
    : List ChatMessage
      → PipelineContext
      → Except SphereError (List Message × PipelineContext)
  | [], context => .ok ([], context)
  | message :: rest, context =>
      let run := chain.runInbound message.toProto context
      match run.result with
      | .error error => .error error
      | .ok () =>
          match inboundMessages chain rest run.context with
          | .error error => .error error
          | .ok (messages, context) => .ok (run.message :: messages, context)

/-- Client messages that pass the inbound chain one after the other, each in the context the
previous one left, with what the chain made of them.
-/
inductive Sanitised (chain : PipelineChain)
    : PipelineContext → List ChatMessage → List Message → PipelineContext → Prop
  | nil (context : PipelineContext) : Sanitised chain context [] [] context
  | cons {context final : PipelineContext} {message : ChatMessage}
    {rest : List ChatMessage} {sanitised : List Message}
    (passes : (chain.runInbound message.toProto context).result = .ok ())
    (others
      : Sanitised chain (chain.runInbound message.toProto context).context rest sanitised
          final)
    : Sanitised chain context (message :: rest)
        ((chain.runInbound message.toProto context).message :: sanitised) final

/-- A client message that the inbound chain rejects, after those before it passed. -/
def Rejected (chain : PipelineChain) (context : PipelineContext)
    (messages : List ChatMessage)
    : Prop :=
  ∃ earlier message later sanitised middle error,
    messages = earlier ++ message :: later
    ∧ Sanitised chain context earlier sanitised middle
    ∧ (chain.runInbound message.toProto middle).result = .error error

/-- The conversion succeeds exactly on messages that all pass, by induction on them. -/
theorem inboundMessages_eq_ok_iff {chain : PipelineChain} {messages : List ChatMessage}
    {context final : PipelineContext} {sanitised : List Message}
    : inboundMessages chain messages context = .ok (sanitised, final)
      ↔ Sanitised chain context messages sanitised final := by
  refine ⟨?_, ?_⟩
  · intro converted
    induction messages generalizing context sanitised with
    | nil =>
        obtain ⟨rfl, rfl⟩ := Prod.mk.inj (Except.ok.inj converted)
        exact .nil context
    | cons message rest ih =>
        simp only [inboundMessages] at converted
        split at converted
        · contradiction
        next passes =>
          split at converted
          · contradiction
          next others tail =>
            obtain ⟨rfl, rfl⟩ := Prod.mk.inj (Except.ok.inj converted)
            exact .cons passes (ih tail)
  · intro passed
    induction passed with
    | nil => rfl
    | cons passes _ ih => simp only [inboundMessages, passes, ih]

/-- The conversion fails exactly when some message is rejected, by induction on them. -/
theorem inboundMessages_eq_error_iff {chain : PipelineChain} {messages : List ChatMessage}
    {context : PipelineContext}
    : (∃ error, inboundMessages chain messages context = .error error)
      ↔ Rejected chain context messages := by
  refine ⟨?_, ?_⟩
  · intro failed
    obtain ⟨reason, failed⟩ := failed
    induction messages generalizing context reason with
    | nil => contradiction
    | cons message rest ih =>
        simp only [inboundMessages] at failed
        split at failed
        next error rejects =>
          exact ⟨[], message, rest, [], context, error, rfl, .nil _, rejects⟩
        next passes =>
          split at failed
          next error tail =>
            obtain ⟨earlier, other, later, sanitised, middle, reason, rfl, passed, rejects⟩ :=
              ih error tail
            exact
              ⟨message :: earlier, other, later, _, middle, reason, rfl, .cons passes passed,
                rejects⟩
          next => contradiction
  · intro rejected
    obtain ⟨earlier, message, later, sanitised, middle, error, rfl, passed, rejects⟩ :=
      rejected
    induction passed with
    | nil => exact ⟨error, by simp only [List.nil_append, inboundMessages, rejects]⟩
    | cons passes _ ih =>
        obtain ⟨reason, failed⟩ := ih rejects
        exact ⟨reason, by simp only [List.cons_append, inboundMessages, passes, failed]⟩

/-- Tool definitions offered to the model. -/
def AppState.buildToolDefs (state : AppState) : List ToolDefinition :=
  state.toolRegistry.all.map
    (fun tool =>
      {
        name := tool.name
        description := tool.description
        inputSchemaJson := tool.inputSchemaJson
      })

/-- The completion request for a conversation. -/
def AppState.completionRequest (state : AppState) (request : ChatRequest)
    (requestId : String) (messages : List Message)
    : CompletionRequest :=
  {
    provider := "anthropic"
    model := request.model
    system := request.system.getD ""
    messages
    maxTokens := request.maxTokens
    temperature := request.temperature
    tools := state.buildToolDefs
    stopSequences := []
    metadata := some { requestId, sessionId := "", timestamp := none }
  }

-----------------------------------------------------------------------------------------
-- Unary chat
-----------------------------------------------------------------------------------------

/-- The bound on tool iterations that configuration cannot lift. -/
def hardCap : Nat :=
  25

def AppState.effectiveMax (state : AppState) : Nat :=
  min state.config.tools.maxToolIterations hardCap

/-- Token totals; the additions wrap. -/
def UsageResponse.add (total : UsageResponse) : Option Usage → UsageResponse
  | none => total
  | some usage =>
      {
        inputTokens := total.inputTokens + usage.inputTokens
        outputTokens := total.outputTokens + usage.outputTokens
      }

/-- Core asks for tools when it stops for tool use and names at least one call. -/
def CompletionResponse.wantsTools (response : CompletionResponse) : Bool :=
  response.stopReason = .toolUse && !response.toolCalls.isEmpty

/-- The assistant message that repeats a response, with its tool calls if any. -/
def assistantMessage (content : String) (toolCalls : List ToolCall) : Message :=
  { role := "assistant", content, toolResults := [], toolCalls }

/-- The user message that carries tool results. -/
def toolResultMessage (toolResults : List ToolResult) : Message :=
  { role := "user", content := "", toolResults, toolCalls := [] }

/-- The final response: the outbound pipeline runs on the model's answer. -/
def AppState.finishChat (state : AppState) (context : PipelineContext)
    (response : CompletionResponse) (usage : UsageResponse)
    : Except Failure ChatResponse :=
  let run :=
    state.pipeline.runOutbound (assistantMessage response.content []) context
  match run.result with
  | .error failure => .error failure
  | .ok () =>
      .ok
        {
          content := run.message.content
          model := response.model
          stopReason := mapStopReason response.stopReason
          usage
        }

/-- The response when the tool loop ran out of iterations. -/
def AppState.maxIterationsResponse (state : AppState) (request : ChatRequest)
    (usage : UsageResponse)
    : ChatResponse :=
  {
    content :=
      "[IntelliSphere: Tool loop reached maximum of " ++ toString state.effectiveMax
      ++ " iterations]"
    model := request.model
    stopReason := "max_iterations"
    usage
  }

section Handlers

variable (libraries : ToolLibraries) (state : AppState) (request : ChatRequest)
  (world : ServerWorld)

/-- The tool loop, with the iterations left and the number of the current one. -/
def chatLoop (context : PipelineContext)
    : Nat → Nat → List Message → UsageResponse → HandlerRun ChatResponse
  | 0, _, _, usage =>
      { effects := [], outcome := .ok (state.maxIterationsResponse request usage) }
  | left + 1, iteration, messages, usage =>
      let run : HandlerRun ChatResponse :=
        match world.complete iteration with
        | .error message => .failed (.error (.coreError message))
        | .ok response =>
            let usage := usage.add response.usage
            if response.wantsTools then
              let answered : HandlerRun ChatResponse :=
                match process libraries state.toolRegistry state.toolExecutor
                    context.identity (world.tools iteration) response.toolCalls with
                | .error failure => .failed failure
                | .ok toolResults =>
                    chatLoop context left (iteration + 1)
                      (messages
                        ++ [
                          assistantMessage response.content response.toolCalls,
                          toolResultMessage toolResults
                        ])
                      usage
              answered.after (.processTools context.identity response.toolCalls)
            else { effects := [], outcome := state.finishChat context response usage }
      run.after (.complete (state.completionRequest request world.requestId messages))

/-- POST /v1/chat: unary completion with multi-turn tool loop. -/
def chat : HandlerRun ChatResponse :=
  match inboundMessages state.pipeline request.messages (.new world.requestId "") with
  | .error error => .failed (.error error)
  | .ok (messages, context) =>
      chatLoop libraries state request world context state.effectiveMax 0 messages
        { inputTokens := 0, outputTokens := 0 }

-----------------------------------------------------------------------------------------
-- Streaming chat
-----------------------------------------------------------------------------------------

/-- A server-sent event with one delta. -/
structure SseEvent where
  delta : String
  chunkType : Int32
  deriving DecidableEq

/-- The data line of an event. -/
def SseEvent.data (event : SseEvent) : String :=
  jsonObject
    [("chunk_type", toString event.chunkType), ("delta", jsonString event.delta)]

/-- The event of a chunk; a stream error ends up as a Core error. -/
def chunkEvent : Except String CompletionChunk → Except SphereError SseEvent
  | .ok chunk => .ok { delta := chunk.delta, chunkType := chunk.chunkTypeRaw }
  | .error message => .error (.coreError message)

/-- POST /v1/chat/stream: SSE streaming completion. -/
def chatStream : HandlerRun (List (Except SphereError SseEvent)) :=
  match inboundMessages state.pipeline request.messages (.new world.requestId "") with
  | .error error => .failed (.error error)
  | .ok (messages, _) =>
      let run : HandlerRun (List (Except SphereError SseEvent)) :=
        match world.completeStream with
        | .error message => .failed (.error (.coreError message))
        | .ok items => { effects := [], outcome := .ok (items.map chunkEvent) }
      run.after (.completeStream (state.completionRequest request world.requestId messages))

end Handlers

end Intellisphere.Sphere
