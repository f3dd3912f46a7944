import Intellisphere.Core.RoundTrip
import Intellisphere.Sphere.Api.CallerText

/-! The requests the provider is sent. Every tool use in them is answered in the next message,
and every tool of the registry is offered once.
-/

namespace Intellisphere.Core

open Intellisphere.Foundation
open Intellisphere.Sphere

/-- A tool as the provider's library takes it. -/
structure AnthropicToolDefinition where
  name : String
  description : String
  inputSchema : Json

/-- A request of the provider's library. The temperature is the bit pattern of a `float32`. -/
structure MessagesRequest where
  model : String
  messages : List AnthropicMessage
  maxTokens : Int64
  system : String
  temperature : Option UInt32
  tools : List AnthropicToolDefinition
  stopSequences : List String

/-- The schema of a tool as a Go map, which null leaves nil. Text that is not JSON, and JSON
that is not an object, make a minimal object schema.
-/
def jsonToInputSchema (unmarshal : String → Option Json) (jsonStr : String) : Json :=
  match unmarshal jsonStr with
  | some .null => .null
  | some (.obj fields) => .obj fields
  | _ => .obj [("type", .str "object")]

/-- The floating-point number of the bits is greater than zero: it has no sign, is not zero, and
is not beyond infinity.
-/
def isPositiveFloat (bits : UInt32) : Bool :=
  0 < bits && bits ≤ 0x7F800000

structure AnthropicAdapter where
  defaultModel : String

def convertToolDefinition (unmarshal : String → Option Json) (tool : ToolDefinition)
    : AnthropicToolDefinition :=
  {
    name := tool.name
    description := tool.description
    inputSchema := jsonToInputSchema unmarshal tool.inputSchemaJson
  }

/-- The provider's request for a request of Sphere. -/
def AnthropicAdapter.buildRequest (unmarshal : String → Option Json)
    (adapter : AnthropicAdapter) (request : CompletionRequest)
    : MessagesRequest :=
  {
    model := if request.model = "" then adapter.defaultModel else request.model
    messages := request.messages.map convertToAnthropicMessage
    maxTokens := request.maxTokens.toInt64
    system := request.system
    temperature :=
      if isPositiveFloat request.temperature then some request.temperature else none
    tools := request.tools.map (convertToolDefinition unmarshal)
    stopSequences := request.stopSequences
  }

-----------------------------------------------------------------------------------------
-- Tool uses and their answers
-----------------------------------------------------------------------------------------

/-- The tool use a block answers, if it is a tool result. -/
def MessageContent.answers? (block : MessageContent) : Option String :=
  match block.type with
  | .toolResult => block.toolResult.bind MessageContentToolResult.toolUseId
  | _ => none

/-- The ids of the tool uses in a message. -/
def AnthropicMessage.asked (message : AnthropicMessage) : List String :=
  (toolUses message.content).map MessageContentToolUse.id

/-- The ids of the tool uses a message answers. -/
def AnthropicMessage.answered (message : AnthropicMessage) : List String :=
  message.content.filterMap MessageContent.answers?

/-- A conversation in which the tool uses pending at its start are answered, in order and by
nothing else, in its first message, and those of each message in the next one. Assistants ask
and users answer.
-/
inductive Paired : List String → List AnthropicMessage → Prop
  | nil : Paired [] []
  | cons {pending : List String} {message : AnthropicMessage} {rest : List AnthropicMessage}
    (answers : message.answered = pending)
    (asks : message.asked ≠ [] → message.role = .assistant)
    (user : message.answered ≠ [] → message.role = .user)
    (others : Paired message.asked rest)
    : Paired pending (message :: rest)

/-- What is picked of a converted message is picked of its text, its results and its calls. -/
theorem convertTo_filterMap {α : Type} (pick : MessageContent → Option α)
    (noText : ∀ text, pick (textBlock text) = none) (message : Message)
    : (convertToAnthropicMessage message).content.filterMap pick
      = message.toolResults.filterMap (fun result => pick (convertToolResult result))
        ++ message.toolCalls.filterMap (fun toolCall => pick (convertToolCall toolCall)) := by
  have plain
      : (if message.content ≠ "" then [textBlock message.content] else []).filterMap pick
        = [] := by
    split <;> simp [noText]
  simp only [convertToAnthropicMessage, List.filterMap_append, plain, List.nil_append,
    List.filterMap_map]
  rfl

/-- The tool uses of a converted message are its calls. -/
theorem convertTo_asked (message : Message)
    : (convertToAnthropicMessage message).asked = message.toolCalls.map ToolCall.callId := by
  have results
      : message.toolResults.filterMap
          (fun result => (convertToolResult result).toolUse?) = [] :=
    List.filterMap_eq_nil_iff.mpr (fun _ _ => rfl)
  have calls
      : message.toolCalls.filterMap (fun toolCall => (convertToolCall toolCall).toolUse?)
        = message.toolCalls.map
            (fun toolCall =>
              {
                id := toolCall.callId
                name := toolCall.name
                input := toolCall.argumentsJson
              }) :=
    congrFun List.filterMap_eq_map message.toolCalls
  rw [AnthropicMessage.asked, toolUses, convertTo_filterMap _ (fun _ => rfl), results, calls,
    List.nil_append, List.map_map]
  rfl

/-- A converted message answers what its results are of. -/
theorem convertTo_answered (message : Message)
    : (convertToAnthropicMessage message).answered
      = message.toolResults.map ToolResult.callId := by
  have results
      : message.toolResults.filterMap (fun result => (convertToolResult result).answers?)
        = message.toolResults.map ToolResult.callId :=
    congrFun List.filterMap_eq_map message.toolResults
  have calls
      : message.toolCalls.filterMap
          (fun toolCall => (convertToolCall toolCall).answers?) = [] :=
    List.filterMap_eq_nil_iff.mpr (fun _ _ => rfl)
  rw [AnthropicMessage.answered, convertTo_filterMap _ (fun _ => rfl), results, calls,
    List.append_nil]

/-- A message without calls and results in front of a conversation. -/
theorem Paired.plain {message : Message} {rest : List AnthropicMessage}
    (noCalls : message.toolCalls = []) (noResults : message.toolResults = [])
    (others : Paired [] rest)
    : Paired [] (convertToAnthropicMessage message :: rest) := by
  have asked : (convertToAnthropicMessage message).asked = [] := by
    rw [convertTo_asked, noCalls, List.map_nil]
  have answered : (convertToAnthropicMessage message).answered = [] := by
    rw [convertTo_answered, noResults, List.map_nil]
  exact .cons answered (absurd asked) (absurd answered) (asked ▸ others)

/-- A proper round in front of a conversation. -/
theorem Paired.round {round : ToolRound} {rest : List AnthropicMessage}
    (proper : round.Proper) (others : Paired [] rest)
    : Paired [] (round.messages.map convertToAnthropicMessage ++ rest) := by
  have answered
      : (convertToAnthropicMessage (toolResultMessage round.toolResults)).answered
        = (convertToAnthropicMessage
            (assistantMessage round.response.content round.response.toolCalls)).asked := by
    rw [convertTo_answered, convertTo_asked]
    exact proper.answered
  have silent
      : (convertToAnthropicMessage (toolResultMessage round.toolResults)).asked = [] :=
    convertTo_asked _
  have opens
      : (convertToAnthropicMessage
          (assistantMessage round.response.content round.response.toolCalls)).answered = [] :=
    convertTo_answered _
  refine .cons opens (fun _ => rfl) (absurd opens) ?_
  exact .cons answered (absurd silent) (fun _ => rfl) (silent ▸ others)

/-- Messages without calls and results in front of proper rounds. By induction on each. -/
theorem Paired.conversation {messages : List Message} {rounds : List ToolRound}
    (plain : ∀ message ∈ messages, message.toolCalls = [] ∧ message.toolResults = [])
    (proper : ∀ round ∈ rounds, round.Proper)
    : Paired []
        ((messages ++ rounds.flatMap ToolRound.messages).map convertToAnthropicMessage) := by
  induction messages with
  | cons message rest ih =>
      obtain ⟨noCalls, noResults⟩ := plain message List.mem_cons_self
      exact .plain noCalls noResults
        (ih (fun other member => plain other (List.mem_cons_of_mem _ member)))
  | nil =>
      rw [List.nil_append]
      induction rounds with
      | nil => exact .nil
      | cons round rest ih =>
          rw [List.flatMap_cons, List.map_append]
          exact .round (proper round List.mem_cons_self)
            (ih (fun other member => proper other (List.mem_cons_of_mem _ member)))

-----------------------------------------------------------------------------------------
-- The tools on offer
-----------------------------------------------------------------------------------------

/-- Register tools one after the other. -/
def registerAll (registry : ToolRegistry) : List ToolRegistration → Except String ToolRegistry
  | [] => .ok registry
  | tool :: rest =>
      match registry.register tool with
      | .error message => .error message
      | .ok registry => registerAll registry rest

/-- Every tool is kept under its name. -/
def Keyed (registry : ToolRegistry) : Prop :=
  registry.all.map ToolRegistration.name = registry.tools.keys

/-- Registering a tool adds it, under its name. -/
theorem register_ok {registry next : ToolRegistry} {tool : ToolRegistration}
    (keyed : Keyed registry) (registered : registry.register tool = .ok next)
    : next.all = tool :: registry.all ∧ Keyed next := by
  simp only [ToolRegistry.register] at registered
  split at registered
  · contradiction
  next fresh =>
    obtain rfl := Except.ok.inj registered
    have entries := AList.entries_insert_of_notMem (b := tool) fresh
    have all : ToolRegistry.all ⟨registry.tools.insert tool.name tool⟩
        = tool :: registry.all := by
      rw [ToolRegistry.all, entries, List.map_cons, ← ToolRegistry.all]
    refine ⟨all, ?_⟩
    rw [Keyed, all, List.map_cons, keyed, AList.keys, AList.keys, entries, List.keys_cons]

/-- After any number of registrations the tools are those registered. By induction on them. -/
theorem registerAll_ok {registry final : ToolRegistry} {tools : List ToolRegistration}
    (keyed : Keyed registry) (registered : registerAll registry tools = .ok final)
    : final.all.Perm (tools ++ registry.all) ∧ Keyed final := by
  induction tools generalizing registry with
  | nil =>
      obtain rfl := Except.ok.inj registered
      exact ⟨.refl _, keyed⟩
  | cons tool rest ih =>
      simp only [registerAll] at registered
      split at registered
      · contradiction
      next next added =>
        obtain ⟨all, keyed'⟩ := register_ok keyed added
        obtain ⟨same, keyed''⟩ := ih keyed' registered
        refine ⟨same.trans ?_, keyed''⟩
        rw [all]
        exact List.perm_middle

-----------------------------------------------------------------------------------------
-- Every request of a chat
-----------------------------------------------------------------------------------------

/-- Sanitised client messages have neither calls nor results. By induction on them. -/
theorem Sanitised.plain {tables : UnicodeTables} {config : PipelineConfig}
    {context final : PipelineContext} {given : List ChatMessage} {sanitised : List Message}
    (passed : Sanitised (.fromConfig tables config) context given sanitised final)
    : ∀ message ∈ sanitised, message.toolCalls = [] ∧ message.toolResults = [] := by
  induction passed with
  | nil => simp
  | cons passes _ ih =>
      intro message member
      rcases List.mem_cons.mp member with rfl | later
      · rw [PipelineChain.fromConfig_runInbound]
        split <;> exact ⟨rfl, rfl⟩
      · exact ih message later

/-- What a chat sends: client messages and proper rounds after them. -/
inductive Sent (state : AppState) (request : ChatRequest) (requestId : String)
    : CompletionRequest → Prop
  | conversation (messages : List Message) (rounds : List ToolRound)
    (plain : ∀ message ∈ messages, message.toolCalls = [] ∧ message.toolResults = [])
    (proper : ∀ round ∈ rounds, round.Proper)
    : Sent state request requestId
        (state.completionRequest request requestId
          (messages ++ rounds.flatMap ToolRound.messages))

section Chats

variable {libraries : ToolLibraries} {state : AppState} {request : ChatRequest}
  {world : ServerWorld} {tables : UnicodeTables} {config : PipelineConfig}
  {sent : CompletionRequest}

/-- Every request of a unary chat is of this shape. -/
theorem Sent.of_chat (configured : state.pipeline = .fromConfig tables config)
    (member : sent ∈ (chat libraries state request world).requests)
    : Sent state request world.requestId sent := by
  unfold chat at member
  split at member
  · simp at member
  next messages context converted =>
    obtain ⟨k, found⟩ := List.mem_iff_getElem?.mp member
    obtain ⟨rounds, _, follows, same⟩ := chatLoop_requests_get found
    have passed := inboundMessages_eq_ok_iff.mp converted
    rw [configured] at passed
    rw [same]
    refine .conversation messages rounds (Sanitised.plain passed) ?_
    intro round member
    obtain ⟨j, found⟩ := List.mem_iff_getElem?.mp member
    exact (follows j round found).1

/-- So is the one of a streamed chat, which has no rounds. -/
theorem Sent.of_chatStream (configured : state.pipeline = .fromConfig tables config)
    (member : sent ∈ (chatStream state request world).requests)
    : Sent state request world.requestId sent := by
  unfold chatStream at member
  split at member
  · simp at member
  next messages context converted =>
    have passed := inboundMessages_eq_ok_iff.mp converted
    rw [configured] at passed
    have only
        : sent
          = state.completionRequest request world.requestId
              (messages ++ [].flatMap ToolRound.messages) := by
      rw [List.flatMap_nil, List.append_nil]
      cases answer : world.completeStream <;>
        simpa [answer, HandlerRun.requests, HandlerRun.after, HandlerRun.failed,
          Effect.request?] using member
    rw [only]
    exact .conversation messages [] (Sanitised.plain passed) (by simp)

end Chats

/-- The provider is sent no unanswered tool use and no unasked answer. Whatever the provider
answers and however the tools behave, in every request built for a chat or a streamed chat the
tool uses of each message are answered, in order and by nothing else, in the next one; and each
registered tool is offered exactly once.
-/
theorem providerRequests_wellFormed (unmarshal : String → Option Json)
    (adapter : AnthropicAdapter) (libraries : ToolLibraries) (tables : UnicodeTables) (now : ℚ)
    (config : SphereConfig) (registrations : List ToolRegistration) (registry : ToolRegistry)
    (executor : ToolExecutor) (request : ChatRequest) (world : ServerWorld)
    (registered : registerAll .new registrations = .ok registry)
    : let state :=
        {
          AppState.start tables now config with
          toolRegistry := registry
          toolExecutor := executor
        }
      ∀ sent,
        sent ∈ (chat libraries state request world).requests
          ∨ sent ∈ (chatStream state request world).requests
        → Paired [] (adapter.buildRequest unmarshal sent).messages
          ∧ (adapter.buildRequest unmarshal sent).tools.Perm
              (registrations.map
                (fun tool =>
                  {
                    name := tool.name
                    description := tool.description
                    inputSchema := jsonToInputSchema unmarshal tool.inputSchemaJson
                  }))
          ∧ ((adapter.buildRequest unmarshal sent).tools.map
              AnthropicToolDefinition.name).Nodup := by
  intro state sent member
  have shape : Sent state request world.requestId sent := by
    rcases member with unary | streamed
    · exact .of_chat rfl unary
    · exact .of_chatStream rfl streamed
  obtain ⟨messages, rounds, plain, proper⟩ := shape
  have fresh : Keyed .new := rfl
  obtain ⟨same, keyed⟩ := registerAll_ok fresh registered
  have offered
      : (adapter.buildRequest unmarshal
            (state.completionRequest request world.requestId
              (messages ++ rounds.flatMap ToolRound.messages))).tools
        = registry.all.map
            (fun tool =>
              {
                name := tool.name
                description := tool.description
                inputSchema := jsonToInputSchema unmarshal tool.inputSchemaJson
              }) :=
    List.map_map
  refine ⟨.conversation plain proper, ?_, ?_⟩
  · rw [offered]
    refine List.Perm.map _ (same.trans (.of_eq ?_))
    exact List.append_nil registrations
  · have names
        : ((adapter.buildRequest unmarshal
              (state.completionRequest request world.requestId
                (messages ++ rounds.flatMap ToolRound.messages))).tools.map
            AnthropicToolDefinition.name)
          = registry.all.map ToolRegistration.name := by
      rw [offered, List.map_map]
      rfl
    rw [names, keyed]
    exact registry.tools.keys_nodup

/-- The second request of the echo chat, in which the echo is asked for and answered. -/
theorem providerRequests_wellFormed_echo
    : ∃ sent,
        sent
          ∈ (chat lenientLibraries
              {
                AppState.start asciiTables 0 toolConfig with
                toolRegistry := .builtin
                toolExecutor := .new []
              }
              greeting echoWorld).requests
        ∧ (sent.messages.map Message.toolCalls).flatten.length = 1
        ∧ Paired []
            ((AnthropicAdapter.mk "m").buildRequest (fun _ => none) sent).messages := by
  have member
      : ∃ sent,
          (chat lenientLibraries
            {
              AppState.start asciiTables 0 toolConfig with
              toolRegistry := .builtin
              toolExecutor := .new []
            }
            greeting echoWorld).requests[1]? = some sent
          ∧ (sent.messages.map Message.toolCalls).flatten.length = 1 :=
    ⟨_, rfl, rfl⟩
  obtain ⟨sent, found, asked⟩ := member
  have sent_mem := List.mem_of_getElem? found
  have registered : registerAll .new [echoRegistration] = .ok .builtin := by
    rw [registerAll, ToolRegistry.builtin_eq]
    rfl
  have wellFormed :=
    providerRequests_wellFormed (fun _ => none) (AnthropicAdapter.mk "m") lenientLibraries
      asciiTables 0 toolConfig [echoRegistration] .builtin (.new []) greeting echoWorld
      registered sent (.inl sent_mem)
  exact ⟨sent, sent_mem, asked, wellFormed.1⟩

end Intellisphere.Core
