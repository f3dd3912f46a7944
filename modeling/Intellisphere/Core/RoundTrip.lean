import Intellisphere.Core.Anthropic
import Intellisphere.Sphere.Api.Transcript

/-! What becomes of a provider's answer that asks for tools. Core converts it, Sphere appends
it with the results of its calls, and Core converts both messages back.
-/

namespace Intellisphere.Core

open Intellisphere.Sphere

/-- The tool result block that answers a tool use: it carries the id of the tool use, and an
error flag exactly when the result is an error.
-/
def answerBlock (toolUse : MessageContentToolUse) (result : ToolResult) : MessageContent :=
  {
    type := .toolResult
    text := none
    toolResult :=
      some
        {
          toolUseId := some toolUse.id
          content := [textBlock result.resultJson]
          isError := if result.isError then some true else none
        }
    toolUse := none
  }

/-- The content of an assistant message that repeats an answer: its texts as one block,
unless there is none, and then its tool uses.
-/
def repeatedContent (response : MessagesResponse) : List MessageContent :=
  let text := String.join (texts response.content)
  (if text = "" then [] else [textBlock text])
  ++ (toolUses response.content).map toolUseBlock

/-- A provider answer with the results of its calls. -/
structure ProviderTurn where
  response : MessagesResponse
  results : List ToolResult

/-- The assistant message that repeats the answer, as Sphere appends it. -/
def ProviderTurn.assistant (turn : ProviderTurn) : Message :=
  let response := convertFromAnthropicResponse turn.response
  assistantMessage response.content response.toolCalls

/-- The user message with the results, as Sphere appends it. -/
def ProviderTurn.user (turn : ProviderTurn) : Message :=
  toolResultMessage turn.results

/-- What the provider is sent for the turn says what the provider said: its texts, its tool
uses, and one answer for each tool use in its place.
-/
structure ProviderTurn.Survives (turn : ProviderTurn) : Prop where
  assistant
    : convertToAnthropicMessage turn.assistant
      = { role := .assistant, content := repeatedContent turn.response }
  answered : turn.results.length = (toolUses turn.response.content).length
  user
    : convertToAnthropicMessage turn.user
      = {
          role := .user
          content := List.zipWith answerBlock (toolUses turn.response.content) turn.results
        }

/-- Results that carry the ids of the tool uses in their order become the blocks that answer
them. By induction on the tool uses.
-/
theorem map_convertToolResult_eq {uses : List MessageContentToolUse}
    {results : List ToolResult}
    (ids : results.map ToolResult.callId = uses.map MessageContentToolUse.id)
    : results.map convertToolResult = List.zipWith answerBlock uses results := by
  induction uses generalizing results with
  | nil =>
      obtain rfl := List.map_eq_nil_iff.mp ids
      rfl
  | cons toolUse rest ih =>
      cases results with
      | nil => simp at ids
      | cons result later =>
          obtain ⟨same, others⟩ := List.cons.inj ids
          simp only [List.map_cons, List.zipWith_cons_cons, ih others]
          congr 1
          simp only [convertToolResult, answerBlock, same]

section Turn

variable {turn : ProviderTurn}

/-- The assistant message of an answer. -/
theorem convertTo_assistant
    : convertToAnthropicMessage turn.assistant
      = { role := .assistant, content := repeatedContent turn.response } := by
  simp only [convertToAnthropicMessage, ProviderTurn.assistant, assistantMessage,
    convertFrom_content, convertFrom_toolCalls, List.map_nil, List.append_nil, List.map_map,
    repeatedContent, ne_eq, ite_not, if_true]
  congr 1

/-- The user message of the results. -/
theorem convertTo_user
    : convertToAnthropicMessage turn.user
      = { role := .user, content := turn.results.map convertToolResult } := by
  simp [convertToAnthropicMessage, ProviderTurn.user, toolResultMessage]

/-- A turn survives as soon as the results carry the ids of the calls in their order. -/
theorem ProviderTurn.survives_of_callIds
    (answered
      : turn.results.map ToolResult.callId
        = (convertFromAnthropicResponse turn.response).toolCalls.map ToolCall.callId)
    : turn.Survives := by
  have ids : turn.results.map ToolResult.callId
      = (toolUses turn.response.content).map MessageContentToolUse.id := by
    rw [answered, convertFrom_toolCalls, List.map_map]
    rfl
  refine ⟨convertTo_assistant, ?_, ?_⟩
  · simpa using congrArg List.length ids
  · rw [convertTo_user, map_convertToolResult_eq ids]

end Turn

/-- The turns repeat the provider's answers from the given one on, and each survives. -/
def Repeats (answers : Nat → Except String MessagesResponse) (start : Nat)
    (turns : List ProviderTurn)
    : Prop :=
  ∀ j turn,
    turns[j]? = some turn
    → answers (start + j) = .ok turn.response ∧ turn.Survives

/-- The messages Sphere appends for a turn. -/
def ProviderTurn.messages (turn : ProviderTurn) : List Message :=
  [turn.assistant, turn.user]

/-- The surroundings of a chat in which Core converts the provider's answers. -/
def coreWorld (world : ServerWorld) (answers : Nat → Except String MessagesResponse)
    : ServerWorld :=
  {
    world with
    complete := fun iteration => (answers iteration).map convertFromAnthropicResponse
  }

/-- A surviving turn in front of later ones. -/
theorem Repeats.cons {answers : Nat → Except String MessagesResponse} {start : Nat}
    {turn : ProviderTurn} {turns : List ProviderTurn}
    (answer : answers start = .ok turn.response) (survives : turn.Survives)
    (later : Repeats answers (start + 1) turns)
    : Repeats answers start (turn :: turns) := by
  intro j other found
  cases j with
  | zero =>
      obtain rfl := Option.some.inj found
      exact ⟨answer, survives⟩
  | succ j =>
      have next := later j other found
      rwa [Nat.add_assoc, Nat.add_comm 1 j] at next

/-- The rounds of such a chat are turns of its provider. By induction on the rounds. -/
theorem turns_of_follows {world : ServerWorld}
    {answers : Nat → Except String MessagesResponse} {rounds : List ToolRound} {start : Nat}
    (follows : Follows (coreWorld world answers) start rounds)
    : ∃ turns,
        turns.length = rounds.length
        ∧ Repeats answers start turns
        ∧ rounds.flatMap ToolRound.messages = turns.flatMap ProviderTurn.messages := by
  induction rounds generalizing start with
  | nil => exact ⟨[], rfl, fun j turn found => by simp at found, rfl⟩
  | cons round rest ih =>
      obtain ⟨proper, answer⟩ := follows 0 round rfl
      obtain ⟨turns, length, repeats, messages⟩ := ih follows.tail
      rw [Nat.add_zero] at answer
      simp only [coreWorld] at answer
      cases given : answers start with
      | error message =>
          rw [given] at answer
          contradiction
      | ok response =>
          rw [given] at answer
          have same : convertFromAnthropicResponse response = round.response :=
            Except.ok.inj answer
          have survives : (ProviderTurn.mk response round.toolResults).Survives :=
            ProviderTurn.survives_of_callIds (by rw [same]; exact proper.answered)
          refine
            ⟨⟨response, round.toolResults⟩ :: turns, by simp [length],
              .cons given survives repeats, ?_⟩
          rw [List.flatMap_cons, List.flatMap_cons, messages, ToolRound.messages, ← same]
          rfl

/-- Provider answers survive the round trip. Whatever blocks an answer has, if the tool
interceptor returns results for its calls, the provider is sent the answer's texts and tool
uses and one answer for each tool use. In a chat, the k-th request repeats the provider's
first k answers so, after the sanitised client messages.
-/
theorem providerAnswers_survive (libraries : ToolLibraries) (state : AppState)
    (request : ChatRequest) (world : ServerWorld)
    (answers : Nat → Except String MessagesResponse)
    : (∀ response identity worlds results,
        process libraries state.toolRegistry state.toolExecutor identity worlds
            (convertFromAnthropicResponse response).toolCalls
          = .ok results
        → (ProviderTurn.mk response results).Survives)
      ∧ ∀ sanitised context,
          Sanitised state.pipeline (.new world.requestId "") request.messages sanitised context
          → ∀ k sent,
              (chat libraries state request (coreWorld world answers)).requests[k]? = some sent
              → ∃ turns,
                  turns.length = k
                  ∧ Repeats answers 0 turns
                  ∧ sent.messages = sanitised ++ turns.flatMap ProviderTurn.messages := by
  refine ⟨?_, ?_⟩
  · intro response identity worlds results answered
    exact ProviderTurn.survives_of_callIds (process_callIds answered)
  · intro sanitised context passed k sent found
    have converted
        : inboundMessages state.pipeline request.messages
            (.new (coreWorld world answers).requestId "") = .ok (sanitised, context) :=
      inboundMessages_eq_ok_iff.mpr passed
    simp only [chat, converted] at found
    obtain ⟨rounds, length, follows, same⟩ := chatLoop_requests_get found
    obtain ⟨turns, turnsLength, repeats, messages⟩ := turns_of_follows follows
    refine ⟨turns, turnsLength.trans length, repeats, ?_⟩
    rw [same, AppState.completionRequest, messages]

/-- An answer with thinking and text around one echo. -/
def mixedResponse : MessagesResponse where
  content :=
    [
      { type := .other "thinking", text := some "hm", toolResult := none, toolUse := none },
      textBlock "let me ",
      toolUseBlock { id := "c-1", name := "intellisphere_echo", input := "" },
      textBlock "check"
    ]
  stopReason := .toolUse
  usage := { inputTokens := 10, outputTokens := 7 }
  model := "m"

/-- The echo chat over a provider that answers so at first, and is then unavailable. -/
def mixedAnswers (iteration : Nat) : Except String MessagesResponse :=
  if iteration = 0 then .ok mixedResponse else .error "unavailable"

/-- The round trip at an answer with thinking, text and an echo, and at the second request
of its chat.
-/
theorem providerAnswers_survive_mixed
    : (∃ results, (ProviderTurn.mk mixedResponse results).Survives)
      ∧ ∃ sent turns,
          (chat lenientLibraries (.start asciiTables 0 toolConfig) greeting
              (coreWorld echoWorld mixedAnswers)).requests[1]? = some sent
          ∧ turns.length = 1
          ∧ Repeats mixedAnswers 0 turns := by
  have survive :=
    providerAnswers_survive lenientLibraries (.start asciiTables 0 toolConfig) greeting
      echoWorld mixedAnswers
  refine ⟨?_, ?_⟩
  · exact ⟨_, survive.1 _ none (fun _ => quietToolWorld) _ rfl⟩
  · obtain ⟨turns, length, repeats, _⟩ :=
      survive.2 _ _ (.cons rfl (.nil _)) 1 _ rfl
    exact ⟨_, turns, rfl, length, repeats⟩

end Intellisphere.Core
