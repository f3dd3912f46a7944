import Intellisphere.Core.Streaming

/-! Conversion between Core's messages and those of the provider's library. Strings are those
the wire carries, so both directions of the transport keep them.
-/

namespace Intellisphere.Core

open Intellisphere.Sphere (CompletionResponse Message ToolCall ToolResult)

/-- The types of content blocks. Only the named ones are ever looked at. -/
inductive MessagesContentType where
  | text
  | toolResult
  | toolUse
  | other (name : String)
  deriving DecidableEq, Repr

structure MessageContentToolUse where
  id : String
  name : String
  input : String
  deriving DecidableEq, Repr

/-- The body of a tool result block, whose content is blocks again. -/
structure MessageContentToolResult (Content : Type) where
  toolUseId : Option String
  content : List Content
  isError : Option Bool

/-- A content block. The optional parts are pointers that may be nil whatever the type is. -/
structure MessageContent where
  type : MessagesContentType
  text : Option String
  toolResult : Option (MessageContentToolResult MessageContent)
  toolUse : Option MessageContentToolUse

inductive ChatRole where
  | user
  | assistant
  deriving DecidableEq, Repr

/-- A message as the provider's library takes it. -/
structure AnthropicMessage where
  role : ChatRole
  content : List MessageContent

structure MessagesUsage where
  inputTokens : Int64
  outputTokens : Int64
  deriving DecidableEq, Repr

/-- A unary answer of the provider. -/
structure MessagesResponse where
  content : List MessageContent
  stopReason : MessagesStopReason
  usage : MessagesUsage
  model : String

/-- A block of text. -/
def textBlock (text : String) : MessageContent :=
  { type := .text, text := some text, toolResult := none, toolUse := none }

/-- A block that asks for a tool. -/
def toolUseBlock (toolUse : MessageContentToolUse) : MessageContent :=
  { type := .toolUse, text := none, toolResult := none, toolUse := some toolUse }

-----------------------------------------------------------------------------------------
-- The two conversions
-----------------------------------------------------------------------------------------

/-- The tool result block of a result. The error flag is left out unless it is true. -/
def convertToolResult (result : ToolResult) : MessageContent :=
  {
    type := .toolResult
    text := none
    toolResult :=
      some
        {
          toolUseId := some result.callId
          content := [textBlock result.resultJson]
          isError := if result.isError then some true else none
        }
    toolUse := none
  }

def convertToolCall (toolCall : ToolCall) : MessageContent :=
  toolUseBlock
    { id := toolCall.callId, name := toolCall.name, input := toolCall.argumentsJson }

/-- A message of Core as the provider takes it. -/
def convertToAnthropicMessage (message : Message) : AnthropicMessage :=
  {
    role := if message.role = "assistant" then .assistant else .user
    content :=
      (if message.content ≠ "" then [textBlock message.content] else [])
      ++ message.toolResults.map convertToolResult
      ++ message.toolCalls.map convertToolCall
  }

/-- One round of the loop over the blocks of a response. -/
def addBlock (result : CompletionResponse) (block : MessageContent) : CompletionResponse :=
  match block.type with
  | .text =>
      match block.text with
      | none => result
      | some text => { result with content := result.content ++ text }
  | .toolUse =>
      match block.toolUse with
      | none => result
      | some toolUse =>
          {
            result with
            toolCalls :=
              result.toolCalls
              ++ [
                {
                  callId := toolUse.id
                  name := toolUse.name
                  argumentsJson := toolUse.input
                }
              ]
          }
  | _ => result

/-- The response before any of its blocks is read. The token counts are narrowed to 32
bits.
-/
def MessagesResponse.header (response : MessagesResponse) : CompletionResponse :=
  {
    content := ""
    toolCalls := []
    stopReasonRaw := response.stopReason.toProto.toRaw
    usage :=
      some
        {
          inputTokens := response.usage.inputTokens.toInt32
          outputTokens := response.usage.outputTokens.toInt32
        }
    model := response.model
  }

/-- A unary answer of the provider as Core returns it. -/
def convertFromAnthropicResponse (response : MessagesResponse) : CompletionResponse :=
  response.content.foldl addBlock response.header

-----------------------------------------------------------------------------------------
-- What a response says
-----------------------------------------------------------------------------------------

/-- The text of a block, if it is a text block that has one. -/
def MessageContent.text? (block : MessageContent) : Option String :=
  match block.type with
  | .text => block.text
  | _ => none

/-- The tool use of a block, if it is a tool use block that has one. -/
def MessageContent.toolUse? (block : MessageContent) : Option MessageContentToolUse :=
  match block.type with
  | .toolUse => block.toolUse
  | _ => none

/-- The texts among some blocks, in order. -/
def texts (blocks : List MessageContent) : List String :=
  blocks.filterMap MessageContent.text?

/-- The tool uses among some blocks, in order. -/
def toolUses (blocks : List MessageContent) : List MessageContentToolUse :=
  blocks.filterMap MessageContent.toolUse?

/-- A tool use as Core hands it on. -/
def MessageContentToolUse.toProto (toolUse : MessageContentToolUse) : ToolCall :=
  { callId := toolUse.id, name := toolUse.name, argumentsJson := toolUse.input }

/-- A tool use survives both conversions. -/
@[simp]
theorem convertToolCall_toProto (toolUse : MessageContentToolUse)
    : convertToolCall toolUse.toProto = toolUseBlock toolUse :=
  rfl

/-- One round appends the block's text and the block's tool use, whichever it has. -/
theorem addBlock_eq (result : CompletionResponse) (block : MessageContent)
    : addBlock result block
      = {
          result with
          content := result.content ++ block.text?.getD ""
          toolCalls :=
            result.toolCalls ++ (block.toolUse?.map MessageContentToolUse.toProto).toList
        } := by
  obtain ⟨type, text, toolResult, toolUse⟩ := block
  cases type with
  | text =>
      cases text with
      | none => simp [addBlock, MessageContent.text?, MessageContent.toolUse?]
      | some text => simp [addBlock, MessageContent.text?, MessageContent.toolUse?]
  | toolUse =>
      cases toolUse with
      | none => simp [addBlock, MessageContent.text?, MessageContent.toolUse?]
      | some toolUse =>
          simp [addBlock, MessageContent.text?, MessageContent.toolUse?,
            MessageContentToolUse.toProto]
  | toolResult => simp [addBlock, MessageContent.text?, MessageContent.toolUse?]
  | other name => simp [addBlock, MessageContent.text?, MessageContent.toolUse?]

/-- The loop collects the texts and the tool uses in order, whatever other blocks stand
between them. By induction on the blocks.
-/
theorem foldl_addBlock (blocks : List MessageContent) (result : CompletionResponse)
    : blocks.foldl addBlock result
      = {
          result with
          content := result.content ++ String.join (texts blocks)
          toolCalls :=
            result.toolCalls ++ (toolUses blocks).map MessageContentToolUse.toProto
        } := by
  induction blocks generalizing result with
  | nil => simp [texts, toolUses]
  | cons block rest ih =>
      rw [List.foldl_cons, ih, addBlock_eq]
      have first : block.text?.getD "" ++ String.join (texts rest)
          = String.join (texts (block :: rest)) := by
        simp only [texts, List.filterMap_cons]
        cases block.text? with
        | none => simp
        | some text => simp
      have uses : (block.toolUse?.map MessageContentToolUse.toProto).toList
            ++ (toolUses rest).map MessageContentToolUse.toProto
          = (toolUses (block :: rest)).map MessageContentToolUse.toProto := by
        simp only [toolUses, List.filterMap_cons]
        cases block.toolUse? with
        | none => simp
        | some toolUse => simp
      simp only [String.append_assoc, List.append_assoc, first, uses]

section Response

variable (response : MessagesResponse)

theorem convertFrom_eq
    : convertFromAnthropicResponse response
      = {
          response.header with
          content := String.join (texts response.content)
          toolCalls := (toolUses response.content).map MessageContentToolUse.toProto
        } := by
  rw [convertFromAnthropicResponse, foldl_addBlock]
  simp [MessagesResponse.header]

@[simp]
theorem convertFrom_content
    : (convertFromAnthropicResponse response).content
      = String.join (texts response.content) := by
  rw [convertFrom_eq]

@[simp]
theorem convertFrom_toolCalls
    : (convertFromAnthropicResponse response).toolCalls
      = (toolUses response.content).map MessageContentToolUse.toProto := by
  rw [convertFrom_eq]

@[simp]
theorem convertFrom_stopReasonRaw
    : (convertFromAnthropicResponse response).stopReasonRaw
      = response.stopReason.toProto.toRaw := by
  rw [convertFrom_eq]
  rfl

@[simp]
theorem convertFrom_usage
    : (convertFromAnthropicResponse response).usage
      = some
          {
            inputTokens := response.usage.inputTokens.toInt32
            outputTokens := response.usage.outputTokens.toInt32
          } := by
  rw [convertFrom_eq]
  rfl

end Response

end Intellisphere.Core
