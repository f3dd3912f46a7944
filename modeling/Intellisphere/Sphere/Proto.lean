/-! Messages exchanged between Sphere and Core. -/

namespace Intellisphere.Sphere

/-- A tool invocation requested by the model. -/
structure ToolCall where
  callId : String
  name : String
  argumentsJson : String
  deriving DecidableEq, Repr

/-- The result of a tool invocation, sent back to the model. -/
structure ToolResult where
  callId : String
  resultJson : String
  isError : Bool
  deriving DecidableEq, Repr

/-- One conversation message. -/
structure Message where
  role : String
  content : String
  toolResults : List ToolResult
  toolCalls : List ToolCall
  deriving DecidableEq, Repr

structure ToolDefinition where
  name : String
  description : String
  inputSchemaJson : String
  deriving DecidableEq, Repr

structure Timestamp where
  seconds : Int64
  nanos : Int32
  deriving DecidableEq, Repr

structure RequestMetadata where
  requestId : String
  sessionId : String
  timestamp : Option Timestamp
  deriving DecidableEq, Repr

/-- A completion request to Core. The temperature is the bit pattern of an `f32`: Sphere
only copies it.
-/
structure CompletionRequest where
  provider : String
  model : String
  system : String
  messages : List Message
  maxTokens : Int32
  temperature : UInt32
  tools : List ToolDefinition
  stopSequences : List String
  metadata : Option RequestMetadata
  deriving DecidableEq, Repr

structure Usage where
  inputTokens : Int32
  outputTokens : Int32
  deriving DecidableEq, Repr

inductive StopReason where
  | unspecified
  | endTurn
  | toolUse
  | maxTokens
  | stopSequence
  deriving DecidableEq, Repr

/-- A unary answer from Core. The stop reason is an open enumeration on the wire. -/
structure CompletionResponse where
  content : String
  toolCalls : List ToolCall
  stopReasonRaw : Int32
  usage : Option Usage
  model : String
  deriving DecidableEq, Repr

/-- The stop reason of a wire value; unknown values read as unspecified. -/
def StopReason.ofRaw (raw : Int32) : StopReason :=
  if raw = 1 then .endTurn
  else if raw = 2 then .toolUse
  else if raw = 3 then .maxTokens
  else if raw = 4 then .stopSequence
  else .unspecified

/-- The wire value of a stop reason. -/
def StopReason.toRaw : StopReason → Int32
  | .unspecified => 0
  | .endTurn => 1
  | .toolUse => 2
  | .maxTokens => 3
  | .stopSequence => 4

/-- Reading back a written stop reason gives it again. -/
@[simp]
theorem StopReason.ofRaw_toRaw (reason : StopReason) : ofRaw reason.toRaw = reason := by
  cases reason <;> rfl

/-- The generated getter for the stop reason. -/
def CompletionResponse.stopReason (response : CompletionResponse) : StopReason :=
  .ofRaw response.stopReasonRaw

inductive ChunkType where
  | unspecified
  | textDelta
  | toolCallStart
  | toolCallDelta
  | toolCallEnd
  | messageEnd
  deriving DecidableEq, Repr

/-- The wire value of a chunk type. -/
def ChunkType.toRaw : ChunkType → Int32
  | .unspecified => 0
  | .textDelta => 1
  | .toolCallStart => 2
  | .toolCallDelta => 3
  | .toolCallEnd => 4
  | .messageEnd => 5

/-- One chunk of a streamed answer from Core. -/
structure CompletionChunk where
  delta : String
  toolCall : Option ToolCall
  stopReasonRaw : Int32
  usage : Option Usage
  chunkTypeRaw : Int32
  deriving DecidableEq, Repr

end Intellisphere.Sphere
