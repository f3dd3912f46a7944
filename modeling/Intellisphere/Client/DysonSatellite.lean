import Intellisphere.Foundation.Json

/-! The satellite client: what it sends, how it dispatches what it receives, and the session
it builds from the handshake. A received message is any JSON value, whatever type the client
casts it to.
-/

namespace Intellisphere.Client

open Intellisphere.Foundation

/-- What the client uses of the platform's JSON object. -/
structure JsonApi where
  stringify : Json → String
  parse : String → Option Json

/-- The compact text of an object of strings. -/
def stringsText : Json → String
  | .obj fields =>
      jsonObject (fields.map (fun field => (field.1, jsonString (field.2.asStr.getD ""))))
  | _ => "null"

/-- A number of the client's language; there is none for infinities and NaN. -/
abbrev JsNumber :=
  Option Rat

def JsNumber.toJson (number : JsNumber) : Json :=
  (number.map .num).getD .null

/-- The result of an edge tool. -/
structure ToolResult where
  success : Bool
  data : Option Json
  error : Option String
  trustCost : JsNumber
  durationMs : JsNumber

/-- Undefined properties are not written. -/
def ToolResult.toJson (result : ToolResult) : Json :=
  .obj
    (
      [("success", .bool result.success)]
      ++ (result.data.map (fun data => ("data", data))).toList
      ++ (result.error.map (fun error => ("error", .str error))).toList
      ++ [
        ("trustCost", result.trustCost.toJson),
        ("durationMs", result.durationMs.toJson)
      ]
    )

/-- The messages the satellite can send to the Sphere. -/
inductive OutboundMessage where
  | toolProposalResponse (requestId : String) (result : ToolResult)
  | heartbeatPong

def OutboundMessage.type : OutboundMessage → String
  | .toolProposalResponse _ _ => "tool_proposal_response"
  | .heartbeatPong => "heartbeat_pong"

def OutboundMessage.toJson (message : OutboundMessage) : Json :=
  .obj
    (
      ("type", .str message.type)
        :: match message with
          | .toolProposalResponse requestId result =>
              [("requestId", .str requestId), ("result", result.toJson)]
          | .heartbeatPong => []
    )

/-- What the client does with a message: the handler it calls with the properties that
handler reads, or nothing.
-/
inductive Dispatch where
  | handleToolProposal (request : Json)
  | trustBudgetUpdate (trustBudget : Option Json)
  | sendPong
  | onError (code message : Option Json)
  | ignored
  | typeError

/-- Some handler got the message. -/
def Dispatch.isHandled : Dispatch → Bool
  | .handleToolProposal _ => true
  | .trustBudgetUpdate _ => true
  | .sendPong => true
  | .onError _ _ => true
  | .ignored => false
  | .typeError => false

/-- Dispatch a message by its type. Null has no properties to read. -/
def handleMessage (message : Json) : Dispatch :=
  match message with
  | .null => .typeError
  | _ =>
      match message.get? "type" with
      | some (.str "tool_proposal_request") => .handleToolProposal message
      | some (.str "trust_budget_update") => .trustBudgetUpdate (message.get? "trustBudget")
      | some (.str "heartbeat_ping") => .sendPong
      | some (.str "error") => .onError (message.get? "code") (message.get? "message")
      | _ => .ignored

/-- A text arriving on the socket; one that does not parse goes to the error handler. -/
def onSocketMessage (json : JsonApi) (text : String) : Option Dispatch :=
  (json.parse text).map handleMessage

/-- The session the client keeps is the body of the handshake's answer. -/
def fetchSession (json : JsonApi) (body : String) : Option Json :=
  json.parse body

/-- The endpoint the client opens its socket with. -/
def wsEndpoint (session : Json) : Option Json :=
  session.get? "wsEndpoint"

end Intellisphere.Client
