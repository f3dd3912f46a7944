import Intellisphere.Foundation.Json
import Intellisphere.Foundation.Text
import Intellisphere.Sphere.Proto
import Intellisphere.Sphere.Tools.Registry

/-! Tool execution: the built-in echo, HTTP handlers behind a domain allowlist, and the
zones Sphere does not execute itself.
-/

namespace Intellisphere.Sphere

open Intellisphere.Foundation

/-- What the tool code uses of its libraries: JSON parsing, JSON Schema validation (compiling
a schema, then listing the errors of a value) and URL parsing.
-/
structure ToolLibraries where
  parseJson : String → Except String Json
  validatorFor : Json → Except String (Json → List String)
  parseUrl : String → Except String (String × Option String)

/-- What the network makes of a request: a body or a failure after some milliseconds, or
nothing at all. A body is the text that `text()` of the client library decodes it to, whatever
its bytes are.
-/
inductive HttpReply where
  | body (afterMs : Nat) (text : String)
  | failed (afterMs : Nat) (message : String)
  | silent
  deriving DecidableEq

/-- The surroundings of one tool execution: the network's reply, the text of a client
timeout, the clock as text, whether the spawned task panics, and whether the request is seen
to end first when it ends just as the tool's timeout does.
-/
structure ToolWorld where
  reply : HttpReply
  timeoutMessage : String
  now : String
  panics : Bool
  requestFirst : Bool := true
  deriving DecidableEq

inductive ScopedClientError where
  | domainNotAllowed (domain : String)
  | insecureUrl (url : String)
  | responseTooLarge (limit : Nat)
  | requestFailed (message : String)
  | invalidUrl (message : String)
  deriving DecidableEq

/-- The display text of a client error. -/
def ScopedClientError.display : ScopedClientError → String
  | .domainNotAllowed domain => "Domain '" ++ domain ++ "' is not in the allowlist"
  | .insecureUrl url => "Only HTTPS URLs are allowed, got: " ++ url
  | .responseTooLarge limit =>
      "Response body exceeds maximum size of " ++ toString limit ++ " bytes"
  | .requestFailed message => "HTTP request failed: " ++ message
  | .invalidUrl message => "Invalid URL: " ++ message

structure ScopedHttpClient where
  timeoutMs : Nat
  allowedDomains : List String
  maxRequestBodyBytes : Nat
  maxResponseBodyBytes : Nat

/-- Check scheme and host of a URL against the allowlist. -/
def ScopedHttpClient.validateUrl (libraries : ToolLibraries) (client : ScopedHttpClient)
    (url : String)
    : Except ScopedClientError Unit :=
  match libraries.parseUrl url with
  | .error message => .error (.invalidUrl message)
  | .ok (scheme, host) =>
      if scheme ≠ "https" then .error (.insecureUrl url)
      else
        match host with
        | none => .error (.invalidUrl "No host in URL")
        | some domain =>
            if domain ∈ client.allowedDomains then .ok ()
            else .error (.domainNotAllowed domain)

/-- Send a request with the client's own timeout; the result comes with the milliseconds
it took.
-/
def ScopedHttpClient.send (client : ScopedHttpClient) (world : ToolWorld)
    : Nat × Except ScopedClientError String :=
  let timedOut := (client.timeoutMs, .error (.requestFailed world.timeoutMessage))
  match world.reply with
  | .silent => timedOut
  | .failed afterMs message =>
      if afterMs ≤ client.timeoutMs then (afterMs, .error (.requestFailed message))
      else timedOut
  | .body afterMs text =>
      if afterMs ≤ client.timeoutMs then
        if text.utf8ByteSize > client.maxResponseBodyBytes then
          (afterMs, .error (.responseTooLarge client.maxResponseBodyBytes))
        else (afterMs, .ok text)
      else timedOut

/-- Post a JSON body to an allowed URL. -/
def ScopedHttpClient.post (libraries : ToolLibraries) (client : ScopedHttpClient)
    (world : ToolWorld) (url body : String)
    : Nat × Except ScopedClientError String :=
  match client.validateUrl libraries url with
  | .error error => (0, .error error)
  | .ok () =>
      if body.utf8ByteSize > client.maxRequestBodyBytes then
        (0, .error (.responseTooLarge client.maxRequestBodyBytes))
      else client.send world

structure ToolExecutor where
  scopedClient : ScopedHttpClient

def ToolExecutor.new (allowedDomains : List String) : ToolExecutor :=
  {
    scopedClient :=
      {
        timeoutMs := 5000
        allowedDomains
        maxRequestBodyBytes := 1024 * 1024
        maxResponseBodyBytes := 1024 * 1024
      }
  }

/-- An error result with its code and message as a JSON object. -/
def errorResult (callId code message : String) : ToolResult :=
  {
    callId
    resultJson := jsonObject [("error", jsonString code), ("message", jsonString message)]
    isError := true
  }

/-- The built-in echo tool. -/
def executeEcho (libraries : ToolLibraries) (world : ToolWorld) (toolCall : ToolCall)
    : ToolResult :=
  let args := (libraries.parseJson toolCall.argumentsJson).toOption.getD .null
  let message := ((args.get? "message").bind Json.asStr).getD "(no message)"
  {
    callId := toolCall.callId
    resultJson :=
      jsonObject [("echo", jsonString message), ("timestamp", jsonString world.now)]
    isError := false
  }

/-- Run a tool of the Sphere zone: the echo by name, other tools through their handler URL
within their own timeout.
-/
def ToolExecutor.executeSphereTool (libraries : ToolLibraries) (executor : ToolExecutor)
    (world : ToolWorld) (toolCall : ToolCall) (registration : ToolRegistration)
    : ToolResult :=
  if toolCall.name = "intellisphere_echo" then executeEcho libraries world toolCall
  else
    match registration.handlerUrl with
    | none =>
        errorResult toolCall.callId "EXECUTION_ERROR"
          "No handler URL configured for this tool"
    | some url =>
        let (tookMs, answer) :=
          executor.scopedClient.post libraries world url toolCall.argumentsJson
        if tookMs < registration.timeoutMs.toNat
            || tookMs = registration.timeoutMs.toNat && world.requestFirst then
          match answer with
          | .ok response =>
              { callId := toolCall.callId, resultJson := response, isError := false }
          | .error error =>
              errorResult toolCall.callId "EXECUTION_ERROR"
                ("Tool handler request failed: " ++ error.display)
        else
          errorResult toolCall.callId "EXECUTION_TIMEOUT" "Tool handler exceeded timeout"

/-- Execute a tool call where its registration says it lives. -/
def ToolExecutor.execute (libraries : ToolLibraries) (executor : ToolExecutor)
    (world : ToolWorld) (toolCall : ToolCall) (registration : ToolRegistration)
    : ToolResult :=
  match registration.zone with
  | .sphere => executor.executeSphereTool libraries world toolCall registration
  | .satellite =>
      errorResult toolCall.callId "SATELLITE_UNAVAILABLE"
        "Tool requires browser connection. No Satellite session active."
  | .wasm =>
      errorResult toolCall.callId "NOT_IMPLEMENTED"
        "WASM tool execution is not yet supported."

/-- An error result answers the call it is made for. -/
@[simp]
theorem errorResult_callId (callId code message : String)
    : (errorResult callId code message).callId = callId :=
  rfl

/-- A tool of the Sphere zone answers the call it was given. -/
theorem ToolExecutor.executeSphereTool_callId (libraries : ToolLibraries)
    (executor : ToolExecutor) (world : ToolWorld) (toolCall : ToolCall)
    (registration : ToolRegistration)
    : (executor.executeSphereTool libraries world toolCall registration).callId
      = toolCall.callId := by
  simp only [executeSphereTool]
  split
  · rfl
  · split
    · rfl
    · split
      · split <;> rfl
      · rfl

/-- Every execution answers the call it was given. -/
theorem ToolExecutor.execute_callId (libraries : ToolLibraries) (executor : ToolExecutor)
    (world : ToolWorld) (toolCall : ToolCall) (registration : ToolRegistration)
    : (executor.execute libraries world toolCall registration).callId = toolCall.callId := by
  cases zone : registration.zone with
  | sphere =>
      simp only [execute, zone]
      exact executor.executeSphereTool_callId libraries world toolCall registration
  | satellite => simp only [execute, zone, errorResult_callId]
  | wasm => simp only [execute, zone, errorResult_callId]

end Intellisphere.Sphere
