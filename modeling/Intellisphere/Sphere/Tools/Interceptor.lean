import Intellisphere.Sphere.Auth
import Intellisphere.Sphere.Tools.Executor

/-! The tool interceptor: every call is looked up, authorised, validated and executed with
panic containment, and answered by one result.
-/

namespace Intellisphere.Sphere

open Intellisphere.Foundation

/-- Maximum allowed size for tool results (1MB). -/
def maxResultSize : Nat :=
  1024 * 1024

/-- The first of the wanted names that is not held. -/
def firstMissing (held wanted : List String) : Option String :=
  wanted.find? (fun name => !held.contains name)

/-- Check that the identity has the scopes and roles the tool requires. A tool that requires
none is open to everyone.
-/
def checkAuthorization (registration : ToolRegistration) (identity : Option Identity)
    : Except String Unit :=
  if registration.requiredScopes.isEmpty && registration.requiredRoles.isEmpty then .ok ()
  else
    match identity with
    | none => .error "Authentication required for this tool"
    | some identity =>
        match firstMissing identity.scopes registration.requiredScopes with
        | some scope => .error ("Missing required scope: " ++ scope)
        | none =>
            match firstMissing identity.roles registration.requiredRoles with
            | some role => .error ("Missing required role: " ++ role)
            | none => .ok ()

/-- Validate tool call parameters against the tool's JSON schema. -/
def validateParams (libraries : ToolLibraries) (paramsJson schemaJson : String)
    : Except String Unit :=
  match libraries.parseJson paramsJson with
  | .error message => .error ("Invalid JSON: " ++ message)
  | .ok params =>
      match libraries.parseJson schemaJson with
      | .error message => .error ("Invalid schema: " ++ message)
      | .ok schema =>
          match libraries.validatorFor schema with
          | .error message => .error ("Invalid JSON Schema: " ++ message)
          | .ok iterErrors =>
              let errors := iterErrors params
              if errors.isEmpty then .ok () else .error ("; ".intercalate errors)

/-- Execute a tool call in a task of its own. A panic of the task becomes an error result;
cutting a long result at a byte that starts no character panics in the caller.
-/
def executeWithContainment (libraries : ToolLibraries) (executor : ToolExecutor)
    (world : ToolWorld) (toolCall : ToolCall) (registration : ToolRegistration)
    : Except Failure ToolResult :=
  if world.panics then
    .ok
      (errorResult toolCall.callId "EXECUTION_ERROR"
        "Tool handler encountered an internal error")
  else
    let result := executor.execute libraries world toolCall registration
    if result.resultJson.utf8ByteSize > maxResultSize then
      -- The cut is made outside the spawned task, so its panic is not contained.
      match sliceTo result.resultJson.toList maxResultSize with
      | some kept => .ok { result with resultJson := String.ofList kept }
      | none => .error .panicked
    else .ok result

/-- Answer one tool call. -/
def processCall (libraries : ToolLibraries) (registry : ToolRegistry)
    (executor : ToolExecutor) (identity : Option Identity) (world : ToolWorld)
    (toolCall : ToolCall)
    : Except Failure ToolResult :=
  match registry.get toolCall.name with
  | none =>
      .ok
        (errorResult toolCall.callId "TOOL_NOT_FOUND"
          ("Tool '" ++ toolCall.name ++ "' is not registered"))
  | some registration =>
      match checkAuthorization registration identity with
      | .error message => .ok (errorResult toolCall.callId "AUTHORIZATION_DENIED" message)
      | .ok () =>
          match validateParams libraries toolCall.argumentsJson
              registration.inputSchemaJson with
          | .error message =>
              .ok
                (errorResult toolCall.callId "VALIDATION_FAILED"
                  ("Parameter validation failed: " ++ message))
          | .ok () =>
              executeWithContainment libraries executor world toolCall registration

/-- Answer a list of tool calls in order; the worlds surround the calls one by one. -/
def process (libraries : ToolLibraries) (registry : ToolRegistry) (executor : ToolExecutor)
    (identity : Option Identity)
    : (Nat → ToolWorld) → List ToolCall → Except Failure (List ToolResult)
  | _, [] => .ok []
  | worlds, toolCall :: rest =>
      match processCall libraries registry executor identity (worlds 0) toolCall with
      | .error failure => .error failure
      | .ok result =>
          match process libraries registry executor identity (fun i => worlds (i + 1))
              rest with
          | .error failure => .error failure
          | .ok results => .ok (result :: results)

section Answers

variable {libraries : ToolLibraries} {registry : ToolRegistry} {executor : ToolExecutor}
  {identity : Option Identity}

/-- A contained execution that returns answers its own call. -/
theorem executeWithContainment_callId {world : ToolWorld} {toolCall : ToolCall}
    {registration : ToolRegistration} {result : ToolResult}
    (answered
      : executeWithContainment libraries executor world toolCall registration = .ok result)
    : result.callId = toolCall.callId := by
  have same := executor.execute_callId libraries world toolCall registration
  simp only [executeWithContainment] at answered
  split at answered
  · obtain rfl := Except.ok.inj answered
    rfl
  · split at answered
    · split at answered
      · obtain rfl := Except.ok.inj answered
        exact same
      · contradiction
    · obtain rfl := Except.ok.inj answered
      exact same

/-- Whatever branch a call takes, its result carries its own id. -/
theorem processCall_callId {world : ToolWorld} {toolCall : ToolCall} {result : ToolResult}
    (answered
      : processCall libraries registry executor identity world toolCall = .ok result)
    : result.callId = toolCall.callId := by
  simp only [processCall] at answered
  split at answered
  · obtain rfl := Except.ok.inj answered
    rfl
  · split at answered
    · obtain rfl := Except.ok.inj answered
      rfl
    · split at answered
      · obtain rfl := Except.ok.inj answered
        rfl
      · exact executeWithContainment_callId answered

/-- The results answer the calls position by position, by induction on the calls. -/
theorem process_callIds {worlds : Nat → ToolWorld} {toolCalls : List ToolCall}
    {results : List ToolResult}
    (answered
      : process libraries registry executor identity worlds toolCalls = .ok results)
    : results.map ToolResult.callId = toolCalls.map ToolCall.callId := by
  induction toolCalls generalizing worlds results with
  | nil =>
      obtain rfl := Except.ok.inj answered
      rfl
  | cons toolCall rest ih =>
      simp only [process] at answered
      split at answered
      · contradiction
      next result first =>
        split at answered
        · contradiction
        next later others =>
          obtain rfl := Except.ok.inj answered
          simp only [List.map_cons, processCall_callId first, ih others]

end Answers

end Intellisphere.Sphere
