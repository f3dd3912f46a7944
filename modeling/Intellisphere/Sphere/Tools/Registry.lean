import Intellisphere.Sphere.Config

/-! Registered tools. -/

namespace Intellisphere.Sphere

/-- Where a tool executes. -/
inductive ToolZone where
  | sphere
  | satellite
  | wasm
  deriving DecidableEq

def defaultTimeoutMs : UInt64 :=
  5000

structure ToolRegistration where
  name : String
  description : String
  inputSchemaJson : String
  zone : ToolZone
  requiredScopes : List String := []
  requiredRoles : List String := []
  handlerUrl : Option String
  timeoutMs : UInt64 := defaultTimeoutMs
  deriving DecidableEq

structure ToolRegistry where
  tools : HashMap ToolRegistration

def ToolRegistry.new : ToolRegistry :=
  { tools := ∅ }

/-- Register a tool, unless its name is taken. -/
def ToolRegistry.register (registry : ToolRegistry) (tool : ToolRegistration)
    : Except String ToolRegistry :=
  if tool.name ∈ registry.tools then
    .error ("Tool '" ++ tool.name ++ "' is already registered")
  else .ok { tools := registry.tools.insert tool.name tool }

def ToolRegistry.get (registry : ToolRegistry) (name : String) : Option ToolRegistration :=
  registry.tools.lookup name

/-- All registered tools, in the map's iteration order. -/
def ToolRegistry.all (registry : ToolRegistry) : List ToolRegistration :=
  registry.tools.entries.map Sigma.snd

/-- The echo tool every server registers at startup. -/
def echoRegistration : ToolRegistration :=
  {
    name := "intellisphere_echo"
    description := "Echo a message back. Useful for testing the tool call loop."
    inputSchemaJson :=
      "\x7b
                \"type\": \"object\",
                \"properties\": \x7b
                    \"message\": \x7b
                        \"type\": \"string\",
                        \"description\": \"The message to echo back\"
                    \x7d
                \x7d,
                \"required\": [\"message\"]
            \x7d"
    zone := .sphere
    handlerUrl := none
    timeoutMs := 5000
  }

/-- The registry of a freshly started server. -/
def ToolRegistry.builtin : ToolRegistry :=
  { tools := AList.insert echoRegistration.name echoRegistration ∅ }

/-- The built-in registration goes through. -/
theorem ToolRegistry.builtin_eq : ToolRegistry.new.register echoRegistration = .ok builtin := by
  simp [register, new, builtin]

end Intellisphere.Sphere
