import Intellisphere.Sphere.Pipeline.Filter

/-! Inbound filters of the configured chain. -/

namespace Intellisphere.Sphere

open Intellisphere.Foundation

/-- Characters that survive control stripping. -/
def isPrintableInput (c : Char) : Bool :=
  !isControl c || c == '\n' || c == '\r' || c == '\t'

/-- Reject null bytes, then strip control characters. Unicode normalisation is configured
but not carried out yet.
-/
def InputSanitizationConfig.sanitize (config : InputSanitizationConfig) (input : String)
    : Except SphereError String :=
  if config.rejectNullBytes && '\x00' ∈ input.toList then
    .error (.filterRejected "InputSanitization" "Input contains null bytes")
  else if config.stripControlChars then
    .ok (String.ofList (input.toList.filter isPrintableInput))
  else .ok input

def InputSanitizationConfig.apply (config : InputSanitizationConfig) (message : Message)
    (context : PipelineContext)
    : FilterRun SphereError :=
  if !config.enabled then { result := .ok (), message, context }
  else
    match config.sanitize message.content with
    | .ok content => { result := .ok (), message := { message with content }, context }
    | .error error => { result := .error error, message, context }

def inputSanitizationFilter (config : InputSanitizationConfig) : Filter SphereError :=
  { name := "InputSanitization", apply := config.apply }

end Intellisphere.Sphere
