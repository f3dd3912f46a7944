/-! The error type of Sphere's handlers and filters. -/

namespace Intellisphere.Sphere

/-- Errors a handler reports to its client. -/
inductive SphereError where
  | authError (message : String)
  | rateLimited
  | filterRejected (filter reason : String)
  | coreUnavailable (message : String)
  | coreError (message : String)
  | toolError (message : String)
  | outboundRejected (message : String)
  | policyViolation (message : String)
  | internal (message : String)
  deriving DecidableEq, Repr

/-- The display text of an error. -/
def SphereError.display : SphereError → String
  | .authError message => "Authentication failed: " ++ message
  | .rateLimited => "Rate limit exceeded"
  | .filterRejected filter reason =>
      "Request rejected by filter '" ++ filter ++ "': " ++ reason
  | .coreUnavailable message => "Core unavailable: " ++ message
  | .coreError message => "Core error: " ++ message
  | .toolError message => "Tool error: " ++ message
  | .outboundRejected message => "Outbound filter rejected: " ++ message
  | .policyViolation message => "Policy violation: " ++ message
  | .internal message => "Internal error: " ++ message

/-- Why a handler's code stopped before its end: it returned an error, or it panicked. -/
inductive Failure where
  | error (error : SphereError)
  | panicked
  deriving DecidableEq, Repr

end Intellisphere.Sphere
