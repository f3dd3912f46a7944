import Mathlib.Data.List.AList

/-! Sphere's configuration, with the defaults its sections are built from. -/

namespace Intellisphere.Sphere

/-- A string-keyed hash map, listed in its current iteration order. -/
abbrev HashMap (α : Type) :=
  AList (fun _ : String => α)

structure ApiKeyEntry where
  key : String
  identitySub : String
  roles : List String := []
  scopes : List String := []
  deriving DecidableEq

inductive AuthStrategyConfig where
  | jwt (secret : String) (issuer audience : Option String)
  | apiKey (keys : List ApiKeyEntry)
  deriving DecidableEq

structure AuthConfig where
  enabled : Bool := false
  strategies : List AuthStrategyConfig := []
  deriving DecidableEq

def defaultRpm : UInt32 :=
  60

def defaultBurst : UInt32 :=
  10

structure RateLimitRule where
  requestsPerMinute : UInt32 := defaultRpm
  burst : UInt32 := defaultBurst
  deriving DecidableEq

def defaultGlobalRateLimit : RateLimitRule :=
  { requestsPerMinute := 600, burst := 50 }

def defaultPerIdentityRateLimit : RateLimitRule :=
  { requestsPerMinute := 60, burst := 10 }

structure RateLimitConfig where
  enabled : Bool := false
  global : RateLimitRule := defaultGlobalRateLimit
  perIdentity : RateLimitRule := defaultPerIdentityRateLimit
  perTool : HashMap RateLimitRule := ∅
  deriving DecidableEq

structure InputSanitizationConfig where
  enabled : Bool := true
  stripControlChars : Bool := true
  normalizeUnicode : Bool := true
  rejectNullBytes : Bool := true
  deriving DecidableEq

structure InboundConfig where
  inputSanitization : InputSanitizationConfig := {}
  deriving DecidableEq

structure OutboundFilterToggle where
  enabled : Bool := false
  deriving DecidableEq

def defaultMaxResponseChars : Nat :=
  100000

structure ResultSizeConfig where
  enabled : Bool := false
  maxChars : Nat := defaultMaxResponseChars
  deriving DecidableEq

structure OutboundConfig where
  piiLeakDetection : OutboundFilterToggle := {}
  injectionEcho : OutboundFilterToggle := {}
  resultSize : ResultSizeConfig := {}
  responseClassifier : OutboundFilterToggle := {}
  hallucinationFlag : OutboundFilterToggle := {}
  deriving DecidableEq

structure PipelineConfig where
  inbound : InboundConfig := {}
  outbound : OutboundConfig := {}
  deriving DecidableEq

/-- Tool settings. Leaving the section out gives the derived default, whose iteration limit
is zero.
-/
structure ToolsConfig where
  manifestDir : Option String := none
  maxToolIterations : Nat := 0
  deriving DecidableEq

inductive PolicyScope where
  | session
  | identity
  | tool (name : String)
  | global
  deriving DecidableEq

inductive PolicyRule where
  | maxToolCallsPerSession (limit : UInt32)
  | maxTokensPerIdentityPerHour (limit : UInt64)
  | requireMfa
  | requireRoles (roles : List String)
  | maxResultSize (limit : Nat)
  deriving DecidableEq

inductive PolicyAction where
  | terminateSession
  | throttle
  | block
  | flag
  | log
  deriving DecidableEq

structure PolicyConfig where
  name : String
  scope : PolicyScope
  rules : List PolicyRule
  action : PolicyAction
  deriving DecidableEq

structure SphereConfig where
  listenAddr : String := "0.0.0.0:8080"
  coreGrpcUrl : String := "http://core:50051"
  pipeline : PipelineConfig := {}
  tools : ToolsConfig := {}
  auth : AuthConfig := {}
  rateLimit : RateLimitConfig := {}
  policies : List PolicyConfig := []
  deriving DecidableEq

end Intellisphere.Sphere
