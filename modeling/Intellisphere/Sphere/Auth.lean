import Intellisphere.Foundation.Text
import Intellisphere.Sphere.Config
import Intellisphere.Sphere.Errors

/-! Authentication strategies and the ingress gate that tries them. -/

namespace Intellisphere.Sphere

open Intellisphere.Foundation

/-- An authenticated caller. -/
structure Identity where
  sub : String
  roles : List String
  scopes : List String
  metadata : HashMap String
  deriving DecidableEq

/-- The identity used when authentication is disabled. -/
def Identity.anonymous : Identity :=
  { sub := "anonymous", roles := [], scopes := [], metadata := ∅ }

inductive AuthError where
  | invalidToken (message : String)
  | expiredToken
  | missingToken
  | unknownApiKey
  deriving DecidableEq

/-- The display text of an authentication error. -/
def AuthError.display : AuthError → String
  | .invalidToken message => "invalid token: " ++ message
  | .expiredToken => "expired token"
  | .missingToken => "missing token"
  | .unknownApiKey => "unknown API key"

/-- Static API keys with the identity each grants. -/
structure ApiKeyAuthStrategy where
  keys : HashMap Identity

/-- The identity an API key entry grants. -/
def ApiKeyEntry.identity (entry : ApiKeyEntry) : Identity :=
  {
    sub := entry.identitySub
    roles := entry.roles
    scopes := entry.scopes
    metadata := ∅
  }

def ApiKeyAuthStrategy.new (entries : List ApiKeyEntry) : ApiKeyAuthStrategy :=
  { keys := entries.foldl (fun keys entry => keys.insert entry.key entry.identity) ∅ }

def ApiKeyAuthStrategy.authenticate (strategy : ApiKeyAuthStrategy) (token : String)
    : Except AuthError Identity :=
  match strategy.keys.lookup token with
  | some identity => .ok identity
  | none => .error .unknownApiKey

/-- The claims read from a verified token. -/
structure Claims where
  sub : Option String
  roles : List String := []
  scopes : List String := []
  scope : Option String := none
  deriving DecidableEq

/-- HS256 tokens with a shared secret and the issuer and audience to insist on. -/
structure JwtAuthStrategy where
  secret : String
  issuer : Option String
  audience : Option String

def JwtAuthStrategy.newHs256 (secret : String) (issuer audience : Option String)
    : JwtAuthStrategy :=
  { secret, issuer, audience }

/-- The token library: the claims of a token whose signature, expiry, issuer and audience
check out, or the text of its error.
-/
abbrev JwtDecoder :=
  JwtAuthStrategy → String → Except String Claims

/-- Append the words of a scope string that the scopes do not hold yet. -/
def mergeScopes (scopes words : List String) : List String :=
  words.foldl (fun merged word => if word ∈ merged then merged else merged ++ [word]) scopes

def JwtAuthStrategy.authenticate (decode : JwtDecoder) (strategy : JwtAuthStrategy)
    (token : String)
    : Except AuthError Identity :=
  match decode strategy token with
  | .error message =>
      if containsText message.toList "ExpiredSignature".toList then .error .expiredToken
      else .error (.invalidToken message)
  | .ok claims =>
      match claims.sub with
      | none => .error (.invalidToken "missing sub claim")
      | some sub =>
          .ok
            {
              sub
              roles := claims.roles
              scopes :=
                match claims.scope with
                | none => claims.scopes
                | some scope => mergeScopes claims.scopes (splitWhitespace scope)
              metadata := ∅
            }

inductive AuthStrategy where
  | jwt (strategy : JwtAuthStrategy)
  | apiKey (strategy : ApiKeyAuthStrategy)

def AuthStrategy.authenticate (decode : JwtDecoder)
    : AuthStrategy → String → Except AuthError Identity
  | .jwt strategy => strategy.authenticate decode
  | .apiKey strategy => strategy.authenticate

structure IngressGate where
  enabled : Bool
  strategies : List AuthStrategy

/-- The strategy a configuration entry stands for. -/
def AuthStrategyConfig.strategy : AuthStrategyConfig → AuthStrategy
  | .jwt secret issuer audience => .jwt (.newHs256 secret issuer audience)
  | .apiKey keys => .apiKey (.new keys)

def IngressGate.fromConfig (config : AuthConfig) : IngressGate :=
  {
    enabled := config.enabled
    strategies := config.strategies.map AuthStrategyConfig.strategy
  }

/-- Try the strategies in order until one succeeds, remembering the last error. -/
def tryStrategies (decode : JwtDecoder) (token : String)
    : List AuthStrategy → AuthError → Except SphereError Identity
  | [], lastError => .error (.authError ("all strategies failed: " ++ lastError.display))
  | strategy :: rest, _ =>
      match strategy.authenticate decode token with
      | .ok identity => .ok identity
      | .error error => tryStrategies decode token rest error

/-- Authenticate a request from its `Authorization` and `X-API-Key` headers. -/
def IngressGate.authenticate (decode : JwtDecoder) (gate : IngressGate)
    (authorizationHeader apiKeyHeader : Option String)
    : Except SphereError Identity :=
  if !gate.enabled then .ok Identity.anonymous
  else
    let token :=
      match authorizationHeader with
      | some authValue => some ((stripPrefix "Bearer " authValue).getD authValue)
      | none => apiKeyHeader
    match token with
    | none => .error (.authError "missing Authorization or X-API-Key header")
    | some token => tryStrategies decode token gate.strategies .missingToken

end Intellisphere.Sphere
