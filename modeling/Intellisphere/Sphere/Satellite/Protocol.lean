import Intellisphere.Foundation.Json
import Intellisphere.Sphere.AppState
import Intellisphere.Sphere.Satellite.Adjudicator

/-! The satellite handlers: session creation, the WebSocket upgrade with its token check, and
the messages of an open socket.
-/

namespace Intellisphere.Sphere

open Intellisphere.Foundation

/-- Default session duration in seconds (1 hour). -/
def sessionDurationSecs : Int64 :=
  3600

/-- Default trust budget for new sessions. -/
def defaultTrustBudget : ℚ :=
  100

/-- Default suspicion threshold. -/
def defaultSuspicionThreshold : ℚ :=
  1

structure CreateSessionRequest where
  trustBudget : Option ℚ := none
  durationSecs : Option Int64 := none
  deriving DecidableEq

structure CreateSessionResponse where
  sessionId : String
  token : String
  expiresAt : String
  deriving DecidableEq

/-- The messages of the WebSocket protocol, as Sphere knows it. -/
inductive SatelliteMessage where
  | toolProposal (id toolName resultPayload : String)
  | adjudicationResult (id : String) (accepted : Bool) (reason : Option String)
  | ping
  | pong
  | error (message : String)
  | sessionTerminated (reason : String)
  deriving DecidableEq

/-- Shared satellite state with the server secret used for token generation. -/
structure SatelliteState where
  sessionManager : SessionManager
  serverSecret : List UInt8

def SatelliteState.new (serverSecret : List UInt8) : SatelliteState :=
  { sessionManager := .new, serverSecret }

/-- What the satellite code uses of its libraries: token verification, HMAC-SHA256 of a text
under a secret, timestamp formatting, and decoding of a message's text.
-/
structure SatelliteLibraries where
  decodeJwt : JwtDecoder
  hmacSha256 : List UInt8 → String → List UInt8
  rfc3339 : DateTime → String
  decodeMessage : String → Except String SatelliteMessage

/-- The text a token authenticates. -/
def tokenData (sessionId identitySub expiresAt : String) : String :=
  sessionId ++ ":" ++ identitySub ++ ":" ++ expiresAt

/-- The token of a session. -/
def generateToken (libraries : SatelliteLibraries)
    (sessionId identitySub expiresAt : String) (secret : List UInt8)
    : String :=
  hexEncode (libraries.hmacSha256 secret (tokenData sessionId identitySub expiresAt))

def validateToken (libraries : SatelliteLibraries)
    (token sessionId identitySub expiresAt : String) (secret : List UInt8)
    : Bool :=
  token == generateToken libraries sessionId identitySub expiresAt secret

def nanosPerSecond : Int :=
  1000000000

/-- The earliest and the latest representable points in time: the years -262143 and 262142.
-/
def minDateTime : DateTime :=
  -8334601228800 * nanosPerSecond

def maxDateTime : DateTime :=
  8210266876799 * nanosPerSecond + 999999999

/-- A duration of whole seconds; it panics when its milliseconds leave the 64-bit range. -/
def durationSeconds (seconds : Int64) : Except Failure Int :=
  if -(2 ^ 63) ≤ seconds.toInt * 1000 ∧ seconds.toInt * 1000 < 2 ^ 63 then
    .ok (seconds.toInt * nanosPerSecond)
  else .error .panicked

/-- Move a point in time; leaving the representable range panics. -/
def addDuration (time : DateTime) (duration : Int) : Except Failure DateTime :=
  if minDateTime ≤ time + duration ∧ time + duration ≤ maxDateTime then
    .ok (time + duration)
  else .error .panicked

/-- When a session created now for a given number of seconds expires. -/
def sessionExpiry (now : DateTime) (seconds : Int64) : Except Failure DateTime :=
  match durationSeconds seconds with
  | .error failure => .error failure
  | .ok duration => addDuration now duration

section Handlers

variable (libraries : SatelliteLibraries) (state : AppState)

/-- The session a request creates. -/
def newSession (sessionId identitySub : String) (body : CreateSessionRequest)
    (expiresAt : DateTime)
    : SatelliteSession :=
  {
    sessionId
    identitySub
    trustBudget :=
      .new (body.trustBudget.getD defaultTrustBudget) defaultSuspicionThreshold
    expiresAt
  }

/-- POST /v1/satellite/session: create a new satellite session token for an authenticated
caller.
-/
def createSession (satellite : Option SatelliteState) (now : DateTime) (sessionId : String)
    (authorization apiKey : Option String) (body : CreateSessionRequest)
    : Option SatelliteState × Except Failure CreateSessionResponse :=
  match state.ingressGate.authenticate libraries.decodeJwt authorization apiKey with
  | .error error => (satellite, .error (.error error))
  | .ok identity =>
      match sessionExpiry now (body.durationSecs.getD sessionDurationSecs) with
      | .error failure => (satellite, .error failure)
      | .ok expiresAt =>
          match satellite with
          | none => (none, .error (.error (.internal "satellite not configured")))
          | some configured =>
              let session := newSession sessionId identity.sub body expiresAt
              (
                some
                  {
                    configured with
                    sessionManager :=
                      configured.sessionManager.create sessionId identity.sub
                        session.trustBudget expiresAt
                  },
                .ok
                  {
                    sessionId
                    token :=
                      generateToken libraries sessionId identity.sub
                        (libraries.rfc3339 expiresAt) configured.serverSecret
                    expiresAt := libraries.rfc3339 expiresAt
                  }
              )

/-- Whether a token is the one of a session. -/
def tokenFits (secret : List UInt8) (token sessionId : String) (session : SatelliteSession)
    : Bool :=
  validateToken libraries token sessionId session.identitySub
    (libraries.rfc3339 session.expiresAt) secret

/-- Go through the sessions until one validates the token; an expired one ends the search
without a result.
-/
def findSession (secret : List UInt8) (now : DateTime) (token : String)
    : List (String × SatelliteSession) → Option String
  | [] => none
  | (sessionId, session) :: rest =>
      if tokenFits libraries secret token sessionId session then
        -- The search breaks here whether or not the session is still alive.
        if session.expiresAt > now then some sessionId else none
      else findSession secret now token rest

/-- GET /satellite?token=...: the session a socket is opened for. The order is the one in
which the session map happens to iterate.
-/
def wsUpgrade (satellite : Option SatelliteState) (now : DateTime) (order : List String)
    (token : String)
    : Except SphereError String :=
  match satellite with
  | none => .error (.internal "satellite not configured")
  | some configured =>
      match findSession libraries configured.serverSecret now token
          (configured.sessionManager.sessionsIter order) with
      | none => .error (.authError "invalid or expired session token")
      | some sessionId => .ok sessionId

/-- The reply to an adjudicated proposal: termination when the budget is exhausted or the
suspicion threshold reached, whatever the verdict.
-/
def proposalReply (id : String) (session : SatelliteSession) (result : AdjudicationResult)
    : SatelliteMessage :=
  if session.trustBudget.isExhausted || session.trustBudget.isSuspicious then
    .sessionTerminated
      (if session.trustBudget.isExhausted then "trust budget exhausted"
        else "suspicion threshold exceeded")
  else .adjudicationResult id result.accepted result.reason

/-- Process an incoming WebSocket message of a session. -/
def handleMessage (satellite : Option SatelliteState) (sessionId requestId text : String)
    : Option SatelliteState × SatelliteMessage :=
  match libraries.decodeMessage text with
  | .error message => (satellite, .error ("invalid message: " ++ message))
  | .ok .pong => (satellite, .ping)
  | .ok (.toolProposal id toolName resultPayload) =>
      match satellite with
      | none => (none, .error "satellite not configured")
      | some configured =>
          match configured.sessionManager.get sessionId with
          | none => (satellite, .sessionTerminated "session not found")
          | some session =>
              let (session, result) :=
                adjudicate state.toolRegistry state.pipeline requestId session
                  { toolName, resultPayload }
              (
                some
                  {
                    configured with
                    sessionManager := configured.sessionManager.put sessionId session
                  },
                proposalReply id session result
              )
  | .ok _ => (satellite, .error "unexpected message type")

end Handlers

end Intellisphere.Sphere
