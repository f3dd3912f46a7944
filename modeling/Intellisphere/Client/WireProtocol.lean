import Intellisphere.Client.DysonSatellite
import Intellisphere.Sphere.Satellite.TrustBounds
import Intellisphere.Sphere.Satellite.Wire

/-! Where the client and Sphere understand each other. Their vocabularies only share the
error message of Sphere: every client message is refused, every other message of Sphere is
ignored, and no session tells the client where to connect.
-/

namespace Intellisphere.Client

open Intellisphere.Foundation
open Intellisphere.Sphere
  (AppState CreateSessionResponse SatelliteLibraries SatelliteMessage
    SatelliteState SerdeJson)

/-- The JSON libraries of the two ends. -/
structure Wire where
  sphere : SerdeJson
  client : JsonApi

/-- What crosses the wire: the client's messages, Sphere's messages, and the answer to the
handshake.
-/
inductive Exchange where
  | fromClient (message : OutboundMessage)
  | fromSphere (message : SatelliteMessage)
  | handshake (response : CreateSessionResponse)

/-- The strings of an object arrive under their names. -/
def KeepsStrings (sent received : Json) : Prop :=
  ∀ name text, sent.get? name = some (.str text) → received.get? name = some (.str text)

/-- The JSON libraries carry the exchange. A client message may also fail to parse, and its
numbers may be rounded; what Sphere writes has neither numbers nor depth.
-/
def Wire.Carries (wire : Wire) : Exchange → Prop
  | .fromClient message =>
      ∀ value,
        wire.sphere.fromStr (wire.client.stringify message.toJson) = .ok value
        → KeepsStrings message.toJson value
  | .fromSphere message =>
      wire.client.parse (wire.sphere.toString message.toJson) = some message.toJson
  | .handshake response =>
      wire.client.parse (wire.sphere.toString response.toJson) = some response.toJson

/-- The messages Sphere sends: its heartbeat, and the replies on its sockets. -/
def SphereSends (libraries : SatelliteLibraries) (state : AppState)
    (message : SatelliteMessage)
    : Prop :=
  message = .ping
  ∨ ∃ satellite sessionId requestId text,
      (Sphere.handleMessage libraries state satellite sessionId requestId text).2 = message

/-- The exchange can take place. -/
def Exchange.Possible (libraries : SatelliteLibraries) (state : AppState) : Exchange → Prop
  | .fromSphere message => SphereSends libraries state message
  | _ => True

/-- The message Sphere should make of a message of the client: the variant of the same
meaning, with the id of the request and the text of the result.
-/
def Corresponds (json : JsonApi) : OutboundMessage → SatelliteMessage → Prop
  | .toolProposalResponse requestId result, .toolProposal id _ resultPayload =>
      id = requestId ∧ resultPayload = json.stringify result.toJson
  | .heartbeatPong, .pong => True
  | _, _ => False

/-- The session has an endpoint with the token in its address. -/
def CarriesToken (session : Json) (token : String) : Prop :=
  ∃ url, wsEndpoint session = some (.str url) ∧ token.toList <:+: url.toList

/-- The receiving end understands the exchange: Sphere decodes the client's message to the
corresponding one, the client has a handler for Sphere's message, and the session of the
handshake leads to an endpoint with its token.
-/
def Wire.Agrees (wire : Wire) (libraries : SatelliteLibraries) : Exchange → Prop
  | .fromClient message =>
      ∃ decoded,
        (libraries.withJson wire.sphere).decodeMessage
            (wire.client.stringify message.toJson)
          = .ok decoded
        ∧ Corresponds wire.client message decoded
  | .fromSphere message =>
      ∃ dispatch,
        onSocketMessage wire.client (wire.sphere.toString message.toJson) = some dispatch
        ∧ dispatch.isHandled = true
  | .handshake response =>
      ∃ session,
        fetchSession wire.client (wire.sphere.toString response.toJson) = some session
        ∧ CarriesToken session response.token

section Agreement

variable {wire : Wire} {libraries : SatelliteLibraries}

/-- Sphere has no variant under the names the client uses. -/
theorem ofFields_outbound (message : OutboundMessage) (value : Json)
    : SatelliteMessage.ofFields value message.type = none := by
  cases message <;> rfl

/-- No client message can be decoded. -/
theorem decode_outbound (libraries : SatelliteLibraries) {message : OutboundMessage}
    (carries : wire.Carries (.fromClient message))
    : ∃ problem,
        (libraries.withJson wire.sphere).decodeMessage
            (wire.client.stringify message.toJson)
          = .error problem :=
  SatelliteMessage.decode_unknown (fun value parsed => carries value parsed "type" _ rfl)
    (ofFields_outbound message)

/-- Sphere answers every client message with an error and changes nothing. -/
theorem handleMessage_outbound {message : OutboundMessage}
    (carries : wire.Carries (.fromClient message)) (state : AppState)
    (satellite : Option SatelliteState) (sessionId requestId : String)
    : ∃ problem,
        Sphere.handleMessage (libraries.withJson wire.sphere) state satellite sessionId
            requestId (wire.client.stringify message.toJson)
          = (satellite, .error ("invalid message: " ++ problem)) := by
  obtain ⟨problem, undecoded⟩ := decode_outbound libraries carries
  refine ⟨problem, ?_⟩
  rw [Sphere.handleMessage, undecoded]

/-- The client only handles Sphere's errors. -/
theorem handleMessage_inbound_iff (message : SatelliteMessage)
    : (handleMessage message.toJson).isHandled = true ↔ ∃ text, message = .error text := by
  cases message with
  | error text => exact ⟨fun _ => ⟨text, rfl⟩, fun _ => rfl⟩
  | toolProposal => exact ⟨fun handled => by contradiction, fun ⟨_, wrong⟩ => by contradiction⟩
  | adjudicationResult =>
      exact ⟨fun handled => by contradiction, fun ⟨_, wrong⟩ => by contradiction⟩
  | ping => exact ⟨fun handled => by contradiction, fun ⟨_, wrong⟩ => by contradiction⟩
  | pong => exact ⟨fun handled => by contradiction, fun ⟨_, wrong⟩ => by contradiction⟩
  | sessionTerminated =>
      exact ⟨fun handled => by contradiction, fun ⟨_, wrong⟩ => by contradiction⟩

/-- Client and Sphere understand each other exactly on Sphere's errors. -/
theorem wire_agrees_iff {exchange : Exchange} (carries : wire.Carries exchange)
    : wire.Agrees libraries exchange ↔ ∃ text, exchange = .fromSphere (.error text) := by
  cases exchange with
  | fromClient message =>
      obtain ⟨problem, undecoded⟩ := decode_outbound libraries carries
      refine ⟨?_, fun ⟨_, wrong⟩ => by contradiction⟩
      intro agrees
      obtain ⟨decoded, found, _⟩ := agrees
      rw [undecoded] at found
      contradiction
  | fromSphere message =>
      have arrived
          : onSocketMessage wire.client (wire.sphere.toString message.toJson)
            = some (handleMessage message.toJson) := by
        rw [onSocketMessage, carries, Option.map_some]
      have handled := handleMessage_inbound_iff message
      refine ⟨?_, ?_⟩
      · intro agrees
        obtain ⟨dispatch, found, isHandled⟩ := agrees
        obtain rfl := Option.some.inj (arrived.symm.trans found)
        obtain ⟨text, rfl⟩ := handled.mp isHandled
        exact ⟨text, rfl⟩
      · intro isError
        obtain ⟨text, same⟩ := isError
        exact ⟨_, arrived, handled.mpr ⟨text, Exchange.fromSphere.inj same⟩⟩
  | handshake response =>
      refine ⟨?_, fun ⟨_, wrong⟩ => by contradiction⟩
      intro agrees
      obtain ⟨session, found, url, endpoint, _⟩ := agrees
      obtain rfl := Option.some.inj (carries.symm.trans found)
      contradiction

end Agreement

/-- The pong of the client. -/
def pong : Exchange :=
  .fromClient .heartbeatPong

/-- A complaint of Sphere. -/
def complaint : SatelliteMessage :=
  .error "unexpected message type"

/-- Libraries that know the text of the pong and of the complaint. -/
def smallWire : Wire where
  sphere :=
    {
      toString := stringsText
      fromStr := fun text =>
        if text = stringsText OutboundMessage.heartbeatPong.toJson then
          .ok OutboundMessage.heartbeatPong.toJson
        else .error "expected value"
      refusal := fun _ => "unknown variant"
    }
  client :=
    {
      stringify := stringsText
      parse := fun text =>
        if text = stringsText complaint.toJson then some complaint.toJson else none
    }

theorem smallWire_carries_pong : smallWire.Carries pong := by
  intro value parsed name text sent
  simp only [smallWire, if_true, Except.ok.injEq] at parsed
  rwa [← parsed]

theorem smallWire_carries_complaint : smallWire.Carries (.fromSphere complaint) := by
  simp only [Wire.Carries, smallWire, if_true]

/-- Sphere's complaint reaches the client's error handler. -/
theorem wire_agrees_iff_example
    : smallWire.Agrees Sphere.smallLibraries (.fromSphere complaint)
      ↔ ∃ text, Exchange.fromSphere complaint = .fromSphere (.error text) :=
  wire_agrees_iff smallWire_carries_complaint

/-- The client's pong is not understood. -/
theorem wire_disagrees
    : ¬∀ (wire : Wire) (libraries : SatelliteLibraries) (state : AppState)
          (exchange : Exchange),
        exchange.Possible libraries state
        → wire.Carries exchange
        → wire.Agrees libraries exchange := by
  intro agrees
  obtain ⟨problem, undecoded⟩ := decode_outbound Sphere.smallLibraries smallWire_carries_pong
  obtain ⟨decoded, found, _⟩ :=
    agrees smallWire Sphere.smallLibraries Sphere.smallState pong trivial smallWire_carries_pong
  rw [undecoded] at found
  contradiction

end Intellisphere.Client
