import Intellisphere.Sphere.Satellite.Protocol

/-! The JSON encoding of Sphere's side of the satellite protocol: a message carries the
snake-case name of its variant under `type`, beside the fields of the variant.
-/

namespace Intellisphere.Sphere

open Intellisphere.Foundation

/-- What Sphere uses of its JSON library: writing a value, parsing a text, and the wording of
the refusal when a parsed text is not a message.
-/
structure SerdeJson where
  toString : Json → String
  fromStr : String → Except String Json
  refusal : String → String

/-- The snake-case name of a variant. -/
def SatelliteMessage.tag : SatelliteMessage → String
  | .toolProposal _ _ _ => "tool_proposal"
  | .adjudicationResult _ _ _ => "adjudication_result"
  | .ping => "ping"
  | .pong => "pong"
  | .error _ => "error"
  | .sessionTerminated _ => "session_terminated"

/-- The fields of a variant; an absent reason is written as null. -/
def SatelliteMessage.fields : SatelliteMessage → List (String × Json)
  | .toolProposal id toolName resultPayload =>
      [("id", .str id), ("tool_name", .str toolName), ("result_payload", .str resultPayload)]
  | .adjudicationResult id accepted reason =>
      [("id", .str id), ("accepted", .bool accepted), ("reason", (reason.map .str).getD .null)]
  | .ping => []
  | .pong => []
  | .error message => [("message", .str message)]
  | .sessionTerminated reason => [("reason", .str reason)]

def SatelliteMessage.toJson (message : SatelliteMessage) : Json :=
  .obj (("type", .str message.tag) :: message.fields)

def CreateSessionResponse.toJson (response : CreateSessionResponse) : Json :=
  .obj
    [
      ("session_id", .str response.sessionId),
      ("token", .str response.token),
      ("expires_at", .str response.expiresAt)
    ]

/-- An optional string: null and nothing at all both read as none. -/
def optionalStr : Option Json → Option (Option String)
  | none => some none
  | some .null => some none
  | some (.str value) => some (some value)
  | some _ => none

/-- A variant from the fields of an object; other fields are skipped. -/
def SatelliteMessage.ofFields (json : Json) (tag : String) : Option SatelliteMessage :=
  let str (name : String) := (json.get? name).bind Json.asStr
  match tag with
  | "tool_proposal" => do
      return .toolProposal (← str "id") (← str "tool_name") (← str "result_payload")
  | "adjudication_result" => do
      let accepted ← (json.get? "accepted").bind Json.asBool
      return .adjudicationResult (← str "id") accepted (← optionalStr (json.get? "reason"))
  | "ping" => some .ping
  | "pong" => some .pong
  | "error" => do return .error (← str "message")
  | "session_terminated" => do return .sessionTerminated (← str "reason")
  | _ => none

/-- A variant from the items that follow its tag in an array, in the order of its fields. -/
def SatelliteMessage.ofItems (tag : String) (items : List Json) : Option SatelliteMessage :=
  match tag, items with
  | "tool_proposal", [.str id, .str toolName, .str resultPayload] =>
      some (.toolProposal id toolName resultPayload)
  | "adjudication_result", [.str id, .bool accepted, reason] =>
      (optionalStr (some reason)).map (.adjudicationResult id accepted)
  | "ping", [] => some .ping
  | "pong", [] => some .pong
  | "error", [.str message] => some (.error message)
  | "session_terminated", [.str reason] => some (.sessionTerminated reason)
  | _, _ => none

/-- The message a JSON value stands for. -/
def SatelliteMessage.ofJson (json : Json) : Option SatelliteMessage :=
  match json with
  -- The derived decoder of a tagged enumeration also takes an array led by the tag.
  | .arr (.str tag :: items) => ofItems tag items
  | _ =>
      match json.get? "type" with
      | some (.str tag) => ofFields json tag
      | _ => none

/-- Reading back a written message gives it again, one case for each variant. -/
@[simp]
theorem SatelliteMessage.ofJson_toJson (message : SatelliteMessage)
    : ofJson message.toJson = some message := by
  cases message with
  | toolProposal => rfl
  | adjudicationResult id accepted reason => cases reason <;> rfl
  | ping => rfl
  | pong => rfl
  | error => rfl
  | sessionTerminated => rfl

/-- Decode the text of a message. -/
def SatelliteMessage.decode (json : SerdeJson) (text : String)
    : Except String SatelliteMessage :=
  match json.fromStr text with
  | .error problem => .error problem
  | .ok value =>
      match SatelliteMessage.ofJson value with
      | none => .error (json.refusal text)
      | some message => .ok message

/-- The satellite libraries with messages decoded by a JSON library. -/
def SatelliteLibraries.withJson (libraries : SatelliteLibraries) (json : SerdeJson)
    : SatelliteLibraries :=
  { libraries with decodeMessage := SatelliteMessage.decode json }

/-- A text whose parsed value is tagged with an unknown name is no message. -/
theorem SatelliteMessage.decode_unknown {json : SerdeJson} {text tag : String}
    (tagged
      : ∀ value, json.fromStr text = .ok value → value.get? "type" = some (.str tag))
    (unknown : ∀ value, SatelliteMessage.ofFields value tag = none)
    : ∃ problem, decode json text = .error problem := by
  simp only [decode]
  split
  next problem _ => exact ⟨problem, rfl⟩
  next value parsed =>
    have tagged := tagged value parsed
    have none : SatelliteMessage.ofJson value = none := by
      cases value with
      | obj fields => simp [SatelliteMessage.ofJson, tagged, unknown]
      | null => contradiction
      | bool => contradiction
      | num => contradiction
      | str => contradiction
      | arr => contradiction
    rw [none]
    exact ⟨json.refusal text, rfl⟩

end Intellisphere.Sphere
