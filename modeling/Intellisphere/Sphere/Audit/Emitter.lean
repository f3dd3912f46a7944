import Intellisphere.Foundation.Interleaving
import Intellisphere.Foundation.JsonText

/-! Audit events and the sinks they are sent to. -/

namespace Intellisphere.Sphere

open Intellisphere.Foundation

/-- Types of auditable events in the Sphere pipeline. -/
inductive AuditEventType where
  | requestReceived
  | filterApplied
  | filterBlocked
  | completionRequested
  | completionReceived
  | toolCallIntercepted
  | toolCallAuthorized
  | toolCallDenied
  | toolCallExecuted
  | toolCallTimeout
  | responseFiltered
  | responseSent
  | policyEvaluated
  | policyViolated
  deriving DecidableEq

/-- The name in snake case, as serialised and displayed. -/
def AuditEventType.name : AuditEventType → String
  | .requestReceived => "request_received"
  | .filterApplied => "filter_applied"
  | .filterBlocked => "filter_blocked"
  | .completionRequested => "completion_requested"
  | .completionReceived => "completion_received"
  | .toolCallIntercepted => "tool_call_intercepted"
  | .toolCallAuthorized => "tool_call_authorized"
  | .toolCallDenied => "tool_call_denied"
  | .toolCallExecuted => "tool_call_executed"
  | .toolCallTimeout => "tool_call_timeout"
  | .responseFiltered => "response_filtered"
  | .responseSent => "response_sent"
  | .policyEvaluated => "policy_evaluated"
  | .policyViolated => "policy_violated"

/-- A structured audit event capturing a discrete action within the pipeline. -/
structure AuditEvent (Time Number : Type) where
  eventType : AuditEventType
  requestId : String
  sessionId : String
  timestamp : Time
  identitySub : Option String
  details : JsonValue Number

section Events

variable {Time Number : Type}

/-- Create a new audit event at the current time. -/
def AuditEvent.new (now : Time) (eventType : AuditEventType) (requestId sessionId : String)
    (details : JsonValue Number)
    : AuditEvent Time Number where
  eventType
  requestId
  sessionId
  timestamp := now
  identitySub := none
  details

/-- Set the identity subject on this event. -/
def AuditEvent.withIdentity (event : AuditEvent Time Number) (sub : String)
    : AuditEvent Time Number :=
  { event with identitySub := some sub }

/-- How times and numbers are written. -/
structure AuditText (Time Number : Type) where
  timestamp : Time → String
  number : Number → List Char

variable (texts : AuditText Time Number)

/-- The fields of the serialised event; no identity is skipped. -/
def AuditEvent.fields (event : AuditEvent Time Number) : List (String × JsonValue Number) :=
  [
    ("event_type", .string event.eventType.name),
    ("request_id", .string event.requestId),
    ("session_id", .string event.sessionId),
    ("timestamp", .string (texts.timestamp event.timestamp))
  ]
  ++ (event.identitySub.map (fun sub => ("identity_sub", .string sub))).toList
  ++ [("details", event.details)]

/-- The event as one JSON object. -/
def AuditEvent.json (event : AuditEvent Time Number) : List Char :=
  (JsonValue.object (event.fields texts)).text texts.number

end Events

-----------------------------------------------------------------------------------------
-- Sinks
-----------------------------------------------------------------------------------------

/-- Destinations of audit events. -/
inductive AuditSink where
  | stdout
  | file
  | otlp
  deriving DecidableEq

/-- A log record of the standard output. -/
structure AuditRecord where
  eventType : String
  requestId : String
  sessionId : String
  auditPayload : List Char

/-- What one write hands to a sink. The line of an event in a file is written in two pieces. -/
inductive SinkWrite (Time Number : Type) where
  | record (record : AuditRecord)
  | json (event : AuditEvent Time Number)
  | newline
  | notConfigured

section Sinks

variable {Time Number : Type} (texts : AuditText Time Number)

/-- The log record of an event. -/
def AuditEvent.record (event : AuditEvent Time Number) : AuditRecord where
  eventType := event.eventType.name
  requestId := event.requestId
  sessionId := event.sessionId
  auditPayload := event.json texts

/-- The writes of one event. -/
def AuditSink.send (event : AuditEvent Time Number) : AuditSink → List (SinkWrite Time Number)
  | .stdout => [.record (event.record texts)]
  | .file => [.json event, .newline]
  | .otlp => [.notConfigured]

/-- Central emitter that dispatches events to its sinks. -/
structure AuditEmitter where
  sinks : List AuditSink

/-- Emit an audit event to all configured sinks, each with its place among them. -/
def AuditEmitter.emit (emitter : AuditEmitter) (event : AuditEvent Time Number)
    : List (Nat × SinkWrite Time Number) :=
  emitter.sinks.zipIdx.flatMap
    (fun sink => (sink.1.send texts event).map (fun write => (sink.2, write)))

/-- Tasks that emit events at the same time. The writer of a file drops what it has no room
for.
-/
abbrev AuditEmitter.tasks (emitter : AuditEmitter)
    : Machine (Interleaved (Nat × SinkWrite Time Number))
        (CallEvent (AuditEvent Time Number)) (Option (Nat × SinkWrite Time Number)) :=
  Interleaved.machine (emitter.emit texts)

/-- The writes that reached a sink, in their order. -/
def reached (sink : Nat) (writes : List (Nat × SinkWrite Time Number))
    : List (SinkWrite Time Number) :=
  writes.filterMap (fun write => if write.1 = sink then some write.2 else none)

/-- The text a write adds to a file. -/
def SinkWrite.text : SinkWrite Time Number → List Char
  | .json event => event.json texts
  | .newline => ['\n']
  | _ => []

/-- The event a write puts into a file. -/
def SinkWrite.logged : SinkWrite Time Number → Option (AuditEvent Time Number)
  | .json event => some event
  | _ => none

/-- The text of a file, its rotations joined. -/
def fileText (sink : Nat) (writes : List (Nat × SinkWrite Time Number)) : List Char :=
  (reached sink writes).flatMap (SinkWrite.text texts)

/-- The events in a file, in their order. -/
def fileEvents (sink : Nat) (writes : List (Nat × SinkWrite Time Number))
    : List (AuditEvent Time Number) :=
  (reached sink writes).filterMap SinkWrite.logged

end Sinks

end Intellisphere.Sphere
