import Intellisphere.Sphere.Audit.Emitter

/-! What can be read back from an audit log. Tasks may join their lines in the file and the
writer may drop some of them, but the text still tells which events were written and in what
order; and no text inside an event can pass for another event.
-/

namespace Intellisphere.Sphere

open Intellisphere.Foundation

variable {Time Number : Type} {texts : AuditText Time Number}

/-- Different times and numbers are written differently, and numbers as JSON numbers. -/
structure AuditText.Faithful (texts : AuditText Time Number) : Prop where
  timestamps : Function.Injective texts.timestamp
  numbers : NumberText texts.number

-----------------------------------------------------------------------------------------
-- One event
-----------------------------------------------------------------------------------------

theorem AuditEventType.name_injective : Function.Injective AuditEventType.name := by
  intro first second same
  cases first <;> cases second <;> first | rfl | exact absurd same (by decide)

/-- The fields determine the event. -/
theorem AuditEvent.fields_injective (faithful : texts.Faithful)
    : Function.Injective (AuditEvent.fields texts) := by
  intro first second same
  obtain ⟨eventType, requestId, sessionId, timestamp, identitySub, details⟩ := first
  obtain ⟨eventType', requestId', sessionId', timestamp', identitySub', details'⟩ := second
  cases identitySub <;> cases identitySub'
  all_goals simp [fields] at same
  · obtain ⟨types, rfl, rfl, times, rfl⟩ := same
    rw [AuditEventType.name_injective types, faithful.timestamps times]
  · obtain ⟨types, rfl, rfl, times, rfl, rfl⟩ := same
    rw [AuditEventType.name_injective types, faithful.timestamps times]

/-- The text of an event shows where it ends. -/
theorem AuditEvent.json_selfDelimiting (faithful : texts.Faithful)
    : SelfDelimiting (AuditEvent.json texts) :=
  (JsonValue.object_selfDelimiting faithful.numbers).comap
    (AuditEvent.fields_injective faithful)

theorem AuditEvent.json_ne_nil (event : AuditEvent Time Number) : event.json texts ≠ [] :=
  List.cons_ne_nil _ _

/-- An event stays on one line. -/
theorem AuditEvent.newline_not_mem_json (faithful : texts.Faithful)
    (event : AuditEvent Time Number)
    : '\n' ∉ event.json texts :=
  (JsonValue.text_printable faithful.numbers _).not_mem (by decide)

-----------------------------------------------------------------------------------------
-- The text of a file
-----------------------------------------------------------------------------------------

/-- Without its newlines a file is the texts of its events. By induction on the writes. -/
theorem filter_text (faithful : texts.Faithful) (writes : List (SinkWrite Time Number))
    : (writes.flatMap (SinkWrite.text texts)).filter (· != '\n')
      = (writes.filterMap SinkWrite.logged).flatMap (AuditEvent.json texts) := by
  induction writes with
  | nil => rfl
  | cons write writes ih =>
      rw [List.flatMap_cons, List.filter_append, ih]
      cases write with
      | record record => rfl
      | newline => rfl
      | notConfigured => rfl
      | json event =>
          have kept : (event.json texts).filter (· != '\n') = event.json texts := by
            rw [List.filter_eq_self]
            intro c member
            have other := event.newline_not_mem_json faithful
            simpa using fun same : c = '\n' => other (same ▸ member)
          rw [SinkWrite.text, kept]
          rfl

/-- The text of a file determines the events in it and their order. -/
theorem fileEvents_eq_of_fileText (faithful : texts.Faithful) {sink sink' : Nat}
    {writes writes' : List (Nat × SinkWrite Time Number)}
    (same : fileText texts sink writes = fileText texts sink' writes')
    : fileEvents sink writes = fileEvents sink' writes' := by
  have events := congrArg (List.filter (· != '\n')) same
  rw [fileText, fileText, filter_text faithful, filter_text faithful] at events
  exact (AuditEvent.json_selfDelimiting faithful).flatMap_injective
    AuditEvent.json_ne_nil events

-----------------------------------------------------------------------------------------
-- What an emitter sends
-----------------------------------------------------------------------------------------

theorem reached_append (sink : Nat) (writes later : List (Nat × SinkWrite Time Number))
    : reached sink (writes ++ later) = reached sink writes ++ reached sink later :=
  List.filterMap_append

theorem reached_map (sink place : Nat) (writes : List (SinkWrite Time Number))
    : reached sink (writes.map (fun write => (place, write)))
      = if place = sink then writes else [] := by
  rw [reached, List.filterMap_map]
  by_cases here : place = sink
  · simp [here]
  · simp [here]

/-- What reaches one place of a list of sinks is what that sink is sent. By induction on the
sinks.
-/
theorem reached_sends (event : AuditEvent Time Number) (sinks : List AuditSink)
    (first sink : Nat)
    : reached sink
        ((sinks.zipIdx first).flatMap
          (fun sink => (sink.1.send texts event).map (fun write => (sink.2, write))))
      = if first ≤ sink then (sinks[sink - first]?.map (AuditSink.send texts event)).getD []
        else [] := by
  induction sinks generalizing first with
  | nil => simp [reached]
  | cons head sinks ih =>
      rw [List.zipIdx_cons, List.flatMap_cons, reached_append, reached_map, ih]
      by_cases here : first = sink
      · have later : ¬sink + 1 ≤ sink := by omega
        simp [here, later]
      · by_cases before : first ≤ sink
        · have next : sink - first = sink - (first + 1) + 1 := by omega
          have later : first + 1 ≤ sink := by omega
          simp [here, before, later, next]
        · have later : ¬first + 1 ≤ sink := by omega
          simp [here, before, later]

/-- A sink gets its writes of each event. -/
theorem reached_emit {emitter : AuditEmitter} {sink : Nat} {kind : AuditSink}
    (present : emitter.sinks[sink]? = some kind) (event : AuditEvent Time Number)
    : reached sink (emitter.emit texts event) = kind.send texts event := by
  rw [AuditEmitter.emit, reached_sends, if_pos (Nat.zero_le _), Nat.sub_zero, present]
  rfl

/-- The writes of some events that reach a sink. -/
theorem reached_flatMap_emit {emitter : AuditEmitter} {sink : Nat} {kind : AuditSink}
    (present : emitter.sinks[sink]? = some kind) (events : List (AuditEvent Time Number))
    : reached sink (events.flatMap (emitter.emit texts))
      = events.flatMap (fun event => kind.send texts event) := by
  simp only [reached, List.filterMap_flatMap]
  exact congrArg events.flatMap (funext fun event => reached_emit present event)

-----------------------------------------------------------------------------------------
-- Runs of the emitter
-----------------------------------------------------------------------------------------

section Runs

variable {emitter : AuditEmitter} {sink : Nat}
  {state : Interleaved (Nat × SinkWrite Time Number)}
  {trace
    : List (CallEvent (AuditEvent Time Number) × Option (Nat × SinkWrite Time Number))}

theorem reached_filterMap {Shown : Type} (sink : Nat)
    (see : SinkWrite Time Number → Option Shown) (writes : List (Nat × SinkWrite Time Number))
    : (reached sink writes).filterMap see
      = writes.filterMap
          (fun write => (if write.1 = sink then some write.2 else none).bind see) :=
  List.filterMap_filterMap

section Shown

variable {Shown : Type} {kind : AuditSink} {see : SinkWrite Time Number → Option Shown}
  {what : AuditEvent Time Number → Shown}

/-- A sink shows no event that was not emitted, and none more often than it was. -/
theorem reached_subperm (run : (emitter.tasks texts).Run .start trace state)
    (present : emitter.sinks[sink]? = some kind)
    (once : ∀ event, (kind.send texts event).filterMap see = [what event])
    : ((reached sink state.done).filterMap see).Subperm
        ((Interleaved.begun trace).map what) := by
  rw [reached_filterMap]
  refine Interleaved.Run.seen_subperm run (fun event => ?_)
  rw [← reached_filterMap, reached_emit present, once]

/-- A sink shows every event once when each emit is at its end and nothing was dropped. -/
theorem reached_perm (run : (emitter.tasks texts).Run .start trace state)
    (present : emitter.sinks[sink]? = some kind)
    (once : ∀ event, (kind.send texts event).filterMap see = [what event])
    (idle : state.Idle) (kept : Interleaved.lost trace = [])
    : ((reached sink state.done).filterMap see).Perm
        ((Interleaved.begun trace).map what) := by
  rw [reached_filterMap]
  refine Interleaved.Run.seen_perm run (fun event => ?_) idle kept
  rw [← reached_filterMap, reached_emit present, once]

end Shown

/-- With one emit at a time a file has one line for each event, in their order. -/
theorem fileText_lines (run : (emitter.tasks texts).Run .start trace state)
    (file : emitter.sinks[sink]? = some .file)
    (serial : Interleaved.Serial (emitter.emit texts) trace) (idle : state.Idle)
    (kept : Interleaved.lost trace = [])
    : fileText texts sink state.done
      = (Interleaved.begun trace).flatMap (fun event => event.json texts ++ ['\n']) := by
  obtain ⟨_, order⟩ := Interleaved.Run.serial run serial kept
  rw [idle, List.append_nil] at order
  rw [fileText, order, reached_flatMap_emit file, List.flatMap_assoc]
  refine congrArg (Interleaved.begun trace).flatMap (funext fun event => ?_)
  simp [AuditSink.send, SinkWrite.text]

/-- Whatever the order in which tasks emit and whatever the writer drops, the text of an audit
file tells which events were written and in what order; each of them was emitted, and none is
there twice. With nothing dropped all of them are there at the end, and with one emit at a time
each has its own line.
-/
theorem auditLog_readable (faithful : texts.Faithful)
    (file : emitter.sinks[sink]? = some .file)
    (run : (emitter.tasks texts).Run .start trace state)
    : (∀ writes : List (Nat × SinkWrite Time Number),
          fileText texts sink writes = fileText texts sink state.done
          → fileEvents sink writes = fileEvents sink state.done)
      ∧ (fileEvents sink state.done).Subperm (Interleaved.begun trace)
      ∧ (state.Idle
          → Interleaved.lost trace = []
          → (fileEvents sink state.done).Perm (Interleaved.begun trace)
            ∧ (Interleaved.Serial (emitter.emit texts) trace
                → fileText texts sink state.done
                  = (Interleaved.begun trace).flatMap
                      (fun event => event.json texts ++ ['\n']))) := by
  have once (event : AuditEvent Time Number)
      : (AuditSink.file.send texts event).filterMap SinkWrite.logged = [id event] :=
    rfl
  refine ⟨fun writes same => fileEvents_eq_of_fileText faithful same, ?_, ?_⟩
  · have among := reached_subperm run file once
    rwa [List.map_id] at among
  · intro idle kept
    have all := reached_perm run file once idle kept
    rw [List.map_id] at all
    exact ⟨all, fun serial => fileText_lines run file serial idle kept⟩

end Runs

/-- Times as their RFC 3339 text and integers in decimal. -/
def plainText : AuditText String Int where
  timestamp := id
  number := integerText

theorem plainText_faithful : plainText.Faithful where
  timestamps := Function.injective_id
  numbers := integerText_numberText

/-- An event whose identifier looks like the end of one line and the start of another. -/
def forgedEvent : AuditEvent String Int :=
  .new "2025-01-01T00:00:00Z" .requestReceived "r-1\"\x7d\n\x7b\"" "s-1"
    (.object [("n", .number 7)])

def plainEvent : AuditEvent String Int :=
  (AuditEvent.new "2025-01-01T00:00:01Z" .responseSent "r-2" "s-1" .null).withIdentity "ada"

def fullEmitter : AuditEmitter where
  sinks := [.stdout, .file, .otlp]

/-- Two tasks emit, and the second writes its event before the first ends its line. -/
def joinedSchedule : List (CallEvent (AuditEvent String Int)) :=
  [.begin forgedEvent, .begin plainEvent]
  ++ [0, 0, 1, 1, 1, 0, 0, 1].map (fun task => .advance task true)

def joinedWrites : List (Nat × SinkWrite String Int) :=
  [
    (0, .record (forgedEvent.record plainText)),
    (1, .json forgedEvent),
    (0, .record (plainEvent.record plainText)),
    (1, .json plainEvent),
    (1, .newline),
    (1, .newline),
    (2, .notConfigured),
    (2, .notConfigured)
  ]

/-- Two events on one line are still two events. -/
theorem auditLog_readable_joined
    : fileText plainText 1 joinedWrites
        = forgedEvent.json plainText ++ plainEvent.json plainText ++ ['\n', '\n']
      ∧ (fileEvents 1 joinedWrites).Perm [forgedEvent, plainEvent] := by
  have scheduled
      : (fullEmitter.tasks plainText).exec .start joinedSchedule
        = some (⟨[[], []], joinedWrites⟩, joinedSchedule.map (fun event => (event, none))) :=
    rfl
  have file : fullEmitter.sinks[1]? = some .file := rfl
  have readable := auditLog_readable plainText_faithful file (Machine.exec_run scheduled)
  refine ⟨?_, (readable.2.2 rfl rfl).1⟩
  simp [joinedWrites, fileText, reached, SinkWrite.text]

end Intellisphere.Sphere
