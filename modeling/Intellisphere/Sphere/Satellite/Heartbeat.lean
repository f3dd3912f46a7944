import Intellisphere.Sphere.Satellite.TrustBounds

/-! One satellite connection with its client. The connection loop pings on every tick of its
heartbeat interval and answers each frame it reads; the client answers each ping with one
pong. The handler answers a pong with a ping, so an answered pong is one ping too many.
-/

namespace Intellisphere.Sphere

open Intellisphere.Foundation

/-- A frame of the socket: text, a close, or one the loop ignores. -/
inductive WsFrame where
  | text (content : String)
  | close
  | other
  deriving DecidableEq

/-- The connection and what is on its way. The client owes a pong for each ping it has read
and not answered yet.
-/
structure HeartbeatState where
  satellite : Option SatelliteState
  connected : Bool := true
  toSphere : List WsFrame := []
  toClient : List SatelliteMessage := []
  owed : Nat := 0

/-- The steps of the two parties. Sending on the socket may fail, which ends the loop; other
connections may change the shared satellite state.
-/
inductive HeartbeatEvent where
  | tick (delivered : Bool)
  | receive (requestId : String) (frame : WsFrame) (delivered : Bool)
  | receiveFailed
  | ended
  | shared (satellite : Option SatelliteState)
  | clientReads
  | clientPongs (text : String)
  | clientSends (frame : WsFrame)

section Connection

variable (libraries : SatelliteLibraries) (state : AppState) (sessionId : String)

/-- The frame reads as a pong. -/
def WsFrame.isPong : WsFrame → Bool
  | .text content =>
      match libraries.decodeMessage content with
      | .ok .pong => true
      | _ => false
  | _ => false

/-- One step; beside the next state, the message the sphere sent in it. -/
def heartbeatStep (connection : HeartbeatState)
    : HeartbeatEvent → Option (HeartbeatState × Option SatelliteMessage)
  | .tick delivered =>
      if connection.connected then
        if delivered then
          some ({ connection with toClient := connection.toClient ++ [.ping] }, some .ping)
        else some ({ connection with connected := false }, none)
      else none
  | .receive requestId frame delivered =>
      if connection.connected then
        match connection.toSphere with
        | [] => none
        | next :: rest =>
            if next = frame then
              match frame with
              | .text text =>
                  let (satellite, response) :=
                    handleMessage libraries state connection.satellite sessionId requestId text
                  if delivered then
                    some
                      (
                        {
                          connection with
                          satellite
                          connected := !response.isTermination
                          toSphere := rest
                          toClient := connection.toClient ++ [response]
                        },
                        some response
                      )
                  else
                    some
                      (
                        { connection with satellite, connected := false, toSphere := rest },
                        none
                      )
              | .close => some ({ connection with connected := false, toSphere := rest }, none)
              | .other => some ({ connection with toSphere := rest }, none)
            else none
      else none
  | .receiveFailed => if connection.connected then some (connection, none) else none
  | .ended =>
      if connection.connected then some ({ connection with connected := false }, none) else none
  | .shared satellite => some ({ connection with satellite }, none)
  | .clientReads =>
      match connection.toClient with
      | [] => none
      | .ping :: rest =>
          some ({ connection with toClient := rest, owed := connection.owed + 1 }, none)
      | _ :: rest => some ({ connection with toClient := rest }, none)
  | .clientPongs text =>
      if 0 < connection.owed && (WsFrame.text text).isPong libraries then
        some
          (
            {
              connection with
              toSphere := connection.toSphere ++ [.text text]
              owed := connection.owed - 1
            },
            none
          )
      else none
  | .clientSends frame =>
      if frame.isPong libraries then none
      else some ({ connection with toSphere := connection.toSphere ++ [frame] }, none)

def heartbeatConnection : Machine HeartbeatState HeartbeatEvent (Option SatelliteMessage) where
  step := heartbeatStep libraries state sessionId

/-- What happened on a connection so far. -/
abbrev HeartbeatTrace :=
  List (HeartbeatEvent × Option SatelliteMessage)

def HeartbeatEvent.isTick : HeartbeatEvent → Bool
  | .tick _ => true
  | _ => false

/-- A tick whose ping could not be sent. -/
def HeartbeatEvent.isLostTick : HeartbeatEvent → Bool
  | .tick delivered => !delivered
  | _ => false

/-- The sphere reads a pong and gets its answer out. -/
def HeartbeatEvent.answersPong : HeartbeatEvent → Bool
  | .receive _ frame delivered => frame.isPong libraries && delivered
  | _ => false

/-- The pings the sphere has sent. -/
def pingsSent (trace : HeartbeatTrace) : Nat :=
  trace.countP (fun entry => entry.2 = some .ping)

/-- The ticks of the heartbeat interval that have fired. -/
def ticksFired (trace : HeartbeatTrace) : Nat :=
  trace.countP (fun entry => entry.1.isTick)

def lostTicks (trace : HeartbeatTrace) : Nat :=
  trace.countP (fun entry => entry.1.isLostTick)

def pongsAnswered (trace : HeartbeatTrace) : Nat :=
  trace.countP (fun entry => entry.1.answersPong libraries)

end Connection

section Account

variable {libraries : SatelliteLibraries} {state : AppState} {sessionId : String}

/-- The reply to an adjudicated proposal is no ping. -/
theorem proposalReply_ne_ping (id : String) (session : SatelliteSession)
    (result : AdjudicationResult)
    : proposalReply id session result ≠ .ping := by
  rw [proposalReply]
  split <;> simp

/-- Only pongs are answered with a ping. -/
theorem handleMessage_ping_iff (satellite : Option SatelliteState)
    (requestId text : String)
    : (handleMessage libraries state satellite sessionId requestId text).2 = .ping
      ↔ (WsFrame.text text).isPong libraries = true := by
  cases decoded : libraries.decodeMessage text with
  | error message => simp [handleMessage, WsFrame.isPong, decoded]
  | ok message =>
      cases message with
      | toolProposal id toolName resultPayload =>
          simp only [handleMessage, WsFrame.isPong, decoded, Bool.false_eq_true, iff_false]
          split
          · simp
          · split
            · simp
            · exact proposalReply_ne_ping _ _ _
      | pong => simp [handleMessage, WsFrame.isPong, decoded]
      | adjudicationResult | ping | error | sessionTerminated =>
          simp [handleMessage, WsFrame.isPong, decoded]

/-- How a step counts: every ping it sends is a tick's or the answer to a pong, and once a
tick is lost the connection is over.
-/
structure HeartbeatStepped (libraries : SatelliteLibraries) (before : HeartbeatState)
    (event : HeartbeatEvent) (after : HeartbeatState) (sent : Option SatelliteMessage)
    : Prop where
  pings
    : (decide (sent = some .ping)).toNat + event.isLostTick.toNat
      = event.isTick.toNat + (event.answersPong libraries).toNat
  connected : after.connected = true → before.connected = true ∧ event.isLostTick = false
  answers
    : event.answersPong libraries = true
      → before.connected = true ∧ event.isLostTick = false

/-- A step that sends nothing, and is neither a tick nor an answer. -/
theorem HeartbeatStepped.silent {before after : HeartbeatState} {event : HeartbeatEvent}
    (tick : event.isTick = false) (lost : event.isLostTick = false)
    (answer : event.answersPong libraries = false)
    (kept : after.connected = true → before.connected = true)
    : HeartbeatStepped libraries before event after none :=
  {
    pings := by rw [tick, lost, answer]; rfl
    connected := fun still => ⟨kept still, lost⟩
    answers := fun answers => by rw [answer] at answers; contradiction
  }

/-- Reading a frame counts so: its answer is a ping exactly for a pong. -/
theorem receive_stepped {before after : HeartbeatState} {requestId : String}
    {frame : WsFrame} {delivered : Bool} {sent : Option SatelliteMessage}
    (stepped
      : heartbeatStep libraries state sessionId before (.receive requestId frame delivered)
        = some (after, sent))
    : HeartbeatStepped libraries before (.receive requestId frame delivered) after sent := by
  simp only [heartbeatStep] at stepped
  split at stepped
  next running =>
    split at stepped
    · contradiction
    · split at stepped
      · cases frame with
        | text content =>
            cases delivered with
            | false =>
                obtain ⟨rfl, rfl⟩ := Prod.mk.inj (Option.some.inj stepped)
                refine .silent rfl rfl ?_ nofun
                exact Bool.and_false _
            | true =>
                obtain ⟨rfl, rfl⟩ := Prod.mk.inj (Option.some.inj stepped)
                have answered := @handleMessage_ping_iff libraries state sessionId
                  before.satellite requestId content
                refine
                  {
                    pings := ?_
                    connected := fun _ => ⟨running, rfl⟩
                    answers := fun _ => ⟨running, rfl⟩
                  }
                simp only [HeartbeatEvent.answersPong, HeartbeatEvent.isTick,
                  HeartbeatEvent.isLostTick, Bool.and_true, Option.some.injEq, answered,
                  Bool.decide_eq_true, Bool.toNat_false, Nat.add_zero, Nat.zero_add]
        | close =>
            obtain ⟨rfl, rfl⟩ := Prod.mk.inj (Option.some.inj stepped)
            exact .silent rfl rfl rfl nofun
        | other =>
            obtain ⟨rfl, rfl⟩ := Prod.mk.inj (Option.some.inj stepped)
            exact .silent rfl rfl rfl (fun _ => running)
      · contradiction
  next => contradiction

/-- Every step counts so, by cases on the event. -/
theorem heartbeatStep_stepped {before after : HeartbeatState} {event : HeartbeatEvent}
    {sent : Option SatelliteMessage}
    (stepped : heartbeatStep libraries state sessionId before event = some (after, sent))
    : HeartbeatStepped libraries before event after sent := by
  cases event with
  | tick delivered =>
      simp only [heartbeatStep] at stepped
      split at stepped
      next running =>
        cases delivered with
        | false =>
            obtain ⟨rfl, rfl⟩ := Prod.mk.inj (Option.some.inj stepped)
            exact { pings := rfl, connected := nofun, answers := nofun }
        | true =>
            obtain ⟨rfl, rfl⟩ := Prod.mk.inj (Option.some.inj stepped)
            exact { pings := rfl, connected := fun _ => ⟨running, rfl⟩, answers := nofun }
      next => contradiction
  | receive requestId frame delivered => exact receive_stepped stepped
  | receiveFailed =>
      simp only [heartbeatStep] at stepped
      split at stepped
      · obtain ⟨rfl, rfl⟩ := Prod.mk.inj (Option.some.inj stepped)
        exact .silent rfl rfl rfl id
      · contradiction
  | ended =>
      simp only [heartbeatStep] at stepped
      split at stepped
      · obtain ⟨rfl, rfl⟩ := Prod.mk.inj (Option.some.inj stepped)
        exact .silent rfl rfl rfl nofun
      · contradiction
  | shared satellite =>
      obtain ⟨rfl, rfl⟩ := Prod.mk.inj (Option.some.inj stepped)
      exact .silent rfl rfl rfl id
  | clientReads =>
      simp only [heartbeatStep] at stepped
      split at stepped
      · contradiction
      · obtain ⟨rfl, rfl⟩ := Prod.mk.inj (Option.some.inj stepped)
        exact .silent rfl rfl rfl id
      · obtain ⟨rfl, rfl⟩ := Prod.mk.inj (Option.some.inj stepped)
        exact .silent rfl rfl rfl id
  | clientPongs text =>
      simp only [heartbeatStep] at stepped
      split at stepped
      · obtain ⟨rfl, rfl⟩ := Prod.mk.inj (Option.some.inj stepped)
        exact .silent rfl rfl rfl id
      · contradiction
  | clientSends frame =>
      simp only [heartbeatStep] at stepped
      split at stepped
      · contradiction
      · obtain ⟨rfl, rfl⟩ := Prod.mk.inj (Option.some.inj stepped)
        exact .silent rfl rfl rfl id

theorem toNat_eq_ite (flag : Bool) : flag.toNat = if flag then 1 else 0 := by
  cases flag <;> rfl

/-- After any run the pings make up for the ticks and the answered pongs, but for lost ticks;
there is none on a running connection.
-/
theorem heartbeats_accounted {start finish : HeartbeatState} {trace : HeartbeatTrace}
    (run : (heartbeatConnection libraries state sessionId).Run start trace finish)
    : pingsSent trace + lostTicks trace = ticksFired trace + pongsAnswered libraries trace
      ∧ (finish.connected = true → lostTicks trace = 0) := by
  refine run.history
    (fun trace connection =>
      pingsSent trace + lostTicks trace = ticksFired trace + pongsAnswered libraries trace
      ∧ (connection.connected = true → lostTicks trace = 0))
    ⟨rfl, fun _ => rfl⟩ ?_
  intro trace before event after sent _ accounted stepped
  obtain ⟨balance, running⟩ := accounted
  have counted := heartbeatStep_stepped stepped
  have pings := counted.pings
  refine ⟨?_, ?_⟩
  · simp only [pingsSent, lostTicks, ticksFired, pongsAnswered, List.countP_append,
      List.countP_singleton] at balance ⊢
    simp only [toNat_eq_ite] at pings
    omega
  · intro still
    obtain ⟨ran, kept⟩ := counted.connected still
    have none := running ran
    rw [lostTicks] at none
    simp [lostTicks, List.countP_append, none, kept]

/-- The pings sent never exceed the ticks fired exactly when no pong is answered. -/
theorem heartbeats_bounded_iff {start finish : HeartbeatState} {trace : HeartbeatTrace}
    (run : (heartbeatConnection libraries state sessionId).Run start trace finish)
    : (∀ earlier later, trace = earlier ++ later → pingsSent earlier ≤ ticksFired earlier)
      ↔ ∀ entry ∈ trace, entry.1.answersPong libraries = false := by
  refine ⟨?_, ?_⟩
  · intro bounded entry member
    by_contra answers
    rw [Bool.not_eq_false] at answers
    obtain ⟨earlier, later, rfl⟩ := List.append_of_mem member
    have prior := bounded (earlier ++ [entry]) later (by simp)
    obtain ⟨before, head, tail⟩ := run.split earlier (entry :: later)
    obtain ⟨after, stepped, _⟩ := tail.uncons
    have counted := heartbeatStep_stepped stepped
    obtain ⟨balance, running⟩ := heartbeats_accounted head
    obtain ⟨ran, kept⟩ := counted.answers answers
    have none := running ran
    have pings := counted.pings
    simp only [pingsSent, lostTicks, ticksFired, pongsAnswered, List.countP_append,
      List.countP_singleton] at balance none prior
    simp only [toNat_eq_ite, answers, kept, if_true] at pings
    simp only [Bool.false_eq_true, if_false] at pings
    omega
  · intro silent earlier later whole
    subst whole
    obtain ⟨middle, head, _⟩ := run.split earlier later
    have balance := (heartbeats_accounted head).1
    have none : pongsAnswered libraries earlier = 0 := by
      apply List.countP_eq_zero.mpr
      intro entry member
      rw [silent entry (List.mem_append_left _ member)]
      decide
    omega

end Account

/-- The text of a pong. -/
def pongText : String :=
  "\x7b\"type\":\"pong\"\x7d"

/-- The small libraries with a decoder that knows it. -/
def pongLibraries : SatelliteLibraries :=
  {
    smallLibraries with
    decodeMessage := fun text =>
      if text = pongText then .ok .pong else smallLibraries.decodeMessage text
  }

/-- A connection right after the upgrade. -/
def freshConnection : HeartbeatState :=
  { satellite := some (.new []) }

/-- The connection of one client with these libraries. -/
def pongConnection : Machine HeartbeatState HeartbeatEvent (Option SatelliteMessage) :=
  heartbeatConnection pongLibraries smallState smallId

/-- A ping that the client reads and answers with a pong. -/
def answeredPing : List HeartbeatEvent :=
  [.tick true, .clientReads, .clientPongs pongText]

/-- One tick whose pong is still on its way. -/
theorem heartbeats_bounded_iff_example
    : (∀ earlier later,
        pongConnection.traceOf freshConnection answeredPing = earlier ++ later
        → pingsSent earlier ≤ ticksFired earlier)
      ↔ ∀ entry ∈ pongConnection.traceOf freshConnection answeredPing,
          entry.1.answersPong pongLibraries = false :=
  heartbeats_bounded_iff (Machine.traceOf_run (by decide))

/-- The pong of the first ping brings a second one after a single tick. -/
theorem heartbeats_unbounded
    : ¬∀ (libraries : SatelliteLibraries) (state : AppState) (sessionId : String)
        (start finish : HeartbeatState) (trace : HeartbeatTrace),
        (heartbeatConnection libraries state sessionId).Run start trace finish
        → ∀ earlier later, trace = earlier ++ later
          → pingsSent earlier ≤ ticksFired earlier := by
  intro bounded
  have run
      : pongConnection.Run freshConnection
          (pongConnection.traceOf freshConnection
            (answeredPing ++ [.receive "r" (.text pongText) true])) _ :=
    Machine.traceOf_run (by decide)
  have prior := bounded pongLibraries smallState smallId freshConnection _ _ run _ []
    (List.append_nil _).symm
  exact absurd prior (by decide)

end Intellisphere.Sphere
