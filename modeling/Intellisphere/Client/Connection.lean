import Intellisphere.Client.DysonSatellite
import Intellisphere.Client.Timers
import Intellisphere.Foundation.Machine

/-! The connection of a satellite client as a machine: connecting, disconnecting, the close
events of its transports and the sleeps of its reconnect loops, in any order. The callbacks
of the application return normally and call no method of the client.
-/

namespace Intellisphere.Client

open Intellisphere.Foundation

structure SatelliteOptions where
  maxReconnectAttempts : Nat := 5
  reconnectBaseDelayMs : Rat := 1000

/-- How far a transport is. It is closing from the call of `close` to its close event. -/
inductive TransportStatus where
  | connecting
  | opened
  | closing
  | closed
  deriving DecidableEq

/-- A transport, and whether it is the work of a reconnect loop. -/
structure Transport where
  status : TransportStatus := .connecting
  reconnected : Bool

/-- Neither side has closed the transport. -/
def Transport.isLive (transport : Transport) : Bool :=
  transport.status = .connecting || transport.status = .opened

/-- The client with all transports it ever created, its requests for a session that have no
answer yet, and the delays its suspended reconnect loops set their timers to.
-/
structure DysonSatellite where
  session : Option Json := none
  transport : Option Nat := none
  reconnectAttempt : Nat := 0
  closed : Bool := false
  transports : List Transport := []
  pendingSessions : Nat := 0
  sleeping : List Rat := []

/-- What happens to a client. Where a transport would be created, `accepted` says whether the
transport factory returns one or throws.
-/
inductive ConnectionEvent where
  | connect
  | sessionFetched (session : Json) (accepted : Bool)
  | sessionFailed
  | disconnect
  | transportOpened (index : Nat)
  | transportClosed (index : Nat) (reason : String)
  | sleepExpired (loop : Nat) (accepted : Bool)

/-- What a client does: an attempt of a reconnect comes with the delay its timer ran for. -/
inductive ConnectionEffect where
  | transportCreated (index : Nat) (wsEndpoint : Option Json) (delayMs : Option Rat)
  | attemptFailed (delayMs : Rat)
  | onConnect (session : Json)
  | onDisconnect (reason : String)
  | onError (message : String)

/-- What counts as true in a condition. -/
def isTruthy : Json → Bool
  | .null => false
  | .bool value => value
  | .num value => value ≠ 0
  | .str value => value ≠ ""
  | _ => true

namespace DysonSatellite

/-- Create a transport and make it the current one. -/
def openTransport (satellite : DysonSatellite) (wsEndpoint : Option Json)
    (delayMs : Option Rat)
    : DysonSatellite × List ConnectionEffect :=
  (
    {
      satellite with
      transport := some satellite.transports.length
      transports := satellite.transports ++ [{ reconnected := delayMs.isSome }]
    },
    .transportCreated satellite.transports.length wsEndpoint delayMs
      :: ((satellite.session.filter isTruthy).map ConnectionEffect.onConnect).toList
  )

/-- The part of `connect` before the answer of the Sphere. -/
def connect (satellite : DysonSatellite) : DysonSatellite :=
  {
    satellite with
    closed := false
    reconnectAttempt := 0
    pendingSessions := satellite.pendingSessions + 1
  }

/-- The part of `connect` after it. Reading the trust budget of null throws. -/
def resumeConnect (satellite : DysonSatellite) (session : Json) (accepted : Bool)
    : DysonSatellite × List ConnectionEffect :=
  let satellite := { satellite with pendingSessions := satellite.pendingSessions - 1 }
  match session with
  | .null => ({ satellite with session := none }, [])
  | _ =>
      let satellite := { satellite with session := some session }
      if accepted then satellite.openTransport (wsEndpoint session) none else (satellite, [])

/-- Call `close` on a transport. -/
def closeTransport (transports : List Transport) (index : Nat) : List Transport :=
  transports.modify index
    (fun transport =>
      if transport.isLive then { transport with status := .closing } else transport)

def disconnect (satellite : DysonSatellite) : DysonSatellite :=
  {
    satellite with
    closed := true
    transports :=
      match satellite.transport with
      | none => satellite.transports
      | some index => closeTransport satellite.transports index
    transport := none
  }

/-- A reconnect loop counts its next attempt and sleeps before it. -/
def sleepBeforeAttempt (options : SatelliteOptions) (satellite : DysonSatellite)
    : DysonSatellite :=
  {
    satellite with
    reconnectAttempt := satellite.reconnectAttempt + 1
    sleeping :=
      satellite.sleeping
      ++ [options.reconnectBaseDelayMs * 2 ^ satellite.reconnectAttempt]
  }

/-- A reconnect loop from the test of its condition to its next sleep or its end. -/
def attemptReconnect (options : SatelliteOptions) (satellite : DysonSatellite)
    : DysonSatellite × List ConnectionEffect :=
  if satellite.closed then (satellite, [])
  else if satellite.reconnectAttempt < options.maxReconnectAttempts then
    (satellite.sleepBeforeAttempt options, [])
  else
    (
      satellite,
      [
        .onError
          ("Failed to reconnect after " ++ toString options.maxReconnectAttempts
            ++ " attempts.")
      ]
    )

/-- The close handler of every transport. -/
def onClose (options : SatelliteOptions) (satellite : DysonSatellite) (reason : String)
    : DysonSatellite × List ConnectionEffect :=
  let (satellite, effects) := satellite.attemptReconnect options
  (satellite, .onDisconnect reason :: effects)

/-- A reconnect loop after its sleep. An attempt without a session, or whose transport is
refused, leads to the next round.
-/
def resumeReconnect (options : SatelliteOptions) (satellite : DysonSatellite)
    (delayMs : Rat) (accepted : Bool)
    : DysonSatellite × List ConnectionEffect :=
  if satellite.closed then (satellite, [])
  else
    match satellite.session.filter isTruthy, accepted with
    | some session, true =>
        let (satellite, effects) :=
          satellite.openTransport (wsEndpoint session) (some delayMs)
        ({ satellite with reconnectAttempt := 0 }, effects)
    | _, _ =>
        let (satellite, effects) := satellite.attemptReconnect options
        (satellite, .attemptFailed delayMs :: effects)

/-- A transport reaches a status. -/
def moveTransport (satellite : DysonSatellite) (index : Nat) (status : TransportStatus)
    : DysonSatellite :=
  {
    satellite with
    transports :=
      satellite.transports.modify index (fun transport => { transport with status })
  }

/-- A suspended loop wakes. -/
def endSleep (satellite : DysonSatellite) (loop : Nat) : DysonSatellite :=
  { satellite with sleeping := satellite.sleeping.eraseIdx loop }

/-- Take an event. A transport closes once, and it opens only while it is connecting. -/
def step (options : SatelliteOptions) (satellite : DysonSatellite)
    : ConnectionEvent → Option (DysonSatellite × List ConnectionEffect)
  | .connect => some (satellite.connect, [])
  | .sessionFetched session accepted =>
      if satellite.pendingSessions = 0 then none
      else some (satellite.resumeConnect session accepted)
  | .sessionFailed =>
      if satellite.pendingSessions = 0 then none
      else some ({ satellite with pendingSessions := satellite.pendingSessions - 1 }, [])
  | .disconnect => some (satellite.disconnect, [])
  | .transportOpened index =>
      if (satellite.transports[index]?.map Transport.status) = some .connecting then
        some (satellite.moveTransport index .opened, [])
      else none
  | .transportClosed index reason =>
      match satellite.transports[index]? with
      | none => none
      | some transport =>
          if transport.status = .closed then none
          else some ((satellite.moveTransport index .closed).onClose options reason)
  | .sleepExpired loop accepted =>
      match satellite.sleeping[loop]? with
      | none => none
      | some delayMs =>
          some
            ((satellite.endSleep loop).resumeReconnect options (timerDelay (.finite delayMs))
              accepted)

/-- A transport of the client that neither side has closed. -/
def IsLive (satellite : DysonSatellite) (index : Nat) : Prop :=
  ∃ transport, satellite.transports[index]? = some transport ∧ transport.isLive = true

end DysonSatellite

/-- The connection of a client over time. -/
def satelliteConnection (options : SatelliteOptions)
    : Machine DysonSatellite ConnectionEvent (List ConnectionEffect) where
  step := DysonSatellite.step options

namespace DysonSatellite

theorem isLive_openTransport (satellite : DysonSatellite) (wsEndpoint : Option Json)
    (delayMs : Option Rat) (index : Nat)
    : (satellite.openTransport wsEndpoint delayMs).1.IsLive index
      ↔ satellite.IsLive index ∨ index = satellite.transports.length := by
  unfold IsLive openTransport
  rcases Nat.lt_trichotomy index satellite.transports.length with older | fresh | beyond
  · simp [List.getElem?_append_left older, older.ne]
  · subst fresh
    simp [Transport.isLive]
  · have older : satellite.transports[index]? = none :=
      List.getElem?_eq_none beyond.le
    have absent
        : (satellite.transports ++ [{ reconnected := delayMs.isSome }])[index]? = none :=
      List.getElem?_eq_none (by simpa using Nat.succ_le_of_lt beyond)
    simp only [older, absent, beyond.ne', or_false]

/-- Only the current transport ceases to be live when the client disconnects. -/
theorem isLive_disconnect (satellite : DysonSatellite) (index : Nat)
    : satellite.disconnect.IsLive index
      ↔ satellite.IsLive index ∧ satellite.transport ≠ some index := by
  unfold IsLive disconnect
  cases found : satellite.transport with
  | none => simp
  | some current =>
      by_cases same : current = index
      · subst same
        suffices ∀ transport : Transport,
            (if transport.isLive then { transport with status := .closing }
              else transport).isLive = false by
          simp [closeTransport, this]
        intro transport
        cases live : transport.isLive with
        | false => simpa using live
        | true => simp [Transport.isLive]
      · simp [closeTransport, same]

theorem isLive_closed (satellite : DysonSatellite) (moved index : Nat)
    : (satellite.moveTransport moved .closed).IsLive index
      ↔ satellite.IsLive index ∧ index ≠ moved := by
  unfold IsLive moveTransport
  by_cases same : moved = index
  · subst same
    simp [Transport.isLive]
  · simp [same, Ne.symm same]

theorem isLive_opened {satellite : DysonSatellite} {moved : Nat}
    (connecting : satellite.transports[moved]?.map Transport.status = some .connecting)
    (index : Nat)
    : (satellite.moveTransport moved .opened).IsLive index ↔ satellite.IsLive index := by
  unfold IsLive moveTransport
  by_cases same : moved = index
  · subst same
    obtain ⟨transport, found, status⟩ := Option.map_eq_some_iff.mp connecting
    simp [Transport.isLive, found, status]
  · simp [same]

theorem resumeConnect_reconnectAttempt (satellite : DysonSatellite) (session : Json)
    (accepted : Bool)
    : (satellite.resumeConnect session accepted).1.reconnectAttempt
      = satellite.reconnectAttempt := by
  cases session <;> cases accepted <;> rfl

/-- A reconnect loop ends with the test of its condition once the client is disconnected. -/
theorem attemptReconnect_disconnected (options : SatelliteOptions)
    {satellite : DysonSatellite} (closed : satellite.closed = true)
    : satellite.attemptReconnect options = (satellite, []) :=
  if_pos closed

theorem resumeReconnect_disconnected (options : SatelliteOptions)
    {satellite : DysonSatellite} (closed : satellite.closed = true) (delayMs : Rat)
    (accepted : Bool)
    : satellite.resumeReconnect options delayMs accepted = (satellite, []) :=
  if_pos closed

/-- A reconnect loop with attempts left goes to sleep. -/
theorem attemptReconnect_sleeps {options : SatelliteOptions} {satellite : DysonSatellite}
    (connected : satellite.closed = false)
    (more : satellite.reconnectAttempt < options.maxReconnectAttempts)
    : satellite.attemptReconnect options = (satellite.sleepBeforeAttempt options, []) := by
  simp only [attemptReconnect, connected, more, if_true]
  rfl

/-- A reconnect loop ends because the client is disconnected, sleeps, or gives up. -/
theorem attemptReconnect_cases (options : SatelliteOptions) (satellite : DysonSatellite)
    : satellite.closed = true ∧ satellite.attemptReconnect options = (satellite, [])
      ∨ satellite.closed = false
        ∧ satellite.reconnectAttempt < options.maxReconnectAttempts
        ∧ satellite.attemptReconnect options = (satellite.sleepBeforeAttempt options, [])
      ∨ satellite.closed = false
        ∧ options.maxReconnectAttempts ≤ satellite.reconnectAttempt
        ∧ satellite.attemptReconnect options
          = (
              satellite,
              [
                .onError
                  ("Failed to reconnect after " ++ toString options.maxReconnectAttempts
                    ++ " attempts.")
              ]
            ) := by
  unfold attemptReconnect
  cases closed : satellite.closed with
  | true => exact Or.inl ⟨rfl, rfl⟩
  | false =>
      rcases Nat.lt_or_ge satellite.reconnectAttempt options.maxReconnectAttempts
        with more | spent
      · have sleeps := attemptReconnect_sleeps closed more
        rw [attemptReconnect, closed] at sleeps
        exact Or.inr (Or.inl ⟨rfl, more, sleeps⟩)
      · exact Or.inr (Or.inr ⟨rfl, spent, by simp [spent]⟩)

/-- A reconnect loop that wakes ends because the client is disconnected, opens a transport, or
fails at it and goes on.
-/
theorem resumeReconnect_cases (options : SatelliteOptions) (satellite : DysonSatellite)
    (delayMs : Rat) (accepted : Bool)
    : satellite.closed = true
      ∧ satellite.resumeReconnect options delayMs accepted = (satellite, [])
      ∨ satellite.closed = false
        ∧ (∃ session,
            satellite.session = some session
            ∧ isTruthy session = true
            ∧ accepted = true
            ∧ satellite.resumeReconnect options delayMs accepted
              = (
                  {
                    (satellite.openTransport (wsEndpoint session) (some delayMs)).1 with
                    reconnectAttempt := 0
                  },
                  (satellite.openTransport (wsEndpoint session) (some delayMs)).2
                ))
      ∨ satellite.closed = false
        ∧ satellite.resumeReconnect options delayMs accepted
          = (
              (satellite.attemptReconnect options).1,
              .attemptFailed delayMs :: (satellite.attemptReconnect options).2
            ) := by
  unfold resumeReconnect
  cases closed : satellite.closed with
  | true => exact Or.inl ⟨rfl, rfl⟩
  | false =>
      cases usable : satellite.session.filter isTruthy with
      | none => exact Or.inr (Or.inr ⟨rfl, rfl⟩)
      | some session =>
          cases accepted with
          | false => exact Or.inr (Or.inr ⟨rfl, rfl⟩)
          | true =>
              obtain ⟨present, truthy⟩ := Option.filter_eq_some_iff.mp usable
              exact Or.inr (Or.inl ⟨rfl, session, present, truthy, rfl, rfl⟩)

/-- A property of a client outlasts a reconnect loop that goes on, if it outlasts the loop's
going to sleep.
-/
theorem attemptReconnect_keeps (Holds : DysonSatellite → Prop) {options : SatelliteOptions}
    {satellite : DysonSatellite} (here : Holds satellite)
    (asleep
      : satellite.closed = false
        → satellite.reconnectAttempt < options.maxReconnectAttempts
        → Holds (satellite.sleepBeforeAttempt options))
    : Holds (satellite.attemptReconnect options).1 := by
  rcases satellite.attemptReconnect_cases options
    with ⟨_, result⟩ | ⟨connected, more, result⟩ | ⟨_, _, result⟩
  · rwa [result]
  · rw [result]
    exact asleep connected more
  · rwa [result]

/-- It outlasts a loop that wakes, if it also outlasts a new transport. -/
theorem resumeReconnect_keeps (Holds : DysonSatellite → Prop) {options : SatelliteOptions}
    {satellite : DysonSatellite} (delayMs : Rat) (accepted : Bool) (here : Holds satellite)
    (opened
      : satellite.closed = false
        → ∀ session,
            Holds
              {
                (satellite.openTransport (wsEndpoint session) (some delayMs)).1 with
                reconnectAttempt := 0
              })
    (asleep
      : satellite.closed = false
        → satellite.reconnectAttempt < options.maxReconnectAttempts
        → Holds (satellite.sleepBeforeAttempt options))
    : Holds (satellite.resumeReconnect options delayMs accepted).1 := by
  rcases satellite.resumeReconnect_cases options delayMs accepted
    with ⟨_, result⟩ | ⟨connected, session, _, _, _, result⟩ | ⟨_, result⟩
  · rwa [result]
  · rw [result]
    exact opened connected session
  · rw [result]
    exact attemptReconnect_keeps Holds here asleep

/-- A close event finds its transport not yet closed. The application hears of it, and a
reconnect loop begins.
-/
theorem step_transportClosed {options : SatelliteOptions} {satellite next : DysonSatellite}
    {index : Nat} {reason : String} {effects : List ConnectionEffect}
    (stepped
      : satellite.step options (.transportClosed index reason) = some (next, effects))
    : (∃ transport,
        satellite.transports[index]? = some transport ∧ transport.status ≠ .closed)
      ∧ ((satellite.moveTransport index .closed).attemptReconnect options).1 = next
      ∧ .onDisconnect reason
          :: ((satellite.moveTransport index .closed).attemptReconnect options).2
        = effects := by
  unfold step at stepped
  cases found : satellite.transports[index]? with
  | none => simp [found] at stepped
  | some transport =>
      simp only [found] at stepped
      obtain ⟨unclosed, same⟩ := Option.ite_none_left_eq_some.mp stepped
      obtain ⟨state, output⟩ := Prod.mk.inj (Option.some.inj same)
      exact ⟨⟨transport, rfl, unclosed⟩, state, output⟩

/-- A sleep that expires is one of a suspended loop, which resumes after its timer. -/
theorem step_sleepExpired {options : SatelliteOptions} {satellite : DysonSatellite}
    {loop : Nat} {accepted : Bool} {result : DysonSatellite × List ConnectionEffect}
    (stepped : satellite.step options (.sleepExpired loop accepted) = some result)
    : ∃ delayMs,
        satellite.sleeping[loop]? = some delayMs
        ∧ (satellite.endSleep loop).resumeReconnect options (timerDelay (.finite delayMs))
            accepted
          = result := by
  unfold step at stepped
  cases found : satellite.sleeping[loop]? with
  | none => simp [found] at stepped
  | some delayMs =>
      simp only [found] at stepped
      exact ⟨delayMs, rfl, Option.some.inj stepped⟩

/-- A sleep of a connected client with a session may end in a new transport. -/
theorem step_reconnects {satellite : DysonSatellite} {delayMs : Rat} {rest : List Rat}
    {session : Json} (options : SatelliteOptions) (connected : satellite.closed = false)
    (sleeping : satellite.sleeping = delayMs :: rest)
    (present : satellite.session = some session) (truthy : isTruthy session = true)
    : satellite.step options (.sleepExpired 0 true)
      = some
        (
          {
            ((satellite.endSleep 0).openTransport (wsEndpoint session)
              (some (timerDelay (.finite delayMs)))).1 with
            reconnectAttempt := 0
          },
          ((satellite.endSleep 0).openTransport (wsEndpoint session)
            (some (timerDelay (.finite delayMs)))).2
        ) := by
  have usable : (satellite.endSleep 0).session.filter isTruthy = some session :=
    Option.filter_eq_some_iff.mpr ⟨present, truthy⟩
  have awake : (satellite.endSleep 0).closed = false := connected
  simp only [step, sleeping, List.getElem?_cons_zero, resumeReconnect, usable, awake]
  rfl

/-- The close event of a live transport sends a loop with attempts left to sleep. -/
theorem step_loses {options : SatelliteOptions} {satellite : DysonSatellite} {index : Nat}
    (reason : String) (live : satellite.IsLive index) (connected : satellite.closed = false)
    (more : satellite.reconnectAttempt < options.maxReconnectAttempts)
    : satellite.step options (.transportClosed index reason)
      = some
        (
          (satellite.moveTransport index .closed).sleepBeforeAttempt options,
          [.onDisconnect reason]
        ) := by
  obtain ⟨transport, found, live⟩ := live
  have unclosed : transport.status ≠ .closed := by
    intro closed
    simp [Transport.isLive, closed] at live
  have moved : (satellite.moveTransport index .closed).closed = false := connected
  simp only [step, found, if_neg unclosed, onClose, attemptReconnect_sleeps moved more]

end DysonSatellite

end Intellisphere.Client
