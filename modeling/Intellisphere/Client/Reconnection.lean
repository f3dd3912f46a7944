import Intellisphere.Client.TransportOwnership

/-! After an unexpected close the client makes a bounded number of attempts at a new
transport, each after twice the delay of the one before, and reports that it gave up. It
starts counting again whenever it has created a transport, so all of this ends with the first
new transport that closes without having opened.
-/

namespace Intellisphere.Client

open Intellisphere.Foundation

/-- An attempt at a new transport with the delay before it, which is none in `connect`. -/
def ConnectionEffect.attempt? : ConnectionEffect → Option (Option Rat)
  | .transportCreated _ _ delayMs => some delayMs
  | .attemptFailed delayMs => some (some delayMs)
  | _ => none

def ConnectionEffect.created? : ConnectionEffect → Option Nat
  | .transportCreated index _ _ => some index
  | _ => none

/-- The attempts of a trace in order. -/
def attempts (trace : ConnectionTrace) : List (Option Rat) :=
  trace.flatMap (fun entry => entry.2.filterMap ConnectionEffect.attempt?)

/-- The transports a trace creates. -/
def created (trace : ConnectionTrace) : List Nat :=
  trace.flatMap (fun entry => entry.2.filterMap ConnectionEffect.created?)

@[simp]
theorem attempts_append (earlier later : ConnectionTrace)
    : attempts (earlier ++ later) = attempts earlier ++ attempts later :=
  List.flatMap_append

@[simp]
theorem attempts_singleton (entry : ConnectionEvent × List ConnectionEffect)
    : attempts [entry] = entry.2.filterMap ConnectionEffect.attempt? :=
  List.flatMap_singleton _ _

@[simp]
theorem created_singleton (entry : ConnectionEvent × List ConnectionEffect)
    : created [entry] = entry.2.filterMap ConnectionEffect.created? :=
  List.flatMap_singleton _ _

@[simp]
theorem created_append (earlier later : ConnectionTrace)
    : created (earlier ++ later) = created earlier ++ created later :=
  List.flatMap_append

/-- An entry without attempts adds none. -/
theorem attempts_idle (trace : ConnectionTrace) (event : ConnectionEvent)
    {effects : List ConnectionEffect}
    (none : effects.filterMap ConnectionEffect.attempt? = [])
    : attempts (trace ++ [(event, effects)]) = attempts trace := by
  rw [attempts_append, attempts_singleton, none, List.append_nil]

/-- The events of a trace with the effects of each after it. -/
def shown (trace : ConnectionTrace) : List (ConnectionEvent ⊕ ConnectionEffect) :=
  trace.flatMap (fun entry => .inl entry.1 :: entry.2.map .inr)

/-- An attempt fails, or a transport that an attempt created closes. -/
def IsFailure (recent : List Nat) : ConnectionEvent ⊕ ConnectionEffect → Prop
  | .inl (.transportClosed index _) => index ∈ recent
  | .inr (.attemptFailed _) => True
  | _ => False

/-- After the last failure the client reports that reconnecting failed. -/
def Reported (options : SatelliteOptions) (trace : ConnectionTrace) : Prop :=
  ∃ before after,
    shown trace
      = before
        ++ .inr
            (.onError
              ("Failed to reconnect after " ++ toString options.maxReconnectAttempts
                ++ " attempts."))
          :: after
    ∧ ∀ item ∈ after, ¬IsFailure (created trace) item

/-- Delays that double from the base delay on. -/
def backoff (options : SatelliteOptions) (count : Nat) : List (Option Rat) :=
  (List.range count).map (fun index => some (options.reconnectBaseDelayMs * 2 ^ index))

/-- An entry without attempts creates nothing. -/
theorem created_idle (trace : ConnectionTrace) (event : ConnectionEvent)
    {effects : List ConnectionEffect}
    (none : effects.filterMap ConnectionEffect.attempt? = [])
    : created (trace ++ [(event, effects)]) = created trace := by
  have nothing : effects.filterMap ConnectionEffect.created? = [] := by
    rw [List.filterMap_eq_nil_iff] at none ⊢
    intro effect member
    have idle := none effect member
    cases effect <;> simp_all [ConnectionEffect.attempt?, ConnectionEffect.created?]
  rw [created_append, created_singleton, nothing, List.append_nil]

/-- A report stays the last word as long as there are no further attempts. -/
theorem Reported.extend {options : SatelliteOptions} {trace : ConnectionTrace}
    (reported : Reported options trace) (uncreated : created trace = [])
    (event : ConnectionEvent) {effects : List ConnectionEffect}
    (none : effects.filterMap ConnectionEffect.attempt? = [])
    : Reported options (trace ++ [(event, effects)]) := by
  obtain ⟨before, after, whole, last⟩ := reported
  refine ⟨before, after ++ .inl event :: effects.map .inr, ?_, ?_⟩
  · simp only [shown] at whole ⊢
    rw [List.flatMap_append, whole]
    simp
  · rw [created_idle trace event none]
    intro item member
    rcases List.mem_append.mp member with earlier | recent
    · exact last item earlier
    · rw [uncreated]
      rcases List.mem_cons.mp recent with rfl | outcome
      · cases event <;> simp [IsFailure]
      · obtain ⟨effect, shows, rfl⟩ := List.mem_map.mp outcome
        have idle := List.filterMap_eq_nil_iff.mp none effect shows
        cases effect <;> simp_all [IsFailure, ConnectionEffect.attempt?]

/-- No transport that a reconnect created closes in a connected client without having
opened, unless there are to be no reconnects; and every delay is one that a timer keeps.
-/
def DysonSatellite.Lasting (options : SatelliteOptions) (satellite : DysonSatellite)
    : ConnectionEvent → Prop
  | .transportClosed index _ =>
      satellite.closed = false
      → 0 < options.maxReconnectAttempts
      → ∀ transport,
          satellite.transports[index]? = some transport
          → transport.reconnected = true
          → transport.status ≠ .connecting
  | .sleepExpired loop _ =>
      satellite.closed = false
      → ∀ delayMs,
          satellite.sleeping[loop]? = some delayMs
          → timerDelay (.finite delayMs) = delayMs
  | _ => True

theorem backoff_length (options : SatelliteOptions) (count : Nat)
    : (backoff options count).length = count := by
  simp [backoff]

theorem backoff_succ (options : SatelliteOptions) (count : Nat)
    : backoff options (count + 1)
      = backoff options count ++ [some (options.reconnectBaseDelayMs * 2 ^ count)] := by
  simp [backoff, List.range_succ]

namespace DysonSatellite

variable {options : SatelliteOptions} {satellite : DysonSatellite}

/-- A client that has or awaits a transport counts its attempts from zero. -/
def Rested (satellite : DysonSatellite) : Prop :=
  satellite.closed = false
  → (satellite.pendingSessions ≠ 0 ∨ ∃ index, satellite.IsLive index)
  → satellite.reconnectAttempt = 0

/-- A quiet client has no transport and awaits none. -/
theorem QuietBut.idle (quiet : satellite.QuietBut none)
    : ¬(satellite.pendingSessions ≠ 0 ∨ ∃ index, satellite.IsLive index) := by
  intro outstanding
  rcases outstanding with pending | ⟨index, live⟩
  · exact pending quiet.answered
  · exact quiet.none_live index live

theorem QuietBut.rested (quiet : satellite.QuietBut none) : satellite.Rested :=
  fun _ outstanding => (quiet.idle outstanding).elim

/-- A loop that goes to sleep while the client is quiet leaves the count to itself. -/
theorem QuietBut.rested_asleep (options : SatelliteOptions) (quiet : satellite.QuietBut none)
    : (satellite.sleepBeforeAttempt options).Rested :=
  fun _ outstanding => (quiet.idle outstanding).elim

/-- Orderly events keep a client rested, by cases on the event. -/
theorem Rested.step {next : DysonSatellite} {event : ConnectionEvent}
    {effects : List ConnectionEffect} (rested : satellite.Rested)
    (owner : satellite.SingleOwner) (orderly : satellite.Orderly options event)
    (stepped : satellite.step options event = some (next, effects))
    : next.Rested := by
  cases event with
  | connect =>
      obtain ⟨rfl, _⟩ := Prod.mk.inj (Option.some.inj stepped)
      exact fun _ _ => rfl
  | sessionFetched session accepted =>
      obtain ⟨pending, result⟩ := Option.ite_none_left_eq_some.mp stepped
      have count : satellite.reconnectAttempt = 0 := by
        cases closed : satellite.closed with
        | true => exact (pending (owner.disconnected closed).1).elim
        | false => exact rested closed (Or.inl pending)
      have same : next.reconnectAttempt = satellite.reconnectAttempt := by
        rw [← resumeConnect_reconnectAttempt satellite session accepted,
          Option.some.inj result]
      exact fun _ _ => same.trans count
  | sessionFailed =>
      obtain ⟨pending, result⟩ := Option.ite_none_left_eq_some.mp stepped
      obtain ⟨rfl, _⟩ := Prod.mk.inj (Option.some.inj result)
      exact (owner.quiet_of_pending pending).rested
  | disconnect =>
      obtain ⟨rfl, _⟩ := Prod.mk.inj (Option.some.inj stepped)
      exact fun closed => by simp [DysonSatellite.disconnect] at closed
  | transportOpened index =>
      obtain ⟨connecting, result⟩ := Option.ite_none_right_eq_some.mp stepped
      obtain ⟨rfl, _⟩ := Prod.mk.inj (Option.some.inj result)
      intro connected outstanding
      refine rested connected (outstanding.imp_right ?_)
      exact fun ⟨other, live⟩ => ⟨other, (isLive_opened connecting other).mp live⟩
  | transportClosed index reason =>
      obtain ⟨_, rfl, _⟩ := step_transportClosed stepped
      refine attemptReconnect_keeps Rested ?_ ?_
      · intro connected outstanding
        refine rested connected (outstanding.imp_right ?_)
        exact fun ⟨other, live⟩ => ⟨other, ((isLive_closed satellite index other).mp live).1⟩
      · intro connected more
        exact (orderly connected more).closed.rested_asleep options
  | sleepExpired loop accepted =>
      obtain ⟨delayMs, sleeping, result⟩ := step_sleepExpired stepped
      have quiet := owner.quiet_of_sleeping sleeping
      have kept := resumeReconnect_keeps Rested (timerDelay (.finite delayMs)) accepted
        quiet.rested (fun _ _ _ _ => rfl) (fun _ _ => quiet.rested_asleep options)
      rwa [result] at kept

/-- Where a client can be after an unexpected close: asleep before its next attempt, with a
new transport that is not open yet, at the end of its attempts, or disconnected.
-/
inductive Reconnecting (options : SatelliteOptions) (trace : ConnectionTrace)
    (satellite : DysonSatellite) : Prop where
  | asleep (connected : satellite.closed = false)
    (sleeping
      : satellite.sleeping
        = [options.reconnectBaseDelayMs * 2 ^ (attempts trace).length])
    (count : satellite.reconnectAttempt = (attempts trace).length + 1)
    (more : (attempts trace).length < options.maxReconnectAttempts)
    (uncreated : created trace = [])
  | opening (index : Nat) (connected : satellite.closed = false)
    (recent : index ∈ created trace)
    (found
      : satellite.transports[index]?
        = some { status := .connecting, reconnected := true })
    (started : 0 < (attempts trace).length)
    (bounded : (attempts trace).length ≤ options.maxReconnectAttempts)
  | gaveUp (quiet : satellite.QuietBut none)
    (spent : options.maxReconnectAttempts ≤ satellite.reconnectAttempt)
    (bounded : (attempts trace).length ≤ options.maxReconnectAttempts)
    (uncreated : created trace = []) (reported : Reported options trace)
  | stopped (closed : satellite.closed = true)
    (disconnected : ∃ entry ∈ trace, entry.1 = .disconnect)
    (bounded : (attempts trace).length ≤ options.maxReconnectAttempts)

variable {trace : ConnectionTrace}

theorem Reconnecting.bounded (phase : Reconnecting options trace satellite)
    : (attempts trace).length ≤ options.maxReconnectAttempts := by
  cases phase with
  | asleep _ _ _ more _ => exact more.le
  | opening _ _ _ _ _ bounded => exact bounded
  | gaveUp _ _ bounded _ _ => exact bounded
  | stopped _ _ bounded => exact bounded

/-- No request for a session is unanswered while a client reconnects. -/
theorem Reconnecting.answered (phase : Reconnecting options trace satellite)
    (owner : satellite.SingleOwner)
    : satellite.pendingSessions = 0 := by
  cases phase with
  | asleep _ sleeping _ _ _ =>
      have single := owner.single
      rw [sleeping, List.length_singleton] at single
      omega
  | opening index _ _ found _ _ => exact (owner.exclusive index ⟨_, found, rfl⟩).1
  | gaveUp quiet _ _ _ _ => exact quiet.answered
  | stopped closed _ _ => exact (owner.disconnected closed).1

/-- A live transport of a client that reconnects is its new one. -/
theorem Reconnecting.created_of_live (phase : Reconnecting options trace satellite)
    (owner : satellite.SingleOwner) {index : Nat} (live : satellite.IsLive index)
    : index ∈ created trace := by
  cases phase with
  | asleep _ sleeping _ _ _ =>
      have awake := (owner.exclusive index live).2
      simp [sleeping] at awake
  | opening recent _ member found _ _ =>
      have same := (owner.owned index live).symm.trans (owner.owned recent ⟨_, found, rfl⟩)
      rwa [Option.some.inj same]
  | gaveUp quiet _ _ _ _ => exact (quiet.none_live index live).elim
  | stopped closed _ _ => exact ((owner.disconnected closed).2 index live).elim

/-- A loop that goes on tries nothing at once. -/
theorem attemptReconnect_attempts (options : SatelliteOptions) (satellite : DysonSatellite)
    : (satellite.attemptReconnect options).2.filterMap ConnectionEffect.attempt? = [] := by
  rcases satellite.attemptReconnect_cases options
    with ⟨_, result⟩ | ⟨_, _, result⟩ | ⟨_, _, result⟩ <;>
    simp [result, ConnectionEffect.attempt?]

theorem onClose_attempts (options : SatelliteOptions) (satellite : DysonSatellite)
    (reason : String)
    : (.onDisconnect reason :: (satellite.attemptReconnect options).2).filterMap
        ConnectionEffect.attempt?
      = [] :=
  attemptReconnect_attempts options satellite

theorem onClose_created (options : SatelliteOptions) (satellite : DysonSatellite)
    (reason : String)
    : (.onDisconnect reason :: (satellite.attemptReconnect options).2).filterMap
        ConnectionEffect.created?
      = [] := by
  rcases satellite.attemptReconnect_cases options
    with ⟨_, result⟩ | ⟨_, _, result⟩ | ⟨_, _, result⟩ <;>
    simp [result, ConnectionEffect.created?]

/-- A failed attempt is one, and going on makes no other. -/
theorem attemptFailed_attempts (options : SatelliteOptions) (satellite : DysonSatellite)
    (delayMs : Rat)
    : (.attemptFailed delayMs :: (satellite.attemptReconnect options).2).filterMap
        ConnectionEffect.attempt?
      = [some delayMs] := by
  simp [ConnectionEffect.attempt?, attemptReconnect_attempts]

/-- A new transport is one attempt, whether or not the application hears of it. -/
theorem openTransport_attempts (satellite : DysonSatellite) (wsEndpoint : Option Json)
    (delayMs : Option Rat)
    : (satellite.openTransport wsEndpoint delayMs).2.filterMap ConnectionEffect.attempt?
      = [delayMs]
      ∧ (satellite.openTransport wsEndpoint delayMs).2.filterMap ConnectionEffect.created?
        = [satellite.transports.length] := by
  unfold openTransport
  cases satellite.session.filter isTruthy <;>
    simp [ConnectionEffect.attempt?, ConnectionEffect.created?]

theorem openTransport_silent (satellite : DysonSatellite) (wsEndpoint : Option Json)
    (delayMs : Option Rat) (message : String)
    : .onError message ∉ (satellite.openTransport wsEndpoint delayMs).2 := by
  unfold openTransport
  cases satellite.session.filter isTruthy <;> simp

/-- A loop that has nothing else outstanding sleeps before the next attempt, or reports that
there is none left.
-/
theorem Reconnecting.of_loop (quiet : satellite.QuietBut none)
    (connected : satellite.closed = false)
    (count : satellite.reconnectAttempt = (attempts trace).length)
    (bounded : (attempts trace).length ≤ options.maxReconnectAttempts)
    (uncreated : created trace = [])
    (looped
      : ∃ earlier event before,
          trace = earlier ++ [(event, before ++ (satellite.attemptReconnect options).2)])
    : Reconnecting options trace (satellite.attemptReconnect options).1 := by
  obtain ⟨earlier, event, before, whole⟩ := looped
  rcases satellite.attemptReconnect_cases options
    with ⟨closed, _⟩ | ⟨_, more, result⟩ | ⟨_, spent, result⟩
  · simp [connected] at closed
  · rw [result]
    rw [count] at more
    exact .asleep connected (by simp [sleepBeforeAttempt, quiet.awake, count])
      (by simp [sleepBeforeAttempt, count]) more uncreated
  · have reported : Reported options trace := by
      refine ⟨shown earlier ++ .inl event :: before.map .inr, [], ?_, by simp⟩
      rw [whole, result]
      simp [shown]
    rw [result]
    exact .gaveUp quiet spent bounded uncreated reported

/-- An entry without attempts changes nothing about where the client is. -/
theorem Reconnecting.extend (phase : Reconnecting options trace satellite)
    (event : ConnectionEvent) {effects : List ConnectionEffect}
    (none : effects.filterMap ConnectionEffect.attempt? = [])
    : Reconnecting options (trace ++ [(event, effects)]) satellite := by
  have same := attempts_idle trace event none
  have still := created_idle trace event none
  cases phase with
  | asleep connected sleeping count more uncreated =>
      exact .asleep connected (by rwa [same]) (by rwa [same]) (by rwa [same])
        (still.trans uncreated)
  | opening index connected recent found started bounded =>
      exact .opening index connected (by simp [recent]) found (by rwa [same]) (by rwa [same])
  | gaveUp quiet spent bounded uncreated reported =>
      exact .gaveUp quiet spent (by rwa [same]) (still.trans uncreated)
        (reported.extend uncreated event none)
  | stopped closed disconnected bounded =>
      obtain ⟨entry, member, disconnect⟩ := disconnected
      exact .stopped closed ⟨entry, List.mem_append_left _ member, disconnect⟩
        (by rwa [same])

/-- Close events of other transports leave the client where it is, and its new transport
does not close, by cases on where it is.
-/
theorem Reconnecting.closed (phase : Reconnecting options trace satellite) {index : Nat}
    {reason : String} (orderly : satellite.Orderly options (.transportClosed index reason))
    (lasting : satellite.Lasting options (.transportClosed index reason))
    : Reconnecting options trace
        ((satellite.moveTransport index .closed).attemptReconnect options).1 := by
  have fewer (other : Nat) (live : (satellite.moveTransport index .closed).IsLive other)
      : satellite.IsLive other :=
    ((isLive_closed satellite index other).mp live).1
  have moves (here : Reconnecting options trace (satellite.moveTransport index .closed))
      (never
        : satellite.closed = false
          → ¬satellite.reconnectAttempt < options.maxReconnectAttempts)
      : Reconnecting options trace
          ((satellite.moveTransport index .closed).attemptReconnect options).1 :=
    attemptReconnect_keeps (Reconnecting options trace) here
      (fun connected more => (never connected more).elim)
  cases phase with
  | asleep connected sleeping count more uncreated =>
      refine moves (.asleep connected sleeping count more uncreated) ?_
      intro _ remaining
      have awake := (orderly connected remaining).awake
      simp [sleeping] at awake
  | opening recent connected member found started bounded =>
      have other : index ≠ recent := by
        intro same
        exact lasting connected (started.trans_le bounded) _ (same ▸ found) rfl rfl
      have kept
          : (satellite.moveTransport index .closed).transports[recent]?
            = some { status := .connecting, reconnected := true } := by
        simpa [DysonSatellite.moveTransport, other] using found
      refine moves (.opening recent connected member kept started bounded) ?_
      intro _ remaining
      have quiet := orderly connected remaining
      exact other (Option.some.inj (quiet.dead recent ⟨_, found, rfl⟩)).symm
  | gaveUp quiet spent bounded uncreated reported =>
      have still : (satellite.moveTransport index .closed).QuietBut none :=
        ⟨quiet.answered, quiet.awake,
          fun other live => (quiet.none_live other (fewer other live)).elim⟩
      exact moves (.gaveUp still spent bounded uncreated reported)
        (fun _ => Nat.not_lt.mpr spent)
  | stopped closed disconnected bounded =>
      refine moves (.stopped closed disconnected bounded) ?_
      intro connected
      exact (Bool.false_ne_true (connected.symm.trans closed)).elim

/-- One more attempt after the next delay. -/
theorem attempts_grown (delayed : attempts trace = backoff options (attempts trace).length)
    (event : ConnectionEvent) {effects : List ConnectionEffect}
    (attempted
      : effects.filterMap ConnectionEffect.attempt?
        = [some (options.reconnectBaseDelayMs * 2 ^ (attempts trace).length)])
    : attempts (trace ++ [(event, effects)])
      = backoff options ((attempts trace).length + 1) := by
  rw [attempts_append, attempts_singleton, attempted, backoff_succ, ← delayed]

/-- A new transport of a reconnect is not open yet. -/
theorem Reconnecting.of_opened {earlier : ConnectionTrace}
    (connected : satellite.closed = false) (wsEndpoint : Option Json) (delayMs : Rat)
    (created
      : ∃ event,
          trace
          = earlier ++ [(event, (satellite.openTransport wsEndpoint (some delayMs)).2)])
    (bounded : (attempts trace).length ≤ options.maxReconnectAttempts)
    : Reconnecting options trace
        {
          (satellite.openTransport wsEndpoint (some delayMs)).1 with
          reconnectAttempt := 0
        } := by
  obtain ⟨event, whole⟩ := created
  obtain ⟨attempted, recent⟩ := openTransport_attempts satellite wsEndpoint (some delayMs)
  refine .opening satellite.transports.length connected ?_ (by simp [openTransport]) ?_ bounded
  · rw [whole, created_append, created_singleton, recent]
    exact List.mem_append_right _ (List.mem_singleton_self _)
  · rw [whole, attempts_append, attempts_singleton, attempted]
    simp

/-- An expiring sleep makes the next attempt, if the client is still connected. -/
theorem Reconnecting.woken (phase : Reconnecting options trace satellite)
    (owner : satellite.SingleOwner) {loop : Nat} {delayMs : Rat}
    (sleeping : satellite.sleeping[loop]? = some delayMs)
    (kept : satellite.closed = false → timerDelay (.finite delayMs) = delayMs)
    (accepted : Bool) {next : DysonSatellite} {effects : List ConnectionEffect}
    (resumed
      : (satellite.endSleep loop).resumeReconnect options (timerDelay (.finite delayMs))
          accepted
        = (next, effects))
    (delayed : attempts trace = backoff options (attempts trace).length)
    : Reconnecting options (trace ++ [(.sleepExpired loop accepted, effects)]) next
      ∧ attempts (trace ++ [(.sleepExpired loop accepted, effects)])
        = backoff options
            (attempts (trace ++ [(.sleepExpired loop accepted, effects)])).length := by
  have quiet := owner.quiet_of_sleeping sleeping
  cases phase with
  | asleep connected only count more uncreated =>
      have awake : (satellite.endSleep loop).closed = false := connected
      obtain rfl
          : options.reconnectBaseDelayMs * 2 ^ (attempts trace).length = delayMs := by
        rw [only] at sleeping
        cases loop with
        | zero => exact Option.some.inj sleeping
        | succ loop => simp at sleeping
      rw [kept connected] at resumed
      rcases (satellite.endSleep loop).resumeReconnect_cases options
          (options.reconnectBaseDelayMs * 2 ^ (attempts trace).length) accepted
        with ⟨closed, _⟩ | ⟨_, session, _, _, _, same⟩ | ⟨_, same⟩
      · exact (Bool.false_ne_true (awake.symm.trans closed)).elim
      · rw [same] at resumed
        obtain ⟨rfl, rfl⟩ := Prod.mk.inj resumed
        have now := attempts_grown delayed (.sleepExpired loop accepted)
          (openTransport_attempts (satellite.endSleep loop) (wsEndpoint session) _).1
        refine ⟨.of_opened awake _ _ ⟨_, rfl⟩ ?_, ?_⟩
        · rw [now, backoff_length]
          exact more
        · rw [now, backoff_length]
      · rw [same] at resumed
        obtain ⟨rfl, rfl⟩ := Prod.mk.inj resumed
        have now := attempts_grown delayed (.sleepExpired loop accepted)
          (attemptFailed_attempts options (satellite.endSleep loop) _)
        have nothing := onClose_created options (satellite.endSleep loop) ""
        refine ⟨.of_loop quiet awake ?_ ?_ ?_ ⟨trace, _, [_], rfl⟩, ?_⟩
        · rw [now, backoff_length]
          exact count
        · rw [now, backoff_length]
          exact more
        · rw [created_append, created_singleton, uncreated]
          exact nothing
        · rw [now, backoff_length]
  | opening index connected member found started bounded =>
      simp [(owner.exclusive index ⟨_, found, rfl⟩).2] at sleeping
  | gaveUp quiet spent bounded uncreated reported => simp [quiet.awake] at sleeping
  | stopped closed disconnected bounded =>
      have ended : (satellite.endSleep loop).closed = true := closed
      rw [resumeReconnect_disconnected options ended] at resumed
      obtain ⟨rfl, rfl⟩ := Prod.mk.inj resumed
      have still : Reconnecting options trace (satellite.endSleep loop) :=
        .stopped closed disconnected bounded
      exact ⟨still.extend _ rfl, by simpa using delayed⟩

/-- The attempts so far came after the right delays, and the client is where they lead. -/
structure BacksOff (options : SatelliteOptions) (trace : ConnectionTrace)
    (satellite : DysonSatellite) : Prop where
  owner : satellite.SingleOwner
  delayed : attempts trace = backoff options (attempts trace).length
  phase : Reconnecting options trace satellite

/-- Every event but `connect` and the opening of a new transport keeps a client backing off,
by cases on the event.
-/
theorem BacksOff.step {next : DysonSatellite} {event : ConnectionEvent}
    {effects : List ConnectionEffect} (backsOff : BacksOff options trace satellite)
    (orderly : satellite.Orderly options event) (lasting : satellite.Lasting options event)
    (other : event ≠ .connect)
    (unopened : ∀ index ∈ created trace, event ≠ .transportOpened index)
    (stepped : satellite.step options event = some (next, effects))
    : BacksOff options (trace ++ [(event, effects)]) next := by
  have owner := backsOff.owner.step orderly stepped
  have answered := backsOff.phase.answered backsOff.owner
  cases event with
  | connect => exact (other rfl).elim
  | sessionFetched session accepted =>
      obtain ⟨pending, _⟩ := Option.ite_none_left_eq_some.mp stepped
      exact (pending answered).elim
  | sessionFailed =>
      obtain ⟨pending, _⟩ := Option.ite_none_left_eq_some.mp stepped
      exact (pending answered).elim
  | disconnect =>
      obtain ⟨rfl, rfl⟩ := Prod.mk.inj (Option.some.inj stepped)
      have bounded := backsOff.phase.bounded
      have same : attempts (trace ++ [(.disconnect, [])]) = attempts trace :=
        attempts_idle trace .disconnect rfl
      exact ⟨owner, by rw [same]; exact backsOff.delayed,
        .stopped rfl ⟨_, List.mem_append_right _ (List.mem_singleton_self _), rfl⟩
          (by rwa [same])⟩
  | transportOpened index =>
      obtain ⟨connecting, _⟩ := Option.ite_none_right_eq_some.mp stepped
      obtain ⟨transport, found, status⟩ := Option.map_eq_some_iff.mp connecting
      have live : satellite.IsLive index :=
        ⟨transport, found, by simp [Transport.isLive, status]⟩
      exact (unopened index (backsOff.phase.created_of_live backsOff.owner live) rfl).elim
  | transportClosed index reason =>
      obtain ⟨_, rfl, rfl⟩ := step_transportClosed stepped
      have none := onClose_attempts options (satellite.moveTransport index .closed) reason
      exact ⟨owner, by rw [attempts_idle trace _ none]; exact backsOff.delayed,
        (backsOff.phase.closed orderly lasting).extend _ none⟩
  | sleepExpired loop accepted =>
      obtain ⟨delayMs, sleeping, result⟩ := step_sleepExpired stepped
      obtain ⟨phase, delayed⟩ := backsOff.phase.woken backsOff.owner sleeping
        (fun connected => lasting connected delayMs sleeping) accepted result backsOff.delayed
      exact ⟨owner, delayed, phase⟩

/-- The unexpected close of the transport of a client begins to back off. -/
theorem BacksOff.start {next : DysonSatellite} {index : Nat} {reason : String}
    {effects : List ConnectionEffect} (owner : satellite.SingleOwner)
    (rested : satellite.Rested) (live : satellite.IsLive index)
    (connected : satellite.closed = false)
    (orderly : satellite.Orderly options (.transportClosed index reason))
    (stepped : satellite.step options (.transportClosed index reason) = some (next, effects))
    : BacksOff options [(.transportClosed index reason, effects)] next := by
  have kept := owner.step orderly stepped
  obtain ⟨_, rfl, rfl⟩ := step_transportClosed stepped
  obtain ⟨answered, awake⟩ := owner.exclusive index live
  have quiet : satellite.QuietBut (some index) :=
    ⟨answered, awake, fun other alive =>
      (owner.owned other alive).symm.trans (owner.owned index live)⟩
  have none
      : attempts
          [(
            .transportClosed index reason,
            .onDisconnect reason
              :: ((satellite.moveTransport index .closed).attemptReconnect options).2
          )]
        = [] := by
    rw [attempts_singleton, onClose_attempts]
  have count : satellite.reconnectAttempt = 0 := rested connected (Or.inr ⟨index, live⟩)
  refine ⟨kept, by rw [none]; rfl,
    .of_loop quiet.closed connected ?_ ?_ ?_ ⟨[], _, [_], rfl⟩⟩
  · rw [none]
    exact count
  · rw [none]
    exact Nat.zero_le _
  · rw [created_singleton, onClose_created]

end DysonSatellite

/-- Every event is orderly, no transport of a reconnect closes unopened, and timers keep the
delays they are set to.
-/
def LastingTrace (options : SatelliteOptions) (start : DysonSatellite)
    (trace : ConnectionTrace) : Prop :=
  (satelliteConnection options).StepsMeet start trace
    (fun satellite event =>
      satellite.Orderly options event ∧ satellite.Lasting options event)

/-- `connect` is not called, and no transport that the trace creates opens. -/
structure Fruitless (trace : ConnectionTrace) : Prop where
  uninterrupted : ∀ entry ∈ trace, entry.1 ≠ .connect
  unopened
    : ∀ index ∈ created trace, ∀ entry ∈ trace, entry.1 ≠ .transportOpened index

theorem Fruitless.init {trace : ConnectionTrace}
    {entry : ConnectionEvent × List ConnectionEffect}
    (fruitless : Fruitless (trace ++ [entry]))
    : Fruitless trace where
  uninterrupted := fun entry member =>
    fruitless.uninterrupted entry (List.mem_append_left _ member)
  unopened := fun index recent entry member =>
    fruitless.unopened index (by simp [recent]) entry (List.mem_append_left _ member)

/-- A client counts from zero whenever it has or awaits a transport, by induction on the run.
-/
theorem LastingTrace.rested {options : SatelliteOptions} {finish : DysonSatellite}
    {trace : ConnectionTrace} (lasting : LastingTrace options {} trace)
    (run : (satelliteConnection options).Run {} trace finish)
    : finish.SingleOwner ∧ finish.Rested :=
  run.history_of_meets (fun _ satellite => satellite.SingleOwner ∧ satellite.Rested)
    ⟨.initial, fun _ _ => rfl⟩
    (fun _ _ _ _ _ holds meets stepped =>
      ⟨holds.1.step meets.1 stepped, holds.2.step holds.1 meets.1 stepped⟩)
    lasting

/-- A client that begins to back off keeps doing so, by induction on the run. -/
theorem LastingTrace.backsOff {options : SatelliteOptions} {start finish : DysonSatellite}
    {first : ConnectionEvent × List ConnectionEffect} {later : ConnectionTrace}
    (lasting : LastingTrace options start later)
    (run : (satelliteConnection options).Run start later finish)
    (started : DysonSatellite.BacksOff options [first] start)
    (none : created [first] = []) (fruitless : Fruitless later)
    : DysonSatellite.BacksOff options (first :: later) finish := by
  refine run.history_of_meets
    (fun trace satellite =>
      Fruitless trace → DysonSatellite.BacksOff options (first :: trace) satellite)
    (fun _ => started) ?_ lasting fruitless
  intro trace satellite event next effects holds meets stepped fruitless
  have last : (event, effects) ∈ trace ++ [(event, effects)] := by simp
  have same : created (first :: trace) = created trace := by
    rw [← List.singleton_append, created_append, none, List.nil_append]
  refine (holds fruitless.init).step meets.1 meets.2 (fruitless.uninterrupted _ last) ?_
    stepped
  intro index recent
  rw [same] at recent
  exact fruitless.unopened index (by simp [recent]) _ last

/-- A connected client whose reconnect loop sleeps before the first of its attempts. -/
structure Napping (options : SatelliteOptions) (satellite : DysonSatellite) : Prop where
  connected : satellite.closed = false
  sleeping : satellite.sleeping = [options.reconnectBaseDelayMs]
  session : satellite.HasSession

/-- A new transport that closes at once leaves the client where it was before it. -/
theorem Napping.round {options : SatelliteOptions} {satellite : DysonSatellite}
    (napping : Napping options satellite) (allowed : 0 < options.maxReconnectAttempts)
    : ∃ opened next,
        (satelliteConnection options).Run satellite
            [
              (.sleepExpired 0 true, opened),
              (.transportClosed satellite.transports.length "", [.onDisconnect ""])
            ]
            next
        ∧ opened.filterMap ConnectionEffect.attempt?
          = [some (timerDelay (.finite options.reconnectBaseDelayMs))]
        ∧ (∀ message, .onError message ∉ opened)
        ∧ Napping options next := by
  obtain ⟨session, present, truthy⟩ := napping.session
  have reconnects := DysonSatellite.step_reconnects options napping.connected
    napping.sleeping present truthy
  have live
      : DysonSatellite.IsLive
          {
            ((satellite.endSleep 0).openTransport (wsEndpoint session)
              (some (timerDelay (.finite options.reconnectBaseDelayMs)))).1 with
            reconnectAttempt := 0
          }
          satellite.transports.length :=
    (DysonSatellite.isLive_openTransport (satellite.endSleep 0) (wsEndpoint session)
      (some (timerDelay (.finite options.reconnectBaseDelayMs))) _).mpr (Or.inr rfl)
  have loses := DysonSatellite.step_loses "" live napping.connected allowed
  refine ⟨_, _, (Machine.Run.single reconnects).snoc loses,
    (DysonSatellite.openTransport_attempts _ _ _).1,
    DysonSatellite.openTransport_silent _ _ _,
    napping.connected, ?_, ⟨session, present, truthy⟩⟩
  simp [DysonSatellite.sleepBeforeAttempt, DysonSatellite.moveTransport,
    DysonSatellite.openTransport, DysonSatellite.endSleep, napping.sleeping]

/-- If every new transport only closes, reconnecting goes on for any number of rounds after the
base delay, and nothing is reported. By induction on the number of rounds.
-/
theorem Napping.forever {options : SatelliteOptions} {satellite : DysonSatellite}
    (napping : Napping options satellite) (allowed : 0 < options.maxReconnectAttempts)
    (rounds : Nat)
    : ∃ trace finish,
        (satelliteConnection options).Run satellite trace finish
        ∧ (∀ entry ∈ trace, entry.1 ≠ .connect ∧ ∀ index, entry.1 ≠ .transportOpened index)
        ∧ attempts trace
          = List.replicate rounds (some (timerDelay (.finite options.reconnectBaseDelayMs)))
        ∧ (∀ entry ∈ trace, ∀ message, .onError message ∉ entry.2)
        ∧ Napping options finish := by
  induction rounds with
  | zero => exact ⟨[], satellite, .nil satellite, by simp, rfl, by simp, napping⟩
  | succ rounds ih =>
      obtain ⟨trace, middle, run, events, attempted, unreported, again⟩ := ih
      obtain ⟨opened, next, last, attempt, silent, still⟩ := again.round allowed
      refine ⟨_, next, run.trans last, ?_, ?_, ?_, still⟩
      · intro entry member
        rcases List.mem_append.mp member with earlier | recent
        · exact events entry earlier
        · rcases List.mem_pair.mp recent with rfl | rfl <;> simp
      · rw [attempts_append, attempted, List.replicate_succ']
        simp [attempts, attempt, ConnectionEffect.attempt?]
      · intro entry member message
        rcases List.mem_append.mp member with earlier | recent
        · exact unreported entry earlier message
        · rcases List.mem_pair.mp recent with rfl | rfl
          · exact silent message
          · simp

end Intellisphere.Client
