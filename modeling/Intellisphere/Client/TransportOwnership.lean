import Intellisphere.Client.Connection

/-! A client owns at most one live transport, and none while it is disconnected, as long as
nothing that could still open one is outstanding when something else begins to.
-/

namespace Intellisphere.Client

open Intellisphere.Foundation

/-- A new transport comes into being. -/
def ConnectionEffect.isCreation : ConnectionEffect → Bool
  | .transportCreated _ _ _ => true
  | _ => false

namespace DysonSatellite

/-- Nothing is left that is a live transport or could open one: no request for a session is
unanswered, no reconnect loop sleeps, and only the given transport may still be live.
-/
structure QuietBut (satellite : DysonSatellite) (spared : Option Nat) : Prop where
  answered : satellite.pendingSessions = 0
  awake : satellite.sleeping = []
  dead : ∀ index, satellite.IsLive index → some index = spared

/-- The events that leave at most one thing outstanding: `connect` is called on a quiet
client, `disconnect` on one that is not waiting for a session, and a close event that starts
a reconnect loop finds nothing but its own transport.
-/
def Orderly (options : SatelliteOptions) (satellite : DysonSatellite)
    : ConnectionEvent → Prop
  | .connect => satellite.QuietBut none
  | .disconnect => satellite.pendingSessions = 0
  | .transportClosed index _ =>
      satellite.closed = false
      → satellite.reconnectAttempt < options.maxReconnectAttempts
      → satellite.QuietBut (some index)
  | _ => True

/-- At most one thing is outstanding: a request for a session, a sleeping reconnect loop, or
the current transport. While the client is disconnected it can only be a loop.
-/
structure SingleOwner (satellite : DysonSatellite) : Prop where
  owned : ∀ index, satellite.IsLive index → satellite.transport = some index
  single : satellite.pendingSessions + satellite.sleeping.length ≤ 1
  exclusive
    : ∀ index,
        satellite.IsLive index
        → satellite.pendingSessions = 0 ∧ satellite.sleeping = []
  disconnected
    : satellite.closed = true
      → satellite.pendingSessions = 0 ∧ ∀ index, ¬satellite.IsLive index

theorem SingleOwner.initial : SingleOwner {} where
  owned := fun _ ⟨_, found, _⟩ => by simp at found
  single := by simp
  exclusive := fun _ ⟨_, found, _⟩ => by simp at found
  disconnected := fun closed => by simp at closed

variable {satellite : DysonSatellite}

/-- Nothing is outstanding in a quiet client. -/
theorem QuietBut.none_live (quiet : satellite.QuietBut none) (index : Nat)
    : ¬satellite.IsLive index :=
  fun live => by simpa using quiet.dead index live

theorem SingleOwner.connect (quiet : satellite.QuietBut none)
    : satellite.connect.SingleOwner where
  owned := fun index live => (quiet.none_live index live).elim
  single := by simp [DysonSatellite.connect, quiet.answered, quiet.awake]
  exclusive := fun index live => (quiet.none_live index live).elim
  disconnected := fun closed => by simp [DysonSatellite.connect] at closed

/-- A new transport is the only outstanding thing if nothing else was. -/
theorem SingleOwner.openTransport (quiet : satellite.QuietBut none)
    (connected : satellite.closed = false) (wsEndpoint : Option Json)
    (delayMs : Option Rat)
    : (satellite.openTransport wsEndpoint delayMs).1.SingleOwner := by
  have only (index : Nat)
      (live : (satellite.openTransport wsEndpoint delayMs).1.IsLive index)
      : index = satellite.transports.length :=
    ((isLive_openTransport satellite wsEndpoint delayMs index).mp live).resolve_left
      (quiet.none_live index)
  exact {
    owned := fun index live => by rw [only index live]; rfl
    single := by simp [DysonSatellite.openTransport, quiet.answered, quiet.awake]
    exclusive := fun _ _ => ⟨quiet.answered, quiet.awake⟩
    disconnected := fun closed => by
      simp [DysonSatellite.openTransport, connected] at closed
  }

/-- What is quiet has at most one thing outstanding. -/
theorem QuietBut.singleOwner (quiet : satellite.QuietBut none) : satellite.SingleOwner where
  owned := fun index live => (quiet.none_live index live).elim
  single := by simp [quiet.answered, quiet.awake]
  exclusive := fun index live => (quiet.none_live index live).elim
  disconnected := fun _ => ⟨quiet.answered, quiet.none_live⟩

/-- Once its answer is there, nothing is outstanding besides a request for a session. -/
theorem SingleOwner.quiet_of_pending (owner : satellite.SingleOwner)
    (pending : satellite.pendingSessions ≠ 0)
    : ({ satellite with pendingSessions := satellite.pendingSessions - 1 }
        : DysonSatellite).QuietBut none where
  answered := by
    have single := owner.single
    dsimp only
    omega
  awake := by
    have single := owner.single
    have none : satellite.sleeping.length = 0 := by omega
    exact List.eq_nil_of_length_eq_zero none
  dead := fun index live => (pending (owner.exclusive index live).1).elim

/-- Once it wakes, nothing is outstanding besides a reconnect loop. -/
theorem SingleOwner.quiet_of_sleeping (owner : satellite.SingleOwner) {loop : Nat}
    {delayMs : Rat} (sleeping : satellite.sleeping[loop]? = some delayMs)
    : (satellite.endSleep loop).QuietBut none := by
  have single := owner.single
  have within : loop < satellite.sleeping.length :=
    (List.getElem?_eq_some_iff.mp sleeping).1
  have answered : satellite.pendingSessions = 0 := by omega
  refine ⟨answered, ?_, ?_⟩
  · refine List.eq_nil_of_length_eq_zero ?_
    rw [endSleep, List.length_eraseIdx_of_lt within]
    omega
  · intro index live
    have awake := (owner.exclusive index live).2
    simp [awake] at sleeping

/-- A reconnect loop that goes to sleep is all that is outstanding in a quiet client. -/
theorem QuietBut.asleep (options : SatelliteOptions) (quiet : satellite.QuietBut none)
    (connected : satellite.closed = false)
    : (satellite.sleepBeforeAttempt options).SingleOwner where
  owned := fun index live => (quiet.none_live index live).elim
  single := by simp [sleepBeforeAttempt, quiet.answered, quiet.awake]
  exclusive := fun index live => (quiet.none_live index live).elim
  disconnected := fun closed => by simp [sleepBeforeAttempt, connected] at closed

theorem SingleOwner.resumeConnect (owner : satellite.SingleOwner)
    (pending : satellite.pendingSessions ≠ 0) (session : Json) (accepted : Bool)
    : (satellite.resumeConnect session accepted).1.SingleOwner := by
  have quiet := owner.quiet_of_pending pending
  have connected : satellite.closed = false := by
    cases closed : satellite.closed with
    | false => rfl
    | true => exact (pending (owner.disconnected closed).1).elim
  have kept (session : Option Json)
      : ({ satellite with
            pendingSessions := satellite.pendingSessions - 1
            session
          } : DysonSatellite).QuietBut none :=
    ⟨quiet.answered, quiet.awake, quiet.dead⟩
  unfold DysonSatellite.resumeConnect
  cases session with
  | null => exact (kept none).singleOwner
  | _ =>
      cases accepted with
      | false => exact (kept _).singleOwner
      | true => exact SingleOwner.openTransport (kept _) connected _ _

theorem SingleOwner.disconnect (owner : satellite.SingleOwner)
    (answered : satellite.pendingSessions = 0)
    : satellite.disconnect.SingleOwner := by
  have dead (index : Nat) : ¬satellite.disconnect.IsLive index := by
    intro live
    obtain ⟨before, other⟩ := (isLive_disconnect satellite index).mp live
    exact other (owner.owned index before)
  exact {
    owned := fun index live => (dead index live).elim
    single := owner.single
    exclusive := fun index live => (dead index live).elim
    disconnected := fun _ => ⟨answered, dead⟩
  }

/-- A move of a transport that makes none live keeps a single owner. -/
theorem SingleOwner.moveTransport (owner : satellite.SingleOwner) (moved : Nat)
    (status : TransportStatus)
    (fewer
      : ∀ index,
          (satellite.moveTransport moved status).IsLive index → satellite.IsLive index)
    : (satellite.moveTransport moved status).SingleOwner where
  owned := fun index live => owner.owned index (fewer index live)
  single := owner.single
  exclusive := fun index live => owner.exclusive index (fewer index live)
  disconnected := fun closed =>
    ⟨(owner.disconnected closed).1,
      fun index live => (owner.disconnected closed).2 index (fewer index live)⟩

/-- A client that is quiet but for one transport is quiet once that one closes. -/
theorem QuietBut.closed {index : Nat} (quiet : satellite.QuietBut (some index))
    : (satellite.moveTransport index .closed).QuietBut none := by
  refine ⟨quiet.answered, quiet.awake, ?_⟩
  intro other live
  obtain ⟨before, different⟩ := (isLive_closed satellite index other).mp live
  exact (different (Option.some.inj (quiet.dead other before))).elim

theorem SingleOwner.onClose (options : SatelliteOptions) (owner : satellite.SingleOwner)
    (index : Nat) (reason : String)
    (orderly : satellite.Orderly options (.transportClosed index reason))
    : ((satellite.moveTransport index .closed).attemptReconnect options).1.SingleOwner := by
  have moved := owner.moveTransport index .closed
    (fun other live => ((isLive_closed satellite index other).mp live).1)
  refine attemptReconnect_keeps SingleOwner moved ?_
  intro connected more
  exact (orderly connected more).closed.asleep options connected

theorem SingleOwner.resumeReconnect (options : SatelliteOptions)
    (owner : satellite.SingleOwner) {loop : Nat} {delayMs : Rat}
    (sleeping : satellite.sleeping[loop]? = some delayMs) (elapsedMs : Rat) (accepted : Bool)
    : ((satellite.endSleep loop).resumeReconnect options elapsedMs
        accepted).1.SingleOwner := by
  have quiet := owner.quiet_of_sleeping sleeping
  refine resumeReconnect_keeps SingleOwner elapsedMs accepted quiet.singleOwner ?_ ?_
  · intro connected session
    have opened := SingleOwner.openTransport quiet connected (wsEndpoint session)
      (some elapsedMs)
    exact ⟨opened.owned, opened.single, opened.exclusive, opened.disconnected⟩
  · intro connected _
    exact quiet.asleep options connected

/-- An orderly event keeps a single owner, by cases on the event. -/
theorem SingleOwner.step {options : SatelliteOptions} {next : DysonSatellite}
    {event : ConnectionEvent} {effects : List ConnectionEffect}
    (owner : satellite.SingleOwner) (orderly : satellite.Orderly options event)
    (stepped : satellite.step options event = some (next, effects))
    : next.SingleOwner := by
  cases event with
  | connect =>
      obtain ⟨rfl, _⟩ := Prod.mk.inj (Option.some.inj stepped)
      exact SingleOwner.connect orderly
  | sessionFetched session accepted =>
      obtain ⟨pending, result⟩ := Option.ite_none_left_eq_some.mp stepped
      have kept := owner.resumeConnect pending session accepted
      rwa [Option.some.inj result] at kept
  | sessionFailed =>
      obtain ⟨pending, result⟩ := Option.ite_none_left_eq_some.mp stepped
      obtain ⟨rfl, _⟩ := Prod.mk.inj (Option.some.inj result)
      exact (owner.quiet_of_pending pending).singleOwner
  | disconnect =>
      obtain ⟨rfl, _⟩ := Prod.mk.inj (Option.some.inj stepped)
      exact owner.disconnect orderly
  | transportOpened index =>
      obtain ⟨connecting, result⟩ := Option.ite_none_right_eq_some.mp stepped
      obtain ⟨rfl, _⟩ := Prod.mk.inj (Option.some.inj result)
      exact owner.moveTransport index .opened
        (fun other live => (isLive_opened connecting other).mp live)
  | transportClosed index reason =>
      obtain ⟨_, rfl, _⟩ := step_transportClosed stepped
      exact owner.onClose options index reason orderly
  | sleepExpired loop accepted =>
      obtain ⟨delayMs, sleeping, result⟩ := step_sleepExpired stepped
      have kept :=
        owner.resumeReconnect options sleeping (timerDelay (.finite delayMs)) accepted
      rwa [result] at kept

/-- A client that is disconnected creates no transport unless `connect` is called, and it
stays disconnected.
-/
theorem SingleOwner.step_disconnected {options : SatelliteOptions} {next : DysonSatellite}
    {event : ConnectionEvent} {effects : List ConnectionEffect}
    (owner : satellite.SingleOwner) (closed : satellite.closed = true)
    (other : event ≠ .connect)
    (stepped : satellite.step options event = some (next, effects))
    : next.closed = true ∧ ∀ effect ∈ effects, effect.isCreation = false := by
  cases event with
  | connect => exact (other rfl).elim
  | sessionFetched session accepted =>
      obtain ⟨pending, _⟩ := Option.ite_none_left_eq_some.mp stepped
      exact (pending (owner.disconnected closed).1).elim
  | sessionFailed =>
      obtain ⟨pending, _⟩ := Option.ite_none_left_eq_some.mp stepped
      exact (pending (owner.disconnected closed).1).elim
  | disconnect =>
      obtain ⟨rfl, rfl⟩ := Prod.mk.inj (Option.some.inj stepped)
      exact ⟨rfl, by simp⟩
  | transportOpened index =>
      obtain ⟨_, result⟩ := Option.ite_none_right_eq_some.mp stepped
      obtain ⟨rfl, rfl⟩ := Prod.mk.inj (Option.some.inj result)
      exact ⟨closed, by simp⟩
  | transportClosed index reason =>
      obtain ⟨_, rfl, rfl⟩ := step_transportClosed stepped
      have still : (satellite.moveTransport index .closed).closed = true := closed
      rw [attemptReconnect_disconnected options still]
      exact ⟨closed, by simp [ConnectionEffect.isCreation]⟩
  | sleepExpired loop accepted =>
      obtain ⟨delayMs, _, result⟩ := step_sleepExpired stepped
      have still : (satellite.endSleep loop).closed = true := closed
      rw [resumeReconnect_disconnected options still] at result
      obtain ⟨rfl, rfl⟩ := Prod.mk.inj result
      exact ⟨closed, by simp⟩

end DysonSatellite

/-- A trace of a connection: its events with what the client does at each. -/
abbrev ConnectionTrace :=
  List (ConnectionEvent × List ConnectionEffect)

/-- Every event of the trace is orderly where it happens. -/
def OrderlyTrace (options : SatelliteOptions) (start : DysonSatellite)
    (trace : ConnectionTrace) : Prop :=
  (satelliteConnection options).StepsMeet start trace
    (fun satellite event => satellite.Orderly options event)

/-- Orderly events keep a single owner, by induction on the run. -/
theorem OrderlyTrace.singleOwner {options : SatelliteOptions}
    {start finish : DysonSatellite} {trace : ConnectionTrace}
    (orderly : OrderlyTrace options start trace)
    (run : (satelliteConnection options).Run start trace finish)
    (owner : start.SingleOwner)
    : finish.SingleOwner :=
  run.history_of_meets (fun _ satellite => satellite.SingleOwner) owner
    (fun _ _ _ _ _ owner meets stepped => owner.step meets stepped) orderly

/-- As long as `connect` is not called a disconnected client creates no transport, by
induction on the run.
-/
theorem OrderlyTrace.no_creation {options : SatelliteOptions}
    {start finish : DysonSatellite} {trace : ConnectionTrace}
    (orderly : OrderlyTrace options start trace)
    (run : (satelliteConnection options).Run start trace finish)
    (owner : start.SingleOwner) (closed : start.closed = true)
    (quiet : ∀ entry ∈ trace, entry.1 ≠ .connect)
    : ∀ entry ∈ trace, ∀ effect ∈ entry.2, effect.isCreation = false := by
  have kept := run.history_of_meets
    (fun trace satellite =>
      satellite.SingleOwner
      ∧ ((∀ entry ∈ trace, entry.1 ≠ .connect)
        → satellite.closed = true
          ∧ ∀ entry ∈ trace, ∀ effect ∈ entry.2, effect.isCreation = false))
    ⟨owner, fun _ => ⟨closed, by simp⟩⟩
    (by
      intro trace satellite event next effects holds meets stepped
      refine ⟨holds.1.step meets stepped, ?_⟩
      intro quiet
      obtain ⟨still, none⟩ := holds.2 (fun entry member => quiet entry (by simp [member]))
      obtain ⟨closed, fresh⟩ := holds.1.step_disconnected still
        (quiet (event, effects) (by simp)) stepped
      refine ⟨closed, ?_⟩
      intro entry member
      rcases List.mem_append.mp member with earlier | last
      · exact none entry earlier
      · rw [List.mem_singleton.mp last]
        exact fresh)
    orderly
  exact (kept.2 quiet).2

/-- In every run of orderly events at most one transport is live, and none is created between
a call of `disconnect` and the next call of `connect`.
-/
theorem ownsOneTransport {options : SatelliteOptions} {finish : DysonSatellite}
    {trace : ConnectionTrace} (run : (satelliteConnection options).Run {} trace finish)
    (orderly : OrderlyTrace options {} trace)
    : (∀ left right, finish.IsLive left → finish.IsLive right → left = right)
      ∧ ∀ earlier effects between later,
          trace = earlier ++ (.disconnect, effects) :: between ++ later
          → (∀ entry ∈ between, entry.1 ≠ .connect)
          → ∀ entry ∈ between, ∀ effect ∈ entry.2, effect.isCreation = false := by
  refine ⟨?_, ?_⟩
  · intro left right leftLive rightLive
    have owner := orderly.singleOwner run .initial
    exact Option.some.inj
      ((owner.owned left leftLive).symm.trans (owner.owned right rightLive))
  · intro earlier effects between later whole quiet
    have whole : trace = (earlier ++ [(.disconnect, effects)]) ++ (between ++ later) := by
      simp [whole]
    subst whole
    obtain ⟨disconnected, before, after⟩ := run.split _ _
    obtain ⟨middle, next, _⟩ := after.split _ _
    have owner := OrderlyTrace.singleOwner (Machine.StepsMeet.before orderly) before .initial
    have closed : disconnected.closed = true := by
      obtain ⟨last, _, stepped⟩ := before.split _ _
      obtain ⟨rfl, _⟩ := Prod.mk.inj (Option.some.inj stepped.step_of_single)
      rfl
    have remaining := Machine.StepsMeet.before (Machine.StepsMeet.after orderly before)
    exact OrderlyTrace.no_creation remaining next owner closed quiet

-----------------------------------------------------------------------------------------
-- What an event out of order makes possible
-----------------------------------------------------------------------------------------

/-- The answer to a request for a session, or the end of a sleep. -/
def ConnectionEvent.isResumption : ConnectionEvent → Bool
  | .sessionFetched _ _ => true
  | .sleepExpired _ _ => true
  | _ => false

namespace DysonSatellite
variable {satellite : DysonSatellite}

theorem IsLive.lt {index : Nat} (live : satellite.IsLive index)
    : index < satellite.transports.length := by
  obtain ⟨_, found, _⟩ := live
  exact (List.getElem?_eq_some_iff.mp found).1

/-- The client has a session to reconnect with. -/
def HasSession (satellite : DysonSatellite) : Prop :=
  ∃ session, satellite.session = some session ∧ isTruthy session = true

/-- The things outstanding that can open a transport. -/
def openers (satellite : DysonSatellite) : Nat :=
  satellite.pendingSessions + satellite.sleeping.length

/-- In a connected client whatever can open a transport may do so. -/
theorem opens (options : SatelliteOptions) (connected : satellite.closed = false)
    (outstanding : 0 < satellite.openers)
    (able : satellite.pendingSessions ≠ 0 ∨ satellite.HasSession)
    : ∃ event next effects,
        event.isResumption = true
        ∧ satellite.step options event = some (next, effects)
        ∧ next.closed = false
        ∧ next.HasSession
        ∧ next.openers + 1 = satellite.openers
        ∧ ∀ index,
            next.IsLive index
            ↔ satellite.IsLive index ∨ index = satellite.transports.length := by
  by_cases pending : satellite.pendingSessions = 0
  · obtain ⟨session, present, truthy⟩ := able.resolve_left (absurd pending)
    obtain ⟨delayMs, rest, sleeping⟩
        : ∃ delayMs rest, satellite.sleeping = delayMs :: rest := by
      refine List.exists_cons_of_ne_nil ?_
      intro none
      simp [openers, pending, none] at outstanding
    have stepped := step_reconnects options connected sleeping present truthy
    refine ⟨_, _, _, rfl, stepped, connected, ⟨session, present, truthy⟩, ?_, ?_⟩
    · simp [openTransport, endSleep, openers, sleeping]
      omega
    · intro index
      exact isLive_openTransport (satellite.endSleep 0) (wsEndpoint session)
        (some (timerDelay (.finite delayMs))) index
  · refine ⟨.sessionFetched (.obj []) true, _, _, rfl, if_neg pending, connected,
      ⟨.obj [], rfl, rfl⟩, ?_, ?_⟩
    · show satellite.pendingSessions - 1 + satellite.sleeping.length + 1
        = satellite.pendingSessions + satellite.sleeping.length
      omega
    · intro index
      exact isLive_openTransport
        {
          satellite with
          pendingSessions := satellite.pendingSessions - 1
          session := some (.obj [])
        } (wsEndpoint (.obj [])) none index

/-- In a client that is not quiet something is outstanding. -/
theorem outstanding_of_not_quiet {spared : Option Nat} (busy : ¬satellite.QuietBut spared)
    : (∃ index, satellite.IsLive index ∧ some index ≠ spared) ∨ 0 < satellite.openers := by
  by_contra none
  obtain ⟨dead, few⟩ := not_or.mp none
  rw [openers] at few
  refine busy ⟨by omega, List.eq_nil_of_length_eq_zero (by omega), ?_⟩
  intro index live
  by_contra different
  exact dead ⟨index, live, different⟩

/-- Two transports are live. -/
def Contended (satellite : DysonSatellite) : Prop :=
  ∃ left right, left ≠ right ∧ satellite.IsLive left ∧ satellite.IsLive right

/-- Two things outstanding in a connected client may end in two live transports, at answers
and expiring sleeps alone.
-/
theorem contended_of_outstanding (options : SatelliteOptions) (satellite : DysonSatellite)
    (connected : satellite.closed = false) (outstanding : 0 < satellite.openers)
    (able : satellite.pendingSessions ≠ 0 ∨ satellite.HasSession)
    (another : (∃ index, satellite.IsLive index) ∨ 1 < satellite.openers)
    : ∃ trace finish,
        (satelliteConnection options).Run satellite trace finish
        ∧ (∀ entry ∈ trace, entry.1.isResumption = true)
        ∧ finish.Contended := by
  obtain ⟨event, next, effects, resumes, stepped, still, session, fewer, live⟩ :=
    opens options connected outstanding able
  have first : (satelliteConnection options).Run satellite [(event, effects)] next :=
    .single stepped
  have fresh := (live satellite.transports.length).mpr (Or.inr rfl)
  rcases another with ⟨index, already⟩ | more
  · exact ⟨_, _, first, by simpa using resumes, index, satellite.transports.length,
      already.lt.ne, (live index).mpr (Or.inl already), fresh⟩
  · obtain ⟨event', finish, effects', resumes', stepped', _, _, _, live'⟩ :=
      opens options still (by omega) (Or.inr session)
    exact ⟨_, finish, first.snoc stepped', by simp [resumes, resumes'],
      satellite.transports.length, next.transports.length, fresh.lt.ne,
      (live' _).mpr (Or.inl fresh), (live' _).mpr (Or.inr rfl)⟩

/-- A call of `connect` while something is outstanding may end in two live transports. -/
theorem connect_contended (options : SatelliteOptions) (session : satellite.HasSession)
    (busy : ¬satellite.QuietBut none)
    : ∃ trace finish,
        (satelliteConnection options).Run satellite.connect trace finish
        ∧ (∀ entry ∈ trace, entry.1.isResumption = true)
        ∧ finish.Contended := by
  have grown : satellite.connect.openers = satellite.openers + 1 := by
    simp only [openers, DysonSatellite.connect]
    omega
  have another
      : (∃ index, satellite.connect.IsLive index) ∨ 1 < satellite.connect.openers := by
    rcases outstanding_of_not_quiet busy with ⟨index, live, _⟩ | opener
    · exact Or.inl ⟨index, live⟩
    · exact Or.inr (by omega)
  exact contended_of_outstanding options satellite.connect rfl (by omega) (Or.inr session)
    another

/-- A transport that closes while something else is outstanding starts a loop that may end in
two live transports.
-/
theorem reconnect_contended (options : SatelliteOptions) (session : satellite.HasSession)
    {index : Nat} (connected : satellite.closed = false)
    (busy : ¬satellite.QuietBut (some index))
    : ∃ trace finish,
        (satelliteConnection options).Run
          ((satellite.moveTransport index .closed).sleepBeforeAttempt options) trace finish
        ∧ (∀ entry ∈ trace, entry.1.isResumption = true)
        ∧ finish.Contended := by
  have grown
      : ((satellite.moveTransport index .closed).sleepBeforeAttempt options).openers
        = satellite.openers + 1 := by
    simp [openers, sleepBeforeAttempt, DysonSatellite.moveTransport, Nat.add_assoc]
  have another
      : (∃ other, (satellite.moveTransport index .closed).IsLive other)
        ∨ 1 < satellite.openers + 1 := by
    rcases outstanding_of_not_quiet busy with ⟨other, live, different⟩ | opener
    · exact Or.inl ⟨other, (isLive_closed satellite index other).mpr
        ⟨live, fun same => different (by rw [same])⟩⟩
    · exact Or.inr (by omega)
  exact contended_of_outstanding options
    ((satellite.moveTransport index .closed).sleepBeforeAttempt options)
    connected (by omega) (Or.inr session) (by rw [grown]; exact another)

/-- An event that is not orderly makes way for answers and expiring sleeps that end in two
live transports, or that open one after the call of `disconnect`.
-/
theorem SingleOwner.disorderly {options : SatelliteOptions} {next : DysonSatellite}
    {event : ConnectionEvent} {effects : List ConnectionEffect}
    (session : satellite.HasSession) (disorderly : ¬satellite.Orderly options event)
    (stepped : satellite.step options event = some (next, effects))
    : ∃ trace finish,
        (satelliteConnection options).Run next trace finish
        ∧ (∀ entry ∈ trace, entry.1.isResumption = true)
        ∧ (finish.Contended
          ∨ event = .disconnect
            ∧ ∃ entry ∈ trace, ∃ effect ∈ entry.2, effect.isCreation = true) := by
  cases event with
  | connect =>
      obtain ⟨rfl, _⟩ := Prod.mk.inj (Option.some.inj stepped)
      obtain ⟨trace, finish, run, resumes, contended⟩ :=
        connect_contended options session disorderly
      exact ⟨trace, finish, run, resumes, Or.inl contended⟩
  | sessionFetched session accepted => exact (disorderly trivial).elim
  | sessionFailed => exact (disorderly trivial).elim
  | disconnect =>
      obtain ⟨rfl, _⟩ := Prod.mk.inj (Option.some.inj stepped)
      have late
          : (satelliteConnection options).step satellite.disconnect
              (.sessionFetched (.obj []) true)
            = some (satellite.disconnect.resumeConnect (.obj []) true) :=
        if_neg disorderly
      exact ⟨_, _, .single late, by simp [ConnectionEvent.isResumption],
        Or.inr ⟨rfl, _, List.mem_singleton_self _, _, List.mem_cons_self .., rfl⟩⟩
  | transportOpened index => exact (disorderly trivial).elim
  | transportClosed index reason =>
      obtain ⟨connected, disorderly⟩ := Classical.not_imp.mp disorderly
      obtain ⟨more, disorderly⟩ := Classical.not_imp.mp disorderly
      obtain ⟨_, rfl, _⟩ := step_transportClosed stepped
      have moved : (satellite.moveTransport index .closed).closed = false := connected
      rw [attemptReconnect_sleeps moved more]
      obtain ⟨trace, finish, run, resumes, contended⟩ :=
        reconnect_contended options session connected disorderly
      exact ⟨trace, finish, run, resumes, Or.inl contended⟩
  | sleepExpired loop accepted => exact (disorderly trivial).elim

end DysonSatellite

/-- A client that connects, loses its transport, reconnects, loses the new one and is
disconnected before its loop wakes again.
-/
def quietLife : List ConnectionEvent :=
  [
    .connect,
    .sessionFetched (.obj []) true,
    .transportClosed 0 "",
    .sleepExpired 0 true,
    .transportClosed 1 "",
    .disconnect,
    .sleepExpired 0 true
  ]

theorem ownsOneTransport_example
    : let trace := (satelliteConnection {}).traceOf {} quietLife
      let finish := (satelliteConnection {}).stateAfter {} quietLife
      (∀ left right, finish.IsLive left → finish.IsLive right → left = right)
        ∧ ∀ earlier effects between later,
            trace = earlier ++ (.disconnect, effects) :: between ++ later
            → (∀ entry ∈ between, entry.1 ≠ .connect)
            → ∀ entry ∈ between, ∀ effect ∈ entry.2, effect.isCreation = false := by
  have fresh : DysonSatellite.QuietBut {} none :=
    ⟨rfl, rfl, fun _ ⟨_, found, _⟩ => by simp at found⟩
  have orderly
      : OrderlyTrace {} {} ((satelliteConnection {}).traceOf {} quietLife) := by
    refine .cons rfl fresh (.cons rfl trivial (.cons rfl ?_ (.cons rfl trivial
      (.cons rfl ?_ (.cons rfl rfl (.cons rfl trivial (.nil _ _)))))))
    · intro _ _
      refine ⟨rfl, rfl, ?_⟩
      intro index live
      cases index with
      | zero => rfl
      | succ index =>
          obtain ⟨_, found, _⟩ := live
          simp [DysonSatellite.connect] at found
    · intro _ _
      refine ⟨rfl, rfl, ?_⟩
      intro index live
      obtain ⟨_, found, alive⟩ := live
      match index, found with
      | 0, found =>
          obtain rfl := Option.some.inj found
          contradiction
      | 1, _ => rfl
  exact ownsOneTransport (Machine.traceOf_run rfl) orderly

/-- A session that arrives after the client disconnected opens a transport nevertheless. -/
theorem transport_after_disconnect
    : ¬∀ (options : SatelliteOptions) (finish : DysonSatellite) (trace : ConnectionTrace),
        (satelliteConnection options).Run {} trace finish
        → (∀ left right, finish.IsLive left → finish.IsLive right → left = right)
          ∧ ∀ earlier effects between later,
              trace = earlier ++ (.disconnect, effects) :: between ++ later
              → (∀ entry ∈ between, entry.1 ≠ .connect)
              → ∀ entry ∈ between, ∀ effect ∈ entry.2, effect.isCreation = false := by
  intro owned
  have run
      : (satelliteConnection {}).Run {}
          ((satelliteConnection {}).traceOf {}
            [.connect, .disconnect, .sessionFetched (.obj []) true])
          _ :=
    Machine.traceOf_run rfl
  have kept := (owned {} _ _ run).2 [(.connect, [])] [] _ [] rfl (by simp)
    _ (List.mem_singleton_self _) _ (List.mem_cons_self ..)
  simp [ConnectionEffect.isCreation] at kept

end Intellisphere.Client
