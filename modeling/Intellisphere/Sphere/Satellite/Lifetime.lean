import Intellisphere.Sphere.Satellite.Tokens
import Mathlib.Data.Fintype.EquivFin

/-! How long a session lives. The upgrade checks a session's expiry, the messages of an open
socket do not; and termination closes a socket without revoking the token. Here is what
has to be avoided for an expired session to accept nothing and for a terminated one to stay
closed.
-/

namespace Intellisphere.Sphere

open Intellisphere.Foundation

/-- No acceptance in the trace comes at or after the expiry of its session. -/
def NoLateAcceptance (trace : List (SatelliteEvent × SatelliteOutput))
    (final : EndpointState)
    : Prop :=
  ∀ now socket requestId text sessionId id reason session,
    (SatelliteEvent.receive now socket requestId text,
        SatelliteOutput.replied sessionId (.adjudicationResult id true reason)) ∈ trace
    → final.session? sessionId = some session
    → now < session.expiresAt

section Expiry

variable (libraries : SatelliteLibraries) (state : AppState)

/-- A proposal that a session would accept: more than one unit of budget is left, the score is
below the threshold, and the proposal is well formed.
-/
def Acceptable (requestId : String) (session : SatelliteSession) (proposal : ToolProposal)
    : Prop :=
  1 < session.trustBudget.remaining
  ∧ session.trustBudget.suspicionScore < session.trustBudget.suspicionThreshold
  ∧ Wellformed state.toolRegistry state.pipeline requestId session proposal

/-- The event does not bring an expired session a proposal it would accept. -/
def Timely (endpoint : EndpointState) (event : SatelliteEvent) : Prop :=
  ∀ now socket requestId text sessionId session id proposal,
    event = .receive now socket requestId text
    → endpoint.sockets.lookup socket = some sessionId
    → endpoint.session? sessionId = some session
    → session.expiresAt ≤ now
    → IsProposal libraries text id proposal
    → ¬Acceptable state requestId session proposal

variable {libraries state}

/-- A proposal is answered with acceptance exactly when it is acceptable. -/
theorem proposalReply_accepted_iff {requestId id : String} {session session' : SatelliteSession}
    {proposal : ToolProposal} {result : AdjudicationResult}
    (judged
      : Adjudicated state.toolRegistry state.pipeline requestId session proposal session'
          result)
    : (∃ reason, proposalReply id session' result = .adjudicationResult id true reason)
      ↔ Acceptable state requestId session proposal := by
  have remaining := judged.remaining
  have threshold := judged.threshold
  rcases proposalReply_spec id session' result with
    ⟨terminated, reason, _, reply⟩ | ⟨running, reply⟩
  · rw [reply]
    refine ⟨fun found => by simp at found, ?_⟩
    -- An acceptable proposal leaves budget over and the score alone, so nothing terminates.
    intro acceptable
    obtain ⟨funded, calm, wellformed⟩ := acceptable
    have same := judged.calm (judged.accepts.mpr ⟨funded, wellformed⟩)
    rcases terminated with exhausted | suspicious
    · linarith
    · linarith
  · rw [reply]
    obtain ⟨funded, calm⟩ := not_or.mp running
    refine ⟨?_, ?_⟩
    · intro accepted
      obtain ⟨_, same⟩ := accepted
      have verdict := (SatelliteMessage.adjudicationResult.inj same).2.1
      have accepts := judged.accepts.mp verdict
      have unchanged := judged.calm verdict
      refine ⟨accepts.1, ?_, accepts.2⟩
      linarith
    · intro acceptable
      have verdict := judged.accepts.mpr ⟨acceptable.1, acceptable.2.2⟩
      exact ⟨result.reason, by rw [verdict]⟩

/-- An acceptable proposal to a stored session is accepted. -/
theorem Transition.accepts {before after : EndpointState} {now : DateTime} {socket : Nat}
    {requestId text sessionId id : String} {session : SatelliteSession}
    {proposal : ToolProposal} {output : SatelliteOutput}
    (transition
      : Transition libraries state before (.receive now socket requestId text) after output)
    (bound : before.sockets.lookup socket = some sessionId)
    (stored : before.session? sessionId = some session)
    (proposes : IsProposal libraries text id proposal)
    (acceptable : Acceptable state requestId session proposal)
    : ∃ reason, output = .replied sessionId (.adjudicationResult id true reason) := by
  obtain ⟨session', result, judged, rfl⟩ := transition.judged bound stored proposes
  obtain ⟨reason, reply⟩ := (proposalReply_accepted_iff judged).mpr acceptable
  exact ⟨reason, by rw [reply]⟩

/-- Every acceptance answers an acceptable proposal to a stored session. -/
theorem Transition.acceptable {before after : EndpointState} {now : DateTime} {socket : Nat}
    {requestId text sessionId id : String} {reason : Option String}
    (transition
      : Transition libraries state before (.receive now socket requestId text) after
          (.replied sessionId (.adjudicationResult id true reason)))
    : ∃ session proposal,
        before.sockets.lookup socket = some sessionId
        ∧ before.session? sessionId = some session
        ∧ IsProposal libraries text id proposal
        ∧ Acceptable state requestId session proposal := by
  generalize shape
    : SatelliteOutput.replied sessionId (.adjudicationResult id true reason) = output
    at transition
  cases transition with
  | @adjudicated _ _ _ _ _ id' proposal session session' result _ bound proposes stored
      judged =>
      obtain ⟨rfl, reply⟩ := SatelliteOutput.replied.inj shape
      rcases proposalReply_spec id' session' result with ⟨_, _, _, terminated⟩ | ⟨_, verdict⟩
      · rw [terminated] at reply
        contradiction
      · rw [verdict] at reply
        obtain ⟨rfl, accepted, _⟩ := SatelliteMessage.adjudicationResult.inj reply
        refine ⟨session, proposal, bound, stored, proposes, ?_⟩
        rw [← accepted] at verdict
        exact (proposalReply_accepted_iff judged).mp ⟨result.reason, verdict⟩
  | answered _ _ _ plain =>
      obtain ⟨_, rfl⟩ := SatelliteOutput.replied.inj shape
      rcases plain with ⟨_, wrong⟩ | wrong | wrong <;> contradiction
  | idle _ quiet =>
      subst shape
      contradiction

/-- Over every run, no acceptance comes after the expiry of its session exactly when no
message brings an expired session a proposal it would accept.
-/
theorem noLateAcceptance_iff {secret : List UInt8}
    {trace : List (SatelliteEvent × SatelliteOutput)} {final : EndpointState}
    (run : (satelliteEndpoint libraries state).Run (.start secret) trace final)
    : NoLateAcceptance trace final
      ↔ ∀ earlier event output later,
          trace = earlier ++ (event, output) :: later
          → ∀ endpoint,
              (satelliteEndpoint libraries state).Run (.start secret) earlier endpoint
              → Timely libraries state endpoint event := by
  refine ⟨?_, ?_⟩
  · intro punctual earlier event output later whole endpoint head now socket requestId text
      sessionId session id proposal received bound stored expired proposes acceptable
    subst whole received
    obtain ⟨middle, head', tail⟩ := run.split earlier _
    obtain rfl := head.unique head'
    obtain ⟨next, stepped, rest⟩ := tail.uncons
    have transition := (endpointStep_transition stepped).1
    obtain ⟨reason, rfl⟩ := transition.accepts bound stored proposes acceptable
    obtain ⟨after, updated, grant⟩ := transition.session_kept stored
    obtain ⟨last, found, grant'⟩ := run_session_kept rest updated
    have inTime := punctual now socket requestId text sessionId id reason last (by simp) found
    rw [grant'.expiresAt, grant.expiresAt] at inTime
    exact not_lt.mpr expired inTime
  · intro timely now socket requestId text sessionId id reason last member found
    obtain ⟨earlier, later, rfl⟩ := List.append_of_mem member
    obtain ⟨middle, head, tail⟩ := run.split earlier _
    obtain ⟨next, stepped, rest⟩ := tail.uncons
    have transition := (endpointStep_transition stepped).1
    obtain ⟨session, proposal, bound, stored, proposes, acceptable⟩ := transition.acceptable
    obtain ⟨after, updated, grant⟩ := transition.session_kept stored
    obtain ⟨last', found', grant'⟩ := run_session_kept rest updated
    obtain rfl := Option.some.inj (found.symm.trans found')
    rw [grant'.expiresAt, grant.expiresAt]
    refine not_le.mp (fun expired => ?_)
    exact timely earlier _ _ later rfl middle head now socket requestId text sessionId session
      id proposal rfl bound stored expired proposes acceptable

end Expiry

-----------------------------------------------------------------------------------------
-- Termination
-----------------------------------------------------------------------------------------

/-- After a termination for exhaustion or suspicion, no upgrade with the token of the session
succeeds.
-/
def NeverReopened (trace : List (SatelliteEvent × SatelliteOutput)) : Prop :=
  ∀ earlier event sessionId reason later,
    trace = earlier ++ (event, .replied sessionId (.sessionTerminated reason)) :: later
    → reason ∈ terminationReasons
    → ∀ now order socket token bound,
        IsTokenOf trace sessionId token
        → (SatelliteEvent.wsUpgrade now order socket token, SatelliteOutput.upgraded bound)
            ∉ later

/-- After a termination for exhaustion or suspicion, the token of the session is only
presented once the session has expired.
-/
def OnlyRetriedExpired (trace : List (SatelliteEvent × SatelliteOutput))
    (final : EndpointState)
    : Prop :=
  ∀ earlier event sessionId reason later,
    trace = earlier ++ (event, .replied sessionId (.sessionTerminated reason)) :: later
    → reason ∈ terminationReasons
    → ∀ now order socket token output session,
        IsTokenOf trace sessionId token
        → (SatelliteEvent.wsUpgrade now order socket token, output) ∈ later
        → final.session? sessionId = some session
        → session.expiresAt ≤ now

section Termination

variable {libraries : SatelliteLibraries} {state : AppState} {secret : List UInt8}
  {trace : List (SatelliteEvent × SatelliteOutput)} {final : EndpointState}

/-- The tokens of a stored session are known as soon as it is stored. -/
theorem isTokenOf_prefix_iff {head tail : List (SatelliteEvent × SatelliteOutput)}
    {middle : EndpointState}
    (before : (satelliteEndpoint libraries state).Run (.start secret) head middle)
    (after : (satelliteEndpoint libraries state).Run middle tail final)
    {sessionId : String} {session : SatelliteSession}
    (stored : middle.session? sessionId = some session) (token : String)
    : IsTokenOf (head ++ tail) sessionId token ↔ IsTokenOf head sessionId token := by
  obtain ⟨last, found, grant⟩ := run_session_kept after stored
  have early := run_issued before sessionId
  have late := run_issued (before.trans after) sessionId
  simp only [Issued, stored] at early
  simp only [Issued, found, sessionToken, grant.identitySub, grant.expiresAt] at late
  exact (late.2 token).trans (early.2 token).symm

/-- A token is issued for one session only. -/
theorem isTokenOf_unique (tags : InjectiveTags libraries secret)
    (run : (satelliteEndpoint libraries state).Run (.start secret) trace final)
    {sessionId sessionId' token : String} (issued : IsTokenOf trace sessionId token)
    (issued' : IsTokenOf trace sessionId' token)
    : sessionId = sessionId' := by
  have account := run_issued run sessionId
  have account' := run_issued run sessionId'
  cases stored : final.session? sessionId with
  | none =>
      simp only [Issued, stored] at account
      exact (account token issued).elim
  | some session =>
      cases stored' : final.session? sessionId' with
      | none =>
          simp only [Issued, stored'] at account'
          exact (account' token issued').elim
      | some session' =>
          simp only [Issued, stored] at account
          simp only [Issued, stored'] at account'
          exact sessionToken_sessionId tags account.1 account'.1
            (((account.2 token).mp issued).symm.trans ((account'.2 token).mp issued'))

/-- An upgrade with the token of a stored session succeeds exactly before its expiry, and
then opens that session.
-/
theorem upgrade_output_iff (tags : InjectiveTags libraries secret)
    (run : (satelliteEndpoint libraries state).Run (.start secret) trace final)
    {sessionId token : String} {session : SatelliteSession}
    (stored : final.session? sessionId = some session)
    (issued : IsTokenOf trace sessionId token) {now : DateTime} {order : List String}
    {socket : Nat} {next : EndpointState} {output : SatelliteOutput}
    (stepped
      : (satelliteEndpoint libraries state).step final (.wsUpgrade now order socket token)
          = some (next, output))
    : (∃ bound, output = .upgraded bound) ↔ now < session.expiresAt := by
  simp only [satelliteEndpoint, endpointStep] at stepped
  split at stepped
  next enabled =>
    obtain ⟨listed, _⟩ := enabled
    split at stepped
    next error refused =>
      obtain ⟨_, rfl⟩ := Prod.mk.inj (Option.some.inj stepped)
      refine ⟨fun found => by simp at found, ?_⟩
      intro alive
      have found := (run_wsUpgrade_iff tags run listed now token).mpr
        ⟨issued, session, stored, alive⟩
      rw [refused] at found
      contradiction
    next bound found =>
      obtain ⟨_, rfl⟩ := Prod.mk.inj (Option.some.inj stepped)
      refine ⟨fun _ => ?_, fun _ => ⟨bound, rfl⟩⟩
      obtain ⟨issued', session', stored', alive⟩ :=
        (run_wsUpgrade_iff tags run listed now token).mp found
      obtain rfl := isTokenOf_unique tags run issued issued'
      obtain rfl := Option.some.inj (stored.symm.trans stored')
      exact alive
  next => contradiction

/-- Where an upgrade stands in a trace after a termination: the session is still stored there
with its grant, its tokens are known, and the upgrade is a step from there.
-/
theorem upgrade_after_termination {earlier later : List (SatelliteEvent × SatelliteOutput)}
    {event : SatelliteEvent} {sessionId reason : String}
    (run
      : (satelliteEndpoint libraries state).Run (.start secret)
          (earlier ++ (event, .replied sessionId (.sessionTerminated reason)) :: later) final)
    (counted : reason ∈ terminationReasons) {upgrade : SatelliteEvent}
    {output : SatelliteOutput} (member : (upgrade, output) ∈ later)
    : ∃ head middle next session last,
        (satelliteEndpoint libraries state).Run (.start secret) head middle
        ∧ (satelliteEndpoint libraries state).step middle upgrade = some (next, output)
        ∧ middle.session? sessionId = some session
        ∧ final.session? sessionId = some last
        ∧ SameGrant session last
        ∧ ∀ token,
            IsTokenOf
                (earlier ++ (event, .replied sessionId (.sessionTerminated reason)) :: later)
                sessionId token
            ↔ IsTokenOf head sessionId token := by
  obtain ⟨between, rest, rfl⟩ := List.append_of_mem member
  obtain ⟨closed, before, tail⟩ := run.split earlier _
  obtain ⟨ended, stepped, tail⟩ := tail.uncons
  obtain ⟨session, stored, _⟩ :=
    terminatedAt_of_reply (endpointStep_transition stepped).1 counted
  obtain ⟨middle, waiting, tail⟩ := tail.split between _
  obtain ⟨next, stepped', after⟩ := tail.uncons
  obtain ⟨kept, stored', _⟩ := run_session_kept waiting stored
  obtain ⟨last, found, grant⟩ := run_session_kept tail stored'
  have head := (before.snoc stepped).trans waiting
  refine ⟨_, middle, next, kept, last, head, stepped', stored', found, grant, ?_⟩
  intro token
  have known := isTokenOf_prefix_iff head tail stored' token
  simpa only [List.append_assoc, List.singleton_append, List.cons_append, List.nil_append]
    using known

/-- Over every run, a terminated session is never reopened exactly when its token is only
presented again after its expiry.
-/
theorem neverReopened_iff (tags : InjectiveTags libraries secret)
    (run : (satelliteEndpoint libraries state).Run (.start secret) trace final)
    : NeverReopened trace ↔ OnlyRetriedExpired trace final := by
  refine ⟨?_, ?_⟩
  · intro closed earlier event sessionId reason later whole counted now order socket token
      output session issued member stored
    subst whole
    obtain ⟨head, middle, next, before, last, run', stepped, kept, found, grant, known⟩ :=
      upgrade_after_termination run counted member
    obtain rfl := Option.some.inj (stored.symm.trans found)
    refine not_lt.mp (fun alive => ?_)
    rw [grant.expiresAt] at alive
    obtain ⟨bound, rfl⟩ :=
      (upgrade_output_iff tags run' kept ((known token).mp issued) stepped).mpr alive
    exact closed earlier event sessionId reason later rfl counted now order socket token bound
      issued member
  · intro expired earlier event sessionId reason later whole counted now order socket token
      bound issued member
    subst whole
    obtain ⟨head, middle, next, before, last, run', stepped, kept, found, grant, known⟩ :=
      upgrade_after_termination run counted member
    have late := expired earlier event sessionId reason later rfl counted now order socket token
      _ last issued member found
    have early :=
      (upgrade_output_iff tags run' kept ((known token).mp issued) stepped).mp ⟨bound, rfl⟩
    rw [grant.expiresAt] at late
    exact not_lt.mpr late early

end Termination

/-- A message on a bound socket is always handled. -/
theorem receive_step (libraries : SatelliteLibraries) (state : AppState)
    {endpoint : EndpointState} {socket : Nat} {sessionId : String}
    (bound : endpoint.sockets.lookup socket = some sessionId) (now : DateTime)
    (requestId text : String)
    : ∃ next output,
        (satelliteEndpoint libraries state).step endpoint (.receive now socket requestId text)
          = some (next, output) := by
  simp only [satelliteEndpoint, endpointStep, bound]
  exact ⟨_, _, rfl⟩

/-- The small endpoint with a socket for its session. -/
def boundEndpoint (budget : ℚ) : EndpointState :=
  { smallEndpoint budget with sockets := AList.insert 0 smallId ∅ }

/-- Opening the socket. -/
def smallUpgrade : SatelliteEvent × SatelliteOutput :=
  (.wsUpgrade 5 [smallId] 0 smallResponse.token, .upgraded smallId)

/-- The small endpoint stores its session. -/
theorem smallEndpoint_session (budget : ℚ)
    : (smallEndpoint budget).session? smallId = some (smallSession budget) := by
  simp only [smallEndpoint, EndpointState.session?, SessionManager.get, Option.bind_some]
  exact AList.lookup_insert _

/-- Whatever happens after its creation, the small session stays, with its expiry. -/
theorem smallCreation_session {budget : ℚ}
    {trace : List (SatelliteEvent × SatelliteOutput)} {endpoint : EndpointState}
    (run
      : (satelliteEndpoint smallLibraries smallState).Run (.start [])
          (smallCreation budget :: trace) endpoint)
    : ∃ session,
        endpoint.session? smallId = some session
        ∧ session.expiresAt = 3600 * nanosPerSecond := by
  obtain ⟨middle, head, tail⟩ := run.split [smallCreation budget] trace
  obtain rfl := head.unique (smallEndpoint_run budget)
  obtain ⟨session, stored, grant⟩ := run_session_kept tail (smallEndpoint_session budget)
  exact ⟨session, stored, grant.expiresAt⟩

/-- Its token was issued when it was created. -/
theorem smallCreation_isTokenOf (budget : ℚ)
    (trace : List (SatelliteEvent × SatelliteOutput))
    : IsTokenOf (smallCreation budget :: trace) smallId smallResponse.token :=
  ⟨0, none, none, smallBody budget, smallResponse, List.mem_cons_self, rfl⟩

/-- The token of the small session finds it before it expires, and nothing afterwards. -/
theorem smallEndpoint_wsUpgrade {budget : ℚ} {trace : List (SatelliteEvent × SatelliteOutput)}
    {endpoint : EndpointState}
    (run
      : (satelliteEndpoint smallLibraries smallState).Run (.start [])
          (smallCreation budget :: trace) endpoint)
    {order : List String} (listed : order.Perm endpoint.sessionIds) {now : DateTime}
    (early : now < 3600 * nanosPerSecond)
    : wsUpgrade smallLibraries endpoint.satellite now order smallResponse.token
      = .ok smallId := by
  obtain ⟨session, stored, expiry⟩ := smallCreation_session run
  refine (run_wsUpgrade_iff (smallLibraries_tags []) run listed now _).mpr
    ⟨smallCreation_isTokenOf budget trace, session, stored, ?_⟩
  rw [expiry]
  exact early

theorem smallEndpoint_wsUpgrade_late {budget : ℚ}
    {trace : List (SatelliteEvent × SatelliteOutput)} {endpoint : EndpointState}
    (run
      : (satelliteEndpoint smallLibraries smallState).Run (.start [])
          (smallCreation budget :: trace) endpoint)
    {order : List String} (listed : order.Perm endpoint.sessionIds) {now : DateTime}
    (late : 3600 * nanosPerSecond ≤ now)
    : wsUpgrade smallLibraries endpoint.satellite now order smallResponse.token
      = .error (.authError "invalid or expired session token") := by
  cases found : wsUpgrade smallLibraries endpoint.satellite now order smallResponse.token with
  | error error => rw [run_wsUpgrade_error run found]
  | ok sessionId =>
      obtain ⟨issued, session, stored, alive⟩ :=
        (run_wsUpgrade_iff (smallLibraries_tags []) run listed now _).mp found
      obtain rfl := isTokenOf_unique (smallLibraries_tags []) run issued
        (smallCreation_isTokenOf budget trace)
      obtain ⟨session', stored', expiry⟩ := smallCreation_session run
      obtain rfl := Option.some.inj (stored.symm.trans stored')
      rw [expiry] at alive
      exact absurd late (not_le.mpr alive)

/-- The run that creates the session and opens the socket. -/
theorem boundEndpoint_run (budget : ℚ)
    : (satelliteEndpoint smallLibraries smallState).Run (.start [])
        [smallCreation budget, smallUpgrade] (boundEndpoint budget) := by
  have created := smallEndpoint_run budget
  have listed : [smallId].Perm (smallEndpoint budget).sessionIds := .refl _
  exact created.snoc
    (upgrade_step listed (AList.notMem_empty 0)
      (smallEndpoint_wsUpgrade created listed (by decide)))

/-- The proposal of the small endpoint. -/
def smallProposal : ToolProposal :=
  { toolName := "measure", resultPayload := "ok" }

theorem proposalText_isProposal : IsProposal smallLibraries proposalText "p-1" smallProposal :=
  rfl

/-- The proposal is well formed. -/
theorem smallProposal_wellformed (requestId : String) (session : SatelliteSession)
    : Wellformed smallState.toolRegistry smallState.pipeline requestId session smallProposal
    where
  zone := ⟨measureRegistration, rfl, rfl⟩
  size := by decide
  passes := rfl

/-- A session with two units accepts a proposal the moment it expires. -/
theorem noLateAcceptance_fails
    : ¬∀ (libraries : SatelliteLibraries) (state : AppState) (secret : List UInt8)
          (trace : List (SatelliteEvent × SatelliteOutput)) (final : EndpointState),
        (satelliteEndpoint libraries state).Run (.start secret) trace final
        → NoLateAcceptance trace final := by
  intro punctual
  have opened := boundEndpoint_run 2
  have stored : (boundEndpoint 2).session? smallId = some (smallSession 2) :=
    smallEndpoint_session 2
  have bound : (boundEndpoint 2).sockets.lookup 0 = some smallId := AList.lookup_insert _
  obtain ⟨final, output, stepped⟩ :=
    receive_step smallLibraries smallState bound (3600 * nanosPerSecond) "r-1" proposalText
  have transition := (endpointStep_transition stepped).1
  have acceptable : Acceptable smallState "r-1" (smallSession 2) smallProposal := by
    refine ⟨?_, ?_, smallProposal_wellformed _ _⟩
    · norm_num [smallSession, newSession, smallBody, TrustBudget.new]
    · norm_num [smallSession, newSession, smallBody, TrustBudget.new,
        defaultSuspicionThreshold]
  obtain ⟨reason, rfl⟩ := transition.accepts bound stored proposalText_isProposal acceptable
  obtain ⟨session, found, grant⟩ := transition.session_kept stored
  have early := punctual smallLibraries smallState [] _ final (opened.snoc stepped)
    (3600 * nanosPerSecond) 0 "r-1" proposalText smallId "p-1" reason session (by simp) found
  rw [grant.expiresAt] at early
  exact lt_irrefl _ early

/-- Two proposals in time, the second in the last nanosecond, and one too late. -/
def punctualEvents : List SatelliteEvent :=
  [
    .receive 6 0 "r-1" proposalText,
    .receive (3600 * nanosPerSecond - 1) 0 "r-2" proposalText,
    .receive (3600 * nanosPerSecond) 0 "r-3" proposalText
  ]

def punctualTrace : List (SatelliteEvent × SatelliteOutput) :=
  [smallCreation 3, smallUpgrade]
  ++ punctualEvents.zip
    [
      .replied smallId (.adjudicationResult "p-1" true none),
      .replied smallId (.adjudicationResult "p-1" true none),
      .replied smallId (.sessionTerminated "trust budget exhausted")
    ]

/-- A proposal in time and one too late. -/
def lateEvents : List SatelliteEvent :=
  [
    .receive 6 0 "r-1" proposalText,
    .receive (3600 * nanosPerSecond) 0 "r-2" proposalText
  ]

def lateTrace : List (SatelliteEvent × SatelliteOutput) :=
  [smallCreation 3, smallUpgrade]
  ++ lateEvents.zip
    [
      .replied smallId (.adjudicationResult "p-1" true none),
      .replied smallId (.adjudicationResult "p-1" true none)
    ]

/-- Where the small session with three units is after some events. -/
def smallAfter (events : List SatelliteEvent) : EndpointState :=
  (satelliteEndpoint smallLibraries smallState).stateAfter (boundEndpoint 3) events

/-- The late proposal finds a session with three units at its last unit and is not accepted;
the condition holds. One that comes when two are left is accepted, and it does not.
-/
theorem noLateAcceptance_iff_example
    : (∀ earlier event output later,
        punctualTrace = earlier ++ (event, output) :: later
        → ∀ endpoint,
            (satelliteEndpoint smallLibraries smallState).Run (.start []) earlier endpoint
            → Timely smallLibraries smallState endpoint event)
      ∧ ¬∀ earlier event output later,
          lateTrace = earlier ++ (event, output) :: later
          → ∀ endpoint,
              (satelliteEndpoint smallLibraries smallState).Run (.start []) earlier endpoint
              → Timely smallLibraries smallState endpoint event := by
  have punctual
      : (satelliteEndpoint smallLibraries smallState).Run (.start []) punctualTrace
          (smallAfter punctualEvents) :=
    (boundEndpoint_run 3).fed (by decide +kernel)
  have late
      : (satelliteEndpoint smallLibraries smallState).Run (.start []) lateTrace
          (smallAfter lateEvents) :=
    (boundEndpoint_run 3).fed (by decide +kernel)
  refine ⟨(noLateAcceptance_iff punctual).mp ?_, ?_⟩
  · intro now socket requestId text sessionId id reason session member found
    obtain ⟨stored, same, expiry⟩ := smallCreation_session punctual
    have accepted : sessionId = smallId ∧ now < 3600 * nanosPerSecond := by
      simp [punctualTrace, punctualEvents, smallCreation, smallUpgrade] at member
      rcases member with ⟨⟨rfl, _⟩, rfl, _⟩ | ⟨⟨rfl, _⟩, rfl, _⟩
      · exact ⟨rfl, by decide⟩
      · exact ⟨rfl, by decide⟩
    obtain ⟨rfl, early⟩ := accepted
    obtain rfl := Option.some.inj (found.symm.trans same)
    rw [expiry]
    exact early
  · rw [← noLateAcceptance_iff late]
    intro none
    obtain ⟨stored, found, expiry⟩ := smallCreation_session late
    have early :=
      none (3600 * nanosPerSecond) 0 "r-2" proposalText smallId "p-1" Option.none stored
      (by decide +kernel) found
    rw [expiry] at early
    exact lt_irrefl _ early

/-- A proposal to a session with at most one unit is answered with termination. -/
theorem Transition.terminates {libraries : SatelliteLibraries} {state : AppState}
    {before after : EndpointState} {now : DateTime} {socket : Nat}
    {requestId text sessionId id : String} {session : SatelliteSession}
    {proposal : ToolProposal} {output : SatelliteOutput}
    (transition
      : Transition libraries state before (.receive now socket requestId text) after output)
    (bound : before.sockets.lookup socket = some sessionId)
    (stored : before.session? sessionId = some session)
    (proposes : IsProposal libraries text id proposal)
    (last : session.trustBudget.remaining ≤ 1)
    : ∃ reason, reason ∈ terminationReasons
        ∧ output = .replied sessionId (.sessionTerminated reason) := by
  obtain ⟨session', result, judged, rfl⟩ := transition.judged bound stored proposes
  have exhausted : session'.Terminated := by
    refine .inl ?_
    rw [judged.remaining]
    linarith
  rcases proposalReply_spec id session' result with ⟨_, reason, counted, reply⟩ | ⟨running, _⟩
  · exact ⟨reason, counted, by rw [reply]⟩
  · exact (running exhausted).elim

/-- A session whose only unit is spent is reopened with the same token. -/
theorem neverReopened_fails
    : ¬∀ (libraries : SatelliteLibraries) (state : AppState) (secret : List UInt8)
          (trace : List (SatelliteEvent × SatelliteOutput)) (final : EndpointState),
        InjectiveTags libraries secret
        → (satelliteEndpoint libraries state).Run (.start secret) trace final
        → NeverReopened trace := by
  intro closed
  have opened := boundEndpoint_run 1
  have stored : (boundEndpoint 1).session? smallId = some (smallSession 1) :=
    smallEndpoint_session 1
  have bound : (boundEndpoint 1).sockets.lookup 0 = some smallId := AList.lookup_insert _
  obtain ⟨ended, output, stepped⟩ :=
    receive_step smallLibraries smallState bound 6 "r-1" proposalText
  obtain ⟨reason, counted, rfl⟩ :=
    (endpointStep_transition stepped).1.terminates bound stored proposalText_isProposal
      (le_of_eq rfl)
  have run := opened.snoc stepped
  have listed : ended.sessionIds.Perm ended.sessionIds := .refl _
  obtain ⟨socket, fresh⟩ : ∃ socket, socket ∉ ended.sockets :=
    (Infinite.exists_notMem_finset ended.sockets.keys.toFinset).imp
      (fun _ absent => by simpa [AList.mem_keys] using absent)
  have reopened := run.snoc
    (upgrade_step listed fresh (smallEndpoint_wsUpgrade run listed (by decide : (7 : Int) < _)))
  refine closed smallLibraries smallState [] _ _ (smallLibraries_tags []) reopened
    [smallCreation 1, smallUpgrade] _ smallId reason _ rfl counted 7 _ socket _ smallId ?_
    (List.mem_singleton.mpr rfl)
  exact ⟨0, none, none, smallBody 1, smallResponse, List.mem_cons_self, rfl⟩

/-- A session whose only unit is spent. -/
def spentTrace : List (SatelliteEvent × SatelliteOutput) :=
  [
    smallCreation 1,
    smallUpgrade,
    (
      .receive 6 0 "r-1" proposalText,
      .replied smallId (.sessionTerminated "trust budget exhausted")
    )
  ]

def spentEndpoint : EndpointState :=
  (satelliteEndpoint smallLibraries smallState).stateAfter (boundEndpoint 1)
    [.receive 6 0 "r-1" proposalText]

theorem spentEndpoint_run
    : (satelliteEndpoint smallLibraries smallState).Run (.start []) spentTrace
        spentEndpoint :=
  (boundEndpoint_run 1).fed (by decide +kernel)

/-- Its token again, on a new socket. -/
def smallRetry (now : DateTime) (output : SatelliteOutput) : SatelliteEvent × SatelliteOutput :=
  (.wsUpgrade now [smallId] 1 smallResponse.token, output)

theorem spentEndpoint_retry_early
    : (satelliteEndpoint smallLibraries smallState).Run (.start [])
        (spentTrace ++ [smallRetry 7 (.upgraded smallId)])
        { spentEndpoint with sockets := spentEndpoint.sockets.insert 1 smallId } := by
  have listed : [smallId].Perm spentEndpoint.sessionIds := by decide +kernel
  exact spentEndpoint_run.snoc
    (upgrade_step listed (by decide +kernel)
      (smallEndpoint_wsUpgrade spentEndpoint_run listed (by decide)))

theorem spentEndpoint_retry_late
    : (satelliteEndpoint smallLibraries smallState).Run (.start [])
        (spentTrace
          ++ [
            smallRetry (3600 * nanosPerSecond)
              (.refused (.authError "invalid or expired session token"))
          ])
        spentEndpoint := by
  have listed : [smallId].Perm spentEndpoint.sessionIds := by decide +kernel
  have refused
      : wsUpgrade smallLibraries spentEndpoint.satellite (3600 * nanosPerSecond) [smallId]
            smallResponse.token
        = .error (.authError "invalid or expired session token") :=
    smallEndpoint_wsUpgrade_late spentEndpoint_run listed (le_refl _)
  refine spentEndpoint_run.snoc ?_
  have new : 1 ∉ spentEndpoint.sockets := by decide +kernel
  simp only [satelliteEndpoint, endpointStep, if_pos (And.intro listed new), refused]

/-- A terminated session stays closed if its token comes back when it expires, and not if it
comes back before.
-/
theorem neverReopened_iff_example
    : NeverReopened
          (spentTrace
            ++ [
              smallRetry (3600 * nanosPerSecond)
                (.refused (.authError "invalid or expired session token"))
            ])
      ∧ ¬OnlyRetriedExpired (spentTrace ++ [smallRetry 7 (.upgraded smallId)])
          { spentEndpoint with sockets := spentEndpoint.sockets.insert 1 smallId } := by
  refine ⟨(neverReopened_iff (smallLibraries_tags []) spentEndpoint_retry_late).mpr ?_, ?_⟩
  · intro earlier event sessionId reason later whole counted now order socket token output
      session issued member stored
    rcases earlier with _ | ⟨first, _ | ⟨second, _ | ⟨third, earlier⟩⟩⟩
    · simp [spentTrace, smallCreation] at whole
    · simp [spentTrace, smallUpgrade] at whole
    · simp only [spentTrace, List.cons_append, List.nil_append, List.cons.injEq,
        Prod.mk.injEq, SatelliteOutput.replied.injEq] at whole
      obtain ⟨rfl, rfl, ⟨_, rfl, _⟩, rfl⟩ := whole
      obtain ⟨session', stored', expiry⟩ := smallCreation_session spentEndpoint_run
      obtain rfl := Option.some.inj (stored.symm.trans stored')
      simp only [smallRetry, List.mem_singleton, Prod.mk.injEq,
        SatelliteEvent.wsUpgrade.injEq] at member
      rw [expiry, member.1.1]
    · cases earlier <;> simp [spentTrace, smallRetry] at whole
  · rw [← neverReopened_iff (smallLibraries_tags []) spentEndpoint_retry_early]
    intro closed
    refine closed [smallCreation 1, smallUpgrade] _ smallId "trust budget exhausted" _ rfl
      (by decide) 7 [smallId] 1 smallResponse.token smallId ?_ List.mem_cons_self
    exact ⟨0, none, none, smallBody 1, smallResponse, List.mem_cons_self, rfl⟩

end Intellisphere.Sphere
