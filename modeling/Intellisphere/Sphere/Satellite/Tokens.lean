import Intellisphere.Sphere.Satellite.TrustBounds

/-! Session tokens bind to exactly one session. The authenticated text starts with the session
id, which has no colon, so tokens of different sessions differ whatever the caller's subject
and the expiry look like, and the search for a token finds the same session in every order.
-/

namespace Intellisphere.Sphere

open Intellisphere.Foundation

/-- A UUID has no colon. -/
theorem colon_not_mem_of_isUuidText {text : String} (uuid : isUuidText text = true)
    : ':' ∉ text.toList := by
  intro member
  have accepted := List.all_eq_true.mp uuid ':' member
  revert accepted
  decide

/-- The authenticated text determines the session id. -/
theorem tokenData_sessionId {sessionId sessionId' identitySub identitySub' : String}
    {expiresAt expiresAt' : String} (uuid : isUuidText sessionId = true)
    (uuid' : isUuidText sessionId' = true)
    (same
      : tokenData sessionId identitySub expiresAt
        = tokenData sessionId' identitySub' expiresAt')
    : sessionId = sessionId' := by
  have chars := congrArg String.toList same
  simp only [tokenData, String.toList_append, List.append_assoc] at chars
  exact String.toList_inj.mp
    (eq_of_append_delimiter (colon_not_mem_of_isUuidText uuid)
      (colon_not_mem_of_isUuidText uuid') chars)

/-- Different texts have different tags under the server's secret. -/
def InjectiveTags (libraries : SatelliteLibraries) (secret : List UInt8) : Prop :=
  Function.Injective (libraries.hmacSha256 secret)

/-- The token that a stored session answers to. -/
def sessionToken (libraries : SatelliteLibraries) (secret : List UInt8) (sessionId : String)
    (session : SatelliteSession)
    : String :=
  generateToken libraries sessionId session.identitySub
    (libraries.rfc3339 session.expiresAt) secret

section Search

variable {libraries : SatelliteLibraries} {secret : List UInt8}

/-- A token fits a session exactly when it is that session's token. -/
theorem tokenFits_iff {token sessionId : String} {session : SatelliteSession}
    : tokenFits libraries secret token sessionId session = true
      ↔ token = sessionToken libraries secret sessionId session := by
  simp only [tokenFits, validateToken, sessionToken, beq_iff_eq]

/-- Sessions with the same token have the same id. -/
theorem sessionToken_sessionId (tags : InjectiveTags libraries secret)
    {sessionId sessionId' : String} {session session' : SatelliteSession}
    (uuid : isUuidText sessionId = true) (uuid' : isUuidText sessionId' = true)
    (same
      : sessionToken libraries secret sessionId session
        = sessionToken libraries secret sessionId' session')
    : sessionId = sessionId' :=
  tokenData_sessionId uuid uuid' (tags (hexEncode_injective same))

/-- A search through entries of which at most one fits finds that one if it has not expired,
wherever it stands. By induction on the entries.
-/
theorem findSession_eq_some_iff {now : DateTime} {token sessionId : String}
    {entries : List (String × SatelliteSession)}
    (unique
      : ∀ first ∈ entries, ∀ second ∈ entries,
          tokenFits libraries secret token first.1 first.2 = true
          → tokenFits libraries secret token second.1 second.2 = true
          → first = second)
    : findSession libraries secret now token entries = some sessionId
      ↔ ∃ session,
          (sessionId, session) ∈ entries
          ∧ tokenFits libraries secret token sessionId session = true
          ∧ now < session.expiresAt := by
  induction entries with
  | nil => simp [findSession]
  | cons entry rest ih =>
      obtain ⟨candidate, stored⟩ := entry
      simp only [findSession]
      by_cases fits : tokenFits libraries secret token candidate stored = true
      · have only {other session}
            (member : (other, session) ∈ (candidate, stored) :: rest)
            (fits' : tokenFits libraries secret token other session = true)
            : (other, session) = (candidate, stored) :=
          unique _ member _ (by simp) fits' fits
        rw [if_pos fits]
        refine ⟨?_, ?_⟩
        · intro found
          split at found
          next alive =>
            obtain rfl := Option.some.inj found
            exact ⟨stored, by simp, fits, alive⟩
          next => contradiction
        · intro found
          obtain ⟨session, member, fits', alive⟩ := found
          obtain ⟨rfl, rfl⟩ := Prod.mk.inj (only member fits')
          rw [if_pos alive]
      · rw [if_neg fits]
        refine (ih (fun first member second member' =>
          unique first (by simp [member]) second (by simp [member']))).trans ?_
        refine exists_congr (fun session => ?_)
        refine ⟨fun found => ⟨by simp [found.1], found.2⟩, ?_⟩
        intro found
        rcases List.mem_cons.mp found.1 with same | later
        · obtain ⟨rfl, rfl⟩ := Prod.mk.inj same
          exact (fits found.2.1).elim
        · exact ⟨later, found.2⟩

end Search

-----------------------------------------------------------------------------------------
-- Issued tokens
-----------------------------------------------------------------------------------------

/-- The token was returned when the session was created. -/
def IsTokenOf (trace : List (SatelliteEvent × SatelliteOutput))
    (sessionId token : String)
    : Prop :=
  ∃ now authorization apiKey body response,
    (SatelliteEvent.createSession now sessionId authorization apiKey body,
        SatelliteOutput.created response) ∈ trace
    ∧ response.token = token

/-- What has been issued for a session id: nothing before it is in use, and afterwards the
token of the stored session and no other.
-/
def Issued (libraries : SatelliteLibraries) (secret : List UInt8) (sessionId : String)
    (trace : List (SatelliteEvent × SatelliteOutput)) (endpoint : EndpointState)
    : Prop :=
  match endpoint.session? sessionId with
  | none => ∀ token, ¬IsTokenOf trace sessionId token
  | some session =>
      isUuidText sessionId = true
      ∧ ∀ token,
          IsTokenOf trace sessionId token
          ↔ token = sessionToken libraries secret sessionId session

section Runs

variable {libraries : SatelliteLibraries} {state : AppState} {secret : List UInt8}
  {sessionId : String} {trace : List (SatelliteEvent × SatelliteOutput)}

/-- An entry that creates no session with this id issues no token for it. -/
theorem isTokenOf_snoc_iff {event : SatelliteEvent} {output : SatelliteOutput}
    {token : String}
    (uncreated
      : ∀ now authorization apiKey body response,
          event = .createSession now sessionId authorization apiKey body
          → output ≠ .created response)
    : IsTokenOf (trace ++ [(event, output)]) sessionId token
      ↔ IsTokenOf trace sessionId token := by
  refine ⟨?_, ?_⟩
  · intro issued
    obtain ⟨now, authorization, apiKey, body, response, member, same⟩ := issued
    rcases List.mem_append.mp member with earlier | last
    · exact ⟨now, authorization, apiKey, body, response, earlier, same⟩
    · obtain ⟨rfl, rfl⟩ := Prod.mk.inj (List.mem_singleton.mp last)
      exact (uncreated _ _ _ _ _ rfl rfl).elim
  · intro issued
    obtain ⟨now, authorization, apiKey, body, response, member, same⟩ := issued
    exact ⟨now, authorization, apiKey, body, response, List.mem_append_left _ member, same⟩

/-- Steps that keep the grant of a session and create no session with its id keep what has
been issued for it.
-/
theorem Issued.snoc {before after : EndpointState}
    (issued : Issued libraries secret sessionId trace before)
    (absent : before.session? sessionId = none → after.session? sessionId = none)
    (kept
      : ∀ session,
          before.session? sessionId = some session
          → ∃ session',
              after.session? sessionId = some session' ∧ SameGrant session session')
    {event : SatelliteEvent} {output : SatelliteOutput}
    (uncreated
      : ∀ now authorization apiKey body response,
          event = .createSession now sessionId authorization apiKey body
          → output ≠ .created response)
    : Issued libraries secret sessionId (trace ++ [(event, output)]) after := by
  cases stored : before.session? sessionId with
  | none =>
      simp only [Issued, stored] at issued
      simp only [Issued, absent stored, isTokenOf_snoc_iff uncreated]
      exact issued
  | some session =>
      obtain ⟨session', found, same⟩ := kept session stored
      simp only [Issued, stored] at issued
      simp only [Issued, found, isTokenOf_snoc_iff uncreated, sessionToken, same.identitySub,
        same.expiresAt]
      exact issued

/-- Every step keeps what has been issued. Witness: creation issues exactly the token of the
session it stores, under the server's secret.
-/
theorem Issued.step {before after : EndpointState} {event : SatelliteEvent}
    {output : SatelliteOutput} (issued : Issued libraries secret sessionId trace before)
    (hidden : before.secret? = some secret)
    (transition : Transition libraries state before event after output)
    : Issued libraries secret sessionId (trace ++ [(event, output)]) after := by
  have kept session (stored : before.session? sessionId = some session) :=
    transition.session_kept stored
  cases transition with
  | @created now createdId authorization apiKey body _ configured identity expiresAt uuid
      fresh present _ _ stored others =>
      by_cases same : sessionId = createdId
      · subst same
        simp only [EndpointState.secret?, present, Option.map_some, Option.some.injEq] at hidden
        simp only [Issued, fresh] at issued
        simp only [Issued, stored]
        refine ⟨uuid, fun token => ⟨?_, ?_⟩⟩
        · intro found
          obtain ⟨_, _, _, _, response, member, rfl⟩ := found
          rcases List.mem_append.mp member with earlier | last
          · exact (issued response.token ⟨_, _, _, _, response, earlier, rfl⟩).elim
          · obtain ⟨_, created⟩ := Prod.mk.inj (List.mem_singleton.mp last)
            rw [SatelliteOutput.created.inj created, hidden]
            rfl
        · intro token_eq
          refine ⟨now, authorization, apiKey, body, _, List.mem_append_right _
            (List.mem_singleton.mpr rfl), ?_⟩
          rw [token_eq, ← hidden]
          rfl
      · refine issued.snoc (others _ same).trans kept ?_
        intro _ _ _ _ _ created
        exact (same (SatelliteEvent.createSession.inj created).2.1.symm).elim
  | @adjudicated _ _ _ _ judgedId _ _ _ _ _ _ _ _ found _ _ others =>
      refine issued.snoc ?_ kept (by simp)
      intro missing
      have differs : sessionId ≠ judgedId := by
        intro same
        rw [same, found] at missing
        contradiction
      exact (others _ differs).trans missing
  | upgraded _ _ same => exact issued.snoc (same _).trans kept (by simp)
  | answered _ same => exact issued.snoc (same _).trans kept (by simp)
  | idle same quiet =>
      refine issued.snoc (same _).trans kept ?_
      intro _ _ _ _ _ _ created
      rw [created] at quiet
      contradiction

/-- The server secret never changes. -/
theorem run_secret {final : EndpointState}
    (run : (satelliteEndpoint libraries state).Run (.start secret) trace final)
    : final.secret? = some secret := by
  refine run.invariant (fun endpoint => endpoint.secret? = some secret) ?_ rfl
  intro before event after output held stepped
  exact (endpointStep_transition stepped).2.trans held

/-- What has been issued is kept over a whole run. -/
theorem run_issued {final : EndpointState}
    (run : (satelliteEndpoint libraries state).Run (.start secret) trace final)
    (sessionId : String)
    : Issued libraries secret sessionId trace final := by
  refine run.history (Issued libraries secret sessionId) ?_ ?_
  · intro token issued
    obtain ⟨_, _, _, _, _, member, _⟩ := issued
    simp at member
  · intro _ before _ _ _ earlier issued stepped
    exact issued.step (run_secret earlier) (endpointStep_transition stepped).1

/-- The stored sessions are those the search goes through. -/
theorem mem_sessionsIter_iff {endpoint : EndpointState} {configured : SatelliteState}
    (present : endpoint.satellite = some configured) {order : List String}
    (listed : order.Perm endpoint.sessionIds) {session : SatelliteSession}
    : (sessionId, session) ∈ configured.sessionManager.sessionsIter order
      ↔ endpoint.session? sessionId = some session := by
  rw [SessionManager.mem_sessionsIter]
  simp only [EndpointState.session?, EndpointState.sessionIds, present, Option.bind_some]
    at listed ⊢
  refine ⟨And.right, fun stored => ⟨?_, stored⟩⟩
  refine listed.mem_iff.mpr (AList.mem_keys.mpr ?_)
  exact AList.lookup_isSome.mp (Option.isSome_iff_exists.mpr ⟨session, stored⟩)

/-- After any run, an upgrade finds a session exactly when the presented token was issued for
it and it has not expired.
-/
theorem run_wsUpgrade_iff (tags : InjectiveTags libraries secret) {final : EndpointState}
    (run : (satelliteEndpoint libraries state).Run (.start secret) trace final)
    {order : List String} (listed : order.Perm final.sessionIds) (now : DateTime)
    (token : String)
    : wsUpgrade libraries final.satellite now order token = .ok sessionId
      ↔ IsTokenOf trace sessionId token
        ∧ ∃ session, final.session? sessionId = some session ∧ now < session.expiresAt := by
  obtain ⟨configured, present, rfl⟩ := Option.map_eq_some_iff.mp (run_secret run)
  have issued {stored session} (found : final.session? stored = some session) := by
    have account := run_issued run stored
    simp only [Issued, found] at account
    exact account
  have unique
      : ∀ first ∈ configured.sessionManager.sessionsIter order,
          ∀ second ∈ configured.sessionManager.sessionsIter order,
            tokenFits libraries configured.serverSecret token first.1 first.2 = true
            → tokenFits libraries configured.serverSecret token second.1 second.2 = true
            → first = second := by
    intro first member second member' fits fits'
    have found := (mem_sessionsIter_iff present listed).mp member
    have found' := (mem_sessionsIter_iff present listed).mp member'
    rw [tokenFits_iff] at fits fits'
    have same := sessionToken_sessionId tags (issued found).1 (issued found').1
      (fits.symm.trans fits')
    rw [same] at found
    exact Prod.ext same (Option.some.inj (found.symm.trans found'))
  have searched
      : wsUpgrade libraries final.satellite now order token = .ok sessionId
        ↔ findSession libraries configured.serverSecret now token
            (configured.sessionManager.sessionsIter order) = some sessionId := by
    simp only [wsUpgrade, present]
    split <;> simp_all
  rw [searched, findSession_eq_some_iff unique]
  refine ⟨?_, ?_⟩
  · intro found
    obtain ⟨session, member, fits, alive⟩ := found
    have stored := (mem_sessionsIter_iff present listed).mp member
    exact ⟨((issued stored).2 token).mpr (tokenFits_iff.mp fits), session, stored, alive⟩
  · intro found
    obtain ⟨valid, session, stored, alive⟩ := found
    exact ⟨session, (mem_sessionsIter_iff present listed).mpr stored,
      tokenFits_iff.mpr (((issued stored).2 token).mp valid), alive⟩

/-- An upgrade without a session to find is always refused for the same reason. -/
theorem run_wsUpgrade_error {final : EndpointState}
    (run : (satelliteEndpoint libraries state).Run (.start secret) trace final)
    {now : DateTime} {order : List String} {token : String} {error : SphereError}
    (refused : wsUpgrade libraries final.satellite now order token = .error error)
    : error = .authError "invalid or expired session token" := by
  obtain ⟨configured, present, _⟩ := Option.map_eq_some_iff.mp (run_secret run)
  simp only [wsUpgrade, present] at refused
  split at refused
  · exact (Except.error.inj refused).symm
  · contradiction

/-- The order in which the map iterates does not matter to an upgrade. -/
theorem run_wsUpgrade_order (tags : InjectiveTags libraries secret) {final : EndpointState}
    (run : (satelliteEndpoint libraries state).Run (.start secret) trace final)
    {order order' : List String} (listed : order.Perm final.sessionIds)
    (listed' : order'.Perm final.sessionIds) (now : DateTime) (token : String)
    : wsUpgrade libraries final.satellite now order' token
      = wsUpgrade libraries final.satellite now order token := by
  cases found : wsUpgrade libraries final.satellite now order token with
  | ok sessionId =>
      rw [run_wsUpgrade_iff tags run listed] at found
      exact (run_wsUpgrade_iff tags run listed' now token).mpr found
  | error error =>
      cases found' : wsUpgrade libraries final.satellite now order' token with
      | ok sessionId =>
          rw [run_wsUpgrade_iff tags run listed'] at found'
          rw [(run_wsUpgrade_iff tags run listed now token).mpr found'] at found
          contradiction
      | error error' => rw [run_wsUpgrade_error run found, run_wsUpgrade_error run found']

/-- The step of an upgrade that finds a session. -/
theorem upgrade_step {endpoint : EndpointState} {order : List String} {socket : Nat}
    (listed : order.Perm endpoint.sessionIds) (new : socket ∉ endpoint.sockets)
    {now : DateTime} {token : String}
    (found : wsUpgrade libraries endpoint.satellite now order token = .ok sessionId)
    : (satelliteEndpoint libraries state).step endpoint (.wsUpgrade now order socket token)
      = some
          (
            { endpoint with sockets := endpoint.sockets.insert socket sessionId },
            .upgraded sessionId
          ) := by
  simp only [satelliteEndpoint, endpointStep, if_pos (And.intro listed new), found]

/-- An upgrade that finds a session binds a new socket to it. -/
theorem upgrade_step_iff {endpoint : EndpointState} {order : List String} {socket : Nat}
    (listed : order.Perm endpoint.sessionIds) (new : socket ∉ endpoint.sockets)
    (now : DateTime) (token : String)
    : (∃ next,
        (satelliteEndpoint libraries state).step endpoint
              (.wsUpgrade now order socket token)
            = some (next, .upgraded sessionId)
        ∧ next.sockets.lookup socket = some sessionId)
      ↔ wsUpgrade libraries endpoint.satellite now order token = .ok sessionId := by
  refine ⟨?_, fun found => ⟨_, upgrade_step listed new found, AList.lookup_insert _⟩⟩
  intro stepped
  obtain ⟨next, stepped, _⟩ := stepped
  simp only [satelliteEndpoint, endpointStep, if_pos (And.intro listed new)] at stepped
  split at stepped
  · simp at stepped
  next found searched =>
    rw [searched, SatelliteOutput.upgraded.inj (Prod.mk.inj (Option.some.inj stepped)).2]

end Runs

/-- Session tokens bind to exactly one session. After any run, presenting a token upgrades a
new socket and binds it to a session exactly when creating that session returned the token
and its expiry lies ahead, and the iteration order of the session map does not change the
outcome.
-/
theorem wsUpgrade_binds (libraries : SatelliteLibraries) (state : AppState)
    {secret : List UInt8} (tags : InjectiveTags libraries secret)
    {trace : List (SatelliteEvent × SatelliteOutput)} {final : EndpointState}
    (run : (satelliteEndpoint libraries state).Run (.start secret) trace final)
    {order : List String} (listed : order.Perm final.sessionIds) {socket : Nat}
    (new : socket ∉ final.sockets) (now : DateTime) (token : String)
    : (∀ sessionId,
        (∃ next,
          (satelliteEndpoint libraries state).step final (.wsUpgrade now order socket token)
              = some (next, .upgraded sessionId)
          ∧ next.sockets.lookup socket = some sessionId)
        ↔ IsTokenOf trace sessionId token
          ∧ ∃ session,
              final.session? sessionId = some session ∧ now < session.expiresAt)
      ∧ ∀ order',
          order'.Perm final.sessionIds
          → (satelliteEndpoint libraries state).step final
                (.wsUpgrade now order' socket token)
              = (satelliteEndpoint libraries state).step final
                  (.wsUpgrade now order socket token) := by
  refine ⟨?_, ?_⟩
  · intro sessionId
    exact (upgrade_step_iff listed new now token).trans
      (run_wsUpgrade_iff tags run listed now token)
  · intro order' listed'
    have same := run_wsUpgrade_order tags run listed listed' now token
    simp only [satelliteEndpoint, endpointStep, if_pos (And.intro listed new),
      if_pos (And.intro listed' new), same]

/-- The three bytes of a character determine it. -/
theorem charBytes_injective : Function.Injective charBytes := by
  have small (c : Char) : c.toNat < 1114112 := by
    have valid := c.valid
    simp only [Char.toNat]
    rcases valid with low | high <;> omega
  intro c d same
  have smallC := small c
  have smallD := small d
  simp only [charBytes, List.cons.injEq, and_true, ← UInt8.toNat_inj, Nat.toUInt8,
    UInt8.toNat_ofNat'] at same
  exact Char.toNat_inj.mp (by omega)

/-- The tags of the small endpoint spell out their text. -/
theorem smallLibraries_tags (secret : List UInt8) : InjectiveTags smallLibraries secret := by
  have fixed (c : Char) : (charBytes c).length = 2 + 1 := rfl
  intro first second same
  exact String.toList_inj.mp (flatMap_injective charBytes_injective fixed same)

/-- A server whose callers have keys; one of them has a subject with colons. -/
def keyedState : AppState :=
  {
    smallState with
    ingressGate :=
      .fromConfig
        {
          enabled := true
          strategies :=
            [
              .apiKey
                [
                  { key := "k-1", identitySub := "ops" },
                  { key := "k-2", identitySub := "ops:1970-01-01T01:00:00+00:00" }
                ]
            ]
        }
  }

/-- The session of one caller. -/
def keyedSession (sessionId identitySub : String) : SatelliteSession :=
  newSession sessionId identitySub (smallBody 2) (3600 * nanosPerSecond)

/-- The token of that session. -/
def keyedToken (sessionId identitySub : String) : String :=
  sessionToken smallLibraries [] sessionId (keyedSession sessionId identitySub)

def keyedSessions : AList (fun _ : String => SatelliteSession) :=
  AList.insert otherId (keyedSession otherId "ops:1970-01-01T01:00:00+00:00")
    (AList.insert smallId (keyedSession smallId "ops") ∅)

/-- The endpoint with a session of each caller. -/
def keyedEndpoint : EndpointState :=
  {
    satellite := some { sessionManager := { sessions := keyedSessions }, serverSecret := [] }
    sockets := ∅
  }

/-- The endpoint before the second caller comes. -/
def firstKeyed : EndpointState :=
  {
    satellite :=
      some
        {
          sessionManager :=
            { sessions := AList.insert smallId (keyedSession smallId "ops") ∅ }
          serverSecret := []
        }
    sockets := ∅
  }

/-- Creating the session of the caller with a key. -/
def keyedCreation (sessionId apiKey identitySub : String) : SatelliteEvent × SatelliteOutput :=
  (
    .createSession 0 sessionId none (some apiKey) (smallBody 2),
    .created
      {
        sessionId
        token := keyedToken sessionId identitySub
        expiresAt := smallLibraries.rfc3339 (3600 * nanosPerSecond)
      }
  )

def keyedTrace : List (SatelliteEvent × SatelliteOutput) :=
  [
    keyedCreation smallId "k-1" "ops",
    keyedCreation otherId "k-2" "ops:1970-01-01T01:00:00+00:00"
  ]

theorem keyedEndpoint_run
    : (satelliteEndpoint smallLibraries keyedState).Run (.start []) keyedTrace
        keyedEndpoint := by
  have expiry
      : sessionExpiry 0 ((smallBody 2).durationSecs.getD sessionDurationSecs)
        = .ok (3600 * nanosPerSecond) := by
    decide
  have ops
      : keyedState.ingressGate.authenticate smallLibraries.decodeJwt none (some "k-1")
        = .ok (ApiKeyEntry.identity { key := "k-1", identitySub := "ops" }) :=
    rfl
  have colons
      : keyedState.ingressGate.authenticate smallLibraries.decodeJwt none (some "k-2")
        = .ok
            (ApiKeyEntry.identity
              { key := "k-2", identitySub := "ops:1970-01-01T01:00:00+00:00" }) :=
    rfl
  have first
      : (satelliteEndpoint smallLibraries keyedState).step (.start [])
            (keyedCreation smallId "k-1" "ops").1
        = some (firstKeyed, (keyedCreation smallId "k-1" "ops").2) := by
    have uuid : isUuidText smallId = true := by decide
    have fresh : (EndpointState.start []).session? smallId = none := rfl
    simp only [satelliteEndpoint, keyedCreation, endpointStep, uuid, fresh, createSession, ops,
      expiry]
    rfl
  have run := Machine.Run.single first
  refine run.snoc ?_
  have uuid : isUuidText otherId = true := by decide
  simp only [satelliteEndpoint, endpointStep, uuid, createSession, colons, expiry]
  rfl

/-- The token of the first session upgrades a socket to it, in either order of the sessions,
and to no other.
-/
theorem wsUpgrade_binds_example
    : (∃ next,
        (satelliteEndpoint smallLibraries keyedState).step keyedEndpoint
              (.wsUpgrade 5 [smallId, otherId] 0 (keyedToken smallId "ops"))
            = some (next, .upgraded smallId)
        ∧ next.sockets.lookup 0 = some smallId)
      ∧ (satelliteEndpoint smallLibraries keyedState).step keyedEndpoint
            (.wsUpgrade 5 [otherId, smallId] 0 (keyedToken smallId "ops"))
          = (satelliteEndpoint smallLibraries keyedState).step keyedEndpoint
              (.wsUpgrade 5 [smallId, otherId] 0 (keyedToken smallId "ops"))
      ∧ ¬IsTokenOf keyedTrace otherId (keyedToken smallId "ops") := by
  have binds := wsUpgrade_binds smallLibraries keyedState (smallLibraries_tags [])
    keyedEndpoint_run (.swap otherId smallId [] : [smallId, otherId].Perm [otherId, smallId])
    (AList.notMem_empty 0) 5 (keyedToken smallId "ops")
  have upgraded :=
    (binds.1 smallId).mpr
      ⟨⟨0, none, some "k-1", smallBody 2, _, List.mem_cons_self, rfl⟩,
        keyedSession smallId "ops", rfl, by decide⟩
  refine ⟨upgraded, binds.2 _ (.refl _), ?_⟩
  intro issued
  obtain ⟨next, stepped, _⟩ := upgraded
  obtain ⟨next', stepped', _⟩ :=
    (binds.1 otherId).mpr
      ⟨issued, keyedSession otherId "ops:1970-01-01T01:00:00+00:00", rfl, by decide⟩
  rw [stepped] at stepped'
  simp [smallId, otherId] at stepped'

end Intellisphere.Sphere
