import Intellisphere.Foundation.Machine
import Intellisphere.Sphere.Satellite.Protocol

/-! The satellite endpoint as a machine: session requests, upgrades, messages and
disconnects arrive in any order, each with the clock reading it happens at. The session map
is locked for each of them.
-/

namespace Intellisphere.Sphere

open Intellisphere.Foundation

/-- The satellite state and the open sockets, each bound to its session. -/
structure EndpointState where
  satellite : Option SatelliteState
  sockets : AList (fun _ : Nat => String)

/-- The endpoint of a freshly started server. -/
def EndpointState.start (serverSecret : List UInt8) : EndpointState :=
  { satellite := some (.new serverSecret), sockets := ∅ }

/-- The session stored under an id. -/
def EndpointState.session? (state : EndpointState) (sessionId : String)
    : Option SatelliteSession :=
  state.satellite.bind (fun configured => configured.sessionManager.get sessionId)

/-- The ids of the stored sessions. -/
def EndpointState.sessionIds (state : EndpointState) : List String :=
  match state.satellite with
  | none => []
  | some configured => configured.sessionManager.sessions.keys

/-- What happens at the endpoint. Fresh identifiers come with the event that draws them, and
an upgrade with the order in which the session map iterates.
-/
inductive SatelliteEvent where
  | createSession (now : DateTime) (sessionId : String)
    (authorization apiKey : Option String) (body : CreateSessionRequest)
  | wsUpgrade (now : DateTime) (order : List String) (socket : Nat) (token : String)
  | receive (now : DateTime) (socket : Nat) (requestId text : String)
  | heartbeat (socket : Nat)
  | disconnect (socket : Nat)
  deriving DecidableEq

inductive SatelliteOutput where
  | created (response : CreateSessionResponse)
  | refused (error : SphereError)
  | panicked
  | upgraded (sessionId : String)
  | replied (sessionId : String) (message : SatelliteMessage)
  | pinged
  | disconnected
  deriving DecidableEq

/-- The text of a version 4 UUID consists of hexadecimal digits and dashes. -/
def isUuidText (text : String) : Bool :=
  text.toList.all (fun c => c.isDigit || ('a' ≤ c && c ≤ 'f') || c == '-')

def SatelliteMessage.isTermination : SatelliteMessage → Bool
  | .sessionTerminated _ => true
  | _ => false

section Endpoint

variable (libraries : SatelliteLibraries) (state : AppState)

/-- One event at the endpoint. A session id is a UUID not in use; a socket is new when it is
opened and stays open until it disconnects or its session answers a termination.
-/
def endpointStep (endpoint : EndpointState)
    : SatelliteEvent → Option (EndpointState × SatelliteOutput)
  | .createSession now sessionId authorization apiKey body =>
      if isUuidText sessionId && (endpoint.session? sessionId).isNone then
        let (satellite, response) :=
          createSession libraries state endpoint.satellite now sessionId authorization apiKey
            body
        let output :=
          match response with
          | .ok response => .created response
          | .error (.error error) => .refused error
          | .error .panicked => .panicked
        some ({ endpoint with satellite }, output)
      else none
  | .wsUpgrade now order socket token =>
      if order.Perm endpoint.sessionIds ∧ socket ∉ endpoint.sockets then
        match wsUpgrade libraries endpoint.satellite now order token with
        | .error error => some (endpoint, .refused error)
        | .ok sessionId =>
            some
              (
                { endpoint with sockets := endpoint.sockets.insert socket sessionId },
                .upgraded sessionId
              )
      else none
  | .receive _ socket requestId text =>
      match endpoint.sockets.lookup socket with
      | none => none
      | some sessionId =>
          let (satellite, message) :=
            handleMessage libraries state endpoint.satellite sessionId requestId text
          let sockets :=
            if message.isTermination then endpoint.sockets.erase socket
            else endpoint.sockets
          some ({ satellite, sockets }, .replied sessionId message)
  | .heartbeat socket =>
      if socket ∈ endpoint.sockets then some (endpoint, .pinged) else none
  | .disconnect socket =>
      if socket ∈ endpoint.sockets then
        some ({ endpoint with sockets := endpoint.sockets.erase socket }, .disconnected)
      else none

def satelliteEndpoint : Machine EndpointState SatelliteEvent SatelliteOutput where
  step := endpointStep libraries state

-----------------------------------------------------------------------------------------
-- What a step can do
-----------------------------------------------------------------------------------------

/-- Outputs that neither concern a session nor change one. -/
def SatelliteOutput.isIdle : SatelliteOutput → Bool
  | .refused _ => true
  | .panicked => true
  | .pinged => true
  | .disconnected => true
  | _ => false

/-- The event is a message on a socket. -/
def SatelliteEvent.isReceive : SatelliteEvent → Bool
  | .receive _ _ _ _ => true
  | _ => false

/-- The text is a tool proposal. -/
def IsProposal (text : String) (id : String) (proposal : ToolProposal) : Prop :=
  libraries.decodeMessage text
    = .ok (.toolProposal id proposal.toolName proposal.resultPayload)

/-- Every session but the given one is what it was. -/
def OthersKept (sessionId : String) (before after : EndpointState) : Prop :=
  ∀ other, other ≠ sessionId → after.session? other = before.session? other

/-- The steps of the endpoint, seen from the sessions. -/
inductive Transition (before : EndpointState)
    : SatelliteEvent → EndpointState → SatelliteOutput → Prop
  | created {now : DateTime} {sessionId : String} {authorization apiKey : Option String}
    {body : CreateSessionRequest} {after : EndpointState} {configured : SatelliteState}
    {identity : Identity} {expiresAt : DateTime}
    (uuid : isUuidText sessionId = true) (fresh : before.session? sessionId = none)
    (present : before.satellite = some configured)
    (authenticated
      : state.ingressGate.authenticate libraries.decodeJwt authorization apiKey = .ok identity)
    (expiry
      : sessionExpiry now (body.durationSecs.getD sessionDurationSecs) = .ok expiresAt)
    (stored
      : after.session? sessionId = some (newSession sessionId identity.sub body expiresAt))
    (others : OthersKept sessionId before after)
    : Transition before (.createSession now sessionId authorization apiKey body) after
        (.created
          {
            sessionId
            token :=
              generateToken libraries sessionId identity.sub (libraries.rfc3339 expiresAt)
                configured.serverSecret
            expiresAt := libraries.rfc3339 expiresAt
          })
  | upgraded {now : DateTime} {order : List String} {socket : Nat} {token sessionId : String}
    {after : EndpointState} (listed : order.Perm before.sessionIds)
    (found : wsUpgrade libraries before.satellite now order token = .ok sessionId)
    (kept : ∀ other, after.session? other = before.session? other)
    : Transition before (.wsUpgrade now order socket token) after (.upgraded sessionId)
  | adjudicated {now : DateTime} {socket : Nat} {requestId text sessionId id : String}
    {proposal : ToolProposal} {session session' : SatelliteSession}
    {result : AdjudicationResult} {after : EndpointState}
    (bound : before.sockets.lookup socket = some sessionId)
    (proposes : IsProposal libraries text id proposal)
    (stored : before.session? sessionId = some session)
    (judged
      : Adjudicated state.toolRegistry state.pipeline requestId session proposal session'
          result)
    (updated : after.session? sessionId = some session')
    (others : OthersKept sessionId before after)
    : Transition before (.receive now socket requestId text) after
        (.replied sessionId (proposalReply id session' result))
  | answered {now : DateTime} {socket : Nat} {requestId text sessionId : String}
    {message : SatelliteMessage} {after : EndpointState}
    (bound : before.sockets.lookup socket = some sessionId)
    (kept : ∀ other, after.session? other = before.session? other)
    (unjudged
      : (∀ id proposal, ¬IsProposal libraries text id proposal)
        ∨ before.session? sessionId = none)
    (plain
      : (∃ error, message = .error error) ∨ message = .ping
        ∨ message = .sessionTerminated "session not found")
    : Transition before (.receive now socket requestId text) after
        (.replied sessionId message)
  | idle {event : SatelliteEvent} {after : EndpointState} {output : SatelliteOutput}
    (kept : ∀ other, after.session? other = before.session? other)
    (quiet : output.isIdle = true) (unread : event.isReceive = false)
    : Transition before event after output

end Endpoint

section Steps

variable {libraries : SatelliteLibraries} {state : AppState}

/-- The server secret. -/
def EndpointState.secret? (endpoint : EndpointState) : Option (List UInt8) :=
  endpoint.satellite.map SatelliteState.serverSecret

/-- The step of a session request. Witness: the handler's error exits leave the sessions
alone, and its last branch stores the session it answers with.
-/
theorem createSession_transition {before after : EndpointState} {now : DateTime}
    {sessionId : String} {authorization apiKey : Option String} {body : CreateSessionRequest}
    {output : SatelliteOutput}
    (stepped
      : endpointStep libraries state before
          (.createSession now sessionId authorization apiKey body) = some (after, output))
    : Transition libraries state before
          (.createSession now sessionId authorization apiKey body) after output
      ∧ after.secret? = before.secret? := by
  simp only [endpointStep, Bool.and_eq_true, Option.isNone_iff_eq_none] at stepped
  split at stepped
  next fresh =>
    obtain ⟨uuid, fresh⟩ := fresh
    obtain ⟨rfl, rfl⟩ := Prod.mk.inj (Option.some.inj stepped)
    simp only [createSession]
    split
    · exact ⟨.idle (fun _ => rfl) rfl rfl, rfl⟩
    next identity authenticated =>
      split
      next failure _ =>
        cases failure with
        | error error => exact ⟨.idle (fun _ => rfl) rfl rfl, rfl⟩
        | panicked => exact ⟨.idle (fun _ => rfl) rfl rfl, rfl⟩
      next expiresAt expiry =>
        split
        next missing =>
          refine ⟨.idle (fun _ => ?_) rfl rfl, ?_⟩
          · simp only [EndpointState.session?, missing]
          · simp only [EndpointState.secret?, missing]
        next configured present =>
          refine ⟨.created uuid fresh present authenticated expiry ?_ ?_, ?_⟩
          · exact SessionManager.get_create_self _ _ _ _ _
          · intro other differs
            simp only [EndpointState.session?, present, Option.bind_some]
            exact SessionManager.get_create_ne _ _ _ _ differs
          · simp only [EndpointState.secret?, present, Option.map_some]
  · contradiction

/-- What handling a message does: a proposal to a stored session is adjudicated, and any
other message gets a plain answer and changes nothing.
-/
inductive Handled (libraries : SatelliteLibraries) (state : AppState)
    (satellite : Option SatelliteState) (sessionId requestId text : String)
    : Option SatelliteState → SatelliteMessage → Prop
  | judged {configured : SatelliteState} {session session' : SatelliteSession}
    {result : AdjudicationResult} {id : String} {proposal : ToolProposal}
    (present : satellite = some configured)
    (stored : configured.sessionManager.get sessionId = some session)
    (proposes : IsProposal libraries text id proposal)
    (judged
      : Adjudicated state.toolRegistry state.pipeline requestId session proposal session'
          result)
    : Handled libraries state satellite sessionId requestId text
        (some
          {
            configured with
            sessionManager := configured.sessionManager.put sessionId session'
          })
        (proposalReply id session' result)
  | plain {message : SatelliteMessage}
    (unjudged
      : (∀ id proposal, ¬IsProposal libraries text id proposal)
        ∨ satellite.bind (fun configured => configured.sessionManager.get sessionId) = none)
    (plain
      : (∃ error, message = .error error) ∨ message = .ping
        ∨ message = .sessionTerminated "session not found")
    : Handled libraries state satellite sessionId requestId text satellite message

/-- Handling does one of these. Witness: case analysis of the decoded message. -/
theorem handleMessage_handled (satellite : Option SatelliteState)
    (sessionId requestId text : String)
    : Handled libraries state satellite sessionId requestId text
        (handleMessage libraries state satellite sessionId requestId text).1
        (handleMessage libraries state satellite sessionId requestId text).2 := by
  cases decoded : libraries.decodeMessage text with
  | error message =>
      simp only [handleMessage, decoded]
      exact .plain (.inl (by simp [IsProposal, decoded])) (.inl ⟨_, rfl⟩)
  | ok message =>
      cases message with
      | toolProposal id toolName resultPayload =>
          simp only [handleMessage, decoded]
          cases satellite with
          | none => exact .plain (.inr rfl) (.inl ⟨_, rfl⟩)
          | some configured =>
              cases found : configured.sessionManager.get sessionId with
              | none =>
                  simp only [found]
                  exact .plain (.inr found) (.inr (.inr rfl))
              | some session =>
                  have proposes : IsProposal libraries text id { toolName, resultPayload } :=
                    decoded
                  simp only [found]
                  exact .judged rfl found proposes (adjudicate_spec _ _ _ _ _)
      | pong =>
          simp only [handleMessage, decoded]
          exact .plain (.inl (by simp [IsProposal, decoded])) (.inr (.inl rfl))
      | adjudicationResult | ping | error | sessionTerminated =>
          simp only [handleMessage, decoded]
          exact .plain (.inl (by simp [IsProposal, decoded])) (.inl ⟨_, rfl⟩)

/-- The step of a message. -/
theorem receive_transition {before after : EndpointState} {now : DateTime} {socket : Nat}
    {requestId text : String} {output : SatelliteOutput}
    (stepped
      : endpointStep libraries state before (.receive now socket requestId text)
          = some (after, output))
    : Transition libraries state before (.receive now socket requestId text) after output
      ∧ after.secret? = before.secret? := by
  simp only [endpointStep] at stepped
  split at stepped
  · contradiction
  next sessionId bound =>
    obtain ⟨rfl, rfl⟩ := Prod.mk.inj (Option.some.inj stepped)
    have handled
        : Handled libraries state before.satellite sessionId requestId text _ _ :=
      handleMessage_handled _ _ _ _
    generalize handleMessage libraries state before.satellite sessionId requestId text
      = answer at handled ⊢
    obtain ⟨satellite, message⟩ := answer
    cases handled with
    | @judged configured session session' result id proposal present stored proposes judged =>
        have found (other : String)
            : before.session? other = configured.sessionManager.get other := by
          simp only [EndpointState.session?, present, Option.bind_some]
        refine ⟨.adjudicated bound proposes ((found _).trans stored) judged ?_ ?_, ?_⟩
        · exact SessionManager.get_put_self _ _ _
        · intro other differs
          rw [found]
          exact SessionManager.get_put_ne _ _ differs
        · simp only [EndpointState.secret?, present, Option.map_some]
    | plain unjudged plain => exact ⟨.answered bound (fun _ => rfl) unjudged plain, rfl⟩

/-- Every step of the endpoint is one of the transitions, and none changes the secret. -/
theorem endpointStep_transition {before after : EndpointState} {event : SatelliteEvent}
    {output : SatelliteOutput}
    (stepped : (satelliteEndpoint libraries state).step before event = some (after, output))
    : Transition libraries state before event after output
      ∧ after.secret? = before.secret? := by
  change endpointStep libraries state before event = some (after, output) at stepped
  cases event with
  | createSession now sessionId authorization apiKey body =>
      exact createSession_transition stepped
  | receive now socket requestId text => exact receive_transition stepped
  | wsUpgrade now order socket token =>
      simp only [endpointStep] at stepped
      split at stepped
      next enabled =>
        split at stepped
        · obtain ⟨rfl, rfl⟩ := Prod.mk.inj (Option.some.inj stepped)
          exact ⟨.idle (fun _ => rfl) rfl rfl, rfl⟩
        next sessionId found =>
          obtain ⟨rfl, rfl⟩ := Prod.mk.inj (Option.some.inj stepped)
          exact ⟨.upgraded enabled.1 found (fun _ => rfl), rfl⟩
      · contradiction
  | heartbeat socket =>
      simp only [endpointStep] at stepped
      split at stepped
      · obtain ⟨rfl, rfl⟩ := Prod.mk.inj (Option.some.inj stepped)
        exact ⟨.idle (fun _ => rfl) rfl rfl, rfl⟩
      · contradiction
  | disconnect socket =>
      simp only [endpointStep] at stepped
      split at stepped
      · obtain ⟨rfl, rfl⟩ := Prod.mk.inj (Option.some.inj stepped)
        exact ⟨.idle (fun _ => rfl) rfl rfl, rfl⟩
      · contradiction

/-- The part of a session that is fixed when it is created. -/
structure SameGrant (first second : SatelliteSession) : Prop where
  sessionId : second.sessionId = first.sessionId
  identitySub : second.identitySub = first.identitySub
  expiresAt : second.expiresAt = first.expiresAt

theorem SameGrant.refl (session : SatelliteSession) : SameGrant session session :=
  ⟨rfl, rfl, rfl⟩

theorem SameGrant.trans {first second third : SatelliteSession}
    (left : SameGrant first second) (right : SameGrant second third)
    : SameGrant first third :=
  ⟨right.sessionId.trans left.sessionId, right.identitySub.trans left.identitySub,
    right.expiresAt.trans left.expiresAt⟩

/-- A proposal on a bound socket to a stored session is adjudicated. -/
theorem Transition.judged {before after : EndpointState} {now : DateTime} {socket : Nat}
    {requestId text sessionId id : String} {session : SatelliteSession}
    {proposal : ToolProposal} {output : SatelliteOutput}
    (transition
      : Transition libraries state before (.receive now socket requestId text) after output)
    (bound : before.sockets.lookup socket = some sessionId)
    (stored : before.session? sessionId = some session)
    (proposes : IsProposal libraries text id proposal)
    : ∃ session' result,
        Adjudicated state.toolRegistry state.pipeline requestId session proposal session'
          result
        ∧ output = .replied sessionId (proposalReply id session' result) := by
  cases transition with
  | @adjudicated _ _ _ _ _ id' proposal' _ session' result _ bound' proposes' stored' judged =>
      obtain rfl := Option.some.inj (bound.symm.trans bound')
      obtain rfl := Option.some.inj (stored.symm.trans stored')
      have same :=
        SatelliteMessage.toolProposal.inj (Except.ok.inj (proposes.symm.trans proposes'))
      obtain ⟨rfl, name, payload⟩ := same
      obtain rfl : proposal = proposal' := by
        cases proposal
        cases proposal'
        exact congr (congrArg ToolProposal.mk name) payload
      exact ⟨session', result, judged, rfl⟩
  | answered bound' _ unjudged =>
      obtain rfl := Option.some.inj (bound.symm.trans bound')
      rcases unjudged with other | missing
      · exact (other id proposal proposes).elim
      · rw [missing] at stored
        contradiction
  | idle _ _ unread => contradiction

/-- No step removes a session or changes its grant. -/
theorem Transition.session_kept {before after : EndpointState} {event : SatelliteEvent}
    {output : SatelliteOutput}
    (transition : Transition libraries state before event after output) {sessionId : String}
    {session : SatelliteSession} (stored : before.session? sessionId = some session)
    : ∃ session',
        after.session? sessionId = some session' ∧ SameGrant session session' := by
  cases transition with
  | @created _ created _ _ _ _ _ _ _ _ fresh _ _ _ _ others =>
      have differs : sessionId ≠ created := by
        intro same
        rw [same, fresh] at stored
        contradiction
      exact ⟨session, (others _ differs).trans stored, .refl session⟩
  | @adjudicated _ _ _ _ judgedId _ _ held session' _ _ _ _ found judged updated others =>
      by_cases same : sessionId = judgedId
      · subst same
        obtain rfl := Option.some.inj (found.symm.trans stored)
        exact ⟨session', updated, judged.sessionId, judged.identitySub, judged.expiresAt⟩
      · exact ⟨session, (others _ same).trans stored, .refl session⟩
  | upgraded _ _ kept => exact ⟨session, (kept _).trans stored, .refl session⟩
  | answered _ kept => exact ⟨session, (kept _).trans stored, .refl session⟩
  | idle kept => exact ⟨session, (kept _).trans stored, .refl session⟩

/-- No run removes a session or changes its grant. -/
theorem run_session_kept {start final : EndpointState}
    {trace : List (SatelliteEvent × SatelliteOutput)}
    (run : (satelliteEndpoint libraries state).Run start trace final) {sessionId : String}
    {session : SatelliteSession} (stored : start.session? sessionId = some session)
    : ∃ session',
        final.session? sessionId = some session' ∧ SameGrant session session' := by
  refine run.invariant
    (fun endpoint =>
      ∃ session', endpoint.session? sessionId = some session' ∧ SameGrant session session')
    ?_ ⟨session, stored, .refl session⟩
  intro endpoint event next output held stepped
  obtain ⟨middle, found, same⟩ := held
  obtain ⟨session', found', same'⟩ :=
    (endpointStep_transition stepped).1.session_kept found
  exact ⟨session', found', same.trans same'⟩

end Steps

end Intellisphere.Sphere
