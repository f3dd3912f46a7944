import Intellisphere.Foundation.Observation
import Intellisphere.Sphere.Satellite.Lifetime

/-! Sessions do not interfere. What happens to a session at an endpoint with any number of them
is what happens to it at an endpoint that has no other: the same events have the same outputs
there, and leave the same session behind. Tags of the server's secret are taken to be injective.
-/

namespace Intellisphere.Sphere

open Intellisphere.Foundation

/-- The token is the one of a stored session. -/
def EndpointState.presents (libraries : SatelliteLibraries) (endpoint : EndpointState)
    (sessionId token : String)
    : Bool :=
  match endpoint.secret?, endpoint.session? sessionId with
  | some secret, some session => tokenFits libraries secret token sessionId session
  | _, _ => false

/-- What concerns a session: its creation, the upgrades that present its token, whether they
are granted or refused, and whatever happens on its sockets. An upgrade is noted with this
session alone to go through.
-/
def noteSession (libraries : SatelliteLibraries) (sessionId : String) (before : EndpointState)
    : SatelliteEvent → SatelliteOutput → List (SatelliteEvent × SatelliteOutput)
  | .createSession now createdId authorization apiKey body, .created response =>
      if createdId = sessionId then
        [(.createSession now createdId authorization apiKey body, .created response)]
      else []
  | .wsUpgrade now _ socket token, output =>
      if before.presents libraries sessionId token then
        [(.wsUpgrade now [sessionId] socket token, output)]
      else []
  | .receive now socket requestId text, output =>
      if before.sockets.lookup socket = some sessionId then
        [(.receive now socket requestId text, output)]
      else []
  | .heartbeat socket, output =>
      if before.sockets.lookup socket = some sessionId then [(.heartbeat socket, output)]
      else []
  | .disconnect socket, output =>
      if before.sockets.lookup socket = some sessionId then [(.disconnect socket, output)]
      else []
  | _, _ => []

/-- The second endpoint has of the first one what belongs to a session, and nothing else. -/
structure Alone (sessionId : String) (whole alone : EndpointState) : Prop where
  secret : alone.secret? = whole.secret?
  own : alone.session? sessionId = whole.session? sessionId
  others : ∀ other, other ≠ sessionId → alone.session? other = none
  sockets
    : ∀ socket,
        alone.sockets.lookup socket
        = (whole.sockets.lookup socket).filter (fun bound => bound = sessionId)

/-- A fresh endpoint has nothing. -/
theorem Alone.start (sessionId : String) (secret : List UInt8)
    : Alone sessionId (.start secret) (.start secret) where
  secret := rfl
  own := rfl
  others _ _ := rfl
  sockets _ := rfl

section Steps

variable {libraries : SatelliteLibraries} {state : AppState} {sessionId : String}
  {whole alone : EndpointState}

/-- What is bound to the session alone is what is bound to it at all. -/
theorem Alone.bound_iff (related : Alone sessionId whole alone) (socket : Nat)
    : alone.sockets.lookup socket = some sessionId
      ↔ whole.sockets.lookup socket = some sessionId := by
  rw [related.sockets socket]
  cases whole.sockets.lookup socket with
  | none => simp
  | some bound => simp [Option.filter_some]

/-- A step that concerns other sessions only keeps what belongs to this one. -/
theorem Alone.frame (related : Alone sessionId whole alone) {next : EndpointState}
    (secret : next.secret? = whole.secret?)
    (own : next.session? sessionId = whole.session? sessionId)
    (sockets
      : ∀ socket,
          (next.sockets.lookup socket).filter (fun bound => bound = sessionId)
          = (whole.sockets.lookup socket).filter (fun bound => bound = sessionId))
    : Alone sessionId next alone where
  secret := related.secret.trans secret.symm
  own := related.own.trans own.symm
  others := related.others
  sockets socket := (related.sockets socket).trans (sockets socket).symm

/-- What a message is answered with and what it makes of its session depend on nothing but the
session.
-/
theorem handleMessage_local {first second : Option SatelliteState} (requestId text : String)
    (same
      : first.map (fun configured => configured.sessionManager.get sessionId)
        = second.map (fun configured => configured.sessionManager.get sessionId))
    : (handleMessage libraries state first sessionId requestId text).2
        = (handleMessage libraries state second sessionId requestId text).2
      ∧ (handleMessage libraries state first sessionId requestId text).1.map
            (fun configured => configured.sessionManager.get sessionId)
          = (handleMessage libraries state second sessionId requestId text).1.map
              (fun configured => configured.sessionManager.get sessionId) := by
  cases decoded : libraries.decodeMessage text with
  | error message =>
      simp only [handleMessage, decoded, true_and]
      exact same
  | ok message =>
      cases message with
      | toolProposal id toolName resultPayload =>
          simp only [handleMessage, decoded]
          cases first with
          | none =>
              cases second with
              | none => exact ⟨rfl, rfl⟩
              | some configured => simp at same
          | some configured =>
              cases second with
              | none => simp at same
              | some configured' =>
                  have stored := Option.some.inj same
                  simp only [← stored]
                  cases found : configured.sessionManager.get sessionId with
                  | none => exact ⟨rfl, by simpa [found] using stored⟩
                  | some session => simp
      | pong | adjudicationResult | ping | error | sessionTerminated =>
          simp only [handleMessage, decoded, true_and]
          exact same

/-- The stored session is what the endpoint looks like from it. -/
theorem EndpointState.session?_eq_bind (endpoint : EndpointState)
    : endpoint.session? sessionId
      = (endpoint.satellite.map
          (fun configured => configured.sessionManager.get sessionId)).bind id := by
  rw [EndpointState.session?]
  cases endpoint.satellite <;> rfl

/-- Both endpoints look the same from the session. -/
theorem Alone.view (related : Alone sessionId whole alone)
    : alone.satellite.map (fun configured => configured.sessionManager.get sessionId)
      = whole.satellite.map (fun configured => configured.sessionManager.get sessionId) := by
  have secret := related.secret
  have own := related.own
  simp only [EndpointState.secret?, EndpointState.session?] at secret own
  cases here : alone.satellite with
  | none =>
      rw [here] at secret
      rw [Option.map_eq_none_iff.mp secret.symm]
  | some configured =>
      rw [here] at secret own
      obtain ⟨configured', there, _⟩ := Option.map_eq_some_iff.mp secret.symm
      rw [there] at own ⊢
      exact congrArg some own

/-- Alone, the session is the only one there is. -/
theorem Alone.sessionIds_perm (related : Alone sessionId whole alone)
    {session : SatelliteSession} (stored : whole.session? sessionId = some session)
    : [sessionId].Perm alone.sessionIds := by
  have own := related.own.trans stored
  have others := related.others
  simp only [EndpointState.session?, EndpointState.sessionIds] at own others ⊢
  cases present : alone.satellite with
  | none => simp [present] at own
  | some configured =>
      simp only [present, Option.bind_some] at own others ⊢
      refine (List.perm_ext_iff_of_nodup (List.nodup_singleton _)
        (AList.keys_nodup _)).mpr (fun other => ?_)
      rw [List.mem_singleton, ← AList.mem_keys, ← AList.lookup_isSome]
      by_cases same : other = sessionId
      · subst same
        simp only [true_iff]
        exact Option.isSome_iff_exists.mpr ⟨session, own⟩
      · have absent : configured.sessionManager.sessions.lookup other = none :=
          others other same
        simp [same, absent]

/-- A session request opens and closes no socket. -/
theorem createSession_sockets {next : EndpointState} {now : DateTime} {createdId : String}
    {authorization apiKey : Option String} {body : CreateSessionRequest}
    {output : SatelliteOutput}
    (stepped
      : endpointStep libraries state whole
          (.createSession now createdId authorization apiKey body) = some (next, output))
    : next.sockets = whole.sockets := by
  simp only [endpointStep] at stepped
  split at stepped
  · obtain ⟨rfl, _⟩ := Prod.mk.inj (Option.some.inj stepped)
    rfl
  · contradiction

/-- With an accepted caller and a time to last until, a session request creates the session. -/
theorem createSession_granted {configured : SatelliteState} {now : DateTime}
    {createdId : String} {authorization apiKey : Option String} {body : CreateSessionRequest}
    {identity : Identity} {expiresAt : DateTime} (uuid : isUuidText createdId = true)
    (fresh : whole.session? createdId = none) (present : whole.satellite = some configured)
    (authenticated
      : state.ingressGate.authenticate libraries.decodeJwt authorization apiKey = .ok identity)
    (expiry
      : sessionExpiry now (body.durationSecs.getD sessionDurationSecs) = .ok expiresAt)
    : ∃ next,
        endpointStep libraries state whole
            (.createSession now createdId authorization apiKey body)
          = some
              (
                next,
                .created
                  {
                    sessionId := createdId
                    token :=
                      generateToken libraries createdId identity.sub
                        (libraries.rfc3339 expiresAt) configured.serverSecret
                    expiresAt := libraries.rfc3339 expiresAt
                  }
              )
        ∧ next.session? createdId = some (newSession createdId identity.sub body expiresAt)
        ∧ OthersKept createdId whole next := by
  refine ⟨
    {
      whole with
      satellite :=
        some
          {
            configured with
            sessionManager :=
              configured.sessionManager.create createdId identity.sub
                (newSession createdId identity.sub body expiresAt).trustBudget expiresAt
          }
    },
    ?_,
    SessionManager.get_create_self _ _ _ _ _,
    ?_
  ⟩
  · simp only [endpointStep, uuid, fresh, Option.isNone_none, Bool.and_self, if_true,
      Sphere.createSession, authenticated, expiry, present]
  · intro other differs
    simp only [EndpointState.session?, present, Option.bind_some]
    exact SessionManager.get_create_ne _ _ _ _ differs

/-- A session request is matched: the one that creates the session creates it alone too. -/
theorem Alone.createSession (related : Alone sessionId whole alone) {next : EndpointState}
    {now : DateTime} {createdId : String} {authorization apiKey : Option String}
    {body : CreateSessionRequest} {output : SatelliteOutput}
    (stepped
      : endpointStep libraries state whole
          (.createSession now createdId authorization apiKey body) = some (next, output))
    : Machine.Matched (satelliteEndpoint libraries state) (Alone sessionId) alone next
        (noteSession libraries sessionId whole
          (.createSession now createdId authorization apiKey body)
          output) := by
  have sockets := createSession_sockets stepped
  obtain ⟨transition, secret⟩ := createSession_transition stepped
  cases transition with
  | @created _ _ _ _ _ _ configured identity expiresAt uuid fresh present authenticated expiry
      stored others =>
      simp only [noteSession]
      by_cases same : createdId = sessionId
      · subst same
        rw [if_pos rfl]
        have secrets := related.secret
        simp only [EndpointState.secret?, present, Option.map_some] at secrets
        obtain ⟨configured', here, equal⟩ := Option.map_eq_some_iff.mp secrets
        obtain ⟨next', granted, own, kept⟩ :=
          createSession_granted uuid (related.own.trans fresh) here authenticated expiry
        have secret' := (createSession_transition granted).2
        have sockets' := createSession_sockets granted
        rw [equal] at granted
        refine ⟨next', .single granted, ?_, own.trans stored.symm, ?_, ?_⟩
        · rw [secret', secret, related.secret]
        · intro other differs
          exact (kept other differs).trans (related.others other differs)
        · rw [sockets', sockets]
          exact related.sockets
      · rw [if_neg same]
        refine .nothing (related.frame secret (others _ (Ne.symm same)) (fun socket => ?_))
        rw [sockets]
  | idle kept quiet unread =>
      cases output with
      | created response => contradiction
      | _ =>
          refine .nothing (related.frame secret (kept _) (fun socket => ?_))
          rw [sockets]

/-- A search that finds a session found its token fitting and the session alive. -/
theorem findSession_found {secret : List UInt8} {now : DateTime} {token found : String}
    {entries : List (String × SatelliteSession)}
    (searched : findSession libraries secret now token entries = some found)
    : ∃ session,
        (found, session) ∈ entries
        ∧ tokenFits libraries secret token found session = true
        ∧ now < session.expiresAt := by
  induction entries with
  | nil => contradiction
  | cons entry rest ih =>
      obtain ⟨candidate, session⟩ := entry
      simp only [findSession] at searched
      split at searched
      next fits =>
        split at searched
        next alive =>
          obtain rfl := Option.some.inj searched
          exact ⟨session, List.mem_cons_self, fits, alive⟩
        next => contradiction
      next =>
        obtain ⟨session', member, fits, alive⟩ := ih searched
        exact ⟨session', List.mem_cons_of_mem _ member, fits, alive⟩

/-- The server has its secret, and its sessions have the ids it gave them. -/
structure Tagged (secret : List UInt8) (endpoint : EndpointState) : Prop where
  secret : endpoint.secret? = some secret
  uuid
    : ∀ {sessionId session},
        endpoint.session? sessionId = some session → isUuidText sessionId = true

theorem Tagged.start (secret : List UInt8) : Tagged secret (.start secret) where
  secret := rfl
  uuid stored := by simp [EndpointState.start, EndpointState.session?, SatelliteState.new,
    SessionManager.new, SessionManager.get] at stored

/-- No step stores a session under another kind of id. -/
theorem Tagged.step {secret : List UInt8} (tagged : Tagged secret whole)
    {next : EndpointState} {event : SatelliteEvent} {output : SatelliteOutput}
    (stepped
      : (satelliteEndpoint libraries state).step whole event = some (next, output))
    : Tagged secret next := by
  obtain ⟨transition, same⟩ := endpointStep_transition stepped
  refine ⟨same.trans tagged.secret, ?_⟩
  intro stored session found
  cases transition with
  | @created _ createdId _ _ _ _ _ _ _ uuid _ _ _ _ _ others =>
      by_cases here : stored = createdId
      · rw [here]
        exact uuid
      · exact tagged.uuid ((others _ here).symm.trans found)
  | @adjudicated _ _ _ _ judgedId _ _ _ _ _ _ _ _ before _ _ others =>
      by_cases here : stored = judgedId
      · rw [here]
        exact tagged.uuid before
      · exact tagged.uuid ((others _ here).symm.trans found)
  | upgraded _ _ kept => exact tagged.uuid ((kept _).symm.trans found)
  | answered _ kept => exact tagged.uuid ((kept _).symm.trans found)
  | idle kept => exact tagged.uuid ((kept _).symm.trans found)

/-- An upgrade that presents the token of a session is granted exactly while it lasts, and
then opens that session.
-/
theorem Tagged.wsUpgrade {secret : List UInt8} (tags : InjectiveTags libraries secret)
    (tagged : Tagged secret whole) {session : SatelliteSession}
    (stored : whole.session? sessionId = some session) {token : String}
    (fits : tokenFits libraries secret token sessionId session = true) {order : List String}
    (listed : order.Perm whole.sessionIds) (now : DateTime)
    : Sphere.wsUpgrade libraries whole.satellite now order token
      = if now < session.expiresAt then .ok sessionId
        else .error (.authError "invalid or expired session token") := by
  obtain ⟨configured, present, rfl⟩ := Option.map_eq_some_iff.mp tagged.secret
  have only {other : String} {found : SatelliteSession}
      (member : (other, found) ∈ configured.sessionManager.sessionsIter order)
      (fits' : tokenFits libraries configured.serverSecret token other found = true)
      : (other, found) = (sessionId, session) := by
    have there := (mem_sessionsIter_iff present listed).mp member
    have same := sessionToken_sessionId tags (tagged.uuid there) (tagged.uuid stored)
      ((tokenFits_iff.mp fits').symm.trans (tokenFits_iff.mp fits))
    rw [same] at there
    exact Prod.ext same (Option.some.inj (there.symm.trans stored))
  have found_iff (other : String) :=
    @findSession_eq_some_iff libraries configured.serverSecret now token other _
      (fun first member second member' fits' fits'' =>
        (only member fits').trans (only member' fits'').symm)
  by_cases alive : now < session.expiresAt
  · have found := (found_iff sessionId).mpr
      ⟨session, (mem_sessionsIter_iff present listed).mpr stored, fits, alive⟩
    simp only [Sphere.wsUpgrade, present, found, if_pos alive]
  · rw [if_neg alive]
    cases found
      : findSession libraries configured.serverSecret now token
          (configured.sessionManager.sessionsIter order) with
    | none => simp only [Sphere.wsUpgrade, present, found]
    | some other =>
        obtain ⟨session', member, fits', alive'⟩ := (found_iff other).mp found
        obtain ⟨rfl, rfl⟩ := Prod.mk.inj (only member fits')
        exact absurd alive' alive

/-- What the session has alone is tagged, too. -/
theorem Alone.tagged {secret : List UInt8} (related : Alone sessionId whole alone)
    (tagged : Tagged secret whole)
    : Tagged secret alone where
  secret := related.secret.trans tagged.secret
  uuid := by
    intro stored session found
    by_cases same : stored = sessionId
    · rw [same] at found ⊢
      exact tagged.uuid (related.own.symm.trans found)
    · rw [related.others stored same] at found
      contradiction

/-- A token is presented to a session exactly when it fits what is stored of it. -/
theorem presents_iff {secret : List UInt8} (known : whole.secret? = some secret)
    {token : String}
    : whole.presents libraries sessionId token = true
      ↔ ∃ session,
          whole.session? sessionId = some session
          ∧ tokenFits libraries secret token sessionId session = true := by
  unfold EndpointState.presents
  rw [known]
  cases whole.session? sessionId <;> simp

/-- An upgrade that opens a session presented its token. -/
theorem presents_of_upgraded {secret : List UInt8} (known : whole.secret? = some secret)
    {order : List String} (listed : order.Perm whole.sessionIds) {now : DateTime}
    {token : String}
    (found : Sphere.wsUpgrade libraries whole.satellite now order token = .ok sessionId)
    : whole.presents libraries sessionId token = true := by
  obtain ⟨configured, present, rfl⟩ := Option.map_eq_some_iff.mp known
  simp only [Sphere.wsUpgrade, present] at found
  split at found
  · contradiction
  next searched =>
    obtain rfl := Except.ok.inj found
    obtain ⟨session, member, fits, _⟩ := findSession_found searched
    exact (presents_iff known).mpr
      ⟨session, (mem_sessionsIter_iff present listed).mp member, fits⟩

/-- An upgrade is matched: one that presents the token of the session is answered alone as it
is.
-/
theorem Alone.wsUpgrade {secret : List UInt8} (tags : InjectiveTags libraries secret)
    (tagged : Tagged secret whole) (related : Alone sessionId whole alone)
    {next : EndpointState} {now : DateTime} {order : List String} {socket : Nat}
    {token : String} {output : SatelliteOutput}
    (stepped
      : endpointStep libraries state whole (.wsUpgrade now order socket token)
          = some (next, output))
    : Machine.Matched (satelliteEndpoint libraries state) (Alone sessionId) alone next
        (noteSession libraries sessionId whole (.wsUpgrade now order socket token) output) := by
  simp only [endpointStep] at stepped
  split at stepped
  next enabled =>
    obtain ⟨listed, free⟩ := enabled
    have unbound : whole.sockets.lookup socket = none := AList.lookup_eq_none.mpr free
    simp only [noteSession]
    by_cases presented : whole.presents libraries sessionId token = true
    · rw [if_pos presented]
      obtain ⟨session, stored, fits⟩ := (presents_iff tagged.secret).mp presented
      have aloneFree : socket ∉ alone.sockets := by
        rw [← AList.lookup_eq_none, related.sockets socket, unbound]
        rfl
      have only := related.sessionIds_perm stored
      rw [tagged.wsUpgrade tags stored fits listed now] at stepped
      have lone :=
        (related.tagged tagged).wsUpgrade tags (related.own.trans stored) fits only now
      by_cases alive : now < session.expiresAt
      · simp only [if_pos alive] at stepped lone
        obtain ⟨rfl, rfl⟩ := Prod.mk.inj (Option.some.inj stepped)
        refine
          ⟨{ alone with sockets := alone.sockets.insert socket sessionId }, .single ?_, ?_⟩
        · simp only [satelliteEndpoint, endpointStep, if_pos (And.intro only aloneFree), lone]
        · refine ⟨related.secret, related.own, related.others, fun other => ?_⟩
          by_cases here : other = socket
          · subst here
            simp [Option.filter_some]
          · simp only [AList.lookup_insert_ne here]
            exact related.sockets other
      · simp only [if_neg alive] at stepped lone
        obtain ⟨rfl, rfl⟩ := Prod.mk.inj (Option.some.inj stepped)
        refine .single ?_ related
        simp only [satelliteEndpoint, endpointStep, if_pos (And.intro only aloneFree), lone]
    · rw [if_neg presented]
      split at stepped
      · obtain ⟨rfl, rfl⟩ := Prod.mk.inj (Option.some.inj stepped)
        exact .nothing related
      next upgradedId found =>
        obtain ⟨rfl, rfl⟩ := Prod.mk.inj (Option.some.inj stepped)
        have differs : upgradedId ≠ sessionId := by
          rintro rfl
          exact presented (presents_of_upgraded tagged.secret listed found)
        refine .nothing (related.frame rfl rfl (fun other => ?_))
        by_cases here : other = socket
        · subst here
          simp [unbound, Option.filter_some, differs]
        · simp only [AList.lookup_insert_ne here]
  next => contradiction

/-- The sockets of a session, after one of the sockets is closed. -/
theorem lookup_erase_filter {sockets others : AList (fun _ : Nat => String)}
    {keep : String → Bool}
    (same : ∀ socket, others.lookup socket = (sockets.lookup socket).filter keep)
    (closed socket : Nat)
    : (others.erase closed).lookup socket
      = ((sockets.erase closed).lookup socket).filter keep := by
  by_cases here : socket = closed
  · subst here
    rw [AList.lookup_erase, AList.lookup_erase]
    rfl
  · rw [AList.lookup_erase_ne here, AList.lookup_erase_ne here, same]

/-- Closing a socket of another session keeps those of the session. -/
theorem filter_lookup_erase {sockets : AList (fun _ : Nat => String)} {closed : Nat}
    (other : sockets.lookup closed ≠ some sessionId) (socket : Nat)
    : ((sockets.erase closed).lookup socket).filter (fun bound => bound = sessionId)
      = (sockets.lookup socket).filter (fun bound => bound = sessionId) := by
  by_cases here : socket = closed
  · subst here
    rw [AList.lookup_erase]
    cases found : sockets.lookup socket with
    | none => rfl
    | some bound =>
        rw [found] at other
        have differs : bound ≠ sessionId := fun same => other (by rw [same])
        simp [Option.filter_some, differs]
  · rw [AList.lookup_erase_ne here]

/-- A message on a socket changes no session but the one the socket is bound to. -/
theorem receive_othersKept {next : EndpointState} {now : DateTime} {socket : Nat}
    {requestId text boundId : String} {output : SatelliteOutput}
    (bound : whole.sockets.lookup socket = some boundId)
    (stepped
      : endpointStep libraries state whole (.receive now socket requestId text)
          = some (next, output))
    : OthersKept boundId whole next := by
  cases (receive_transition stepped).1 with
  | adjudicated bound' _ _ _ _ others =>
      obtain rfl := Option.some.inj (bound.symm.trans bound')
      exact others
  | answered _ kept => exact fun other _ => kept other
  | idle kept => exact fun other _ => kept other

/-- A message on a socket is handled for the session the socket is bound to. -/
theorem receive_bound {socket : Nat} {boundId : String}
    (bound : whole.sockets.lookup socket = some boundId) (now : DateTime)
    (requestId text : String)
    : let handled := handleMessage libraries state whole.satellite boundId requestId text
      endpointStep libraries state whole (.receive now socket requestId text)
        = some
            (
              {
                satellite := handled.1
                sockets :=
                  if handled.2.isTermination then whole.sockets.erase socket
                  else whole.sockets
              },
              .replied boundId handled.2
            ) := by
  simp only [endpointStep, bound]

/-- A message is matched: one on a socket of the session is answered alone as it is. -/
theorem Alone.receive (related : Alone sessionId whole alone) {next : EndpointState}
    {now : DateTime} {socket : Nat} {requestId text : String} {output : SatelliteOutput}
    (stepped
      : endpointStep libraries state whole (.receive now socket requestId text)
          = some (next, output))
    : Machine.Matched (satelliteEndpoint libraries state) (Alone sessionId) alone next
        (noteSession libraries sessionId whole (.receive now socket requestId text)
          output) := by
  have secret := (receive_transition stepped).2
  simp only [noteSession]
  by_cases mine : whole.sockets.lookup socket = some sessionId
  · rw [if_pos mine]
    obtain ⟨reply, view⟩ :=
      @handleMessage_local libraries state sessionId alone.satellite whole.satellite requestId
        text related.view
    have own := (related.bound_iff socket).mpr mine
    have lone := @receive_bound libraries state alone socket sessionId own now requestId text
    have kept := receive_othersKept own lone
    have secret' := (receive_transition lone).2
    rw [receive_bound mine] at stepped
    obtain ⟨rfl, rfl⟩ := Prod.mk.inj (Option.some.inj stepped)
    dsimp only at lone
    rw [reply] at lone kept secret'
    refine ⟨_, .single lone, ?_, ?_, ?_, ?_⟩
    · rw [secret', secret, related.secret]
    · rw [EndpointState.session?_eq_bind, EndpointState.session?_eq_bind]
      exact congrArg (fun viewed => viewed.bind id) view
    · intro other differs
      exact (kept other differs).trans (related.others other differs)
    · dsimp only
      split
      · exact lookup_erase_filter related.sockets socket
      · exact related.sockets
  · rw [if_neg mine]
    cases bound : whole.sockets.lookup socket with
    | none => simp [endpointStep, bound] at stepped
    | some boundId =>
        have differs : sessionId ≠ boundId := by
          intro same
          exact mine (by rw [bound, same])
        have own := receive_othersKept bound stepped sessionId differs
        refine .nothing (related.frame secret own ?_)
        rw [receive_bound bound] at stepped
        obtain ⟨rfl, _⟩ := Prod.mk.inj (Option.some.inj stepped)
        intro other
        dsimp only
        split
        · exact filter_lookup_erase mine other
        · rfl

/-- Every step of the endpoint is matched by the session alone. By cases on the event. -/
theorem Alone.step {secret : List UInt8} (tags : InjectiveTags libraries secret)
    (tagged : Tagged secret whole) (related : Alone sessionId whole alone)
    {next : EndpointState} {event : SatelliteEvent} {output : SatelliteOutput}
    (stepped
      : (satelliteEndpoint libraries state).step whole event = some (next, output))
    : Machine.Matched (satelliteEndpoint libraries state) (Alone sessionId) alone next
        (noteSession libraries sessionId whole event output) := by
  cases event with
  | createSession now createdId authorization apiKey body => exact related.createSession stepped
  | wsUpgrade now order socket token => exact related.wsUpgrade tags tagged stepped
  | receive now socket requestId text => exact related.receive stepped
  | heartbeat socket =>
      simp only [satelliteEndpoint, endpointStep] at stepped
      split at stepped
      next opened =>
        obtain ⟨rfl, rfl⟩ := Prod.mk.inj (Option.some.inj stepped)
        simp only [noteSession]
        split
        next mine =>
          have opened' : socket ∈ alone.sockets :=
            AList.lookup_isSome.mp
              (Option.isSome_iff_exists.mpr ⟨_, (related.bound_iff socket).mpr mine⟩)
          exact .single (if_pos opened') related
        next => exact .nothing related
      next => contradiction
  | disconnect socket =>
      simp only [satelliteEndpoint, endpointStep] at stepped
      split at stepped
      next opened =>
        obtain ⟨rfl, rfl⟩ := Prod.mk.inj (Option.some.inj stepped)
        simp only [noteSession]
        split
        next mine =>
          have opened' : socket ∈ alone.sockets :=
            AList.lookup_isSome.mp
              (Option.isSome_iff_exists.mpr ⟨_, (related.bound_iff socket).mpr mine⟩)
          exact
            .single (if_pos opened')
              ⟨related.secret, related.own, related.others,
                lookup_erase_filter related.sockets socket⟩
        next other => exact .nothing (related.frame rfl rfl (filter_lookup_erase other))
      next => contradiction

/-- Sessions do not interfere. After any run of an endpoint, the events that concern a session
are a run of an endpoint that has no other session. The outputs are the same there, down to the
verdicts, tokens and refusals, and so are the session and its sockets in the end.
-/
theorem satelliteEndpoint_isolates {secret : List UInt8}
    (tags : InjectiveTags libraries secret) {final : EndpointState}
    {trace : List (SatelliteEvent × SatelliteOutput)}
    (run : (satelliteEndpoint libraries state).Run (.start secret) trace final)
    (sessionId : String)
    : ∃ alone,
        (satelliteEndpoint libraries state).Run (.start secret)
          ((satelliteEndpoint libraries state).observed (noteSession libraries sessionId)
            (.start secret) trace)
          alone
        ∧ alone.session? sessionId = final.session? sessionId
        ∧ (∀ other, other ≠ sessionId → alone.session? other = none)
        ∧ ∀ socket,
            alone.sockets.lookup socket = some sessionId
            ↔ final.sockets.lookup socket = some sessionId := by
  have matched (whole alone : EndpointState) (event : SatelliteEvent) (next : EndpointState)
      (output : SatelliteOutput) (related : Tagged secret whole ∧ Alone sessionId whole alone)
      (stepped : (satelliteEndpoint libraries state).step whole event = some (next, output))
      : Machine.Matched (satelliteEndpoint libraries state)
          (fun whole alone => Tagged secret whole ∧ Alone sessionId whole alone) alone next
          (noteSession libraries sessionId whole event output) := by
    obtain ⟨tagged, related⟩ := related
    obtain ⟨alone', run, related'⟩ := related.step tags tagged stepped
    exact ⟨alone', run, tagged.step stepped, related'⟩
  obtain ⟨alone, lone, _, related⟩ :=
    run.observed_run matched ⟨.start secret, .start sessionId secret⟩
  exact ⟨alone, lone, related.own, related.others, related.bound_iff⟩

end Steps

/-- The two sessions, and then the token of the second one when it has expired. -/
def refusedTrace : List (SatelliteEvent × SatelliteOutput) :=
  pairTrace
  ++ [
    (
      .wsUpgrade (61 * nanosPerSecond) [smallId, otherId] 3 otherResponse.token,
      .refused (.authError "invalid or expired session token")
    )
  ]

/-- What of it concerns the second session. -/
def otherTrace : List (SatelliteEvent × SatelliteOutput) :=
  [
    (.createSession 1 otherId none none otherBody, .created otherResponse),
    (.wsUpgrade 3 [otherId] 1 otherResponse.token, .upgraded otherId),
    (.receive 6 1 "r-2" proposalText, .replied otherId (.adjudicationResult "p-1" true none)),
    (
      .receive 10 1 "r-6" proposalText,
      .replied otherId (.sessionTerminated "trust budget exhausted")
    ),
    (
      .wsUpgrade (61 * nanosPerSecond) [otherId] 3 otherResponse.token,
      .refused (.authError "invalid or expired session token")
    )
  ]

def pairAfter : EndpointState :=
  (satelliteEndpoint smallLibraries smallState).stateAfter (pairEndpoint 4 pairSockets)
    pairEvents

/-- The second session is kept through the trace, under the token it was given. -/
theorem pairAfter_other
    : Tagged [] pairAfter
      ∧ ∃ session,
          pairAfter.session? otherId = some session
          ∧ tokenFits smallLibraries [] otherResponse.token otherId session = true
          ∧ session.expiresAt = 60 * nanosPerSecond + 1 := by
  refine ⟨?_, ?_⟩
  · exact pairTrace_run.invariant (Tagged [])
      (fun _ _ _ _ tagged stepped => tagged.step stepped) (.start [])
  · obtain ⟨middle, opened, rest⟩ := pairTrace_run.split _ _
    obtain rfl := opened.unique (pairOpening_run 4)
    obtain ⟨session, stored, grant⟩ := run_session_kept rest (pairEndpoint_other 4 pairSockets)
    refine ⟨session, stored, tokenFits_iff.mpr ?_, grant.expiresAt⟩
    rw [sessionToken, grant.identitySub, grant.expiresAt]
    rfl

theorem pairAfter_refused
    : (satelliteEndpoint smallLibraries smallState).step pairAfter
          (.wsUpgrade (61 * nanosPerSecond) [smallId, otherId] 3 otherResponse.token)
      = some (pairAfter, .refused (.authError "invalid or expired session token")) := by
  obtain ⟨tagged, session, stored, fits, expiry⟩ := pairAfter_other
  have listed : [smallId, otherId].Perm pairAfter.sessionIds := by decide +kernel
  have new : 3 ∉ pairAfter.sockets := by decide +kernel
  have refused :=
    tagged.wsUpgrade (smallLibraries_tags []) stored fits listed (61 * nanosPerSecond)
  rw [expiry, if_neg (by decide)] at refused
  simp only [satelliteEndpoint, endpointStep, if_pos (And.intro listed new), refused]

/-- The token of the first session is not the one of the second. -/
theorem pairEndpoint_presents_small (sockets : AList (fun _ : Nat => String))
    : ¬(pairEndpoint 4 sockets).presents smallLibraries otherId smallResponse.token = true := by
  intro presented
  obtain ⟨session, stored, fits⟩ :=
    (presents_iff (rfl : (pairEndpoint 4 sockets).secret? = some [])).mp presented
  have issued
      : sessionToken smallLibraries [] smallId (smallSession 4) = smallResponse.token := by
    simp only [sessionToken, smallResponse]
    rfl
  have same :=
    sessionToken_sessionId (smallLibraries_tags []) (by decide : isUuidText otherId = true)
      (by decide : isUuidText smallId = true)
      ((tokenFits_iff.mp fits).symm.trans issued.symm)
  exact absurd same (by decide)

theorem pairEndpoint_presents_other (sockets : AList (fun _ : Nat => String))
    : (pairEndpoint 4 sockets).presents smallLibraries otherId otherResponse.token = true := by
  have issued
      : sessionToken smallLibraries [] otherId otherSession = otherResponse.token := by
    simp only [sessionToken, otherResponse]
    rfl
  exact (presents_iff (rfl : (pairEndpoint 4 sockets).secret? = some [])).mpr
    ⟨otherSession, pairEndpoint_other 4 sockets, tokenFits_iff.mpr issued.symm⟩

theorem pairOpening_observed
    : (satelliteEndpoint smallLibraries smallState).observed
          (noteSession smallLibraries otherId) (.start []) (pairOpening 4)
      = otherTrace.take 2 := by
  have created := (smallEndpoint_run 4).step_of_single
  have opened :=
    pairEndpoint_upgrade_small 4 (AList.notMem_empty 0)
      (by decide : (2 : Int) < 3600 * nanosPerSecond)
  have other :=
    pairEndpoint_upgrade_other 4 (by decide : 1 ∉ AList.insert 0 smallId ∅)
      (by decide : (3 : Int) < 60 * nanosPerSecond + 1)
  have again :=
    pairEndpoint_upgrade_small 4
      (by decide : 2 ∉ AList.insert 1 otherId (AList.insert 0 smallId ∅))
      (by decide : (4 : Int) < 3600 * nanosPerSecond)
  rw [pairOpening, smallCreation, Machine.observed_cons created,
    Machine.observed_cons (pairEndpoint_created 4), Machine.observed_cons opened,
    Machine.observed_cons other, Machine.observed_cons again]
  simp only [noteSession, if_neg (pairEndpoint_presents_small _),
    if_pos (pairEndpoint_presents_other _)]
  rfl

theorem refusedTrace_observed
    : (satelliteEndpoint smallLibraries smallState).observed
          (noteSession smallLibraries otherId) (.start []) refusedTrace
      = otherTrace := by
  have events
      : (satelliteEndpoint smallLibraries smallState).observed
            (noteSession smallLibraries otherId) (pairEndpoint 4 pairSockets)
            (pairEvents.zip pairReplies)
        = (otherTrace.drop 2).take 2 := by
    decide +kernel
  obtain ⟨tagged, session, stored, fits, _⟩ := pairAfter_other
  have presented := (presents_iff tagged.secret).mpr ⟨session, stored, fits⟩
  have last
      : noteSession smallLibraries otherId pairAfter
            (.wsUpgrade (61 * nanosPerSecond) [smallId, otherId] 3 otherResponse.token)
            (.refused (.authError "invalid or expired session token"))
        = otherTrace.drop 4 :=
    if_pos presented
  rw [refusedTrace, pairTrace_run.observed_snoc pairAfter_refused, pairTrace,
    (pairOpening_run 4).observed_append, pairOpening_observed, events, ← pairAfter, last]
  rfl

/-- The second session of the pair, alone: what it is answered and what is left of it is the
same without the first.
-/
theorem satelliteEndpoint_isolates_pair
    : ∃ alone,
        (satelliteEndpoint smallLibraries smallState).Run (.start []) otherTrace alone
        ∧ alone.session? otherId = pairAfter.session? otherId
        ∧ alone.session? smallId = none := by
  obtain ⟨alone, run, own, others, _⟩ :=
    satelliteEndpoint_isolates (smallLibraries_tags [])
      (pairTrace_run.snoc pairAfter_refused) otherId
  rw [← refusedTrace, refusedTrace_observed] at run
  exact ⟨alone, run, own, others smallId (by decide)⟩

end Intellisphere.Sphere
