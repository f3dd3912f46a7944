import Mathlib.Algebra.Order.Floor.Ring
import Mathlib.Data.Rat.Floor
import Intellisphere.Sphere.Satellite.Endpoint

/-! What the trust budget and the suspicion threshold allow a session over a whole run: the
verdicts it can get are bounded, and termination is final.
-/

namespace Intellisphere.Sphere

open Intellisphere.Foundation

/-- The entry replies to a proposal of the session with the given verdict. -/
def isVerdict (sessionId : String) (accepted : Bool)
    (entry : SatelliteEvent × SatelliteOutput)
    : Bool :=
  match entry.2 with
  | .replied bound (.adjudicationResult _ verdict _) =>
      bound == sessionId && verdict == accepted
  | _ => false

/-- The number of replies with the given verdict. -/
def verdicts (sessionId : String) (accepted : Bool)
    (trace : List (SatelliteEvent × SatelliteOutput))
    : Nat :=
  trace.countP (isVerdict sessionId accepted)

/-- The session is out of budget or under suspicion. -/
def SatelliteSession.Terminated (session : SatelliteSession) : Prop :=
  session.trustBudget.remaining ≤ 0
  ∨ session.trustBudget.suspicionThreshold ≤ session.trustBudget.suspicionScore

/-- The two reasons a proposal is answered with termination for. -/
def terminationReasons : List String :=
  ["trust budget exhausted", "suspicion threshold exceeded"]

/-- A trust budget after some acceptances and rejections: each acceptance cost a unit, each
rejection raised the score by at least a fifth, and the last of either left the session
running.
-/
structure Balanced (accepted rejected : Nat) (budget : TrustBudget) : Prop where
  threshold : budget.suspicionThreshold = 1
  spent : (accepted : ℚ) + budget.remaining ≤ budget.initial
  accepted : accepted = 0 ∨ (accepted : ℚ) < budget.initial
  scored : (rejected : ℚ) / 5 ≤ budget.suspicionScore
  rejected : rejected ≤ 4

/-- The account of a session after a history. -/
structure Ledger (sessionId : String) (trace : List (SatelliteEvent × SatelliteOutput))
    (session : SatelliteSession)
    : Prop where
  budget
    : ∀ now authorization apiKey body response,
        (SatelliteEvent.createSession now sessionId authorization apiKey body,
          SatelliteOutput.created response) ∈ trace
        → session.trustBudget.initial = body.trustBudget.getD defaultTrustBudget
  balanced
    : Balanced (verdicts sessionId true trace) (verdicts sessionId false trace)
        session.trustBudget

/-- The account before the session exists: nothing has happened to it. -/
structure Unused (sessionId : String) (trace : List (SatelliteEvent × SatelliteOutput))
    : Prop where
  uncreated
    : ∀ now authorization apiKey body response,
        (SatelliteEvent.createSession now sessionId authorization apiKey body,
          SatelliteOutput.created response) ∉ trace
  unjudged : ∀ accepted, verdicts sessionId accepted trace = 0

/-- The account of a session id, whether it is in use or not. -/
def Account (sessionId : String) (trace : List (SatelliteEvent × SatelliteOutput))
    (endpoint : EndpointState)
    : Prop :=
  match endpoint.session? sessionId with
  | none => Unused sessionId trace
  | some session => Ledger sessionId trace session

/-- A new budget is balanced. -/
theorem Balanced.new (initial : ℚ)
    : Balanced 0 0 (.new initial defaultSuspicionThreshold) := by
  refine ⟨rfl, ?_, .inl rfl, ?_, by omega⟩
  · simp [TrustBudget.new]
  · simp [TrustBudget.new]

section Budgets

variable {registry : ToolRegistry} {pipeline : PipelineChain} {requestId : String}
  {proposal : ToolProposal} {session session' : SatelliteSession}
  {result : AdjudicationResult} {accepted rejected : Nat}

/-- A proposal without a verdict keeps the balance: the session only gets poorer and more
suspect.
-/
theorem Balanced.terminated (balanced : Balanced accepted rejected session.trustBudget)
    (judged : Adjudicated registry pipeline requestId session proposal session' result)
    : Balanced accepted rejected session'.trustBudget := by
  have spent := balanced.spent
  refine ⟨judged.threshold.trans balanced.threshold, ?_, ?_, ?_, balanced.rejected⟩
  · rw [judged.initial, judged.remaining]
    linarith
  · rw [judged.initial]
    exact balanced.accepted
  · exact balanced.scored.trans judged.score_mono

/-- An acceptance that leaves the session running keeps the balance: a unit paid for it and
some budget is left.
-/
theorem Balanced.accept (balanced : Balanced accepted rejected session.trustBudget)
    (judged : Adjudicated registry pipeline requestId session proposal session' result)
    (running : ¬session'.Terminated)
    : Balanced (accepted + 1) rejected session'.trustBudget := by
  have spent := balanced.spent
  have remaining := judged.remaining
  have left : 0 < session'.trustBudget.remaining := not_le.mp (not_or.mp running).1
  have poorer := balanced.terminated judged
  refine ⟨poorer.threshold, ?_, .inr ?_, poorer.scored, poorer.rejected⟩
  · rw [judged.initial, Nat.cast_add, Nat.cast_one]
    linarith
  · rw [judged.initial, Nat.cast_add, Nat.cast_one]
    linarith

/-- A rejection that leaves the session running keeps the balance: it raised the score by a
fifth, and the score is below the threshold.
-/
theorem Balanced.reject (balanced : Balanced accepted rejected session.trustBudget)
    (judged : Adjudicated registry pipeline requestId session proposal session' result)
    (running : ¬session'.Terminated) (verdict : result.accepted = false)
    : Balanced accepted (rejected + 1) session'.trustBudget := by
  have poorer := balanced.terminated judged
  have left : 0 < session'.trustBudget.remaining := not_le.mp (not_or.mp running).1
  have calm := not_le.mp (not_or.mp running).2
  rw [poorer.threshold] at calm
  have scored := balanced.scored
  have raised
      : session.trustBudget.suspicionScore + 1 / 5 ≤ session'.trustBudget.suspicionScore := by
    rcases judged.rejects verdict with ⟨spent, _⟩ | raised
    · rw [judged.remaining] at left
      linarith
    · exact raised
  have bounded : ((rejected + 1 : Nat) : ℚ) / 5 ≤ session'.trustBudget.suspicionScore := by
    rw [Nat.cast_add, Nat.cast_one]
    linarith
  refine ⟨poorer.threshold, poorer.spent, poorer.accepted, bounded, ?_⟩
  have below : ((rejected + 1 : Nat) : ℚ) < 5 := by linarith
  have fewer : rejected + 1 < 5 := by exact_mod_cast below
  omega

/-- A terminated session stays terminated, whatever is proposed. -/
theorem SatelliteSession.Terminated.adjudicated (terminated : session.Terminated)
    (judged : Adjudicated registry pipeline requestId session proposal session' result)
    : session'.Terminated := by
  rcases terminated with exhausted | suspicious
  · refine .inl ?_
    rw [judged.remaining]
    linarith
  · refine .inr ?_
    rw [judged.threshold]
    exact suspicious.trans judged.score_mono

end Budgets

/-- The reply to a proposal has a verdict only while the session is not terminated. -/
theorem proposalReply_spec (id : String) (session : SatelliteSession)
    (result : AdjudicationResult)
    : (session.Terminated
        ∧ ∃ reason,
            reason ∈ terminationReasons
            ∧ proposalReply id session result = .sessionTerminated reason)
      ∨ (¬session.Terminated
        ∧ proposalReply id session result
          = .adjudicationResult id result.accepted result.reason) := by
  simp only [proposalReply, TrustBudget.isExhausted, TrustBudget.isSuspicious,
    SatelliteSession.Terminated, Bool.or_eq_true, decide_eq_true_eq]
  split
  next terminated =>
    refine .inl ⟨terminated, _, ?_, rfl⟩
    split <;> simp [terminationReasons]
  next running => exact .inr ⟨running, rfl⟩

-----------------------------------------------------------------------------------------
-- Histories
-----------------------------------------------------------------------------------------

section Verdicts

variable {sessionId : String} {accepted : Bool}
  {trace : List (SatelliteEvent × SatelliteOutput)} {event : SatelliteEvent}
  {output : SatelliteOutput}

/-- One more entry counts when it is a verdict. -/
theorem verdicts_snoc
    : verdicts sessionId accepted (trace ++ [(event, output)])
      = verdicts sessionId accepted trace
        + if isVerdict sessionId accepted (event, output) then 1 else 0 := by
  rw [verdicts, List.countP_append, List.countP_singleton]
  rfl

/-- An entry that is no verdict does not count. -/
theorem verdicts_snoc_of_not (no : isVerdict sessionId accepted (event, output) = false)
    : verdicts sessionId accepted (trace ++ [(event, output)])
      = verdicts sessionId accepted trace := by
  rw [verdicts_snoc, no]
  rfl

/-- A reply on another session is no verdict. -/
theorem isVerdict_of_ne {other : String} {message : SatelliteMessage}
    (differs : other ≠ sessionId)
    : isVerdict sessionId accepted (event, .replied other message) = false := by
  cases message <;> simp [isVerdict, differs]

/-- A plain answer is no verdict. -/
theorem isVerdict_of_plain {other : String} {message : SatelliteMessage}
    (plain
      : (∃ error, message = .error error) ∨ message = .ping
        ∨ message = .sessionTerminated "session not found")
    : isVerdict sessionId accepted (event, .replied other message) = false := by
  rcases plain with ⟨error, rfl⟩ | rfl | rfl <;> rfl

/-- An idle output is no verdict. -/
theorem isVerdict_of_isIdle (idle : output.isIdle = true)
    : isVerdict sessionId accepted (event, output) = false := by
  cases output <;> simp_all [SatelliteOutput.isIdle, isVerdict]

end Verdicts

section Accounts

variable {libraries : SatelliteLibraries} {state : AppState} {sessionId : String}
  {trace : List (SatelliteEvent × SatelliteOutput)}

/-- An adjudicated proposal keeps the ledger. -/
theorem Ledger.adjudicated {registry : ToolRegistry} {pipeline : PipelineChain}
    {proposalRequest id : String} {proposal : ToolProposal}
    {session session' : SatelliteSession} {result : AdjudicationResult}
    (ledger : Ledger sessionId trace session)
    (judged
      : Adjudicated registry pipeline proposalRequest session proposal session' result)
    (now : DateTime) (socket : Nat) (requestId text : String)
    : Ledger sessionId
        (trace
          ++ [
            (
              .receive now socket requestId text,
              .replied sessionId (proposalReply id session' result)
            )
          ])
        session' := by
  refine ⟨?_, ?_⟩
  · intro created authorization apiKey body response member
    rw [judged.initial]
    exact ledger.budget created authorization apiKey body response (by simpa using member)
  · rcases proposalReply_spec id session' result with ⟨_, reason, _, reply⟩ | ⟨running, reply⟩
    · rw [reply, verdicts_snoc_of_not rfl, verdicts_snoc_of_not rfl]
      exact ledger.balanced.terminated judged
    · rw [reply, verdicts_snoc, verdicts_snoc]
      cases verdict : result.accepted with
      | true =>
          simpa [isVerdict, verdict] using ledger.balanced.accept judged running
      | false =>
          simpa [isVerdict, verdict] using ledger.balanced.reject judged running verdict

/-- The first entry about a session opens its ledger. -/
theorem Unused.created (unused : Unused sessionId trace) (now : DateTime)
    (authorization apiKey : Option String) (body : CreateSessionRequest)
    (response : CreateSessionResponse) (identitySub : String) (expiresAt : DateTime)
    : Ledger sessionId
        (trace
          ++ [(.createSession now sessionId authorization apiKey body, .created response)])
        (newSession sessionId identitySub body expiresAt) := by
  refine ⟨?_, ?_⟩
  · intro created authorization' apiKey' body' response' member
    rcases List.mem_append.mp member with earlier | last
    · exact (unused.uncreated _ _ _ _ _ earlier).elim
    · simp only [List.mem_singleton, Prod.mk.injEq, SatelliteEvent.createSession.injEq] at last
      obtain ⟨⟨_, _, _, _, rfl⟩, _⟩ := last
      rfl
  · rw [verdicts_snoc_of_not rfl, verdicts_snoc_of_not rfl, unused.unjudged, unused.unjudged]
    exact Balanced.new _

/-- An entry that is neither a verdict on a session nor its creation leaves its account
alone.
-/
theorem Account.snoc {before after : EndpointState} (account : Account sessionId trace before)
    (same : after.session? sessionId = before.session? sessionId) {event : SatelliteEvent}
    {output : SatelliteOutput}
    (unjudged : ∀ accepted, isVerdict sessionId accepted (event, output) = false)
    (uncreated
      : ∀ now authorization apiKey body response,
          event = .createSession now sessionId authorization apiKey body
          → output ≠ .created response)
    : Account sessionId (trace ++ [(event, output)]) after := by
  have others {now authorization apiKey body response}
      (member
        : (SatelliteEvent.createSession now sessionId authorization apiKey body,
            SatelliteOutput.created response) ∈ trace ++ [(event, output)])
      : (SatelliteEvent.createSession now sessionId authorization apiKey body,
          SatelliteOutput.created response) ∈ trace := by
    rcases List.mem_append.mp member with earlier | last
    · exact earlier
    · obtain ⟨rfl, rfl⟩ := Prod.mk.inj (List.mem_singleton.mp last)
      exact (uncreated _ _ _ _ _ rfl rfl).elim
  simp only [Account, same] at account ⊢
  split at account
  · refine ⟨fun _ _ _ _ _ member => account.uncreated _ _ _ _ _ (others member), ?_⟩
    intro accepted
    rw [verdicts_snoc_of_not (unjudged accepted), account.unjudged]
  · refine ⟨fun _ _ _ _ _ member => account.budget _ _ _ _ _ (others member), ?_⟩
    rw [verdicts_snoc_of_not (unjudged true), verdicts_snoc_of_not (unjudged false)]
    exact account.balanced

/-- Every step keeps the account of every session id. -/
theorem Account.step {before after : EndpointState} (account : Account sessionId trace before)
    {event : SatelliteEvent} {output : SatelliteOutput}
    (transition : Transition libraries state before event after output)
    : Account sessionId (trace ++ [(event, output)]) after := by
  cases transition with
  | @created _ createdId _ _ _ _ _ identity expiresAt _ fresh _ _ _ stored others =>
      by_cases same : sessionId = createdId
      · subst same
        simp only [Account, fresh] at account
        simp only [Account, stored]
        exact account.created _ _ _ _ _ _ _
      · refine account.snoc (others _ same) (fun _ => rfl) ?_
        intro _ _ _ _ _ created
        exact (same (SatelliteEvent.createSession.inj created).2.1.symm).elim
  | @adjudicated _ _ _ _ judgedId _ _ _ _ _ _ _ _ found judged updated others =>
      by_cases same : sessionId = judgedId
      · subst same
        simp only [Account, found] at account
        simp only [Account, updated]
        exact account.adjudicated judged _ _ _ _
      · exact account.snoc (others _ same)
          (fun _ => isVerdict_of_ne (fun equal => same equal.symm)) (by simp)
  | upgraded _ _ kept => exact account.snoc (kept _) (fun _ => rfl) (by simp)
  | answered _ kept _ plain =>
      exact account.snoc (kept _) (fun _ => isVerdict_of_plain plain) (by simp)
  | idle kept quiet =>
      refine account.snoc (kept _) (fun _ => isVerdict_of_isIdle quiet) ?_
      intro _ _ _ _ _ _ created
      rw [created] at quiet
      contradiction

/-- The account of every session id is kept over a whole run. -/
theorem run_account {final : EndpointState} {secret : List UInt8}
    (run : (satelliteEndpoint libraries state).Run (.start secret) trace final)
    (sessionId : String)
    : Account sessionId trace final := by
  refine run.history (Account sessionId) ?_ ?_
  · exact ⟨by simp, fun _ => rfl⟩
  · intro _ _ _ _ _ _ account stepped
    exact account.step (endpointStep_transition stepped).1

/-- A created session is stored from then on. -/
theorem run_session_of_created {final : EndpointState} {secret : List UInt8}
    (run : (satelliteEndpoint libraries state).Run (.start secret) trace final)
    {now : DateTime} {authorization apiKey : Option String} {body : CreateSessionRequest}
    {response : CreateSessionResponse}
    (created
      : (.createSession now sessionId authorization apiKey body, .created response) ∈ trace)
    : ∃ session, final.session? sessionId = some session := by
  have account := run_account run sessionId
  cases stored : final.session? sessionId with
  | none =>
      simp only [Account, stored] at account
      exact (account.uncreated _ _ _ _ _ created).elim
  | some session => exact ⟨session, rfl⟩

-----------------------------------------------------------------------------------------
-- Termination is final
-----------------------------------------------------------------------------------------

/-- The session is stored and terminated. -/
def EndpointState.TerminatedAt (sessionId : String) (endpoint : EndpointState) : Prop :=
  ∃ session, endpoint.session? sessionId = some session ∧ session.Terminated

/-- A termination for exhaustion or suspicion leaves the session terminated. -/
theorem terminatedAt_of_reply {before after : EndpointState} {event : SatelliteEvent}
    {reason : String}
    (transition
      : Transition libraries state before event after
          (.replied sessionId (.sessionTerminated reason)))
    (counted : reason ∈ terminationReasons)
    : after.TerminatedAt sessionId := by
  generalize shape : SatelliteOutput.replied sessionId (.sessionTerminated reason) = output
    at transition
  cases transition with
  | @adjudicated _ _ _ _ _ id _ _ session' result _ _ _ _ judged updated _ =>
      obtain ⟨rfl, reply⟩ := SatelliteOutput.replied.inj shape
      rcases proposalReply_spec id session' result with ⟨terminated, _⟩ | ⟨_, verdict⟩
      · exact ⟨session', updated, terminated⟩
      · rw [verdict] at reply
        contradiction
  | answered _ _ _ plain =>
      obtain ⟨rfl, rfl⟩ := SatelliteOutput.replied.inj shape
      rcases plain with ⟨_, wrong⟩ | wrong | unknown
      · contradiction
      · contradiction
      · rw [SatelliteMessage.sessionTerminated.inj unknown] at counted
        simp [terminationReasons] at counted
  | created => contradiction
  | upgraded => contradiction
  | idle _ quiet =>
      subst shape
      contradiction

/-- The entry does not answer a proposal of the session other than by termination. -/
def OnlyTerminates (libraries : SatelliteLibraries) (sessionId : String)
    (event : SatelliteEvent) (output : SatelliteOutput)
    : Prop :=
  ∀ now socket requestId text id proposal message,
    event = .receive now socket requestId text
    → output = .replied sessionId message
    → IsProposal libraries text id proposal
    → ∃ reason, message = .sessionTerminated reason

/-- A terminated session stays terminated and answers proposals with termination only. -/
theorem TerminatedAt.step {before after : EndpointState} {event : SatelliteEvent}
    {output : SatelliteOutput} (terminatedAt : before.TerminatedAt sessionId)
    (transition : Transition libraries state before event after output)
    : after.TerminatedAt sessionId ∧ OnlyTerminates libraries sessionId event output := by
  obtain ⟨session, stored, terminated⟩ := terminatedAt
  cases transition with
  | @created _ createdId _ _ _ _ _ _ _ _ fresh _ _ _ _ others =>
      have differs : sessionId ≠ createdId := by
        intro same
        rw [same, fresh] at stored
        contradiction
      exact ⟨⟨session, (others _ differs).trans stored, terminated⟩, by simp [OnlyTerminates]⟩
  | @adjudicated _ _ _ _ judgedId id _ _ session' result _ _ _ found judged updated others =>
      by_cases same : sessionId = judgedId
      · subst same
        obtain rfl := Option.some.inj (found.symm.trans stored)
        have after := terminated.adjudicated judged
        refine ⟨⟨session', updated, after⟩, ?_⟩
        intro _ _ _ _ _ _ message _ replied _
        obtain ⟨_, rfl⟩ := SatelliteOutput.replied.inj replied
        rcases proposalReply_spec id session' result with ⟨_, reason, _, reply⟩ | ⟨running, _⟩
        · exact ⟨reason, reply⟩
        · exact (running after).elim
      · refine ⟨⟨session, (others _ same).trans stored, terminated⟩, ?_⟩
        intro _ _ _ _ _ _ _ _ replied _
        exact (same (SatelliteOutput.replied.inj replied).1.symm).elim
  | upgraded _ _ kept =>
      exact ⟨⟨session, (kept _).trans stored, terminated⟩, by simp [OnlyTerminates]⟩
  | answered _ kept unjudged =>
      refine ⟨⟨session, (kept _).trans stored, terminated⟩, ?_⟩
      intro _ _ _ _ id proposal _ received replied proposes
      obtain ⟨rfl, rfl⟩ := SatelliteOutput.replied.inj replied
      obtain ⟨_, _, _, rfl⟩ := SatelliteEvent.receive.inj received
      rcases unjudged with other | missing
      · exact (other id proposal proposes).elim
      · rw [missing] at stored
        contradiction
  | idle kept quiet =>
      refine ⟨⟨session, (kept _).trans stored, terminated⟩, ?_⟩
      intro _ _ _ _ _ _ _ _ replied _
      rw [replied] at quiet
      contradiction

end Accounts

/-- Over every run of the endpoint, a session created with budget `B` gets at most
`max 0 (⌈B⌉ - 1)` acceptances and at most four rejections, and once a proposal was answered
with termination for exhaustion or suspicion, every later one is answered with termination.
-/
theorem satellite_session_bounded (libraries : SatelliteLibraries) (state : AppState)
    {secret : List UInt8} {trace : List (SatelliteEvent × SatelliteOutput)}
    {final : EndpointState}
    (run : (satelliteEndpoint libraries state).Run (.start secret) trace final)
    {now : DateTime} {sessionId : String} {authorization apiKey : Option String}
    {body : CreateSessionRequest} {response : CreateSessionResponse}
    (created
      : (.createSession now sessionId authorization apiKey body, .created response) ∈ trace)
    : (verdicts sessionId true trace : Int)
          ≤ max 0 (⌈body.trustBudget.getD defaultTrustBudget⌉ - 1)
      ∧ verdicts sessionId false trace ≤ 4
      ∧ ∀ before event reason after,
          trace
              = before ++ (event, .replied sessionId (.sessionTerminated reason)) :: after
          → reason ∈ terminationReasons
          → ∀ entry ∈ after, OnlyTerminates libraries sessionId entry.1 entry.2 := by
  obtain ⟨session, stored⟩ := run_session_of_created run created
  have account := run_account run sessionId
  simp only [Account, stored] at account
  have budget := account.budget _ _ _ _ _ created
  refine ⟨?_, account.balanced.rejected, ?_⟩
  · rcases account.balanced.accepted with none | fewer
    · rw [none]
      exact le_max_left 0 _
    · rw [budget, ← Int.cast_natCast, ← Int.lt_ceil] at fewer
      exact le_max_of_le_right (Int.le_sub_one_of_lt fewer)
  · intro before event reason after whole counted
    rw [whole] at run
    obtain ⟨middle, _, tail⟩ := run.split before _
    obtain ⟨next, stepped, rest⟩ := tail.uncons
    have terminated := terminatedAt_of_reply (endpointStep_transition stepped).1 counted
    exact rest.absorbing (EndpointState.TerminatedAt sessionId)
      (OnlyTerminates libraries sessionId)
      (fun _ _ _ _ holds step => TerminatedAt.step holds (endpointStep_transition step).1)
      terminated

/-- The bytes of a character, as a tag that keeps the text recognisable. -/
def charBytes (c : Char) : List UInt8 :=
  [(c.toNat / 65536).toUInt8, (c.toNat / 256).toUInt8, c.toNat.toUInt8]

/-- The texts of the two proposals the small endpoint understands. -/
def proposalText : String :=
  "\x7b\"type\":\"tool_proposal\",\"id\":\"p-1\",\"tool_name\":\"measure\","
  ++ "\"result_payload\":\"ok\"\x7d"

def strangeText : String :=
  "\x7b\"type\":\"tool_proposal\",\"id\":\"p-2\",\"tool_name\":\"lookup\","
  ++ "\"result_payload\":\"ok\"\x7d"

/-- Libraries for a small endpoint: tags that spell out their text, and a decoder for the two
proposals.
-/
def smallLibraries : SatelliteLibraries where
  decodeJwt _ _ := .error "InvalidToken"
  hmacSha256 _ text := text.toList.flatMap charBytes
  rfc3339 time :=
    if time = 3600 * nanosPerSecond then "1970-01-01T01:00:00+00:00" else toString time
  decodeMessage text :=
    if text = proposalText then .ok (.toolProposal "p-1" "measure" "ok")
    else if text = strangeText then .ok (.toolProposal "p-2" "lookup" "ok")
    else .error "expected value at line 1 column 1"

/-- A tool of the Satellite zone. -/
def measureRegistration : ToolRegistration :=
  {
    name := "measure"
    description := "Measure an element of the page."
    inputSchemaJson := "\x7b\x7d"
    zone := .satellite
    handlerUrl := none
  }

/-- A server with that tool and without authentication. -/
def smallState : AppState :=
  {
    AppState.start asciiTables 0 {} with
    toolRegistry := { tools := AList.insert "measure" measureRegistration ∅ }
  }

/-- A session id. -/
def smallId : String :=
  "00000000-0000-4000-8000-000000000001"

/-- A request for a session with the given budget and the default duration. -/
def smallBody (budget : ℚ) : CreateSessionRequest :=
  { trustBudget := some budget }

/-- The session created at the epoch. -/
def smallSession (budget : ℚ) : SatelliteSession :=
  newSession smallId "anonymous" (smallBody budget) (3600 * nanosPerSecond)

/-- The endpoint with that session. -/
def smallEndpoint (budget : ℚ) : EndpointState :=
  {
    satellite :=
      some
        {
          sessionManager := { sessions := AList.insert smallId (smallSession budget) ∅ }
          serverSecret := []
        }
    sockets := ∅
  }

/-- The response that carries the token of the session. -/
def smallResponse : CreateSessionResponse :=
  {
    sessionId := smallId
    token :=
      generateToken smallLibraries smallId "anonymous"
        (smallLibraries.rfc3339 (3600 * nanosPerSecond)) []
    expiresAt := smallLibraries.rfc3339 (3600 * nanosPerSecond)
  }

/-- Creating the session. -/
def smallCreation (budget : ℚ) : SatelliteEvent × SatelliteOutput :=
  (.createSession 0 smallId none none (smallBody budget), .created smallResponse)

/-- The run that creates the session. -/
theorem smallEndpoint_run (budget : ℚ)
    : (satelliteEndpoint smallLibraries smallState).Run (.start []) [smallCreation budget]
        (smallEndpoint budget) := by
  have uuid : isUuidText smallId = true := by decide
  have fresh : (EndpointState.start []).session? smallId = none := rfl
  have anonymous
      : smallState.ingressGate.authenticate smallLibraries.decodeJwt none none
        = .ok Identity.anonymous :=
    rfl
  have expiry
      : sessionExpiry 0 ((smallBody budget).durationSecs.getD sessionDurationSecs)
        = .ok (3600 * nanosPerSecond) := by
    simp only [smallBody, Option.getD_none]
    decide
  refine .single ?_
  simp only [satelliteEndpoint, endpointStep, uuid, fresh, createSession, anonymous, expiry]
  rfl

/-- An upgrade with the token of the session that the search meets first, before it expires.
-/
theorem upgrade_first_step (libraries : SatelliteLibraries) (state : AppState)
    (endpoint : EndpointState) {configured : SatelliteState}
    (present : endpoint.satellite = some configured) {sessionId : String}
    {session : SatelliteSession}
    (stored : endpoint.session? sessionId = some session) {rest : List String}
    (listed : (sessionId :: rest).Perm endpoint.sessionIds) {socket : Nat}
    (new : socket ∉ endpoint.sockets) {now : DateTime} (alive : now < session.expiresAt)
    : (satelliteEndpoint libraries state).step endpoint
          (.wsUpgrade now (sessionId :: rest) socket
            (generateToken libraries sessionId session.identitySub
              (libraries.rfc3339 session.expiresAt) configured.serverSecret))
      = some
          (
            { endpoint with sockets := endpoint.sockets.insert socket sessionId },
            .upgraded sessionId
          ) := by
  rw [EndpointState.session?, present, Option.bind_some] at stored
  simp [satelliteEndpoint, endpointStep, listed, new, wsUpgrade, present,
    SessionManager.sessionsIter, stored, findSession, tokenFits, validateToken, alive]

/-- Another session, which lasts a minute. -/
def otherId : String :=
  "00000000-0000-4000-8000-000000000002"

def otherBody : CreateSessionRequest :=
  { trustBudget := some 2, durationSecs := some 60 }

def otherSession : SatelliteSession :=
  newSession otherId "anonymous" otherBody (60 * nanosPerSecond + 1)

def otherResponse : CreateSessionResponse :=
  {
    sessionId := otherId
    token :=
      generateToken smallLibraries otherId "anonymous"
        (smallLibraries.rfc3339 (60 * nanosPerSecond + 1)) []
    expiresAt := smallLibraries.rfc3339 (60 * nanosPerSecond + 1)
  }

/-- The endpoint with both sessions. -/
def pairEndpoint (budget : ℚ) (sockets : AList (fun _ : Nat => String)) : EndpointState :=
  {
    satellite :=
      some
        {
          sessionManager :=
            {
              sessions :=
                AList.insert otherId otherSession
                  (AList.insert smallId (smallSession budget) ∅)
            }
          serverSecret := []
        }
    sockets
  }

theorem pairEndpoint_small (budget : ℚ) (sockets : AList (fun _ : Nat => String))
    : (pairEndpoint budget sockets).session? smallId = some (smallSession budget) :=
  rfl

theorem pairEndpoint_other (budget : ℚ) (sockets : AList (fun _ : Nat => String))
    : (pairEndpoint budget sockets).session? otherId = some otherSession :=
  rfl

/-- The second session is created beside the first. -/
theorem pairEndpoint_created (budget : ℚ)
    : (satelliteEndpoint smallLibraries smallState).step (smallEndpoint budget)
          (.createSession 1 otherId none none otherBody)
      = some (pairEndpoint budget ∅, .created otherResponse) := by
  have uuid : isUuidText otherId = true := by decide
  have fresh : (smallEndpoint budget).session? otherId = none := rfl
  have anonymous
      : smallState.ingressGate.authenticate smallLibraries.decodeJwt none none
        = .ok Identity.anonymous :=
    rfl
  have expiry
      : sessionExpiry 1 (otherBody.durationSecs.getD sessionDurationSecs)
        = .ok (60 * nanosPerSecond + 1) := by
    decide
  simp only [satelliteEndpoint, endpointStep, uuid, fresh, createSession, anonymous, expiry]
  rfl

section Sockets

variable (budget : ℚ) {sockets : AList (fun _ : Nat => String)} {socket : Nat}
  {now : DateTime}

theorem pairEndpoint_upgrade_small (new : socket ∉ sockets)
    (alive : now < 3600 * nanosPerSecond)
    : (satelliteEndpoint smallLibraries smallState).step (pairEndpoint budget sockets)
          (.wsUpgrade now [smallId, otherId] socket smallResponse.token)
      = some (pairEndpoint budget (sockets.insert socket smallId), .upgraded smallId) :=
  upgrade_first_step smallLibraries smallState (pairEndpoint budget sockets) rfl
    (pairEndpoint_small budget sockets)
    (.swap _ _ _ : [smallId, otherId].Perm [otherId, smallId]) new alive

theorem pairEndpoint_upgrade_other (new : socket ∉ sockets)
    (alive : now < 60 * nanosPerSecond + 1)
    : (satelliteEndpoint smallLibraries smallState).step (pairEndpoint budget sockets)
          (.wsUpgrade now [otherId, smallId] socket otherResponse.token)
      = some (pairEndpoint budget (sockets.insert socket otherId), .upgraded otherId) :=
  upgrade_first_step smallLibraries smallState (pairEndpoint budget sockets) rfl
    (pairEndpoint_other budget sockets) (.refl _) new alive

end Sockets

/-- Creating both sessions and opening sockets, two for the first. -/
def pairOpening (budget : ℚ) : List (SatelliteEvent × SatelliteOutput) :=
  [
    smallCreation budget,
    (.createSession 1 otherId none none otherBody, .created otherResponse),
    (.wsUpgrade 2 [smallId, otherId] 0 smallResponse.token, .upgraded smallId),
    (.wsUpgrade 3 [otherId, smallId] 1 otherResponse.token, .upgraded otherId),
    (.wsUpgrade 4 [smallId, otherId] 2 smallResponse.token, .upgraded smallId)
  ]

def pairSockets : AList (fun _ : Nat => String) :=
  AList.insert 2 smallId (AList.insert 1 otherId (AList.insert 0 smallId ∅))

theorem pairOpening_run (budget : ℚ)
    : (satelliteEndpoint smallLibraries smallState).Run (.start []) (pairOpening budget)
        (pairEndpoint budget pairSockets) := by
  have run := (smallEndpoint_run budget).snoc (pairEndpoint_created budget)
  have run := run.snoc
    (pairEndpoint_upgrade_small budget (AList.notMem_empty 0)
      (by decide : (2 : Int) < 3600 * nanosPerSecond))
  have run := run.snoc
    (pairEndpoint_upgrade_other budget (by decide : 1 ∉ AList.insert 0 smallId ∅)
      (by decide : (3 : Int) < 60 * nanosPerSecond + 1))
  exact run.snoc
    (pairEndpoint_upgrade_small budget
      (by decide : 2 ∉ AList.insert 1 otherId (AList.insert 0 smallId ∅))
      (by decide : (4 : Int) < 3600 * nanosPerSecond))

/-- Proposals for both sessions, interleaved over the three sockets. -/
def pairEvents : List SatelliteEvent :=
  [
    .receive 5 0 "r-1" proposalText,
    .receive 6 1 "r-2" proposalText,
    .receive 7 2 "r-3" strangeText,
    .receive 8 0 "r-4" proposalText,
    .receive 9 2 "r-5" proposalText,
    .receive 10 1 "r-6" proposalText,
    .receive 11 0 "r-7" proposalText
  ]

/-- What they are answered if the first session has four units. -/
def pairReplies : List SatelliteOutput :=
  [
    .replied smallId (.adjudicationResult "p-1" true none),
    .replied otherId (.adjudicationResult "p-1" true none),
    .replied smallId
      (.adjudicationResult "p-2" false (some "tool 'lookup' is not registered")),
    .replied smallId (.adjudicationResult "p-1" true none),
    .replied smallId (.sessionTerminated "trust budget exhausted"),
    .replied otherId (.sessionTerminated "trust budget exhausted"),
    .replied smallId (.sessionTerminated "trust budget exhausted")
  ]

def pairTrace : List (SatelliteEvent × SatelliteOutput) :=
  pairOpening 4 ++ pairEvents.zip pairReplies

theorem pairTrace_run
    : (satelliteEndpoint smallLibraries smallState).Run (.start []) pairTrace
        ((satelliteEndpoint smallLibraries smallState).stateAfter
          (pairEndpoint 4 pairSockets) pairEvents) :=
  (pairOpening_run 4).fed (by decide +kernel)

/-- A session with four units accepts two proposals, rejects one and is terminated at the
fourth, for both of its sockets.
-/
theorem satellite_session_bounded_example
    : (verdicts smallId true pairTrace : Int)
          ≤ max 0 (⌈(smallBody 4).trustBudget.getD defaultTrustBudget⌉ - 1)
      ∧ verdicts smallId true pairTrace = 2
      ∧ verdicts smallId false pairTrace = 1
      ∧ ∀ before event reason after,
          pairTrace
              = before ++ (event, .replied smallId (.sessionTerminated reason)) :: after
          → reason ∈ terminationReasons
          → ∀ entry ∈ after, OnlyTerminates smallLibraries smallId entry.1 entry.2 := by
  have bounded := satellite_session_bounded smallLibraries smallState pairTrace_run
    (List.mem_append_left _ List.mem_cons_self)
  exact ⟨bounded.1, by decide +kernel, by decide +kernel, bounded.2.2⟩

end Intellisphere.Sphere
